/-!
The shortest decimal that reads back as a given binary float.

A finite float is `mantissa * 2 ^ exponent`.  The reals that round to it form an interval around
it, whose ends belong to it when the mantissa is even.  Among the decimals in that interval those
with the fewest digits are wanted, and of these the one nearest to the float.  If a grid of
decimals with a fixed number of digits meets the interval at all, then it does so at one of the
two grid points next to the float, so only these two are tried, for one digit, two digits, and so
on; seventeen digits always suffice.
-/

namespace TreeQuery.Decimal

structure Scaled where
  digits : Nat
  exponent : Int
  deriving DecidableEq, Repr

/-- A positive rational with the interval of reals that round to it, over one denominator. -/
structure Rounding where
  value : Nat
  low : Nat
  high : Nat
  denominator : Nat
  closed : Bool

def Rounding.ofBits (bits : UInt64) : Rounding :=
  let fraction := bits.toNat % Nat.pow 2 52
  let biased := bits.toNat / Nat.pow 2 52 % Nat.pow 2 11
  let mantissa := if biased = 0 then fraction else fraction + Nat.pow 2 52
  -- quarters of a unit in the last place, so that all three numbers are integers
  let below := if fraction = 0 && 1 < biased then 1 else 2
  let power := if biased = 0 then 1 else biased
  let scaleUp := Nat.pow 2 (power - 1077)
  let scaleDown := Nat.pow 2 (1077 - power)
  { value := 4 * mantissa * scaleUp
    low := (4 * mantissa - below) * scaleUp
    high := (4 * mantissa + 2) * scaleUp
    denominator := scaleDown
    closed := mantissa % 2 = 0 }

def digitCount (n : Nat) : Nat := (Nat.toDigits 10 n).length

def Rounding.magnitude (r : Rounding) : Int :=
  if r.denominator ≤ r.value then (digitCount (r.value / r.denominator) : Int) - 1
  else
    let count := digitCount (r.denominator / r.value)
    if r.denominator ≤ r.value * Nat.pow 10 (count - 1) then 1 - (count : Int)
    else -(count : Int)

/-- Whether `digits * 10 ^ exponent` rounds to the float, and its distance from it. -/
def Rounding.admits (r : Rounding) (decimal : Scaled) : Option Nat :=
  let up := Nat.pow 10 decimal.exponent.toNat
  let down := Nat.pow 10 (-decimal.exponent).toNat
  let point := decimal.digits * up * r.denominator
  let low := r.low * down
  let high := r.high * down
  let inside :=
    if r.closed then low ≤ point && point ≤ high else low < point && point < high
  if inside then some ((point - r.value * down) + (r.value * down - point)) else none

/-- The nearer of the two neighbours of the float with `count` digits that rounds to it. -/
def Rounding.onGrid (r : Rounding) (count : Nat) : Option Scaled :=
  let exponent := r.magnitude - count + 1
  let floor :=
    r.value * Nat.pow 10 (-exponent).toNat / (r.denominator * Nat.pow 10 exponent.toNat)
  let lower : Scaled := ⟨floor, exponent⟩
  let upper : Scaled := ⟨floor + 1, exponent⟩
  match r.admits lower, r.admits upper with
  | some a, some b =>
      if a < b || (a = b && floor % 2 = 0) then some lower else some upper
  | some _, none => some lower
  | none, some _ => some upper
  | none, none => none

def Scaled.trim : Nat → Scaled → Scaled
  | 0, decimal => decimal
  | fuel + 1, decimal =>
      if decimal.digits % 10 = 0 && decimal.digits ≠ 0 then
        Scaled.trim fuel ⟨decimal.digits / 10, decimal.exponent + 1⟩
      else decimal

def shortest (bits : UInt64) : Scaled :=
  let rounding := Rounding.ofBits bits
  let found := (List.range 17).findSome? fun count => rounding.onGrid (count + 1)
  (found.getD ⟨0, 0⟩).trim 17

/--
How a decimal is laid out.  The point stands `place` digits after the first digit's place; between
`least` and `most` (both included) it is written where it stands, elsewhere the number is written
with one digit before the point and an exponent.
-/
structure Layout where
  least : Int
  most : Int

def mantissaText : List Char → String
  | [] => ""
  | [digit] => String.ofList [digit]
  | digit :: rest => String.ofList (digit :: '.' :: rest)

def Layout.render (layout : Layout) (decimal : Scaled) : String :=
  let digits := Nat.toDigits 10 decimal.digits
  let place := (digits.length : Int) + decimal.exponent
  if layout.least ≤ place && place ≤ layout.most then
    if place ≤ 0 then
      String.ofList ('0' :: '.' :: (List.replicate (-place).toNat '0' ++ digits))
    else if 0 ≤ decimal.exponent then
      String.ofList (digits ++ List.replicate decimal.exponent.toNat '0' ++ ['.', '0'])
    else
      String.ofList (digits.take place.toNat ++ '.' :: digits.drop place.toNat)
  else
    let exponent := place - 1
    let sign := if 0 ≤ exponent then "+" else "-"
    mantissaText digits ++ "e" ++ sign ++ toString exponent.natAbs

end TreeQuery.Decimal
