import TreeQuery.Json.Basic
import TreeQuery.Json.Fault
import TreeQuery.Text.Digit

/-!
Numbers in JSON text.

An integer literal that fits is kept exactly.  Every other literal is a float: its leading digits,
as far as they fit in 64 bits, are rounded to a float, which is then multiplied or divided by a
power of ten.
-/

namespace TreeQuery.Json

structure Leading where
  significand : Nat
  exponent : Int
  rest : List Char

def largestWord : Nat := 0xFFFFFFFFFFFFFFFF

/-- Read digits into the significand; the exponent counts those that no longer fit. -/
def wholeDigits : Nat → List Char → Leading
  | significand, [] => ⟨significand, 0, []⟩
  | significand, c :: rest =>
      if Text.isDigit c then
        let next := significand * 10 + Text.digitValue c
        if next ≤ largestWord then wholeDigits next rest
        else
          let digits := (c :: rest).takeWhile Text.isDigit
          ⟨significand, digits.length, (c :: rest).dropWhile Text.isDigit⟩
      else ⟨significand, 0, c :: rest⟩

def fractionDigits : Nat → Int → List Char → Leading
  | significand, exponent, [] => ⟨significand, exponent, []⟩
  | significand, exponent, c :: rest =>
      if Text.isDigit c then
        let next := significand * 10 + Text.digitValue c
        if next ≤ largestWord then fractionDigits next (exponent - 1) rest
        else ⟨significand, exponent, rest.dropWhile Text.isDigit⟩
      else ⟨significand, exponent, c :: rest⟩

def powerOfTen (exponent : Nat) : Float := Float.ofScientific 1 false exponent

/-- Divide by `10 ^ exponent`, in steps of `10 ^ 308`; `fuel` bounds the number of steps. -/
def divideByPower : Nat → Float → Nat → Float
  | 0, value, _ => value
  | fuel + 1, value, exponent =>
      if exponent ≤ 308 then value / powerOfTen exponent
      else if value == 0.0 then value
      else divideByPower fuel (value / powerOfTen 308) (exponent - 308)

/-- The float `significand * 10 ^ exponent`; too large a magnitude is not a number of the format. -/
def scaled (positive : Bool) (significand : Nat) (exponent : Int) : Except Fault Number :=
  let start := significand.toUInt64.toFloat
  let signed (value : Float) : Number := .float (if positive then value else -value)
  if exponent < 0 then .ok (signed (divideByPower 4 start exponent.natAbs))
  else if 308 < exponent then
    if significand = 0 then .ok (signed start) else .error .malformed
  else
    let value := start * powerOfTen exponent.toNat
    if value.isInf then .error .malformed else .ok (signed value)

def largestExponent : Nat := 0x7FFFFFFF

def exponentDigits : Nat → List Char → Option Nat × List Char
  | exponent, [] => (some exponent, [])
  | exponent, c :: rest =>
      if Text.isDigit c then
        let next := exponent * 10 + Text.digitValue c
        if next ≤ largestExponent then exponentDigits next rest
        else (none, rest.dropWhile Text.isDigit)
      else (some exponent, c :: rest)

def clampExponent (exponent : Int) : Int :=
  max (-(largestExponent : Int) - 1) (min largestExponent exponent)

def readExponent (positive : Bool) (leading : Leading) : Except Fault (Number × List Char) :=
  let (negative, digits) :=
    match leading.rest with
    | '+' :: rest => (false, rest)
    | '-' :: rest => (true, rest)
    | rest => (false, rest)
  match digits with
  | [] => .error .ended
  | c :: _ =>
      if Text.isDigit c then
        match exponentDigits 0 digits with
        | (some exponent, rest) => do
            let shift : Int := if negative then -exponent else exponent
            let value ← scaled positive leading.significand (clampExponent (leading.exponent + shift))
            pure (value, rest)
        | (none, rest) =>
            if leading.significand ≠ 0 && !negative then .error .malformed
            else do
              let value ← scaled positive 0 0
              pure (value, rest)
      else .error .malformed

def finishFloat (positive : Bool) (leading : Leading) : Except Fault (Number × List Char) :=
  match leading.rest with
  | 'e' :: rest => readExponent positive { leading with rest }
  | 'E' :: rest => readExponent positive { leading with rest }
  | rest => do
      let value ← scaled positive leading.significand leading.exponent
      pure (value, rest)

def readFraction (positive : Bool) (leading : Leading) : Except Fault (Number × List Char) :=
  match leading.rest with
  | [] => .error .ended
  | c :: _ =>
      if Text.isDigit c then
        finishFloat positive (fractionDigits leading.significand leading.exponent leading.rest)
      else .error .malformed

def wholeNumber (positive : Bool) (significand : Nat) : Number :=
  if positive then .integer significand
  else if significand = 0 || 0x8000000000000000 < significand then
    .float (-significand.toUInt64.toFloat)
  else .integer (-significand)

def readNumber (positive : Bool) : List Char → Except Fault (Number × List Char)
  | [] => .error .ended
  | c :: rest =>
      if c = '0' && (rest.head?.any Text.isDigit) then .error .malformed
      else if Text.isDigit c then
        let leading := wholeDigits (Text.digitValue c) rest
        match leading.rest with
        | '.' :: rest => readFraction positive { leading with rest }
        | _ =>
            if leading.exponent = 0 && !(leading.rest.head?.any fun c => c = 'e' || c = 'E') then
              .ok (wholeNumber positive leading.significand, leading.rest)
            else finishFloat positive leading
      else .error .malformed

def skipNumber : List Char → Except Fault (List Char)
  | [] => .error .malformed
  | c :: rest =>
      if c = '0' && (rest.head?.any Text.isDigit) then .error .malformed
      else if Text.isDigit c then
        let rest := rest.dropWhile Text.isDigit
        match rest with
        | '.' :: fraction =>
            if fraction.head?.any Text.isDigit then skipExponent (fraction.dropWhile Text.isDigit)
            else .error .malformed
        | rest => skipExponent rest
      else .error .malformed
where
  skipExponent : List Char → Except Fault (List Char)
    | c :: rest =>
        if c = 'e' || c = 'E' then
          let digits :=
            match rest with
            | '+' :: more => more
            | '-' :: more => more
            | more => more
          if digits.head?.any Text.isDigit then .ok (digits.dropWhile Text.isDigit) else .error .malformed
        else .ok (c :: rest)
    | [] => .ok []

end TreeQuery.Json
