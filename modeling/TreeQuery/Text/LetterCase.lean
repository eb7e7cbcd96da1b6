import TreeQuery.Text.LetterCase.Table

/-!
The first letter of a name in its other case.  Full mappings are used, so that the other case of
one letter may be several characters (`ß` and `SS`).
-/

namespace TreeQuery.Text

def LetterRun.shifted? (run : LetterRun) (code : Nat) : Option Nat :=
  if run.first ≤ code && code ≤ run.last && (code - run.first) % run.step = 0 then
    some ((code : Int) + run.shift).toNat
  else none

def otherForm? (runs : List LetterRun) (expansions : List (Nat × List Nat)) (c : Char) :
    Option (List Char) :=
  match runs.findSome? (·.shifted? c.toNat) with
  | some code => some [Char.ofNat code]
  | none => (expansions.lookup c.toNat).map (·.map Char.ofNat)

def toLower? (c : Char) : Option (List Char) := otherForm? lowerRuns lowerExpansions c

def toUpper? (c : Char) : Option (List Char) := otherForm? upperRuns upperExpansions c

/-- The name with its first letter in the other case, if that letter has another case. -/
def toggleFirst? (name : String) : Option String :=
  match name.toList with
  | [] => none
  | c :: rest => (toLower? c <|> toUpper? c).map fun form => String.ofList (form ++ rest)

end TreeQuery.Text
