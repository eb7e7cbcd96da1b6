/-!
White space in the sense of Unicode's `White_Space` property, and the normal form of a text in
which the ends carry no blank and every run of blanks inside is a single space.
-/

namespace TreeQuery.Text

/-- The 25 code points with the property `White_Space`, as closed ranges in ascending order. -/
def blankRanges : List (Nat × Nat) :=
  [(0x09, 0x0D), (0x20, 0x20), (0x85, 0x85), (0xA0, 0xA0), (0x1680, 0x1680), (0x2000, 0x200A),
    (0x2028, 0x2029), (0x202F, 0x202F), (0x205F, 0x205F), (0x3000, 0x3000)]

def isBlank (c : Char) : Bool :=
  blankRanges.any fun range => range.1 ≤ c.toNat && c.toNat ≤ range.2

/--
Write one space for each run of blanks that stands between two other characters.  `gap` says that
blanks have been read since the last character written; blanks at the end are dropped.
-/
def squeeze : Bool → List Char → List Char
  | _, [] => []
  | gap, c :: rest =>
      if isBlank c then squeeze true rest
      else if gap then ' ' :: c :: squeeze false rest
      else c :: squeeze false rest

def collapse (text : String) : String :=
  String.ofList (squeeze false (text.toList.dropWhile isBlank))

end TreeQuery.Text
