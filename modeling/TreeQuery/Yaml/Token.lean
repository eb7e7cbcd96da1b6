import TreeQuery.Text.Digit

/-!
The tokens of a YAML text.

Two things are marked in a text without a character of their own: where a block collection begins
and ends, which the indentation shows, and that a scalar is a key, which only the colon behind it
shows.  The scanner therefore keeps the open indentations, and for each bracket level the place
where a key may have begun.  A key that needs no mark of its own stands on one line and is at most
1024 characters away from its colon.

Recursion over the text is bounded by a number of steps taken from its length.
-/

namespace TreeQuery.Yaml

inductive Token where
  | documentStart
  | documentEnd
  | blockSequence
  | blockMapping
  | blockEnd
  | openSequence
  | closeSequence
  | openMapping
  | closeMapping
  | item
  | comma
  | key
  | value
  | scalar (text : String) (plain : Bool)
  deriving DecidableEq, Repr

/-! ## Characters -/

def isPrintable (c : Char) : Bool :=
  let code := c.toNat
  code = 0x09 || code = 0x0A || code = 0x0D || (0x20 ≤ code && code ≤ 0x7E) || code = 0x85 ||
    (0xA0 ≤ code && code ≤ 0xD7FF) || (0xE000 ≤ code && code ≤ 0xFFFD && code ≠ 0xFEFF) ||
    0x10000 ≤ code

def isBreak (c : Char) : Bool := c = '\n' || c.toNat = 0x2028 || c.toNat = 0x2029

def isBlank (c : Char) : Bool := c = ' ' || c = '\t'

def endsWord : Option Char → Bool
  | none => true
  | some c => isBlank c || isBreak c

def unifyBreaks : List Char → List Char
  | [] => []
  | '\r' :: '\n' :: rest => '\n' :: unifyBreaks rest
  | c :: rest =>
      (if c = '\r' || c.toNat = 0x85 then '\n' else c) :: unifyBreaks rest

/-! ## The place in the text -/

structure Cursor where
  text : List Char
  line : Nat := 0
  column : Nat := 0
  index : Nat := 0

namespace Cursor

def peek (cursor : Cursor) : Option Char := cursor.text.head?

def peekAt (cursor : Cursor) (distance : Nat) : Option Char := cursor.text[distance]?

def advance (cursor : Cursor) : Cursor :=
  match cursor.text with
  | [] => cursor
  | c :: rest =>
      if isBreak c then ⟨rest, cursor.line + 1, 0, cursor.index + 1⟩
      else ⟨rest, cursor.line, cursor.column + 1, cursor.index + 1⟩

def advanceBy : Nat → Cursor → Cursor
  | 0, cursor => cursor
  | count + 1, cursor => advanceBy count cursor.advance

def atDocumentMark (mark : Char) (cursor : Cursor) : Bool :=
  cursor.column = 0 && cursor.text.take 3 == [mark, mark, mark] && endsWord (cursor.peekAt 3)

def atAnyDocumentMark (cursor : Cursor) : Bool :=
  cursor.atDocumentMark '-' || cursor.atDocumentMark '.'

end Cursor

/-! ## Scalars -/

structure Gap where
  blanks : List Char := []
  breaks : List Char := []

namespace Gap

/-- What the gap contributes to the scalar: one line break folds to a space. -/
def text (gap : Gap) : List Char :=
  match gap.breaks with
  | [] => gap.blanks
  | ['\n'] => [' ']
  | '\n' :: more => more
  | breaks => breaks

def spansLines (gap : Gap) : Bool := !gap.breaks.isEmpty

def push (gap : Gap) (c : Char) : Gap :=
  if isBreak c then { blanks := [], breaks := gap.breaks ++ [c] }
  else if gap.spansLines then gap
  else { gap with blanks := gap.blanks ++ [c] }

end Gap

def readGap : Nat → Gap → Cursor → Gap × Cursor
  | 0, gap, cursor => (gap, cursor)
  | steps + 1, gap, cursor =>
      match cursor.peek with
      | some c =>
          if isBlank c || isBreak c then readGap steps (gap.push c) cursor.advance
          else (gap, cursor)
      | none => (gap, cursor)

/-- As `readGap`, for a plain scalar: a tab may not stand in its indentation. -/
def readPlainGap (indent : Int) : Nat → Gap → Cursor → Option (Gap × Cursor)
  | 0, gap, cursor => some (gap, cursor)
  | steps + 1, gap, cursor =>
      match cursor.peek with
      | some c =>
          if isBlank c || isBreak c then
            if c = '\t' && gap.spansLines && (cursor.column : Int) < indent then none
            else readPlainGap indent steps (gap.push c) cursor.advance
          else some (gap, cursor)
      | none => some (gap, cursor)

def isFlowMark (c : Char) : Bool :=
  c = ',' || c = '[' || c = ']' || c = '{' || c = '}'

def readPlainWord (inFlow : Bool) : Nat → List Char → Cursor → Option (List Char × Cursor)
  | 0, done, cursor => some (done, cursor)
  | steps + 1, done, cursor =>
      match cursor.peek with
      | none => some (done, cursor)
      | some c =>
          let next := cursor.peekAt 1
          if endsWord (some c) then some (done, cursor)
          else if inFlow && c = ':' && next.any fun d => isFlowMark d || d = '?' then none
          else if (c = ':' && endsWord next) || (inFlow && isFlowMark c) then some (done, cursor)
          else readPlainWord inFlow steps (c :: done) cursor.advance

def readPlain (inFlow : Bool) (indent : Int) :
    Nat → List Char → Gap → Cursor → Option (String × Bool × Cursor)
  | 0, _, _, _ => none
  | steps + 1, done, gap, cursor =>
      let finish := some (String.ofList done.reverse, gap.spansLines, cursor)
      if cursor.atAnyDocumentMark || cursor.peek = some '#' then finish
      else do
        let (word, after) ← readPlainWord inFlow (cursor.text.length + 1) [] cursor
        if word.isEmpty then finish
        else
          let done := word ++ (gap.text.reverse ++ done)
          if endsWord after.peek && after.peek.isSome then
            let (gap, next) ← readPlainGap indent (after.text.length + 1) {} after
            if !inFlow && (next.column : Int) < indent then
              some (String.ofList done.reverse, gap.spansLines, next)
            else readPlain inFlow indent steps done gap next
          else some (String.ofList done.reverse, false, after)

def escape? (c : Char) : Option Char :=
  match c with
  | '0' => some (Char.ofNat 0)
  | 'a' => some (Char.ofNat 7)
  | 'b' => some (Char.ofNat 8)
  | 't' => some '\t'
  | '\t' => some '\t'
  | 'n' => some '\n'
  | 'v' => some (Char.ofNat 11)
  | 'f' => some (Char.ofNat 12)
  | 'r' => some '\r'
  | 'e' => some (Char.ofNat 27)
  | ' ' => some ' '
  | '"' => some '"'
  | '/' => some '/'
  | '\\' => some '\\'
  | 'N' => some (Char.ofNat 0x85)
  | '_' => some (Char.ofNat 0xA0)
  | 'L' => some (Char.ofNat 0x2028)
  | 'P' => some (Char.ofNat 0x2029)
  | _ => none

def escapeWidth? (c : Char) : Option Nat :=
  match c with
  | 'x' => some 2
  | 'u' => some 4
  | 'U' => some 8
  | _ => none

def hexChar? (digits : List Char) (width : Nat) : Option Char := do
  if digits.length < width then none
  let values ← digits.mapM Text.hexDigit?
  let code := values.foldl (fun code value => code * 16 + value) 0
  if (0xD800 ≤ code && code ≤ 0xDFFF) || 0x10FFFF < code then none else some (Char.ofNat code)

/-- Read one word of a quoted scalar; the flag says that an escaped line break ended it. -/
def readQuotedWord (single : Bool) : Nat → List Char → Cursor → Option (List Char × Bool × Cursor)
  | 0, _, _ => none
  | steps + 1, done, cursor =>
      match cursor.peek with
      | none => some (done, false, cursor)
      | some c =>
          if endsWord (some c) then some (done, false, cursor)
          else if single then
            if c = '\'' then
              if cursor.peekAt 1 = some '\'' then
                readQuotedWord single steps ('\'' :: done) (cursor.advanceBy 2)
              else some (done, false, cursor)
            else readQuotedWord single steps (c :: done) cursor.advance
          else if c = '"' then some (done, false, cursor)
          else if c = '\\' then
            match cursor.peekAt 1 with
            | none => none
            | some d =>
                if isBreak d then some (done, true, cursor.advanceBy 2)
                else
                  match escapeWidth? d with
                  | some width => do
                      let after := cursor.advanceBy 2
                      let escaped ← hexChar? (after.text.take width) width
                      readQuotedWord single steps (escaped :: done) (after.advanceBy width)
                  | none => do
                      let escaped ← escape? d
                      readQuotedWord single steps (escaped :: done) (cursor.advanceBy 2)
          else readQuotedWord single steps (c :: done) cursor.advance

def readQuoted (single : Bool) : Nat → List Char → Cursor → Option (String × Cursor)
  | 0, _, _ => none
  | steps + 1, done, cursor =>
      if cursor.atAnyDocumentMark || cursor.text.isEmpty then none
      else do
        let (done, folded, after) ← readQuotedWord single (cursor.text.length + 1) done cursor
        let quote := if single then '\'' else '"'
        if after.peek = some quote then some (String.ofList done.reverse, after.advance)
        else
          let (gap, next) := readGap (after.text.length + 1) {} after
          -- behind an escaped line break only further line breaks count
          let text := if folded then gap.breaks else gap.text
          readQuoted single steps (text.reverse ++ done) next

/-! ## The scanner -/

/-- Where a key may have begun, and how many tokens stood before it. -/
structure PossibleKey where
  tokens : Nat
  line : Nat
  column : Nat
  index : Nat
  required : Bool

structure Scanner where
  cursor : Cursor
  tokens : List Token := []
  depth : Nat := 0
  keys : List (Option PossibleKey) := [none]
  keyAllowed : Bool := true
  indent : Int := -1
  indents : List Int := []

namespace Scanner

def inFlow (scanner : Scanner) : Bool := 0 < scanner.depth

def push (token : Token) (scanner : Scanner) : Scanner :=
  { scanner with tokens := token :: scanner.tokens }

def skipBlanks : Nat → Scanner → Scanner
  | 0, scanner => scanner
  | steps + 1, scanner =>
      match scanner.cursor.peek with
      | none => scanner
      | some c =>
          if c = ' ' || (c = '\t' && (scanner.inFlow || !scanner.keyAllowed)) then
            skipBlanks steps { scanner with cursor := scanner.cursor.advance }
          else if c = '#' then
            let comment := scanner.cursor.text.takeWhile fun d => !isBreak d
            skipBlanks steps { scanner with cursor := scanner.cursor.advanceBy comment.length }
          else if isBreak c then
            skipBlanks steps
              { scanner with
                cursor := scanner.cursor.advance
                keyAllowed := scanner.keyAllowed || !scanner.inFlow }
          else scanner

/-- Give up the keys that are too far away; a required one must not be. -/
def dropStaleKeys (scanner : Scanner) : Option Scanner := do
  let keys ← scanner.keys.mapM fun key =>
    match key with
    | none => some none
    | some key =>
        if key.line < scanner.cursor.line || key.index + 1024 < scanner.cursor.index then
          if key.required then none else some none
        else some (some key)
  pure { scanner with keys }

def removeKey (scanner : Scanner) : Option Scanner :=
  match scanner.keys with
  | [] => some scanner
  | none :: _ => some scanner
  | some key :: outer =>
      if key.required then none else some { scanner with keys := none :: outer }

def saveKey (scanner : Scanner) : Option Scanner :=
  if scanner.keyAllowed then do
    let scanner ← scanner.removeKey
    let cursor := scanner.cursor
    let key : PossibleKey :=
      { tokens := scanner.tokens.length
        line := cursor.line
        column := cursor.column
        index := cursor.index
        required := !scanner.inFlow && scanner.indent = (cursor.column : Int) }
    pure { scanner with keys := some key :: scanner.keys.drop 1 }
  else some scanner

def closeBlocks (column : Int) : List Int → Scanner → Scanner
  | [], scanner => scanner
  | outer :: more, scanner =>
      if column < scanner.indent then
        closeBlocks column more
          { scanner.push .blockEnd with indent := outer, indents := more }
      else scanner

def unroll (column : Int) (scanner : Scanner) : Scanner :=
  if scanner.inFlow then scanner else closeBlocks column scanner.indents scanner

/-- Open a block collection at `column`, in front of the last `behind` tokens. -/
def roll (column : Nat) (behind : Nat) (token : Token) (scanner : Scanner) : Scanner :=
  if !scanner.inFlow && scanner.indent < (column : Int) then
    { scanner with
      tokens := scanner.tokens.take behind ++ token :: scanner.tokens.drop behind
      indents := scanner.indent :: scanner.indents
      indent := column }
  else scanner

def advanceBy (count : Nat) (scanner : Scanner) : Scanner :=
  { scanner with cursor := scanner.cursor.advanceBy count }

def documentMark (token : Token) (scanner : Scanner) : Option Scanner := do
  let scanner ← (scanner.unroll (-1)).removeKey
  pure ({ scanner.push token with keyAllowed := false }.advanceBy 3)

def openFlow (token : Token) (scanner : Scanner) : Option Scanner := do
  let scanner ← scanner.saveKey
  pure
    ({ scanner.push token with
        depth := scanner.depth + 1
        keys := none :: scanner.keys
        keyAllowed := true }.advanceBy 1)

def closeFlow (token : Token) (scanner : Scanner) : Option Scanner := do
  let scanner ← scanner.removeKey
  let scanner :=
    if scanner.inFlow then
      { scanner with depth := scanner.depth - 1, keys := scanner.keys.drop 1 }
    else scanner
  pure ({ scanner.push token with keyAllowed := false }.advanceBy 1)

def comma (scanner : Scanner) : Option Scanner := do
  let scanner ← scanner.removeKey
  pure ({ scanner.push .comma with keyAllowed := true }.advanceBy 1)

def item (scanner : Scanner) : Option Scanner := do
  if !scanner.inFlow && !scanner.keyAllowed then none
  let scanner ← (scanner.roll scanner.cursor.column 0 .blockSequence).removeKey
  pure ({ scanner.push .item with keyAllowed := true }.advanceBy 1)

def markedKey (scanner : Scanner) : Option Scanner := do
  if !scanner.inFlow && !scanner.keyAllowed then none
  let scanner ← (scanner.roll scanner.cursor.column 0 .blockMapping).removeKey
  pure ({ scanner.push .key with keyAllowed := !scanner.inFlow }.advanceBy 1)

/-- A colon: what stands before it on the line is a key. -/
def value (scanner : Scanner) : Option Scanner :=
  match scanner.keys with
  | some key :: outer =>
      let behind := scanner.tokens.length - key.tokens
      let scanner :=
        { scanner with
          tokens := scanner.tokens.take behind ++ Token.key :: scanner.tokens.drop behind
          keys := none :: outer
          keyAllowed := false }
      some (((scanner.roll key.column (behind + 1) .blockMapping).push .value).advanceBy 1)
  | _ => do
      if !scanner.inFlow && !scanner.keyAllowed then none
      let scanner := scanner.roll scanner.cursor.column 0 .blockMapping
      pure ({ scanner.push .value with keyAllowed := !scanner.inFlow }.advanceBy 1)

def quoted (single : Bool) (scanner : Scanner) : Option Scanner := do
  let scanner ← scanner.saveKey
  let start := scanner.cursor.advance
  let (text, cursor) ← readQuoted single (start.text.length + 1) [] start
  pure { scanner.push (.scalar text false) with cursor, keyAllowed := false }

def plain (scanner : Scanner) : Option Scanner := do
  let scanner ← scanner.saveKey
  let start := scanner.cursor
  let (text, endsLine, cursor) ←
    readPlain scanner.inFlow (scanner.indent + 1) (start.text.length + 1) [] {} start
  pure { scanner.push (.scalar text true) with cursor, keyAllowed := endsLine }

def indicators : List Char :=
  ['-', '?', ':', ',', '[', ']', '{', '}', '#', '&', '*', '!', '|', '>', '\'', '"', '%', '@',
    Char.ofNat 0x60]

def token (c : Char) (scanner : Scanner) : Option Scanner :=
  let cursor := scanner.cursor
  let alone := endsWord (cursor.peekAt 1)
  if cursor.column = 0 && c = '%' then none
  else if cursor.atDocumentMark '-' then scanner.documentMark .documentStart
  else if cursor.atDocumentMark '.' then scanner.documentMark .documentEnd
  else if c = '[' then scanner.openFlow .openSequence
  else if c = '{' then scanner.openFlow .openMapping
  else if c = ']' then scanner.closeFlow .closeSequence
  else if c = '}' then scanner.closeFlow .closeMapping
  else if c = ',' then scanner.comma
  else if c = '-' && alone then scanner.item
  else if c = '?' && (scanner.inFlow || alone) then scanner.markedKey
  else if c = ':' && (scanner.inFlow || alone) then scanner.value
  else if c = '\'' then scanner.quoted true
  else if c = '"' then scanner.quoted false
  else if !(isBlank c || indicators.contains c) || c = '-' ||
      (!scanner.inFlow && (c = '?' || c = ':')) then
    scanner.plain
  else none

def finish (scanner : Scanner) : Option (List Token) := do
  let scanner ← (scanner.unroll (-1)).removeKey
  pure scanner.tokens.reverse

def run : Nat → Scanner → Option (List Token)
  | 0, _ => none
  | steps + 1, scanner => do
      let scanner ← (skipBlanks (scanner.cursor.text.length + 1) scanner).dropStaleKeys
      let scanner := scanner.unroll scanner.cursor.column
      match scanner.cursor.peek with
      | none => scanner.finish
      | some c => run steps (← scanner.token c)

end Scanner

/-- The tokens of a text, if it can be split into tokens; a byte order mark may come first. -/
def tokens? (text : String) : Option (List Token) :=
  let chars :=
    match text.toList with
    | [] => []
    | c :: rest => if c.toNat = 0xFEFF then rest else c :: rest
  if chars.all isPrintable then
    let chars := unifyBreaks chars
    Scanner.run (chars.length + 2) { cursor := ⟨chars, 0, 0, 0⟩ }
  else none

end TreeQuery.Yaml
