import TreeQuery.Text.Blank

/-!
Environment variables, and files that set them.

A file has lines `name=value`.  Values may be quoted, may contain variables, and may be followed by
a comment; a quoted value may go on over several lines.  A variable that is set already keeps its
value.  The first line that cannot be read ends the file, and what was set before it stays.
-/

namespace TreeQuery

abbrev Environment := List (String × String)

namespace Environment

/-! ## Lines -/

inductive LineState where
  | outside
  | afterBlank
  | escape
  | double
  | doubleEscape
  | single
  | singleEscape
  deriving DecidableEq, Repr

def LineState.ofPlain (c : Char) : LineState :=
  if c = '\\' then .escape
  else if c = '"' then .double
  else if c = '\'' then .single
  else .outside

def LineState.step (c : Char) : LineState → LineState
  | .outside =>
      if Text.isBlank c && c ≠ '\n' && c ≠ '\r' then .afterBlank else LineState.ofPlain c
  | .afterBlank => LineState.ofPlain c
  | .escape => .outside
  | .double => if c = '\\' then .doubleEscape else if c = '"' then .outside else .double
  | .doubleEscape => .double
  | .single => if c = '\\' then .singleEscape else if c = '\'' then .outside else .single
  | .singleEscape => .single

def rawLines : List Char → List (List Char)
  | [] => []
  | c :: rest =>
      if c = '\n' then [c] :: rawLines rest
      else
        match rawLines rest with
        | [] => [[c]]
        | line :: lines =>
            (c :: line) :: lines

/-- What one line adds, and the state behind it; none if a comment ends it. -/
def scanLine : LineState → List Char → List Char × Option LineState
  | state, [] => ([], some state)
  | state, c :: rest =>
      if state = .afterBlank ∧ c = '#' then ([], none)
      else
        let (added, last) := scanLine (state.step c) rest
        (c :: added, last)

def dropBreak (line : List Char) : List Char :=
  match line.reverse with
  | '\n' :: '\r' :: rest => rest.reverse
  | '\n' :: rest => rest.reverse
  | _ => line

def isComment (line : List Char) : Bool := (line.dropWhile Text.isBlank).head? = some '#'

/--
Join raw lines into logical ones: a line goes on while a quote is open.  A logical line that never
ends is given as `none`.
-/
def logicalLines : LineState → List Char → List (List Char) → List (Option (List Char))
  | state, _, [] => if state = .outside then [] else [none]
  | state, done, raw :: rest =>
      if isComment (done ++ raw) then some [] :: logicalLines .outside [] rest
      else
        match scanLine state raw with
        | (added, none) => some (done ++ added) :: logicalLines .outside [] rest
        | (added, some last) =>
            if last = .outside then
              some (dropBreak (done ++ added)) :: logicalLines .outside [] rest
            else logicalLines last (done ++ added) rest

/-! ## Values -/

inductive ValueState where
  | plain
  | single
  | double
  | escape (quoted : Bool)
  | variable (quoted : Bool) (name : List Char)
  | braced (quoted : Bool) (name : List Char)
  | ended

def inside (quoted : Bool) : ValueState := if quoted then .double else .plain

def escaped? (c : Char) : Option Char :=
  if c = '\\' || c = '\'' || c = '"' || c = '$' || c = ' ' then some c
  else if c = 'n' then some '\n'
  else none

def valueOf (environment : Environment) (name : List Char) : List Char :=
  ((environment.lookup (String.ofList name)).getD "").toList

/-- Read a value; `none` if it is not well formed. -/
def readValue (environment : Environment) : ValueState → List Char → Option (List Char)
  | state, [] =>
      match state with
      | .single => none
      | .double => none
      | .braced _ _ => none
      | .escape quoted => if quoted then none else some []
      | .variable quoted name => if quoted then none else some (valueOf environment name)
      | _ => some []
  | state, c :: rest =>
      match state with
      | .ended =>
          if c = ' ' || c = '\t' then readValue environment .ended rest
          else if c = '#' then some []
          else none
      | .escape quoted => do
          pure ((← escaped? c) :: (← readValue environment (inside quoted) rest))
      | .single =>
          if c = '\'' then readValue environment .plain rest
          else do pure (c :: (← readValue environment .single rest))
      | .variable quoted name =>
          if c.isAlphanum then readValue environment (.variable quoted (name ++ [c])) rest
          else if c = '{' && name.isEmpty then readValue environment (.braced quoted []) rest
          else if c = '$' then do
            pure (valueOf environment name ++ (← readValue environment (.variable quoted []) rest))
          else do
            pure (valueOf environment name ++ c :: (← readValue environment (inside quoted) rest))
      | .braced quoted name =>
          if c = '}' then do
            pure (valueOf environment name ++ (← readValue environment (inside quoted) rest))
          else readValue environment (.braced quoted (name ++ [c])) rest
      | .double =>
          if c = '$' then readValue environment (.variable true []) rest
          else if c = '"' then readValue environment .plain rest
          else if c = '\\' then readValue environment (.escape true) rest
          else do pure (c :: (← readValue environment .double rest))
      | .plain =>
          if c = '$' then readValue environment (.variable false []) rest
          else if c = '\'' then readValue environment .single rest
          else if c = '"' then readValue environment .double rest
          else if c = '\\' then readValue environment (.escape false) rest
          else if c = ' ' || c = '\t' then readValue environment .ended rest
          else do pure (c :: (← readValue environment .plain rest))

/-! ## Assignments -/

def isNameStart (c : Char) : Bool := c.isAlpha || c = '_'

def isNameChar (c : Char) : Bool := c.isAlphanum || c = '_' || c = '.'

def skipBlanks (text : List Char) : List Char := text.dropWhile Text.isBlank

def readName (text : List Char) : Option (List Char × List Char) :=
  if text.head?.any isNameStart then
    some (text.takeWhile isNameChar, skipBlanks (text.dropWhile isNameChar))
  else none

def readTarget (text : List Char) : Option (List Char × List Char) := do
  let (name, rest) ← readName text
  match rest with
  | '=' :: value => some (name, value)
  | _ =>
      if String.ofList name = "export" then
        match ← readName rest with
        | (name, '=' :: value) => some (name, value)
        | _ => none
      else none

def trimEnd (line : List Char) : List Char := (line.reverse.dropWhile Text.isBlank).reverse

def takeLine (environment : Environment) (line : List Char) : Option Environment :=
  let text := skipBlanks (trimEnd line)
  if text.isEmpty || text.head? = some '#' then some environment
  else do
    let (name, rest) ← readTarget text
    let written := skipBlanks rest
    let value ←
      if written.isEmpty || written.head? = some '#' then some []
      else readValue environment .plain written
    let name := String.ofList name
    if (environment.lookup name).isSome then some environment
    else some ((name, String.ofList value) :: environment)

def takeLines (environment : Environment) : List (Option (List Char)) → Environment
  | [] => environment
  | none :: _ => environment
  | some line :: rest =>
      match environment.takeLine line with
      | none => environment
      | some environment => environment.takeLines rest

def takeFile (environment : Environment) (text : String) : Environment :=
  let content :=
    match text.toList with
    | c :: rest => if c.toNat = 0xFEFF then rest else c :: rest
    | [] => []
  environment.takeLines (logicalLines .outside [] (rawLines content))

end Environment

end TreeQuery
