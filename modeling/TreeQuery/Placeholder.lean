import TreeQuery.Bindings

/-!
Placeholders: named parameters in a statement's text, and their replacement by positions.

A text is taken apart into quoted literals, casts, placeholders and other characters.  Only
placeholders are replaced; a name that occurs again keeps its position.
-/

namespace TreeQuery

inductive Lexeme where
  /-- The text between two quotes, quotes included; without a closing quote it runs to the end. -/
  | literal (text : List Char)
  | cast
  | placeholder (name : List Char)
  | other (c : Char)
  deriving DecidableEq, Repr

namespace Lexeme

def isNameChar (c : Char) : Bool :=
  ('a' ≤ c && c ≤ 'z') || ('A' ≤ c && c ≤ 'Z') || ('0' ≤ c && c ≤ '9') || c = '_'

def text : Lexeme → List Char
  | .literal text => text
  | .cast => [':', ':']
  | .placeholder name => ':' :: name
  | .other c => [c]

def splitLiteral : List Char → List Char × List Char
  | [] => ([], [])
  | '\'' :: '\'' :: rest =>
      let (inside, after) := splitLiteral rest
      ('\'' :: '\'' :: inside, after)
  | c :: rest =>
      if c = '\'' then ([c], rest)
      else
        let (inside, after) := splitLiteral rest
        (c :: inside, after)

theorem splitLiteral_length (text : List Char) :
    (splitLiteral text).2.length ≤ text.length := by
  fun_induction splitLiteral text <;> simp_all <;> omega

def scan (text : List Char) : List Lexeme :=
  match text with
  | [] => []
  | ':' :: ':' :: rest => .cast :: scan rest
  | c :: rest =>
      if c = '\'' then
        have : (splitLiteral rest).2.length ≤ rest.length := splitLiteral_length rest
        .literal (c :: (splitLiteral rest).1) :: scan (splitLiteral rest).2
      else if c = ':' && rest.head?.any isNameChar then
        have : (rest.dropWhile isNameChar).length ≤ rest.length :=
          (List.dropWhile_sublist isNameChar).length_le
        .placeholder (rest.takeWhile isNameChar) :: scan (rest.dropWhile isNameChar)
      else .other c :: scan rest
termination_by text.length

def name? : Lexeme → Option String
  | .placeholder name => some (String.ofList name)
  | _ => none

end Lexeme

inductive PlaceholderError where
  | missing (name : String)
  | unused (name : String)
  deriving DecidableEq, Repr

def PlaceholderError.message : PlaceholderError → String
  | .missing name => "Missing binding for placeholder :" ++ name
  | .unused name => "Binding '" ++ name ++ "' is not referenced by the statement"

structure Positional where
  sql : String
  values : List Json

namespace Positional

def distinct (names : List String) : List String := names.eraseDups

def replace (names : List String) (lexeme : Lexeme) : List Char :=
  match lexeme.name? with
  | some name => '$' :: (toString (names.idxOf name + 1)).toList
  | none => lexeme.text

/-- Number the placeholders of a text in the order of their first occurrence. -/
def ofNamed (sql : String) (bindings : Bindings) : Except PlaceholderError Positional :=
  let lexemes := Lexeme.scan sql.toList
  let names := distinct (lexemes.filterMap Lexeme.name?)
  match names.find? fun name => !bindings.has name with
  | some name => .error (.missing name)
  | none =>
      match bindings.names.find? fun name => !names.contains name with
      | some name => .error (.unused name)
      | none =>
          .ok
            { sql := String.ofList (lexemes.flatMap (replace names))
              values := names.filterMap bindings.get? }

end Positional

end TreeQuery
