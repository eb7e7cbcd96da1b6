import TreeQuery.Json.Reader

/-!
Reading records: values of a fixed shape, straight from the text.

A record is written as an object, or as a list of its fields in order.  Its fields are read one by
one with readers of their own, so that the first fault of the text decides, be it one of form or of
shape.  Fields that are not given are left as they are, and members with other names are passed
over, but a field may not be given twice.
-/

namespace TreeQuery.Json

/-- Read a value from the front of a text, with room for some more open brackets. -/
abbrev FieldReader (α : Type) := Nat → List Char → Except Fault (α × List Char)

/-- The fault of a value of another shape; a scalar is read first and may be malformed itself. -/
def refuse {α : Type} : List Char → Except Fault α
  | [] => .error .ended
  | '[' :: _ => .error .mismatched
  | '{' :: _ => .error .mismatched
  | text => do
      let _ ← readValue 1 0 text
      .error .mismatched

def readAny : FieldReader Json := fun room text => readValue (stepsFor text) room text

def readText : FieldReader String := fun _ text =>
  match skipSpace text with
  | '"' :: rest => readString [] rest
  | other => refuse other

def readNatural : FieldReader Nat := fun _ text =>
  match skipSpace text with
  | [] => .error .ended
  | c :: rest =>
      if c = '-' || Text.isDigit c then do
        match ← readValue 1 0 (c :: rest) with
        | (.number (.integer value), after) =>
            if 0 ≤ value then pure (value.toNat, after) else .error .mismatched
        | _ => .error .mismatched
      else refuse (c :: rest)

def readObject : FieldReader Members := fun room text =>
  match skipSpace text with
  | '{' :: rest => do
      match ← readAny room ('{' :: rest) with
      | (.object members, after) => pure (members, after)
      | _ => .error .mismatched
  | other => refuse other

def readOptional {α : Type} (read : FieldReader α) : FieldReader (Option α) := fun room text =>
  match skipSpace text with
  | 'n' :: rest => do pure (none, ← readWord ['u', 'l', 'l'] rest)
  | other => do
      let (value, after) ← read room other
      pure (some value, after)

/-- A record: the names of its fields in order, and how a field is read into it. -/
structure RecordReader (σ : Type) where
  names : List String
  read : String → σ → FieldReader σ

namespace RecordReader

variable {σ : Type}

def readMembers (record : RecordReader σ) (room : Nat) :
    Nat → List String → σ → List Char → Except Fault (σ × List Char)
  | 0, _, _, _ => .error .ended
  | steps + 1, seen, state, text => do
      let (name, rest) ← readName text
      if seen.contains name then .error .mismatched
      else
        let (seen, state, rest) ←
          if record.names.contains name then do
            let (state, rest) ← record.read name state room (← readColon rest)
            pure (name :: seen, state, rest)
          else do
            let rest ← readColon rest
            pure (seen, state, ← skipValue (stepsFor rest) rest)
        match ← afterItem '}' rest with
        | (false, rest) => pure (state, rest)
        | (true, rest) => record.readMembers room steps seen state rest

def closeList (state : σ) (text : List Char) : Except Fault (σ × List Char) :=
  match skipSpace text with
  | [] => .error .ended
  | c :: rest => if c = ']' then .ok (state, rest) else .error .malformed

def readItems (record : RecordReader σ) (room : Nat) :
    List String → σ → List Char → Except Fault (σ × List Char)
  | [], state, text => closeList state text
  | name :: names, state, text => do
      let (state, rest) ← record.read name state room text
      if names.isEmpty then closeList state rest
      else
        match ← afterItem ']' rest with
        | (false, rest) => pure (state, rest)
        | (true, rest) => record.readItems room names state rest

def run (record : RecordReader σ) (start : σ) : FieldReader σ := fun room text =>
  match skipSpace text with
  | '{' :: rest =>
      match room with
      | 0 => .error .malformed
      | room + 1 => do
          match ← closesAtOnce '}' rest with
          | (true, rest) => pure (start, rest)
          | (false, rest) => record.readMembers room (stepsFor rest) [] start rest
  | '[' :: rest =>
      match room with
      | 0 => .error .malformed
      | room + 1 => do
          match ← closesAtOnce ']' rest with
          | (true, rest) => pure (start, rest)
          | (false, rest) => record.readItems room record.names start rest
  | other => refuse other

end RecordReader

end TreeQuery.Json
