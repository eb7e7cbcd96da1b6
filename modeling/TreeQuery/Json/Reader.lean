import TreeQuery.Json.Number

/-!
Reading JSON text.

`Json.parse` reads a whole text as one value.  The functions below it read one piece from the front
of a text and return what is left, so that a reader of a fixed shape can take a text apart piece by
piece and stop at the first fault.

`room` is the number of brackets that may still be opened at one time.  Recursion over the text is
bounded by a number of steps that `Json.parse` takes from the length of the text: each step of a
reader passes at least one character.
-/

namespace TreeQuery.Json

def maxDepth : Nat := 127

def isSpace (c : Char) : Bool := c = ' ' || c = '\n' || c = '\t' || c = '\r'

def skipSpace (text : List Char) : List Char := text.dropWhile isSpace

def readWord : List Char → List Char → Except Fault (List Char)
  | [], text => .ok text
  | _ :: _, [] => .error .ended
  | expected :: word, c :: text =>
      if c = expected then readWord word text else .error .malformed

/-- The four hexadecimal digits of an escape; fewer than four bytes of text cannot hold them. -/
def readHex (text : List Char) : Except Fault Nat :=
  if (text.take 4).foldl (fun size c => size + c.utf8Size) 0 < 4 then .error .ended
  else
    match (text.take 4).mapM Text.hexDigit? with
    | some digits => .ok (digits.foldl (fun value digit => value * 16 + digit) 0)
    | none => .error .malformed

def isHighSurrogate (code : Nat) : Bool := 0xD800 ≤ code && code ≤ 0xDBFF

def isLowSurrogate (code : Nat) : Bool := 0xDC00 ≤ code && code ≤ 0xDFFF

def readLowSurrogate (text : List Char) : Except Fault Nat :=
  match text with
  | [] => .error .ended
  | c :: rest =>
      if c ≠ '\\' then .error .malformed
      else
        match rest with
        | [] => .error .ended
        | d :: digits =>
            if d ≠ 'u' then .error .malformed
            else do
              let code ← readHex digits
              if isLowSurrogate code then pure code else .error .malformed

def readEscape (text : List Char) : Except Fault (Char × Nat) :=
  match text with
  | [] => .error .ended
  | c :: rest =>
      match c with
      | '"' => .ok ('"', 1)
      | '\\' => .ok ('\\', 1)
      | '/' => .ok ('/', 1)
      | 'b' => .ok (Char.ofNat 8, 1)
      | 'f' => .ok (Char.ofNat 12, 1)
      | 'n' => .ok ('\n', 1)
      | 'r' => .ok ('\r', 1)
      | 't' => .ok ('\t', 1)
      | 'u' => do
          let code ← readHex rest
          if isLowSurrogate code then .error .malformed
          else if isHighSurrogate code then
            let low ← readLowSurrogate (rest.drop 4)
            pure (Char.ofNat ((code - 0xD800) * 0x400 + (low - 0xDC00) + 0x10000), 11)
          else pure (Char.ofNat code, 5)
      | _ => .error .malformed

def readString (done : List Char) (text : List Char) : Except Fault (String × List Char) :=
  match text with
  | [] => .error .ended
  | c :: rest =>
      if c = '"' then .ok (String.ofList done.reverse, rest)
      else if c = '\\' then
        match readEscape rest with
        | .error fault => .error fault
        | .ok (escaped, count) => readString (escaped :: done) (rest.drop count)
      else if c.toNat < 32 then .error .malformed
      else readString (c :: done) rest
termination_by text.length

/-- Pass over a string from behind its opening quote; escapes need not denote characters. -/
def skipString (text : List Char) : Except Fault (List Char) :=
  match text with
  | [] => .error .ended
  | c :: rest =>
      if c = '"' then .ok rest
      else if c = '\\' then
        match rest with
        | [] => .error .ended
        | 'u' :: digits =>
            match readHex digits with
            | .error fault => .error fault
            | .ok _ => skipString (digits.drop 4)
        | d :: more =>
            if ['"', '\\', '/', 'b', 'f', 'n', 'r', 't'].contains d then skipString more
            else .error .malformed
      else if c.toNat < 32 then .error .malformed
      else skipString rest
termination_by text.length

def afterItem (closing : Char) (text : List Char) : Except Fault (Bool × List Char) :=
  match skipSpace text with
  | [] => .error .ended
  | c :: rest =>
      if c = closing then .ok (false, rest)
      else if c = ',' then
        match skipSpace rest with
        | [] => .error .ended
        | d :: more => if d = closing then .error .malformed else .ok (true, d :: more)
      else .error .malformed

def closesAtOnce (closing : Char) (text : List Char) : Except Fault (Bool × List Char) :=
  match skipSpace text with
  | [] => .error .ended
  | c :: rest => if c = closing then .ok (true, rest) else .ok (false, c :: rest)

def readName (text : List Char) : Except Fault (String × List Char) :=
  match skipSpace text with
  | '"' :: rest => readString [] rest
  | [] => .error .ended
  | _ => .error .malformed

def readColon (text : List Char) : Except Fault (List Char) :=
  match skipSpace text with
  | ':' :: rest => .ok rest
  | [] => .error .ended
  | _ => .error .malformed

mutual

def readValue : Nat → Nat → List Char → Except Fault (Json × List Char)
  | 0, _, _ => .error .ended
  | steps + 1, room, text =>
      match skipSpace text with
      | [] => .error .ended
      | c :: rest =>
          match c with
          | 'n' => do pure (.null, ← readWord ['u', 'l', 'l'] rest)
          | 't' => do pure (.bool true, ← readWord ['r', 'u', 'e'] rest)
          | 'f' => do pure (.bool false, ← readWord ['a', 'l', 's', 'e'] rest)
          | '"' => do
              let (content, rest) ← readString [] rest
              pure (.string content, rest)
          | '-' => do
              let (value, rest) ← readNumber false rest
              pure (.number value, rest)
          | '[' =>
              match room with
              | 0 => .error .malformed
              | room + 1 => do
                  match ← closesAtOnce ']' rest with
                  | (true, rest) => pure (.array [], rest)
                  | (false, rest) =>
                      let (items, rest) ← readItems steps room rest
                      pure (.array items, rest)
          | '{' =>
              match room with
              | 0 => .error .malformed
              | room + 1 => do
                  match ← closesAtOnce '}' rest with
                  | (true, rest) => pure (.object [], rest)
                  | (false, rest) =>
                      let (members, rest) ← readMembers steps room rest
                      pure (.object (Members.ofList members), rest)
          | _ =>
              if Text.isDigit c then do
                let (value, rest) ← readNumber true (c :: rest)
                pure (.number value, rest)
              else .error .malformed

def readItems : Nat → Nat → List Char → Except Fault (List Json × List Char)
  | 0, _, _ => .error .ended
  | steps + 1, room, text => do
      let (item, rest) ← readValue steps room text
      match ← afterItem ']' rest with
      | (false, rest) => pure ([item], rest)
      | (true, rest) =>
          let (items, rest) ← readItems steps room rest
          pure (item :: items, rest)

def readMembers : Nat → Nat → List Char → Except Fault (List (String × Json) × List Char)
  | 0, _, _ => .error .ended
  | steps + 1, room, text => do
      let (name, rest) ← readName text
      let rest ← readColon rest
      let (value, rest) ← readValue steps room rest
      match ← afterItem '}' rest with
      | (false, rest) => pure ([(name, value)], rest)
      | (true, rest) =>
          let (members, rest) ← readMembers steps room rest
          pure ((name, value) :: members, rest)

end

mutual

/-- Pass over a value that is not wanted; brackets may nest to any depth. -/
def skipValue : Nat → List Char → Except Fault (List Char)
  | 0, _ => .error .ended
  | steps + 1, text =>
      match skipSpace text with
      | [] => .error .ended
      | c :: rest =>
          match c with
          | 'n' => readWord ['u', 'l', 'l'] rest
          | 't' => readWord ['r', 'u', 'e'] rest
          | 'f' => readWord ['a', 'l', 's', 'e'] rest
          | '"' => skipString rest
          | '-' => skipNumber rest
          | '[' => do
              match ← closesAtOnce ']' rest with
              | (true, rest) => pure rest
              | (false, rest) => skipItems steps rest
          | '{' => do
              match ← closesAtOnce '}' rest with
              | (true, rest) => pure rest
              | (false, rest) => skipMembers steps rest
          | _ => if Text.isDigit c then skipNumber (c :: rest) else .error .malformed

def skipItems : Nat → List Char → Except Fault (List Char)
  | 0, _ => .error .ended
  | steps + 1, text => do
      let rest ← skipValue steps text
      match ← afterItem ']' rest with
      | (false, rest) => pure rest
      | (true, rest) => skipItems steps rest

def skipMembers : Nat → List Char → Except Fault (List Char)
  | 0, _ => .error .ended
  | steps + 1, text => do
      let rest ←
        match skipSpace text with
        | '"' :: rest => skipString rest
        | [] => .error .ended
        | _ => .error .malformed
      let rest ← readColon rest
      let rest ← skipValue steps rest
      match ← afterItem '}' rest with
      | (false, rest) => pure rest
      | (true, rest) => skipMembers steps rest

end

def stepsFor (text : List Char) : Nat := 2 * text.length + 2

def expectEnd (text : List Char) : Except Fault Unit :=
  match skipSpace text with
  | [] => .ok ()
  | _ => .error .malformed

/-- Read a whole text as one value in which at most `room` brackets are open at one time. -/
def parseWithin (room : Nat) (text : String) : Except Fault Json := do
  let (value, rest) ← readValue (stepsFor text.toList) room text.toList
  expectEnd rest
  pure value

def parse (text : String) : Except Fault Json := parseWithin maxDepth text

end TreeQuery.Json
