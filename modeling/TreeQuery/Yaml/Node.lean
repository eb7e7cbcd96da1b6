import TreeQuery.Yaml.Token

/-!
YAML documents: scalars, sequences and mappings.

`Node.parse?` reads a text that holds at most one document.  A text without any document reads as
an empty plain scalar, which is also what stands for a value that is left out.  Recursion over the
tokens is bounded by a number of steps taken from how many there are.
-/

namespace TreeQuery.Yaml

inductive Node where
  | scalar (text : String) (plain : Bool)
  | sequence (items : List Node)
  | mapping (pairs : List (Node × Node))
  deriving Inhabited

def Node.empty : Node := .scalar "" true

def Token.endsItem : Token → Bool
  | .item => true
  | .blockEnd => true
  | _ => false

def Token.endsEntry : Token → Bool
  | .key => true
  | .value => true
  | .blockEnd => true
  | _ => false

mutual

/--
Read a node.  Block collections may begin here if `block`; a sequence without an indentation of its
own may begin here if `indentless`.
-/
def parseNode : Nat → Bool → Bool → List Token → Option (Node × List Token)
  | 0, _, _, _ => none
  | steps + 1, block, indentless, tokens =>
      match tokens with
      | .scalar text plain :: rest => some (.scalar text plain, rest)
      | .openSequence :: rest => do
          let (items, rest) ← parseFlowItems steps true rest
          pure (.sequence items, rest)
      | .openMapping :: rest => do
          let (pairs, rest) ← parseFlowPairs steps true rest
          pure (.mapping pairs, rest)
      | .item :: _ =>
          if indentless then do
            let (items, rest) ← parseIndentlessItems steps tokens
            pure (.sequence items, rest)
          else none
      | .blockSequence :: rest =>
          if block then do
            let (items, rest) ← parseBlockItems steps rest
            pure (.sequence items, rest)
          else none
      | .blockMapping :: rest =>
          if block then do
            let (pairs, rest) ← parseBlockPairs steps rest
            pure (.mapping pairs, rest)
          else none
      | _ => none

def parseBlockItems : Nat → List Token → Option (List Node × List Token)
  | 0, _ => none
  | steps + 1, tokens =>
      match tokens with
      | .blockEnd :: rest => some ([], rest)
      | .item :: rest => do
          let (node, rest) ←
            if rest.head?.any Token.endsItem then some (Node.empty, rest)
            else parseNode steps true false rest
          let (nodes, rest) ← parseBlockItems steps rest
          pure (node :: nodes, rest)
      | _ => none

/-- Items at the indentation of the mapping around them; the first other token ends them. -/
def parseIndentlessItems : Nat → List Token → Option (List Node × List Token)
  | 0, _ => none
  | steps + 1, tokens =>
      match tokens with
      | .item :: rest => do
          let (node, rest) ←
            if rest.head?.any fun token => token.endsItem || token.endsEntry then
              some (Node.empty, rest)
            else parseNode steps true false rest
          let (nodes, rest) ← parseIndentlessItems steps rest
          pure (node :: nodes, rest)
      | _ => some ([], tokens)

def parseBlockPairs : Nat → List Token → Option (List (Node × Node) × List Token)
  | 0, _ => none
  | steps + 1, tokens =>
      match tokens with
      | .blockEnd :: rest => some ([], rest)
      | .key :: rest => do
          let (key, rest) ←
            if rest.head?.any Token.endsEntry then some (Node.empty, rest)
            else parseNode steps true true rest
          let (value, rest) ← parseBlockValue steps rest
          let (pairs, rest) ← parseBlockPairs steps rest
          pure ((key, value) :: pairs, rest)
      | _ => none

def parseBlockValue : Nat → List Token → Option (Node × List Token)
  | 0, _ => none
  | steps + 1, tokens =>
      match tokens with
      | .value :: rest =>
          if rest.head?.any Token.endsEntry then some (Node.empty, rest)
          else parseNode steps true true rest
      | _ => some (Node.empty, tokens)

def parseFlowItems : Nat → Bool → List Token → Option (List Node × List Token)
  | 0, _, _ => none
  | steps + 1, first, tokens =>
      match tokens with
      | .closeSequence :: rest => some ([], rest)
      | _ => do
          let tokens ←
            if first then some tokens
            else
              match tokens with
              | .comma :: rest => some rest
              | _ => none
          match tokens with
          | .closeSequence :: rest => pure ([], rest)
          | .key :: rest =>
              let (key, rest) ← parseFlowPart steps .closeSequence rest
              let (value, rest) ← parseFlowValue steps .closeSequence rest
              let (nodes, rest) ← parseFlowItems steps false rest
              pure (.mapping [(key, value)] :: nodes, rest)
          | _ =>
              let (node, rest) ← parseNode steps false false tokens
              let (nodes, rest) ← parseFlowItems steps false rest
              pure (node :: nodes, rest)

def parseFlowPairs : Nat → Bool → List Token → Option (List (Node × Node) × List Token)
  | 0, _, _ => none
  | steps + 1, first, tokens =>
      match tokens with
      | .closeMapping :: rest => some ([], rest)
      | _ => do
          let tokens ←
            if first then some tokens
            else
              match tokens with
              | .comma :: rest => some rest
              | _ => none
          match tokens with
          | .closeMapping :: rest => pure ([], rest)
          | .key :: rest =>
              let (key, rest) ← parseFlowPart steps .closeMapping rest
              let (value, rest) ← parseFlowValue steps .closeMapping rest
              let (pairs, rest) ← parseFlowPairs steps false rest
              pure ((key, value) :: pairs, rest)
          | _ =>
              let (key, rest) ← parseNode steps false false tokens
              let (pairs, rest) ← parseFlowPairs steps false rest
              pure ((key, Node.empty) :: pairs, rest)

def parseFlowPart : Nat → Token → List Token → Option (Node × List Token)
  | 0, _, _ => none
  | steps + 1, closing, tokens =>
      if tokens.head?.any fun token => token == .value || token == .comma || token == closing then
        some (Node.empty, tokens)
      else parseNode steps false false tokens

def parseFlowValue : Nat → Token → List Token → Option (Node × List Token)
  | 0, _, _ => none
  | steps + 1, closing, tokens =>
      match tokens with
      | .value :: rest =>
          if rest.head?.any fun token => token == .comma || token == closing then
            some (Node.empty, rest)
          else parseNode steps false false rest
      | _ => some (Node.empty, tokens)

end

def parseDocument (tokens : List Token) : Option (Node × List Token) :=
  let steps := 4 * tokens.length + 4
  match tokens with
  | [] => some (Node.empty, [])
  | .documentStart :: rest =>
      match rest with
      | [] => some (Node.empty, rest)
      | .documentStart :: _ => some (Node.empty, rest)
      | .documentEnd :: _ => some (Node.empty, rest)
      | _ => parseNode steps true false rest
  | _ => parseNode steps true false tokens

/-- The document that a text holds; there may be none, which reads as an empty scalar, or one. -/
def Node.parse? (text : String) : Option Node := do
  let (node, rest) ← parseDocument (← tokens? text)
  if rest.all fun token => token == .documentEnd then some node else none

end TreeQuery.Yaml
