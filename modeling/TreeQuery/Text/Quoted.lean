/-!
Quoted text: the quote character stands at both ends and is written twice inside.
-/

namespace TreeQuery.Text

def doubled (quote : Char) : List Char → List Char
  | [] => []
  | c :: rest =>
      if c = quote then quote :: quote :: doubled quote rest else c :: doubled quote rest

def quoted (quote : Char) (text : String) : String :=
  String.ofList (quote :: (doubled quote text.toList ++ [quote]))

/-- The pieces between the separators; a text without a separator is one piece. -/
def pieces (separator : Char) : List Char → List (List Char)
  | [] => [[]]
  | c :: rest =>
      if c = separator then [] :: pieces separator rest
      else
        match pieces separator rest with
        | [] => [[c]]
        | piece :: more => (c :: piece) :: more

end TreeQuery.Text
