import TreeQuery.Text.Quoted

/-!
Names and literals as they stand in a statement.

A database folds an unquoted name to lower case, so a name is left bare only when it consists of
lower-case letters, digits and underscores, does not start with a digit, and is no reserved word.
-/

namespace TreeQuery.Sql

def reservedWords : List String :=
  ["all", "analyse", "analyze", "and", "any", "array", "as", "asc", "both", "case", "cast",
    "check", "collate", "column", "constraint", "create", "default", "desc", "distinct", "do",
    "else", "end", "except", "false", "fetch", "for", "foreign", "from", "grant", "group",
    "having", "in", "initially", "intersect", "into", "lateral", "leading", "limit", "not",
    "null", "offset", "on", "only", "or", "order", "placing", "primary", "references",
    "returning", "select", "some", "table", "then", "to", "trailing", "true", "union", "unique",
    "user", "using", "value", "when", "where", "window", "with"]

def isBareStart (c : Char) : Bool := ('a' ≤ c && c ≤ 'z') || c = '_'

def isBareChar (c : Char) : Bool := isBareStart c || ('0' ≤ c && c ≤ '9')

/-- Whether the name reads back as itself without quotes. -/
def isBare (name : String) : Bool :=
  name.toList.head?.any isBareStart && name.toList.all isBareChar && !reservedWords.contains name

def identifier (name : String) : String :=
  if isBare name then name else Text.quoted '"' name

/-- A table name: every part between the dots is quoted. -/
def tableName (name : String) : String :=
  ".".intercalate ((Text.pieces '.' name.toList).map fun part => Text.quoted '"' (String.ofList part))

def qualified (qualifier name : String) : String := qualifier ++ "." ++ identifier name

def literal (text : String) : String := Text.quoted '\'' text

/-- A row value: several columns stand in parentheses, one stands alone. -/
def rowValue : List String → String
  | [column] => column
  | columns => "(" ++ ", ".intercalate columns ++ ")"

end TreeQuery.Sql
