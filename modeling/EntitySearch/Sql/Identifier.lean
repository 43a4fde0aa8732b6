import EntitySearch.Text.LowerCase

/-!
# Names in statements

A name of a table or a column is written as it is when it has only lower-case letters, digits, underscores and dollar signs,
does not start with a digit or a dollar sign and is no word of the language. Every other name stands between quotation marks,
with those in it doubled.
-/

namespace EntitySearch.Sql

/-- The words of the language that cannot be names. -/
def reservedWords : List String :=
  ["all", "analyse", "analyze", "and", "any", "array", "as", "asc", "asymmetric", "authorization", "between", "binary",
   "both", "case", "cast", "check", "collate", "column", "constraint", "create", "cross", "current_catalog",
   "current_date", "current_role", "current_schema", "current_time", "current_timestamp", "current_user", "default",
   "deferrable", "desc", "distinct", "do", "else", "end", "except", "false", "fetch", "for", "foreign", "freeze", "from",
   "full", "grant", "group", "having", "ilike", "in", "initially", "inner", "intersect", "into", "is", "isnull", "join",
   "leading", "left", "like", "limit", "localtime", "localtimestamp", "natural", "new", "not", "notnull", "null", "of",
   "off", "offset", "old", "on", "only", "or", "order", "outer", "over", "overlaps", "placing", "primary", "references",
   "returning", "right", "select", "session_user", "similar", "some", "symmetric", "table", "then", "to", "trailing",
   "true", "union", "unique", "user", "using", "variadic", "verbose", "when", "where", "window", "with"]

/-- Whether a character may stand in a name that is written as it is. Two letters outside ASCII pass, because they are
variants of an ASCII letter that differ from it in case only and have no other lower-case form. -/
def isNameChar (c : Char) : Bool := c.isAlphanum || c == '_' || c == '$' || c == 'ı' || c == 'ſ'

/-- A name without the line end behind it. -/
def dropLineEnd (cs : List Char) : List Char := if cs.getLast? = some '\n' then cs.dropLast else cs

/-- Whether a name must stand between quotation marks. -/
def needsQuotes (cs : List Char) : Bool :=
  let lower := Text.lowerCase cs
  lower != cs || reservedWords.contains (String.ofList lower) ||
    (cs.head?.any fun c => c.isDigit || c == '$') ||
    (dropLineEnd cs).isEmpty || !(dropLineEnd cs).all isNameChar

/-- A name as it is written. -/
def identifier (s : String) : String :=
  let cs := s.toList
  if needsQuotes cs then String.ofList ('"' :: cs.flatMap (fun c => if c = '"' then ['"', '"'] else [c]) ++ ['"']) else s

end EntitySearch.Sql
