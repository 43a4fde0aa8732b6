import EntitySearch.Sql.Clause
import EntitySearch.Sql.Identifier

/-!
# The text of conditions

Conditions as they are written in statements, with their constants inline: texts between apostrophes, an apostrophe in them
doubled and nothing else changed. What is written as nothing is left out of a list or a chain, with its separator, unless the
chain joins just two texts.
-/

namespace EntitySearch

namespace Sql

/-- The characters of a text constant, with every apostrophe doubled. -/
def doubled (cs : List Char) : List Char := LikePattern.replaceChar '\'' ['\'', '\''] cs

/-- A text constant. -/
def textConstant (s : String) : String := String.ofList ('\'' :: doubled s.toList ++ ['\''])

/-- A constant. -/
def constant : Value → String
  | .null => "NULL"
  | .bool true => "true"
  | .bool false => "false"
  | .text s => textConstant s
  | v => v.display

end Sql

/-- The word that stands between the operands of a chain. -/
def Connective.word : Connective → String
  | .conjunction => " AND "
  | .disjunction => " OR "

/-- Texts between separators; empty ones are left out. -/
def joinPresent (separator : String) (texts : List String) : String :=
  separator.intercalate (texts.filter fun t => !t.isEmpty)

namespace Clause

mutual

/-- The text of a clause. -/
def toText : Clause → String
  | .column table name => Sql.identifier table ++ "." ++ Sql.identifier name
  | .constant v => Sql.constant v
  | .coalesce c fallback => "coalesce(" ++ joinPresent ", " [c.toText, Sql.textConstant fallback] ++ ")"
  | .concat [c, d] => c.toText ++ " || " ++ d.toText
  | .concat cs => joinPresent " || " (texts cs)
  | .cast c => "CAST(" ++ c.toText ++ " AS VARCHAR)"
  | .like c pattern escape =>
    c.toText ++ " ILIKE " ++ Sql.textConstant pattern ++
      match escape with
      | some e => " ESCAPE " ++ Sql.textConstant e
      | none => ""
  | .equals c .null => c.toText ++ " IS NULL"
  | .equals c v => c.toText ++ " = " ++ Sql.constant v
  | .chain connective cs => joinPresent connective.word (texts cs)
  | .flag c => c.toText
  | .group c => "(" ++ c.toText ++ ")"

/-- The texts of several clauses. -/
def texts : List Clause → List String
  | [] => []
  | c :: cs => c.toText :: texts cs

end

end Clause

end EntitySearch
