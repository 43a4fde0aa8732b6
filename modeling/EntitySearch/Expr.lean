import EntitySearch.Value
import EntitySearch.Sql.LikePattern

/-!
# Search expressions

A tree that says what to match without saying how: columns by table and name, constants, and the combinations of them that
predicates are made of. Anything else may stand in the place of a node; it is kept as it is, and refused when the tree is
compiled.
-/

namespace EntitySearch

/-- An expression tree. -/
inductive Expr where
  /-- The column of a table. -/
  | column (table name : String)
  /-- A constant. A real one is finite: neither an infinity nor what is not a number can stand here. -/
  | literal (value : Value)
  /-- The expression, or a text where it is null. -/
  | coalesce (expr : Expr) (fallback : String)
  /-- The texts of the parts, one after the other. -/
  | concat (parts : List Expr)
  /-- The expression as text. -/
  | asText (expr : Expr)
  /-- Whether the expression matches a pattern, whatever the case of letters. -/
  | matching (expr : Expr) (pattern : String) (escape : Option String)
  /-- Whether the expression equals a constant. -/
  | equals (expr : Expr) (value : Value)
  /-- Whether every operand holds. -/
  | allOf (operands : List Expr)
  /-- Whether some operand holds. -/
  | anyOf (operands : List Expr)
  /-- Something that is no node. -/
  | foreign (value : Value)
  deriving Repr, Inhabited

namespace Expr

/-- The parts with null read as the empty text, and the separator between neighbours. -/
def separated (separator : String) : List Expr → List Expr
  | [] => []
  | [p] => [.coalesce p ""]
  | p :: ps => .coalesce p "" :: .literal (.text separator) :: separated separator ps

/-- The parts joined by a separator; a null part counts as the empty text, so that it does not hide the others. -/
def join (separator : String) (parts : List Expr) : Expr :=
  match parts with
  | [] => .literal (.text "")
  | ps => .concat (separated separator ps)

/-- The last, first and middle name of a row of a table. -/
def fullName (table : String) : Expr :=
  join " " [.column table "last_name", .column table "first_name", .column table "middle_name"]

/-- Whether an expression contains a text, whatever the case of letters. -/
def containing (expr : Expr) (text : String) : Expr :=
  .matching expr (String.ofList (LikePattern.containing LikePattern.defaultEscape.toList text.toList))
    (some LikePattern.defaultEscape)

end Expr

end EntitySearch
