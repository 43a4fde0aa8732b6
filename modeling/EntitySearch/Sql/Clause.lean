import EntitySearch.Expr
import EntitySearch.Failure
import EntitySearch.Schema.Column

/-!
# Conditions of statements

The form an expression takes in a statement: every column is known, nothing foreign is left, chains of texts and of
conditions of one kind are flat, a truth value that takes the place of a condition is marked as one, and parentheses stand
where the precedence of the operators asks for them. `Clause.ofExpr` builds it against a catalog of tables and reports the
first offence, in depth-first order from left to right, the table of a column before the column.
-/

namespace EntitySearch

/-- The two connectives of conditions. -/
inductive Connective where
  | conjunction
  | disjunction
  deriving Repr, DecidableEq

/-- An expression as it stands in a statement. -/
inductive Clause where
  | column (table name : String)
  | constant (value : Value)
  | coalesce (clause : Clause) (fallback : String)
  /-- A chain of at least two texts. One of exactly two keeps both sides even where one of them is written as nothing. -/
  | concat (parts : List Clause)
  | cast (clause : Clause)
  | like (clause : Clause) (pattern : String) (escape : Option String)
  | equals (clause : Clause) (value : Value)
  /-- A chain of conditions; one without operands holds no condition at all. -/
  | chain (connective : Connective) (operands : List Clause)
  /-- A truth value in the place of a condition. -/
  | flag (clause : Clause)
  /-- A clause in parentheses. -/
  | group (clause : Clause)
  deriving Repr, Inhabited

/-- The tables that expressions may refer to, with the names of their columns. -/
abbrev Catalog := List (String × List String)

/-- The catalog of the schema. -/
def Catalog.ofSchema : Catalog := Table.all.map fun t => (t.name, t.columnNames)

/-- The types of values that clauses stand for. -/
inductive ClauseType where
  | text
  | timestamp
  | int
  | real
  | truth
  /-- The type of null. -/
  | unknown
  deriving Repr, DecidableEq

/-- The type of a constant. -/
def ClauseType.ofValue : Value → ClauseType
  | .text _ => .text
  | .int _ => .int
  | .real _ => .real
  | .bool _ => .truth
  | _ => .unknown

/-- The type of a column; one that the schema does not have is text. -/
def ClauseType.ofColumn (table name : String) : ClauseType :=
  match (Table.ofName? table).bind fun t => t.columns.find? fun c => c.name == name with
  | some c =>
    match c.type with
    | .timestamp => .timestamp
    | .text _ => .text
  | none => .text

namespace Clause

mutual

/-- The type of a clause. A chain of texts has the type of its first part, whatever that is. -/
def type : Clause → ClauseType
  | .column table name => .ofColumn table name
  | .constant v => .ofValue v
  | .coalesce c _ =>
    match c.type with
    | .unknown => .text
    | t => t
  | .concat cs => firstType cs
  | .cast _ => .text
  | .like .. | .equals .. | .chain .. | .flag _ => .truth
  | .group c => c.type

/-- The type of the first of several clauses. -/
def firstType : List Clause → ClauseType
  | [] => .unknown
  | c :: _ => c.type

end

/-- A clause in the place of a condition: a constant or a default that is a truth value is marked as such. -/
def asCondition : Clause → Clause
  | .constant (.bool b) => .flag (.constant (.bool b))
  | .coalesce c fallback =>
    if (Clause.coalesce c fallback).type = .truth then .flag (.coalesce c fallback) else .coalesce c fallback
  | c => c

/-- The places in which a clause may need parentheses. -/
inductive Place where
  /-- A part of a chain of texts. -/
  | part
  /-- The left side of a comparison. -/
  | compared
  /-- An operand of a chain of conditions. -/
  | operand (connective : Connective)
  deriving Repr, DecidableEq

/-- Whether a clause needs parentheses in a place. -/
def needsGroup : Place → Clause → Bool
  | _, .chain _ [] => false
  | .part, .like .. | .part, .equals .. | .part, .chain .. => true
  | .compared, .concat _ | .compared, .like .. | .compared, .equals .. | .compared, .chain .. => true
  | .operand .conjunction, .chain .disjunction _ => true
  | _, _ => false

/-- A clause made fit for a place. -/
def inPlace (place : Place) (c : Clause) : Clause := if needsGroup place c then .group c else c

/-- The texts that a clause contributes to a chain of texts. -/
def parts : Clause → List Clause
  | .concat ps => ps
  | c => [c]

/-- Two texts one after the other. A chain on the left is extended; one on the right becomes part of the whole when it is of
the same type. -/
def append (left right : Clause) : Clause :=
  let behind := right.inPlace .part
  .concat ((left.inPlace .part).parts ++ if right.type = left.type then behind.parts else [behind])

/-- The texts one after the other: none is the empty text, a single one is itself. -/
def concatAll : List Clause → Clause
  | [] => .constant (.text "")
  | c :: cs => cs.foldl append c

/-- The conditions that a clause contributes to a chain. -/
def operands (connective : Connective) : Clause → List Clause
  | .chain k cs => if k = connective then cs else [.chain k cs]
  | c => [c]

/-- The conditions joined by a connective: a single one is itself. -/
def chainAll (connective : Connective) : List Clause → Clause
  | [c] => c.asCondition
  | cs => .chain connective (cs.flatMap fun c => (c.asCondition.inPlace (.operand connective)).operands connective)

/-- The column of a table, if the catalog has it. -/
def columnIn (catalog : Catalog) (table name : String) : Except Failure Clause :=
  match catalog.lookup table with
  | none => .error (.unknownTable table)
  | some columns => if columns.contains name then .ok (.column table name) else .error (.unknownColumn table name)

mutual

/-- The clause of an expression. -/
def ofExpr (catalog : Catalog) : Expr → Except Failure Clause
  | .column table name => columnIn catalog table name
  | .literal v => .ok (.constant v)
  | .coalesce e fallback => do return .coalesce (← ofExpr catalog e) fallback
  | .concat es => do return concatAll (← ofExprs catalog es)
  | .asText e => do return .cast (← ofExpr catalog e)
  | .matching e pattern escape => do return .like ((← ofExpr catalog e).inPlace .compared) pattern escape
  | .equals e v => do return .equals ((← ofExpr catalog e).inPlace .compared) v
  | .allOf es => do return chainAll .conjunction (← ofExprs catalog es)
  | .anyOf es => do return chainAll .disjunction (← ofExprs catalog es)
  | .foreign v => .error (.unsupportedNode v.kind)

/-- The clauses of several expressions, in order. -/
def ofExprs (catalog : Catalog) : List Expr → Except Failure (List Clause)
  | [] => .ok []
  | e :: es => do return (← ofExpr catalog e) :: (← ofExprs catalog es)

end

mutual

/-- Whether a clause holds nothing at all: a chain of nothing but such clauses. -/
def isVoid : Clause → Bool
  | .chain _ cs => areVoid cs
  | .concat cs => areVoid cs
  | _ => false

/-- Whether none of the clauses holds anything. -/
def areVoid : List Clause → Bool
  | [] => true
  | c :: cs => c.isVoid && areVoid cs

end

mutual

/-- The names of the tables a clause mentions, in order of mention. -/
def tables : Clause → List String
  | .column table _ => [table]
  | .constant _ => []
  | .coalesce c _ => c.tables
  | .concat cs => tablesOf cs
  | .cast c => c.tables
  | .like c _ _ => c.tables
  | .equals c _ => c.tables
  | .chain _ cs => tablesOf cs
  | .flag c => c.tables
  | .group c => c.tables

/-- The names of the tables several clauses mention, in order of mention. -/
def tablesOf : List Clause → List String
  | [] => []
  | c :: cs => c.tables ++ tablesOf cs

end

mutual

/-- The constants of a clause that are not texts by their place. -/
def constants : Clause → List Value
  | .column .. => []
  | .constant v => [v]
  | .coalesce c _ => c.constants
  | .concat cs => constantsOf cs
  | .cast c => c.constants
  | .like c _ _ => c.constants
  | .equals c v => c.constants ++ [v]
  | .chain _ cs => constantsOf cs
  | .flag c => c.constants
  | .group c => c.constants

/-- The constants of several clauses. -/
def constantsOf : List Clause → List Value
  | [] => []
  | c :: cs => c.constants ++ constantsOf cs

end

end Clause

end EntitySearch
