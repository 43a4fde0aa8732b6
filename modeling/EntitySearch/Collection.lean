import EntitySearch.Select

/-!
# Collections

What a search narrows: a statement, or a record of the operations it was asked for. A record accepts every operation; a
statement refuses paths that its entities do not have and conditions that are plain text. Operations give new collections and
leave the old ones as they are.
-/

namespace EntitySearch

/-- A condition given to a collection. -/
inductive Condition where
  | clause (c : Clause)
  /-- Plain text, as providers outside the library may give it. -/
  | text (s : String)
  deriving Repr

/-- An operation on a collection. -/
inductive Operation where
  | outerJoin (path : String)
  | distinct
  | filter (c : Condition)
  | limit (n : Int)
  deriving Repr

/-- A collection of rows. -/
inductive Collection where
  | select (s : Select)
  /-- A record of operations, in order. -/
  | recording (operations : List Operation)
  deriving Repr

namespace Collection

/-- The collection after an operation. -/
def perform (operation : Operation) : Collection → Except Failure Collection
  | .recording operations => .ok (.recording (operations ++ [operation]))
  | .select s =>
    match operation with
    | .outerJoin path => (s.outerJoin path).map .select
    | .distinct => .ok (.select s.dropRepeated)
    | .filter (.clause c) => .ok (.select (s.filter c))
    | .filter (.text t) => .error (.textCondition t)
    | .limit n => .ok (.select (s.withLimit n))

/-- The collection after several operations, in order; the first refusal ends them. -/
def performAll : List Operation → Collection → Except Failure Collection
  | [], c => .ok c
  | o :: os, c =>
    match c.perform o with
    | .ok c' => performAll os c'
    | .error e => .error e

end Collection

end EntitySearch
