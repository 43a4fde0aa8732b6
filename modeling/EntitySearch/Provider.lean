import EntitySearch.Definition
import EntitySearch.Log
import EntitySearch.Text.Blank
import EntitySearch.Text.LowerCase

/-!
# Search providers

A provider turns a definition and a query into operations on a collection. The trigram provider joins and filters by the
disjunction of the predicates; the stub leaves the collection alone; the echo filters by a text that repeats what it was
given. A provider table finds providers by name, whatever the case and the surrounding blanks of the name.
-/

namespace EntitySearch

/-- A search provider. -/
inductive Provider where
  | trigram
  | stub
  | echo
  deriving Repr, DecidableEq, Inhabited

/-- A collection after the operations of a provider. -/
structure Narrowed where
  operations : List Operation
  collection : Collection
  deriving Repr

/-- What a provider did: the lines it logged, and the narrowed collection unless it failed. -/
structure Application where
  logs : List LogLine
  result : Except Failure Narrowed

namespace Narrowed

/-- A collection on which nothing has been done. -/
def untouched (c : Collection) : Narrowed := ⟨[], c⟩

/-- The collection after one more operation. -/
def perform (n : Narrowed) (operation : Operation) : Except Failure Narrowed :=
  (n.collection.perform operation).map fun c => ⟨n.operations ++ [operation], c⟩

end Narrowed

namespace Provider

/-- The name of a provider. -/
def name : Provider → String
  | .trigram => "postgres_trigram"
  | .stub => "stub"
  | .echo => "echo"

/-- The line the trigram provider logs: the entity and the number of its predicates, never the query. -/
def countLine (e : Entity) (n : Nat) : LogLine :=
  ⟨.debug, .trigramProvider, "Search " ++ e.key ++ ": " ++ toString n ++ " predicate(s)"⟩

/-- The text the echo provider filters by. -/
def echoText (e : Entity) (query : String) (context : SearchContext) : String :=
  "|".intercalate
    [e.key, query, (Value.ofText? context.tenantId).display, (Value.ofText? context.actorId).display]

/-- Filters a prepared collection by the disjunction of predicates; without predicates it stays as it is. -/
def filterByAny (predicates : List Expr) (n : Narrowed) : Except Failure Narrowed :=
  if predicates.isEmpty then .ok n
  else
    match Clause.ofExpr Catalog.ofSchema (.anyOf predicates) with
    | .error e => .error e
    | .ok c => n.perform (.filter (.clause c))

/-- Applies the trigram provider. -/
def applyTrigram (c : Collection) (d : Definition) (query : String) (context : SearchContext) : Application :=
  match c.performAll d.preparation with
  | .error e => ⟨[], .error e⟩
  | .ok prepared =>
    let predicates := (d.predicates query context).filterMap id
    ⟨[countLine d.entity predicates.length], filterByAny predicates ⟨d.preparation, prepared⟩⟩

/-- Applies a provider to a collection for a query. -/
def apply (p : Provider) (c : Collection) (d : Definition) (query : String) (context : SearchContext) : Application :=
  match p with
  | .trigram => applyTrigram c d query context
  | .stub => ⟨[], .ok (.untouched c)⟩
  | .echo => ⟨[], (Narrowed.untouched c).perform (.filter (.text (echoText d.entity query context)))⟩

end Provider

/-- A table of providers by name; anything may stand for a provider. -/
structure ProviderTable (α : Type := Provider) where
  entries : List (String × α)
  deriving Repr

namespace ProviderTable

variable {α : Type}

/-- The table of a process that has one provider from the start, under two names. -/
def offering (p : α) : ProviderTable α := ⟨[("postgres", p), ("postgres_trigram", p)]⟩

/-- The table every process starts with. -/
def standard : ProviderTable := offering .trigram

/-- The key of a name: without surrounding blanks, in lower case. -/
def key (name : String) : String := String.ofList (Text.lowerCase (Text.trim name.toList))

/-- The names of a table in alphabetical order. -/
def supported (t : ProviderTable α) : List String := (t.entries.map (·.1)).mergeSort fun a b => decide (a ≤ b)

/-- The table with a provider under a name, in place of an earlier one. -/
def register (t : ProviderTable α) (name : String) (p : α) : ProviderTable α :=
  ⟨t.entries.filter (fun e => e.1 != key name) ++ [(key name, p)]⟩

/-- The line logged on registration: the name as given. -/
def registrationLine (name : String) : LogLine := ⟨.info, .providerTable, "Registered search provider: " ++ name⟩

/-- The provider of a name; no name is the empty one. -/
def create (t : ProviderTable α) (name : Option String) : Except Failure α :=
  match t.entries.lookup (key (name.getD "")) with
  | some p => .ok p
  | none => .error (.domain (.unknownProvider (Value.ofText? name) (some (.list (t.supported.map .text)))))

end ProviderTable

end EntitySearch
