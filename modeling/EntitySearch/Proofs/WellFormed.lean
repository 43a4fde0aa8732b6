import EntitySearch.Proofs.Scope
import EntitySearch.Proofs.Stages

/-!
# Well-formed trees

A tree compiles exactly when each of its nodes is known: it is a node and not something foreign, and a column is one of a table of
the catalog. Otherwise the first node that is not known, from the root down and from left to right, is what the failure is about.
Both hold of a tree because they hold of its parts (`Judged.under`, `Judged.append`), by an induction with one case for each kind
of node (`judged_ofExpr`). The trees and the paths of the standard definitions are well-formed (`exists_apply_standard`).
-/

namespace EntitySearch

/-! ## Nodes -/

namespace Expr

mutual

/-- The nodes of a tree, each before its parts and the parts from left to right. -/
def nodes : Expr → List Expr
  | .column table name => [.column table name]
  | .literal v => [.literal v]
  | .coalesce e fallback => .coalesce e fallback :: e.nodes
  | .concat es => .concat es :: nodesOf es
  | .asText e => .asText e :: e.nodes
  | .matching e pattern escape => .matching e pattern escape :: e.nodes
  | .equals e v => .equals e v :: e.nodes
  | .allOf es => .allOf es :: nodesOf es
  | .anyOf es => .anyOf es :: nodesOf es
  | .foreign v => [.foreign v]

/-- The nodes of several trees, in order. -/
def nodesOf : List Expr → List Expr
  | [] => []
  | e :: es => e.nodes ++ nodesOf es

end

/-- Whether a node is none of the foreign values and, when it is a column, one of a table of the catalog. -/
def IsKnown (catalog : Catalog) : Expr → Prop
  | .column table name => ∃ columns, catalog.lookup table = some columns ∧ name ∈ columns
  | .foreign _ => False
  | _ => True

/-- What is wrong with a node, in the words of the message about it. The table of a column comes before the column. -/
inductive Offends (catalog : Catalog) : Expr → String → Prop where
  | table {table name : String} : catalog.lookup table = none →
      Offends catalog (.column table name) ("Unknown table in search expression: " ++ Text.quoted table)
  | column {table name : String} {columns : List String} : catalog.lookup table = some columns → name ∉ columns →
      Offends catalog (.column table name) ("Unknown column in search expression: " ++ table ++ "." ++ name)
  | foreign (v : Value) : Offends catalog (.foreign v) ("Unsupported search expression: " ++ v.kind.name)

/-- A node with something wrong is not known. -/
theorem Offends.not_isKnown {catalog : Catalog} {n : Expr} {message : String} (h : n.Offends catalog message) :
    ¬n.IsKnown catalog := by
  cases h with
  | table hnone =>
    rintro ⟨columns, hsome, -⟩
    rw [hnone] at hsome
    cases hsome
  | column hsome hmissing =>
    rintro ⟨columns, hsome', hmem⟩
    rw [hsome, Option.some.injEq] at hsome'
    exact hmissing (hsome' ▸ hmem)
  | foreign v => exact not_false

/-- What is wrong with a node is one thing. -/
theorem Offends.unique {catalog : Catalog} {n : Expr} {message message' : String} (h : n.Offends catalog message)
    (h' : n.Offends catalog message') : message = message' := by
  cases h with
  | table hnone =>
    cases h' with
    | table => rfl
    | column hsome =>
      rw [hnone] at hsome
      cases hsome
  | column hsome =>
    cases h' with
    | table hnone =>
      rw [hnone] at hsome
      cases hsome
    | column => rfl
  | foreign v =>
    cases h'
    rfl

end Expr

/-! ## Results -/

section

variable {catalog : Catalog} {α β γ : Type} {ns ms : List Expr} {n : Expr}

/-- Whether a result is the one that nodes call for: all of them are known, or the first one that is not says why it fails. -/
inductive Judged (catalog : Catalog) (ns : List Expr) : Except Failure α → Prop where
  | accepted (a : α) : (∀ n ∈ ns, n.IsKnown catalog) → Judged catalog ns (.ok a)
  | refused {f : Failure} {n : Expr} : IsFirst (fun n => ¬n.IsKnown catalog) ns n → n.Offends catalog f.message →
      Judged catalog ns (.error f)

namespace Judged

/-- A known node above others leaves the result to them. -/
theorem under {x : Except Failure α} (h : Judged catalog ns x) (hn : n.IsKnown catalog) (g : α → β) :
    Judged catalog (n :: ns) (x >>= fun a => pure (g a)) := by
  cases h with
  | accepted a hall => exact .accepted _ (List.forall_mem_cons.mpr ⟨hn, hall⟩)
  | refused hfirst hwhy => exact .refused (isFirst_cons.mpr (.inr ⟨not_not.mpr hn, hfirst⟩)) hwhy

/-- Of nodes one after the other, the later ones matter when the earlier ones are known. -/
theorem append {x : Except Failure α} {y : Except Failure β} (hx : Judged catalog ns x) (hy : Judged catalog ms y)
    (g : α → β → γ) : Judged catalog (ns ++ ms) (x >>= fun a => y >>= fun b => pure (g a b)) := by
  cases hx with
  | refused hfirst hwhy => exact .refused (hfirst.append ms) hwhy
  | accepted a hns =>
    cases hy with
    | accepted b hms => exact .accepted _ (List.forall_mem_append.mpr ⟨hns, hms⟩)
    | refused hfirst hwhy => exact .refused (hfirst.append_left fun n hn => not_not.mpr (hns n hn)) hwhy

/-- What is judged by nodes is accepted when all of them are known. -/
theorem exists_ok_iff {x : Except Failure α} (h : Judged catalog ns x) :
    (∃ a, x = .ok a) ↔ ∀ n ∈ ns, n.IsKnown catalog := by
  cases h with
  | accepted a hall => exact iff_of_true ⟨a, rfl⟩ hall
  | @refused f n hfirst hwhy =>
    obtain ⟨before, after, rfl, hn, -⟩ := hfirst
    refine iff_of_false (fun ⟨a, ha⟩ => nomatch ha) fun hall => ?_
    exact hn (hall n (List.mem_append_right _ List.mem_cons_self))

/-- What is judged by nodes is refused for the first that is not known. -/
theorem exists_error {x : Except Failure α} (h : Judged catalog ns x) (hn : IsFirst (fun n => ¬n.IsKnown catalog) ns n) :
    ∃ f, x = .error f ∧ n.Offends catalog f.message := by
  cases h with
  | accepted a hall =>
    obtain ⟨before, after, rfl, hn, -⟩ := hn
    exact absurd (hall n (List.mem_append_right _ List.mem_cons_self)) hn
  | refused hfirst hwhy =>
    obtain rfl := hn.unique hfirst
    exact ⟨_, rfl, hwhy⟩

end Judged

namespace Clause

/-- A column is judged by itself. -/
theorem judged_columnIn (table name : String) :
    Judged catalog [Expr.column table name] (columnIn catalog table name) := by
  have hfirst : ∀ {message : String}, (Expr.column table name).Offends catalog message →
      IsFirst (fun n => ¬n.IsKnown catalog) [Expr.column table name] (.column table name) := fun h =>
    isFirst_cons.mpr (.inl ⟨rfl, h.not_isKnown⟩)
  unfold columnIn
  cases htable : catalog.lookup table with
  | none =>
    exact .refused (hfirst (.table htable)) (.table htable)
  | some columns =>
    by_cases hname : name ∈ columns
    · simp only [if_pos (List.contains_iff_mem.mpr hname)]
      exact .accepted _ (List.forall_mem_singleton.mpr ⟨columns, htable, hname⟩)
    · simp only [if_neg (mt List.contains_iff_mem.mp hname)]
      exact .refused (hfirst (.column htable hname)) (.column htable hname)

mutual

/-- A tree compiles or fails as its nodes call for. -/
theorem judged_ofExpr : ∀ e : Expr, Judged catalog e.nodes (ofExpr catalog e)
  | .column table name => judged_columnIn table name
  | .literal v => .accepted _ (List.forall_mem_singleton.mpr trivial)
  | .coalesce e _ => (judged_ofExpr e).under (by trivial) _
  | .concat es => (judged_ofExprs es).under (by trivial) _
  | .asText e => (judged_ofExpr e).under (by trivial) _
  | .matching e _ _ => (judged_ofExpr e).under (by trivial) _
  | .equals e _ => (judged_ofExpr e).under (by trivial) _
  | .allOf es => (judged_ofExprs es).under (by trivial) _
  | .anyOf es => (judged_ofExprs es).under (by trivial) _
  | .foreign v => .refused (isFirst_cons.mpr (.inl ⟨rfl, not_false⟩)) (.foreign v)

/-- Several expressions are judged by the nodes of all, in order. -/
theorem judged_ofExprs : ∀ es : List Expr, Judged catalog (Expr.nodesOf es) (ofExprs catalog es)
  | [] => .accepted _ (List.forall_mem_nil _)
  | e :: es => (judged_ofExpr e).append (judged_ofExprs es) _

end

end Clause

end

/-! ## The standard definitions -/

/-- Every path that a standard definition joins leads somewhere from its table. -/
theorem Entity.hasPath {e : Entity} {path : String} (h : path ∈ e.definition.joins) : e.table.HasPath path := by
  by_contra hnone
  obtain ⟨first, hfirst⟩ := exists_isFirst (p := fun path => ¬e.table.HasPath path) ⟨path, h, hnone⟩
  obtain ⟨u, name, -, herror⟩ := Definition.exists_preparation_eq_error (s := .scope e.table []) hfirst
  rw [e.performAll_preparation []] at herror
  cases herror

/-- A standard definition is the one of its entity. -/
theorem Registry.eq_definition {d : Definition} (h : d ∈ standard.definitions) : d = d.entity.definition := by
  have hall : ∀ d ∈ standard.definitions, ∃ e : Entity, d = e.definition := by
    simp only [standard, Definition.standard, List.forall_mem_cons]
    exact ⟨⟨.listings, rfl⟩, ⟨.agencyUsers, rfl⟩, ⟨.purchaseInquiries, rfl⟩, ⟨.categories, rfl⟩, ⟨.characteristics, rfl⟩,
      ⟨.listingOwners, rfl⟩, List.forall_mem_nil _⟩
  obtain ⟨e, rfl⟩ := hall d h
  cases e <;> rfl

namespace Provider

/-- A standard definition applies to any statement about its own table. -/
theorem exists_apply_standard {d : Definition} (hd : d ∈ Registry.standard.definitions) {s : Select}
    (hs : s.root = d.entity.table) (query : String) (context : SearchContext) :
    ∃ n, (Provider.trigram.apply (.select s) d query context).result = .ok n := by
  have hstandard : d = d.entity.definition := Registry.eq_definition hd
  obtain ⟨prepared, hprep⟩ : ∃ prepared, (Collection.select s).performAll d.preparation = .ok prepared := by
    refine Definition.exists_preparation fun s' heq path hpath => ?_
    obtain rfl := Collection.select.inj heq
    rw [hs]
    rw [hstandard] at hpath
    exact Entity.hasPath hpath
  obtain ⟨cs, hcs⟩ : ∃ cs, List.Forall₂ (fun p c => Clause.ofExpr Catalog.ofSchema p = .ok c)
      (d.conditions query.toList context) cs :=
    exists_forall₂ (hstandard ▸ d.entity.compiles)
  obtain ⟨n, hn, -⟩ := exists_filterByAny (n := ⟨d.preparation, prepared⟩) hprep hcs
  rw [Definition.conditions, String.ofList_toList] at hn
  refine ⟨n, ?_⟩
  rw [apply, applyTrigram, hprep]
  exact hn

end Provider

/-- **Well-formed trees compile, and only they do.** A tree becomes a condition exactly when each of its nodes is known to the
catalog. Otherwise it fails, as expressions fail, with the message about the first node that is not known, the table of a column
before the column. The standard definitions search by well-formed trees along paths that lead somewhere: whatever the query and
the context, each of them applies to every statement about its own table. -/
theorem well_formed_trees_compile (catalog : Catalog) (e : Expr) :
    ((∃ c, Clause.ofExpr catalog e = .ok c) ↔ ∀ n ∈ e.nodes, n.IsKnown catalog) ∧
      (∀ n, IsFirst (fun n => ¬n.IsKnown catalog) e.nodes n →
        ∃ f, Clause.ofExpr catalog e = .error f ∧ f.IsUncompilable ∧ n.Offends catalog f.message) ∧
      ∀ d ∈ Registry.standard.definitions, ∀ s : Select, s.root = d.entity.table → ∀ query context,
        ∃ n, (Provider.trigram.apply (.select s) d query context).result = .ok n := by
  refine ⟨(Clause.judged_ofExpr e).exists_ok_iff, fun n hn => ?_, fun d hd s hs query context => ?_⟩
  · obtain ⟨f, hf, hwhy⟩ := (Clause.judged_ofExpr e).exists_error hn
    exact ⟨f, hf, Clause.isUncompilable_ofExpr e hf, hwhy⟩
  · exact Provider.exists_apply_standard hd hs query context

/-- Behind a column that the schema has, one that it does not have is reported and not the foreign value after it; and the
standard definition of agency users applies to the users of a tenant. -/
theorem first_unknown_column_is_reported :
    (∃ f, Clause.ofExpr Catalog.ofSchema
        (.allOf [.asText (.column "app_user" "email"), .concat [.column "app_user" "phone", .foreign .null]]) = .error f ∧
      f.message = "Unknown column in search expression: app_user.phone") ∧
      ∃ n, (Provider.trigram.apply (.select (.all .user)) .agencyUsers "8 (700" ⟨some "alpha", none⟩).result = .ok n := by
  obtain ⟨-, hfirst, happly⟩ := well_formed_trees_compile Catalog.ofSchema
    (.allOf [.asText (.column "app_user" "email"), .concat [.column "app_user" "phone", .foreign .null]])
  have htable : Catalog.ofSchema.lookup "app_user" = some Table.user.columnNames := Expr.lookup_ofSchema .user
  have hknown : (Expr.column "app_user" "email").IsKnown Catalog.ofSchema := ⟨_, htable, by decide⟩
  have hwrong : (Expr.column "app_user" "phone").Offends Catalog.ofSchema
      "Unknown column in search expression: app_user.phone" := .column htable (by decide)
  have hreached : IsFirst (fun n => ¬n.IsKnown Catalog.ofSchema) (Expr.nodes
      (.allOf [.asText (.column "app_user" "email"), .concat [.column "app_user" "phone", .foreign .null]]))
      (.column "app_user" "phone") := by
    refine ⟨[.allOf _, .asText _, .column "app_user" "email", .concat _], [.foreign .null], rfl, hwrong.not_isKnown, ?_⟩
    simp only [List.forall_mem_cons, not_not]
    exact ⟨trivial, trivial, hknown, trivial, List.forall_mem_nil _⟩
  obtain ⟨f, hf, -, hwhy⟩ := hfirst _ hreached
  exact ⟨⟨f, hf, hwhy.unique hwrong⟩, happly _ (List.mem_cons_of_mem _ List.mem_cons_self) _ rfl _ _⟩

end EntitySearch
