import Mathlib.Data.List.Nodup
import EntitySearch.Select.Execution

/-!
# Outer joins

What the combinations of joined rows look like. An outer join pairs a row with each row it is connected to, and with nothing
when there is none (`Select.Pairs`); a combination is built by one such step for each relationship (`Select.Joined`). Every
combination goes on to a full one (`exists_joined`) and keeps what it is bound to (`row?_of_joined`), so that no row of the
root is lost. Relationships that lead to at most one row give exactly one combination for each row of the root
(`exists_extendAll_eq_map`).
-/

namespace EntitySearch

/-! ## Rows that combinations bind -/

/-- The contents of a row that may be absent; those of an absent row are null. -/
def Row.cellsOf (o : Option Row) : String → Option String := fun column => o.bind fun r => r.get column

namespace Binding

/-- The contents of the columns of a table are those of the row bound to it. -/
theorem contents_name (bound : Binding) (t : Table) : bound.contents t.name = Row.cellsOf (bound.row? t) := by
  funext column
  simp [contents, Table.ofName?_name, Row.cellsOf]

theorem row?_cons_self (t : Table) (o : Option Row) (rest : Binding) : row? ((t, o) :: rest) t = o := by
  simp [row?]

/-- What comes behind does not change what a table is bound to. -/
theorem row?_append {bound : Binding} {t : Table} (h : (bound.lookup t).isSome = true) (rest : Binding) :
    row? (bound ++ rest) t = bound.row? t := by
  rw [row?, List.lookup_append, Option.or_of_isSome h, row?]

/-- A row bound to a table changes the contents of no other table. -/
theorem contents_append_of_ne {bound : Binding} {t : Table} {o : Option Row} {name : String} (h : name ≠ t.name) :
    (bound ++ [(t, o)]).contents name = bound.contents name := by
  funext column
  simp only [contents]
  cases hu : Table.ofName? name with
  | none => rfl
  | some u =>
    have hname : u.name = name := by simpa using List.find?_some hu
    have hne : (u == t) = false := by
      rw [beq_eq_false_iff_ne]
      rintro rfl
      exact h hname.symm
    simp [row?, List.lookup_append, List.lookup_cons, hne]

end Binding

/-! ## Relationships that lead to at most one row -/

/-- Whether no two rows of a table have the same identifier. -/
def Database.HasUniqueIds (db : Database) : Prop := ∀ t, ((db.rows t).map Row.id).Nodup

/-- Whether a relationship connects a row to at most one row. -/
def Relation.IsToOne (r : Relation) (db : Database) : Prop :=
  ∀ row, ((db.rows r.target).filter (r.connects row)).length ≤ 1

/-- Among items with different keys at most one has a given key. -/
theorem length_filter_le_one {α β : Type} {l : List α} {key : α → β} (h : (l.map key).Nodup) {p : α → Bool} {k : β}
    (hk : ∀ x ∈ l, p x = true → key x = k) : (l.filter p).length ≤ 1 := by
  have hnodup : ((l.filter p).map key).Nodup := (List.filter_sublist.map key).nodup h
  have hall : (l.filter p).map key = List.replicate (l.filter p).length k := by
    rw [List.eq_replicate_iff]
    refine ⟨List.length_map _, fun x hx => ?_⟩
    obtain ⟨y, hy, rfl⟩ := List.mem_map.mp hx
    exact hk y (List.mem_filter.mp hy).1 (List.mem_filter.mp hy).2
  rw [hall, List.nodup_replicate] at hnodup
  exact hnodup

/-- A relationship that leads to the row referred to leads to at most one row, because identifiers are unique. -/
theorem Relation.isToOne_of_parent {r : Relation} {db : Database} (hdb : db.HasUniqueIds) (hr : r.link.child ≠ r.target) :
    r.IsToOne db := by
  intro row
  refine length_filter_le_one (k := row.get r.link.column) (hdb r.target) fun x _ hx => ?_
  rw [Relation.connects, if_neg hr, Link.connects] at hx
  split at hx
  · rename_i hcol hid
    rw [hcol, hid, beq_iff_eq.mp hx]
  · nomatch hx

namespace Select

variable {db : Database}

/-! ## One join -/

/-- Whether an outer join along a relationship pairs a row, or nothing, with a row of the target, or with nothing. -/
def Pairs (db : Database) (r : Relation) (source : Option Row) : Option Row → Prop
  | some row => row ∈ db.rows r.target ∧ ∃ s, source = some s ∧ r.connects s row = true
  | none => ∀ s, source = some s → ∀ row ∈ db.rows r.target, r.connects s row = false

/-- Everything is paired with something. -/
theorem exists_pairs (db : Database) (r : Relation) (source : Option Row) : ∃ o, Pairs db r source o := by
  by_cases h : Pairs db r source none
  · exact ⟨none, h⟩
  · simp only [Pairs, not_forall, Bool.not_eq_false] at h
    obtain ⟨s, hs, row, hrow, hc⟩ := h
    exact ⟨some row, hrow, s, hs, hc⟩

/-- An outer join asks nothing of what it pairs a row with. -/
theorem exists_pairs_and {r : Relation} {source : Option Row} {p : Prop} : (∃ o, Pairs db r source o ∧ p) ↔ p := by
  constructor
  · rintro ⟨-, -, hp⟩
    exact hp
  · intro hp
    obtain ⟨o, ho⟩ := exists_pairs db r source
    exact ⟨o, ho, hp⟩

/-- What does not hold of nothing holds of something paired with a row exactly when it holds of a row connected to it. -/
theorem exists_pairs_some {r : Relation} {s : Row} {p : Option Row → Prop} (hnone : ¬p none) :
    (∃ o, Pairs db r (some s) o ∧ p o) ↔ ∃ row ∈ db.rows r.target, r.connects s row = true ∧ p (some row) := by
  constructor
  · rintro ⟨o, ho, hp⟩
    cases o with
    | none => exact absurd hp hnone
    | some row =>
      obtain ⟨hrow, t, ht, hc⟩ := ho
      rw [← Option.some.inj ht] at hc
      exact ⟨row, hrow, hc, hp⟩
  · rintro ⟨row, hrow, hc, hp⟩
    exact ⟨some row, ⟨hrow, s, rfl, hc⟩, hp⟩

/-- An absent row is paired with nothing. -/
theorem not_exists_pairs_none {r : Relation} {p : Option Row → Prop} (hnone : ¬p none) : ¬∃ o, Pairs db r none o ∧ p o := by
  rintro ⟨o, ho, hp⟩
  cases o with
  | none => exact hnone hp
  | some row =>
    obtain ⟨-, _, h, -⟩ := ho
    nomatch h

/-- The rows of the target that a combination is connected to. -/
def related (db : Database) (r : Relation) (bound : Binding) : List Row :=
  match bound.row? r.source with
  | some row => (db.rows r.target).filter (r.connects row)
  | none => []

/-- A combination is extended by each related row, or by nothing. -/
theorem extend_eq (db : Database) (r : Relation) (bound : Binding) :
    extend db r bound = match related db r bound with
      | [] => [bound ++ [(r.target, none)]]
      | rows => rows.map fun row => bound ++ [(r.target, some row)] := rfl

/-- The rows related to a binding are those that pair with it. -/
theorem mem_related {r : Relation} {bound : Binding} {row : Row} :
    row ∈ related db r bound ↔ Pairs db r (bound.row? r.source) (some row) := by
  unfold related Pairs
  cases bound.row? r.source <;> simp

/-- No row is related when the binding pairs with a missing row. -/
theorem related_eq_nil {r : Relation} {bound : Binding} :
    related db r bound = [] ↔ Pairs db r (bound.row? r.source) none := by
  unfold related Pairs
  cases bound.row? r.source <;> simp [List.filter_eq_nil_iff]

/-- An outer join extends a combination by what it pairs it with. -/
theorem mem_extend {r : Relation} {bound bound' : Binding} :
    bound' ∈ extend db r bound ↔ ∃ o, Pairs db r (bound.row? r.source) o ∧ bound' = bound ++ [(r.target, o)] := by
  rw [extend_eq]
  split
  · rename_i hnil
    rw [List.mem_singleton]
    constructor
    · rintro rfl
      exact ⟨none, related_eq_nil.mp hnil, rfl⟩
    · rintro ⟨o, ho, rfl⟩
      cases o with
      | none => rfl
      | some row =>
        rw [← mem_related, hnil] at ho
        nomatch ho
  · rename_i hne
    rw [List.mem_map]
    constructor
    · rintro ⟨row, hrow, rfl⟩
      exact ⟨some row, mem_related.mp hrow, rfl⟩
    · rintro ⟨o, ho, rfl⟩
      cases o with
      | none => exact absurd (related_eq_nil.mpr ho) hne
      | some row => exact ⟨row, mem_related.mpr ho, rfl⟩

/-! ## Several joins -/

/-- Combinations extended along several relationships, one after the other. -/
def extendAll (db : Database) (rs : List Relation) (bs : List Binding) : List Binding :=
  rs.foldl (fun bs r => bs.flatMap (extend db r)) bs

/-- Whether outer joins along several relationships lead from one combination to another. -/
def Joined (db : Database) : List Relation → Binding → Binding → Prop
  | [], start, bound => bound = start
  | r :: rs, start, bound =>
    ∃ o, Pairs db r (start.row? r.source) o ∧ Joined db rs (start ++ [(r.target, o)]) bound

/-- Bindings are extended along all relationships to those that are joined. -/
theorem mem_extendAll {rs : List Relation} {bs : List Binding} {bound : Binding} :
    bound ∈ extendAll db rs bs ↔ ∃ start ∈ bs, Joined db rs start bound := by
  induction rs generalizing bs with
  | nil => simp [extendAll, Joined]
  | cons r rs ih =>
    have hstep : extendAll db (r :: rs) bs = extendAll db rs (bs.flatMap (extend db r)) := rfl
    rw [hstep, ih]
    constructor
    · rintro ⟨mid, hmid, hj⟩
      obtain ⟨start, hstart, hext⟩ := List.mem_flatMap.mp hmid
      obtain ⟨o, ho, rfl⟩ := mem_extend.mp hext
      exact ⟨start, hstart, o, ho, hj⟩
    · rintro ⟨start, hstart, o, ho, hj⟩
      exact ⟨_, List.mem_flatMap.mpr ⟨start, hstart, mem_extend.mpr ⟨o, ho, rfl⟩⟩, hj⟩

/-- Every combination goes on to a full one. -/
theorem exists_joined (db : Database) (rs : List Relation) (start : Binding) : ∃ bound, Joined db rs start bound := by
  induction rs generalizing start with
  | nil => exact ⟨start, rfl⟩
  | cons r rs ih =>
    obtain ⟨o, ho⟩ := exists_pairs db r (start.row? r.source)
    obtain ⟨bound, hb⟩ := ih (start ++ [(r.target, o)])
    exact ⟨bound, o, ho, hb⟩

theorem exists_joined_nil {start : Binding} {p : Binding → Prop} : (∃ bound, Joined db [] start bound ∧ p bound) ↔ p start :=
  exists_eq_left

/-- A full combination is the first join's extension, made full by the others. -/
theorem exists_joined_cons {r : Relation} {rs : List Relation} {start : Binding} {p : Binding → Prop} :
    (∃ bound, Joined db (r :: rs) start bound ∧ p bound) ↔
      ∃ o, Pairs db r (start.row? r.source) o ∧ ∃ bound, Joined db rs (start ++ [(r.target, o)]) bound ∧ p bound := by
  constructor
  · rintro ⟨bound, ⟨o, ho, hj⟩, hp⟩
    exact ⟨o, ho, bound, hj, hp⟩
  · rintro ⟨o, ho, bound, hj, hp⟩
    exact ⟨bound, ⟨o, ho, hj⟩, hp⟩

/-- A joined binding goes on from its start. -/
theorem prefix_of_joined {rs : List Relation} {start bound : Binding} (h : Joined db rs start bound) : start <+: bound := by
  induction rs generalizing start with
  | nil => exact h ▸ List.prefix_rfl
  | cons r rs ih =>
    obtain ⟨o, -, hj⟩ := h
    exact (List.prefix_append _ _).trans (ih hj)

/-- A full combination binds each table as the combination it started from does. -/
theorem row?_of_joined {rs : List Relation} {start bound : Binding} (h : Joined db rs start bound) {t : Table}
    (ht : (start.lookup t).isSome = true) : bound.row? t = start.row? t := by
  obtain ⟨rest, rfl⟩ := prefix_of_joined h
  exact Binding.row?_append ht rest

/-! ## Joins that lead to at most one row -/

/-- A relationship to one row at most extends a binding in one way. -/
theorem exists_extend_eq {r : Relation} (h : r.IsToOne db) (bound : Binding) :
    ∃ o, extend db r bound = [bound ++ [(r.target, o)]] := by
  have hle : (related db r bound).length ≤ 1 := by
    unfold related
    split
    · exact h _
    · exact Nat.zero_le 1
  rw [extend_eq]
  match hrel : related db r bound with
  | [] => exact ⟨none, rfl⟩
  | [row] => exact ⟨some row, rfl⟩
  | _ :: _ :: _ =>
    rw [hrel] at hle
    simp at hle

/-- Along relationships to at most one row each combination has exactly one full one. -/
theorem exists_extendAll_eq_map {rs : List Relation} (h : ∀ r ∈ rs, r.IsToOne db) :
    ∃ f : Binding → Binding, (∀ start, start <+: f start) ∧ ∀ bs, extendAll db rs bs = bs.map f := by
  induction rs with
  | nil => exact ⟨id, fun _ => List.prefix_rfl, fun bs => (List.map_id bs).symm⟩
  | cons r rs ih =>
    obtain ⟨f, hf, hmap⟩ := ih fun x hx => h x (List.mem_cons_of_mem _ hx)
    choose g hg using fun bound => exists_extend_eq (h r List.mem_cons_self) bound
    refine ⟨fun start => f (start ++ [(r.target, g start)]), fun start => ?_, fun bs => ?_⟩
    · exact (List.prefix_append _ _).trans (hf _)
    · have hstep : extendAll db (r :: rs) bs = extendAll db rs (bs.flatMap (extend db r)) := rfl
      have hbs : bs.flatMap (extend db r) = bs.map fun start => start ++ [(r.target, g start)] := by
        rw [List.map_eq_flatMap, funext hg]
      rw [hstep, hbs, hmap, List.map_map]
      rfl

end Select

end EntitySearch
