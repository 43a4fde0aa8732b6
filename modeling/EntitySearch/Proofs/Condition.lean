import EntitySearch.Sql.Evaluation

/-!
# When conditions hold

A condition lets a row through when it holds nothing or holds on the row (`Clause.passes`). However a chain of conditions is
flattened and grouped when it is built, a conjunction lets through what all of its operands let through
(`passes_conjunction`), and a disjunction what one of those operands does that hold anything (`passes_disjunction`). The value
of a clause depends on the contents of the tables it mentions and on nothing else (`value_congr`).
-/

namespace EntitySearch.Clause

variable {b : Backend} {cells cells' : Contents}

/-- Whether a clause, as an operand of a chain, does not stand in the way: it holds nothing, or it holds. -/
def accepts (b : Backend) (cells : Contents) (c : Clause) : Bool := c.isVoid || c.holds b cells

/-- Whether a clause in the place of a condition lets a row through. -/
def passes (b : Backend) (cells : Contents) (c : Clause) : Bool := c.asCondition.accepts b cells

/-! ## Clauses that hold nothing -/

/-- Clauses are void when each of them is. -/
theorem areVoid_eq_true {cs : List Clause} : areVoid cs = true ↔ ∀ c ∈ cs, c.isVoid = true := by
  induction cs with
  | nil => simp [areVoid]
  | cons c cs ih => simp [areVoid, ih]

/-- Some clauses none of which is void are not. -/
theorem areVoid_eq_false {cs : List Clause} (hne : cs ≠ []) (h : ∀ c ∈ cs, c.isVoid = false) : areVoid cs = false := by
  cases cs with
  | nil => exact absurd rfl hne
  | cons c cs => rw [areVoid, h c List.mem_cons_self, Bool.false_and]

/-- In the place of a condition a clause is itself or, if it holds something, marked as a truth value. -/
theorem asCondition_cases (c : Clause) :
    c.asCondition = c ∨ (c.asCondition = flag c ∧ c.isVoid = false) := by
  cases c with
  | constant v => cases v <;> simp [asCondition, isVoid]
  | coalesce c fallback =>
    simp only [asCondition]
    split
    · exact Or.inr ⟨rfl, rfl⟩
    · exact Or.inl rfl
  | _ => exact Or.inl rfl

/-- Clauses in a row are void when the front and the rest are. -/
theorem areVoid_append (cs ds : List Clause) : areVoid (cs ++ ds) = (areVoid cs && areVoid ds) := by
  induction cs with
  | nil => simp [areVoid]
  | cons c cs ih => simp [areVoid, ih, Bool.and_assoc]

/-- A clause is as void as a condition. -/
theorem isVoid_asCondition (c : Clause) : c.asCondition.isVoid = c.isVoid := by
  rcases asCondition_cases c with h | ⟨h, hv⟩
  · rw [h]
  · rw [h, hv, isVoid]
    all_goals simp

theorem asCondition_asCondition (c : Clause) : c.asCondition.asCondition = c.asCondition := by
  rcases asCondition_cases c with h | ⟨h, -⟩
  · rw [h, h]
  · rw [h, asCondition]
    all_goals simp

/-- As a condition a clause lets the same rows through. -/
theorem passes_asCondition (c : Clause) : c.asCondition.passes b cells = c.passes b cells := by
  rw [passes, asCondition_asCondition, passes]

/-- The values of a chain are those of the clauses in it that hold anything. -/
theorem values_eq_map (cs : List Clause) :
    values b cells cs = (cs.filter fun c => !c.isVoid).map (value b cells) := by
  induction cs with
  | nil => rfl
  | cons c cs ih => by_cases h : c.isVoid <;> simp [values, h, ih]

/-! ## Chains -/

/-- A clause holds when its truth is true. -/
theorem holds_iff {c : Clause} : c.holds b cells = true ↔ Sql.truth (c.value b cells) = some true := by
  rw [holds, beq_iff_eq]

/-- A conjunction holds exactly when no operand stands in the way. -/
theorem holds_conjunction {cs : List Clause} :
    (chain .conjunction cs).holds b cells = true ↔ ∀ c ∈ cs, c.accepts b cells = true := by
  rw [holds_iff, value, Sql.truth_chainValues Truth.all_singleton, values_eq_map, Truth.all_eq_true]
  simp only [List.mem_map, List.mem_filter, accepts, Bool.or_eq_true, holds_iff]
  constructor
  · intro h c hc
    by_cases hv : c.isVoid = true
    · exact Or.inl hv
    · exact Or.inr (h _ ⟨_, ⟨c, ⟨hc, by simpa using hv⟩, rfl⟩, rfl⟩)
  · rintro h _ ⟨_, ⟨c, ⟨hc, hv⟩, rfl⟩, rfl⟩
    exact (h c hc).resolve_left (by simpa using hv)

/-- A disjunction holds exactly when an operand that holds anything does, or when none of them holds anything. -/
theorem holds_disjunction {cs : List Clause} :
    (chain .disjunction cs).holds b cells = true ↔
      areVoid cs = true ∨ ∃ c ∈ cs, c.isVoid = false ∧ c.holds b cells = true := by
  by_cases hv : areVoid cs = true
  · simp [holds, value, hv, Sql.truth]
  · rw [holds_iff, value, if_neg hv, Sql.truth_chainValues Truth.any_singleton, values_eq_map, Truth.any_eq_true]
    simp only [List.mem_map, List.mem_filter, hv, Bool.false_eq_true, false_or, holds_iff]
    constructor
    · rintro ⟨_, ⟨_, ⟨c, ⟨hc, hn⟩, rfl⟩, rfl⟩, ht⟩
      exact ⟨c, hc, by simpa using hn, ht⟩
    · rintro ⟨c, hc, hn, ht⟩
      exact ⟨_, ⟨_, ⟨c, ⟨hc, by simpa using hn⟩, rfl⟩, rfl⟩, ht⟩

theorem holds_group (c : Clause) : (group c).holds b cells = c.holds b cells := by
  simp only [holds, value]

/-- A conjunction accepts a row when each of its members does. -/
theorem accepts_conjunction {cs : List Clause} :
    (chain .conjunction cs).accepts b cells = true ↔ ∀ c ∈ cs, c.accepts b cells = true := by
  rw [accepts, Bool.or_eq_true, holds_conjunction, isVoid, areVoid_eq_true]
  exact ⟨fun h c hc => h.elim (fun hv => by simp [accepts, hv c hc]) (· c hc), Or.inr⟩

/-- A disjunction accepts a row when all its members are void, or one that is not holds. -/
theorem accepts_disjunction {cs : List Clause} :
    (chain .disjunction cs).accepts b cells = true ↔
      areVoid cs = true ∨ ∃ c ∈ cs, c.isVoid = false ∧ c.holds b cells = true := by
  rw [accepts, Bool.or_eq_true, holds_disjunction, isVoid]
  exact ⟨fun h => h.elim Or.inl id, Or.inr⟩

/-- What a clause contributes to a conjunction stands in the way exactly when the clause does. -/
theorem accepts_operands_conjunction (c : Clause) :
    (∀ x ∈ (c.inPlace (.operand .conjunction)).operands .conjunction, x.accepts b cells = true) ↔
      c.accepts b cells = true := by
  cases c with
  | chain k cs =>
    cases k with
    | conjunction => cases cs <;> simp [inPlace, needsGroup, operands, accepts_conjunction]
    | disjunction =>
      cases cs with
      | nil => simp [inPlace, needsGroup, operands]
      | cons c cs =>
        -- A disjunction among other conditions is grouped, and a group always holds something.
        have hg : (group (chain .disjunction (c :: cs))).isVoid = false := rfl
        simp only [inPlace, needsGroup, if_true, operands, List.mem_singleton, forall_eq]
        rw [accepts_disjunction, accepts, hg, Bool.false_or, holds_group, holds_disjunction]
  | _ => simp [inPlace, needsGroup, operands]

/-- Nothing is grouped as an operand of a disjunction. -/
theorem inPlace_disjunction (c : Clause) : c.inPlace (.operand .disjunction) = c := by
  cases c with
  | chain k cs => cases k <;> cases cs <;> rfl
  | _ => rfl

/-- What a clause contributes to a disjunction holds exactly when the clause does and holds anything. -/
theorem holds_operands_disjunction (c : Clause) :
    (∃ x ∈ (c.inPlace (.operand .disjunction)).operands .disjunction, x.isVoid = false ∧ x.holds b cells = true) ↔
      c.isVoid = false ∧ c.holds b cells = true := by
  rw [inPlace_disjunction]
  cases c with
  | chain k cs =>
    cases k with
    | conjunction => simp [operands]
    | disjunction =>
      rw [holds_disjunction, isVoid, operands, if_pos rfl]
      constructor
      · rintro ⟨x, hx, hv, hh⟩
        refine ⟨?_, Or.inr ⟨x, hx, hv, hh⟩⟩
        rw [Bool.eq_false_iff, Ne, areVoid_eq_true]
        intro h
        simp [h x hx] at hv
      · rintro ⟨hv, h | h⟩
        · simp [h] at hv
        · exact h
  | _ => simp [operands]

/-- What a clause contributes to a chain holds nothing exactly when the clause does not. -/
theorem areVoid_operands (k : Connective) (c : Clause) : areVoid (c.operands k) = c.isVoid := by
  cases c with
  | chain l cs =>
    by_cases h : l = k
    · simp [operands, h, isVoid]
    · simp [operands, h, isVoid, areVoid]
  | _ => simp [operands, areVoid]

/-! ## Chains as they are built -/

/-- A clause that holds something and is no mere truth value lets a row through when it holds there. -/
theorem passes_eq_holds {c : Clause} (hc : c.asCondition = c) (hv : c.isVoid = false) :
    c.passes b cells = c.holds b cells := by
  rw [passes, hc, accepts, hv, Bool.false_or]

/-- Conditions joined by `and` let through what each of them does. -/
theorem passes_conjunction {cs : List Clause} :
    (chainAll .conjunction cs).passes b cells = true ↔ ∀ c ∈ cs, c.passes b cells = true := by
  unfold chainAll
  split
  · simp [passes_asCondition]
  · rw [passes, asCondition, accepts_conjunction]
    · simp only [List.mem_flatMap, forall_exists_index, and_imp]
      constructor
      · intro h c hc
        exact (accepts_operands_conjunction _).mp fun x hx => h x c hc hx
      · intro h x c hc hx
        exact (accepts_operands_conjunction _).mpr (h c hc) x hx
    all_goals simp

/-- The operands of a disjunction hold nothing exactly when the conditions it is built from do not. -/
theorem areVoid_disjuncts (cs : List Clause) :
    areVoid (cs.flatMap fun c => (c.asCondition.inPlace (.operand .disjunction)).operands .disjunction) = areVoid cs := by
  induction cs with
  | nil => rfl
  | cons c cs ih =>
    rw [List.flatMap_cons, areVoid_append, ih, inPlace_disjunction, areVoid_operands, isVoid_asCondition, areVoid]

/-- Conditions joined by `or` let through what one of those does that hold anything, and everything if none of them holds
anything. -/
theorem passes_disjunction {cs : List Clause} :
    (chainAll .disjunction cs).passes b cells = true ↔
      areVoid cs = true ∨ ∃ c ∈ cs, c.isVoid = false ∧ c.passes b cells = true := by
  have hpasses : ∀ c : Clause, c.isVoid = false → c.passes b cells = c.asCondition.holds b cells := by
    intro c hv
    rw [passes, accepts, isVoid_asCondition, hv, Bool.false_or]
  unfold chainAll
  split
  · rename_i c
    rw [passes_asCondition]
    cases hv : c.isVoid <;> simp [areVoid, hv, passes, accepts, isVoid_asCondition]
  · rw [passes, asCondition, accepts_disjunction, areVoid_disjuncts]
    · refine or_congr_right ⟨?_, ?_⟩
      · rintro ⟨x, hx, hv, hh⟩
        obtain ⟨c, hc, hx⟩ := List.mem_flatMap.mp hx
        obtain ⟨hcv, hch⟩ := (holds_operands_disjunction c.asCondition).mp ⟨x, hx, hv, hh⟩
        rw [isVoid_asCondition] at hcv
        exact ⟨c, hc, hcv, (hpasses c hcv).trans hch⟩
      · rintro ⟨c, hc, hv, hp⟩
        obtain ⟨x, hx, hxv, hxh⟩ := (holds_operands_disjunction c.asCondition).mpr
          ⟨by rw [isVoid_asCondition, hv], (hpasses c hv).symm.trans hp⟩
        exact ⟨x, List.mem_flatMap.mpr ⟨c, hc, hx⟩, hxv, hxh⟩
    all_goals simp

/-! ## What a clause is made of -/

/-- Whether what a function lists of a clause is listed part by part, so that neither marks nor parentheses matter. -/
structure ListsParts {α : Type} (f : Clause → List α) : Prop where
  chain : ∀ k cs, f (.chain k cs) = cs.flatMap f
  flag : ∀ c, f (.flag c) = f c
  group : ∀ c, f (.group c) = f c

section

variable {α : Type} {f : Clause → List α}

/-- A clause has the same parts as a condition. -/
theorem ListsParts.asCondition (h : ListsParts f) (c : Clause) : f c.asCondition = f c := by
  rcases asCondition_cases c with hc | ⟨hc, -⟩
  · rw [hc]
  · rw [hc, h.flag]

/-- A clause has the same parts in any place. -/
theorem ListsParts.inPlace (h : ListsParts f) (place : Place) (c : Clause) : f (c.inPlace place) = f c := by
  unfold Clause.inPlace
  split
  · exact h.group c
  · rfl

/-- The operands of a clause have its parts. -/
theorem ListsParts.operands (h : ListsParts f) (k : Connective) (c : Clause) : (c.operands k).flatMap f = f c := by
  cases c with
  | chain l cs => by_cases hk : l = k <;> simp [Clause.operands, hk, h.chain]
  | _ => simp [Clause.operands]

/-- Conditions joined by a connective are made of what they are made of by themselves. -/
theorem ListsParts.chainAll (h : ListsParts f) (k : Connective) (cs : List Clause) :
    f (Clause.chainAll k cs) = cs.flatMap f := by
  unfold Clause.chainAll
  split
  · rw [h.asCondition, List.flatMap_singleton]
  · rw [h.chain, List.flatMap_assoc]
    simp only [h.operands, h.inPlace, h.asCondition]

end

theorem tablesOf_eq_flatMap (cs : List Clause) : tablesOf cs = cs.flatMap tables := by
  induction cs with
  | nil => rfl
  | cons c cs ih => rw [tablesOf, ih, List.flatMap_cons]

theorem listsParts_tables : ListsParts tables where
  chain k cs := by rw [tables, tablesOf_eq_flatMap]
  flag c := by rw [tables]
  group c := by rw [tables]

/-- A table is mentioned by clauses when one of them mentions it. -/
theorem mem_tablesOf {cs : List Clause} {t : String} : t ∈ tablesOf cs ↔ ∃ c ∈ cs, t ∈ c.tables := by
  rw [tablesOf_eq_flatMap, List.mem_flatMap]

theorem tablesOf_append (cs ds : List Clause) : tablesOf (cs ++ ds) = tablesOf cs ++ tablesOf ds := by
  simp only [tablesOf_eq_flatMap, List.flatMap_append]

/-- The parts of a clause mention its tables. -/
theorem tablesOf_parts (c : Clause) : tablesOf c.parts = c.tables := by
  cases c <;> simp [parts, tablesOf, tables]

/-- Conditions joined by a connective mention the tables that they mention by themselves. -/
theorem tables_chainAll (k : Connective) (cs : List Clause) : (chainAll k cs).tables = tablesOf cs := by
  rw [listsParts_tables.chainAll, tablesOf_eq_flatMap]

theorem constantsOf_eq_flatMap (cs : List Clause) : constantsOf cs = cs.flatMap constants := by
  induction cs with
  | nil => rfl
  | cons c cs ih => rw [constantsOf, ih, List.flatMap_cons]

theorem listsParts_constants : ListsParts constants where
  chain k cs := by rw [constants, constantsOf_eq_flatMap]
  flag c := by rw [constants]
  group c := by rw [constants]

mutual

/-- The value of a clause depends only on the contents of the tables it mentions. -/
theorem value_congr : ∀ (c : Clause), (∀ t ∈ c.tables, cells t = cells' t) → c.value b cells = c.value b cells'
  | .column t n, h => by rw [value, value, h t (by simp [tables])]
  | .constant v, _ => by rw [value, value]
  | .coalesce c fallback, h => by
    rw [value, value, value_congr c fun t ht => h t (by simpa [tables] using ht)]
  | .concat cs, h => by
    rw [value, value, values_congr cs fun t ht => h t (by simpa [tables] using ht)]
  | .cast c, h => by
    rw [value, value, value_congr c fun t ht => h t (by simpa [tables] using ht)]
  | .like c pattern escape, h => by
    rw [value, value, value_congr c fun t ht => h t (by simpa [tables] using ht)]
  | .equals c v, h => by
    have hc := value_congr c fun t ht => h t (by simpa [tables] using ht)
    cases v <;> simp only [value, hc]
  | .chain k cs, h => by
    have hcs := values_congr cs fun t ht => h t (by simpa [tables] using ht)
    cases k <;> simp only [value, hcs]
  | .flag c, h => by
    rw [value, value, value_congr c fun t ht => h t (by simpa [tables] using ht)]
  | .group c, h => by
    rw [value, value, value_congr c fun t ht => h t (by simpa [tables] using ht)]

/-- The values of clauses depend only on the contents of the tables they mention. -/
theorem values_congr : ∀ (cs : List Clause), (∀ t ∈ tablesOf cs, cells t = cells' t) →
    values b cells cs = values b cells' cs
  | [], _ => rfl
  | c :: cs, h => by
    have hc := value_congr c fun t ht => h t (by simp [tablesOf, ht])
    have hcs := values_congr cs fun t ht => h t (by simp [tablesOf, ht])
    simp only [values, hc, hcs]

end

/-- Whether a condition lets a row through depends only on the contents of the tables it mentions. -/
theorem passes_congr {c : Clause} (h : ∀ t ∈ c.tables, cells t = cells' t) : c.passes b cells = c.passes b cells' := by
  rw [← listsParts_tables.asCondition] at h
  simp only [passes, accepts, holds, value_congr _ h]

end EntitySearch.Clause
