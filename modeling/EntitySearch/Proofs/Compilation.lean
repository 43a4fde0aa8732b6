import Mathlib.Data.List.Forall2
import EntitySearch.Sql.Clause
import EntitySearch.Proofs.Condition

/-!
# From expressions to clauses

`Clause.ofExpr` succeeds on several expressions exactly when it does on each of them (`ofExprs_eq_ok`), and the clause of an
expression mentions the tables the expression mentions, neither more nor fewer (`tables_ofExpr`): no step of the building adds
or loses a part.
-/

namespace EntitySearch

/-- A computation made of two steps succeeds when both do. -/
theorem bind_eq_ok {ε α β : Type} {x : Except ε α} {f : α → Except ε β} {y : β} :
    (x >>= f) = .ok y ↔ ∃ a, x = .ok a ∧ f a = .ok y := by
  cases x <;> simp [bind, Except.bind]

/-- A computation made of two steps fails when one of them does. -/
theorem bind_eq_error {ε α β : Type} {x : Except ε α} {g : α → Except ε β} {f : ε} :
    (x >>= g) = .error f ↔ x = .error f ∨ ∃ a, x = .ok a ∧ g a = .error f := by
  cases x <;> simp [bind, Except.bind]

/-- What is done with a result fails only as the result does. -/
theorem bind_pure_eq_error {ε α β : Type} {x : Except ε α} {g : α → β} {f : ε}
    (h : (x >>= fun a => pure (g a)) = .error f) : x = .error f := by
  rcases bind_eq_error.mp h with h | ⟨a, -, h⟩
  · exact h
  · nomatch h

/-- A computation whose result is changed succeeds when it does. -/
theorem map_eq_ok {ε α β : Type} {x : Except ε α} {g : α → β} {y : β} : x.map g = .ok y ↔ ∃ a, x = .ok a ∧ g a = y := by
  cases x <;> simp [Except.map]

theorem map_eq_error {ε α β : Type} {x : Except ε α} {g : α → β} {f : ε} : x.map g = .error f ↔ x = .error f := by
  cases x <;> simp [Except.map]

/-- Of items related one by one to others, each of the others has an item it is related to. -/
theorem exists_left_of_mem {α β : Type} {R : α → β → Prop} {as : List α} {bs : List β} (h : List.Forall₂ R as bs) {b : β}
    (hb : b ∈ bs) : ∃ a ∈ as, R a b := by
  induction h with
  | nil => nomatch hb
  | @cons a b' as bs hab _ ih =>
    rcases List.mem_cons.mp hb with rfl | hb
    · exact ⟨a, List.mem_cons_self, hab⟩
    · obtain ⟨x, hx, hr⟩ := ih hb
      exact ⟨x, List.mem_cons_of_mem _ hx, hr⟩

/-- Items that are each related to something are related one by one to a list. -/
theorem exists_forall₂ {α β : Type} {R : α → β → Prop} {as : List α} (h : ∀ a ∈ as, ∃ b, R a b) :
    ∃ bs, List.Forall₂ R as bs := by
  induction as with
  | nil => exact ⟨[], .nil⟩
  | cons a as ih =>
    obtain ⟨b, hb⟩ := h a List.mem_cons_self
    obtain ⟨bs, hbs⟩ := ih fun x hx => h x (List.mem_cons_of_mem _ hx)
    exact ⟨b :: bs, .cons hb hbs⟩

/-- Items related one by one through something in between are related to a list in between. -/
theorem exists_between {α β γ : Type} {R : α → γ → Prop} {S : γ → β → Prop} {as : List α} {bs : List β}
    (h : List.Forall₂ (fun a b => ∃ c, R a c ∧ S c b) as bs) : ∃ cs, List.Forall₂ R as cs ∧ List.Forall₂ S cs bs := by
  induction h with
  | nil => exact ⟨[], .nil, .nil⟩
  | cons hab _ ih =>
    obtain ⟨c, ha, hb⟩ := hab
    obtain ⟨cs, has, hbs⟩ := ih
    exact ⟨c :: cs, .cons ha has, .cons hb hbs⟩

/-- Where related items have the same image, so have lists that are related one by one. -/
theorem map_eq_map_of_forall₂ {α β γ : Type} {R : α → β → Prop} {f : α → γ} {g : β → γ} {as : List α} {bs : List β}
    (h : List.Forall₂ R as bs) (hfg : ∀ a b, R a b → f a = g b) : as.map f = bs.map g := by
  rw [← List.forall₂_eq_eq_eq, List.forall₂_map_left_iff, List.forall₂_map_right_iff]
  exact h.imp hfg

namespace Expr

mutual

/-- The names of the tables an expression mentions, in order of mention. -/
def tables : Expr → List String
  | .column table _ => [table]
  | .literal _ => []
  | .coalesce e _ => e.tables
  | .concat es => tablesOf es
  | .asText e => e.tables
  | .matching e _ _ => e.tables
  | .equals e _ => e.tables
  | .allOf es => tablesOf es
  | .anyOf es => tablesOf es
  | .foreign _ => []

/-- The names of the tables several expressions mention, in order of mention. -/
def tablesOf : List Expr → List String
  | [] => []
  | e :: es => e.tables ++ tablesOf es

end

end Expr

namespace Clause

variable {catalog : Catalog}

/-- Several expressions compile exactly when each of them does. -/
theorem ofExprs_eq_ok {es : List Expr} {cs : List Clause} :
    ofExprs catalog es = .ok cs ↔ List.Forall₂ (fun e c => ofExpr catalog e = .ok c) es cs := by
  induction es generalizing cs with
  | nil =>
    rw [List.forall₂_nil_left_iff, ofExprs]
    exact ⟨fun h => (Except.ok.inj h).symm, fun h => h ▸ rfl⟩
  | cons e es ih =>
    rw [ofExprs, bind_eq_ok, List.forall₂_cons_left_iff]
    constructor
    · rintro ⟨c, hc, h⟩
      obtain ⟨ds, hds, h⟩ := bind_eq_ok.mp h
      exact ⟨c, ds, hc, ih.mp hds, (Except.ok.inj h).symm⟩
    · rintro ⟨c, ds, hc, hds, rfl⟩
      exact ⟨c, hc, bind_eq_ok.mpr ⟨ds, ih.mpr hds, rfl⟩⟩

/-! ## Tables -/

theorem tables_append (c d : Clause) : (append c d).tables = c.tables ++ d.tables := by
  simp only [append, tables, tablesOf_append, tablesOf_parts, listsParts_tables.inPlace]
  split
  · rw [tablesOf_parts, listsParts_tables.inPlace]
  · simp [tablesOf, listsParts_tables.inPlace]

/-- Texts joined one by one mention the tables of all. -/
theorem tables_foldl_append (c : Clause) (cs : List Clause) : (cs.foldl append c).tables = c.tables ++ tablesOf cs := by
  induction cs generalizing c with
  | nil => simp [tablesOf]
  | cons d cs ih => rw [List.foldl_cons, ih, tables_append, tablesOf, List.append_assoc]

/-- A chain of texts mentions the tables of all. -/
theorem tables_concatAll (cs : List Clause) : (concatAll cs).tables = tablesOf cs := by
  cases cs with
  | nil => simp [concatAll, tables, tablesOf]
  | cons c cs => rw [concatAll, tables_foldl_append, tablesOf]

/-- A column mentions its table. -/
theorem tables_columnIn {table name : String} {c : Clause} (h : columnIn catalog table name = .ok c) :
    c.tables = [table] := by
  unfold columnIn at h
  split at h
  · nomatch h
  · split at h
    · rw [← Except.ok.inj h, tables]
    · nomatch h

mutual

/-- The clause of an expression mentions the tables of the expression. -/
theorem tables_ofExpr : ∀ (e : Expr) {c : Clause}, ofExpr catalog e = .ok c → c.tables = e.tables
  | .column table name, c, h => tables_columnIn h
  | .literal v, c, h => by
    rw [← Except.ok.inj h, tables, Expr.tables]
  | .coalesce e fallback, c, h => by
    obtain ⟨d, hd, h⟩ := bind_eq_ok.mp h
    rw [← Except.ok.inj h, tables, Expr.tables, tables_ofExpr e hd]
  | .concat es, c, h => by
    obtain ⟨ds, hds, h⟩ := bind_eq_ok.mp h
    rw [← Except.ok.inj h, tables_concatAll, Expr.tables, tablesOf_ofExprs es hds]
  | .asText e, c, h => by
    obtain ⟨d, hd, h⟩ := bind_eq_ok.mp h
    rw [← Except.ok.inj h, tables, Expr.tables, tables_ofExpr e hd]
  | .matching e pattern escape, c, h => by
    obtain ⟨d, hd, h⟩ := bind_eq_ok.mp h
    rw [← Except.ok.inj h, tables, listsParts_tables.inPlace, Expr.tables, tables_ofExpr e hd]
  | .equals e v, c, h => by
    obtain ⟨d, hd, h⟩ := bind_eq_ok.mp h
    rw [← Except.ok.inj h, tables, listsParts_tables.inPlace, Expr.tables, tables_ofExpr e hd]
  | .allOf es, c, h => by
    obtain ⟨ds, hds, h⟩ := bind_eq_ok.mp h
    rw [← Except.ok.inj h, tables_chainAll, Expr.tables, tablesOf_ofExprs es hds]
  | .anyOf es, c, h => by
    obtain ⟨ds, hds, h⟩ := bind_eq_ok.mp h
    rw [← Except.ok.inj h, tables_chainAll, Expr.tables, tablesOf_ofExprs es hds]
  | .foreign v, c, h => nomatch h

/-- The clauses of several expressions mention the tables of the expressions. -/
theorem tablesOf_ofExprs : ∀ (es : List Expr) {cs : List Clause}, ofExprs catalog es = .ok cs →
    tablesOf cs = Expr.tablesOf es
  | [], cs, h => by
    rw [← Except.ok.inj h, tablesOf, Expr.tablesOf]
  | e :: es, cs, h => by
    obtain ⟨d, hd, h⟩ := bind_eq_ok.mp h
    obtain ⟨ds, hds, h⟩ := bind_eq_ok.mp h
    rw [← Except.ok.inj h, tablesOf, Expr.tablesOf, tables_ofExpr e hd, tablesOf_ofExprs es hds]

end

end Clause

end EntitySearch
