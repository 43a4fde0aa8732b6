import EntitySearch.Proofs.Canonical
import EntitySearch.Proofs.Compilation
import EntitySearch.Proofs.Containment
import EntitySearch.Proofs.Meaning

/-!
# Conditions read back

The text of the condition that an expression compiles to is read as the expression in canonical form
(`condition_reads_back`): no parenthesis is missing, and no string reaches beyond its quotation marks. The clause of an
expression says its canonical form (`Clause.Says`) because every step of the building keeps what its parts say
(`Says.append`, `says_chainAll`), and what a legible clause says is what its text is read as.
-/

namespace EntitySearch

open Sql (Symbol)

namespace Clause

/-- Whether a clause stands in parentheses. -/
def isGroup : Clause → Bool
  | .group _ => true
  | _ => false

/-- Whether a clause can be read back, stands in no parentheses and says an expression. -/
structure Says (c : Clause) (e : Expr) : Prop where
  legible : c.Legible
  isGroup : c.isGroup = false
  reading : c.reading = e

section Says

variable {c d : Clause} {e f : Expr} {k : Connective}

/-- A clause that says an expression reads as the texts of it. -/
theorem Says.texts (h : c.Says e) : textReadings [c] = e.texts := by
  obtain ⟨hlegible, hgroup, rfl⟩ := h
  cases hlegible with
  | concat => simp [textReadings, Clause.reading, Expr.texts]
  | flag hmark _ =>
    rcases mark_cases hmark with ⟨v, rfl⟩ | ⟨d, fallback, rfl⟩
    · simp [textReadings, Clause.reading, Expr.texts]
    · simp [textReadings, Clause.reading, Expr.texts]
  | group => cases hgroup
  | @chain k => cases k <;> simp [textReadings, Clause.reading, Expr.texts]
  | _ => simp [textReadings, Clause.reading, Expr.texts]

/-- A clause that says an expression has its operands. -/
theorem Says.operands (h : c.Says e) : (c.operands k).map Clause.reading = e.operands k := by
  obtain ⟨hlegible, hgroup, rfl⟩ := h
  cases hlegible with
  | flag hmark _ =>
    rcases mark_cases hmark with ⟨v, rfl⟩ | ⟨d, fallback, rfl⟩
    · cases k <;> simp [Clause.operands, Clause.reading, Expr.operands]
    · cases k <;> simp [Clause.operands, Clause.reading, Expr.operands]
  | group => cases hgroup
  | @chain l => cases k <;> cases l <;> simp [Clause.operands, Clause.reading, Expr.operands, readings_eq_map]
  | _ => cases k <;> simp [Clause.operands, Clause.reading, Expr.operands]

/-- A clause says the same as a condition. -/
theorem Says.asCondition (h : c.Says e) : c.asCondition.Says e := by
  rcases asCondition_cases c with hsame | ⟨hmark, -⟩
  · rw [hsame]
    exact h
  · rw [hmark]
    refine ⟨.flag hmark h.legible, rfl, ?_⟩
    rw [Clause.reading]
    exact h.reading

/-! ### Places -/

/-- The level of the loosest operator that may stand in a place without parentheses. -/
def Place.level : Place → ℕ
  | .part => Symbol.bars.rank
  | .compared => 0
  | .operand k => k.symbol.rank

/-- What needs no parentheses in a place binds as tightly as the place asks. -/
theorem Legible.level_le (h : c.Legible) {place : Place} (hplace : needsGroup place c = false) : c.level ≤ place.level := by
  cases h with
  | @chain k cs hlength _ _ =>
    match cs, hlength with
    | _ :: _ :: _, _ =>
      cases place with
      | operand l => cases k <;> cases l <;> simp_all [needsGroup, Clause.level, Place.level, Connective.symbol, Symbol.rank]
      | _ => cases hplace
  | flag hmark _ =>
    rw [Clause.level, level_of_mark hmark]
    exact Nat.zero_le _
  | concat => cases place with
    | operand l => cases l <;> simp [Clause.level, Place.level, Connective.symbol, Symbol.rank]
    | part => exact Nat.le_refl _
    | compared => cases hplace
  | like => cases place with
    | operand l => cases l <;> simp [Clause.level, Place.level, Connective.symbol, Symbol.rank]
    | _ => cases hplace
  | equals => cases place with
    | operand l => cases l <;> simp [Clause.level, Place.level, Connective.symbol, Symbol.rank]
    | _ => cases hplace
  | _ => exact Nat.zero_le _

/-- **Parentheses stand wherever they are needed**: in its place no clause binds more loosely than the place allows. -/
theorem Legible.level_inPlace (h : c.Legible) (place : Place) : (c.inPlace place).level ≤ place.level := by
  unfold Clause.inPlace
  split
  · exact Nat.zero_le _
  · rename_i hplace
    exact h.level_le (Bool.not_eq_true _ ▸ hplace)

/-- A clause stays legible in any place. -/
theorem Legible.inPlace (h : c.Legible) (place : Place) : (c.inPlace place).Legible := by
  unfold Clause.inPlace
  split
  · exact .group h
  · exact h

/-- The brackets that a place asks for change no reading. -/
theorem reading_inPlace (place : Place) (c : Clause) : (c.inPlace place).reading = c.reading := by
  unfold inPlace
  split
  · rw [Clause.reading]
  · rfl

/-! ### Texts -/

/-- As a part of a text a clause reads as the texts of the expression. -/
theorem Says.texts_inPlace (h : c.Says e) : textReadings [c.inPlace .part] = e.texts := by
  rw [← h.texts]
  unfold inPlace
  split
  · rename_i hgroup
    rcases textReadings_singleton c with hsingle | ⟨ps, rfl⟩
    · rw [hsingle]
      simp [textReadings, Clause.reading]
    · exact absurd hgroup (by simp [needsGroup])
  · rfl

theorem textReadings_append (cs ds : List Clause) : textReadings (cs ++ ds) = textReadings cs ++ textReadings ds := by
  simp only [textReadings_eq_flatMap (cs ++ ds), List.flatMap_append, ← textReadings_eq_flatMap]

theorem textReadings_parts (c : Clause) : textReadings c.parts = textReadings [c] := by
  cases c <;> simp [parts, textReadings]

/-- The members of a chain of texts, or a clause by itself, at the places they have in a longer chain. -/
theorem Legible.parts (h : c.Legible) (hlevel : c.level ≤ Symbol.bars.rank) :
    c.parts ≠ [] ∧ ∀ p ∈ c.parts, p.Legible ∧ p.level ≤ Symbol.bars.rank := by
  have hsingle : [c] ≠ [] ∧ ∀ p ∈ [c], p.Legible ∧ p.level ≤ Symbol.bars.rank := by
    simpa using ⟨h, hlevel⟩
  cases h with
  | concat hlength hlevels hcs =>
    have hne := List.ne_nil_of_length_pos (Nat.lt_of_lt_of_le Nat.zero_lt_two hlength)
    exact ⟨hne, fun p hp => ⟨hcs p hp, hlevels p hp⟩⟩
  | _ => exact hsingle

/-- **Two texts one after the other say their texts one after the other.** -/
theorem Says.append (hc : c.Says e) (hd : d.Says f) : (append c d).Says (.concat (e.texts ++ f.texts)) := by
  have hfront := (hc.legible.inPlace .part).parts (hc.legible.level_inPlace .part)
  have hrear := (hd.legible.inPlace .part).parts (hd.legible.level_inPlace .part)
  -- A second text of the type of the first is taken apart, any other stands whole; either way its texts are the same.
  have hbehind : ∃ ps, (if d.type = c.type then (d.inPlace .part).parts else [d.inPlace .part]) = ps ∧
      textReadings ps = f.texts ∧ ps ≠ [] ∧ ∀ p ∈ ps, p.Legible ∧ p.level ≤ Symbol.bars.rank := by
    refine ⟨_, rfl, ?_⟩
    split
    · exact ⟨(textReadings_parts _).trans hd.texts_inPlace, hrear⟩
    · refine ⟨hd.texts_inPlace, List.cons_ne_nil _ _, fun p hp => ?_⟩
      rw [List.mem_singleton.mp hp]
      exact ⟨hd.legible.inPlace .part, hd.legible.level_inPlace .part⟩
  obtain ⟨ps, hps, htexts, hne, hall⟩ := hbehind
  have hmembers := List.forall_mem_append.mpr ⟨hfront.2, hall⟩
  rw [Clause.append, hps]
  refine ⟨.concat ?_ (fun p hp => (hmembers p hp).2) fun p hp => (hmembers p hp).1, rfl, ?_⟩
  · have hfront := List.length_pos_of_ne_nil hfront.1
    have hrear := List.length_pos_of_ne_nil hne
    rw [List.length_append]
    omega
  · rw [Clause.reading, textReadings_append, textReadings_parts, hc.texts_inPlace, htexts]

/-- Texts added to a chain of texts say their texts behind those of the chain. -/
theorem says_foldl_append {cs : List Clause} {es : List Expr} (h : List.Forall₂ Says cs es) :
    ∀ {c : Clause} {fs : List Expr}, c.Says (.concat fs) →
      (cs.foldl Clause.append c).Says (.concat (fs ++ es.flatMap Expr.texts)) := by
  -- The chain so far grows with every step, so that the induction is for all of them.
  induction h with
  | nil =>
    intro c fs hc
    rw [List.foldl_nil, List.flatMap_nil, List.append_nil]
    exact hc
  | cons hd _ ih =>
    intro c fs hc
    have hrest := ih (hc.append hd)
    rw [List.append_assoc] at hrest
    exact hrest

/-- **A chain of texts says the texts of its members one after the other.** -/
theorem says_concatAll {cs : List Clause} {es : List Expr} (hne : cs ≠ []) (hes : ∀ e ∈ es, e.IsCanonical)
    (h : List.Forall₂ Says cs es) : (concatAll cs).Says (Sql.collapse .concat (es.flatMap Expr.texts)) := by
  cases h with
  | nil => exact absurd rfl hne
  | @cons c e cs es hc hcs =>
    cases hcs with
    | nil =>
      rw [List.flatMap_singleton, (hes e List.mem_cons_self).collapse_texts]
      exact hc
    | @cons d f cs es hd hcs =>
      have hlength := Sql.length_le_length_flatMap fun x hx => (hes x hx).texts_ne_nil
      have htwo : 2 ≤ ((e :: f :: es).flatMap Expr.texts).length := Nat.le_trans (by simp) hlength
      have hchain := says_foldl_append hcs (hc.append hd)
      rw [Sql.collapse_eq htwo, List.flatMap_cons, List.flatMap_cons, ← List.append_assoc]
      exact hchain

/-! ### Conditions -/

/-- What a condition contributes to a chain binds more tightly than the chain does. -/
theorem Legible.operands (h : c.Legible) (hlevel : c.level ≤ k.symbol.rank) :
    c.operands k ≠ [] ∧ ∀ x ∈ c.operands k, x.Legible ∧ x.level < k.symbol.rank := by
  have hsingle : c.operands k = [c] → c.level ≠ k.symbol.rank →
      c.operands k ≠ [] ∧ ∀ x ∈ c.operands k, x.Legible ∧ x.level < k.symbol.rank := by
    intro hoperands hne
    rw [hoperands]
    refine ⟨List.cons_ne_nil _ _, fun x hx => ?_⟩
    rw [List.mem_singleton.mp hx]
    exact ⟨h, Nat.lt_of_le_of_ne hlevel hne⟩
  cases h with
  | @chain l cs hlength hlevels hcs =>
    by_cases hl : l = k
    · subst hl
      have hoperands : (Clause.chain l cs).operands l = cs := by simp [Clause.operands]
      rw [hoperands]
      exact ⟨List.ne_nil_of_length_pos (by omega), fun x hx => ⟨hcs x hx, hlevels x hx⟩⟩
    · refine hsingle (by simp [Clause.operands, hl]) ?_
      cases l <;> cases k <;> simp_all [Clause.level, Connective.symbol, Symbol.rank]
  | flag hmark _ =>
    refine hsingle rfl ?_
    rw [Clause.level, level_of_mark hmark]
    cases k <;> decide
  | _ =>
    refine hsingle rfl ?_
    cases k <;> simp [Clause.level, Connective.symbol, Symbol.rank]

/-- As an operand a clause has the operands of the expression. -/
theorem Says.operands_inPlace (h : c.Says e) : ((c.inPlace (.operand k)).operands k).map Clause.reading = e.operands k := by
  rw [← h.operands]
  unfold inPlace
  split
  · rename_i hgroup
    have hsingle : c.operands k = [c] := by
      cases k <;> cases c with
      | chain l cs => cases l <;> cases cs <;> simp_all [needsGroup, Clause.operands]
      | _ => rfl
    rw [hsingle]
    simp [Clause.operands, Clause.reading]
  · rfl

/-- What a condition contributes to a chain that it is a member of. -/
def contribution (k : Connective) (c : Clause) : List Clause := (c.asCondition.inPlace (.operand k)).operands k

/-- What a clause contributes to a chain is legible, binds tighter, and reads as the operands of the expression. -/
theorem Says.contribution (h : c.Says e) (k : Connective) : contribution k c ≠ [] ∧
    (∀ x ∈ contribution k c, x.Legible ∧ x.level < k.symbol.rank) ∧ (contribution k c).map Clause.reading = e.operands k := by
  have hlegible := h.asCondition.legible
  obtain ⟨hne, hall⟩ := (hlegible.inPlace (.operand k)).operands (hlegible.level_inPlace (.operand k))
  exact ⟨hne, hall, h.asCondition.operands_inPlace⟩

/-- A chain reads as the chain of the readings. -/
theorem reading_chain (k : Connective) (cs : List Clause) : (chain k cs).reading = k.join (cs.map Clause.reading) := by
  cases k <;> simp only [Clause.reading, Connective.join, readings_eq_map]

/-- What the members of a chain contribute to it. -/
theorem says_contributions {cs : List Clause} {es : List Expr} (h : List.Forall₂ Says cs es) :
    cs.length ≤ (cs.flatMap (Clause.contribution k)).length ∧
    (∀ x ∈ cs.flatMap (Clause.contribution k), x.Legible ∧ x.level < k.symbol.rank) ∧
      (cs.flatMap (Clause.contribution k)).map Clause.reading = es.flatMap (Expr.operands k) := by
  induction h with
  | nil => exact ⟨Nat.le_refl _, List.forall_mem_nil _, rfl⟩
  | cons hc _ ih =>
    obtain ⟨hne, hall, hreading⟩ := hc.contribution k
    obtain ⟨hlength, hall', hreading'⟩ := ih
    rw [List.flatMap_cons, List.flatMap_cons, List.map_append, hreading, hreading']
    refine ⟨?_, List.forall_mem_append.mpr ⟨hall, hall'⟩, rfl⟩
    have hpos := List.length_pos_of_ne_nil hne
    rw [List.length_cons, List.length_append]
    omega

/-- **A chain of conditions says what its members say.** -/
theorem says_chainAll {cs : List Clause} {es : List Expr} (hne : cs ≠ []) (hes : ∀ e ∈ es, e.IsCanonical)
    (h : List.Forall₂ Says cs es) : (chainAll k cs).Says (Sql.collapse k.join (es.flatMap (Expr.operands k))) := by
  obtain ⟨hlength, hall, hreading⟩ := says_contributions (k := k) h
  cases h with
  | nil => exact absurd rfl hne
  | @cons c e cs es hc hcs =>
    cases hcs with
    | nil =>
      rw [List.flatMap_singleton, (hes e List.mem_cons_self).collapse_operands]
      exact hc.asCondition
    | @cons d f cs es hd hcs =>
      have htwo : 2 ≤ ((c :: d :: cs).flatMap (Clause.contribution k)).length := by
        simp only [List.length_cons] at hlength
        omega
      have hchain : chainAll k (c :: d :: cs) = chain k ((c :: d :: cs).flatMap (Clause.contribution k)) := rfl
      rw [hchain, ← hreading, Sql.collapse_eq (by rwa [List.length_map])]
      exact ⟨.chain htwo (fun x hx => (hall x hx).2) fun x hx => (hall x hx).1, rfl, reading_chain k _⟩

end Says

end Clause

namespace Expr

/-- The names of tables are written so that they can be read. -/
theorem isReadableName_table (t : Table) : Sql.IsReadableName t.name := by
  refine Sql.isReadableName_of_getLast? ?_
  cases t <;> decide

/-- No name of the schema ends in a line end. -/
theorem isReadableName_column {t : Table} {name : String} (h : name ∈ t.columnNames) : Sql.IsReadableName name := by
  have hall : ∀ name ∈ t.columnNames, name.toList.getLast? ≠ some '\n' := by
    cases t <;> decide
  exact Sql.isReadableName_of_getLast? (hall name h)

/-- The clauses of several expressions, of which each says the canonical form of its expression. -/
theorem exists_ofExprs {es : List Expr} (h : ∀ e ∈ es, ∃ c, Clause.ofExpr Catalog.ofSchema e = .ok c ∧ c.Says e.canonical) :
    ∃ cs, Clause.ofExprs Catalog.ofSchema es = .ok cs ∧ List.Forall₂ Clause.Says cs (es.map canonical) := by
  obtain ⟨cs, hcs⟩ := exists_forall₂ h
  refine ⟨cs, Clause.ofExprs_eq_ok.mpr (hcs.imp fun _ _ hc => hc.1), ?_⟩
  rw [List.forall₂_map_right_iff]
  exact (hcs.imp fun _ _ hc => hc.2).flip

theorem ne_nil_of_forall₂ {cs : List Clause} {es : List Expr} (h : List.Forall₂ Clause.Says cs (es.map canonical))
    (hne : es ≠ []) : cs ≠ [] := by
  rintro rfl
  exact hne (List.map_eq_nil_iff.mp (List.forall₂_nil_left_iff.mp h))

/-- A chain of conditions that each compile to what they say compiles to what the chain says. -/
theorem exists_chainAll (k : Connective) {es : List Expr} (hne : es ≠ [])
    (h : ∀ e ∈ es, ∃ c, Clause.ofExpr Catalog.ofSchema e = .ok c ∧ c.Says e.canonical) :
    ∃ c, (Clause.ofExprs Catalog.ofSchema es).map (Clause.chainAll k) = .ok c ∧ c.Says (k.join es).canonical := by
  obtain ⟨cs, hcs, hsaid⟩ := exists_ofExprs h
  refine ⟨Clause.chainAll k cs, by rw [hcs]; rfl, ?_⟩
  rw [canonical_join]
  exact Clause.says_chainAll (ne_nil_of_forall₂ hsaid hne) (isCanonical_canonicals es) hsaid

/-- A chain of texts, too; without any it is the empty text. -/
theorem exists_concatAll {es : List Expr} (h : ∀ e ∈ es, ∃ c, Clause.ofExpr Catalog.ofSchema e = .ok c ∧ c.Says e.canonical) :
    ∃ c, (Clause.ofExprs Catalog.ofSchema es).map Clause.concatAll = .ok c ∧ c.Says (concat es).canonical := by
  obtain ⟨cs, hcs, hsaid⟩ := exists_ofExprs h
  refine ⟨Clause.concatAll cs, by rw [hcs]; rfl, ?_⟩
  by_cases hne : es = []
  · subst hne
    rw [List.forall₂_nil_right_iff.mp hsaid, Clause.concatAll, canonical]
    exact ⟨.constant trivial, rfl, by rw [Clause.reading]⟩
  · rw [canonical_concat hne]
    exact Clause.says_concatAll (ne_nil_of_forall₂ hsaid hne) (isCanonical_canonicals es) hsaid

/-- **A writable expression compiles to a clause that says its canonical form.** -/
theorem Writable.exists_clause {e : Expr} (h : e.Writable) :
    ∃ c, Clause.ofExpr Catalog.ofSchema e = .ok c ∧ c.Says e.canonical := by
  induction h with
  | @column t name hname =>
    refine ⟨_, ofExpr_column hname, .column (isReadableName_table t) (isReadableName_column hname), rfl, ?_⟩
    rw [Clause.reading, canonical]
  | @literal v hv =>
    refine ⟨_, rfl, .constant hv, rfl, ?_⟩
    rw [Clause.reading, canonical]
  | @coalesce e fallback he ih =>
    obtain ⟨c, hc, hsaid⟩ := ih
    refine ⟨_, bind_eq_ok.mpr ⟨c, hc, rfl⟩, .coalesce hsaid.legible, rfl, ?_⟩
    rw [Clause.reading, canonical, hsaid.reading]
  | concat hes ih => exact exists_concatAll ih
  | @asText e he ih =>
    obtain ⟨c, hc, hsaid⟩ := ih
    refine ⟨_, bind_eq_ok.mpr ⟨c, hc, rfl⟩, .cast hsaid.legible, rfl, ?_⟩
    rw [Clause.reading, canonical, hsaid.reading]
  | @matching e pattern escape he ih =>
    obtain ⟨c, hc, hsaid⟩ := ih
    have hlevel := (hsaid.legible.level_inPlace .compared).trans (Nat.zero_le Symbol.bars.rank)
    refine ⟨_, bind_eq_ok.mpr ⟨c, hc, rfl⟩, .like hlevel (hsaid.legible.inPlace _), rfl, ?_⟩
    rw [Clause.reading, Clause.reading_inPlace, canonical, hsaid.reading]
  | @equals e v hv he ih =>
    obtain ⟨c, hc, hsaid⟩ := ih
    have hlevel := (hsaid.legible.level_inPlace .compared).trans (Nat.zero_le Symbol.bars.rank)
    refine ⟨_, bind_eq_ok.mpr ⟨c, hc, rfl⟩, .equals hlevel hv (hsaid.legible.inPlace _), rfl, ?_⟩
    rw [Clause.reading, Clause.reading_inPlace, canonical, hsaid.reading]
  | allOf hne _ ih => exact exists_chainAll .conjunction hne ih
  | anyOf hne _ ih => exact exists_chainAll .disjunction hne ih

end Expr

/-! ## A condition with nested chains -/

/-- The name on a card, made of three texts: the last of them is none. -/
def cardName (fallback : String) : Expr :=
  .concat [.coalesce (.column "contact" "first_name") fallback,
    .concat [.literal (.text " "), .column "contact" "last_name"], .concat []]

/-- A condition on the cards of an agency: the name matches a pattern, or there is no address. -/
def cardCondition (tenant fallback pattern : String) : Expr :=
  .allOf [.allOf [.equals (.column "contact" "tenant_id") (.text tenant)],
    .anyOf [.matching (cardName fallback) pattern (some "\\"), .equals (.asText (.column "contact" "email")) .null]]

theorem writable_contact {name : String} (h : name ∈ Table.contact.columnNames) : (Expr.column "contact" name).Writable :=
  .column (t := .contact) h

theorem writable_cardName (fallback : String) : (cardName fallback).Writable := by
  refine .concat (List.forall_mem_cons.mpr ⟨.coalesce (writable_contact (by decide)), List.forall_mem_cons.mpr ⟨?_, ?_⟩⟩)
  · refine .concat (List.forall_mem_cons.mpr ⟨.literal trivial, ?_⟩)
    exact List.forall_mem_singleton.mpr (writable_contact (by decide))
  · exact List.forall_mem_singleton.mpr (.concat (List.forall_mem_nil _))

theorem writable_cardCondition (tenant fallback pattern : String) : (cardCondition tenant fallback pattern).Writable := by
  refine .allOf (List.cons_ne_nil _ _) (List.forall_mem_cons.mpr ⟨?_, List.forall_mem_singleton.mpr ?_⟩)
  · refine .allOf (List.cons_ne_nil _ _) (List.forall_mem_singleton.mpr ?_)
    exact .equals trivial (writable_contact (by decide))
  · refine .anyOf (List.cons_ne_nil _ _) (List.forall_mem_cons.mpr ⟨.matching (writable_cardName fallback), ?_⟩)
    exact List.forall_mem_singleton.mpr (.equals trivial (.asText (writable_contact (by decide))))

/-! ## Reading back -/

/-- The text of the clause of a writable expression is read as the canonical form of the expression. -/
theorem read_of_ofExpr {e : Expr} {c : Clause} (he : e.Writable) (hc : Clause.ofExpr Catalog.ofSchema e = .ok c) :
    c.Legible ∧ c.reading = e.canonical ∧ Sql.read c.toText = some e.canonical := by
  obtain ⟨d, hd, hsaid⟩ := he.exists_clause
  rw [hc] at hd
  obtain rfl := Except.ok.inj hd
  have hread := hsaid.legible.read_toText
  rw [hsaid.reading] at hread
  exact ⟨hsaid.legible, hsaid.reading, hread⟩

/-- The clause of a writable expression is worth what the expression is, without its marks and, where they stand at truth values,
with them. -/
theorem value_of_ofExpr {e : Expr} {c : Clause} (he : e.Writable) (hc : Clause.ofExpr Catalog.ofSchema e = .ok c)
    (b : Backend) (cells : Contents) : c.unmarked.value b cells = e.value b cells ∧
      (c.MarksTruths b cells → c.value b cells = e.value b cells) := by
  obtain ⟨hlegible, hreading, -⟩ := read_of_ofExpr he hc
  have hvalue : c.unmarked.value b cells = e.value b cells := by
    rw [hlegible.value_unmarked, hreading, he.value_canonical]
  refine ⟨hvalue, fun hmarks => ?_⟩
  rw [hlegible.value_eq_unmarked hmarks, hvalue]

/-- **The condition of an expression reads back as the expression.** An expression over columns of the schema and scalar
constants, without empty chains of conditions, compiles to a clause whose text is read as the canonical form of the
expression, with all its strings in order, and which is worth what the expression is. Another such expression with the same
text has the same canonical form and is worth the same on every row; and the text of one that differs in its strings only is
read as an expression that differs in its strings only. -/
theorem condition_reads_back {e : Expr} (he : e.Writable) :
    ∃ c, Clause.ofExpr Catalog.ofSchema e = .ok c ∧ Sql.read c.toText = some e.canonical ∧ e.canonical.strings = e.strings ∧
      (∀ b cells, c.unmarked.value b cells = e.value b cells ∧
        (c.MarksTruths b cells → c.value b cells = e.value b cells)) ∧
      ∀ e' : Expr, e'.Writable → ∃ c', Clause.ofExpr Catalog.ofSchema e' = .ok c' ∧
        (c'.toText = c.toText → e'.canonical = e.canonical ∧ ∀ b cells, e'.value b cells = e.value b cells) ∧
        (e'.shape = e.shape → (Sql.read c'.toText).map Expr.shape = (Sql.read c.toText).map Expr.shape) := by
  obtain ⟨c, hc, -⟩ := he.exists_clause
  obtain ⟨-, -, hread⟩ := read_of_ofExpr he hc
  refine ⟨c, hc, hread, e.strings_canonical, value_of_ofExpr he hc, fun e' he' => ?_⟩
  obtain ⟨c', hc', -⟩ := he'.exists_clause
  obtain ⟨-, -, hread'⟩ := read_of_ofExpr he' hc'
  refine ⟨c', hc', fun htext => ?_, fun hshape => ?_⟩
  · rw [htext, hread] at hread'
    have hcanonical : e'.canonical = e.canonical := (Option.some.inj hread').symm
    refine ⟨hcanonical, fun b cells => ?_⟩
    rw [← he'.value_canonical, hcanonical, he.value_canonical]
  · rw [hread, hread', Option.map_some, Option.map_some, Expr.shape_canonical, Expr.shape_canonical, hshape]

/-- Strings with quotation marks, operators and words of the language in them are read as strings. -/
theorem hostile_strings_read_back :
    (cardCondition "a' OR 'a' = 'a" "' || '" "%') OR true --%").Writable ∧
      ∃ c, Clause.ofExpr Catalog.ofSchema (cardCondition "a' OR 'a' = 'a" "' || '" "%') OR true --%") = .ok c ∧
        Sql.read c.toText = some (.allOf [
          .equals (.column "contact" "tenant_id") (.text "a' OR 'a' = 'a"),
          .anyOf [
            .matching (.concat [.coalesce (.column "contact" "first_name") "' || '", .literal (.text " "),
              .column "contact" "last_name", .literal (.text "")]) "%') OR true --%" (some "\\"),
            .equals (.asText (.column "contact" "email")) .null]]) := by
  have hwritable := writable_cardCondition "a' OR 'a' = 'a" "' || '" "%') OR true --%"
  obtain ⟨c, hc, hread, -⟩ := condition_reads_back hwritable
  exact ⟨hwritable, c, hc, hread⟩

end EntitySearch
