import EntitySearch.Proofs.Canonical
import EntitySearch.Proofs.ClauseText
import EntitySearch.Proofs.Legible

/-!
# What a text means on a row

A legible clause is worth what the expression is worth that its text says (`Clause.Legible.value_unmarked`), so that clauses
with one text are worth the same on every row. The marks of truth values do not show in the text: in the dialect it is
written in a truth value is a condition as it is, so that a clause is valued without them. Where what is marked is a truth
value, that is the value of the clause itself (`Clause.Legible.value_eq_unmarked`). The canonical form of an expression is
worth what the expression is (`Expr.Writable.value_canonical`).
-/

namespace EntitySearch

namespace Sql

/-- Several values are worth their texts, one after the other. -/
theorem concatValues_eq {vs : List Value} (hlength : 2 ≤ vs.length) : concatValues vs = .ofText? (concatTexts vs) := by
  match vs, hlength with
  | _ :: _ :: _, _ => rfl

/-- Several values are worth their truths, combined. -/
theorem chainValues_eq {combine : List Truth → Truth} {vs : List Value} (hlength : 2 ≤ vs.length) :
    chainValues combine vs = ofTruth (combine (vs.map truth)) := by
  match vs, hlength with
  | _ :: _ :: _, _ => rfl

/-- A truth value equals the true one exactly when it holds. -/
theorem equalTo_ofTruth (kept : Bool) (t : Truth) : equalTo kept (ofTruth t) (.bool true) = t := by
  match t with
  | none => rfl
  | some true => rfl
  | some false => rfl

end Sql

namespace Connective

/-- The truth of two conditions in a chain. -/
def pair : Connective → Truth → Truth → Truth
  | .conjunction => Truth.and
  | .disjunction => Truth.or

/-- The truth of several conditions in a chain. -/
def combine : Connective → List Truth → Truth
  | .conjunction => Truth.all
  | .disjunction => Truth.any

/-- Pairing truths is associative. -/
theorem pair_assoc (k : Connective) (s t u : Truth) : k.pair (k.pair s t) u = k.pair s (k.pair t u) := by
  rcases s with _ | _ | _ <;> rcases t with _ | _ | _ <;> rcases u with _ | _ | _ <;> cases k <;> rfl

/-- Truths are combined one at a time. -/
theorem combine_cons (k : Connective) (t : Truth) (ts : List Truth) : k.combine (t :: ts) = k.pair t (k.combine ts) := by
  cases k <;> rfl

theorem combine_singleton (k : Connective) (t : Truth) : k.combine [t] = t := by
  cases k with
  | conjunction => exact Truth.all_singleton t
  | disjunction => exact Truth.any_singleton t

/-- The truth of conditions one after the other is that of the two parts together. -/
theorem combine_append (k : Connective) (ts us : List Truth) :
    k.combine (ts ++ us) = k.pair (k.combine ts) (k.combine us) := by
  induction ts with
  | nil =>
    rw [List.nil_append]
    cases k <;> rcases combine _ us with _ | _ | _ <;> rfl
  | cons t ts ih => rw [List.cons_append, combine_cons, combine_cons, ih, pair_assoc]

end Connective

namespace Expr

/-- Whether the value of an expression comes from where texts are kept. -/
def isKeptText : Expr → Bool
  | .column table name => ClauseType.ofColumn table name == .text
  | .asText _ => true
  | .concat [e] => e.isKeptText
  | .allOf [e] => e.isKeptText
  | .anyOf [e] => e.isKeptText
  | _ => false

mutual

/-- The value of an expression where the contents of the columns are known. -/
def value (b : Backend) (cells : Contents) : Expr → Value
  | .column table name => .ofText? (cells table name)
  | .literal v => v
  | .coalesce e fallback =>
    match e.value b cells with
    | .null => .text fallback
    | v => v
  | .concat es => Sql.concatValues (values b cells es)
  | .asText e => .ofText? (Sql.asText? (e.value b cells))
  | .matching e pattern escape => Sql.ofTruth (Sql.likeTruth b (e.value b cells) pattern escape)
  | .equals e .null =>
    match e.value b cells with
    | .null => .bool true
    | _ => .bool false
  | .equals e v => Sql.ofTruth (Sql.equalTo e.isKeptText (e.value b cells) v)
  | .allOf es => Sql.chainValues Truth.all (values b cells es)
  | .anyOf es => Sql.chainValues Truth.any (values b cells es)
  | .foreign v => v

/-- The values of several expressions. -/
def values (b : Backend) (cells : Contents) : List Expr → List Value
  | [] => []
  | e :: es => e.value b cells :: values b cells es

end

theorem values_eq_map (b : Backend) (cells : Contents) (es : List Expr) : values b cells es = es.map (value b cells) := by
  induction es with
  | nil => rw [values, List.map_nil]
  | cons e es ih => rw [values, ih, List.map_cons]

/-- No chain of several members is a kept text. -/
theorem isKeptText_chain {es : List Expr} (hlength : 2 ≤ es.length) :
    (concat es).isKeptText = false ∧ (allOf es).isKeptText = false ∧ (anyOf es).isKeptText = false := by
  match es, hlength with
  | _ :: _ :: _, _ => exact ⟨rfl, rfl, rfl⟩

/-! ## The value of the canonical form -/

section Canonical

variable {b : Backend} {cells : Contents} {k : Connective}

/-- The value of a chain of conditions, of either kind. -/
theorem value_join (k : Connective) (es : List Expr) :
    (k.join es).value b cells = Sql.chainValues k.combine (es.map (value b cells)) := by
  cases k <;> simp only [Connective.join, Connective.combine, value, values_eq_map]

/-- What an expression contributes to a chain of texts says the text of the expression. -/
theorem concatTexts_texts (e : Expr) : Sql.concatTexts (e.texts.map (value b cells)) = Sql.asText? (e.value b cells) := by
  rcases texts_eq_or e with hsingle | hchain
  · rw [hsingle, List.map_singleton, Sql.concatTexts_singleton]
  · have hvalue := congrArg (value b cells) hchain
    rw [hvalue, value, values_eq_map, Sql.asText?_concatValues]

/-- What expressions contribute to a chain of texts says the texts of the expressions one after the other. -/
theorem concatTexts_flatMap_texts (es : List Expr) :
    Sql.concatTexts ((es.flatMap texts).map (value b cells)) = Sql.concatTexts (es.map (value b cells)) := by
  induction es with
  | nil => rfl
  | cons e es ih =>
    rw [List.flatMap_cons, List.map_append, Sql.concatTexts_append, concatTexts_texts, ih, List.map_cons, Sql.concatTexts]

/-- What an expression contributes to a chain of conditions is as true as the expression. -/
theorem combine_operands (e : Expr) :
    k.combine (((e.operands k).map (value b cells)).map Sql.truth) = Sql.truth (e.value b cells) := by
  rcases operands_eq_or k e with hsingle | hchain
  · rw [hsingle, List.map_singleton, List.map_singleton, k.combine_singleton]
  · have hvalue := congrArg (value b cells) hchain
    rw [hvalue, value_join, Sql.truth_chainValues k.combine_singleton]

/-- What expressions contribute to a chain of conditions is as true as the expressions together. -/
theorem combine_flatMap_operands (es : List Expr) :
    k.combine (((es.flatMap (operands k)).map (value b cells)).map Sql.truth) =
      k.combine ((es.map (value b cells)).map Sql.truth) := by
  induction es with
  | nil => rfl
  | cons e es ih =>
    rw [List.flatMap_cons, List.map_append, List.map_append, k.combine_append, combine_operands, ih, List.map_cons,
      List.map_cons, k.combine_cons]

/-- A chain of conditions is worth what its canonical form is, if its members are and each contributes something. -/
theorem value_canonical_join {es : List Expr} (hne : es ≠ []) (hoperands : ∀ e ∈ es, e.canonical.operands k ≠ [])
    (h : ∀ e ∈ es, e.canonical.value b cells = e.value b cells) :
    (k.join es).canonical.value b cells = (k.join es).value b cells := by
  match es, hne with
  | [e], _ =>
    -- A single member stands for itself: its value need not be a truth value.
    rw [canonical_join_singleton, value_join]
    exact h e List.mem_cons_self
  | e :: f :: es, _ =>
    obtain ⟨hlength, hcanonical⟩ := canonical_join_of_two (by simp) hoperands
    have hvalues : ((e :: f :: es).map canonical).map (value b cells) = (e :: f :: es).map (value b cells) := by
      rw [List.map_map]
      exact List.map_congr_left h
    rw [hcanonical, value_join, value_join, Sql.chainValues_eq (by simpa using hlength), combine_flatMap_operands, hvalues,
      Sql.chainValues_eq (by simp)]

/-- The value of a chain of conditions comes from where that of its canonical form does, if it is so for its members. -/
theorem isKeptText_canonical_join {es : List Expr} (hne : es ≠ []) (hoperands : ∀ e ∈ es, e.canonical.operands k ≠ [])
    (h : ∀ e ∈ es, e.canonical.isKeptText = e.isKeptText) : (k.join es).canonical.isKeptText = (k.join es).isKeptText := by
  have hchain : ∀ {fs : List Expr}, 2 ≤ fs.length → (k.join fs).isKeptText = false := by
    intro fs hlength
    cases k with
    | conjunction => exact (isKeptText_chain hlength).2.1
    | disjunction => exact (isKeptText_chain hlength).2.2
  match es, hne with
  | [e], _ =>
    rw [canonical_join_singleton, h e List.mem_cons_self]
    cases k <;> rfl
  | e :: f :: es, _ =>
    obtain ⟨hlength, hcanonical⟩ := canonical_join_of_two (by simp) hoperands
    rw [hcanonical, hchain hlength, hchain (by simp)]

/-- The value of a writable expression comes from where that of its canonical form does. -/
theorem Writable.isKeptText_canonical {e : Expr} (h : e.Writable) : e.canonical.isKeptText = e.isKeptText := by
  induction h with
  | @concat es _ ih =>
    match es with
    | [] => rfl
    | [e] =>
      rw [canonical_concat_singleton]
      exact ih e List.mem_cons_self
    | e :: f :: es =>
      obtain ⟨hlength, hcanonical⟩ := canonical_concat_of_two (e :: f :: es) (by simp)
      rw [hcanonical, (isKeptText_chain hlength).1, (isKeptText_chain (by simp)).1]
  | allOf hne hes ih =>
    exact isKeptText_canonical_join (k := .conjunction) hne (fun e he => (hes e he).operands_ne_nil _) ih
  | anyOf hne hes ih =>
    exact isKeptText_canonical_join (k := .disjunction) hne (fun e he => (hes e he).operands_ne_nil _) ih
  | _ => rfl

/-- **A writable expression is worth what its canonical form is.** -/
theorem Writable.value_canonical {e : Expr} (h : e.Writable) : e.canonical.value b cells = e.value b cells := by
  induction h with
  | @concat es _ ih =>
    match es with
    | [] => rfl
    | [e] =>
      rw [canonical_concat_singleton]
      exact ih e List.mem_cons_self
    | e :: f :: es =>
      obtain ⟨hlength, hcanonical⟩ := canonical_concat_of_two (e :: f :: es) (by simp)
      have hvalues : ((e :: f :: es).map canonical).map (value b cells) = (e :: f :: es).map (value b cells) := by
        rw [List.map_map]
        exact List.map_congr_left ih
      rw [hcanonical, value, value, values_eq_map, values_eq_map, Sql.concatValues_eq (by simpa using hlength),
        concatTexts_flatMap_texts, hvalues, Sql.concatValues_eq (by simp)]
  | @equals e v _ he ih =>
    have hkept := he.isKeptText_canonical
    cases v <;> simp only [canonical, value, ih, hkept]
  | allOf hne hes ih => exact value_canonical_join (k := .conjunction) hne (fun e he => (hes e he).operands_ne_nil _) ih
  | anyOf hne hes ih => exact value_canonical_join (k := .disjunction) hne (fun e he => (hes e he).operands_ne_nil _) ih
  | coalesce _ ih => simp only [canonical, value, ih]
  | asText _ ih => simp only [canonical, value, ih]
  | matching _ ih => simp only [canonical, value, ih]
  | column _ => rw [canonical]
  | literal _ => rw [canonical]

end Canonical

end Expr

namespace Clause

mutual

/-- A clause without the marks of truth values in the place of conditions. -/
def unmarked : Clause → Clause
  | .column table name => .column table name
  | .constant v => .constant v
  | .coalesce c fallback => .coalesce c.unmarked fallback
  | .concat cs => .concat (unmarkedAll cs)
  | .cast c => .cast c.unmarked
  | .like c pattern escape => .like c.unmarked pattern escape
  | .equals c v => .equals c.unmarked v
  | .chain k cs => .chain k (unmarkedAll cs)
  | .flag c => c.unmarked
  | .group c => .group c.unmarked

/-- Several clauses without marks. -/
def unmarkedAll : List Clause → List Clause
  | [] => []
  | c :: cs => c.unmarked :: unmarkedAll cs

end

variable {b : Backend} {cells : Contents}

theorem unmarkedAll_eq_map (cs : List Clause) : unmarkedAll cs = cs.map unmarked := by
  induction cs with
  | nil => rw [unmarkedAll, List.map_nil]
  | cons c cs ih => rw [unmarkedAll, ih, List.map_cons]

/-! ## Void clauses -/

/-- A chain holds something when its members do. -/
theorem areVoid_chain {cs : List Clause} (hlength : 2 ≤ cs.length) (h : ∀ c ∈ cs, c.isVoid = false) : areVoid cs = false :=
  areVoid_eq_false (List.ne_nil_of_length_pos (Nat.lt_of_lt_of_le Nat.zero_lt_two hlength)) h

/-- A legible clause holds something. -/
theorem Legible.isVoid {c : Clause} (h : c.Legible) : c.isVoid = false := by
  induction h with
  | concat hlength _ _ ih =>
    rw [Clause.isVoid]
    exact areVoid_chain hlength ih
  | chain hlength _ _ ih =>
    rw [Clause.isVoid]
    exact areVoid_chain hlength ih
  | _ =>
    rw [Clause.isVoid]
    all_goals simp

/-- Several clauses that are not void without marks are not void together. -/
theorem areVoid_unmarked {cs : List Clause} (hlength : 2 ≤ cs.length) (h : ∀ c ∈ cs, c.unmarked.isVoid = false) :
    areVoid (unmarkedAll cs) = false := by
  rw [unmarkedAll_eq_map]
  refine areVoid_chain (by rwa [List.length_map]) fun d hd => ?_
  obtain ⟨c, hc, rfl⟩ := List.mem_map.mp hd
  exact h c hc

/-- A legible clause holds something without its marks, too. -/
theorem Legible.isVoid_unmarked {c : Clause} (h : c.Legible) : c.unmarked.isVoid = false := by
  induction h with
  | concat hlength _ _ ih =>
    rw [unmarked, Clause.isVoid]
    exact areVoid_unmarked hlength ih
  | chain hlength _ _ ih =>
    rw [unmarked, Clause.isVoid]
    exact areVoid_unmarked hlength ih
  | flag _ _ ih =>
    rw [unmarked]
    exact ih
  | _ =>
    rw [unmarked, Clause.isVoid]
    all_goals simp

/-- The values of a chain whose members all hold something are those of its members. -/
theorem values_eq_map_of_present {cs : List Clause} (h : ∀ c ∈ cs, c.isVoid = false) :
    values b cells cs = cs.map (value b cells) := by
  have hpresent : cs.filter (fun c => !c.isVoid) = cs := by
    rw [List.filter_eq_self]
    intro c hc
    rw [h c hc, Bool.not_false]
  rw [values_eq_map, hpresent]

/-- The values of several clauses without marks are those of each. -/
theorem values_unmarked {cs : List Clause} (h : ∀ c ∈ cs, c.Legible) :
    values b cells (unmarkedAll cs) = cs.map fun c => c.unmarked.value b cells := by
  have hpresent : ∀ d ∈ unmarkedAll cs, d.isVoid = false := by
    intro d hd
    rw [unmarkedAll_eq_map] at hd
    obtain ⟨c, hc, rfl⟩ := List.mem_map.mp hd
    exact (h c hc).isVoid_unmarked
  rw [values_eq_map_of_present hpresent, unmarkedAll_eq_map, List.map_map]
  rfl

/-! ## Kept texts -/

/-- A chain whose members all hold something is kept nowhere. -/
theorem areKeptTexts_chain {cs : List Clause} (hlength : 2 ≤ cs.length) (h : ∀ c ∈ cs, c.isVoid = false) :
    (areKeptTexts cs == [true]) = false := by
  match cs, hlength with
  | c :: d :: cs, _ =>
    have hc := h c List.mem_cons_self
    have hd := h d (List.mem_cons_of_mem c List.mem_cons_self)
    simp [areKeptTexts, hc, hd]

/-- Several clauses without marks are no single kept text. -/
theorem areKeptTexts_unmarked {cs : List Clause} (hlength : 2 ≤ cs.length) (h : ∀ c ∈ cs, c.Legible) :
    (areKeptTexts (unmarkedAll cs) == [true]) = false := by
  rw [unmarkedAll_eq_map]
  refine areKeptTexts_chain (by rwa [List.length_map]) fun d hd => ?_
  obtain ⟨c, hc, rfl⟩ := List.mem_map.mp hd
  exact (h c hc).isVoid_unmarked

/-- The value of a legible clause comes from where that of its expression does. -/
theorem Legible.isKeptText_unmarked {c : Clause} (h : c.Legible) : c.unmarked.isKeptText = c.reading.isKeptText := by
  induction h with
  | concat hlength _ hcs _ =>
    have htwo := two_le_length_textReadings hlength fun c hc => (hcs c hc).textReadings_ne_nil
    rw [unmarked, isKeptText, areKeptTexts_unmarked hlength hcs, reading, (Expr.isKeptText_chain htwo).1]
  | @chain k cs hlength _ hcs _ =>
    have htwo := two_le_length_readings hlength
    rw [unmarked, isKeptText, areKeptTexts_unmarked hlength hcs]
    cases k with
    | conjunction => rw [reading, (Expr.isKeptText_chain htwo).2.1]
    | disjunction => rw [reading, (Expr.isKeptText_chain htwo).2.2]
  | flag _ _ ih =>
    rw [unmarked, reading]
    exact ih
  | group _ ih =>
    rw [unmarked, isKeptText, reading]
    exact ih
  | _ => simp [unmarked, isKeptText, reading, Expr.isKeptText]

/-- Marks do not change where the value of a legible clause comes from: what is marked is kept nowhere. -/
theorem Legible.isKeptText_eq_unmarked {c : Clause} (h : c.Legible) : c.isKeptText = c.unmarked.isKeptText := by
  induction h with
  | concat hlength _ hcs _ =>
    have hkept := areKeptTexts_chain hlength fun c hc => (hcs c hc).isVoid
    rw [unmarked, isKeptText, isKeptText, areKeptTexts_unmarked hlength hcs, hkept]
  | chain hlength _ hcs _ =>
    have hkept := areKeptTexts_chain hlength fun c hc => (hcs c hc).isVoid
    rw [unmarked, isKeptText, isKeptText, areKeptTexts_unmarked hlength hcs, hkept]
  | flag hmark _ _ =>
    rcases mark_cases hmark with ⟨v, rfl⟩ | ⟨d, fallback, rfl⟩
    · simp [unmarked, isKeptText]
    · simp [unmarked, isKeptText]
  | group _ ih =>
    rw [unmarked, isKeptText, isKeptText]
    exact ih
  | _ => simp [unmarked, isKeptText]

/-! ## Values -/

/-- A clause reads as a single text, unless it is a chain of texts. -/
theorem textReadings_singleton (c : Clause) : textReadings [c] = [c.reading] ∨ ∃ ps, c = concat ps := by
  cases c with
  | concat ps => exact .inr ⟨ps, rfl⟩
  | _ => exact .inl (by simp [textReadings])

/-- What a clause contributes to a chain of texts says the text of the clause. -/
theorem concatTexts_textReadings_singleton {c : Clause} (h : c.unmarked.value b cells = c.reading.value b cells) :
    Sql.concatTexts ((textReadings [c]).map (Expr.value b cells)) = Sql.asText? (c.unmarked.value b cells) := by
  rw [h]
  rcases textReadings_singleton c with hsingle | ⟨ps, rfl⟩
  · rw [hsingle, List.map_singleton, Sql.concatTexts_singleton]
  · rw [textReadings, textReadings, List.append_nil, reading, Expr.value, Expr.values_eq_map, Sql.asText?_concatValues]

/-- What clauses contribute to a chain of texts says the texts of the clauses one after the other. -/
theorem concatTexts_textReadings {cs : List Clause} (h : ∀ c ∈ cs, c.unmarked.value b cells = c.reading.value b cells) :
    Sql.concatTexts ((textReadings cs).map (Expr.value b cells)) =
      Sql.concatTexts (cs.map fun c => c.unmarked.value b cells) := by
  induction cs with
  | nil => rw [textReadings, List.map_nil, List.map_nil]
  | cons c cs ih =>
    have hfirst := concatTexts_textReadings_singleton (h c List.mem_cons_self)
    rw [textReadings_cons, List.map_append, Sql.concatTexts_append, hfirst,
      ih fun d hd => h d (List.mem_cons_of_mem c hd), List.map_cons, Sql.concatTexts]

/-- **A legible clause is worth what its text says.** -/
theorem Legible.value_unmarked {c : Clause} (h : c.Legible) : c.unmarked.value b cells = c.reading.value b cells := by
  induction h with
  | concat hlength _ hcs ih =>
    have htwo := two_le_length_textReadings hlength fun c hc => (hcs c hc).textReadings_ne_nil
    rw [unmarked, value, values_unmarked hcs, reading, Expr.value, Expr.values_eq_map,
      Sql.concatValues_eq (by simpa using hlength), Sql.concatValues_eq (by simpa using htwo), concatTexts_textReadings ih]
  | @chain k cs hlength _ hcs ih =>
    have hvalues : values b cells (unmarkedAll cs) = Expr.values b cells (readings cs) := by
      rw [values_unmarked hcs, Expr.values_eq_map, readings_eq_map, List.map_map]
      exact List.map_congr_left ih
    have hvoid := areVoid_unmarked hlength fun c hc => (hcs c hc).isVoid_unmarked
    cases k with
    | conjunction => rw [unmarked, value, hvalues, reading, Expr.value]
    | disjunction => rw [unmarked, value, hvoid, if_neg (by decide), hvalues, reading, Expr.value]
  | @equals c v _ _ hc ih =>
    have hkept := hc.isKeptText_unmarked
    cases v with
    | null => cases hvalue : c.reading.value b cells <;> simp only [unmarked, value, reading, Expr.value, ih, hvalue]
    | _ => simp only [unmarked, value, reading, Expr.value, ih, hkept]
  | @coalesce c fallback _ ih =>
    cases hvalue : c.reading.value b cells <;> simp only [unmarked, value, reading, Expr.value, ih, hvalue]
  | cast _ ih => rw [unmarked, value, ih, reading, Expr.value]
  | like _ _ ih => rw [unmarked, value, ih, reading, Expr.value]
  | flag _ _ ih => rw [unmarked, ih, reading]
  | group _ ih => rw [unmarked, value, ih, reading]
  | column _ _ => rw [unmarked, value, reading, Expr.value]
  | constant _ => rw [unmarked, value, reading, Expr.value]

/-! ## Marks -/

mutual

/-- The parts of a clause that are marked as truth values. -/
def marked : Clause → List Clause
  | .column .. => []
  | .constant _ => []
  | .coalesce c _ => c.marked
  | .concat cs => markedOf cs
  | .cast c => c.marked
  | .like c _ _ => c.marked
  | .equals c _ => c.marked
  | .chain _ cs => markedOf cs
  | .flag c => c :: c.marked
  | .group c => c.marked

/-- The parts of several clauses that are marked as truth values. -/
def markedOf : List Clause → List Clause
  | [] => []
  | c :: cs => c.marked ++ markedOf cs

end

theorem markedOf_eq_flatMap (cs : List Clause) : markedOf cs = cs.flatMap marked := by
  induction cs with
  | nil => rw [markedOf, List.flatMap_nil]
  | cons c cs ih => rw [markedOf, ih, List.flatMap_cons]

/-- Whether on a row whatever is marked as a truth value is one, possibly unknown. -/
def MarksTruths (b : Backend) (cells : Contents) (c : Clause) : Prop := ∀ d ∈ c.marked, ∃ t, d.value b cells = Sql.ofTruth t

/-- What a chain marks its members mark. -/
theorem marksTruths_of_mem {cs : List Clause} (h : ∀ d ∈ markedOf cs, ∃ t, d.value b cells = Sql.ofTruth t) :
    ∀ c ∈ cs, c.MarksTruths b cells := by
  intro c hc d hd
  rw [markedOf_eq_flatMap] at h
  exact h d (List.mem_flatMap.mpr ⟨c, hc, hd⟩)

/-- **Marks change no value** where they stand at truth values. -/
theorem Legible.value_eq_unmarked {c : Clause} (h : c.Legible) (hmarks : c.MarksTruths b cells) :
    c.value b cells = c.unmarked.value b cells := by
  induction h with
  | concat hlength _ hcs ih =>
    rw [MarksTruths, marked] at hmarks
    have hmembers := List.map_congr_left fun c hc => ih c hc (marksTruths_of_mem hmarks c hc)
    rw [unmarked, value, value, values_unmarked hcs, values_eq_map_of_present fun c hc => (hcs c hc).isVoid, hmembers]
  | @chain k cs hlength _ hcs ih =>
    rw [MarksTruths, marked] at hmarks
    have hmembers := List.map_congr_left fun c hc => ih c hc (marksTruths_of_mem hmarks c hc)
    have hvalues : values b cells cs = values b cells (unmarkedAll cs) := by
      rw [values_unmarked hcs, values_eq_map_of_present fun c hc => (hcs c hc).isVoid, hmembers]
    have hvoid := areVoid_chain hlength fun c hc => (hcs c hc).isVoid
    have hvoid' := areVoid_unmarked hlength fun c hc => (hcs c hc).isVoid_unmarked
    cases k with
    | conjunction => rw [unmarked, value, value, hvalues]
    | disjunction => rw [unmarked, value, value, hvoid, hvoid', hvalues]
  | @equals c v _ _ hc ih =>
    have hvalue := ih hmarks
    have hkept := hc.isKeptText_eq_unmarked
    cases v with
    | null => simp only [unmarked, value, hvalue]
    | _ => simp only [unmarked, value, hvalue, hkept]
  | @flag c hmark _ ih =>
    rw [MarksTruths, marked] at hmarks
    -- The mark compares with the true value, and a truth value equals it exactly when it holds.
    obtain ⟨t, ht⟩ := hmarks c List.mem_cons_self
    have hinner := ih fun d hd => hmarks d (List.mem_cons_of_mem c hd)
    rw [unmarked, value, ← hinner, ht, Sql.equalTo_ofTruth]
  | coalesce _ ih =>
    have hvalue := ih hmarks
    simp only [unmarked, value, hvalue]
  | cast _ ih =>
    have hvalue := ih hmarks
    simp only [unmarked, value, hvalue]
  | like _ _ ih =>
    have hvalue := ih hmarks
    simp only [unmarked, value, hvalue]
  | group _ ih =>
    have hvalue := ih hmarks
    simp only [unmarked, value, hvalue]
  | column _ _ => rw [unmarked]
  | constant _ => rw [unmarked]

end Clause

end EntitySearch
