import EntitySearch.Proofs.Condition

/-!
# The text of a clause

What a clause stands for where a text is asked for (`Clause.text?`). A chain of texts stands for the texts of its parts one
after the other, however it is flattened and grouped (`text?_concatAll`), and a null part makes the whole null; a part with a
fallback is never null (`text?_coalesce`).
-/

namespace EntitySearch

namespace Sql

/-- The text of a chain is the text of its front and of its rest, and null when either is. -/
theorem concatTexts_append (vs ws : List Value) :
    concatTexts (vs ++ ws) = (do return (← concatTexts vs) ++ (← concatTexts ws)) := by
  induction vs with
  | nil => cases h : concatTexts ws <;> simp [concatTexts, h]
  | cons v vs ih =>
    rw [List.cons_append, concatTexts, concatTexts, ih]
    cases asText? v <;> cases concatTexts vs <;> cases concatTexts ws <;> simp [String.append_assoc]

theorem concatTexts_singleton (v : Value) : concatTexts [v] = asText? v := by
  cases h : asText? v <;> simp [concatTexts, h]

/-- A text, or null, reads as itself. -/
theorem asText?_ofText? (o : Option String) : asText? (.ofText? o) = o := by
  cases o <;> rfl

/-- The value of a chain reads as the text of the chain. -/
theorem asText?_concatValues (vs : List Value) : asText? (concatValues vs) = concatTexts vs := by
  unfold concatValues
  split
  · exact (concatTexts_singleton _).symm
  · exact asText?_ofText? _

/-- A null has no text, and every other value has one. -/
theorem asText?_eq_none {v : Value} : asText? v = none ↔ v = .null := by
  cases v <;> simp [asText?, asNumber]

end Sql

namespace Clause

variable {b : Backend} {cells : Contents}

/-- The text of a clause; none where its value is null. -/
def text? (b : Backend) (cells : Contents) (c : Clause) : Option String := Sql.asText? (c.value b cells)

theorem text?_column (t n : String) : (column t n).text? b cells = cells t n := by
  rw [text?, value, Sql.asText?_ofText?]

theorem text?_constant (s : String) : (constant (.text s)).text? b cells = some s := by
  rw [text?, value]
  rfl

/-- A cast to text changes no text. -/
theorem text?_cast (c : Clause) : (cast c).text? b cells = c.text? b cells := by
  rw [text?, value, Sql.asText?_ofText?, text?]

/-- Brackets change no text. -/
theorem text?_group (c : Clause) : (group c).text? b cells = c.text? b cells := by
  simp only [text?, value]

/-- The brackets that a place asks for change no text. -/
theorem text?_inPlace (place : Place) (c : Clause) : (c.inPlace place).text? b cells = c.text? b cells := by
  unfold inPlace
  split
  · exact text?_group c
  · rfl

/-- A text with a fallback reads as the fallback where it is null. -/
theorem text?_coalesce (c : Clause) (fallback : String) :
    (coalesce c fallback).text? b cells = some ((c.text? b cells).getD fallback) := by
  simp only [text?, value]
  split
  · rename_i h
    simp [h, Sql.asText?, Sql.asNumber, Value.display]
  · rename_i h
    cases hv : Sql.asText? (c.value b cells) with
    | none => exact absurd (Sql.asText?_eq_none.mp hv) h
    | some s => rfl

/-- A chain reads as the texts of its members, one after the other. -/
theorem text?_concat (cs : List Clause) : (concat cs).text? b cells = Sql.concatTexts (values b cells cs) := by
  rw [text?, value, Sql.asText?_concatValues]

/-- The values of clauses in a row are those of the front and of the rest. -/
theorem values_append (cs ds : List Clause) : values b cells (cs ++ ds) = values b cells cs ++ values b cells ds := by
  simp [values_eq_map]

/-- The texts that a clause contributes to a chain make up its text. -/
theorem concatTexts_parts {c : Clause} (h : c.isVoid = false) :
    Sql.concatTexts (values b cells c.parts) = c.text? b cells := by
  cases c with
  | concat cs => rw [text?_concat, parts]
  | _ => simp [parts, values, h, Sql.concatTexts_singleton, text?]

/-- The parts of a clause are void when the clause is. -/
theorem areVoid_parts (c : Clause) : areVoid c.parts = c.isVoid := by
  cases c <;> simp [parts, areVoid, isVoid]

/-- The brackets that a place asks for make no clause void. -/
theorem isVoid_inPlace {c : Clause} (h : c.isVoid = false) (place : Place) : (c.inPlace place).isVoid = false := by
  unfold inPlace
  split
  · rfl
  · exact h

/-- A chain is not void when its first member is not. -/
theorem isVoid_append {c : Clause} (h : c.isVoid = false) (d : Clause) : (append c d).isVoid = false := by
  rw [append, isVoid, areVoid_append, areVoid_parts, isVoid_inPlace h, Bool.false_and]

/-- Two texts one after the other are worth their concatenation, whatever the chain they make looks like. -/
theorem text?_append {c d : Clause} (hc : c.isVoid = false) (hd : d.isVoid = false) :
    (append c d).text? b cells = (do return (← c.text? b cells) ++ (← d.text? b cells)) := by
  have hright : Sql.concatTexts (values b cells (if d.type = c.type then (d.inPlace .part).parts else [d.inPlace .part])) =
      d.text? b cells := by
    rw [← text?_inPlace .part d]
    split
    · exact concatTexts_parts (isVoid_inPlace hd _)
    · simp [values, isVoid_inPlace hd, Sql.concatTexts_singleton, text?]
  simp only [append, text?_concat, values_append, Sql.concatTexts_append, hright,
    concatTexts_parts (isVoid_inPlace hc _), text?_inPlace]

/-- Several texts one after the other. -/
theorem text?_concatAll {cs : List Clause} (h : ∀ c ∈ cs, c.isVoid = false) :
    (concatAll cs).text? b cells = Sql.concatTexts (cs.map (value b cells)) := by
  have hfold : ∀ (cs : List Clause) (c : Clause), c.isVoid = false → (∀ d ∈ cs, d.isVoid = false) →
      (cs.foldl append c).text? b cells =
        (do return (← c.text? b cells) ++ (← Sql.concatTexts (cs.map (value b cells)))) := by
    intro cs
    induction cs with
    | nil => intro c _ _; cases hc : c.text? b cells <;> simp [Sql.concatTexts, hc]
    | cons d ds ih =>
      intro c hc hds
      rw [List.foldl_cons, ih _ (isVoid_append hc d) fun x hx => hds x (by simp [hx]), text?_append hc (hds d (by simp)),
        List.map_cons, Sql.concatTexts, ← text?]
      cases c.text? b cells <;> cases d.text? b cells <;> cases Sql.concatTexts (ds.map (value b cells)) <;>
        simp [String.append_assoc]
  cases cs with
  | nil => exact text?_constant ""
  | cons c cs =>
    rw [concatAll, hfold cs c (h c (by simp)) fun d hd => h d (by simp [hd]), List.map_cons, Sql.concatTexts, text?]

/-! ## Comparisons -/

/-- A clause matches a pattern where it has a text and the backend matches it. -/
theorem holds_like {c : Clause} {pattern : String} {escape : Option String} :
    (like c pattern escape).holds b cells = true ↔
      ∃ s, c.text? b cells = some s ∧
        LikePattern.isMatch (Sql.escapeChar escape) (b.seen pattern.toList) (b.seen s.toList) = true := by
  rw [holds_iff, value, Sql.likeTruth, text?]
  cases Sql.asText? (c.value b cells) with
  | none => simp [Sql.ofTruth, Sql.truth]
  | some s => simp [Sql.ofTruth, Sql.truth]

/-- A column equals a text where that is what it holds. -/
theorem holds_equals_column {table name s : String} :
    (equals (column table name) (.text s)).holds b cells = true ↔ cells table name = some s := by
  rw [holds_iff, value]
  · rw [value]
    cases cells table name with
    | none => simp [Value.ofText?, Sql.equalTo, Sql.ofTruth, Sql.truth]
    | some r => simp [Value.ofText?, Sql.equalTo, Sql.ofTruth, Sql.truth]
  · simp

end Clause

end EntitySearch
