import EntitySearch.Query

/-!
# Words of a query

The words of a text are not empty and hold no blank. The only blanks of a normalized query are therefore the spaces between its
words (`Query.eq_space_of_isBlank`), one that is not empty has a character that is no blank (`Query.exists_not_blank`), and
normalized queries with single spaces between them are one (`Query.normalize_intercalate`).
-/

namespace EntitySearch

/-- Lists joined in two runs. -/
theorem intercalate_append {α : Type} (separator : List α) {xs ys : List (List α)} (hx : xs ≠ []) (hy : ys ≠ []) :
    separator.intercalate (xs ++ ys) = separator.intercalate xs ++ (separator ++ separator.intercalate ys) := by
  induction xs with
  | nil => exact absurd rfl hx
  | cons x xs ih =>
    cases xs with
    | nil => rw [List.singleton_append, List.intercalate_cons_of_ne_nil hy, List.intercalate_singleton, List.append_assoc]
    | cons z zs =>
      rw [List.cons_append, List.intercalate_cons_of_ne_nil (by simp), ih (by simp), List.intercalate_cons_cons]
      simp only [List.append_assoc]

/-- What stands in joined lists comes from one of them or from the separator. -/
theorem mem_intercalate {α : Type} {x : α} {separator : List α} {parts : List (List α)}
    (h : x ∈ separator.intercalate parts) : x ∈ separator ∨ ∃ p ∈ parts, x ∈ p := by
  induction parts with
  | nil => exact absurd h List.not_mem_nil
  | cons p ps ih =>
    by_cases hps : ps = []
    · rw [hps, List.intercalate_singleton] at h
      exact Or.inr ⟨p, List.mem_cons_self, h⟩
    · rw [List.intercalate_cons_of_ne_nil hps, List.mem_append, List.mem_append] at h
      rcases h with (h | h) | h
      · exact Or.inr ⟨p, List.mem_cons_self, h⟩
      · exact Or.inl h
      · exact (ih h).imp_right fun ⟨q, hq, hx⟩ => ⟨q, List.mem_cons_of_mem _ hq, hx⟩

namespace Text

/-- Words are not empty. -/
theorem nil_notMem_words (cs : List Char) : [] ∉ words cs := by
  induction cs with
  | nil => exact List.not_mem_nil
  | cons c rest ih =>
    rw [words]
    split
    · exact ih
    · intro hmem
      revert hmem ih
      cases words rest with
      | nil => simp [extendWord]
      | cons w ws =>
        rw [extendWord]
        split <;> simp

/-- A text has no words when it has nothing but blanks. -/
theorem words_eq_nil_iff {cs : List Char} : words cs = [] ↔ ∀ c ∈ cs, isBlank c = true := by
  have hflat : (words cs).flatten = [] ↔ ∀ c ∈ cs, isBlank c = true := by
    rw [words_flatten, List.filter_eq_nil_iff]
    simp
  rw [← hflat, List.flatten_eq_nil_iff]
  constructor
  · intro hnil
    simp [hnil]
  · intro hall
    refine List.eq_nil_iff_forall_not_mem.mpr fun w hw => ?_
    exact nil_notMem_words cs (hall w hw ▸ hw)

/-- No character of a word is a blank. -/
theorem isBlank_of_mem_words {cs w : List Char} (hw : w ∈ words cs) {c : Char} (hc : c ∈ w) : isBlank c = false := by
  have hmem : c ∈ (words cs).flatten := List.mem_flatten.mpr ⟨w, hw, hc⟩
  rw [words_flatten, List.mem_filter] at hmem
  simpa using hmem.2

/-- Words are joined by the separator. -/
theorem joinWith_cons_cons (separator w v : List Char) (vs : List (List Char)) :
    joinWith separator (w :: v :: vs) = w ++ (separator ++ joinWith separator (v :: vs)) := by
  simp [joinWith]

theorem joinWith_cons_append (separator : List Char) (c : Char) (w : List Char) (ws : List (List Char)) :
    joinWith separator ((c :: w) :: ws) = c :: joinWith separator (w :: ws) := by
  cases ws <;> simp [joinWith]

/-- Joining starts with the first word. -/
theorem subset_joinWith_cons (separator w : List Char) (ws : List (List Char)) : w ⊆ joinWith separator (w :: ws) := by
  cases ws with
  | nil => exact List.Subset.refl _
  | cons v vs =>
    rw [joinWith_cons_cons]
    exact List.subset_append_left _ _

/-- Joined words are the words with the separator between neighbours. -/
theorem joinWith_eq_intercalate (separator : List Char) (ws : List (List Char)) :
    joinWith separator ws = separator.intercalate ws := by
  induction ws with
  | nil => rfl
  | cons w ws ih =>
    cases ws with
    | nil => simp [joinWith]
    | cons v vs => rw [joinWith_cons_cons, ih, List.intercalate_cons_cons, List.append_assoc]

/-- The words before a blank and those behind it are apart. -/
theorem words_append_cons {c : Char} (hc : isBlank c = true) (front rest : List Char) :
    words (front ++ c :: rest) = words front ++ words rest := by
  induction front with
  | nil => simp [words, hc]
  | cons x front ih =>
    rw [List.cons_append, words, words, ih]
    split
    · rfl
    · cases front with
      | nil =>
        simp only [List.nil_append, startsBlank, hc, words]
        cases words rest <;> rfl
      | cons y front =>
        simp only [List.cons_append, startsBlank]
        cases hws : words (y :: front) with
        | cons w ws => cases isBlank y <;> rfl
        | nil =>
          have hy : isBlank y = true := by
            rw [words] at hws
            split at hws
            · assumption
            · exact absurd hws (extendWord_ne_nil _ _ _)
          rw [hy]
          cases words rest <;> rfl

end Text

/-- A normalized query that is not empty has a character that is no blank. -/
theorem Query.exists_not_blank {cs : List Char} (h : normalize cs ≠ []) :
    ∃ c ∈ normalize cs, Text.isBlank c = false := by
  unfold normalize at h ⊢
  match hws : Text.words cs with
  | [] =>
    rw [hws] at h
    exact absurd rfl h
  | [] :: ws => exact absurd (hws ▸ List.mem_cons_self) (Text.nil_notMem_words cs)
  | (c :: w) :: ws =>
    have hmem : c :: w ∈ Text.words cs := hws ▸ List.mem_cons_self
    exact ⟨c, Text.subset_joinWith_cons _ _ _ List.mem_cons_self, Text.isBlank_of_mem_words hmem List.mem_cons_self⟩

namespace Query

/-- Nothing is left of a text when it has nothing but blanks. -/
theorem normalize_eq_nil_iff {cs : List Char} : normalize cs = [] ↔ ∀ c ∈ cs, Text.isBlank c = true := by
  rw [← Text.words_eq_nil_iff]
  constructor
  · intro hnil
    cases hws : Text.words cs with
    | nil => rfl
    | cons w ws =>
      rw [normalize, hws] at hnil
      have hw : w = [] := List.eq_nil_of_subset_nil (hnil ▸ Text.subset_joinWith_cons _ _ _)
      exact absurd (hw ▸ hws ▸ List.mem_cons_self) (Text.nil_notMem_words cs)
  · intro hnil
    rw [normalize, hnil]
    rfl

/-- A text with a normal form has a word. -/
theorem words_ne_nil {cs : List Char} (h : normalize cs ≠ []) : Text.words cs ≠ [] :=
  fun hnil => h (normalize_eq_nil_iff.mpr (Text.words_eq_nil_iff.mp hnil))

/-- Normalized texts with single spaces between them are normalized. -/
theorem normalize_intercalate {ts : List (List Char)} (h : ∀ t ∈ ts, t ≠ [] ∧ normalize t = t) :
    normalize ([' '].intercalate ts) = [' '].intercalate ts := by
  induction ts with
  | nil => rfl
  | cons t ts ih =>
    obtain ⟨⟨hne, ht⟩, hts⟩ := List.forall_mem_cons.mp h
    cases ts with
    | nil => rwa [List.intercalate_singleton]
    | cons u us =>
      have hrest : [' '].intercalate (u :: us) ≠ [] := by
        rw [← Text.joinWith_eq_intercalate]
        refine mt (fun hnil => ?_) (hts u List.mem_cons_self).1
        exact List.eq_nil_of_subset_nil (hnil ▸ Text.subset_joinWith_cons _ _ _)
      have hfront := words_ne_nil (ht.symm ▸ hne)
      have hbehind := words_ne_nil ((ih hts).symm ▸ hrest)
      rw [List.intercalate_cons_cons, normalize, List.append_assoc, List.singleton_append,
        Text.words_append_cons Text.isBlank_space, Text.joinWith_eq_intercalate, intercalate_append _ hfront hbehind,
        ← Text.joinWith_eq_intercalate, ← Text.joinWith_eq_intercalate]
      have hjoined := ih hts
      rw [normalize] at ht hjoined
      rw [ht, hjoined, List.singleton_append]

end Query

end EntitySearch
