import EntitySearch.Sql.LikePattern

/-!
# Escaped text is matched literally

A pattern built by `containing` matches a text exactly when the text it was built from is a contiguous part of it
(`isMatch_containing`). The escape character may be any but the two signs of patterns. The three replacements of
`escapeText` act like a single one (`escapeText_singleton`), so that the units of an escaped text are its characters.
-/

namespace EntitySearch.LikePattern

/-! ## The three replacements as one -/

/-- A character as it stands in an escaped text. -/
def escapeChar (e c : Char) : List Char := if c = e ∨ c = '%' ∨ c = '_' then [e, c] else [c]

/-- Replacing a text of one character goes character by character. -/
theorem replaceAll_singleton (e : Char) (replacement cs : List Char) :
    replaceAll [e] replacement cs = replaceChar e replacement cs := by
  induction cs with
  | nil => simp [replaceAll, replaceChar]
  | cons c cs ih =>
    rw [replaceAll]
    by_cases h : c = e
    · subst h
      simpa [replaceChar] using ih
    · have h' : ¬e = c := fun he => h he.symm
      simpa [replaceChar, h, h'] using ih

/-- An escape of one character, other than the two signs, is put before each special character and nowhere else. -/
theorem escapeText_singleton {e : Char} (h1 : e ≠ '%') (h2 : e ≠ '_') (cs : List Char) :
    escapeText [e] cs = cs.flatMap (escapeChar e) := by
  unfold escapeText
  rw [replaceAll_singleton]
  induction cs with
  | nil => rfl
  | cons c cs ih =>
    simp only [replaceChar, List.flatMap_cons, List.flatMap_append] at ih ⊢
    rw [ih]
    congr 1
    by_cases hp : c = '%'
    · subst hp
      simp [escapeChar, h1.symm, h2]
    · by_cases hu : c = '_'
      · subst hu
        simp [escapeChar, h2.symm]
      · by_cases he : c = e
        · subst he
          simp [escapeChar, h1, h2]
        · simp [escapeChar, hp, hu, he]

/-- A map of characters that keeps the escape and the two signs apart from all others maps an escaped character to one. -/
theorem map_escapeChar {e : Char} {f : Char → Char} (hf : ∀ sign ∈ ['%', '_', e], ∀ c, f c = sign ↔ c = sign) (c : Char) :
    (escapeChar e c).map f = escapeChar e (f c) := by
  have hp : f c = '%' ↔ c = '%' := hf '%' (by simp) c
  have hu : f c = '_' ↔ c = '_' := hf '_' (by simp) c
  have he : f c = e ↔ c = e := hf e (by simp) c
  simp only [escapeChar, hp, hu, he]
  split
  · simp [(hf e (by simp) e).mpr rfl]
  · rfl

/-- Such a map commutes with escaping. -/
theorem map_containing {e : Char} (h1 : e ≠ '%') (h2 : e ≠ '_') {f : Char → Char}
    (hf : ∀ sign ∈ ['%', '_', e], ∀ c, f c = sign ↔ c = sign) (cs : List Char) :
    (containing [e] cs).map f = containing [e] (cs.map f) := by
  simp only [containing, escapeText_singleton h1 h2, List.map_append, List.map_cons, List.map_flatMap, List.flatMap_map,
    (hf '%' (by simp) '%').mpr rfl, map_escapeChar hf, List.map_nil]

/-- The pattern built from a text has its characters, the run sign and the escape, and no others. -/
theorem mem_containing {e : Char} (h1 : e ≠ '%') (h2 : e ≠ '_') {c : Char} {cs : List Char} (h : c ∈ containing [e] cs) :
    c ∈ cs ∨ c = '%' ∨ c = e := by
  rw [containing, escapeText_singleton h1 h2, List.mem_append, List.mem_cons, List.mem_flatMap, List.mem_singleton] at h
  rcases h with (h | ⟨d, hd, h⟩) | h
  · exact Or.inr (Or.inl h)
  · unfold escapeChar at h
    split at h
    · rw [List.mem_cons, List.mem_singleton] at h
      rcases h with rfl | rfl
      · exact Or.inr (Or.inr rfl)
      · exact Or.inl hd
    · rw [List.mem_singleton] at h
      exact Or.inl (h ▸ hd)
  · exact Or.inr (Or.inl h)

/-! ## The units of an escaped text -/

/-- A character other than the escape stands for a unit of its own. -/
theorem units?_cons_of_ne {e c : Char} (h : c ≠ e) (cs : List Char) :
    units? (some e) (c :: cs) = (units? (some e) cs).map (Unit.ofChar c :: ·) := by
  cases cs with
  | nil => simp [units?, h]
  | cons d ds => simp [units?, h]

/-- An escaped character stands for itself. -/
theorem units?_escapeChar_append {e : Char} (c : Char) (rest : List Char) :
    units? (some e) (escapeChar e c ++ rest) = (units? (some e) rest).map (Unit.exactly c :: ·) := by
  unfold escapeChar
  split
  · simp [units?]
  · rename_i h
    simp only [not_or] at h
    rw [List.singleton_append, units?_cons_of_ne h.1]
    simp [Unit.ofChar, h.2.1, h.2.2]

/-- The units of an escaped text are its characters. -/
theorem units?_escaped_append {e : Char} (cs rest : List Char) :
    units? (some e) (cs.flatMap (escapeChar e) ++ rest) =
      (units? (some e) rest).map (cs.map Unit.exactly ++ ·) := by
  induction cs with
  | nil => cases h : units? (some e) rest <;> simp [h]
  | cons c cs ih =>
    rw [List.flatMap_cons, List.append_assoc, units?_escapeChar_append, ih, Option.map_map]
    rfl

/-- The pattern of the texts that contain a text: any run, the characters of the text, any run. -/
theorem units?_containing {e : Char} (h1 : e ≠ '%') (h2 : e ≠ '_') (cs : List Char) :
    units? (some e) (containing [e] cs) = some (.run :: (cs.map Unit.exactly ++ [.run])) := by
  have hrun : units? (some e) ['%'] = some [.run] := by simp [units?, Unit.ofChar, h1.symm]
  rw [containing, escapeText_singleton h1 h2, List.cons_append, units?_cons_of_ne h1.symm, units?_escaped_append, hrun]
  simp [Unit.ofChar]

/-! ## Matching -/

/-- Some suffix has a property exactly when the text ends in one that has it. -/
theorem someSuffix_eq_true {p : List Char → Bool} {cs : List Char} :
    someSuffix p cs = true ↔ ∃ t, t <:+ cs ∧ p t = true := by
  induction cs with
  | nil => simp [someSuffix]
  | cons c cs ih =>
    simp only [someSuffix, Bool.or_eq_true, ih, List.suffix_cons_iff]
    constructor
    · rintro (h | ⟨t, ht, h⟩)
      · exact ⟨c :: cs, Or.inl rfl, h⟩
      · exact ⟨t, Or.inr ht, h⟩
    · rintro ⟨t, rfl | ht, h⟩
      · exact Or.inl h
      · exact Or.inr ⟨t, ht, h⟩

/-- Characters before a run match exactly the texts that start with them. -/
theorem unitsMatch_exactly_append_run {cs t : List Char} :
    unitsMatch (cs.map Unit.exactly ++ [.run]) t = true ↔ cs <+: t := by
  induction cs generalizing t with
  | nil =>
    simp only [List.map_nil, List.nil_append, List.nil_prefix, iff_true]
    exact someSuffix_eq_true.mpr ⟨[], List.nil_suffix, rfl⟩
  | cons c cs ih =>
    cases t with
    | nil => simp [unitsMatch]
    | cons d t => simp [unitsMatch, ih, List.cons_prefix_cons]

/-- The pattern built from a text matches exactly the texts that contain it. -/
theorem isMatch_containing {e : Char} (h1 : e ≠ '%') (h2 : e ≠ '_') {cs t : List Char} :
    isMatch (some e) (containing [e] cs) t = true ↔ cs <:+: t := by
  rw [isMatch_eq, units?_containing h1 h2]
  simp only [unitsMatch, someSuffix_eq_true, unitsMatch_exactly_append_run]
  rw [List.infix_iff_prefix_suffix]
  constructor
  · rintro ⟨s, hs, h⟩
    exact ⟨s, h, hs⟩
  · rintro ⟨s, h, hs⟩
    exact ⟨s, hs, h⟩

end EntitySearch.LikePattern
