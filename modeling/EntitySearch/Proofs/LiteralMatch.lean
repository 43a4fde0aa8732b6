import EntitySearch.Proofs.Containment

/-!
# Matching by the rules of LIKE

The rules of LIKE, as they are written down, leave open how long a run is that a percent sign stands for (`LikePattern.Likes`).
`isMatch` finds a way to match whenever there is one (`isMatch_iff_likes`). User text put into a pattern is therefore matched
literally: the pattern likes exactly the texts that contain it, whatever signs and escapes it is made of, and so does the
predicate built from it under any folding of case that keeps the signs of patterns apart (`user_text_is_matched_literally`).
-/

namespace EntitySearch

namespace LikePattern

/-- Whether a pattern matches a whole text under an escape character, by the rules. -/
inductive Likes (escape : Char) : List Char → List Char → Prop where
  /-- The empty pattern matches the empty text. -/
  | nothing : Likes escape [] []
  /-- A percent sign matches any run of characters. -/
  | run {pattern text : List Char} (passed : List Char) :
      '%' ≠ escape → Likes escape pattern text → Likes escape ('%' :: pattern) (passed ++ text)
  /-- An underscore matches any character. -/
  | one {pattern text : List Char} (c : Char) :
      '_' ≠ escape → Likes escape pattern text → Likes escape ('_' :: pattern) (c :: text)
  /-- The escape makes the character behind it match itself. -/
  | escaped {pattern text : List Char} (c : Char) :
      Likes escape pattern text → Likes escape (escape :: c :: pattern) (c :: text)
  /-- Any other character matches itself. -/
  | exactly {pattern text : List Char} {c : Char} :
      c ≠ escape → c ≠ '%' → c ≠ '_' → Likes escape pattern text → Likes escape (c :: pattern) (c :: text)

section

variable {e c : Char} {pattern text : List Char} {us : List Unit}

/-- An escape and the character behind it stand for that character. -/
theorem units?_escape (e c : Char) (pattern : List Char) :
    units? (some e) (e :: c :: pattern) = (units? (some e) pattern).map (Unit.exactly c :: ·) := by
  rw [units?, if_pos rfl]

/-- An escape with nothing behind it makes no pattern. -/
theorem units?_escape_alone (e : Char) : units? (some e) [e] = none := by
  rw [units?, if_pos rfl]

/-- A run passes over any characters. -/
theorem unitsMatch_run :
    unitsMatch (.run :: us) text = true ↔ ∃ passed rest, text = passed ++ rest ∧ unitsMatch us rest = true := by
  rw [unitsMatch, someSuffix_eq_true]
  constructor
  · rintro ⟨rest, ⟨passed, rfl⟩, h⟩
    exact ⟨passed, rest, rfl, h⟩
  · rintro ⟨passed, rest, rfl, h⟩
    exact ⟨rest, List.suffix_append _ _, h⟩

theorem unitsMatch_one : unitsMatch (.one :: us) text = true ↔ ∃ c rest, text = c :: rest ∧ unitsMatch us rest = true := by
  cases text <;> simp [unitsMatch]

theorem unitsMatch_exactly :
    unitsMatch (.exactly c :: us) text = true ↔ ∃ rest, text = c :: rest ∧ unitsMatch us rest = true := by
  cases text with
  | nil => simp [unitsMatch]
  | cons d text =>
    rw [unitsMatch, Bool.and_eq_true, decide_eq_true_eq]
    constructor
    · rintro ⟨rfl, h⟩
      exact ⟨text, rfl, h⟩
    · rintro ⟨rest, htext, h⟩
      obtain ⟨rfl, rfl⟩ := List.cons.inj htext
      exact ⟨rfl, h⟩

/-- What matches by the rules is matched by the units of the pattern. -/
theorem Likes.exists_units (h : Likes e pattern text) :
    ∃ us, units? (some e) pattern = some us ∧ unitsMatch us text = true := by
  induction h with
  | nothing => exact ⟨[], rfl, rfl⟩
  | run passed hne _ ih =>
    obtain ⟨us, hus, hmatch⟩ := ih
    exact ⟨.run :: us, by rw [units?_cons_of_ne hne, hus]; rfl, unitsMatch_run.mpr ⟨passed, _, rfl, hmatch⟩⟩
  | one c hne _ ih =>
    obtain ⟨us, hus, hmatch⟩ := ih
    exact ⟨.one :: us, by rw [units?_cons_of_ne hne, hus]; rfl, unitsMatch_one.mpr ⟨c, _, rfl, hmatch⟩⟩
  | escaped c _ ih =>
    obtain ⟨us, hus, hmatch⟩ := ih
    exact ⟨.exactly c :: us, by rw [units?_escape, hus]; rfl, unitsMatch_exactly.mpr ⟨_, rfl, hmatch⟩⟩
  | @exactly pattern text c hne hp hu _ ih =>
    obtain ⟨us, hus, hmatch⟩ := ih
    refine ⟨.exactly c :: us, ?_, unitsMatch_exactly.mpr ⟨_, rfl, hmatch⟩⟩
    rw [units?_cons_of_ne hne, hus, Unit.ofChar, if_neg hp, if_neg hu]
    rfl

/-- A character outside an escape matches by the rules what its unit matches. -/
theorem likes_cons (hne : c ≠ e) (hrest : ∀ text, unitsMatch us text = true → Likes e pattern text)
    (h : unitsMatch (.ofChar c :: us) text = true) : Likes e (c :: pattern) text := by
  unfold Unit.ofChar at h
  split at h
  · rename_i hp
    obtain ⟨passed, rest, rfl, hmatch⟩ := unitsMatch_run.mp h
    exact hp ▸ .run passed (hp ▸ hne) (hrest rest hmatch)
  · rename_i hp
    split at h
    · rename_i hu
      obtain ⟨d, rest, rfl, hmatch⟩ := unitsMatch_one.mp h
      exact hu ▸ .one d (hu ▸ hne) (hrest rest hmatch)
    · rename_i hu
      obtain ⟨rest, rfl, hmatch⟩ := unitsMatch_exactly.mp h
      exact .exactly hne hp hu (hrest rest hmatch)

/-- What the units of a pattern match matches by the rules. -/
theorem likes_of_units (hus : units? (some e) pattern = some us) (h : unitsMatch us text = true) : Likes e pattern text := by
  induction hn : pattern.length using Nat.strongRecOn generalizing pattern us text with
  | ind n ih =>
    subst hn
    cases pattern with
    | nil =>
      rw [← Option.some.inj hus, unitsMatch, List.isEmpty_iff] at h
      rw [h]
      exact .nothing
    | cons c pattern =>
      by_cases hc : c = e
      · subst hc
        cases pattern with
        | nil => rw [units?_escape_alone] at hus; cases hus
        | cons d pattern =>
          rw [units?_escape, Option.map_eq_some_iff] at hus
          obtain ⟨us', hus', rfl⟩ := hus
          obtain ⟨rest, rfl, hmatch⟩ := unitsMatch_exactly.mp h
          exact .escaped d (ih _ (by simp only [List.length_cons]; omega) hus' hmatch rfl)
      · rw [units?_cons_of_ne hc, Option.map_eq_some_iff] at hus
        obtain ⟨us', hus', rfl⟩ := hus
        exact likes_cons hc (fun _ hmatch => ih _ (by simp) hus' hmatch rfl) h

/-- A pattern matches exactly what it matches by the rules. -/
theorem isMatch_iff_likes : isMatch (some e) pattern text = true ↔ Likes e pattern text := by
  rw [isMatch_eq]
  constructor
  · intro h
    cases hus : units? (some e) pattern with
    | none => rw [hus] at h; cases h
    | some us => rw [hus] at h; exact likes_of_units hus h
  · intro h
    obtain ⟨us, hus, hmatch⟩ := h.exists_units
    rw [hus]
    exact hmatch

end

end LikePattern

/-- A backend that folds the case of characters and sees texts whole. -/
def Backend.folding (fold : Char → Char) : Backend := ⟨fold, false⟩

theorem Backend.seen_folding (fold : Char → Char) (cs : List Char) : (folding fold).seen cs = cs.map fold := rfl

/-- **User text is matched literally.** Under any escape but the two signs of patterns, the pattern built from a text likes
exactly the texts that contain it. The predicate that an expression contains a query holds exactly where the expression has a
text that contains the query, up to any folding of case that neither moves the signs and the escape nor makes another character
one of them. -/
theorem user_text_is_matched_literally :
    (∀ e : Char, e ≠ '%' → e ≠ '_' → ∀ query text : List Char,
      (LikePattern.Likes e ('%' :: LikePattern.escapeText [e] query ++ ['%']) text ↔ query <:+: text) ∧
        (LikePattern.isMatch (some e) ('%' :: LikePattern.escapeText [e] query ++ ['%']) text = true ↔ query <:+: text)) ∧
    ∀ fold : Char → Char, (∀ sign ∈ ['%', '_', '\\'], ∀ c, fold c = sign ↔ c = sign) →
      ∀ (catalog : Catalog) (expr : Expr) (clause : Clause) (query : String), Clause.ofExpr catalog expr = .ok clause →
        ∃ condition, Clause.ofExpr catalog (expr.containing query) = .ok condition ∧ ∀ cells,
          (condition.holds (.folding fold) cells = true ↔
            ∃ text, clause.text? (.folding fold) cells = some text ∧ query.toList.map fold <:+: text.toList.map fold) := by
  refine ⟨fun e h1 h2 query text => ⟨?_, LikePattern.isMatch_containing h1 h2⟩, ?_⟩
  · rw [← LikePattern.isMatch_iff_likes]
    exact LikePattern.isMatch_containing h1 h2
  · intro fold hfold catalog expr clause query hclause
    refine ⟨_, bind_eq_ok.mpr ⟨clause, hclause, rfl⟩, fun cells => ?_⟩
    have hescape : LikePattern.defaultEscape.toList = ['\\'] := by decide
    have hchar : Sql.escapeChar (some LikePattern.defaultEscape) = some '\\' := by decide
    rw [Clause.holds_like]
    simp only [Clause.text?_inPlace, Backend.seen_folding, hescape, hchar, String.toList_ofList,
      LikePattern.map_containing (show '\\' ≠ '%' by decide) (show '\\' ≠ '_' by decide) hfold,
      LikePattern.isMatch_containing (show '\\' ≠ '%' by decide) (show '\\' ≠ '_' by decide)]

/-- A query of signs and escapes is found where it stands, in either case of its letters, and not where something else does. -/
theorem signs_and_escapes_are_found : '!' ≠ '%' ∧ '!' ≠ '_' ∧
    LikePattern.Likes '!' ('%' :: LikePattern.escapeText ['!'] "5%_!".toList ++ ['%']) "only 5%_!".toList ∧
    ¬LikePattern.Likes '!' ('%' :: LikePattern.escapeText ['!'] "5%_!".toList ++ ['%']) "only 500!".toList ∧
    (∀ sign ∈ ['%', '_', '\\'], ∀ c, Backend.lowerAscii c = sign ↔ c = sign) ∧
    Clause.ofExpr Catalog.ofSchema (.column "listing" "title") = .ok (.column "listing" "title") ∧
    ∃ condition, Clause.ofExpr Catalog.ofSchema ((Expr.column "listing" "title").containing "A_\\") = .ok condition ∧
      condition.holds (.folding Backend.lowerAscii) (fun _ _ => some "Flat a_\\b") = true ∧
      condition.holds (.folding Backend.lowerAscii) (fun _ _ => some "Flat ab\\b") ≠ true := by
  obtain ⟨hlikes, htests⟩ := user_text_is_matched_literally
  have hfold : ∀ sign ∈ ['%', '_', '\\'], ∀ c, Backend.lowerAscii c = sign ↔ c = sign := fun sign hs =>
    Backend.lowerAscii_eq_iff (List.mem_append_left [' '] hs)
  have hcolumn : Clause.ofExpr Catalog.ofSchema (.column "listing" "title") = .ok (.column "listing" "title") :=
    Expr.ofExpr_column (t := .listing) (by decide)
  obtain ⟨condition, hcondition, hholds⟩ := htests _ hfold _ _ _ "A_\\" hcolumn
  refine ⟨by decide, by decide, ?_, ?_, hfold, hcolumn, condition, hcondition, ?_, ?_⟩
  · exact (hlikes '!' (by decide) (by decide) _ _).1.mpr (by decide +kernel)
  · exact mt (hlikes '!' (by decide) (by decide) _ _).1.mp (by decide +kernel)
  · exact (hholds _).mpr ⟨"Flat a_\\b", Clause.text?_column _ _, by decide +kernel⟩
  · rw [Ne, hholds]
    rintro ⟨text, htext, hinfix⟩
    rw [Clause.text?_column, Option.some.injEq] at htext
    subst htext
    exact absurd hinfix (by decide +kernel)

end EntitySearch
