import EntitySearch.Proofs.Containment
import EntitySearch.Proofs.SingleLine
import EntitySearch.Proofs.Spelling

/-!
# Joined texts are never null

A null part of a chain of texts makes the whole chain null. Joined parts have an empty text in its place, so their value is a
text on every row, whatever the parts are and however the chain they compile to is nested (`Clause.value_joined`): the texts
of the parts between separators. Where a row has nothing, as one that an outer join made up, what is left are the separators.
A pattern asks for every character that it does not stand for (`LikePattern.mem_of_unitsMatch`), and a query starts with a
character that is no blank, so that blanks are not found (`joined_parts_are_never_null`).
-/

namespace EntitySearch

/-! ## The value of joined parts -/

/-- Whether a value is a text, or null. -/
def Value.IsText (v : Value) : Prop := ∃ t, v = .ofText? t

theorem Value.IsText.eq {v : Value} (h : v.IsText) : v = .ofText? (Sql.asText? v) := by
  obtain ⟨t, rfl⟩ := h
  rw [Sql.asText?_ofText?]

/-- Two values or more, one after the other, make a text or null, whatever they are. -/
theorem Sql.isText_concatValues {vs : List Value} (h : 2 ≤ vs.length) : (concatValues vs).IsText := by
  unfold concatValues
  split
  · simp at h
  · exact ⟨_, rfl⟩

namespace Clause

variable {b : Backend} {cells : Contents} {c d : Clause} {cs : List Clause}

theorem length_values_parts (h : c.isVoid = false) : 1 ≤ (values b cells c.parts).length := by
  have hparts : ¬∀ d ∈ c.parts, d.isVoid = true := by
    rw [← areVoid_eq_true, areVoid_parts, h]
    exact Bool.false_ne_true
  rw [values_eq_map, List.length_map, Nat.one_le_iff_ne_zero, Ne, List.length_eq_zero_iff, List.filter_eq_nil_iff]
  simpa using hparts

/-- Two clauses one after the other are worth a text or null. -/
theorem isText_append (hc : c.isVoid = false) (hd : d.isVoid = false) : ((append c d).value b cells).IsText := by
  have hbehind : 1 ≤ (values b cells
      (if d.type = c.type then (d.inPlace .part).parts else [d.inPlace .part])).length := by
    split
    · exact length_values_parts (isVoid_inPlace hd _)
    · simp [values, isVoid_inPlace hd]
  have hfront : 1 ≤ (values b cells (c.inPlace .part).parts).length := length_values_parts (isVoid_inPlace hc _)
  simp only [append, value]
  refine Sql.isText_concatValues ?_
  rw [values_append, List.length_append]
  omega

/-- A chain of clauses that are each worth a text or null is worth one. -/
theorem isText_concatAll (hv : ∀ c ∈ cs, c.isVoid = false) (ht : ∀ c ∈ cs, (c.value b cells).IsText) :
    ((concatAll cs).value b cells).IsText := by
  have hfold : ∀ (cs : List Clause) (c : Clause), c.isVoid = false → (∀ d ∈ cs, d.isVoid = false) →
      (c.value b cells).IsText → ((cs.foldl append c).value b cells).IsText := by
    intro cs
    induction cs with
    | nil => exact fun c _ _ ht => ht
    | cons d ds ih =>
      intro c hc hds _
      obtain ⟨hd, hds⟩ := List.forall_mem_cons.mp hds
      exact ih _ (isVoid_append hc d) hds (isText_append hc hd)
  cases cs with
  | nil => exact ⟨some "", by rw [concatAll, value, Value.ofText?]⟩
  | cons c cs =>
    obtain ⟨hc, hcs⟩ := List.forall_mem_cons.mp hv
    exact hfold cs c hc hcs (ht c List.mem_cons_self)

/-- A text, or the fallback where it is null. -/
theorem isText_coalesce (h : (c.value b cells).IsText) (fallback : String) :
    ((coalesce c fallback).value b cells).IsText := by
  obtain ⟨t, ht⟩ := h
  rw [value, ht]
  cases t with
  | none => exact ⟨some fallback, rfl⟩
  | some s => exact ⟨some s, rfl⟩

/-- Joined texts are worth their concatenation with the separators, where a null one counts as empty. -/
theorem value_joined (separator : String) (h : ∀ c ∈ cs, (c.value b cells).IsText) :
    (concatAll (separated separator cs)).value b cells =
      .text (separator.intercalate (cs.map fun c => (c.text? b cells).getD "")) := by
  have htext : ∀ d ∈ separated separator cs, (d.value b cells).IsText := by
    intro d hd
    obtain ⟨c, hc, rfl⟩ | rfl := mem_separated hd
    · exact isText_coalesce (h c hc) ""
    · exact ⟨some separator, by rw [value, Value.ofText?]⟩
  rw [(isText_concatAll isVoid_of_mem_separated htext).eq, ← text?, text?_joined, Value.ofText?]

end Clause

/-! ## Patterns and blanks -/

/-- A text that units match has every character that one of them asks for. -/
theorem LikePattern.mem_of_unitsMatch {us : List Unit} {text : List Char} {c : Char} (h : unitsMatch us text = true)
    (hc : .exactly c ∈ us) : c ∈ text := by
  induction us generalizing text with
  | nil => nomatch hc
  | cons u us ih =>
    cases u with
    | run =>
      obtain ⟨behind, hsuffix, hmatch⟩ := someSuffix_eq_true.mp h
      exact hsuffix.subset (ih hmatch (by simpa using hc))
    | one =>
      cases text with
      | nil => simp [unitsMatch] at h
      | cons d rest => exact List.mem_cons_of_mem _ (ih h (by simpa using hc))
    | exactly e =>
      cases text with
      | nil => simp [unitsMatch] at h
      | cons d rest =>
        obtain ⟨rfl, hmatch⟩ : e = d ∧ unitsMatch us rest = true := by simpa [unitsMatch] using h
        rcases List.mem_cons.mp hc with heq | hc
        · exact Unit.exactly.inj heq ▸ List.mem_cons_self
        · exact List.mem_cons_of_mem _ (ih hmatch hc)

namespace Backend

variable {b : Backend} {c : Char} {cs text : List Char}

/-- What is assumed of the folding of case: the signs and the escape of patterns stay what they are and apart from all other
characters, and the case of a blank is a blank, that of no other character. -/
structure FoldsCase (b : Backend) : Prop where
  fold_eq_iff : ∀ sign ∈ uncased, ∀ c, b.fold c = sign ↔ c = sign
  isBlank_fold : ∀ c, Text.isBlank (b.fold c) = Text.isBlank c

/-- The letters of ASCII are no blanks, in either case. -/
theorem foldsCase_ascii : ascii.FoldsCase where
  fold_eq_iff _ hs c := lowerAscii_eq_iff hs c
  isBlank_fold c := by
    have hsolid : ∀ d : Char, d.isAlpha = true → Text.isBlank d = false := by
      intro d hd
      refine Bool.eq_false_iff.mpr fun hblank => ?_
      rw [Text.isAlpha_of_covers Text.blankRanges (by decide) hblank] at hd
      cases hd
    cases halpha : c.isAlpha with
    | false => exact congrArg Text.isBlank (Text.toLower_of_isAlpha_eq_false halpha)
    | true =>
      rw [hsolid c halpha]
      exact hsolid c.toLower ((Char.isAlpha_toLower_eq_isAlpha c).trans halpha)

theorem visible_append (h : b.endsAtNull = true → '\x00' ∉ cs) (rest : List Char) :
    b.visible (cs ++ rest) = cs ++ b.visible rest := by
  unfold visible
  split
  · rename_i hends
    refine List.takeWhile_append_of_pos fun c hc => ?_
    rw [bne_iff_ne]
    rintro rfl
    exact h hends hc
  · rfl

/-- What a backend sees of the pattern of a query starts with a run and the first character of the query. -/
theorem FoldsCase.exists_seen_containing (h : b.FoldsCase) (hc : b.endsAtNull = true → c ≠ '\x00') (cs : List Char) :
    ∃ rest, b.seen (LikePattern.containing ['\\'] (c :: cs)) = '%' :: (LikePattern.escapeChar '\\' (b.fold c) ++ rest) := by
  have hfold : ∀ sign ∈ ['%', '_', '\\'], ∀ c, b.fold c = sign ↔ c = sign := fun sign hs =>
    h.fold_eq_iff sign (List.mem_append_left [' '] hs)
  have hnull : b.endsAtNull = true → '\x00' ∉ '%' :: LikePattern.escapeChar '\\' c := by
    intro hends
    have hne := (hc hends).symm
    unfold LikePattern.escapeChar
    split <;> simp [hne]
  have hpattern : LikePattern.containing ['\\'] (c :: cs) =
      ('%' :: LikePattern.escapeChar '\\' c) ++ (cs.flatMap (LikePattern.escapeChar '\\') ++ ['%']) := by
    rw [LikePattern.containing, LikePattern.escapeText_singleton (by decide) (by decide), List.flatMap_cons]
    simp
  rw [hpattern, seen, visible_append hnull, List.map_append, List.map_cons, LikePattern.map_escapeChar hfold,
    (hfold '%' (by simp) '%').mpr rfl]
  exact ⟨_, rfl⟩

/-- A query that starts with a character that is no blank is not found in blanks. -/
theorem FoldsCase.not_isMatch (h : b.FoldsCase) (hc : b.endsAtNull = true → c ≠ '\x00') (hsolid : Text.isBlank c = false)
    (hblank : ∀ d ∈ text, Text.isBlank d = true) (cs : List Char) :
    LikePattern.isMatch (some '\\') (b.seen (LikePattern.containing ['\\'] (c :: cs))) (b.seen text) = false := by
  obtain ⟨rest, hseen⟩ := h.exists_seen_containing hc cs
  have hunits : LikePattern.units? (some '\\') ('%' :: (LikePattern.escapeChar '\\' (b.fold c) ++ rest)) =
      (LikePattern.units? (some '\\') rest).map fun us => .run :: .exactly (b.fold c) :: us := by
    rw [LikePattern.units?_cons_of_ne (by decide), LikePattern.units?_escapeChar_append, Option.map_map]
    rfl
  rw [hseen, LikePattern.isMatch_eq, hunits]
  cases LikePattern.units? (some '\\') rest with
  | none => rfl
  | some us =>
    refine Bool.eq_false_iff.mpr fun hmatch => ?_
    have hmem : b.fold c ∈ b.seen text := LikePattern.mem_of_unitsMatch hmatch (by simp)
    obtain ⟨d, hd, hfold⟩ := List.mem_map.mp hmem
    have hsame : Text.isBlank d = Text.isBlank c := by rw [← h.isBlank_fold d, hfold, h.isBlank_fold]
    rw [hblank d (mem_visible hd), hsolid] at hsame
    cases hsame

end Backend

/-! ## On a row -/

namespace Expr

variable {catalog : Catalog} {b : Backend} {cells : Contents}

/-- The expression compiles, and its clause is worth a text, or null, on a row. -/
def Yields (catalog : Catalog) (b : Backend) (cells : Contents) (e : Expr) (text : Option String) : Prop :=
  ∃ c, Clause.ofExpr catalog e = .ok c ∧ c.value b cells = .ofText? text

theorem yields_column {t : Table} {name : String} (h : name ∈ t.columnNames) :
    (column t.name name).Yields Catalog.ofSchema b cells (cells t.name name) :=
  ⟨_, ofExpr_column h, by rw [Clause.value]⟩

/-- Joined parts yield their texts between separators, where a null part has the empty text. -/
theorem yields_join (separator : String) {parts : List Expr} {texts : List (Option String)}
    (h : List.Forall₂ (Yields catalog b cells) parts texts) :
    (join separator parts).Yields catalog b cells (some (separator.intercalate (texts.map fun t => t.getD ""))) := by
  obtain ⟨cs, hcs, htexts⟩ := exists_between h
  have htext : ∀ c ∈ cs, (c.value b cells).IsText := fun c hc => by
    obtain ⟨t, -, ht⟩ := exists_left_of_mem htexts.flip hc
    exact ⟨t, ht⟩
  have hsame : (cs.map fun c => (c.text? b cells).getD "") = texts.map fun t => t.getD "" :=
    map_eq_map_of_forall₂ htexts fun c t ht => by rw [Clause.text?, ht, Sql.asText?_ofText?]
  refine ⟨_, Clause.ofExpr_join separator hcs, ?_⟩
  rw [Clause.value_joined separator htext, hsame, Value.ofText?]

/-- Where an expression yields a text, the predicate that it contains a query is true or false. -/
theorem yields_containing {e : Expr} {text : String} (h : e.Yields catalog b cells (some text)) (query : String) :
    ∃ c, Clause.ofExpr catalog (e.containing query) = .ok c ∧ c.value b cells =
      .bool (LikePattern.isMatch (some '\\') (b.seen (LikePattern.containing ['\\'] query.toList)) (b.seen text.toList)) := by
  obtain ⟨c, hc, hvalue⟩ := h
  have hescape : LikePattern.defaultEscape.toList = ['\\'] := by decide
  have hchar : Sql.escapeChar (some LikePattern.defaultEscape) = some '\\' := by decide
  have htext : Sql.asText? ((c.inPlace .compared).value b cells) = some text := by
    rw [← Clause.text?, Clause.text?_inPlace, Clause.text?, hvalue, Sql.asText?_ofText?]
  refine ⟨_, bind_eq_ok.mpr ⟨c, hc, rfl⟩, ?_⟩
  rw [Clause.value, Sql.likeTruth, htext, hchar, String.toList_ofList, hescape]
  rfl

end Expr

/-- Of parts that are all null, nothing is left but the separators. -/
theorem isBlank_of_mem_joined {separator : String} {texts : List (Option String)}
    (hseparator : ∀ x ∈ separator.toList, Text.isBlank x = true) (hnull : ∀ t ∈ texts, t = none) :
    ∀ x ∈ (separator.intercalate (texts.map fun t => t.getD "")).toList, Text.isBlank x = true := by
  intro x hx
  rw [String.toList_intercalate] at hx
  rcases mem_intercalate hx with hx | ⟨part, hpart, hx⟩
  · exact hseparator x hx
  · obtain ⟨text, htext, rfl⟩ := List.mem_map.mp hpart
    obtain ⟨t, ht, rfl⟩ := List.mem_map.mp htext
    rw [hnull t ht] at hx
    nomatch hx

/-- **Joined parts are never null.** On every row on which each part is a text or null, the joined parts are worth the texts
with the separators between them, a null one as the empty text; without parts that is the empty text. So where all parts are
null and the separator is blank, no query is found in them: the predicate is false there. The condition on null characters is
about backends in which they end a text: to such a backend a query that starts with one is no text at all. -/
theorem joined_parts_are_never_null (catalog : Catalog) (b : Backend) (cells : Contents) (separator : String)
    {parts : List Expr} {texts : List (Option String)} (h : List.Forall₂ (Expr.Yields catalog b cells) parts texts) :
    (∃ c, Clause.ofExpr catalog (Expr.join separator parts) = .ok c ∧
      c.value b cells = .text (separator.intercalate (texts.map fun t => t.getD ""))) ∧
    ((∀ t ∈ texts, t = none) → (∀ x ∈ separator.toList, Text.isBlank x = true) → b.FoldsCase →
      ∀ (maxLength : Option Int) (raw : Value) (query : ParsedQuery),
        ParsedQuery.ofRaw maxLength raw = .ok (some query) →
        (b.endsAtNull = true → query.normalized.toList.head? ≠ some '\x00') →
          ∃ c, Clause.ofExpr catalog ((Expr.join separator parts).containing query.normalized) = .ok c ∧
            c.value b cells = .bool false) := by
  have hjoin := Expr.yields_join separator h
  refine ⟨hjoin, fun hnull hseparator hb maxLength raw query hquery hstart => ?_⟩
  obtain ⟨hmissing, -, rfl⟩ := ParsedQuery.ofRaw_eq_ok_some_iff.mp hquery
  obtain ⟨c, hc, hvalue⟩ := Expr.yields_containing hjoin (String.ofList (Query.normalize raw.display.toList))
  refine ⟨c, hc, hvalue.trans (congrArg Value.bool ?_)⟩
  simp only [ParsedQuery.ofNormalized, String.toList_ofList] at hstart ⊢
  have hne : Query.normalize raw.display.toList ≠ [] := fun hnil =>
    hmissing (ParsedQuery.isMissing_iff.mpr (.inr hnil))
  have hline := Query.normalize_eq_self_iff.mp (Query.normalize_normalize raw.display.toList)
  obtain ⟨first, rest, hcons⟩ := List.exists_cons_of_ne_nil hne
  rw [hcons] at hstart hline ⊢
  refine hb.not_isMatch (fun hends hfirst => hstart hends (congrArg some hfirst)) (hline.starts first rfl) ?_ rest
  exact isBlank_of_mem_joined hseparator hnull

/-- On a row that an outer join made up, the name of a contact is two spaces, and no query is found in it. -/
theorem missing_contact_is_not_found :
    ParsedQuery.ofRaw (some 200) (.text " Ann  Lee ") = .ok (some ⟨"Ann Lee", "Ann Lee"⟩) ∧ Backend.ascii.FoldsCase ∧
    (∃ c, Clause.ofExpr Catalog.ofSchema (Expr.fullName "contact") = .ok c ∧
      c.value .ascii (fun _ _ => none) = .text "  ") ∧
    ∃ c, Clause.ofExpr Catalog.ofSchema ((Expr.fullName "contact").containing "Ann Lee") = .ok c ∧
      c.value .ascii (fun _ _ => none) = .bool false := by
  have hquery : ParsedQuery.ofRaw (some 200) (.text " Ann  Lee ") = .ok (some ⟨"Ann Lee", "Ann Lee"⟩) := by
    refine ParsedQuery.ofRaw_eq_ok_some_iff.mpr ⟨?_, ?_, by decide +kernel⟩
    · rintro (hnull | hblank)
      · nomatch hnull
      · exact absurd (hblank 'A' (by decide)) (by decide)
    · rintro ⟨m, hm, -, hlt⟩
      cases hm
      exact absurd hlt (by decide +kernel)
  have hparts : List.Forall₂ (Expr.Yields Catalog.ofSchema .ascii fun _ _ => none)
      [.column "contact" "last_name", .column "contact" "first_name", .column "contact" "middle_name"] [none, none, none] :=
    .cons (Expr.yields_column (t := .contact) (by decide)) (.cons (Expr.yields_column (t := .contact) (by decide))
      (.cons (Expr.yields_column (t := .contact) (by decide)) .nil))
  have hspaces : " ".intercalate ([none, none, none].map fun t : Option String => t.getD "") = "  " := by decide
  obtain ⟨⟨c, hc, hvalue⟩, hfound⟩ := joined_parts_are_never_null Catalog.ofSchema .ascii (fun _ _ => none) " " hparts
  rw [hspaces] at hvalue
  have hblank : ∀ x ∈ " ".toList, Text.isBlank x = true := by simp [Text.isBlank_space]
  have hstart : "Ann Lee".toList.head? ≠ some '\x00' := by decide
  have hname := hfound (by simp) hblank Backend.foldsCase_ascii (some 200) _ _ hquery fun _ => hstart
  exact ⟨hquery, Backend.foldsCase_ascii, ⟨c, hc, hvalue⟩, hname⟩

end EntitySearch
