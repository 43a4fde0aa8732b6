import EntitySearch.Proofs.PhoneShape
import Mathlib.Logic.ExistsUnique

/-!
# The normal form of a query

A text is its words with blanks around them, in one way only (`Text.splitsInto_iff`): each word is as long as it can be. A
normalized query has the words of the text it comes from (`Query.words_normalize`), so that two texts have the same normal form
just when they have the same words, and reading a query that has been read before changes nothing. What comes of a raw query is
decided by its blanks and its normalized length alone (`queries_are_read_by_words`).
-/

namespace EntitySearch

namespace Text

/-- Whether a text splits into these words: no word holds a blank, and each is bounded by blanks or the ends of the text. -/
inductive SplitsInto : List Char → List (List Char) → Prop
  | blank {gap : List Char} : (∀ c ∈ gap, isBlank c = true) → SplitsInto gap []
  | word {gap w rest : List Char} {ws : List (List Char)} : (∀ c ∈ gap, isBlank c = true) → w ≠ [] →
      (∀ c ∈ w, isBlank c = false) → startsBlank rest = true → SplitsInto rest ws → SplitsInto (gap ++ (w ++ rest)) (w :: ws)

variable {cs gap w rest : List Char} {ws : List (List Char)} {c : Char}

/-! ## The words of a text -/

theorem extendWord_apart (c : Char) (ws : List (List Char)) : extendWord c true ws = [c] :: ws := by
  cases ws <;> rfl

/-- Blanks in front of a text do not change its words. -/
theorem words_append_of_blank (hgap : ∀ c ∈ gap, isBlank c = true) (rest : List Char) : words (gap ++ rest) = words rest := by
  induction gap with
  | nil => rfl
  | cons c gap ih =>
    obtain ⟨hc, hgap⟩ := List.forall_mem_cons.mp hgap
    rw [List.cons_append, words, if_pos hc, ih hgap]

/-- Characters that are no blanks, with a blank or nothing behind them, are the first word. -/
theorem words_append_of_solid (hne : w ≠ []) (hw : ∀ c ∈ w, isBlank c = false) (hrest : startsBlank rest = true) :
    words (w ++ rest) = w :: words rest := by
  induction w with
  | nil => exact absurd rfl hne
  | cons c w ih =>
    obtain ⟨hc, hw⟩ := List.forall_mem_cons.mp hw
    rw [List.cons_append, words, hc]
    cases w with
    | nil => rw [List.nil_append, hrest, if_neg Bool.false_ne_true, extendWord_apart]
    | cons d w =>
      have hd : startsBlank (d :: w ++ rest) = false := hw d List.mem_cons_self
      rw [ih (List.cons_ne_nil d w) hw, hd, if_neg Bool.false_ne_true]
      rfl

/-- A text splits into no other words than its own. -/
theorem SplitsInto.words_eq (h : SplitsInto cs ws) : words cs = ws := by
  induction h with
  | blank hgap => exact words_eq_nil_iff.mpr hgap
  | word hgap hne hw hrest _ ih => rw [words_append_of_blank hgap, words_append_of_solid hne hw hrest, ih]

/-- A blank in front splits off nothing. -/
theorem SplitsInto.cons_blank (h : SplitsInto rest ws) (hc : isBlank c = true) : SplitsInto (c :: rest) ws := by
  cases h with
  | blank hgap => exact .blank (List.forall_mem_cons.mpr ⟨hc, hgap⟩)
  | word hgap hne hw hrest h => exact .word (List.forall_mem_cons.mpr ⟨hc, hgap⟩) hne hw hrest h

/-- A character that is no blank is a word of its own when a blank follows, or else starts the first word. -/
theorem SplitsInto.cons_solid (h : SplitsInto rest ws) (hc : isBlank c = false) :
    SplitsInto (c :: rest) (extendWord c (startsBlank rest) ws) := by
  have halone : startsBlank rest = true → SplitsInto (c :: rest) (extendWord c (startsBlank rest) ws) := by
    intro hrest
    rw [hrest, extendWord_apart]
    exact .word (List.forall_mem_nil _) (List.cons_ne_nil c []) (by simpa using hc) hrest h
  cases h with
  | blank hgap =>
    refine halone ?_
    cases rest with
    | nil => rfl
    | cons d rest => exact hgap d List.mem_cons_self
  | @word gap w rest ws hgap hne hw hrest h =>
    cases gap with
    | cons d gap => exact halone (hgap d List.mem_cons_self)
    | nil =>
      obtain ⟨d, w, rfl⟩ := List.exists_cons_of_ne_nil hne
      have hd : startsBlank ([] ++ (d :: w ++ rest)) = false := hw d List.mem_cons_self
      rw [hd]
      exact .word (List.forall_mem_nil _) (List.cons_ne_nil c _) (List.forall_mem_cons.mpr ⟨hc, hw⟩) hrest h

/-- A text splits into its words. -/
theorem splitsInto_words (cs : List Char) : SplitsInto cs (words cs) := by
  induction cs with
  | nil => exact .blank (List.forall_mem_nil _)
  | cons c rest ih =>
    rw [words]
    split
    · exact ih.cons_blank ‹_›
    · exact ih.cons_solid (Bool.eq_false_iff.mpr ‹_›)

/-- A text splits into its words and nothing else. -/
theorem splitsInto_iff : SplitsInto cs ws ↔ words cs = ws :=
  ⟨SplitsInto.words_eq, fun h => h ▸ splitsInto_words cs⟩

/-- Words with single spaces between them are the words of the text they make up. -/
theorem words_joinWith (h : ∀ w ∈ ws, w ≠ [] ∧ ∀ c ∈ w, isBlank c = false) : words (joinWith [' '] ws) = ws := by
  induction ws with
  | nil => rfl
  | cons w ws ih =>
    obtain ⟨⟨hne, hw⟩, hws⟩ := List.forall_mem_cons.mp h
    cases ws with
    | nil =>
      have hlast : words (w ++ []) = [w] := words_append_of_solid hne hw rfl
      rwa [List.append_nil] at hlast
    | cons v vs =>
      have hspace : startsBlank (' ' :: joinWith [' '] (v :: vs)) = true := isBlank_space
      rw [joinWith_cons_cons, List.singleton_append, words_append_of_solid hne hw hspace, words, if_pos isBlank_space, ih hws]

end Text

namespace Query

/-- A normalized query has the words of the text it comes from. -/
theorem words_normalize (cs : List Char) : Text.words (normalize cs) = Text.words cs := by
  refine Text.words_joinWith fun w hw => ⟨?_, fun c hc => Text.isBlank_of_mem_words hw hc⟩
  rintro rfl
  exact Text.nil_notMem_words cs hw

/-- A normal form is its own normal form. -/
theorem normalize_normalize (cs : List Char) : normalize (normalize cs) = normalize cs := by
  rw [normalize, words_normalize, normalize]

/-- Two texts have the same normal form just when they have the same words. -/
theorem normalize_eq_iff {a b : List Char} : normalize a = normalize b ↔ Text.words a = Text.words b := by
  constructor
  · intro h
    rw [← words_normalize a, h, words_normalize]
  · intro h
    rw [normalize, h, normalize]

end Query

namespace ParsedQuery

variable {maxLength : Option Int} {raw : Value}

/-! ## Reading a query -/

/-- A query that is missing or has nothing but blanks reads as none. -/
theorem ofRaw_of_blank (h : raw = .null ∨ Query.normalize raw.display.toList = []) : ofRaw maxLength raw = .ok none := by
  unfold ofRaw
  split
  · rfl
  · rename_i hraw
    simp [h.resolve_left hraw]

/-- A query that is neither blank nor too long is read. -/
theorem ofRaw_eq_some (hraw : raw ≠ .null) (hne : Query.normalize raw.display.toList ≠ [])
    (hlen : exceeds maxLength (Query.normalize raw.display.toList) = false) :
    ofRaw maxLength raw = .ok (some (ofNormalized (Query.normalize raw.display.toList))) := by
  unfold ofRaw
  split
  · exact absurd rfl hraw
  · simp [hne, hlen]

/-- A query that is too long is refused. -/
theorem ofRaw_of_exceeds (hraw : raw ≠ .null) (hne : Query.normalize raw.display.toList ≠ [])
    (hlen : exceeds maxLength (Query.normalize raw.display.toList) = true) :
    ofRaw maxLength raw = .error (.domain (.queryTooLong (Value.ofInt? maxLength))) := by
  unfold ofRaw
  split
  · exact absurd rfl hraw
  · simp [hne, hlen]

/-- A text exceeds a limit when there is one, it is not zero, and the text is longer. -/
theorem exceeds_eq_true_iff {limit : Option Int} {cs : List Char} :
    exceeds limit cs = true ↔ ∃ m, limit = some m ∧ m ≠ 0 ∧ m < cs.length := by
  cases limit <;> simp [exceeds]

/-- Whether a query has no text to search for: none is given, or nothing but blanks. -/
def IsMissing (raw : Value) : Prop := raw = .null ∨ ∀ c ∈ raw.display.toList, Text.isBlank c = true

/-- A query is missing when it is null or has an empty normal form. -/
theorem isMissing_iff : IsMissing raw ↔ raw = .null ∨ Query.normalize raw.display.toList = [] := by
  rw [IsMissing, Query.normalize_eq_nil_iff]

/-- What comes of a raw query, in three cases. -/
theorem ofRaw_cases (maxLength : Option Int) (raw : Value) :
    (IsMissing raw ∧ ofRaw maxLength raw = .ok none) ∨
      (¬IsMissing raw ∧ exceeds maxLength (Query.normalize raw.display.toList) = true ∧
        ofRaw maxLength raw = .error (.domain (.queryTooLong (Value.ofInt? maxLength)))) ∨
      (¬IsMissing raw ∧ exceeds maxLength (Query.normalize raw.display.toList) = false ∧
        ofRaw maxLength raw = .ok (some (ofNormalized (Query.normalize raw.display.toList)))) := by
  by_cases hmissing : IsMissing raw
  · exact .inl ⟨hmissing, ofRaw_of_blank (isMissing_iff.mp hmissing)⟩
  · obtain ⟨hraw, hne⟩ := not_or.mp (mt isMissing_iff.mpr hmissing)
    cases hlen : exceeds maxLength (Query.normalize raw.display.toList) with
    | true => exact .inr (.inl ⟨hmissing, rfl, ofRaw_of_exceeds hraw hne hlen⟩)
    | false => exact .inr (.inr ⟨hmissing, rfl, ofRaw_eq_some hraw hne hlen⟩)

/-- Nothing is read just when the query is missing. -/
theorem ofRaw_eq_ok_none_iff : ofRaw maxLength raw = .ok none ↔ IsMissing raw := by
  rcases ofRaw_cases maxLength raw with ⟨hmissing, h⟩ | ⟨hmissing, -, h⟩ | ⟨hmissing, -, h⟩
  · exact iff_of_true h hmissing
  · exact iff_of_false (by simp [h]) hmissing
  · exact iff_of_false (by simp [h]) hmissing

/-- A query is refused for its length, and for nothing else. -/
theorem ofRaw_eq_error_iff {e : Failure} : ofRaw maxLength raw = .error e ↔
    ¬IsMissing raw ∧ ∃ m, maxLength = some m ∧ m ≠ 0 ∧ m < (Query.normalize raw.display.toList).length ∧
      e = .domain (.queryTooLong (.int m)) := by
  rcases ofRaw_cases maxLength raw with ⟨hmissing, h⟩ | ⟨hmissing, hlen, h⟩ | ⟨hmissing, hlen, h⟩
  · exact iff_of_false (by simp [h]) fun hread => hread.1 hmissing
  · obtain ⟨m, rfl, hm, hlt⟩ := exceeds_eq_true_iff.mp hlen
    rw [h]
    constructor
    · intro heq
      cases heq
      exact ⟨hmissing, m, rfl, hm, hlt, rfl⟩
    · rintro ⟨-, k, hk, -, -, rfl⟩
      cases hk
      rfl
  · refine iff_of_false (by simp [h]) ?_
    rintro ⟨-, m, hm, hne, hlt, -⟩
    rw [exceeds_eq_true_iff.mpr ⟨m, hm, hne, hlt⟩] at hlen
    cases hlen

/-- A query that is neither missing nor too long is read as its normal form. -/
theorem ofRaw_eq_ok_some_iff {p : ParsedQuery} : ofRaw maxLength raw = .ok (some p) ↔
    ¬IsMissing raw ∧ (¬∃ m, maxLength = some m ∧ m ≠ 0 ∧ m < (Query.normalize raw.display.toList).length) ∧
      p = ofNormalized (Query.normalize raw.display.toList) := by
  rw [← exceeds_eq_true_iff]
  rcases ofRaw_cases maxLength raw with ⟨hmissing, h⟩ | ⟨hmissing, hlen, h⟩ | ⟨hmissing, hlen, h⟩
  · exact iff_of_false (by simp [h]) fun hread => hread.1 hmissing
  · exact iff_of_false (by simp [h]) fun hread => hread.2.1 hlen
  · rw [h, hlen]
    constructor
    · intro heq
      cases heq
      exact ⟨hmissing, Bool.false_ne_true, rfl⟩
    · rintro ⟨-, -, rfl⟩
      rfl

/-- A query that has been read is read again as itself. -/
theorem ofRaw_normalized {p : ParsedQuery} (h : ofRaw maxLength raw = .ok (some p)) :
    ofRaw maxLength (.text p.normalized) = .ok (some p) := by
  obtain ⟨hmissing, hlen, rfl⟩ := ofRaw_eq_ok_some_iff.mp h
  have hagain : Query.normalize (Value.text (ofNormalized (Query.normalize raw.display.toList)).normalized).display.toList =
      Query.normalize raw.display.toList := by
    rw [Value.display, ofNormalized, String.toList_ofList, Query.normalize_normalize]
  refine ofRaw_eq_ok_some_iff.mpr ⟨?_, by rwa [hagain], by rw [hagain]⟩
  rw [isMissing_iff, hagain]
  rintro (hnull | hnil)
  · nomatch hnull
  · exact hmissing (isMissing_iff.mpr (.inr hnil))

end ParsedQuery

/-- **Queries are read by their words.** A text splits into words in one way, and two texts have the same normal form just when
they split into the same words; a normal form is its own, and it has the characters of the text that are no blanks, in their
order. Nothing is read of a query just when it is missing; otherwise it is refused just when there is a limit other than zero
that its normal form exceeds, and else its normal form is read, and read again as itself. -/
theorem queries_are_read_by_words (a b : List Char) (maxLength : Option Int) (raw : Value) :
    (∃! ws, Text.SplitsInto a ws) ∧
      (Query.normalize a = Query.normalize b ↔ ∃ ws, Text.SplitsInto a ws ∧ Text.SplitsInto b ws) ∧
      Query.normalize (Query.normalize a) = Query.normalize a ∧
      Text.solid (Query.normalize a) = Text.solid a ∧
      (ParsedQuery.ofRaw maxLength raw = .ok none ↔ ParsedQuery.IsMissing raw) ∧
      (∀ e, ParsedQuery.ofRaw maxLength raw = .error e ↔ ¬ParsedQuery.IsMissing raw ∧
        ∃ m, maxLength = some m ∧ m ≠ 0 ∧ m < (Query.normalize raw.display.toList).length ∧
          e = .domain (.queryTooLong (.int m))) ∧
      (∀ p, ParsedQuery.ofRaw maxLength raw = .ok (some p) ↔ ¬ParsedQuery.IsMissing raw ∧
        (¬∃ m, maxLength = some m ∧ m ≠ 0 ∧ m < (Query.normalize raw.display.toList).length) ∧
          p = .ofNormalized (Query.normalize raw.display.toList)) ∧
      ∀ p, ParsedQuery.ofRaw maxLength raw = .ok (some p) → ParsedQuery.ofRaw maxLength (.text p.normalized) = .ok (some p) := by
  refine ⟨⟨Text.words a, Text.splitsInto_words a, fun ws h => h.words_eq.symm⟩, ?_, Query.normalize_normalize a,
    Text.solid_normalize a, ParsedQuery.ofRaw_eq_ok_none_iff, fun e => ParsedQuery.ofRaw_eq_error_iff,
    fun p => ParsedQuery.ofRaw_eq_ok_some_iff, fun p h => ParsedQuery.ofRaw_normalized h⟩
  rw [Query.normalize_eq_iff]
  constructor
  · intro h
    exact ⟨Text.words b, Text.splitsInto_iff.mpr h, Text.splitsInto_words b⟩
  · rintro ⟨ws, ha, hb⟩
    rw [ha.words_eq, hb.words_eq]

/-- A space without width is no blank. -/
example : Query.normalize "\u2003Lakeside\u2028\t Cottage\u200b\n".toList = "Lakeside Cottage\u200b".toList := by decide

end EntitySearch
