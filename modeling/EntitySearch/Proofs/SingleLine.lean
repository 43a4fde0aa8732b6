import EntitySearch.Proofs.Masking
import EntitySearch.Proofs.NormalForm
import EntitySearch.Service
import Mathlib.Data.List.Chain

/-!
# Masked queries on one line

A text is normalized when it is a line: blanks neither at its ends nor next to each other, and no blank but the space
(`Query.normalize_eq_self_iff`). A part of a line may give way to characters that are no blanks (`Text.IsLine.replace`), and a
placeholder has none, so that each replacement keeps the line one, and so does masking as a whole (`Text.IsLine.replaceMatches`).
The masked form of a query is therefore normalized like the query, and puts no line break into the audit log
(`masked_query_is_one_line`).
-/

namespace EntitySearch

namespace Text

/-! ## Lines -/

/-- Whether a text is its words with single spaces between them and nothing around them. -/
structure IsLine (cs : List Char) : Prop where
  starts : ∀ c ∈ cs.head?, isBlank c = false
  ends : ∀ c ∈ cs.getLast?, isBlank c = false
  apart : cs.IsChain fun c d => ¬(isBlank c = true ∧ isBlank d = true)
  spaces : ∀ c ∈ cs, isBlank c = true → c = ' '

variable {cs front m back w : List Char} {ws : List (List Char)}

theorem isChain_of_solid (hw : ∀ c ∈ w, isBlank c = false) : w.IsChain fun c d => ¬(isBlank c = true ∧ isBlank d = true) := by
  induction w with
  | nil => exact .nil
  | cons c w ih =>
    obtain ⟨hc, hw⟩ := List.forall_mem_cons.mp hw
    refine (ih hw).cons fun d _ => ?_
    simp [hc]

theorem isLine_of_solid (hw : ∀ c ∈ w, isBlank c = false) : IsLine w where
  starts c hc := hw c (List.mem_of_mem_head? hc)
  ends c hc := hw c (List.mem_of_mem_getLast? hc)
  apart := isChain_of_solid hw
  spaces c hc hblank := by
    rw [hw c hc] at hblank
    cases hblank

/-- A part of a line may give way to characters that are no blanks, if there are any. -/
theorem IsLine.replace (h : IsLine (front ++ (m ++ back))) (hne : w ≠ []) (hw : ∀ c ∈ w, isBlank c = false) :
    IsLine (front ++ (w ++ back)) := by
  obtain ⟨hfront, hrest, -⟩ := List.isChain_append.mp h.apart
  obtain ⟨-, hback, -⟩ := List.isChain_append.mp hrest
  refine ⟨?_, ?_, ?_, ?_⟩
  · intro c hc
    cases hhead : front.head? with
    | some d =>
      refine h.starts c ?_
      rw [List.head?_append, hhead] at hc ⊢
      exact hc
    | none =>
      rw [List.head?_append, hhead, Option.none_or, List.head?_append_of_ne_nil _ hne] at hc
      exact hw c (List.mem_of_mem_head? hc)
  · intro c hc
    rw [List.getLast?_append_of_ne_nil _ (by simp [hne])] at hc
    cases hlast : back.getLast? with
    | some d =>
      refine h.ends c ?_
      rw [List.getLast?_append, hlast] at hc
      rw [List.getLast?_append, List.getLast?_append, hlast]
      exact hc
    | none =>
      rw [List.getLast?_append, hlast, Option.none_or] at hc
      exact hw c (List.mem_of_mem_getLast? hc)
  · refine List.isChain_append.mpr ⟨hfront, List.isChain_append.mpr ⟨isChain_of_solid hw, hback, ?_⟩, ?_⟩
    · intro c hc d _
      simp [hw c (List.mem_of_mem_getLast? hc)]
    · intro c _ d hd
      rw [List.head?_append_of_ne_nil _ hne] at hd
      simp [hw d (List.mem_of_mem_head? hd)]
  · intro c hc hblank
    rcases List.mem_append.mp hc with hc | hc
    · exact h.spaces c (List.mem_append_left _ hc) hblank
    · rcases List.mem_append.mp hc with hc | hc
      · rw [hw c hc] at hblank
        cases hblank
      · exact h.spaces c (List.mem_append_right _ (List.mem_append_right _ hc)) hblank

/-- Replacing matches keeps a line one, if each match stays as it is or gives way to characters that are no blanks. -/
theorem IsLine.replaceMatches {matchLength : List Char → Nat} {replacement : List Char → List Char}
    (hrep : ∀ m, replacement m = m ∨ replacement m ≠ [] ∧ ∀ c ∈ replacement m, isBlank c = false) (front : List Char)
    (h : IsLine (front ++ cs)) : IsLine (front ++ Query.replaceMatches matchLength replacement cs) := by
  fun_induction Query.pieces matchLength cs generalizing front with
  | case1 => rwa [Query.replaceMatches_nil]
  | case2 c rest hgap ih =>
    rw [Query.replaceMatches_gap hgap, List.append_cons]
    rw [List.append_cons] at h
    exact ih _ h
  | case3 c rest n hhit ih =>
    rw [Query.replaceMatches_hit hhit, ← List.append_assoc]
    refine ih _ ?_
    rw [List.append_assoc]
    have hcut : c :: rest = c :: rest.take n ++ rest.drop n := by simp
    rw [hcut] at h
    rcases hrep (c :: rest.take n) with hkept | ⟨hne, hsolid⟩
    · rwa [hkept]
    · exact h.replace hne hsolid

/-! ## Lines are the normal forms -/

/-- A word goes in front of a line, with a space between them. -/
theorem IsLine.cons_word (h : IsLine cs) (hcs : cs ≠ []) (hne : w ≠ []) (hw : ∀ c ∈ w, isBlank c = false) :
    IsLine (w ++ ' ' :: cs) where
  starts c hc := by
    rw [List.head?_append_of_ne_nil _ hne] at hc
    exact hw c (List.mem_of_mem_head? hc)
  ends c hc := by
    rw [List.append_cons, List.getLast?_append_of_ne_nil _ hcs] at hc
    exact h.ends c hc
  apart := by
    refine List.isChain_append.mpr ⟨isChain_of_solid hw, h.apart.cons fun c hc => ?_, fun c hc d _ => ?_⟩
    · simp [h.starts c hc]
    · simp [hw c (List.mem_of_mem_getLast? hc)]
  spaces c hc hblank := by
    rcases List.mem_append.mp hc with hc | hc
    · rw [hw c hc] at hblank
      cases hblank
    · rcases List.mem_cons.mp hc with rfl | hc
      · rfl
      · exact h.spaces c hc hblank

/-- Words with single spaces between them are a line. -/
theorem isLine_joinWith (h : ∀ w ∈ ws, w ≠ [] ∧ ∀ c ∈ w, isBlank c = false) : IsLine (joinWith [' '] ws) := by
  induction ws with
  | nil => exact isLine_of_solid (List.forall_mem_nil _)
  | cons w ws ih =>
    obtain ⟨⟨hne, hw⟩, hws⟩ := List.forall_mem_cons.mp h
    cases ws with
    | nil => exact isLine_of_solid hw
    | cons v vs =>
      have hrest : joinWith [' '] (v :: vs) ≠ [] := by
        intro hnil
        exact (hws v List.mem_cons_self).1 (List.eq_nil_of_subset_nil (hnil ▸ subset_joinWith_cons _ _ _))
      rw [joinWith_cons_cons]
      exact (ih hws).cons_word hrest hne hw

/-- The words of a text that has blanks like a line, but may start with one, make up the text behind that one. -/
theorem joinWith_words (hends : ∀ c ∈ cs.getLast?, isBlank c = false)
    (hapart : cs.IsChain fun c d => ¬(isBlank c = true ∧ isBlank d = true)) (hspaces : ∀ c ∈ cs, isBlank c = true → c = ' ') :
    joinWith [' '] (words cs) = if startsBlank cs = true then cs.tail else cs := by
  induction cs with
  | nil => rfl
  | cons c rest ih =>
    cases rest with
    | nil =>
      have hc : isBlank c = false := hends c rfl
      simp [words, startsBlank, hc, extendWord, joinWith]
    | cons d rest =>
      rw [List.getLast?_cons_cons] at hends
      obtain ⟨hcd, hchain⟩ := List.isChain_cons_cons.mp hapart
      obtain ⟨-, hspaces⟩ := List.forall_mem_cons.mp hspaces
      have hrest : joinWith [' '] (words (d :: rest)) = if isBlank d = true then rest else d :: rest := ih hends hchain hspaces
      rw [words]
      by_cases hc : isBlank c = true
      · have hd : ¬isBlank d = true := fun hd => hcd ⟨hc, hd⟩
        rw [if_pos hc, hrest, if_neg hd, startsBlank, if_pos hc, List.tail_cons]
      · -- The text does not end in a blank, so that there are words behind the character.
        have hne : words (d :: rest) ≠ [] := by
          intro hnil
          have hlast := List.getLast_mem (List.cons_ne_nil d rest)
          have hblank := words_eq_nil_iff.mp hnil _ hlast
          rw [hends _ (List.getLast?_eq_some_getLast _)] at hblank
          cases hblank
        obtain ⟨w, ws, hws⟩ := List.exists_cons_of_ne_nil hne
        rw [hws] at hrest
        rw [if_neg hc, hws, startsBlank, extendWord, startsBlank, if_neg hc]
        by_cases hd : isBlank d = true
        · rw [if_pos hd] at hrest ⊢
          rw [joinWith_cons_cons, hrest, hspaces d List.mem_cons_self hd]
          rfl
        · rw [if_neg hd] at hrest ⊢
          rw [joinWith_cons_append, hrest]

end Text

namespace Query

/-- The normalized texts are the lines. -/
theorem normalize_eq_self_iff {cs : List Char} : normalize cs = cs ↔ Text.IsLine cs := by
  constructor
  · intro h
    rw [← h, normalize]
    refine Text.isLine_joinWith fun w hw => ⟨?_, fun c hc => Text.isBlank_of_mem_words hw hc⟩
    rintro rfl
    exact Text.nil_notMem_words cs hw
  · intro h
    rw [normalize, Text.joinWith_words h.ends h.apart h.spaces]
    cases cs with
    | nil => rfl
    | cons c rest => exact if_neg (by simp [Text.startsBlank, h.starts c rfl])

/-! ## Masked lines -/

/-- Masking keeps a line one. -/
theorem isLine_mask {cs : List Char} (h : Text.IsLine cs) : Text.IsLine (mask cs) := by
  have hemail : Email.placeholder ≠ [] ∧ ∀ c ∈ Email.placeholder, Text.isBlank c = false := by
    simp only [Email.placeholder, List.mem_cons, List.not_mem_nil, or_false, forall_eq_or_imp, forall_eq]
    decide
  have hphone : PhoneNumber.placeholder ≠ [] ∧ ∀ c ∈ PhoneNumber.placeholder, Text.isBlank c = false := by
    simp only [PhoneNumber.placeholder, List.mem_cons, List.not_mem_nil, or_false, forall_eq_or_imp, forall_eq]
    decide
  refine Text.IsLine.replaceMatches (fun m => ?_) [] (Text.IsLine.replaceMatches (fun _ => .inr hemail) [] h)
  unfold PhoneNumber.replacement
  split
  · exact .inl rfl
  · exact .inr hphone

theorem replaceMatches_ne_nil {matchLength : List Char → Nat} {replacement : List Char → List Char} {cs : List Char}
    (hrep : ∀ m, m ≠ [] → replacement m ≠ []) (h : cs ≠ []) : replaceMatches matchLength replacement cs ≠ [] := by
  obtain ⟨c, rest, rfl⟩ := List.exists_cons_of_ne_nil h
  cases hfound : matchLength (c :: rest) with
  | zero =>
    rw [replaceMatches_gap hfound]
    exact List.cons_ne_nil _ _
  | succ n =>
    rw [replaceMatches_hit hfound]
    simp [hrep]

/-- Masking leaves something of a text that is not empty. -/
theorem mask_ne_nil {cs : List Char} (h : cs ≠ []) : mask cs ≠ [] := by
  refine replaceMatches_ne_nil (fun m hm => ?_) (replaceMatches_ne_nil (fun _ _ => by decide) h)
  unfold PhoneNumber.replacement
  split
  · exact hm
  · decide

end Query

namespace Text

/-- The characters that end a line of text. -/
def lineBreaks : List Char :=
  ['\n', '\x0b', '\x0c', '\r', '\x1c', '\x1d', '\x1e', '\u0085', '\u2028', '\u2029']

/-- The line breaks of a text, in order. -/
def breaksOf (cs : List Char) : List Char := cs.filter fun c => lineBreaks.contains c

/-- A line has no line break. -/
theorem IsLine.breaksOf_eq_nil {cs : List Char} (h : IsLine cs) : breaksOf cs = [] := by
  have hbreaks : ∀ c ∈ lineBreaks, isBlank c = true ∧ c ≠ ' ' := by
    simp only [lineBreaks, List.mem_cons, List.not_mem_nil, or_false, forall_eq_or_imp, forall_eq]
    decide
  rw [breaksOf, List.filter_eq_nil_iff]
  intro c hc hbreak
  obtain ⟨hblank, hne⟩ := hbreaks c (List.contains_iff_mem.mp hbreak)
  exact hne (h.spaces c hc hblank)

end Text

/-- The line breaks of an audit line are those of its masked query behind those it has without one. -/
theorem Service.breaksOf_auditLine (key : EntityKey) (context : SearchContext) (masked : String) :
    Text.breaksOf (auditLine key context masked).text.toList =
      Text.breaksOf (auditLine key context "").text.toList ++ Text.breaksOf masked.toList := by
  simp only [auditLine, Text.breaksOf, String.toList_append, List.filter_append]
  simp

/-- **A masked query is one line.** Of a query that is read, the masked form is not empty, and it is normalized itself: blanks
stand neither at its ends nor next to each other, and all of them are spaces. It has no line break, and so adds none to the
audit line that it is written to. -/
theorem masked_query_is_one_line {maxLength : Option Int} {raw : Value} {p : ParsedQuery}
    (h : ParsedQuery.ofRaw maxLength raw = .ok (some p)) :
    p.masked ≠ "" ∧ Query.normalize p.masked.toList = p.masked.toList ∧ Text.IsLine p.masked.toList ∧
      Text.breaksOf p.masked.toList = [] ∧
      ∀ key context, Text.breaksOf (Service.auditLine key context p.masked).text.toList =
        Text.breaksOf (Service.auditLine key context "").text.toList := by
  obtain ⟨hmissing, -, rfl⟩ := ParsedQuery.ofRaw_eq_ok_some_iff.mp h
  have hmasked : (ParsedQuery.ofNormalized (Query.normalize raw.display.toList)).masked.toList =
      Query.mask (Query.normalize raw.display.toList) := by
    rw [ParsedQuery.ofNormalized, String.toList_ofList]
  have hne : Query.normalize raw.display.toList ≠ [] := fun hnil => hmissing (ParsedQuery.isMissing_iff.mpr (.inr hnil))
  have hline : Text.IsLine (Query.mask (Query.normalize raw.display.toList)) :=
    Query.isLine_mask (Query.normalize_eq_self_iff.mp (Query.normalize_normalize _))
  refine ⟨?_, ?_, ?_, ?_, fun key context => ?_⟩
  · intro hempty
    rw [hempty] at hmasked
    exact Query.mask_ne_nil hne hmasked.symm
  · rw [hmasked]
    exact Query.normalize_eq_self_iff.mpr hline
  · rwa [hmasked]
  · rw [hmasked]
    exact hline.breaksOf_eq_nil
  · rw [Service.breaksOf_auditLine, hmasked, hline.breaksOf_eq_nil, List.append_nil]

/-- A query over three lines is masked on one. -/
theorem three_lines_are_masked_on_one :
    ParsedQuery.ofRaw (some 64) (.text "\u2028 ivan@mail.ru\n+7 (700) \t123-45-67\x0b") =
        .ok (some ⟨"ivan@mail.ru +7 (700) 123-45-67", "[email] [phone]"⟩) ∧
      Query.normalize "[email] [phone]".toList = "[email] [phone]".toList ∧
      Text.breaksOf (Service.auditLine (.entity .listings) {} "[email] [phone]").text.toList =
        Text.breaksOf (Service.auditLine (.entity .listings) {} "").text.toList := by
  have hread : ParsedQuery.ofRaw (some 64) (.text "\u2028 ivan@mail.ru\n+7 (700) \t123-45-67\x0b") =
      .ok (some ⟨"ivan@mail.ru +7 (700) 123-45-67", "[email] [phone]"⟩) := by
    refine ParsedQuery.ofRaw_eq_ok_some_iff.mpr ⟨?_, ?_, by decide +kernel⟩
    · rintro (hnull | hblank)
      · nomatch hnull
      · exact absurd (hblank '@' (by decide)) (by decide)
    · rintro ⟨m, hm, -, hlt⟩
      cases hm
      exact absurd hlt (by decide +kernel)
  obtain ⟨-, hnormal, -, -, haudit⟩ := masked_query_is_one_line hread
  exact ⟨hread, hnormal, haudit (.entity .listings) {}⟩

end EntitySearch
