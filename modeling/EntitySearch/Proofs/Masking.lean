import EntitySearch.Proofs.Pattern
import EntitySearch.Query

/-!
# Masking leaves nothing to mask

What stands in a text after its matches are replaced stood in the text before, where the search for matches has passed over it
(`infix_of_replaced`): the brackets of a placeholder belong to no address and no number, so neither can start in one text and
end in another. A masked query therefore holds no e-mail address and no long phone number (`mask_leaves_no_match`), and only a
query that holds none is its own masked form (`mask_eq_self_iff`), so that masking it again changes nothing
(`masking_is_idempotent`).
-/

namespace EntitySearch.Query

section Replacing

variable {matchLength : List Char → Nat} {replacement : List Char → List Char} {kept : List Char → Bool}
  {word x cs : List Char}

theorem replaceMatches_nil : replaceMatches matchLength replacement [] = [] := by
  simp [replaceMatches, pieces]

/-- A character where no match starts is kept. -/
theorem replaceMatches_gap {c : Char} {rest : List Char} (h : matchLength (c :: rest) = 0) :
    replaceMatches matchLength replacement (c :: rest) = c :: replaceMatches matchLength replacement rest := by
  simp [replaceMatches, pieces, h]

/-- A match is replaced, and the search goes on behind it. -/
theorem replaceMatches_hit {c : Char} {rest : List Char} {n : Nat} (h : matchLength (c :: rest) = n + 1) :
    replaceMatches matchLength replacement (c :: rest) =
      replacement (c :: rest.take n) ++ replaceMatches matchLength replacement (rest.drop n) := by
  simp [replaceMatches, pieces, h]

/-- A match at the front is replaced as a whole. -/
theorem replaceMatches_append {m rest : List Char} (hm : m ≠ []) (h : matchLength (m ++ rest) = m.length) :
    replaceMatches matchLength replacement (m ++ rest) = replacement m ++ replaceMatches matchLength replacement rest := by
  obtain ⟨c, m, rfl⟩ := List.exists_cons_of_ne_nil hm
  rw [List.cons_append, List.length_cons] at h
  rw [List.cons_append, replaceMatches_hit h, List.take_left, List.drop_left]

/-- A text is left as it is when every match in it is replaced by itself. -/
theorem replaceMatches_eq_self (h : ∀ s, s <:+ cs → matchLength s ≠ 0 →
    replacement (s.take (matchLength s)) = s.take (matchLength s)) : replaceMatches matchLength replacement cs = cs := by
  fun_induction pieces matchLength cs with
  | case1 => exact replaceMatches_nil
  | case2 c rest hgap ih =>
    rw [replaceMatches_gap hgap, ih fun s hs => h s (hs.trans (List.suffix_cons c rest))]
  | case3 c rest n hhit ih =>
    have hmatch := h (c :: rest) List.suffix_rfl (by omega)
    rw [hhit, List.take_succ_cons] at hmatch
    have hrest := ih fun s hs => h s ((hs.trans (List.drop_suffix n rest)).trans (List.suffix_cons c rest))
    rw [replaceMatches_hit hhit, hmatch, hrest, List.cons_append, List.take_append_drop]

/-- What starts a text starts it with its rear replaced as well, if what reaches into the rear starts the new one. -/
theorem prefix_append_of_rear {a b b' : List Char} (h : x <+: a ++ b) (hrear : ∀ y, y <:+ x → y <+: b → y <+: b') :
    x <+: a ++ b' := by
  rcases List.prefix_or_prefix_of_prefix h (List.prefix_append a b) with hfront | ⟨y, rfl⟩
  · exact List.prefix_append_of_prefix hfront
  · have hy : y <+: b := (List.prefix_append_right_inj a).mp h
    exact (List.prefix_append_right_inj a).mpr (hrear y (List.suffix_append a y) hy)

/-- A text without a character stands on one side of it. -/
theorem infix_of_infix_append_cons {a b : List Char} {c : Char} (h : x <:+: a ++ c :: b) (hc : c ∉ x) :
    x <:+: a ∨ x <:+: b := by
  rcases List.infix_append_iff.mp h with h | h | ⟨front, rear, rfl, hfront, hrear⟩
  · exact .inl h
  · rcases List.infix_cons_iff.mp h with h | h
    · rcases List.prefix_cons_iff.mp h with rfl | ⟨y, rfl, -⟩
      · exact .inl List.nil_infix
      · exact absurd List.mem_cons_self hc
    · exact .inr h
  · rcases List.prefix_cons_iff.mp hrear with rfl | ⟨y, rfl, -⟩
    · rw [List.append_nil]
      exact .inl hfront.isInfix
    · exact absurd (List.mem_append_right front List.mem_cons_self) hc

/-- A text that stands in two others one behind the other stands in the second one or starts in the first one. -/
theorem infix_append_cases {a b : List Char} (h : x <:+: a ++ b) :
    x <:+: b ∨ ∃ before tail, a = before ++ tail ∧ tail ≠ [] ∧ x <+: tail ++ b := by
  obtain ⟨before, after, hcut⟩ := h
  rw [List.append_assoc] at hcut
  rcases List.append_eq_append_iff.mp hcut with ⟨tail, rfl, htail⟩ | ⟨between, rfl, hb⟩
  · by_cases hnil : tail = []
    · rw [hnil, List.nil_append] at htail
      exact .inl ⟨[], after, htail⟩
    · exact .inr ⟨before, tail, rfl, hnil, after, htail⟩
  · exact .inl ⟨between, after, by rw [List.append_assoc, hb]⟩

/-- Whether a text stands in a source where the search for matches replaces nothing: behind no match, or with its start inside of
a match that is kept. -/
def Survives (matchLength : List Char → Nat) (kept : List Char → Bool) (x cs : List Char) : Prop :=
  ∃ s before, s <:+ cs ∧ before ++ x <+: s ∧
    (before = [] ∧ matchLength s = 0 ∨ before.length < matchLength s ∧ kept (s.take (matchLength s)) = true)

/-- What survives in a rest survives in the text. -/
theorem Survives.of_suffix {s : List Char} (h : Survives matchLength kept x s) (hs : s <:+ cs) :
    Survives matchLength kept x cs := by
  obtain ⟨s', before, hs', hfound⟩ := h
  exact ⟨s', before, hs'.trans hs, hfound⟩

/-- What survives stands in the text. -/
theorem Survives.infix (h : Survives matchLength kept x cs) : x <:+: cs := by
  obtain ⟨s, before, hs, hpre, -⟩ := h
  exact (List.suffix_append before x).isInfix.trans (hpre.isInfix.trans hs.isInfix)

variable (hrep : ∀ m, replacement m = if kept m = true then m else '[' :: (word ++ [']']))

include hrep

/-- A text that starts what the replacements leave, and does not start with a placeholder, starts the source. -/
theorem prefix_of_replaced (hx : '[' ∉ x) (h : x <+: replaceMatches matchLength replacement cs) : x <+: cs := by
  fun_induction pieces matchLength cs generalizing x with
  | case1 => rwa [replaceMatches_nil] at h
  | case2 c rest hgap ih =>
    rw [replaceMatches_gap hgap] at h
    rcases List.prefix_cons_iff.mp h with rfl | ⟨y, rfl, hy⟩
    · exact List.nil_prefix
    · exact (List.prefix_cons_inj c).mpr (ih (fun hmem => hx (List.mem_cons_of_mem c hmem)) hy)
  | case3 c rest n hhit ih =>
    rw [replaceMatches_hit hhit, hrep] at h
    split at h
    · have hcut := prefix_append_of_rear h fun y hy hpre => ih (fun hmem => hx (hy.subset hmem)) hpre
      rwa [List.cons_append, List.take_append_drop] at hcut
    · rcases List.prefix_cons_iff.mp h with rfl | ⟨y, rfl, -⟩
      · exact List.nil_prefix
      · exact absurd List.mem_cons_self hx

/-- A text without brackets that stands in what the replacements leave stands in the word of the placeholders or survives from
the source. -/
theorem infix_of_replaced (hne : x ≠ []) (hopen : '[' ∉ x) (hclose : ']' ∉ x)
    (h : x <:+: replaceMatches matchLength replacement cs) : x <:+: word ∨ Survives matchLength kept x cs := by
  fun_induction pieces matchLength cs with
  | case1 =>
    rw [replaceMatches_nil] at h
    exact absurd (List.infix_nil.mp h) hne
  | case2 c rest hgap ih =>
    have heq : replaceMatches matchLength replacement (c :: rest) = c :: replaceMatches matchLength replacement rest :=
      replaceMatches_gap hgap
    rw [heq] at h
    rcases List.infix_cons_iff.mp h with h | h
    · rw [← heq] at h
      have hpre : [] ++ x <+: c :: rest := prefix_of_replaced hrep hopen h
      exact .inr ⟨c :: rest, [], List.suffix_rfl, hpre, .inl ⟨rfl, hgap⟩⟩
    · exact (ih h).imp_right fun hrest => hrest.of_suffix (List.suffix_cons c rest)
  | case3 c rest n hhit ih =>
    have hbehind : rest.drop n <:+ c :: rest := (List.drop_suffix n rest).trans (List.suffix_cons c rest)
    rw [replaceMatches_hit hhit, hrep] at h
    split at h
    · rename_i hkept
      rcases infix_append_cases h with h | ⟨before, tail, hm, htail, hpre⟩
      · exact (ih h).imp_right fun hrest => hrest.of_suffix hbehind
      · have hsource : before ++ x <+: c :: rest := by
          have hcut := prefix_append_of_rear hpre fun y hy hrear =>
            prefix_of_replaced hrep (fun hmem => hopen (hy.subset hmem)) hrear
          have hwhole := (List.prefix_append_right_inj before).mpr hcut
          rwa [← List.append_assoc, ← hm, List.cons_append, List.take_append_drop] at hwhole
        have hlength := congrArg List.length hm
        rw [List.length_cons, List.length_take, List.length_append] at hlength
        have hpos : 0 < tail.length := List.length_pos_iff.mpr htail
        exact .inr ⟨c :: rest, before, List.suffix_rfl, hsource, .inr ⟨by omega, by rwa [hhit]⟩⟩
    · rw [List.cons_append] at h
      rcases infix_of_infix_append_cons (a := []) h hopen with h | h
      · exact absurd (List.infix_nil.mp h) hne
      · rw [List.append_assoc] at h
        rcases infix_of_infix_append_cons h hclose with h | h
        · exact .inl h
        · exact (ih h).imp_right fun hrest => hrest.of_suffix hbehind

end Replacing

namespace Email

/-- An address is not empty, has no square bracket in it, and has its sign. -/
theorem not_bracket_of_matches {m : List Char} (h : pattern.Matches m) : m ≠ [] ∧ '[' ∉ m ∧ ']' ∉ m ∧ '@' ∈ m := by
  obtain ⟨name, domain, letters, rfl, ⟨-, hname⟩, ⟨-, hdomain⟩, -, hletters⟩ := pattern_matches_iff.mp h
  have hoff : ∀ c, isLocalChar c = false → c ≠ '@' → c ∉ name ++ '@' :: (domain ++ '.' :: letters) := by
    intro c hc hat hmem
    have hlocal : c = '@' ∨ isLocalChar c = true := by
      simp only [List.mem_append, List.mem_cons] at hmem
      rcases hmem with hmem | rfl | hmem | rfl | hmem
      · exact .inr (hname c hmem)
      · exact .inl rfl
      · exact .inr (isLocalChar_of_isDomainChar (hdomain c hmem))
      · exact .inr (by decide)
      · exact .inr (isLocalChar_of_isDomainChar (isDomainChar_of_isLetter (hletters c hmem)))
    rw [hc] at hlocal
    exact hlocal.elim hat (by decide)
  exact ⟨by simp, hoff '[' (by decide) (by decide), hoff ']' (by decide) (by decide), by simp⟩

/-- A text in which every address is replaced holds none. -/
theorem not_occursIn_mask (cs : List Char) : ¬ OccursIn (mask cs) := by
  rintro ⟨m, hm, hmatches⟩
  obtain ⟨hne, hopen, hclose, hat⟩ := not_bracket_of_matches hmatches
  have hrep : ∀ m : List Char,
      placeholder = if (fun _ => false) m = true then m else '[' :: (['e', 'm', 'a', 'i', 'l'] ++ [']']) :=
    fun _ => rfl
  rcases infix_of_replaced hrep hne hopen hclose hm with hword | ⟨s, before, -, hpre, ⟨rfl, hgap⟩ | ⟨-, hkept⟩⟩
  · exact absurd (hword.subset hat) (by decide)
  · exact matchLength_ne_zero hmatches hpre hgap
  · exact nomatch hkept

/-- A text without an address is left as it is. -/
theorem mask_eq_self {cs : List Char} (h : ¬ OccursIn cs) : mask cs = cs := by
  refine replaceMatches_eq_self fun s hs hfound => ?_
  obtain ⟨m, hpre, -, hmatches⟩ := exists_match hfound
  exact absurd ⟨m, hpre.isInfix.trans hs.isInfix, hmatches⟩ h

end Email

namespace PhoneNumber

open Text Phone

/-- What takes the place of a number: the number when it is short, and else a placeholder. -/
theorem replacement_eq (m : List Char) :
    replacement m =
      if (decide ((digits m).length < leastDigits)) = true then m else '[' :: (['p', 'h', 'o', 'n', 'e'] ++ [']']) := by
  simp [replacement, placeholder]

/-- The body of a number is not empty and has no square bracket in it. -/
theorem not_bracket_of_isBody {m : List Char} (h : IsBody m) : m ≠ [] ∧ '[' ∉ m ∧ ']' ∉ m := by
  obtain ⟨c, rest, rfl, -⟩ := h.starts
  refine ⟨by simp, fun hmem => ?_, fun hmem => ?_⟩
  · exact absurd (h.allowed _ hmem) (by decide)
  · exact absurd (h.allowed _ hmem) (by decide)

/-- What may stand in front of a number has no digits. -/
theorem digits_append_of_lead {lead body : List Char} (h : lead ∈ [[], ['+'], ['('], ['+', '(']]) :
    digits (lead ++ body) = digits body := by
  rw [digits_append, digits_eq_nil_iff.mpr fun c hc => not_isDecimalDigit_of_mem_lead h hc, List.nil_append]

/-- A text in which every long number is replaced holds none. -/
theorem not_occursIn_mask (cs : List Char) : ¬ OccursIn (mask cs) := by
  rintro ⟨m, hm, hmatches, hdigits⟩
  obtain ⟨lead, body, rfl, hlead, hbody⟩ := pattern_matches_iff.mp hmatches
  rw [digits_append_of_lead hlead] at hdigits
  obtain ⟨hne, hopen, hclose⟩ := not_bracket_of_isBody hbody
  have hin : body <:+: mask cs := (List.suffix_append lead body).isInfix.trans hm
  rcases infix_of_replaced replacement_eq hne hopen hclose hin with
    hword | ⟨s, before, -, hpre, ⟨rfl, hgap⟩ | ⟨hlt, hkept⟩⟩
  · obtain ⟨c, rest, rfl, -, hc⟩ := hbody.starts
    have hmem : c ∈ ['p', 'h', 'o', 'n', 'e'] := hword.subset List.mem_cons_self
    simp only [List.mem_cons, List.not_mem_nil, or_false] at hmem
    rcases hmem with rfl | rfl | rfl | rfl | rfl <;> exact absurd hc (by decide)
  · have hle := length_le_matchLength hbody hpre (.inl rfl)
    rw [hgap, List.nil_append] at hle
    exact hne (List.length_eq_zero_iff.mp (Nat.le_zero.mp hle))
  · -- The match that is kept would hold all digits of the number, and is kept since it has too few.
    have hle := length_le_matchLength hbody hpre (.inr hlt)
    have hinside : before ++ body <+: s.take (matchLength s) := List.prefix_take_iff.mpr ⟨hpre, hle⟩
    have hsub := ((List.sublist_append_right before body).trans hinside.sublist).filter isDecimalDigit
    have hfew := of_decide_eq_true hkept
    have hmany := hsub.length_le
    simp only [digits] at hfew hdigits
    omega

/-- A text without a long number is left as it is. -/
theorem mask_eq_self {cs : List Char} (h : ¬ OccursIn cs) : mask cs = cs := by
  refine replaceMatches_eq_self fun s hs hfound => ?_
  obtain ⟨m, hpre, hlen, hmatches⟩ := exists_match hfound
  have htake : s.take (matchLength s) = m := by
    rw [← hlen]
    exact (List.prefix_iff_eq_take.mp hpre).symm
  rw [htake, replacement]
  refine if_pos (Nat.lt_of_not_le fun hmany => ?_)
  exact h ⟨m, hpre.isInfix.trans hs.isInfix, hmatches, hmany⟩

/-- Replacing numbers uncovers no address. -/
theorem email_occursIn_of_mask {cs : List Char} (h : Email.OccursIn (mask cs)) : Email.OccursIn cs := by
  obtain ⟨m, hm, hmatches⟩ := h
  obtain ⟨hne, hopen, hclose, hat⟩ := Email.not_bracket_of_matches hmatches
  rcases infix_of_replaced replacement_eq hne hopen hclose hm with hword | hsurvives
  · exact absurd (hword.subset hat) (by decide)
  · exact ⟨m, hsurvives.infix, hmatches⟩

end PhoneNumber

/-- A query is its own masked form just when it holds neither an e-mail address nor a long phone number. -/
theorem mask_eq_self_iff {cs : List Char} : mask cs = cs ↔ ¬ Email.OccursIn cs ∧ ¬ PhoneNumber.OccursIn cs := by
  constructor
  · intro h
    rw [← h]
    exact ⟨fun hin => Email.not_occursIn_mask cs (PhoneNumber.email_occursIn_of_mask hin), PhoneNumber.not_occursIn_mask _⟩
  · rintro ⟨hemail, hphone⟩
    rw [mask, Email.mask_eq_self hemail, PhoneNumber.mask_eq_self hphone]

/-- **A masked query holds nothing to mask**: no part of it matches the pattern of an e-mail address, and none the pattern of a
phone number with eight digits or more. -/
theorem mask_leaves_no_match (cs : List Char) : ¬ Email.OccursIn (mask cs) ∧ ¬ PhoneNumber.OccursIn (mask cs) :=
  ⟨fun hin => Email.not_occursIn_mask cs (PhoneNumber.email_occursIn_of_mask hin), PhoneNumber.not_occursIn_mask _⟩

/-- **Masking twice is masking once.** A masked query stays as it is when it is masked again, and a query that is changed by
masking is one that holds something to mask. -/
theorem masking_is_idempotent (cs : List Char) :
    mask (mask cs) = mask cs ∧ (mask cs ≠ cs ↔ Email.OccursIn cs ∨ PhoneNumber.OccursIn cs) := by
  constructor
  · refine mask_eq_self_iff.mpr ⟨fun hin => ?_, PhoneNumber.not_occursIn_mask _⟩
    exact Email.not_occursIn_mask cs (PhoneNumber.email_occursIn_of_mask hin)
  · rw [ne_eq, mask_eq_self_iff, not_and_or, not_not, not_not]

end EntitySearch.Query
