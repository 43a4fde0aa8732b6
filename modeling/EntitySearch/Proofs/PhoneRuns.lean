import Mathlib.Data.List.DropRight
import EntitySearch.Proofs.Masking

/-!
# Numbers and the runs that hold them

A number stands in a run of digits, blanks, hyphens and brackets, and reaches from the first digit of the run to the last one,
with a bracket and a plus sign that lead it in. A run of characters of numbers therefore has at most one number, and whether it
is hidden is a matter of the digits of the run: masking a text is masking its longest runs one by one
(`masking_hides_long_runs`). The step is that of one stretch, a run and what stands before it (`mask_stretch`): nothing is found
in a run with fewer than two digits (`mask_of_few_digits`), and in any other one what is found is its body with what leads it in
(`mask_append`).
-/

namespace EntitySearch

/-! ## Runs up to their last digit -/

namespace Phone

open Text Query.PhoneNumber

/-- What follows the last digit of a text holds none. -/
theorem exists_upToLastDigit (cs : List Char) :
    ∃ back, cs = upToLastDigit cs ++ back ∧ ∀ c ∈ back, isDecimalDigit c = false := by
  refine ⟨(cs.reverse.takeWhile fun c => !isDecimalDigit c).reverse, ?_, fun c hc => ?_⟩
  · rw [upToLastDigit, ← List.reverse_append, List.takeWhile_append_dropWhile, List.reverse_reverse]
  · simpa using List.mem_takeWhile_imp (List.mem_reverse.mp hc)

/-- Characters of phone numbers with two digits or more are a body between characters that are no digits. -/
theorem exists_body_of_isPhoneChar {cs : List Char} (hcs : ∀ c ∈ cs, isPhoneChar c = true) (h : 2 ≤ (digits cs).length) :
    ∃ front body back, cs = front ++ (body ++ back) ∧ (∀ c ∈ front, isDecimalDigit c = false) ∧ IsBody body ∧
      ∀ c ∈ back, isDecimalDigit c = false := by
  have hfront : ∀ c ∈ cs.takeWhile (fun c => !isDecimalDigit c), isDecimalDigit c = false := fun c hc => by
    simpa using List.mem_takeWhile_imp hc
  have hcut : cs.takeWhile (fun c => !isDecimalDigit c) ++ cs.dropWhile (fun c => !isDecimalDigit c) = cs :=
    List.takeWhile_append_dropWhile
  cases hdrop : cs.dropWhile fun c => !isDecimalDigit c with
  | nil =>
    rw [hdrop, List.append_nil] at hcut
    rw [hcut] at hfront
    rw [digits_eq_nil_iff.mpr hfront] at h
    exact absurd h (by decide)
  | cons first rest =>
    rw [hdrop] at hcut
    have hfirst : isDecimalDigit first = true := by
      have hhead := List.head_dropWhile_not (fun c => !isDecimalDigit c) (l := cs) (by simp [hdrop])
      simpa [hdrop] using hhead
    obtain ⟨back, hrest, hback⟩ := exists_upToLastDigit rest
    have hmany : 1 ≤ (digits rest).length := by
      rw [← hcut, digits_append, digits_eq_nil_iff.mpr hfront, List.nil_append, digits, List.filter_cons_of_pos hfirst,
        List.length_cons] at h
      exact Nat.le_of_succ_le_succ h
    have hne : upToLastDigit rest ≠ [] := by
      intro hnil
      rw [hnil, List.nil_append] at hrest
      rw [← hrest] at hback
      rw [digits_eq_nil_iff.mpr hback] at hmany
      exact absurd hmany (by decide)
    obtain ⟨middle, last, hlast, hdigit⟩ := (of_upToLastDigit rest).2.resolve_left hne
    refine ⟨_, first :: upToLastDigit rest, back, ?_, hfront,
      isBody_iff.mpr ⟨first, middle, last, ?_, hfirst, ?_, hdigit⟩, hback⟩
    · rw [List.cons_append, ← hrest, hcut]
    · rw [hlast]
    · intro c hc
      have hmem : c ∈ upToLastDigit rest := hlast ▸ List.mem_append_left _ hc
      rw [← hcut] at hcs
      exact hcs c (List.mem_append_right _ (List.mem_cons_of_mem _ (hrest ▸ List.mem_append_left _ hmem)))

end Phone

namespace Query.PhoneNumber

open Text Phone

/-! ## What leads a number in -/

/-- A text without a character at its end, if it ends in it. -/
def dropEnd (c : Char) (cs : List Char) : List Char := if cs.getLast? = some c then cs.dropLast else cs

/-- A text without what leads in a number that follows: without a bracket at its end, and then without a plus sign there. -/
def beforeLead (cs : List Char) : List Char := dropEnd '+' (dropEnd '(' cs)

theorem dropEnd_singleton (c d : Char) : dropEnd c [d] = if d = c then [] else [d] := by
  simp [dropEnd]

/-- Only the last character is dropped. -/
theorem dropEnd_cons {c d : Char} {cs : List Char} (h : cs ≠ []) : dropEnd c (d :: cs) = d :: dropEnd c cs := by
  obtain ⟨x, rest, rfl⟩ := List.exists_cons_of_ne_nil h
  rw [dropEnd, dropEnd, List.getLast?_cons_cons, List.dropLast_cons_cons]
  split <;> rfl

/-- Nothing is left only of nothing and of the character alone. -/
theorem dropEnd_eq_nil {c : Char} {cs : List Char} (h : dropEnd c cs = []) : cs = [] ∨ cs = [c] := by
  cases cs with
  | nil => exact .inl rfl
  | cons d cs =>
    by_cases hcs : cs = []
    · subst hcs
      rw [dropEnd_singleton] at h
      split at h
      · rename_i hd
        exact .inr (by rw [hd])
      · nomatch h
    · rw [dropEnd_cons hcs] at h
      nomatch h

variable {lead front body back gap run rest : List Char} {c : Char}

theorem beforeLead_of_lead (h : lead ∈ [[], ['+'], ['('], ['+', '(']]) : beforeLead lead = [] := by
  revert lead
  decide

/-- A character stands before what leads a number in unless it belongs to it. -/
theorem beforeLead_cons (h : c :: front ∉ [[], ['+'], ['('], ['+', '(']]) : beforeLead (c :: front) = c :: beforeLead front := by
  simp only [List.mem_cons, List.not_mem_nil, or_false, not_or] at h
  obtain ⟨-, hplus, hbracket, hboth⟩ := h
  by_cases hfront : front = []
  · subst hfront
    have hc : c ≠ '(' := fun hc => hbracket (by rw [hc])
    have hc' : c ≠ '+' := fun hc => hplus (by rw [hc])
    rw [beforeLead, dropEnd_singleton, if_neg hc, dropEnd_singleton, if_neg hc']
    rfl
  · rw [beforeLead, dropEnd_cons hfront, beforeLead]
    by_cases hdrop : dropEnd '(' front = []
    · -- Only a bracket follows, so that the character is no plus sign.
      have hlone : front = ['('] := (dropEnd_eq_nil hdrop).resolve_left hfront
      have hc : c ≠ '+' := fun hc => hboth (by rw [hc, hlone])
      rw [hdrop, dropEnd_singleton, if_neg hc]
      rfl
    · exact dropEnd_cons hdrop

/-! ## One number -/

/-- Without a digit there is nothing up to the last one. -/
theorem upToLastDigit_eq_nil {cs : List Char} (h : ∀ c ∈ cs, isDecimalDigit c = false) : upToLastDigit cs = [] := by
  rw [upToLastDigit, List.reverse_eq_nil_iff, List.dropWhile_eq_nil_iff]
  intro c hc
  rw [h c (List.mem_reverse.mp hc)]
  rfl

/-- A body ends where no digit follows among characters of numbers. -/
theorem bodyLength_append (hbody : IsBody body) (hback : ∀ c ∈ back.takeWhile isPhoneChar, isDecimalDigit c = false) :
    bodyLength (body ++ back) = body.length := by
  obtain ⟨first, middle, last, rfl, hfirst, hmiddle, hlast⟩ := isBody_iff.mp hbody
  have hrun : ∀ c ∈ middle ++ [last], isPhoneChar c = true := fun c hc => hbody.allowed c (List.mem_cons_of_mem _ hc)
  have hends : upToLastDigit ((middle ++ [last] ++ back).takeWhile isPhoneChar) = middle ++ [last] := by
    rw [List.takeWhile_append_of_pos hrun, List.append_assoc, List.singleton_append, upToLastDigit_append hlast,
      upToLastDigit_eq_nil hback]
  rw [List.cons_append, bodyLength_cons, hends, if_pos ⟨hfirst, by simp⟩]

/-- What stands before the first digit of a text. -/
theorem takeWhile_append_digit {d : Char} (hfront : ∀ c ∈ front, isDecimalDigit c = false) (hd : isDecimalDigit d = true) :
    (front ++ d :: rest).takeWhile (fun c => !isDecimalDigit c) = front := by
  rw [List.takeWhile_append_of_pos fun c hc => by simp [hfront c hc], List.takeWhile_cons_of_neg (by simp [hd]), List.append_nil]

/-- What stands before the first digit of a text is the same however the text is cut there. -/
theorem eq_of_append_digit {lead front rest rest' : List Char} {d d' : Char} (h : lead ++ d :: rest = front ++ d' :: rest')
    (hlead : ∀ c ∈ lead, isDecimalDigit c = false) (hfront : ∀ c ∈ front, isDecimalDigit c = false)
    (hd : isDecimalDigit d = true) (hd' : isDecimalDigit d' = true) : lead = front := by
  rw [← takeWhile_append_digit hlead hd, h, takeWhile_append_digit hfront hd']

/-- What may stand in front of a number is found when a digit follows. -/
theorem leadLength_append {lead rest : List Char} {d : Char} (hlead : lead ∈ [[], ['+'], ['('], ['+', '(']])
    (hd : isDecimalDigit d = true) : leadLength (lead ++ d :: rest) = lead.length := by
  have hplus : d ≠ '+' := by
    rintro rfl
    exact absurd hd (by decide)
  have hbracket : d ≠ '(' := by
    rintro rfl
    exact absurd hd (by decide)
  simp only [List.mem_cons, List.not_mem_nil, or_false] at hlead
  rcases hlead with rfl | rfl | rfl | rfl <;> simp [leadLength, hplus, hbracket]

/-- The search finds a body and what leads it in. -/
theorem matchLength_append (hlead : lead ∈ [[], ['+'], ['('], ['+', '(']]) (hbody : IsBody body)
    (hback : ∀ c ∈ back.takeWhile isPhoneChar, isDecimalDigit c = false) :
    matchLength (lead ++ body ++ back) = (lead ++ body).length := by
  have hlength := bodyLength_append hbody hback
  obtain ⟨first, rest, rfl, -, hfirst⟩ := hbody.starts
  have hled : leadLength (lead ++ first :: rest ++ back) = lead.length := by
    rw [List.append_assoc]
    exact leadLength_append hlead hfirst
  rw [matchLength_eq, hled, List.append_assoc, List.drop_left, hlength, if_neg (by simp), List.length_append]

/-- The search finds nothing before the first digit of a text but what leads in the number there. -/
theorem matchLength_eq_zero (hfront : ∀ x ∈ c :: front, isDecimalDigit x = false)
    (hlead : c :: front ∉ [[], ['+'], ['('], ['+', '(']]) (hbody : IsBody body) :
    matchLength (c :: front ++ (body ++ back)) = 0 := by
  refine of_not_not fun h => hlead ?_
  obtain ⟨m, ⟨rest, hm⟩, -, hmatches⟩ := exists_match h
  obtain ⟨lead, found, rfl, hlead, hfound⟩ := pattern_matches_iff.mp hmatches
  obtain ⟨d, after, rfl, -, hd⟩ := hfound.starts
  obtain ⟨first, behind, rfl, -, hfirst⟩ := hbody.starts
  rw [List.append_assoc, List.cons_append, List.cons_append] at hm
  rw [← eq_of_append_digit hm (fun x hx => not_isDecimalDigit_of_mem_lead hlead hx) hfront hd hfirst]
  exact hlead

/-- A character where no number starts is kept. -/
theorem mask_cons (h : matchLength (c :: rest) = 0) : mask (c :: rest) = c :: mask rest := replaceMatches_gap h

/-- In a text where a body comes before any other digit, the number that is found is the body and what leads it in, and the
search goes on behind it. -/
theorem mask_append (hfront : ∀ c ∈ front, isDecimalDigit c = false) (hbody : IsBody body)
    (hback : ∀ c ∈ back.takeWhile isPhoneChar, isDecimalDigit c = false) :
    ∃ lead, front = beforeLead front ++ lead ∧ lead ∈ [[], ['+'], ['('], ['+', '(']] ∧
      mask (front ++ (body ++ back)) = beforeLead front ++ replacement (lead ++ body) ++ mask back := by
  have hhit : ∀ {lead : List Char}, lead ∈ [[], ['+'], ['('], ['+', '(']] →
      mask (lead ++ (body ++ back)) = beforeLead lead ++ replacement (lead ++ body) ++ mask back := by
    intro lead hlead
    have hne : lead ++ body ≠ [] := by
      obtain ⟨c, rest, rfl, -⟩ := hbody.starts
      simp
    rw [mask, ← List.append_assoc, replaceMatches_append hne (matchLength_append hlead hbody hback), beforeLead_of_lead hlead]
    rfl
  induction front with
  | nil => exact ⟨[], rfl, by decide, hhit (by decide)⟩
  | cons c front ih =>
    by_cases hlead : c :: front ∈ [[], ['+'], ['('], ['+', '(']]
    · exact ⟨c :: front, by rw [beforeLead_of_lead hlead, List.nil_append], hlead, hhit hlead⟩
    · obtain ⟨lead, hcut, hin, hmask⟩ := ih fun x hx => hfront x (List.mem_cons_of_mem c hx)
      refine ⟨lead, ?_, hin, ?_⟩
      · rw [beforeLead_cons hlead, List.cons_append, ← hcut]
      · have hgap : matchLength (c :: front ++ (body ++ back)) = 0 := matchLength_eq_zero hfront hlead hbody
        rw [List.cons_append] at hgap ⊢
        rw [mask_cons hgap, hmask, beforeLead_cons hlead]
        rfl

/-! ## Runs with few digits -/

/-- Whether a text does not go on with a character of numbers: a run that it follows is complete. -/
def EndsRun (cs : List Char) : Prop := ∀ c ∈ cs.head?, isPhoneChar c = false

/-- What follows the characters of numbers at the start of a text ends the run of them. -/
theorem endsRun_dropWhile (cs : List Char) : EndsRun (cs.dropWhile isPhoneChar) := by
  intro c hc
  obtain ⟨tail, hdrop⟩ := List.head?_eq_some_iff.mp hc
  have hhead := List.head_dropWhile_not isPhoneChar (l := cs) (by simp [hdrop])
  simpa [hdrop] using hhead

/-- Behind the end of a run no character of it goes on. -/
theorem EndsRun.takeWhile_eq_nil (h : EndsRun rest) : rest.takeWhile isPhoneChar = [] := by
  cases rest with
  | nil => rfl
  | cons c rest => rw [List.takeWhile_cons_of_neg (by simp [h c rfl])]

/-- Characters of numbers that start a run and what follows it start the run. -/
theorem prefix_of_prefix_append {x : List Char} (hx : ∀ c ∈ x, isPhoneChar c = true) (hrest : EndsRun rest)
    (h : x <+: run ++ rest) : x <+: run := by
  rcases List.prefix_or_prefix_of_prefix h (List.prefix_append run rest) with hshort | ⟨y, rfl⟩
  · exact hshort
  · have hy : y <+: rest := (List.prefix_append_right_inj run).mp h
    cases y with
    | nil => rw [List.append_nil]
    | cons c y =>
      obtain ⟨tail, rfl⟩ := hy
      have hstop := hrest c rfl
      rw [hx c (List.mem_append_right _ List.mem_cons_self)] at hstop
      cases hstop

/-- A number is made of characters of numbers, two of them digits, behind a plus sign that may be missing. -/
theorem exists_of_matches {m : List Char} (h : pattern.Matches m) :
    ∃ tail, (m = tail ∨ m = '+' :: tail) ∧ (∀ c ∈ tail, isPhoneChar c = true) ∧ 2 ≤ (digits tail).length := by
  obtain ⟨lead, body, rfl, hlead, hbody⟩ := pattern_matches_iff.mp h
  have htwo : 2 ≤ (digits body).length := by
    obtain ⟨first, middle, last, rfl, hfirst, -, hlast⟩ := isBody_iff.mp hbody
    simp [digits, hfirst, hlast]
  have hbracket : ∀ c ∈ '(' :: body, isPhoneChar c = true :=
    List.forall_mem_cons.mpr ⟨by decide, hbody.allowed⟩
  have htwo' : 2 ≤ (digits ('(' :: body)).length :=
    Nat.le_trans htwo ((List.sublist_cons_self '(' body).filter isDecimalDigit).length_le
  simp only [List.mem_cons, List.not_mem_nil, or_false] at hlead
  rcases hlead with rfl | rfl | rfl | rfl
  · exact ⟨body, .inl rfl, hbody.allowed, htwo⟩
  · exact ⟨body, .inr rfl, hbody.allowed, htwo⟩
  · exact ⟨'(' :: body, .inl rfl, hbracket, htwo'⟩
  · exact ⟨'(' :: body, .inr rfl, hbracket, htwo'⟩

/-- A run with fewer than two digits does not start with characters of a number that has two. -/
theorem not_prefix_of_few_digits {x : List Char} (hx : ∀ c ∈ x, isPhoneChar c = true) (htwo : 2 ≤ (digits x).length)
    (hfew : (digits run).length < 2) (hrest : EndsRun rest) : ¬x <+: run ++ rest := by
  intro hpre
  have hsub : (digits x).Sublist (digits run) := (prefix_of_prefix_append hx hrest hpre).sublist.filter isDecimalDigit
  exact absurd hsub.length_le (by omega)

/-- Nor does a text that starts with a character of no number. -/
theorem not_prefix_of_apart {x : List Char} (hx : ∀ c ∈ x, isPhoneChar c = true) (htwo : 2 ≤ (digits x).length)
    (hc : isPhoneChar c = false) : ¬x <+: c :: rest := by
  intro hpre
  rcases List.prefix_cons_iff.mp hpre with rfl | ⟨tail, rfl, -⟩
  · exact absurd htwo (by decide)
  · rw [hx c List.mem_cons_self] at hc
    cases hc

/-- Nothing is found in a run with fewer than two digits. -/
theorem mask_run_of_few_digits (hrun : ∀ c ∈ run, isPhoneChar c = true) (hfew : (digits run).length < 2)
    (hrest : EndsRun rest) : mask (run ++ rest) = run ++ mask rest := by
  induction run with
  | nil => rfl
  | cons c run ih =>
    have hnone : matchLength (c :: (run ++ rest)) = 0 := by
      refine of_not_not fun hfound => ?_
      obtain ⟨m, hpre, -, hm⟩ := exists_match hfound
      obtain ⟨tail, rfl | rfl, hall, htwo⟩ := exists_of_matches hm
      · exact not_prefix_of_few_digits hall htwo hfew hrest hpre
      · obtain ⟨rfl, -⟩ := List.cons_prefix_cons.mp hpre
        exact absurd (hrun '+' List.mem_cons_self) (by decide)
    have hfew' : (digits run).length < 2 :=
      Nat.lt_of_le_of_lt ((List.sublist_cons_self c run).filter isDecimalDigit).length_le hfew
    rw [List.cons_append, mask_cons hnone, ih (fun x hx => hrun x (List.mem_cons_of_mem c hx)) hfew', List.cons_append]

/-- Nothing is found in a run with fewer than two digits, nor before it. -/
theorem mask_of_few_digits (hgap : ∀ c ∈ gap, isPhoneChar c = false) (hrun : ∀ c ∈ run, isPhoneChar c = true)
    (hfew : (digits run).length < 2) (hrest : EndsRun rest) : mask (gap ++ (run ++ rest)) = gap ++ run ++ mask rest := by
  induction gap with
  | nil => exact mask_run_of_few_digits hrun hfew hrest
  | cons c gap ih =>
    have hnone : matchLength (c :: (gap ++ (run ++ rest))) = 0 := by
      refine of_not_not fun hfound => ?_
      obtain ⟨m, hpre, -, hm⟩ := exists_match hfound
      obtain ⟨tail, rfl | rfl, hall, htwo⟩ := exists_of_matches hm
      · exact not_prefix_of_apart hall htwo (hgap c List.mem_cons_self) hpre
      · -- Behind the plus sign the number goes on at once, be it with the run or not at all.
        obtain ⟨-, hpre⟩ := List.cons_prefix_cons.mp hpre
        cases gap with
        | nil => exact not_prefix_of_few_digits hall htwo hfew hrest hpre
        | cons d gap => exact not_prefix_of_apart hall htwo (hgap d (List.mem_cons_of_mem c List.mem_cons_self)) hpre
    rw [List.cons_append, mask_cons hnone, ih fun x hx => hgap x (List.mem_cons_of_mem c hx)]
    rfl

/-! ## Stretches -/

/-- A run of characters of numbers, and what stands between it and the run before. -/
structure Stretch where
  gap : List Char
  run : List Char
  deriving Repr, DecidableEq

/-- The longest runs of characters of numbers in a text, each with what stands before it. -/
def stretches (cs : List Char) : List Stretch :=
  match cs with
  | [] => []
  | c :: rest =>
    let behind := (c :: rest).dropWhile fun c => !isPhoneChar c
    ⟨(c :: rest).takeWhile fun c => !isPhoneChar c, behind.takeWhile isPhoneChar⟩ :: stretches (behind.dropWhile isPhoneChar)
  termination_by cs.length
  decreasing_by
    by_cases hc : isPhoneChar c = true
    · simp only [hc, Bool.not_true, Bool.false_eq_true, not_false_eq_true, List.dropWhile_cons_of_neg, List.dropWhile_cons_of_pos,
        List.length_cons]
      exact Nat.lt_succ_of_le (List.length_dropWhile_le _ _)
    · simp only [hc, Bool.not_false, List.dropWhile_cons_of_pos, List.length_cons]
      exact Nat.lt_succ_of_le (Nat.le_trans (List.length_dropWhile_le _ _) (List.length_dropWhile_le _ _))

/-- The characters of a stretch. -/
def Stretch.source (s : Stretch) : List Char := s.gap ++ s.run

/-- A stretch with its number hidden: where the run has digits enough, a placeholder stands for all from its first digit to its
last one and for what leads them in. -/
def Stretch.masked (s : Stretch) : List Char :=
  if (digits s.run).length < leastDigits then s.gap ++ s.run
  else
    beforeLead (s.gap ++ s.run.takeWhile fun c => !isDecimalDigit c) ++ placeholder ++ s.run.rtakeWhile fun c => !isDecimalDigit c

/-- Before the first digit of a run with a body. -/
theorem takeWhile_append_body (hfront : ∀ c ∈ front, isDecimalDigit c = false) (hbody : IsBody body) :
    (front ++ (body ++ back)).takeWhile (fun c => !isDecimalDigit c) = front := by
  obtain ⟨first, rest, rfl, -, hfirst⟩ := hbody.starts
  rw [List.cons_append]
  exact takeWhile_append_digit hfront hfirst

/-- Behind the last digit of a run with a body. -/
theorem rtakeWhile_append_body (hbody : IsBody body) (hback : ∀ c ∈ back, isDecimalDigit c = false) :
    (front ++ (body ++ back)).rtakeWhile (fun c => !isDecimalDigit c) = back := by
  obtain ⟨first, middle, last, rfl, -, -, hlast⟩ := isBody_iff.mp hbody
  have hrev : (front ++ (first :: (middle ++ [last]) ++ back)).reverse =
      back.reverse ++ last :: (front ++ first :: middle).reverse := by simp
  have hback' : ∀ c ∈ back.reverse, isDecimalDigit c = false := fun c hc => hback c (List.mem_reverse.mp hc)
  rw [List.rtakeWhile, hrev, takeWhile_append_digit hback' hlast, List.reverse_reverse]

/-- What a stretch is masked to, by the body of its run. -/
theorem Stretch.masked_of_body (hfront : ∀ c ∈ front, isDecimalDigit c = false) (hbody : IsBody body)
    (hback : ∀ c ∈ back, isDecimalDigit c = false) :
    Stretch.masked ⟨gap, front ++ (body ++ back)⟩ =
      if (digits body).length < leastDigits then gap ++ (front ++ (body ++ back))
      else beforeLead (gap ++ front) ++ placeholder ++ back := by
  have hdigits : digits (front ++ (body ++ back)) = digits body := by
    rw [digits_append, digits_append, digits_eq_nil_iff.mpr hfront, digits_eq_nil_iff.mpr hback, List.nil_append, List.append_nil]
  rw [Stretch.masked, hdigits, takeWhile_append_body hfront hbody, rtakeWhile_append_body hbody hback]

/-- In a run with a body, the body is replaced and the search goes on behind the run. -/
theorem mask_of_body (hgap : ∀ c ∈ gap ++ front, isDecimalDigit c = false) (hbody : IsBody body)
    (hback : ∀ c ∈ back, isDecimalDigit c = false) (hrun : ∀ c ∈ back, isPhoneChar c = true) (hrest : EndsRun rest) :
    ∃ lead, gap ++ front = beforeLead (gap ++ front) ++ lead ∧ digits (lead ++ body) = digits body ∧
      mask (gap ++ (front ++ (body ++ back) ++ rest)) =
        beforeLead (gap ++ front) ++ replacement (lead ++ body) ++ back ++ mask rest := by
  have hbehind : ∀ c ∈ (back ++ rest).takeWhile isPhoneChar, isDecimalDigit c = false := by
    rw [List.takeWhile_append_of_pos hrun, hrest.takeWhile_eq_nil, List.append_nil]
    exact hback
  have hmaskBack : mask (back ++ rest) = back ++ mask rest := by
    refine mask_run_of_few_digits hrun ?_ hrest
    rw [digits_eq_nil_iff.mpr hback]
    decide
  obtain ⟨lead, hcut, hlead, hmask⟩ := mask_append hgap hbody hbehind
  refine ⟨lead, hcut, digits_append_of_lead hlead, ?_⟩
  have hwhole : gap ++ (front ++ (body ++ back) ++ rest) = gap ++ front ++ (body ++ (back ++ rest)) := by
    simp only [List.append_assoc]
  rw [hwhole, hmask, hmaskBack]
  simp only [List.append_assoc]

/-- Masking hides the number of the first stretch of a text and goes on behind it. -/
theorem mask_stretch (hgap : ∀ c ∈ gap, isPhoneChar c = false) (hrun : ∀ c ∈ run, isPhoneChar c = true)
    (hrest : EndsRun rest) : mask (gap ++ (run ++ rest)) = Stretch.masked ⟨gap, run⟩ ++ mask rest := by
  by_cases hfew : (digits run).length < 2
  · rw [mask_of_few_digits hgap hrun hfew hrest, Stretch.masked, if_pos (Nat.lt_trans hfew (by decide))]
  · obtain ⟨front, body, back, rfl, hfront, hbody, hback⟩ := exists_body_of_isPhoneChar hrun (Nat.le_of_not_lt hfew)
    have hbefore : ∀ c ∈ gap ++ front, isDecimalDigit c = false := by
      intro c hc
      rcases List.mem_append.mp hc with hc | hc
      · refine Bool.eq_false_iff.mpr fun hd => ?_
        have hapart := hgap c hc
        rw [isPhoneChar_of_isDecimalDigit hd] at hapart
        cases hapart
      · exact hfront c hc
    have hbackRun : ∀ c ∈ back, isPhoneChar c = true := by
      intro c hc
      exact hrun c (List.mem_append_right _ (List.mem_append_right _ hc))
    obtain ⟨lead, hcut, hdigits, hmask⟩ := mask_of_body hbefore hbody hback hbackRun hrest
    rw [hmask, Stretch.masked_of_body hfront hbody hback, replacement, hdigits]
    split
    · -- Too few digits: what leads the body in stands in front of it again.
      rw [← List.append_assoc (beforeLead _), ← hcut]
      simp only [List.append_assoc]
    · rfl

/-- **Masking hides the long runs of a text.** The text is cut into its longest runs of characters of numbers, and what stands
between them. Where a run has digits enough, a placeholder stands for what reaches from its first digit to its last one, with a
bracket right before it and a plus sign right before that; all other characters stay as they are. -/
theorem masking_hides_long_runs (cs : List Char) :
    (stretches cs).flatMap Stretch.source = cs ∧ mask cs = (stretches cs).flatMap Stretch.masked := by
  fun_induction stretches cs with
  | case1 => exact ⟨rfl, by rw [mask, replaceMatches_nil]; rfl⟩
  | case2 c rest behind ih =>
    obtain ⟨hsource, hmask⟩ := ih
    have hrun : behind.takeWhile isPhoneChar ++ behind.dropWhile isPhoneChar = behind := List.takeWhile_append_dropWhile
    have hgap : ((c :: rest).takeWhile fun c => !isPhoneChar c) ++ behind = c :: rest := List.takeWhile_append_dropWhile
    refine ⟨?_, ?_⟩
    · rw [List.flatMap_cons, hsource, Stretch.source, List.append_assoc, hrun, hgap]
    · rw [List.flatMap_cons, ← hmask, ← mask_stretch, hrun, hgap]
      · exact fun x hx => by simpa using List.mem_takeWhile_imp hx
      · exact fun x hx => List.mem_takeWhile_imp hx
      · exact endsRun_dropWhile behind

end Query.PhoneNumber

end EntitySearch
