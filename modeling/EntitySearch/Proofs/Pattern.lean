import EntitySearch.Query.Email
import EntitySearch.Query.PhoneNumber
import Mathlib.Data.List.Infix
import Mathlib.Data.List.TakeWhile

/-!
# The patterns of maskable texts

A pattern is a row of character classes, each with the number of characters it takes. The patterns of e-mail addresses and of
phone numbers are stated here apart from the search for them, which never looks back. The length that the search finds at the
start of a text is that of a match (`Email.exists_match`, `PhoneNumber.exists_match`), and no match there is longer
(`Email.length_le_matchLength`, `PhoneNumber.length_le_matchLength`).
-/

namespace EntitySearch.Query

/-- Characters of one class: so many of them at least and, where there is a bound, so many at most. -/
structure Repeat where
  allows : Char → Bool
  least : Nat
  most : Option Nat

/-- Whether a text is made of such characters and nothing else. -/
structure Repeat.Matches (r : Repeat) (cs : List Char) : Prop where
  allowed : ∀ c ∈ cs, r.allows c = true
  least : r.least ≤ cs.length
  most : ∀ m ∈ r.most, cs.length ≤ m

/-- What the parts of a text must be, from the left. -/
abbrev Pattern : Type := List Repeat

/-- Whether a text can be cut into parts that match one by one. -/
def Pattern.Matches : Pattern → List Char → Prop
  | [], cs => cs = []
  | r :: rs, cs => ∃ part rest, cs = part ++ rest ∧ r.Matches part ∧ Pattern.Matches rs rest

theorem Repeat.matches_one {allows : Char → Bool} {cs : List Char} :
    (⟨allows, 1, some 1⟩ : Repeat).Matches cs ↔ ∃ c, cs = [c] ∧ allows c = true := by
  constructor
  · rintro ⟨hallowed, hleast, hmost⟩
    have hlen : cs.length = 1 := Nat.le_antisymm (hmost 1 rfl) hleast
    obtain ⟨c, rfl⟩ := List.length_eq_one_iff.mp hlen
    exact ⟨c, rfl, hallowed c List.mem_cons_self⟩
  · rintro ⟨c, rfl, hc⟩
    exact ⟨by simpa using hc, Nat.le_refl _, by simp⟩

theorem Repeat.matches_optional {allows : Char → Bool} {cs : List Char} :
    (⟨allows, 0, some 1⟩ : Repeat).Matches cs ↔ cs = [] ∨ ∃ c, cs = [c] ∧ allows c = true := by
  constructor
  · intro h
    cases cs with
    | nil => exact .inl rfl
    | cons c rest => exact .inr (matches_one.mp ⟨h.allowed, by simp, h.most⟩)
  · rintro (rfl | ⟨c, rfl, hc⟩)
    · exact ⟨by simp, Nat.le_refl _, by simp⟩
    · exact ⟨by simpa using hc, Nat.zero_le _, by simp⟩

/-- So many characters or more. -/
theorem Repeat.matches_many {allows : Char → Bool} {n : Nat} {cs : List Char} :
    (⟨allows, n, none⟩ : Repeat).Matches cs ↔ (∀ c ∈ cs, allows c = true) ∧ n ≤ cs.length :=
  ⟨fun h => ⟨h.allowed, h.least⟩, fun h => ⟨h.1, h.2, by simp⟩⟩

namespace Email

/-- The pattern of an address: a local part, an at sign, and a domain that ends in a dot and two letters or more. -/
def pattern : Pattern :=
  [⟨isLocalChar, 1, none⟩, ⟨(· == '@'), 1, some 1⟩, ⟨isDomainChar, 1, none⟩, ⟨(· == '.'), 1, some 1⟩, ⟨isLetter, 2, none⟩]

/-- Whether an address stands somewhere in a text. -/
def OccursIn (cs : List Char) : Prop := ∃ m, m <:+: cs ∧ pattern.Matches m

/-- An address in its parts: characters, the sign, a domain, a dot, and two letters or more. -/
theorem pattern_matches_iff {m : List Char} :
    pattern.Matches m ↔ ∃ name domain letters, m = name ++ '@' :: (domain ++ '.' :: letters) ∧
      (name ≠ [] ∧ ∀ c ∈ name, isLocalChar c = true) ∧ (domain ≠ [] ∧ ∀ c ∈ domain, isDomainChar c = true) ∧
      2 ≤ letters.length ∧ ∀ c ∈ letters, isLetter c = true := by
  simp only [pattern, Pattern.Matches, Repeat.matches_one, Repeat.matches_many, beq_iff_eq]
  constructor
  · rintro ⟨name, _, rfl, ⟨hname, hn⟩, _, _, rfl, ⟨_, rfl, rfl⟩, domain, _, rfl, ⟨hdomain, hd⟩, _, _, rfl, ⟨_, rfl, rfl⟩,
      letters, _, rfl, ⟨hletters, hl⟩, rfl⟩
    exact ⟨name, domain, letters, by simp, ⟨List.length_pos_iff.mp hn, hname⟩, ⟨List.length_pos_iff.mp hd, hdomain⟩, hl,
      hletters⟩
  · rintro ⟨name, domain, letters, rfl, ⟨hn, hname⟩, ⟨hd, hdomain⟩, hl, hletters⟩
    exact ⟨name, _, rfl, ⟨hname, List.length_pos_iff.mpr hn⟩, ['@'], _, rfl, ⟨_, rfl, rfl⟩, domain, _, rfl,
      ⟨hdomain, List.length_pos_iff.mpr hd⟩, ['.'], _, rfl, ⟨_, rfl, rfl⟩, letters, [], by simp, ⟨hletters, hl⟩, rfl⟩

theorem isDomainChar_of_isLetter {c : Char} (h : isLetter c = true) : isDomainChar c = true := by simp [isDomainChar, h]

/-- What may stand in a domain may stand in front of the sign. -/
theorem isLocalChar_of_isDomainChar {c : Char} (h : isDomainChar c = true) : isLocalChar c = true := by
  simp only [isDomainChar, Bool.or_eq_true] at h
  rcases h with ((h | h) | h) | h <;> simp [isLocalChar, h]

/-- The end of a domain is a dot, with a character before it, and letters. -/
theorem of_domainLength {seen n : Nat} {cs : List Char} (h : domainLength seen cs = n) (hn : n ≠ 0) :
    ∃ domain letters rest, cs = domain ++ '.' :: (letters ++ rest) ∧ n = seen + (domain.length + 1 + letters.length) ∧
      1 ≤ seen + domain.length ∧ 2 ≤ letters.length ∧ ∀ c ∈ letters, isLetter c = true := by
  induction cs generalizing seen with
  | nil => exact absurd h.symm hn
  | cons c cs ih =>
    rw [domainLength] at h
    split at h
    · obtain ⟨domain, letters, rest, rfl, hlen, hdomain, hletters⟩ := ih h
      exact ⟨c :: domain, letters, rest, rfl, by simp only [List.length_cons]; omega, by simp only [List.length_cons]; omega,
        hletters⟩
    · split at h
      · rename_i hend
        obtain ⟨rfl, hseen, hletters⟩ := hend
        exact ⟨[], cs.takeWhile isLetter, cs.dropWhile isLetter, by simp, by simp only [List.length_nil]; omega, hseen,
          hletters, fun c hc => List.mem_takeWhile_imp hc⟩
      · exact absurd h.symm hn

/-- The search for the end of a domain goes as far as any end that the run of domain characters holds. -/
theorem le_domainLength {seen : Nat} {domain letters rest : List Char} (hdomain : 1 ≤ seen + domain.length)
    (hlen : 2 ≤ letters.length) (hletters : ∀ c ∈ letters, isLetter c = true) :
    seen + (domain.length + 1 + letters.length) ≤ domainLength seen (domain ++ '.' :: (letters ++ rest)) := by
  induction domain generalizing seen with
  | nil =>
    rw [List.nil_append, List.length_nil, domainLength]
    split
    · rename_i hlater
      obtain ⟨between, letters', rest', hcut, hlength, -⟩ := of_domainLength rfl hlater
      -- A dot that ends the domain later stands behind the letters, as none of them is a dot.
      have hbehind : letters.length ≤ between.length := by
        rcases List.append_eq_append_iff.mp hcut with ⟨more, rfl, -⟩ | ⟨more, hmore, hdot⟩
        · rw [List.length_append]
          exact Nat.le_add_right _ _
        · cases more with
          | nil => rw [hmore, List.append_nil]
          | cons c more =>
            obtain ⟨rfl, -⟩ := List.cons.inj hdot
            have hletter := hletters '.' (hmore ▸ List.mem_append_right _ List.mem_cons_self)
            exact absurd hletter (by decide)
      omega
    · have htake : letters.length ≤ ((letters ++ rest).takeWhile isLetter).length := by
        rw [List.takeWhile_append_of_pos hletters, List.length_append]
        exact Nat.le_add_right _ _
      rw [if_pos ⟨rfl, hdomain, Nat.le_trans hlen htake⟩]
      omega
  | cons c domain ih =>
    have hlater : seen + 1 + (domain.length + 1 + letters.length) ≤
        domainLength (seen + 1) (domain ++ '.' :: (letters ++ rest)) := ih (by omega)
    rw [List.cons_append, domainLength, if_pos (by omega), List.length_cons]
    omega

/-- The length of the address at the start of a text with an at sign behind its run of local characters. -/
theorem matchLength_eq {cs rest : List Char} (h : cs.dropWhile isLocalChar = '@' :: rest) :
    matchLength cs =
      if cs.takeWhile isLocalChar = [] ∨ domainLength 0 (rest.takeWhile isDomainChar) = 0 then 0
      else (cs.takeWhile isLocalChar).length + 1 + domainLength 0 (rest.takeWhile isDomainChar) := by
  unfold matchLength
  simp [h]

/-- Without an at sign behind its run of local characters a text starts with no address. -/
theorem matchLength_eq_zero {cs : List Char} (h : ¬∃ rest, cs.dropWhile isLocalChar = '@' :: rest) : matchLength cs = 0 := by
  unfold matchLength
  split
  · rename_i rest hrest
    exact absurd ⟨rest, hrest⟩ h
  · rfl

/-- What the search finds at the start of a text is as long as any address there. -/
theorem length_le_matchLength {m cs : List Char} (h : pattern.Matches m) (hpre : m <+: cs) : m.length ≤ matchLength cs := by
  obtain ⟨name, domain, letters, rfl, ⟨hname, hlocal⟩, ⟨hd, hdomain⟩, hl, hletters⟩ := pattern_matches_iff.mp h
  obtain ⟨rest, rfl⟩ := hpre
  have hrun : ∀ c ∈ domain ++ '.' :: letters, isDomainChar c = true := by
    intro c hc
    rcases List.mem_append.mp hc with hc | hc
    · exact hdomain c hc
    · rcases List.mem_cons.mp hc with rfl | hc
      · decide
      · exact isDomainChar_of_isLetter (hletters c hc)
  have hfound : domain.length + 1 + letters.length ≤
      domainLength 0 (((domain ++ '.' :: letters) ++ rest).takeWhile isDomainChar) := by
    rw [List.takeWhile_append_of_pos hrun, List.append_assoc, List.cons_append]
    have hmany : 1 ≤ 0 + domain.length := by
      rw [Nat.zero_add]
      exact List.length_pos_iff.mpr hd
    have hle : 0 + (domain.length + 1 + letters.length) ≤
        domainLength 0 (domain ++ '.' :: (letters ++ rest.takeWhile isDomainChar)) :=
      le_domainLength hmany hl hletters
    rwa [Nat.zero_add] at hle
  -- The local part ends at the at sign, which is no character of it.
  have hstop : isLocalChar '@' = false := by decide
  have hdrop : (name ++ '@' :: (domain ++ '.' :: letters) ++ rest).dropWhile isLocalChar =
      '@' :: (domain ++ '.' :: letters ++ rest) := by
    rw [List.append_assoc, List.cons_append, List.dropWhile_append_of_pos hlocal, List.dropWhile_cons_of_neg (by simp [hstop])]
  have htake : (name ++ '@' :: (domain ++ '.' :: letters) ++ rest).takeWhile isLocalChar = name := by
    rw [List.append_assoc, List.cons_append, List.takeWhile_append_of_pos hlocal, List.takeWhile_cons_of_neg (by simp [hstop]),
      List.append_nil]
  rw [matchLength_eq hdrop, htake, if_neg (not_or.mpr ⟨hname, by omega⟩)]
  simp only [List.length_append, List.length_cons]
  omega

/-- The search finds an address at the start of a text that starts with one. -/
theorem matchLength_ne_zero {m cs : List Char} (h : pattern.Matches m) (hpre : m <+: cs) : matchLength cs ≠ 0 := by
  obtain ⟨name, domain, letters, rfl, -⟩ := pattern_matches_iff.mp h
  have hle := length_le_matchLength h hpre
  rw [List.length_append, List.length_cons] at hle
  omega

/-- What the search finds at the start of a text is an address. -/
theorem exists_match {cs : List Char} (h : matchLength cs ≠ 0) :
    ∃ m, m <+: cs ∧ m.length = matchLength cs ∧ pattern.Matches m := by
  by_cases hat : ∃ rest, cs.dropWhile isLocalChar = '@' :: rest
  · obtain ⟨rest, hrest⟩ := hat
    rw [matchLength_eq hrest] at h ⊢
    split at h
    · exact absurd rfl h
    · rename_i hparts
      rw [if_neg hparts]
      obtain ⟨hname, hend⟩ := not_or.mp hparts
      obtain ⟨domain, letters, after, hrun, hlen, hdomain, hl, hletters⟩ := of_domainLength rfl hend
      have hallowed : ∀ c ∈ domain, isDomainChar c = true := by
        intro c hc
        have hmem : c ∈ rest.takeWhile isDomainChar := by
          rw [hrun]
          exact List.mem_append_left _ hc
        exact List.mem_takeWhile_imp hmem
      refine ⟨cs.takeWhile isLocalChar ++ '@' :: (domain ++ '.' :: letters), ⟨after ++ rest.dropWhile isDomainChar, ?_⟩, ?_,
        pattern_matches_iff.mpr ⟨_, domain, letters, rfl, ⟨hname, fun c hc => List.mem_takeWhile_imp hc⟩,
          ⟨List.length_pos_iff.mp (by omega), hallowed⟩, hl, hletters⟩⟩
      · calc cs.takeWhile isLocalChar ++ '@' :: (domain ++ '.' :: letters) ++ (after ++ rest.dropWhile isDomainChar)
          _ = cs.takeWhile isLocalChar ++ '@' :: (rest.takeWhile isDomainChar ++ rest.dropWhile isDomainChar) := by
            rw [hrun]; simp
          _ = cs.takeWhile isLocalChar ++ cs.dropWhile isLocalChar := by rw [List.takeWhile_append_dropWhile, hrest]
          _ = cs := List.takeWhile_append_dropWhile
      · rw [hlen]
        simp only [List.length_append, List.length_cons]
        omega
  · exact absurd (matchLength_eq_zero hat) h

end Email

namespace PhoneNumber

open Text Phone

/-- The pattern of a number: a plus sign and a bracket, either of which may be missing, and digits with blanks, hyphens and
brackets between the first and the last of them. -/
def pattern : Pattern :=
  [⟨(· == '+'), 0, some 1⟩, ⟨(· == '('), 0, some 1⟩, ⟨isDecimalDigit, 1, some 1⟩, ⟨isPhoneChar, 0, none⟩,
    ⟨isDecimalDigit, 1, some 1⟩]

/-- Whether a number that is long enough to be replaced stands somewhere in a text. -/
def OccursIn (cs : List Char) : Prop := ∃ m, m <:+: cs ∧ pattern.Matches m ∧ leastDigits ≤ (digits m).length

/-- Whether a text starts and ends with a digit, and holds nothing but characters of numbers between them. -/
structure IsBody (cs : List Char) : Prop where
  starts : ∃ c rest, cs = c :: rest ∧ rest ≠ [] ∧ isDecimalDigit c = true
  ends : ∃ front c, cs = front ++ [c] ∧ isDecimalDigit c = true
  allowed : ∀ c ∈ cs, isPhoneChar c = true

theorem isPhoneChar_of_isDecimalDigit {c : Char} (h : isDecimalDigit c = true) : isPhoneChar c = true := by
  simp [isPhoneChar, h]

/-- The body of a number starts and ends with a digit. -/
theorem isBody_iff {cs : List Char} :
    IsBody cs ↔ ∃ first middle last, cs = first :: (middle ++ [last]) ∧ isDecimalDigit first = true ∧
      (∀ c ∈ middle, isPhoneChar c = true) ∧ isDecimalDigit last = true := by
  constructor
  · rintro ⟨⟨first, rest, rfl, hne, hfirst⟩, ⟨front, last, hends, hlast⟩, hallowed⟩
    cases front with
    | nil => exact absurd (List.cons.inj hends).2 hne
    | cons c middle =>
      obtain ⟨rfl, rfl⟩ := List.cons.inj hends
      exact ⟨first, middle, last, rfl, hfirst, fun c hc => hallowed c (by simp [hc]), hlast⟩
  · rintro ⟨first, middle, last, rfl, hfirst, hmiddle, hlast⟩
    refine ⟨⟨first, _, rfl, by simp, hfirst⟩, ⟨first :: middle, last, rfl, hlast⟩, ?_⟩
    intro c hc
    rcases List.mem_cons.mp hc with rfl | hc
    · exact isPhoneChar_of_isDecimalDigit hfirst
    · rcases List.mem_append.mp hc with hc | hc
      · exact hmiddle c hc
      · rw [List.mem_singleton.mp hc]
        exact isPhoneChar_of_isDecimalDigit hlast

theorem pattern_matches_iff {m : List Char} :
    pattern.Matches m ↔ ∃ lead body, m = lead ++ body ∧ lead ∈ [[], ['+'], ['('], ['+', '(']] ∧ IsBody body := by
  simp only [pattern, Pattern.Matches, Repeat.matches_one, Repeat.matches_optional, Repeat.matches_many, beq_iff_eq, isBody_iff]
  constructor
  · rintro ⟨sign, _, rfl, hsign, bracket, _, rfl, hbracket, _, _, rfl, ⟨first, rfl, hfirst⟩, middle, _, rfl, ⟨hmiddle, -⟩, _, _,
      rfl, ⟨last, rfl, hlast⟩, rfl⟩
    refine ⟨sign ++ bracket, _, by rw [List.append_assoc], ?_, first, middle, last, by simp, hfirst, hmiddle, hlast⟩
    rcases hsign with rfl | ⟨_, rfl, rfl⟩ <;> rcases hbracket with rfl | ⟨_, rfl, rfl⟩ <;> decide
  · rintro ⟨lead, _, rfl, hlead, first, middle, last, rfl, hfirst, hmiddle, hlast⟩
    have hcut : ∃ sign bracket, lead = sign ++ bracket ∧ (sign = [] ∨ ∃ c, sign = [c] ∧ c = '+') ∧
        (bracket = [] ∨ ∃ c, bracket = [c] ∧ c = '(') := by
      simp only [List.mem_cons, List.not_mem_nil, or_false] at hlead
      rcases hlead with rfl | rfl | rfl | rfl
      · exact ⟨[], [], rfl, .inl rfl, .inl rfl⟩
      · exact ⟨['+'], [], rfl, .inr ⟨_, rfl, rfl⟩, .inl rfl⟩
      · exact ⟨[], ['('], rfl, .inl rfl, .inr ⟨_, rfl, rfl⟩⟩
      · exact ⟨['+'], ['('], rfl, .inr ⟨_, rfl, rfl⟩, .inr ⟨_, rfl, rfl⟩⟩
    obtain ⟨sign, bracket, rfl, hsign, hbracket⟩ := hcut
    exact ⟨sign, _, List.append_assoc _ _ _, hsign, bracket, _, rfl, hbracket, [first], _, rfl, ⟨_, rfl, hfirst⟩, middle, _, rfl,
      ⟨hmiddle, Nat.zero_le _⟩, [last], [], rfl, ⟨_, rfl, hlast⟩, rfl⟩

/-- Up to the last digit is past a digit, whatever follows. -/
theorem upToLastDigit_append {front rest : List Char} {c : Char} (hc : isDecimalDigit c = true) :
    upToLastDigit (front ++ c :: rest) = front ++ c :: upToLastDigit rest := by
  have hstop : (c :: front.reverse).dropWhile (fun c => !isDecimalDigit c) = c :: front.reverse :=
    List.dropWhile_cons_of_neg (by simp [hc])
  simp only [upToLastDigit, List.reverse_append, List.reverse_cons, List.append_assoc, List.singleton_append,
    List.dropWhile_append]
  split
  · rename_i hempty
    rw [hstop, List.isEmpty_iff.mp hempty]
    simp
  · simp

/-- A text up to its last digit starts the text and, unless it is empty, ends in a digit. -/
theorem of_upToLastDigit (cs : List Char) :
    upToLastDigit cs <+: cs ∧ (upToLastDigit cs = [] ∨ ∃ front c, upToLastDigit cs = front ++ [c] ∧ isDecimalDigit c = true) := by
  refine ⟨?_, ?_⟩
  · have hsuffix := List.dropWhile_suffix (l := cs.reverse) (fun c => !isDecimalDigit c)
    have hpre := List.reverse_prefix.mpr hsuffix
    rwa [List.reverse_reverse] at hpre
  · unfold upToLastDigit
    cases hdrop : cs.reverse.dropWhile (fun c => !isDecimalDigit c) with
    | nil => exact .inl rfl
    | cons c rest =>
      refine .inr ⟨rest.reverse, c, by simp, ?_⟩
      have hhead := List.head_dropWhile_not (fun c => !isDecimalDigit c) (l := cs.reverse) (by simp [hdrop])
      simpa [hdrop] using hhead

/-- The length of the body of a number at the start of a text. -/
theorem bodyLength_cons (c : Char) (rest : List Char) :
    bodyLength (c :: rest) =
      if isDecimalDigit c = true ∧ upToLastDigit (rest.takeWhile isPhoneChar) ≠ [] then
        (c :: upToLastDigit (rest.takeWhile isPhoneChar)).length
      else 0 := by
  rw [bodyLength]
  by_cases hc : isDecimalDigit c = true
  · simp only [hc, if_true, true_and]
    split
    · rename_i hnil
      simp [hnil]
    · rename_i hne
      rw [if_pos hne, List.length_cons]
      omega
  · simp [hc]

/-- What the search takes for the body of a number at the start of a text is one. -/
theorem exists_body {cs : List Char} (h : bodyLength cs ≠ 0) : ∃ m, m <+: cs ∧ m.length = bodyLength cs ∧ IsBody m := by
  cases cs with
  | nil => exact absurd rfl h
  | cons c rest =>
    rw [bodyLength_cons] at h ⊢
    split at h
    · rename_i hbody
      obtain ⟨hc, hne⟩ := hbody
      obtain ⟨hpre, hends⟩ := of_upToLastDigit (rest.takeWhile isPhoneChar)
      obtain ⟨front, last, hlast, hdigit⟩ := hends.resolve_left hne
      refine ⟨c :: upToLastDigit (rest.takeWhile isPhoneChar), ?_, by rw [if_pos ⟨hc, hne⟩], ⟨c, _, rfl, hne, hc⟩,
        ⟨c :: front, last, by rw [hlast]; rfl, hdigit⟩, ?_⟩
      · exact (List.prefix_cons_inj c).mpr (hpre.trans (List.takeWhile_prefix _))
      · intro d hd
        rcases List.mem_cons.mp hd with rfl | hd
        · exact isPhoneChar_of_isDecimalDigit hc
        · exact List.mem_takeWhile_imp (hpre.subset hd)
    · exact absurd rfl h

/-- The body that the search takes is as long as any at the start of the text. -/
theorem length_le_bodyLength {m cs : List Char} (hm : IsBody m) (hpre : m <+: cs) : m.length ≤ bodyLength cs := by
  obtain ⟨first, middle, last, rfl, hfirst, hmiddle, hlast⟩ := isBody_iff.mp hm
  obtain ⟨rest, rfl⟩ := hpre
  have hrun : ∀ c ∈ middle ++ [last], isPhoneChar c = true := fun c hc => hm.allowed c (List.mem_cons_of_mem _ hc)
  have hbody : upToLastDigit ((middle ++ [last] ++ rest).takeWhile isPhoneChar) =
      middle ++ last :: upToLastDigit (rest.takeWhile isPhoneChar) := by
    rw [List.takeWhile_append_of_pos hrun, List.append_assoc, List.singleton_append, upToLastDigit_append hlast]
  rw [List.cons_append, bodyLength_cons, hbody, if_pos ⟨hfirst, by simp⟩]
  simp only [List.length_cons, List.length_append, List.length_nil]
  omega

/-- The length of a match: what stands in front and the body, or nothing without a body. -/
theorem matchLength_eq (cs : List Char) :
    matchLength cs =
      if bodyLength (cs.drop (leadLength cs)) = 0 then 0 else leadLength cs + bodyLength (cs.drop (leadLength cs)) := by
  unfold matchLength
  split
  · rename_i h
    rw [if_pos h]
  · rename_i n h
    rw [if_neg (by omega), h]

/-- Before a number there may be a plus sign and a bracket. -/
theorem take_leadLength (cs : List Char) : cs.take (leadLength cs) ∈ [[], ['+'], ['('], ['+', '(']] := by
  unfold leadLength
  split <;> simp

/-- What may stand in front of a number has no digits. -/
theorem not_isDecimalDigit_of_mem_lead {lead : List Char} (h : lead ∈ [[], ['+'], ['('], ['+', '(']]) {c : Char} (hc : c ∈ lead) :
    isDecimalDigit c = false := by
  have hcases : c = '+' ∨ c = '(' := by
    simp only [List.mem_cons, List.not_mem_nil, or_false] at h
    rcases h with rfl | rfl | rfl | rfl
    · nomatch hc
    · exact .inl (List.mem_singleton.mp hc)
    · exact .inr (List.mem_singleton.mp hc)
    · simpa using hc
  rcases hcases with rfl | rfl
  · decide
  · decide

/-- What the search finds at the start of a text is a number. -/
theorem exists_match {cs : List Char} (h : matchLength cs ≠ 0) :
    ∃ m, m <+: cs ∧ m.length = matchLength cs ∧ pattern.Matches m := by
  rw [matchLength_eq] at h ⊢
  split at h
  · exact absurd rfl h
  · rename_i hbody
    rw [if_neg hbody]
    obtain ⟨body, hpre, hlen, hm⟩ := exists_body hbody
    have hlead : (cs.take (leadLength cs)).length = leadLength cs := by
      have hdrop := hpre.length_le
      obtain ⟨c, rest, rfl, -⟩ := hm.starts
      rw [List.length_drop, List.length_cons] at hdrop
      rw [List.length_take]
      omega
    refine ⟨cs.take (leadLength cs) ++ body, ?_, by rw [List.length_append, hlead, hlen],
      pattern_matches_iff.mpr ⟨_, body, rfl, take_leadLength cs, hm⟩⟩
    have hcs := (List.prefix_append_right_inj (cs.take (leadLength cs))).mpr hpre
    rwa [List.take_append_drop] at hcs

/-- The start of a body with a whole body behind it is a body. -/
theorem IsBody.append {before m body : List Char} (hbody : IsBody body) (hbefore : before <+: body) (hm : IsBody m) :
    IsBody (before ++ m) := by
  cases before with
  | nil => exact hm
  | cons c before =>
    obtain ⟨first, rest, rfl, -, hfirst⟩ := hbody.starts
    obtain ⟨rfl, -⟩ := List.cons_prefix_cons.mp hbefore
    obtain ⟨front, last, rfl, hlast⟩ := hm.ends
    refine ⟨⟨c, before ++ (front ++ [last]), rfl, by simp, hfirst⟩, ⟨c :: before ++ front, last, by simp, hlast⟩, ?_⟩
    intro d hd
    rcases List.mem_append.mp hd with hd | hd
    · exact hbody.allowed d (hbefore.subset hd)
    · exact hm.allowed d hd

/-- The search finds a number where the body of one stands, be it at the start of the text or inside of what it finds, and what
it finds does not end before that body does. -/
theorem length_le_matchLength {before m cs : List Char} (hm : IsBody m) (hpre : before ++ m <+: cs)
    (hinside : before = [] ∨ before.length < matchLength cs) : (before ++ m).length ≤ matchLength cs := by
  -- A digit stands behind what comes before the body of the number that is found.
  have hbehind : leadLength cs ≤ before.length := by
    obtain ⟨c, rest, rfl, -, hc⟩ := hm.starts
    refine Nat.le_of_not_lt fun hlt => ?_
    have hstart : before ++ [c] <+: cs := by
      refine List.IsPrefix.trans ?_ hpre
      exact (List.prefix_append_right_inj before).mpr (List.prefix_append [c] rest)
    have hfits : before ++ [c] <+: cs.take (leadLength cs) :=
      List.prefix_take_iff.mpr ⟨hstart, by rw [List.length_append]; exact hlt⟩
    have hnone := not_isDecimalDigit_of_mem_lead (take_leadLength cs) (hfits.subset (List.mem_append_right _ List.mem_cons_self))
    exact absurd hc (by rw [hnone]; decide)
  have hdrop : before.drop (leadLength cs) ++ m <+: cs.drop (leadLength cs) := by
    have hdropped := hpre.drop (leadLength cs)
    rwa [List.drop_append_of_le_length hbehind] at hdropped
  have hall : IsBody (before.drop (leadLength cs) ++ m) := by
    rcases hinside with rfl | hlt
    · rwa [List.drop_nil]
    · rw [matchLength_eq] at hlt
      split at hlt
      · exact absurd hlt (Nat.not_lt_zero _)
      · rename_i hbody
        obtain ⟨body, hstarts, hlen, hb⟩ := exists_body hbody
        refine hb.append (List.prefix_of_prefix_length_le ((List.prefix_append _ _).trans hdrop) hstarts ?_) hm
        rw [List.length_drop]
        omega
  have hle := length_le_bodyLength hall hdrop
  have hpos : 0 < m.length := by
    obtain ⟨c, rest, rfl, -⟩ := hm.starts
    exact Nat.succ_pos _
  rw [List.length_append, List.length_drop] at hle
  rw [matchLength_eq, if_neg (by omega), List.length_append]
  omega

end PhoneNumber

end EntitySearch.Query
