import EntitySearch.Proofs.PhoneRuns
import EntitySearch.Proofs.PhoneShape
import Mathlib.Data.List.Forall2

/-!
# Digits that cannot be told apart

Masking is two searches, the second one through what the first one leaves. The fragments of a query put both together
(`Query.fragments`): characters that stay, and addresses and numbers that a placeholder stands for. They make up the query
(`Query.fragments_source`), and what they show is the masked query (`Query.fragments_shown`). Which fragments there are depends
on no ASCII digit, only on where there are any (`Query.fragments_map_blot`): neither search asks which digit stands somewhere.
Queries that differ in digits only are therefore masked alike (`replaced_digits_are_unobservable`).
-/

namespace EntitySearch

namespace Query

/-! ## Fragments -/

/-- A fragment of a query: a character that stays, an address, or a number that is long enough to be replaced. -/
inductive Fragment where
  | kept (c : Char)
  | address (m : List Char)
  | number (m : List Char)
  deriving Repr, DecidableEq

namespace Fragment

/-- The characters of a fragment. -/
def source : Fragment → List Char
  | .kept c => [c]
  | .address m => m
  | .number m => m

/-- What stands for a fragment in the masked query. -/
def shown : Fragment → List Char
  | .kept c => [c]
  | .address _ => Email.placeholder
  | .number _ => PhoneNumber.placeholder

/-- Whether a placeholder stands for a fragment. -/
def isReplaced : Fragment → Bool
  | .kept _ => false
  | .address _ => true
  | .number _ => true

/-- For each character of a fragment, whether it is replaced. -/
def marks (f : Fragment) : List Bool := f.source.map fun _ => f.isReplaced

/-- The fragment that a piece becomes when addresses are replaced. -/
def ofPiece : Piece → Fragment
  | .gap c => .kept c
  | .hit m => .address m

/-- A fragment with its characters changed. -/
def map (g : Char → Char) : Fragment → Fragment
  | .kept c => .kept (g c)
  | .address m => .address (m.map g)
  | .number m => .number (m.map g)

end Fragment

/-- What becomes of the fragments that a number is found in: they are one number, unless it is too short to be replaced. -/
def joinNumber (found : List Fragment) : List Fragment :=
  if (Phone.digits (found.flatMap Fragment.source)).length < PhoneNumber.leastDigits then found
  else [.number (found.flatMap Fragment.source)]

/-- Fragments with the numbers that are found in what they show. -/
def withNumbers (fs : List Fragment) : List Fragment :=
  match fs with
  | [] => []
  | f :: rest =>
    match PhoneNumber.matchLength ((f :: rest).flatMap Fragment.shown) with
    | 0 => f :: withNumbers rest
    | n + 1 => joinNumber (f :: rest.take n) ++ withNumbers (rest.drop n)
  termination_by fs.length
  decreasing_by
    · simp
    · simp only [List.length_drop, List.length_cons]; omega

/-- The fragments of a query: its addresses first, and then the numbers in what is left. -/
def fragments (cs : List Char) : List Fragment := withNumbers ((pieces Email.matchLength cs).map .ofPiece)

/-- For each character of a query, whether masking replaces it. -/
def replacedMarks (cs : List Char) : List Bool := (fragments cs).flatMap Fragment.marks

variable {fs gs rest : List Fragment} {f : Fragment} {cs q q' : List Char} {n : Nat}

/-- A fragment where no number starts is left alone. -/
theorem withNumbers_gap (h : PhoneNumber.matchLength ((f :: rest).flatMap Fragment.shown) = 0) :
    withNumbers (f :: rest) = f :: withNumbers rest := by
  rw [withNumbers]
  simp only [h]

/-- The fragments that a number covers become one, and the search goes on behind them. -/
theorem withNumbers_hit (h : PhoneNumber.matchLength ((f :: rest).flatMap Fragment.shown) = n + 1) :
    withNumbers (f :: rest) = joinNumber (f :: rest.take n) ++ withNumbers (rest.drop n) := by
  rw [withNumbers]
  simp only [h]

/-- Fragments that become one keep what they stand for. -/
theorem joinNumber_source (found : List Fragment) :
    (joinNumber found).flatMap Fragment.source = found.flatMap Fragment.source := by
  unfold joinNumber
  split <;> simp [Fragment.source]

/-- Putting numbers together keeps what the fragments stand for. -/
theorem withNumbers_source (fs : List Fragment) : (withNumbers fs).flatMap Fragment.source = fs.flatMap Fragment.source := by
  fun_induction withNumbers fs with
  | case1 => rfl
  | case2 f rest _ ih => rw [List.flatMap_cons, List.flatMap_cons, ih]
  | case3 f rest n _ ih =>
    rw [List.flatMap_append, joinNumber_source, ih, ← List.flatMap_append, List.cons_append, List.take_append_drop]

/-- The fragments of a query make up the query. -/
theorem fragments_source (cs : List Char) : (fragments cs).flatMap Fragment.source = cs := by
  have hpiece : ∀ p : Piece, (Fragment.ofPiece p).source = p.source := by
    intro p
    cases p <;> rfl
  rw [fragments, withNumbers_source, List.flatMap_map]
  simp only [hpiece]
  exact pieces_source Email.matchLength cs

/-! ## What fragments show -/

namespace PhoneNumber

open Text Phone

/-- No number starts with a character that is neither a digit nor leads one in. -/
theorem matchLength_cons_of_ne {c : Char} (hdigit : isDecimalDigit c = false) (hplus : c ≠ '+') (hbracket : c ≠ '(')
    (cs : List Char) : matchLength (c :: cs) = 0 := by
  have hlead : leadLength (c :: cs) = 0 := by
    unfold leadLength
    split <;> simp_all
  rw [matchLength, hlead]
  simp [bodyLength, hdigit]

/-- Nothing is found in such characters. -/
theorem mask_append_of_ne {word : List Char} (hword : ∀ c ∈ word, isDecimalDigit c = false ∧ c ≠ '+' ∧ c ≠ '(')
    (cs : List Char) : mask (word ++ cs) = word ++ mask cs := by
  induction word with
  | nil => rfl
  | cons c word ih =>
    obtain ⟨⟨hdigit, hplus, hbracket⟩, hword⟩ := List.forall_mem_cons.mp hword
    rw [List.cons_append, mask_cons (matchLength_cons_of_ne hdigit hplus hbracket _), ih hword, List.cons_append]

/-- A number is not empty and has no square bracket in it. -/
theorem not_bracket_of_matches {m : List Char} (h : pattern.Matches m) : m ≠ [] ∧ '[' ∉ m := by
  obtain ⟨lead, body, rfl, hlead, hbody⟩ := pattern_matches_iff.mp h
  obtain ⟨hne, hopen, -⟩ := not_bracket_of_isBody hbody
  refine ⟨by simp [hne], ?_⟩
  rw [List.mem_append, not_or]
  refine ⟨?_, hopen⟩
  clear h
  revert lead
  decide

end PhoneNumber

/-- A text without brackets at the start of what fragments show is made of characters that are kept. -/
theorem exists_kept_of_prefix {m : List Char} (hm : '[' ∉ m) (h : m <+: fs.flatMap Fragment.shown) :
    ∃ rest, fs = m.map .kept ++ rest := by
  induction m generalizing fs with
  | nil => exact ⟨fs, rfl⟩
  | cons c m ih =>
    obtain ⟨hc, hm⟩ := not_or.mp (mt List.mem_cons.mpr hm)
    cases fs with
    | nil => exact absurd (List.prefix_nil.mp h) (List.cons_ne_nil c m)
    | cons f fs =>
      cases f with
      | kept d =>
        obtain ⟨rfl, hrest⟩ := List.cons_prefix_cons.mp h
        obtain ⟨rest, rfl⟩ := ih hm hrest
        exact ⟨rest, rfl⟩
      | address a => exact absurd (List.cons_prefix_cons.mp h).1.symm hc
      | number a => exact absurd (List.cons_prefix_cons.mp h).1.symm hc

theorem map_kept_source (m : List Char) : (m.map Fragment.kept).flatMap Fragment.source = m := by
  rw [List.flatMap_map]
  exact List.flatMap_singleton' m

theorem map_kept_shown (m : List Char) : (m.map Fragment.kept).flatMap Fragment.shown = m := by
  rw [List.flatMap_map]
  exact List.flatMap_singleton' m

/-- Characters that become a number show its replacement. -/
theorem joinNumber_kept_shown (m : List Char) :
    (joinNumber (m.map .kept)).flatMap Fragment.shown = PhoneNumber.replacement m := by
  rw [joinNumber, map_kept_source, PhoneNumber.replacement]
  split
  · exact map_kept_shown m
  · rfl

/-- Fragments with their numbers show what masking the numbers leaves of what they showed before. -/
theorem withNumbers_shown (fs : List Fragment) :
    (withNumbers fs).flatMap Fragment.shown = PhoneNumber.mask (fs.flatMap Fragment.shown) := by
  have hemail : ∀ c ∈ Email.placeholder, Text.isDecimalDigit c = false ∧ c ≠ '+' ∧ c ≠ '(' := by
    simp only [Email.placeholder, List.mem_cons, List.not_mem_nil, or_false, forall_eq_or_imp, forall_eq]
    decide
  have hphone : ∀ c ∈ PhoneNumber.placeholder, Text.isDecimalDigit c = false ∧ c ≠ '+' ∧ c ≠ '(' := by
    simp only [PhoneNumber.placeholder, List.mem_cons, List.not_mem_nil, or_false, forall_eq_or_imp, forall_eq]
    decide
  fun_induction withNumbers fs with
  | case1 => rw [List.flatMap_nil, PhoneNumber.mask, replaceMatches_nil]
  | case2 f rest hgap ih =>
    rw [List.flatMap_cons, ih, List.flatMap_cons]
    cases f with
    | kept c => exact (PhoneNumber.mask_cons hgap).symm
    | address m => exact (PhoneNumber.mask_append_of_ne hemail _).symm
    | number m => exact (PhoneNumber.mask_append_of_ne hphone _).symm
  | case3 f rest n hhit ih =>
    obtain ⟨m, hpre, hlength, hmatches⟩ := PhoneNumber.exists_match (hhit ▸ Nat.succ_ne_zero n)
    obtain ⟨hne, hopen⟩ := PhoneNumber.not_bracket_of_matches hmatches
    obtain ⟨behind, hcut⟩ := exists_kept_of_prefix hopen hpre
    rw [hhit, Nat.succ_eq_add_one] at hlength
    have hfound : f :: rest.take n = m.map .kept := by
      rw [← List.take_succ_cons, hcut, ← hlength]
      exact List.take_left' (List.length_map _)
    have hrest : rest.drop n = behind := by
      rw [← List.drop_succ_cons (a := f), hcut, ← hlength]
      exact List.drop_left' (List.length_map _)
    rw [hcut, List.flatMap_append, map_kept_shown] at hhit
    rw [List.flatMap_append, ih, hfound, joinNumber_kept_shown, hrest, hcut, List.flatMap_append, map_kept_shown]
    exact (replaceMatches_append hne (hhit.trans hlength.symm)).symm

/-- What the fragments of a query show is the masked query. -/
theorem fragments_shown (cs : List Char) : (fragments cs).flatMap Fragment.shown = mask cs := by
  have hpiece : ∀ p : Piece, (Fragment.ofPiece p).shown = match p with | .gap c => [c] | .hit _ => Email.placeholder := by
    intro p
    cases p <;> rfl
  rw [fragments, withNumbers_shown, List.flatMap_map]
  simp only [hpiece]
  rfl

/-! ## Blotted digits -/

/-- A character with zero in the place of any other ASCII digit. -/
def blot (c : Char) : Char := if c.isDigit then '0' else c

/-- Whether two characters are the same, or both ASCII digits. -/
def SameButDigits (c d : Char) : Prop := c = d ∨ c.isDigit = true ∧ d.isDigit = true

instance (c d : Char) : Decidable (SameButDigits c d) := inferInstanceAs (Decidable (_ ∨ _))

/-- Characters are the same but for digits when they are so with all digits blotted out. -/
theorem sameButDigits_iff {c d : Char} : SameButDigits c d ↔ blot c = blot d := by
  unfold SameButDigits blot
  constructor
  · rintro (rfl | ⟨hc, hd⟩)
    · rfl
    · rw [if_pos hc, if_pos hd]
  · intro h
    split at h
    · split at h
      · exact .inr ⟨‹_›, ‹_›⟩
      · rename_i hc hd
        exact absurd (h ▸ by decide) hd
    · split at h
      · rename_i hc hd
        exact absurd (h ▸ by decide) hc
      · exact .inl h

/-- Texts are the same but for digits when they are so with all digits blotted out. -/
theorem forall₂_sameButDigits_iff : List.Forall₂ SameButDigits q q' ↔ q.map blot = q'.map blot := by
  rw [← List.forall₂_eq_eq_eq, List.forall₂_map_left_iff, List.forall₂_map_right_iff]
  simp only [← sameButDigits_iff]

/-- A blotted character is one that is no digit only when it was that one. -/
theorem blot_eq_iff {c d : Char} (hd : d.isDigit = false) : blot c = d ↔ c = d := by
  unfold blot
  split
  · rename_i hc
    constructor
    · rintro rfl
      exact absurd hd (by decide)
    · rintro rfl
      rw [hc] at hd
      cases hd
  · rfl

/-- A class of characters with all ASCII digits or none in it takes a character just when it takes the blotted one. -/
theorem apply_blot {p : Char → Bool} (h : ∀ c, c.isDigit = true → p c = p '0') (c : Char) : p (blot c) = p c := by
  unfold blot
  split
  · exact (h c ‹_›).symm
  · rfl

/-- The front of a blotted text is the blotted front, for a property that cannot tell digits apart. -/
theorem takeWhile_map_blot {p : Char → Bool} (hp : ∀ c, p (blot c) = p c) (cs : List Char) :
    (cs.map blot).takeWhile p = (cs.takeWhile p).map blot := by
  rw [List.takeWhile_map]
  exact congrArg (fun p => (cs.takeWhile p).map blot) (funext hp)

/-- The rest of a blotted text is the blotted rest, for such a property. -/
theorem dropWhile_map_blot {p : Char → Bool} (hp : ∀ c, p (blot c) = p c) (cs : List Char) :
    (cs.map blot).dropWhile p = (cs.dropWhile p).map blot := by
  rw [List.dropWhile_map]
  exact congrArg (fun p => (cs.dropWhile p).map blot) (funext hp)

namespace Email

/-- No digit is a letter. -/
theorem not_isLetter_of_isDigit {c : Char} (h : c.isDigit = true) : isLetter c = false := by
  have hten : ∀ n < 10, isLetter (Char.ofNat (48 + n)) = false := by decide
  simp only [Char.isDigit, Bool.and_eq_true, decide_eq_true_eq] at h
  have hlow : 48 ≤ c.toNat := UInt32.le_iff_toNat_le.mp h.1
  have hhigh : c.toNat ≤ 57 := UInt32.le_iff_toNat_le.mp h.2
  have hletter := hten (c.toNat - 48) (by omega)
  rwa [Nat.add_sub_cancel' hlow, Char.ofNat_toNat] at hletter

/-- Blotting a character leaves it a letter, or leaves it none. -/
theorem isLetter_blot (c : Char) : isLetter (blot c) = isLetter c := by
  refine apply_blot (fun c hc => ?_) c
  rw [not_isLetter_of_isDigit hc]
  decide

/-- Blotting keeps whether a character may stand in front of the sign of an address. -/
theorem isLocalChar_blot (c : Char) : isLocalChar (blot c) = isLocalChar c := by
  refine apply_blot (fun c hc => ?_) c
  simp [isLocalChar, hc]

/-- Blotting keeps whether a character may stand behind the sign of an address. -/
theorem isDomainChar_blot (c : Char) : isDomainChar (blot c) = isDomainChar c := by
  refine apply_blot (fun c hc => ?_) c
  simp [isDomainChar, hc]

/-- The length of a domain does not depend on which digits it has. -/
theorem domainLength_map_blot (seen : Nat) (cs : List Char) : domainLength seen (cs.map blot) = domainLength seen cs := by
  induction cs generalizing seen with
  | nil => rfl
  | cons c cs ih =>
    rw [List.map_cons, domainLength, domainLength, ih, takeWhile_map_blot isLetter_blot, List.length_map]
    simp only [blot_eq_iff (d := '.') (by decide)]

/-- Where an address ends does not depend on the digits in it. -/
theorem matchLength_map_blot (cs : List Char) : matchLength (cs.map blot) = matchLength cs := by
  have hdrop := dropWhile_map_blot isLocalChar_blot cs
  by_cases hat : ∃ rest, cs.dropWhile isLocalChar = '@' :: rest
  · obtain ⟨rest, hrest⟩ := hat
    have hrest' : (cs.map blot).dropWhile isLocalChar = '@' :: rest.map blot := by
      rw [hdrop, hrest]
      rfl
    rw [matchLength_eq hrest', matchLength_eq hrest, takeWhile_map_blot isLocalChar_blot, takeWhile_map_blot isDomainChar_blot,
      domainLength_map_blot, List.length_map]
    simp only [List.map_eq_nil_iff]
  · rw [matchLength_eq_zero hat, matchLength_eq_zero]
    rintro ⟨rest, hrest⟩
    rw [hdrop, List.map_eq_cons_iff] at hrest
    obtain ⟨c, tail, hcs, hc, -⟩ := hrest
    rw [blot_eq_iff (by decide)] at hc
    exact hat ⟨tail, hc ▸ hcs⟩

end Email

namespace PhoneNumber

open Text Phone

/-- Blotting keeps whether a character is a digit, of any script. -/
theorem isDecimalDigit_blot (c : Char) : isDecimalDigit (blot c) = isDecimalDigit c := by
  refine apply_blot (fun c hc => ?_) c
  rw [isDecimalDigit_of_isDigit hc]
  decide

/-- Blotting keeps whether a character may stand in a phone number. -/
theorem isPhoneChar_blot (c : Char) : isPhoneChar (blot c) = isPhoneChar c := by
  refine apply_blot (fun c hc => ?_) c
  rw [isPhoneChar_of_isDecimalDigit (isDecimalDigit_of_isDigit hc)]
  decide

/-- Blotting keeps the number of digits. -/
theorem length_digits_map_blot (cs : List Char) : (digits (cs.map blot)).length = (digits cs).length := by
  have hfun : isDecimalDigit ∘ blot = isDecimalDigit := funext isDecimalDigit_blot
  rw [digits, List.filter_map, List.length_map, hfun, digits]

/-- Blotting keeps where the last digit stands. -/
theorem upToLastDigit_map_blot (cs : List Char) : upToLastDigit (cs.map blot) = (upToLastDigit cs).map blot := by
  have hclass : ∀ c, (!isDecimalDigit (blot c)) = !isDecimalDigit c := by
    intro c
    rw [isDecimalDigit_blot]
  rw [upToLastDigit, ← List.map_reverse, dropWhile_map_blot (p := fun c => !isDecimalDigit c) hclass, ← List.map_reverse,
    upToLastDigit]

/-- The length of a number does not depend on which digits it has. -/
theorem bodyLength_map_blot (cs : List Char) : bodyLength (cs.map blot) = bodyLength cs := by
  cases cs with
  | nil => rfl
  | cons c rest =>
    rw [List.map_cons, bodyLength_cons, bodyLength_cons, isDecimalDigit_blot, takeWhile_map_blot isPhoneChar_blot,
      upToLastDigit_map_blot, List.length_cons, List.length_map, List.length_cons]
    simp only [ne_eq, List.map_eq_nil_iff]

/-- What may stand in front of a number: a plus sign, an opening bracket, or both in that order. -/
theorem leadLength_eq (cs : List Char) : leadLength cs =
    if cs.head? = some '+' then if cs.tail.head? = some '(' then 2 else 1 else if cs.head? = some '(' then 1 else 0 := by
  unfold leadLength
  split <;> simp_all [List.head?_eq_some_iff]

/-- What stands in front of a number has no digits. -/
theorem leadLength_map_blot (cs : List Char) : leadLength (cs.map blot) = leadLength cs := by
  have hhead : ∀ (cs : List Char) (d : Char), d.isDigit = false → ((cs.map blot).head? = some d ↔ cs.head? = some d) := by
    intro cs d hd
    cases cs with
    | nil => simp
    | cons c cs => simp [blot_eq_iff hd]
  rw [leadLength_eq, leadLength_eq, ← List.map_tail]
  simp only [hhead _ '+' (by decide), hhead _ '(' (by decide)]

/-- Where a number ends does not depend on the digits in it, nor on those around it. -/
theorem matchLength_map_blot (cs : List Char) : matchLength (cs.map blot) = matchLength cs := by
  rw [matchLength_eq, matchLength_eq, leadLength_map_blot, ← List.map_drop, bodyLength_map_blot]

end PhoneNumber

/-! ## Fragments of blotted queries -/

/-- What a blotted fragment shows is blotted. -/
theorem Fragment.shown_map_blot (f : Fragment) : (f.map blot).shown = f.shown.map blot := by
  cases f <;> rfl

/-- What a changed fragment stands for is changed alike. -/
theorem Fragment.source_map (g : Char → Char) (f : Fragment) : (f.map g).source = f.source.map g := by
  cases f <;> rfl

theorem Fragment.marks_map (g : Char → Char) (f : Fragment) : (f.map g).marks = f.marks := by
  cases f <;> simp [marks, map, source, isReplaced]

/-- What blotted fragments show is blotted. -/
theorem flatMap_shown_map_blot (fs : List Fragment) :
    (fs.map (Fragment.map blot)).flatMap Fragment.shown = (fs.flatMap Fragment.shown).map blot := by
  rw [List.flatMap_map, List.map_flatMap]
  simp only [Fragment.shown_map_blot]

theorem flatMap_source_map (g : Char → Char) (fs : List Fragment) :
    (fs.map (Fragment.map g)).flatMap Fragment.source = (fs.flatMap Fragment.source).map g := by
  rw [List.flatMap_map, List.map_flatMap]
  simp only [Fragment.source_map]

theorem flatMap_marks_map (g : Char → Char) (fs : List Fragment) :
    (fs.map (Fragment.map g)).flatMap Fragment.marks = fs.flatMap Fragment.marks := by
  rw [List.flatMap_map]
  simp only [Fragment.marks_map]

/-- Blotted fragments become one as the fragments do. -/
theorem joinNumber_map_blot (found : List Fragment) :
    joinNumber (found.map (Fragment.map blot)) = (joinNumber found).map (Fragment.map blot) := by
  rw [joinNumber, joinNumber, flatMap_source_map, PhoneNumber.length_digits_map_blot]
  split <;> rfl

/-- The numbers in what fragments show are at the same places when digits are blotted. -/
theorem withNumbers_map_blot (fs : List Fragment) :
    withNumbers (fs.map (Fragment.map blot)) = (withNumbers fs).map (Fragment.map blot) := by
  have hlength : ∀ fs : List Fragment, PhoneNumber.matchLength ((fs.map (Fragment.map blot)).flatMap Fragment.shown) =
      PhoneNumber.matchLength (fs.flatMap Fragment.shown) := by
    intro fs
    rw [flatMap_shown_map_blot, PhoneNumber.matchLength_map_blot]
  fun_induction withNumbers fs with
  | case1 => rw [List.map_nil, withNumbers]
  | case2 f rest hgap ih => rw [List.map_cons, withNumbers_gap ((hlength (f :: rest)).trans hgap), ih, List.map_cons]
  | case3 f rest n hhit ih =>
    rw [List.map_cons, withNumbers_hit ((hlength (f :: rest)).trans hhit), ← List.map_take, ← List.map_drop, ih,
      ← List.map_cons, joinNumber_map_blot, List.map_append]

/-- So are the addresses. -/
theorem map_ofPiece_pieces (cs : List Char) : (pieces Email.matchLength (cs.map blot)).map Fragment.ofPiece =
    ((pieces Email.matchLength cs).map .ofPiece).map (Fragment.map blot) := by
  fun_induction pieces Email.matchLength cs with
  | case1 => rw [List.map_nil, pieces]; rfl
  | case2 c rest hgap ih =>
    have hgap' : Email.matchLength (blot c :: rest.map blot) = 0 := (Email.matchLength_map_blot (c :: rest)).trans hgap
    rw [List.map_cons, pieces]
    simp only [hgap', List.map_cons, ih]
    rfl
  | case3 c rest n hhit ih =>
    have hhit' : Email.matchLength (blot c :: rest.map blot) = n + 1 := (Email.matchLength_map_blot (c :: rest)).trans hhit
    rw [List.map_cons, pieces]
    simp only [hhit', List.map_cons, ← List.map_take, ← List.map_drop, ih]
    rfl

/-- The fragments of a query with its digits blotted are those of the query, with their digits blotted. -/
theorem fragments_map_blot (cs : List Char) : fragments (cs.map blot) = (fragments cs).map (Fragment.map blot) := by
  rw [fragments, map_ofPiece_pieces, withNumbers_map_blot, fragments]

/-! ## Queries that differ in digits -/

/-- Fragments that differ in digits only, and in none that stays, show the same. -/
theorem shown_eq_of_marks (h : fs.map (Fragment.map blot) = gs.map (Fragment.map blot))
    (hmarks : ∀ i : Nat, (fs.flatMap Fragment.source)[i]? ≠ (gs.flatMap Fragment.source)[i]? →
      (fs.flatMap Fragment.marks)[i]? = some true) : fs.flatMap Fragment.shown = gs.flatMap Fragment.shown := by
  induction fs generalizing gs with
  | nil =>
    rw [List.map_nil, eq_comm, List.map_eq_nil_iff] at h
    rw [h]
  | cons f fs ih =>
    obtain ⟨g, gs, rfl, hg, hgs⟩ := List.map_eq_cons_iff.mp h.symm
    have hlength : f.source.length = g.source.length := by
      have hsource := congrArg (fun f => f.source.length) hg.symm
      simpa only [Fragment.source_map, List.length_map] using hsource
    have hmarksLength : f.marks.length = f.source.length := List.length_map _
    have hfirst : f.shown = g.shown := by
      cases f <;> cases g <;> simp [Fragment.map] at hg
      · rename_i c d
        by_contra hne
        have hmark := hmarks 0 (by simpa [Fragment.source] using fun heq => hne (by rw [heq]))
        simp [Fragment.marks, Fragment.source, Fragment.isReplaced] at hmark
      · rfl
      · rfl
    have hrest : fs.flatMap Fragment.shown = gs.flatMap Fragment.shown := by
      refine ih hgs.symm fun i hi => ?_
      have hmark := hmarks (f.source.length + i)
      rw [List.flatMap_cons, List.flatMap_cons, List.flatMap_cons, List.getElem?_append_right (by omega),
        List.getElem?_append_right (by omega), List.getElem?_append_right (by omega), hmarksLength, ← hlength,
        Nat.add_sub_cancel_left] at hmark
      exact hmark hi
    rw [List.flatMap_cons, List.flatMap_cons, hfirst, hrest]

/-- **Replaced digits cannot be observed.** Take two queries that are the same but for ASCII digits that stand at the same places.
The same characters are replaced in both, their masked forms are the same but for such digits again, and they are the same
altogether when the queries differ in replaced characters only. -/
theorem replaced_digits_are_unobservable (h : List.Forall₂ SameButDigits q q') :
    replacedMarks q = replacedMarks q' ∧ List.Forall₂ SameButDigits (mask q) (mask q') ∧
      ((∀ i : Nat, q[i]? ≠ q'[i]? → (replacedMarks q)[i]? = some true) → mask q = mask q') := by
  have hblot : (fragments q).map (Fragment.map blot) = (fragments q').map (Fragment.map blot) := by
    rw [← fragments_map_blot, ← fragments_map_blot, forall₂_sameButDigits_iff.mp h]
  refine ⟨?_, ?_, fun hinside => ?_⟩
  · rw [replacedMarks, ← flatMap_marks_map blot, hblot, flatMap_marks_map, replacedMarks]
  · rw [forall₂_sameButDigits_iff, ← fragments_shown, ← fragments_shown, ← flatMap_shown_map_blot, hblot, flatMap_shown_map_blot]
  · rw [← fragments_shown, ← fragments_shown]
    refine shown_eq_of_marks hblot ?_
    rw [fragments_source, fragments_source]
    exact hinside

/-- Two phones next to the number of a flat cannot be told apart. -/
theorem phones_beside_a_flat_are_unobservable :
    List.Forall₂ SameButDigits "flat 12, +7 700 123-45-67".toList "flat 12, +7 912 987-65-43".toList ∧
      replacedMarks "flat 12, +7 700 123-45-67".toList = replacedMarks "flat 12, +7 912 987-65-43".toList ∧
      (replacedMarks "flat 12, +7 700 123-45-67".toList)[5]? = some false ∧
      mask "flat 12, +7 700 123-45-67".toList = mask "flat 12, +7 912 987-65-43".toList := by
  have hsame : List.Forall₂ SameButDigits "flat 12, +7 700 123-45-67".toList "flat 12, +7 912 987-65-43".toList :=
    forall₂_sameButDigits_iff.mpr (by decide)
  obtain ⟨hmarks, -, hmask⟩ := replaced_digits_are_unobservable hsame
  refine ⟨hsame, hmarks, by decide +kernel, hmask fun i hi => ?_⟩
  have hinside : ∀ i < 25, "flat 12, +7 700 123-45-67".toList[i]? ≠ "flat 12, +7 912 987-65-43".toList[i]? →
      (replacedMarks "flat 12, +7 700 123-45-67".toList)[i]? = some true := by decide +kernel
  refine hinside i (Nat.lt_of_not_le fun hle => hi ?_) hi
  rw [List.getElem?_eq_none hle, List.getElem?_eq_none hle]

end Query

end EntitySearch
