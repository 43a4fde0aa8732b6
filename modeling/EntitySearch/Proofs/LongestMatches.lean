import EntitySearch.Proofs.Masking

/-!
# The matches a text is cut at

The search for matches takes the longest one at the first place where there is any, and goes on behind it. The pieces it leaves
are a cut of the text (`Pattern.Cuts`): no match can be made longer without reaching into the one before it, and every match that
stands in the text starts inside of one that is taken. Putting a piece in front of a cut keeps this
(`Pattern.Cuts.gap`, `Pattern.Cuts.hit`), so that it holds of all pieces (`Pattern.FoundBy.cuts_pieces`), and of the addresses
that are replaced in a query (`addresses_are_cut_out`).
-/

namespace EntitySearch.Query

/-- The text of several pieces. -/
def sourceOf (ps : List Piece) : List Char := ps.flatMap Piece.source

/-- What a piece becomes when a word takes the place of the matches. -/
def Piece.hidden (word : List Char) : Piece → List Char
  | .gap c => [c]
  | .hit _ => word

namespace Pattern

/-- Whether the lengths found at the start of texts are those of the longest matches there. -/
structure FoundBy (pattern : Pattern) (matchLength : List Char → Nat) : Prop where
  found : ∀ {cs : List Char}, matchLength cs ≠ 0 → ∃ m, m <+: cs ∧ m.length = matchLength cs ∧ pattern.Matches m
  longest : ∀ {m cs : List Char}, pattern.Matches m → m <+: cs → m.length ≤ matchLength cs
  solid : ∀ {m : List Char}, pattern.Matches m → m ≠ []

/-- Whether pieces are a text cut at matches that are as long as they can be and leave none out. -/
structure Cuts (pattern : Pattern) (ps : List Piece) : Prop where
  sound : ∀ m, .hit m ∈ ps → pattern.Matches m
  /-- No match grows to the right, nor to the left into the characters behind the match before it. -/
  maximal : ∀ {before after : List Piece} {left m right : List Char}, ps = before ++ (left.map .gap ++ .hit m :: after) →
    right <+: sourceOf after → pattern.Matches (left ++ m ++ right) → left = [] ∧ right = []
  /-- Every match that stands in the text starts inside of one at which it is cut. -/
  covering : ∀ {before m after : List Char}, sourceOf ps = before ++ (m ++ after) → pattern.Matches m →
    ∃ front hit back, ps = front ++ .hit hit :: back ∧ (sourceOf front).length ≤ before.length ∧
      before.length < (sourceOf front ++ hit).length

end Pattern

theorem sourceOf_append (ps qs : List Piece) : sourceOf (ps ++ qs) = sourceOf ps ++ sourceOf qs := List.flatMap_append

theorem sourceOf_gap (c : Char) (ps : List Piece) : sourceOf (.gap c :: ps) = c :: sourceOf ps := rfl

theorem sourceOf_hit (m : List Char) (ps : List Piece) : sourceOf (.hit m :: ps) = m ++ sourceOf ps := rfl

/-- Characters that are kept stand for themselves. -/
theorem sourceOf_map_gap (cs : List Char) : sourceOf (cs.map .gap) = cs := by
  induction cs with
  | nil => rfl
  | cons c cs ih => rw [List.map_cons, sourceOf_gap, ih]

namespace Pattern

variable {pattern : Pattern} {matchLength : List Char → Nat} {ps : List Piece}

theorem cuts_nil (hsolid : ∀ {m}, pattern.Matches m → m ≠ []) : pattern.Cuts [] where
  sound m hm := nomatch hm
  maximal h := by simp at h
  covering h hm := by
    obtain ⟨-, hrest⟩ := List.append_eq_nil_iff.mp h.symm
    exact absurd (List.append_eq_nil_iff.mp hrest).1 (hsolid hm)

/-- A character where no match starts goes in front of a cut. -/
theorem Cuts.gap (h : pattern.Cuts ps) {c : Char} (hc : ∀ m, pattern.Matches m → ¬m <+: c :: sourceOf ps) :
    pattern.Cuts (.gap c :: ps) where
  sound m hm := by
    rcases List.mem_cons.mp hm with heq | hm
    · nomatch heq
    · exact h.sound m hm
  maximal := by
    intro before after left m right hps hright hm
    cases before with
    | nil =>
      cases left with
      | nil => nomatch hps
      | cons d left =>
        -- The longer match would start at the character in front.
        rw [List.nil_append, List.map_cons, List.cons_append] at hps
        injection hps with hd hps
        injection hd with hd
        subst hd hps
        refine absurd ?_ (hc _ hm)
        rw [sourceOf_append, sourceOf_map_gap, sourceOf_hit, List.append_assoc, List.cons_append]
        exact (List.prefix_cons_inj c).mpr
          ((List.prefix_append_right_inj left).mpr ((List.prefix_append_right_inj m).mpr hright))
    | cons p before =>
      injection hps with _ hps
      exact h.maximal hps hright hm
  covering := by
    intro before m after hsource hm
    cases before with
    | nil => exact absurd ⟨after, hsource.symm⟩ (hc m hm)
    | cons d before =>
      rw [sourceOf_gap, List.cons_append, List.cons.injEq] at hsource
      obtain ⟨rfl, hsource⟩ := hsource
      obtain ⟨front, hit, back, rfl, hstarts, hends⟩ := h.covering hsource hm
      refine ⟨.gap c :: front, hit, back, rfl, ?_, ?_⟩
      · rw [sourceOf_gap, List.length_cons, List.length_cons]
        exact Nat.succ_le_succ hstarts
      · rw [sourceOf_gap, List.cons_append, List.length_cons, List.length_cons]
        exact Nat.succ_lt_succ hends

/-- The longest match at the start of a text goes in front of a cut of the rest. -/
theorem Cuts.hit (h : pattern.Cuts ps) {m : List Char} (hm : pattern.Matches m)
    (hlongest : ∀ x, pattern.Matches x → x <+: m ++ sourceOf ps → x.length ≤ m.length) : pattern.Cuts (.hit m :: ps) where
  sound x hx := by
    rcases List.mem_cons.mp hx with heq | hx
    · injection heq with heq
      exact heq ▸ hm
    · exact h.sound x hx
  maximal := by
    intro before after left x right hps hright hx
    cases before with
    | nil =>
      cases left with
      | nil =>
        rw [List.nil_append, List.map_nil, List.nil_append] at hps
        injection hps with heq hps
        injection heq with heq
        subst heq hps
        have hle := hlongest _ hx ((List.prefix_append_right_inj m).mpr hright)
        rw [List.nil_append, List.length_append] at hle
        exact ⟨rfl, List.length_eq_zero_iff.mp (by omega)⟩
      | cons d left => nomatch hps
    | cons p before =>
      injection hps with _ hps
      exact h.maximal hps hright hx
  covering := by
    intro before x after hsource hx
    rw [sourceOf_hit] at hsource
    by_cases hinside : before.length < m.length
    · exact ⟨[], m, ps, rfl, Nat.zero_le _, hinside⟩
    · -- Behind the match in front, the text is that of the cut.
      have hpre : m <+: before :=
        List.prefix_of_prefix_length_le (hsource ▸ List.prefix_append m _) (List.prefix_append before _)
          (Nat.le_of_not_lt hinside)
      obtain ⟨behind, rfl⟩ := hpre
      rw [List.append_assoc] at hsource
      obtain ⟨front, hit, back, rfl, hstarts, hends⟩ := h.covering (List.append_cancel_left hsource) hx
      refine ⟨.hit m :: front, hit, back, rfl, ?_, ?_⟩
      · rw [sourceOf_hit, List.length_append, List.length_append]
        exact Nat.add_le_add_left hstarts _
      · rw [sourceOf_hit, List.append_assoc, List.length_append, List.length_append]
        exact Nat.add_lt_add_left hends _

/-- A search for longest matches cuts a text at them. -/
theorem FoundBy.cuts_pieces (h : pattern.FoundBy matchLength) (cs : List Char) : pattern.Cuts (pieces matchLength cs) := by
  fun_induction pieces matchLength cs with
  | case1 => exact cuts_nil h.solid
  | case2 c rest hgap ih =>
    have hsource : sourceOf (pieces matchLength rest) = rest := pieces_source matchLength rest
    refine ih.gap fun m hm hpre => h.solid hm ?_
    rw [hsource] at hpre
    have hle := h.longest hm hpre
    rw [hgap] at hle
    exact List.length_eq_zero_iff.mp (Nat.le_zero.mp hle)
  | case3 c rest n hhit ih =>
    have hsource : sourceOf (pieces matchLength (rest.drop n)) = rest.drop n := pieces_source matchLength _
    have hwhole : c :: rest.take n ++ rest.drop n = c :: rest := by rw [List.cons_append, List.take_append_drop]
    have hfound : matchLength (c :: rest) ≠ 0 := by
      rw [hhit]
      exact Nat.succ_ne_zero n
    obtain ⟨m, hpre, hlength, hm⟩ := h.found hfound
    have heq : m = c :: rest.take n := by
      rw [List.prefix_iff_eq_take.mp hpre, hlength, hhit, List.take_succ_cons]
    subst heq
    refine ih.hit hm fun x hx hxpre => ?_
    rw [hsource, hwhole] at hxpre
    rw [hlength]
    exact h.longest hx hxpre

end Pattern

namespace Email

/-- The matcher finds the longest match. -/
theorem foundBy : pattern.FoundBy matchLength :=
  ⟨exists_match, length_le_matchLength, fun h => (not_bracket_of_matches h).1⟩

/-- **The addresses of a query are cut out of it.** The query is cut into addresses and the characters between them, and the
masked query is the same with a placeholder for each address. Every piece that is taken for an address is one in full, none of
them can be made longer to the right, nor to the left within the text behind the one before, and every address that stands
somewhere in the query starts inside of one that is replaced. -/
theorem addresses_are_cut_out (cs : List Char) :
    ∃ ps : List Piece, sourceOf ps = cs ∧ mask cs = ps.flatMap (Piece.hidden placeholder) ∧ pattern.Cuts ps := by
  refine ⟨pieces matchLength cs, pieces_source matchLength cs, ?_, foundBy.cuts_pieces cs⟩
  have hpiece : (fun p : Piece => match p with | .gap c => [c] | .hit _ => placeholder) = Piece.hidden placeholder := by
    funext p
    cases p <;> rfl
  rw [← hpiece]
  rfl

end Email

end EntitySearch.Query
