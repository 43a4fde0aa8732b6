import EntitySearch.Sql.Text
import EntitySearch.Proofs.NumberText

/-!
# Lexing of conditions

The text of a condition is cut into brackets, signs, words, names and constants (`lex`), without looking at what it says: a
text starts at an apostrophe and ends at the next one that is not doubled, whatever stands between. Each constant and each
name is found again as it was written (`spells_constant`, `lex_identifier`).
-/

namespace EntitySearch.Sql

/-- The signs and words of conditions. -/
inductive Symbol where
  | dot
  | comma
  | bars
  | equals
  | ilike
  | escape
  | is
  | as
  | varchar
  | and
  | or
  deriving Repr, DecidableEq

/-- What a bracket is opened for: to group, or for the arguments of a function. -/
inductive Bracket where
  | group
  | coalesce
  | cast
  deriving Repr, DecidableEq

/-- A piece of a condition between brackets. -/
inductive Token where
  | symbol (s : Symbol)
  | name (s : String)
  | constant (v : Value)
  deriving Repr

/-- A piece of a condition. -/
inductive Lexeme where
  | token (t : Token)
  | opening (b : Bracket)
  | closing
  deriving Repr

/-- The words that are no names. -/
def keywords : List (String × Token) :=
  [("AND", .symbol .and), ("OR", .symbol .or), ("ILIKE", .symbol .ilike), ("ESCAPE", .symbol .escape), ("IS", .symbol .is),
   ("AS", .symbol .as), ("VARCHAR", .symbol .varchar), ("NULL", .constant .null), ("true", .constant (.bool true)),
   ("false", .constant (.bool false))]

/-- What a word is: one of the language, or else a name. -/
def ofWord (w : String) : Token := (keywords.lookup w).getD (.name w)

/-- The functions, by the names they are called by. -/
def functions : List (String × Bracket) := [("coalesce", .coalesce), ("CAST", .cast)]

/-- A text up to the quotation mark that ends it, with doubled marks taken for one, and what is behind it. -/
def readQuoted (q : Char) : List Char → Option (List Char × List Char)
  | [] => none
  | [c] => if c = q then some ([], []) else none
  | c :: d :: cs =>
    if c = q then if d = q then (readQuoted q cs).map fun (s, rest) => (q :: s, rest) else some ([], d :: cs)
    else (readQuoted q (d :: cs)).map fun (s, rest) => (c :: s, rest)

/-- A word with what is behind it: the name of a function when its bracket follows at once. -/
def readWord (w : String) : List Char → Lexeme × List Char
  | '(' :: rest =>
    match functions.lookup w with
    | some b => (.opening b, rest)
    | none => (.token (ofWord w), '(' :: rest)
  | rest => (.token (ofWord w), rest)

/-- The first piece of a text that does not start with a blank, and what is behind it. -/
def readLexeme : List Char → Option (Lexeme × List Char)
  | [] => none
  | '(' :: cs => some (.opening .group, cs)
  | ')' :: cs => some (.closing, cs)
  | '.' :: cs => some (.token (.symbol .dot), cs)
  | ',' :: cs => some (.token (.symbol .comma), cs)
  | '=' :: cs => some (.token (.symbol .equals), cs)
  | '|' :: '|' :: cs => some (.token (.symbol .bars), cs)
  | '\'' :: cs => (readQuoted '\'' cs).map fun (s, rest) => (.token (.constant (.text (String.ofList s))), rest)
  | '"' :: cs => (readQuoted '"' cs).map fun (s, rest) => (.token (.name (String.ofList s)), rest)
  | c :: cs =>
    if c.isDigit || c == '-' then
      (readNumber ((c :: cs).takeWhile isNumberChar)).map fun v => (.token (.constant v), (c :: cs).dropWhile isNumberChar)
    else if isNameChar c then
      some (readWord (String.ofList ((c :: cs).takeWhile isNameChar)) ((c :: cs).dropWhile isNameChar))
    else none

/-! ## Progress -/

/-- Reading a quoted text takes characters away. -/
theorem length_of_readQuoted {q : Char} {cs s rest : List Char} (h : readQuoted q cs = some (s, rest)) :
    rest.length < cs.length := by
  fun_induction readQuoted q cs generalizing s with
  | case1 => cases h
  | case2 =>
    obtain ⟨-, rfl⟩ := Prod.mk.inj (Option.some.inj h)
    exact Nat.zero_lt_one
  | case3 => cases h
  | case4 cs ih =>
    obtain ⟨⟨s', rest'⟩, hread, hpair⟩ := Option.map_eq_some_iff.mp h
    obtain ⟨-, rfl⟩ := Prod.mk.inj hpair
    have hlt := ih hread
    simp only [List.length_cons]
    omega
  | case5 d cs hne =>
    obtain ⟨-, rfl⟩ := Prod.mk.inj (Option.some.inj h)
    simp
  | case6 c d cs hne ih =>
    obtain ⟨⟨s', rest'⟩, hread, hpair⟩ := Option.map_eq_some_iff.mp h
    obtain ⟨-, rfl⟩ := Prod.mk.inj hpair
    have hlt := ih hread
    simp only [List.length_cons] at hlt ⊢
    omega

/-- What is left behind a word is no longer than what was there. -/
theorem length_readWord_le (w : String) (cs : List Char) : (readWord w cs).2.length ≤ cs.length := by
  unfold readWord
  split
  · split <;> simp
  · exact Nat.le_refl _

/-- Reading a piece takes characters away, so that lexing comes to an end. -/
theorem length_of_readLexeme {cs rest : List Char} {l : Lexeme} (h : readLexeme cs = some (l, rest)) :
    rest.length < cs.length := by
  have hdrop : ∀ {p : Char → Bool} {c : Char} {tail : List Char}, p c = true →
      ((c :: tail).dropWhile p).length < (c :: tail).length := by
    intro p c tail hc
    rw [List.dropWhile_cons_of_pos hc]
    exact Nat.lt_succ_of_le (List.dropWhile_sublist p).length_le
  have hquoted : ∀ {q : Char} {tail : List Char} {f : List Char → Lexeme},
      (readQuoted q tail).map (fun (s, rest) => (f s, rest)) = some (l, rest) → rest.length < (q :: tail).length := by
    intro q tail f hread
    obtain ⟨⟨s, rest'⟩, hs, hpair⟩ := Option.map_eq_some_iff.mp hread
    obtain ⟨-, rfl⟩ := Prod.mk.inj hpair
    exact Nat.lt_succ_of_lt (length_of_readQuoted hs)
  unfold readLexeme at h
  split at h
  · cases h
  case h_8 => exact hquoted (f := fun s => .token (.constant (.text (String.ofList s)))) h
  case h_9 => exact hquoted (f := fun s => .token (.name (String.ofList s))) h
  case h_10 =>
    split at h
    · rename_i hnumber
      obtain ⟨v, -, hpair⟩ := Option.map_eq_some_iff.mp h
      obtain ⟨-, rfl⟩ := Prod.mk.inj hpair
      refine hdrop ?_
      rcases Bool.or_eq_true_iff.mp hnumber with hdigit | hminus
      · simp [isNumberChar, hdigit]
      · rw [beq_iff_eq.mp hminus]
        decide
    · split at h
      · rename_i hname
        rw [← (Prod.mk.inj (Option.some.inj h)).2]
        exact (length_readWord_le _ _).trans_lt (hdrop hname)
      · cases h
  all_goals
    obtain ⟨-, rfl⟩ := Prod.mk.inj (Option.some.inj h)
    simp only [List.length_cons]
    omega

/-- The pieces of a text; blanks stand between pieces and mean nothing. -/
def lex (cs : List Char) : Option (List Lexeme) :=
  match cs with
  | [] => some []
  | c :: cs =>
    if c = ' ' then lex cs
    else
      match _ : readLexeme (c :: cs) with
      | none => none
      | some (l, rest) => (lex rest).map (l :: ·)
  termination_by cs.length
  decreasing_by
    · simp
    · exact length_of_readLexeme (by assumption)

theorem lex_nil : lex [] = some [] := by
  rw [lex]

/-- A blank between pieces is skipped. -/
theorem lex_blank (cs : List Char) : lex (' ' :: cs) = lex cs := by
  rw [lex, if_pos rfl]

/-- Lexing reads one piece and goes on behind it. -/
theorem lex_of_readLexeme {cs rest : List Char} {l : Lexeme} (hblank : cs.head? ≠ some ' ')
    (h : readLexeme cs = some (l, rest)) :
    lex cs = (lex rest).map (l :: ·) := by
  cases cs with
  | nil => cases h
  | cons c cs =>
    have hc : c ≠ ' ' := fun hc => hblank (congrArg some hc)
    rw [lex, if_neg hc]
    split
    · rename_i hnone
      rw [h] at hnone
      cases hnone
    · rename_i l' rest' hsome
      rw [h] at hsome
      obtain ⟨rfl, rfl⟩ := Prod.mk.inj (Option.some.inj hsome)
      rfl

/-! ## Quoted texts -/

/-- **A text between quotation marks ends at the mark that was put behind it**, whatever stands in it. -/
theorem readQuoted_doubled {q : Char} (s : List Char) {rest : List Char} (hrest : rest.head? ≠ some q) :
    readQuoted q (s.flatMap (fun c => if c = q then [q, q] else [c]) ++ q :: rest) = some (s, rest) := by
  induction s with
  | nil =>
    cases rest with
    | nil => rw [List.flatMap_nil, List.nil_append, readQuoted, if_pos rfl]
    | cons d rest =>
      have hd : d ≠ q := fun hd => hrest (congrArg some hd)
      rw [List.flatMap_nil, List.nil_append, readQuoted, if_pos rfl, if_neg hd]
  | cons c s ih =>
    rw [List.flatMap_cons, List.append_assoc]
    by_cases hc : c = q
    · subst hc
      rw [if_pos rfl, List.cons_append, List.singleton_append, readQuoted, if_pos rfl, if_pos rfl, ih, Option.map_some]
    · obtain ⟨d, tail, htail⟩ : ∃ d tail, s.flatMap (fun c => if c = q then [q, q] else [c]) ++ q :: rest = d :: tail :=
        List.exists_cons_of_ne_nil (List.append_ne_nil_of_right_ne_nil _ (List.cons_ne_nil q rest))
      rw [if_neg hc, List.singleton_append]
      rw [htail] at ih ⊢
      rw [readQuoted, if_neg hc, ih, Option.map_some]

/-! ## Words and numbers -/

/-- The characters that start neither a word nor a number. -/
def signs : List Char := ['(', ')', '.', ',', '=', '|', '\'', '"']

/-- A piece that starts with no sign is a number, a word or nothing, by its first character. -/
theorem readLexeme_cons {c : Char} (hc : c ∉ signs) (cs : List Char) :
    readLexeme (c :: cs) =
      if c.isDigit || c == '-' then
        (readNumber ((c :: cs).takeWhile isNumberChar)).map fun v => (.token (.constant v), (c :: cs).dropWhile isNumberChar)
      else if isNameChar c then
        some (readWord (String.ofList ((c :: cs).takeWhile isNameChar)) ((c :: cs).dropWhile isNameChar))
      else none := by
  unfold readLexeme
  split
  case h_1 h => cases h
  case h_10 h =>
    obtain ⟨rfl, rfl⟩ := List.cons.inj h
    rfl
  all_goals
    rename_i h
    obtain ⟨rfl, -⟩ := List.cons.inj h
    exact absurd (by decide) hc

/-- Whether characters make up a word: there are some, all of them stand in names, and the first is no digit. -/
def IsWord (w : List Char) : Prop := w ≠ [] ∧ (∀ c ∈ w, isNameChar c = true) ∧ ∀ c ∈ w.head?, c.isDigit = false

instance (w : List Char) : Decidable (IsWord w) :=
  decidable_of_iff (w ≠ [] ∧ w.all isNameChar = true ∧ w.head?.all (fun c => !c.isDigit) = true) (by
    cases w <;> simp [IsWord])

/-- A word is read up to the first character that cannot stand in one. -/
theorem readLexeme_word {w rest : List Char} (hw : IsWord w) (hrest : ∀ c ∈ rest.head?, isNameChar c = false) :
    readLexeme (w ++ rest) = some (readWord (String.ofList w) rest) := by
  obtain ⟨hne, hchars, hstart⟩ := hw
  obtain ⟨htake, hdrop⟩ := run_append _ hchars hrest
  obtain ⟨c, tail, rfl⟩ := List.exists_cons_of_ne_nil hne
  have hc := hchars c List.mem_cons_self
  have hsign : c ∉ signs := by
    intro hmem
    have hnone : signs.any isNameChar = false := by decide
    exact List.any_eq_false.mp hnone c hmem hc
  have hminus : c ≠ '-' := by
    rintro rfl
    exact absurd hc (by decide)
  rw [List.cons_append] at htake hdrop ⊢
  rw [readLexeme_cons hsign, htake, hdrop, hstart c rfl, if_neg (by simpa using hminus), if_pos hc]

/-- A number is read up to the first character that cannot stand in one. -/
theorem readLexeme_number {cs rest : List Char} {v : Value} (h : readNumber cs = some v)
    (hrest : ∀ c ∈ rest.head?, isNumberChar c = false) : readLexeme (cs ++ rest) = some (.token (.constant v), rest) := by
  obtain ⟨⟨c, hc, hstart⟩, hchars⟩ := readNumber_chars h
  obtain ⟨htake, hdrop⟩ := run_append _ hchars hrest
  obtain ⟨tail, rfl⟩ : ∃ tail, cs = c :: tail := List.head?_eq_some_iff.mp hc
  have hfirst : (c.isDigit || c == '-') = true := by
    rcases hstart with rfl | hdigit
    · decide
    · rw [hdigit, Bool.true_or]
  have hsign : c ∉ signs := by
    intro hmem
    have hnone : signs.any (fun d => d.isDigit || d == '-') = false := by decide
    exact List.any_eq_false.mp hnone c hmem hfirst
  rw [List.cons_append] at htake hdrop ⊢
  rw [readLexeme_cons hsign, htake, hdrop, if_pos hfirst, h, Option.map_some]

/-! ## Pieces of texts -/

/-- Whether a text may stand behind a constant or a name. -/
def EndsPiece (rest : List Char) : Prop := ∀ c ∈ rest.head?, c ∈ [' ', ')', ',']

/-- Whether a text is cut into pieces, wherever it ends. -/
def Spells (cs : List Char) (ls : List Lexeme) : Prop := ∀ rest, EndsPiece rest → lex (cs ++ rest) = (lex rest).map (ls ++ ·)

/-- Whether a text is cut into pieces, whatever follows it. -/
def Leads (cs : List Char) (ls : List Lexeme) : Prop := ∀ rest, lex (cs ++ rest) = (lex rest).map (ls ++ ·)

/-- Pieces that are read whatever follows are read before what ends a piece. -/
theorem Leads.spells {cs : List Char} {ls : List Lexeme} (h : Leads cs ls) : Spells cs ls := fun rest _ => h rest

theorem map_append_map (o : Option (List Lexeme)) (ls ms : List Lexeme) :
    (o.map (ms ++ ·)).map (ls ++ ·) = o.map (ls ++ ms ++ ·) := by
  rw [Option.map_map]
  congr 1
  funext ns
  exact (List.append_assoc ls ms ns).symm

/-- What is read whatever follows may be followed by anything that is read. -/
theorem Leads.append {cs ds : List Char} {ls ms : List Lexeme} (hcs : Leads cs ls) (hds : Spells ds ms) :
    Spells (cs ++ ds) (ls ++ ms) := by
  intro rest hrest
  rw [List.append_assoc, hcs, hds rest hrest, map_append_map]

/-- What is read only before the end of a piece may be followed by what starts with such an end. -/
theorem Spells.append {cs ds : List Char} {ls ms : List Lexeme} {c : Char} (hcs : Spells cs ls) (hds : Spells ds ms)
    (hc : ds.head? = some c) (hends : c ∈ [' ', ')', ',']) : Spells (cs ++ ds) (ls ++ ms) := by
  obtain ⟨tail, rfl⟩ := List.head?_eq_some_iff.mp hc
  intro rest hrest
  have hbehind : EndsPiece (c :: tail ++ rest) := by
    intro d hd
    rwa [← Option.some.inj hd]
  rw [List.append_assoc, hcs _ hbehind, hds rest hrest, map_append_map]

/-- A single piece that is read whatever follows. -/
theorem leads_of_readLexeme (cs : List Char) {l : Lexeme} (hblank : ∀ rest, (cs ++ rest).head? ≠ some ' ')
    (h : ∀ rest, readLexeme (cs ++ rest) = some (l, rest)) : Leads cs [l] := by
  intro rest
  exact lex_of_readLexeme (hblank rest) (h rest)

/-- A blank in front changes nothing. -/
theorem Leads.behind_blank {cs : List Char} {ls : List Lexeme} (h : Leads cs ls) : Leads (' ' :: cs) ls := by
  intro rest
  rw [List.cons_append, lex_blank, h]

/-- A blank behind changes nothing. -/
theorem Leads.before_blank {cs : List Char} {ls : List Lexeme} (h : Leads cs ls) : Leads (cs ++ [' ']) ls := by
  intro rest
  rw [List.append_assoc, h, List.singleton_append, lex_blank]

/-- A single piece that is read before the end of a piece. -/
theorem spells_of_readLexeme {cs : List Char} {l : Lexeme} (hblank : ∀ rest, (cs ++ rest).head? ≠ some ' ')
    (h : ∀ rest, EndsPiece rest → readLexeme (cs ++ rest) = some (l, rest)) : Spells cs [l] := by
  intro rest hrest
  exact lex_of_readLexeme (hblank rest) (h rest hrest)

/-- What ends a piece starts with nothing but a blank, a closing bracket or a comma. -/
theorem EndsPiece.ne {rest : List Char} (h : EndsPiece rest) {d : Char} (hd : d ∉ [' ', ')', ',']) : rest.head? ≠ some d :=
  fun hrest => hd (h d hrest)

/-- No character of a class without these three stands first in what ends a piece. -/
theorem EndsPiece.foreign {rest : List Char} (h : EndsPiece rest) {p : Char → Bool}
    (hp : [' ', ')', ','].any p = false) : ∀ c ∈ rest.head?, p c = false :=
  fun c hc => Bool.eq_false_iff.mpr (List.any_eq_false.mp hp c (h c hc))

/-- A word without an opening bracket behind it is no function. -/
theorem readWord_of_ne {w : String} {rest : List Char} (h : rest.head? ≠ some '(') :
    readWord w rest = (.token (ofWord w), rest) := by
  unfold readWord
  split
  · exact absurd rfl h
  · rfl

/-! ## Signs -/

theorem leads_opening : Leads "(".toList [.opening .group] :=
  leads_of_readLexeme _ (by simp) fun _ => rfl

theorem leads_closing : Leads ")".toList [.closing] :=
  leads_of_readLexeme _ (by simp) fun _ => rfl

theorem leads_dot : Leads ".".toList [.token (.symbol .dot)] :=
  leads_of_readLexeme _ (by simp) fun _ => rfl

/-- A comma with a blank behind it is one piece. -/
theorem leads_comma : Leads ", ".toList [.token (.symbol .comma)] :=
  (leads_of_readLexeme [','] (by simp) fun _ => rfl).before_blank

/-- The sign of equality between blanks is one piece. -/
theorem leads_equals : Leads " = ".toList [.token (.symbol .equals)] :=
  (leads_of_readLexeme ['='] (by simp) fun _ => rfl).before_blank.behind_blank

/-- The sign of concatenation between blanks is one piece. -/
theorem leads_bars : Leads " || ".toList [.token (.symbol .bars)] :=
  (leads_of_readLexeme ['|', '|'] (by simp) fun _ => rfl).before_blank.behind_blank

/-! ## Words -/

/-- A text that is not empty and starts with a character of a class without blanks starts with no blank. -/
theorem head?_append_ne_blank {cs : List Char} {p : Char → Bool} (hne : cs ≠ []) (hstart : ∀ c ∈ cs.head?, p c = true)
    (hp : p ' ' = false) (rest : List Char) : (cs ++ rest).head? ≠ some ' ' := by
  obtain ⟨c, tail, rfl⟩ := List.exists_cons_of_ne_nil hne
  intro hblank
  have hc := hstart c rfl
  rw [Option.some.inj hblank, hp] at hc
  cases hc

/-- No word starts with a blank. -/
theorem IsWord.head?_ne_blank {w : List Char} (hw : IsWord w) (rest : List Char) : (w ++ rest).head? ≠ some ' ' :=
  head?_append_ne_blank hw.1 (fun c hc => hw.2.1 c (List.mem_of_mem_head? hc)) (by decide) rest

/-- A word that is followed by a blank, a comma or a closing bracket. -/
theorem spells_word {w : String} (hw : IsWord w.toList) : Spells w.toList [.token (ofWord w)] := by
  refine spells_of_readLexeme hw.head?_ne_blank fun rest hrest => ?_
  rw [readLexeme_word hw (hrest.foreign (by decide)), readWord_of_ne (hrest.ne (by decide)), String.ofList_toList]

/-- A word between blanks. -/
theorem leads_word {w text : String} (hw : IsWord w.toList) (htext : text = " " ++ w ++ " ") :
    Leads text.toList [.token (ofWord w)] := by
  intro rest
  have hends : EndsPiece (' ' :: rest) := fun c hc => Option.some.inj hc ▸ List.mem_cons_self
  have hchars : text.toList ++ rest = ' ' :: (w.toList ++ ' ' :: rest) := by
    simp [htext]
  rw [hchars, lex_blank, spells_word hw _ hends, lex_blank]

/-- The name of a function with its bracket. -/
theorem leads_function {w text : String} {b : Bracket} (hw : IsWord w.toList) (hb : functions.lookup w = some b)
    (htext : text = w ++ "(") : Leads text.toList [.opening b] := by
  have hchars : ∀ rest, text.toList ++ rest = w.toList ++ '(' :: rest := by
    intro rest
    simp [htext]
  have hbracket : ∀ {rest : List Char}, ∀ c ∈ ('(' :: rest).head?, isNameChar c = false := by
    intro rest c hc
    rw [← Option.some.inj hc]
    decide
  refine leads_of_readLexeme _ (fun rest => ?_) fun rest => ?_
  · rw [hchars]
    exact hw.head?_ne_blank _
  · rw [hchars, readLexeme_word hw hbracket, String.ofList_toList]
    simp only [readWord, hb]

/-! ## Constants -/

/-- A number that can be read is read as a constant. -/
theorem spells_number {cs : List Char} {v : Value} (h : readNumber cs = some v) : Spells cs [.token (.constant v)] := by
  obtain ⟨⟨c, hc, -⟩, hchars⟩ := readNumber_chars h
  have hne : cs ≠ [] := by
    rintro rfl
    cases hc
  have hblank := head?_append_ne_blank hne (fun c hc => hchars c (List.mem_of_mem_head? hc)) (by decide)
  exact spells_of_readLexeme hblank fun rest hrest => readLexeme_number h (hrest.foreign (by decide))

/-- A text is one piece, whatever stands in it. -/
theorem spells_text (s : String) : Spells (textConstant s).toList [.token (.constant (.text s))] := by
  have htext : ∀ rest, (textConstant s).toList ++ rest =
      '\'' :: (s.toList.flatMap (fun c => if c = '\'' then ['\'', '\''] else [c]) ++ '\'' :: rest) := by
    intro rest
    simp [textConstant, doubled, LikePattern.replaceChar]
  refine spells_of_readLexeme (fun rest => ?_) fun rest hrest => ?_
  · rw [htext]
    simp
  · rw [htext, readLexeme, readQuoted_doubled s.toList (hrest.ne (by decide)), Option.map_some]
    simp only [String.ofList_toList]

end Sql

/-- Whether a value is null, a truth value, a number or a text; a number with a fraction is in normal form. -/
def Value.IsScalar : Value → Prop
  | .list _ => False
  | .dict _ => False
  | .real x => x.IsNormal
  | _ => True

namespace Sql

/-- **A constant is one piece**: the constant itself. -/
theorem spells_constant {v : Value} (hv : v.IsScalar) : Spells (constant v).toList [.token (.constant v)] := by
  have hword : ∀ {w : String} {v : Value}, IsWord w.toList → ofWord w = .constant v →
      Spells w.toList [.token (.constant v)] := by
    intro w v hw hv
    exact hv ▸ spells_word hw
  cases v with
  | null => exact hword (by decide) rfl
  | bool b =>
    cases b with
    | true => exact hword (by decide) rfl
    | false => exact hword (by decide) rfl
  | int i => exact spells_number (readNumber_int i)
  | real x => exact spells_number (readNumber_real hv)
  | text s => exact spells_text s
  | list items => cases hv
  | dict entries => cases hv

/-! ## Names -/

/-- Whether a name can be told from what follows it: a name that is written as it is does not end in a line end. -/
def IsReadableName (s : String) : Prop := needsQuotes s.toList = false → dropLineEnd s.toList = s.toList

/-- A name without a line break at its end is written so that it can be read. -/
theorem isReadableName_of_getLast? {s : String} (h : s.toList.getLast? ≠ some '\n') : IsReadableName s :=
  fun _ => if_neg h

/-- A name that needs no quotation marks is no word of the language. -/
theorem ofWord_name {w : String} (h : needsQuotes w.toList = false) : ofWord w = .name w := by
  have hquoted : ∀ k ∈ keywords.map (·.1), needsQuotes k.toList = true := by decide
  have hlookup : keywords.lookup w = none := by
    rw [List.lookup_eq_none_iff]
    intro entry hentry
    have hkey := hquoted entry.1 (List.mem_map_of_mem hentry)
    rw [bne_iff_ne]
    rintro rfl
    rw [h] at hkey
    cases hkey
  rw [ofWord, hlookup, Option.getD_none]

/-- A name that is written as it is is a word that starts with no digit. -/
theorem isWord_of_bare {s : String} (hs : IsReadableName s) (h : needsQuotes s.toList = false) : IsWord s.toList := by
  have hline := hs h
  simp only [needsQuotes, Bool.or_eq_false_iff, Bool.not_eq_false', hline] at h
  obtain ⟨⟨⟨-, hstart⟩, hempty⟩, hall⟩ := h
  refine ⟨List.isEmpty_eq_false_iff.mp hempty, List.all_eq_true.mp hall, fun c hc => ?_⟩
  rw [Option.mem_def.mp hc, Option.any_some, Bool.or_eq_false_iff] at hstart
  exact hstart.1

/-- **A name is one piece**, with quotation marks or without. -/
theorem lex_identifier {s : String} (hs : IsReadableName s) {rest : List Char}
    (hrest : ∀ c ∈ rest.head?, c ∈ [' ', ')', ',', '.']) :
    lex ((identifier s).toList ++ rest) = (lex rest).map ([.token (.name s)] ++ ·) := by
  have hne : ∀ {d : Char}, d ∉ [' ', ')', ',', '.'] → rest.head? ≠ some d := fun hd h => hd (hrest _ h)
  cases hquotes : needsQuotes s.toList with
  | true =>
    have htext : (identifier s).toList ++ rest =
        '"' :: (s.toList.flatMap (fun c => if c = '"' then ['"', '"'] else [c]) ++ '"' :: rest) := by
      simp [identifier, hquotes]
    rw [htext]
    refine lex_of_readLexeme (by simp) ?_
    rw [readLexeme, readQuoted_doubled s.toList (hne (by decide)), Option.map_some]
    simp only [String.ofList_toList]
  | false =>
    have htext : identifier s = s := by simp [identifier, hquotes]
    have hword := isWord_of_bare hs hquotes
    have hstop : ∀ c ∈ rest.head?, isNameChar c = false := by
      intro c hc
      have hnone : [' ', ')', ',', '.'].any isNameChar = false := by decide
      exact Bool.eq_false_iff.mpr (List.any_eq_false.mp hnone c (hrest c hc))
    have hread := readLexeme_word hword hstop
    rw [String.ofList_toList, readWord_of_ne (hne (by decide)), ofWord_name hquotes] at hread
    rw [htext]
    exact lex_of_readLexeme (hword.head?_ne_blank rest) hread

/-- A column is the name of its table, a dot and its own name. -/
theorem spells_column {table name : String} (htable : IsReadableName table) (hname : IsReadableName name) :
    Spells (identifier table ++ "." ++ identifier name).toList
      [.token (.name table), .token (.symbol .dot), .token (.name name)] := by
  intro rest hrest
  have hrest' : ∀ c ∈ rest.head?, c ∈ [' ', ')', ',', '.'] := fun c hc => List.mem_append_left ['.'] (hrest c hc)
  have htext : (identifier table ++ "." ++ identifier name).toList ++ rest =
      (identifier table).toList ++ (".".toList ++ ((identifier name).toList ++ rest)) := by
    simp
  rw [htext, lex_identifier htable (by simp), leads_dot, lex_identifier hname hrest', map_append_map, map_append_map]
  rfl

end EntitySearch.Sql
