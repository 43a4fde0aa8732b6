import EntitySearch.Proofs.Reader

/-!
# Clauses that can be read back

A clause is legible (`Clause.Legible`) when its names and constants are, its chains have at least two members, and what
stands without parentheses binds more tightly than the operator it stands at. The text of a legible clause is cut into the
nodes that the clause was written with (`Legible.spells`), and these are read as the expression it says
(`Legible.read_toText`).
-/

namespace EntitySearch

open Sql (Bracket Item Lexeme Node Reads Spells Symbol Token readChain readOperand)

/-- The word between the operands of a chain, as a piece of a condition. -/
def Connective.symbol : Connective → Symbol
  | .conjunction => .and
  | .disjunction => .or

namespace Clause

/-- The level of the loosest operator of a clause that stands in no parentheses. -/
def level : Clause → ℕ
  | .concat _ => Symbol.bars.rank
  | .like .. => Symbol.ilike.rank
  | .equals .. => Symbol.equals.rank
  | .chain k _ => k.symbol.rank
  | .flag c => c.level
  | _ => 0

/-- Whether a clause is written so that it can be read back. -/
inductive Legible : Clause → Prop where
  | column {table name : String} (htable : Sql.IsReadableName table) (hname : Sql.IsReadableName name) :
      Legible (.column table name)
  | constant {v : Value} (hv : v.IsScalar) : Legible (.constant v)
  | coalesce {c : Clause} {fallback : String} (hc : Legible c) : Legible (.coalesce c fallback)
  | concat {cs : List Clause} (hlength : 2 ≤ cs.length) (hlevel : ∀ c ∈ cs, c.level ≤ Symbol.bars.rank)
      (hcs : ∀ c ∈ cs, Legible c) : Legible (.concat cs)
  | cast {c : Clause} (hc : Legible c) : Legible (.cast c)
  | like {c : Clause} {pattern : String} {escape : Option String} (hlevel : c.level ≤ Symbol.bars.rank) (hc : Legible c) :
      Legible (.like c pattern escape)
  | equals {c : Clause} {v : Value} (hlevel : c.level ≤ Symbol.bars.rank) (hv : v.IsScalar) (hc : Legible c) :
      Legible (.equals c v)
  | chain {k : Connective} {cs : List Clause} (hlength : 2 ≤ cs.length) (hlevel : ∀ c ∈ cs, c.level < k.symbol.rank)
      (hcs : ∀ c ∈ cs, Legible c) : Legible (.chain k cs)
  | flag {c : Clause} (hmark : c.asCondition = .flag c) (hc : Legible c) : Legible (.flag c)
  | group {c : Clause} (hc : Legible c) : Legible (.group c)

mutual

/-- The expression that a clause says. -/
def reading : Clause → Expr
  | .column table name => .column table name
  | .constant v => .literal v
  | .coalesce c fallback => .coalesce c.reading fallback
  | .concat cs => .concat (textReadings cs)
  | .cast c => .asText c.reading
  | .like c pattern escape => .matching c.reading pattern escape
  | .equals c v => .equals c.reading v
  | .chain .conjunction cs => .allOf (readings cs)
  | .chain .disjunction cs => .anyOf (readings cs)
  | .flag c => c.reading
  | .group c => c.reading

/-- The expressions that several clauses say. -/
def readings : List Clause → List Expr
  | [] => []
  | c :: cs => c.reading :: readings cs

/-- The expressions that several clauses contribute to a chain of texts: a chain among them contributes its parts. -/
def textReadings : List Clause → List Expr
  | [] => []
  | .concat ps :: cs => textReadings ps ++ textReadings cs
  | c :: cs => c.reading :: textReadings cs

end

/-- The right side of a comparison with a pattern. -/
def likeTokens (pattern : String) (escape : Option String) : List Token :=
  [.symbol .ilike, .constant (.text pattern)] ++
    match escape with
    | some e => [.symbol .escape, .constant (.text e)]
    | none => []

/-- The right side of an equation. -/
def equalsTokens : Value → List Token
  | .null => [.symbol .is, .constant .null]
  | v => [.symbol .equals, .constant v]

mutual

/-- The nodes that a clause is written with. -/
def nodes : Clause → List Node
  | .column table name => [.token (.name table), .token (.symbol .dot), .token (.name name)]
  | .constant v => [.token (.constant v)]
  | .coalesce c fallback => [.bracket .coalesce (c.nodes ++ [.token (.symbol .comma), .token (.constant (.text fallback))])]
  | .concat cs => nodesBetween .bars cs
  | .cast c => [.bracket .cast (c.nodes ++ [.token (.symbol .as), .token (.symbol .varchar)])]
  | .like c pattern escape => c.nodes ++ (likeTokens pattern escape).map .token
  | .equals c v => c.nodes ++ (equalsTokens v).map .token
  | .chain k cs => nodesBetween k.symbol cs
  | .flag c => c.nodes
  | .group c => [.bracket .group c.nodes]

/-- The nodes that a chain is written with. -/
def nodesBetween (s : Symbol) : List Clause → List Node
  | [] => []
  | [c] => c.nodes
  | c :: cs => c.nodes ++ .token (.symbol s) :: nodesBetween s cs

end

/-! ## The pieces of a text -/

theorem nodesBetween_cons {s : Symbol} {c : Clause} {cs : List Clause} (hne : cs ≠ []) :
    nodesBetween s (c :: cs) = c.nodes ++ .token (.symbol s) :: nodesBetween s cs := by
  cases cs with
  | nil => exact absurd rfl hne
  | cons d cs => rw [nodesBetween]; exact List.cons_ne_nil d cs

/-- Pieces without brackets are spelled as they are. -/
theorem spellAll_map_token (ts : List Token) : Sql.spellAll (ts.map .token) = ts.map .token := by
  induction ts with
  | nil => rw [List.map_nil, List.map_nil, Sql.spellAll]
  | cons t ts ih => rw [List.map_cons, List.map_cons, Sql.spellAll, Sql.Node.spell, ih, List.singleton_append]

/-- A clause that is spelled by some piece has a text. -/
theorem toText_ne_nil {c : Clause} (hnodes : c.nodes ≠ []) (h : Spells c.toText.toList (Sql.spellAll c.nodes)) :
    c.toText.toList ≠ [] := by
  intro hnil
  have hlex := h [] (by simp [Sql.EndsPiece])
  rw [hnil, List.nil_append, Sql.lex_nil, Option.map_some, List.append_nil] at hlex
  obtain ⟨n, ns, hcons⟩ := List.exists_cons_of_ne_nil hnodes
  rw [hcons, Sql.spellAll] at hlex
  cases n <;> simp [Sql.Node.spell] at hlex

/-- Several clauses have a sign between them. -/
theorem nodesBetween_ne_nil {s : Symbol} {cs : List Clause} (hlength : 2 ≤ cs.length) : nodesBetween s cs ≠ [] := by
  match cs, hlength with
  | c :: d :: cs, _ =>
    rw [nodesBetween_cons (List.cons_ne_nil d cs)]
    exact List.append_ne_nil_of_right_ne_nil _ (List.cons_ne_nil _ _)

/-- A legible clause has a piece. -/
theorem Legible.nodes_ne_nil {c : Clause} (h : c.Legible) : c.nodes ≠ [] := by
  induction h with
  | concat hlength _ _ _ => exact nodesBetween_ne_nil hlength
  | chain hlength _ _ _ => exact nodesBetween_ne_nil hlength
  | like _ _ ih => exact List.append_ne_nil_of_left_ne_nil ih _
  | equals _ _ _ ih => exact List.append_ne_nil_of_left_ne_nil ih _
  | flag _ _ ih => exact ih
  | _ => exact List.cons_ne_nil _ _

/-- When all texts are present, none is left out. -/
theorem joinPresent_eq {separator : String} {ts : List String} (h : ∀ t ∈ ts, t.toList ≠ []) :
    joinPresent separator ts = separator.intercalate ts := by
  have hpresent : ts.filter (fun t => !t.isEmpty) = ts := by
    rw [List.filter_eq_self]
    intro t ht
    simpa using h t ht
  rw [joinPresent, hpresent]

/-- The texts of clauses are those of each. -/
theorem mem_texts {cs : List Clause} {t : String} : t ∈ texts cs ↔ ∃ c ∈ cs, c.toText = t := by
  induction cs with
  | nil => simp [texts]
  | cons c cs ih => simp [texts, ih, eq_comm]

/-- The texts of clauses between separators are cut at the separators. -/
theorem spells_between {s : Symbol} {separator : String} (hseparator : Sql.Leads separator.toList [.token (.symbol s)])
    (hblank : separator.toList.head? = some ' ') {cs : List Clause} (hne : cs ≠ [])
    (h : ∀ c ∈ cs, Spells c.toText.toList (Sql.spellAll c.nodes)) :
    Spells (separator.intercalate (texts cs)).toList (Sql.spellAll (nodesBetween s cs)) := by
  induction cs with
  | nil => exact absurd rfl hne
  | cons c cs ih =>
    by_cases hcs : cs = []
    · subst hcs
      have htext : (separator.intercalate (texts [c])).toList = c.toText.toList := by
        simp [texts]
      rw [htext, nodesBetween]
      exact h c List.mem_cons_self
    · have htexts : (texts cs).map String.toList ≠ [] := by
        cases cs <;> simp_all [texts]
      have htext : (separator.intercalate (texts (c :: cs))).toList =
          c.toText.toList ++ (separator.toList ++ (separator.intercalate (texts cs)).toList) := by
        rw [String.toList_intercalate, String.toList_intercalate, texts, List.map_cons,
          List.intercalate_cons_of_ne_nil htexts, List.append_assoc]
      have hrest := ih hcs fun d hd => h d (List.mem_cons_of_mem c hd)
      rw [htext, nodesBetween_cons hcs, Sql.spellAll_append, Sql.spellAll, Sql.Node.spell]
      exact (h c List.mem_cons_self).append (hseparator.append hrest) (by rw [List.head?_append, hblank]; rfl) (by decide)

/-- Several texts are written with the sign of concatenation between them. -/
theorem toText_concat {cs : List Clause} (hlength : 2 ≤ cs.length) (hpresent : ∀ t ∈ texts cs, t.toList ≠ []) :
    (concat cs).toText = " || ".intercalate (texts cs) := by
  match cs, hlength with
  | [c, d], _ =>
    rw [toText, ← String.toList_inj, String.toList_intercalate]
    simp [texts, List.intercalate]
  | c :: d :: e :: cs, _ =>
    rw [toText, joinPresent_eq hpresent]
    simp

theorem leads_coalesce : Sql.Leads "coalesce(".toList [.opening .coalesce] :=
  Sql.leads_function (w := "coalesce") (by decide) rfl (by decide)

theorem leads_cast : Sql.Leads "CAST(".toList [.opening .cast] :=
  Sql.leads_function (w := "CAST") (by decide) rfl (by decide)

theorem leads_as : Sql.Leads " AS ".toList [.token (.symbol .as)] :=
  Sql.leads_word (w := "AS") (by decide) (by decide)

/-- The word of a connective between blanks is one piece. -/
theorem leads_connective (k : Connective) : Sql.Leads k.word.toList [.token (.symbol k.symbol)] := by
  cases k with
  | conjunction => exact Sql.leads_word (w := "AND") (by decide) (by decide)
  | disjunction => exact Sql.leads_word (w := "OR") (by decide) (by decide)

/-- The right side of a comparison with a pattern is cut into its tokens. -/
theorem spells_like (pattern : String) (escape : Option String) :
    Spells (" ILIKE " ++ Sql.textConstant pattern ++ (match escape with
      | some e => " ESCAPE " ++ Sql.textConstant e
      | none => "")).toList ((likeTokens pattern escape).map .token) := by
  have hilike : Sql.Leads " ILIKE ".toList [.token (.symbol .ilike)] := Sql.leads_word (w := "ILIKE") (by decide) (by decide)
  have hescape : Sql.Leads " ESCAPE ".toList [.token (.symbol .escape)] :=
    Sql.leads_word (w := "ESCAPE") (by decide) (by decide)
  rw [String.toList_append, String.toList_append, List.append_assoc]
  cases escape with
  | none =>
    have hempty : "".toList = [] := rfl
    rw [hempty, List.append_nil]
    exact hilike.append (Sql.spells_text pattern)
  | some e =>
    rw [String.toList_append]
    have hrest := hescape.append (Sql.spells_text e)
    exact hilike.append ((Sql.spells_text pattern).append hrest (c := ' ') (by simp) (by decide))

/-- The right side of an equation is cut into its tokens. -/
theorem spells_equals {v : Value} (hv : v.IsScalar) :
    Spells (match v with
      | .null => " IS NULL"
      | v => " = " ++ Sql.constant v).toList ((equalsTokens v).map .token) := by
  have his : Sql.Leads " IS ".toList [.token (.symbol .is)] := Sql.leads_word (w := "IS") (by decide) (by decide)
  have hconstant := Sql.spells_constant hv
  cases v with
  | null => exact his.append hconstant
  | list items => cases hv
  | dict entries => cases hv
  | _ =>
    rw [String.toList_append]
    exact Sql.leads_equals.append hconstant

/-- No text of a chain is left out when its members are cut into nodes. -/
theorem texts_present {cs : List Clause} (hcs : ∀ c ∈ cs, c.Legible)
    (h : ∀ c ∈ cs, Spells c.toText.toList (Sql.spellAll c.nodes)) : ∀ t ∈ texts cs, t.toList ≠ [] := by
  intro t ht
  obtain ⟨c, hc, rfl⟩ := mem_texts.mp ht
  exact toText_ne_nil (hcs c hc).nodes_ne_nil (h c hc)

/-- A bracket is cut into its pieces when what is in it is. -/
theorem spells_bracket {b : Bracket} {opening inside : String} {ns : List Node}
    (hopening : Sql.Leads opening.toList [.opening b]) (hinside : Spells inside.toList (Sql.spellAll ns)) :
    Spells (opening ++ inside ++ ")").toList (Sql.spellAll [.bracket b ns]) := by
  have hspells := hopening.append (hinside.append Sql.leads_closing.spells (c := ')') (by simp) (by decide))
  rw [String.toList_append, String.toList_append, List.append_assoc, Sql.spellAll, Sql.Node.spell]
  simpa [Sql.spellAll] using hspells

/-- How a text with a fallback is written. -/
theorem toText_coalesce {c : Clause} {fallback : String} (hpresent : c.toText.toList ≠ []) :
    (coalesce c fallback).toText = "coalesce(" ++ (c.toText ++ ", " ++ Sql.textConstant fallback) ++ ")" := by
  have htexts : ∀ t ∈ [c.toText, Sql.textConstant fallback], t.toList ≠ [] := by
    refine List.forall_mem_cons.mpr ⟨hpresent, List.forall_mem_singleton.mpr ?_⟩
    simp [Sql.textConstant]
  rw [toText, joinPresent_eq htexts, ← String.toList_inj]
  simp

/-- **The text of a legible clause is cut into the nodes that the clause was written with.** -/
theorem Legible.spells {c : Clause} (h : c.Legible) : Spells c.toText.toList (Sql.spellAll c.nodes) := by
  induction h with
  | column htable hname => exact Sql.spells_column htable hname
  | constant hv => exact Sql.spells_constant hv
  | @coalesce c fallback hc ih =>
    have hinside : Spells (c.toText ++ ", " ++ Sql.textConstant fallback).toList
        (Sql.spellAll (c.nodes ++ [.token (.symbol .comma), .token (.constant (.text fallback))])) := by
      rw [String.toList_append, String.toList_append, List.append_assoc, Sql.spellAll_append]
      exact ih.append (Sql.leads_comma.append (Sql.spells_text fallback)) (c := ',') (by simp) (by decide)
    rw [toText_coalesce (toText_ne_nil hc.nodes_ne_nil ih), nodes]
    exact spells_bracket leads_coalesce hinside
  | concat hlength _ hcs ih =>
    rw [toText_concat hlength (texts_present hcs ih), nodes]
    exact spells_between Sql.leads_bars rfl (List.ne_nil_of_length_pos (by omega)) ih
  | @cast c hc ih =>
    have hinside : Spells (c.toText ++ " AS " ++ "VARCHAR").toList
        (Sql.spellAll (c.nodes ++ [.token (.symbol .as), .token (.symbol .varchar)])) := by
      rw [String.toList_append, String.toList_append, List.append_assoc, Sql.spellAll_append]
      exact ih.append (leads_as.append (Sql.spells_word (by decide))) (c := ' ') (by simp) (by decide)
    have htext : (Clause.cast c).toText = "CAST(" ++ (c.toText ++ " AS " ++ "VARCHAR") ++ ")" := by
      rw [toText, ← String.toList_inj]
      simp
    rw [htext, nodes]
    exact spells_bracket leads_cast hinside
  | @like c pattern escape _ hc ih =>
    have hspells := ih.append (spells_like pattern escape) (c := ' ') (by simp) (by decide)
    rw [nodes, Sql.spellAll_append, spellAll_map_token]
    cases escape <;> simpa [toText] using hspells
  | @equals c v _ hv hc ih =>
    have hspells := ih.append (spells_equals hv) (c := ' ') (by cases v <;> simp) (by decide)
    rw [nodes, Sql.spellAll_append, spellAll_map_token]
    cases v <;> simpa [toText] using hspells
  | @chain k cs hlength _ hcs ih =>
    rw [toText, joinPresent_eq (texts_present hcs ih), nodes]
    exact spells_between (leads_connective k) (by cases k <;> rfl) (List.ne_nil_of_length_pos (by omega)) ih
  | flag _ hc ih =>
    rw [toText, nodes]
    exact ih
  | group hc ih =>
    rw [toText, nodes]
    exact spells_bracket Sql.leads_opening ih

/-! ## The reading of a text -/

/-- Pieces without brackets are items as they are. -/
theorem items_map_token (ts : List Token) : Sql.items (ts.map .token) = some (ts.map .token) := by
  induction ts with
  | nil => rw [List.map_nil, List.map_nil, Sql.items]
  | cons t ts ih =>
    rw [List.map_cons, List.map_cons, Sql.items, Sql.Node.item, ih]
    rfl

/-- The readings of clauses as texts are those of the first and of the rest. -/
theorem textReadings_cons (c : Clause) (cs : List Clause) : textReadings (c :: cs) = textReadings [c] ++ textReadings cs := by
  cases c <;> simp [textReadings]

theorem textReadings_eq_flatMap (cs : List Clause) : textReadings cs = cs.flatMap fun c => textReadings [c] := by
  induction cs with
  | nil => rw [textReadings, List.flatMap_nil]
  | cons c cs ih => rw [textReadings_cons, ih, List.flatMap_cons]

/-- Several clauses that read as texts read as several texts. -/
theorem two_le_length_textReadings {cs : List Clause} (hlength : 2 ≤ cs.length) (h : ∀ c ∈ cs, textReadings [c] ≠ []) :
    2 ≤ (textReadings cs).length := by
  rw [textReadings_eq_flatMap]
  exact hlength.trans (Sql.length_le_length_flatMap h)

/-- A legible clause reads as some text. -/
theorem Legible.textReadings_ne_nil {c : Clause} (h : c.Legible) : textReadings [c] ≠ [] := by
  induction h with
  | concat hlength _ _ ih =>
    have htwo := two_le_length_textReadings hlength ih
    rw [textReadings, textReadings, List.append_nil]
    exact List.ne_nil_of_length_pos (by omega)
  | _ => simp [textReadings]

theorem readings_eq_map (cs : List Clause) : readings cs = cs.map reading := by
  induction cs with
  | nil => rw [readings, List.map_nil]
  | cons c cs ih => rw [readings, ih, List.map_cons]

/-- Several clauses have several readings. -/
theorem two_le_length_readings {cs : List Clause} (hlength : 2 ≤ cs.length) : 2 ≤ (readings cs).length := by
  rw [readings_eq_map, List.length_map]
  exact hlength

/-- Whether items are read as what a clause says, also where the clause is a part of a chain of texts. -/
structure ReadsBack (c : Clause) (is : List Item) : Prop where
  reads : Reads c.level is c.reading
  texts : c.level ≤ Symbol.bars.rank → readChain .bars readOperand is = some (textReadings [c])

/-- Items that are read as an operand. -/
theorem ReadsBack.of_operand {c : Clause} {is : List Item} (hlevel : c.level = 0) (hreads : Reads 0 is c.reading)
    (htexts : textReadings [c] = [c.reading]) : c.ReadsBack is := by
  refine ⟨hlevel ▸ hreads, fun _ => ?_⟩
  have hrank : ∀ i ∈ is, i.rank < Symbol.bars.rank := fun i hi => Nat.lt_succ_of_le (hreads.rank i hi)
  have hreading : readOperand is = some c.reading := hreads.reading
  rw [Sql.readChain_single hrank, hreading, htexts, Option.map_some]

/-- A bracket is read as what is in it. -/
theorem exists_readsBack_bracket {c : Clause} {b : Bracket} {inside : List Node} {is : List Item} (hlevel : c.level = 0)
    (hnodes : c.nodes = [.bracket b inside]) (hinside : Sql.items inside = some is) (hclose : b.close is = some c.reading)
    (htexts : textReadings [c] = [c.reading]) : ∃ is, Sql.items c.nodes = some is ∧ c.ReadsBack is := by
  refine ⟨[.operand c.reading], ?_, .of_operand hlevel ⟨?_, rfl⟩ htexts⟩
  · rw [hnodes, Sql.items, Sql.Node.item, hinside, Sql.items]
    simp [hclose]
  · intro i hi
    rw [List.mem_singleton.mp hi]
    exact Nat.le_refl 0

/-- The members of a chain are read side by side. -/
theorem exists_items_between {s : Symbol} {inner : List Item → Option Expr} {f : Clause → List Expr} {cs : List Clause}
    (hne : cs ≠ []) (h : ∀ c ∈ cs, ∃ is, Sql.items c.nodes = some is ∧ (∀ i ∈ is, i.rank ≤ s.rank) ∧
      readChain s inner is = some (f c)) :
    ∃ is, Sql.items (nodesBetween s cs) = some is ∧ (∀ i ∈ is, i.rank ≤ s.rank) ∧
      readChain s inner is = some (cs.flatMap f) := by
  induction cs with
  | nil => exact absurd rfl hne
  | cons c cs ih =>
    obtain ⟨is, hitems, hrank, hread⟩ := h c List.mem_cons_self
    by_cases hcs : cs = []
    · subst hcs
      refine ⟨is, ?_, hrank, ?_⟩
      · rw [nodesBetween, hitems]
      · rw [List.flatMap_singleton, hread]
    · obtain ⟨js, hitems', hrank', hread'⟩ := ih hcs fun d hd => h d (List.mem_cons_of_mem c hd)
      refine ⟨is ++ .token (.symbol s) :: js, ?_, ?_, ?_⟩
      · rw [nodesBetween_cons hcs, Sql.items_append, hitems, Sql.items, Sql.Node.item, hitems']
        rfl
      · exact List.forall_mem_append.mpr ⟨hrank, List.forall_mem_cons.mpr ⟨Nat.le_refl _, hrank'⟩⟩
      · rw [List.flatMap_cons]
        exact Sql.readChain_append hread hread'

theorem level_le (c : Clause) : c.level ≤ 4 := by
  fun_induction level c with
  | case5 c ih => exact ih
  | case4 k cs => cases k <;> decide
  | _ => decide

/-- Items that read back read as a condition. -/
theorem ReadsBack.disjunction {c : Clause} {is : List Item} (h : c.ReadsBack is) : Sql.readDisjunction is = some c.reading :=
  (h.reads.mono (level_le c) (Nat.le_refl 4)).reading

theorem ReadsBack.rank_lt {c : Clause} {is : List Item} (h : c.ReadsBack is) : ∀ i ∈ is, i.rank < 5 :=
  fun i hi => Nat.lt_succ_of_le ((h.reads.rank i hi).trans (level_le c))

/-- Only a constant or a default is marked as a truth value. -/
theorem mark_cases {c : Clause} (h : c.asCondition = .flag c) :
    (∃ v, c = .constant v) ∨ ∃ d fallback, c = .coalesce d fallback := by
  cases c with
  | constant v => exact .inl ⟨v, rfl⟩
  | coalesce d fallback => exact .inr ⟨d, fallback, rfl⟩
  | flag c =>
    have hsize := congrArg sizeOf (Clause.flag.inj h)
    simp at hsize
  | _ => exact absurd h (by simp [asCondition])

/-- A clause that is marked as a condition has the lowest level. -/
theorem level_of_mark {c : Clause} (h : c.asCondition = .flag c) : c.level = 0 := by
  rcases mark_cases h with ⟨v, rfl⟩ | ⟨d, fallback, rfl⟩ <;> rfl

/-- The members of a chain of texts, and what the chain says. -/
theorem exists_readsBack_concat {cs : List Clause} (hlength : 2 ≤ cs.length) (hlevel : ∀ c ∈ cs, c.level ≤ Symbol.bars.rank)
    (hcs : ∀ c ∈ cs, c.Legible) (h : ∀ c ∈ cs, ∃ is, Sql.items c.nodes = some is ∧ c.ReadsBack is) :
    ∃ is, Sql.items (concat cs).nodes = some is ∧ (concat cs).ReadsBack is := by
  have hmembers : ∀ c ∈ cs, ∃ is, Sql.items c.nodes = some is ∧ (∀ i ∈ is, i.rank ≤ Symbol.bars.rank) ∧
      readChain .bars readOperand is = some (textReadings [c]) := by
    intro c hc
    obtain ⟨is, hitems, hback⟩ := h c hc
    exact ⟨is, hitems, fun i hi => (hback.reads.rank i hi).trans (hlevel c hc), hback.texts (hlevel c hc)⟩
  obtain ⟨is, hitems, hrank, hread⟩ := exists_items_between (List.ne_nil_of_length_pos (by omega)) hmembers
  rw [← textReadings_eq_flatMap] at hread
  have htwo := two_le_length_textReadings hlength fun c hc => (hcs c hc).textReadings_ne_nil
  refine ⟨is, by rw [nodes, hitems], ⟨hrank, ?_⟩, fun _ => ?_⟩
  · have hsum : Sql.readSum is = some (.concat (textReadings cs)) := by
      rw [Sql.readSum, hread, Option.map_some, Sql.collapse_eq htwo]
    rw [reading]
    exact hsum
  · rw [textReadings, textReadings, List.append_nil]
    exact hread

/-- The members of a chain of conditions, and what the chain says. -/
theorem exists_readsBack_chain {k : Connective} {cs : List Clause} (hlength : 2 ≤ cs.length)
    (hlevel : ∀ c ∈ cs, c.level < k.symbol.rank) (h : ∀ c ∈ cs, ∃ is, Sql.items c.nodes = some is ∧ c.ReadsBack is) :
    ∃ is, Sql.items (chain k cs).nodes = some is ∧ (chain k cs).ReadsBack is := by
  have hmembers : ∀ c ∈ cs, ∃ is, Sql.items c.nodes = some is ∧ (∀ i ∈ is, i.rank ≤ k.symbol.rank) ∧
      readChain k.symbol (Sql.readAt (k.symbol.rank - 1)) is = some [c.reading] := by
    intro c hc
    obtain ⟨is, hitems, hback⟩ := h c hc
    have hrank : ∀ i ∈ is, i.rank < k.symbol.rank := fun i hi => (hback.reads.rank i hi).trans_lt (hlevel c hc)
    -- A member binds more tightly than the operator, so that it is read alike one level below it.
    have hinner := hback.reads.mono (Nat.le_sub_one_of_lt (hlevel c hc)) (by cases k <;> decide)
    refine ⟨is, hitems, fun i hi => (hrank i hi).le, ?_⟩
    rw [Sql.readChain_single hrank, hinner.reading, Option.map_some]
  obtain ⟨is, hitems, hrank, hread⟩ := exists_items_between (List.ne_nil_of_length_pos (by omega)) hmembers
  have hreadings : cs.flatMap (fun c => [c.reading]) = readings cs := by
    rw [readings_eq_map, List.map_eq_flatMap]
  have htwo := two_le_length_readings hlength
  rw [hreadings] at hread
  refine ⟨is, by rw [nodes, hitems], ⟨hrank, ?_⟩, fun hle => absurd hle (by rw [level]; cases k <;> decide)⟩
  cases k with
  | conjunction =>
    have hconjunction : Sql.readConjunction is = some (.allOf (readings cs)) := by
      rw [Sql.readConjunction]
      exact (congrArg _ hread).trans (congrArg some (Sql.collapse_eq htwo))
    rw [reading]
    exact hconjunction
  | disjunction =>
    have hdisjunction : Sql.readDisjunction is = some (.anyOf (readings cs)) := by
      rw [Sql.readDisjunction]
      exact (congrArg _ hread).trans (congrArg some (Sql.collapse_eq htwo))
    rw [reading]
    exact hdisjunction

/-- A comparison is read from its two sides. -/
theorem exists_readsBack_compared {c d : Clause} {right : List Token} {f : Expr → Expr} (hlevel : c.level ≤ Symbol.bars.rank)
    (hc : ∃ is, Sql.items c.nodes = some is ∧ c.ReadsBack is) (hnodes : d.nodes = c.nodes ++ right.map .token)
    (hd : d.level = 2) (hreading : d.reading = f c.reading) (hright : Sql.readRight (right.map .token) = some f)
    (hstart : ∀ i ∈ (right.map Item.token).head?, i.isComparison = true) (hrank : ∀ t ∈ right, (Item.token t).rank ≤ 2) :
    ∃ is, Sql.items d.nodes = some is ∧ d.ReadsBack is := by
  obtain ⟨is, hitems, hback⟩ := hc
  have hleft : ∀ i ∈ is, i.rank < 2 := fun i hi => Nat.lt_succ_of_le ((hback.reads.rank i hi).trans hlevel)
  have hsum := hback.reads.mono (m := 1) hlevel (by decide)
  refine ⟨is ++ right.map .token, ?_, ⟨?_, ?_⟩, fun hle => ?_⟩
  · rw [hnodes, Sql.items_append, hitems, items_map_token]
    rfl
  · rw [hd, List.forall_mem_append, List.forall_mem_map]
    exact ⟨fun i hi => (hleft i hi).le, hrank⟩
  · rw [hd, hreading]
    exact Sql.readComparison_append _ hleft hsum.reading hstart hright
  · rw [hd] at hle
    exact absurd hle (by decide)

/-- A bracket is read as the clause in it and the token behind that. -/
theorem exists_readsBack_pair {c d : Clause} {b : Bracket} {s : Symbol} {t : Token} (hlevel : d.level = 0)
    (hc : ∃ is, Sql.items c.nodes = some is ∧ c.ReadsBack is)
    (hnodes : d.nodes = [.bracket b (c.nodes ++ [.token (.symbol s), .token t])])
    (hclose : ∀ is : List Item, (∀ i ∈ is, i.rank < 5) → Sql.readDisjunction is = some c.reading →
      b.close (is ++ .token (.symbol s) :: [.token t]) = some d.reading)
    (htexts : textReadings [d] = [d.reading]) : ∃ is, Sql.items d.nodes = some is ∧ d.ReadsBack is := by
  obtain ⟨is, hitems, hback⟩ := hc
  refine exists_readsBack_bracket hlevel hnodes ?_ (hclose is hback.rank_lt hback.disjunction) htexts
  rw [Sql.items_append, hitems]
  rfl

/-- **A legible clause is read back from its nodes.** -/
theorem Legible.readsBack {c : Clause} (h : c.Legible) : ∃ is, Sql.items c.nodes = some is ∧ c.ReadsBack is := by
  induction h with
  | @column table name _ _ =>
    refine ⟨_, items_map_token [.name table, .symbol .dot, .name name], .of_operand rfl ⟨?_, rfl⟩ ?_⟩
    · simp [Item.rank, Symbol.rank]
    · simp [textReadings]
  | @constant v _ =>
    refine ⟨_, items_map_token [.constant v], .of_operand rfl ⟨?_, rfl⟩ ?_⟩
    · simp [Item.rank]
    · simp [textReadings]
  | coalesce hc ih =>
    refine exists_readsBack_pair rfl ih (by rw [nodes]) (fun is hrank hread => ?_) (by simp [textReadings])
    rw [Sql.Bracket.close, Sql.splitOnP_pair hrank (by simp [Item.isSymbol]), reading]
    simp only [hread, Option.map_some]
  | concat hlength hlevel hcs ih => exact exists_readsBack_concat hlength hlevel hcs ih
  | cast hc ih =>
    refine exists_readsBack_pair rfl ih (by rw [nodes]) (fun is hrank hread => ?_) (by simp [textReadings])
    rw [Sql.Bracket.close, Sql.splitOnP_pair hrank (by simp [Item.isSymbol]), reading]
    simp only [hread, Option.map_some]
  | @like c pattern escape hlevel hc ih =>
    refine exists_readsBack_compared (f := (.matching · pattern escape)) hlevel ih (by rw [nodes]) rfl (by rw [reading])
      ?_ ?_ ?_
    · cases escape <;> rfl
    · simp [likeTokens, Item.isComparison, Item.isSymbol]
    · cases escape <;> simp [likeTokens, Item.rank, Symbol.rank]
  | @equals c v hlevel hv hc ih =>
    refine exists_readsBack_compared (f := (.equals · v)) hlevel ih (by rw [nodes]) rfl (by rw [reading]) ?_ ?_ ?_
    · cases v <;> rfl
    · cases v <;> simp [equalsTokens, Item.isComparison, Item.isSymbol]
    · cases v <;> simp [equalsTokens, Item.rank, Symbol.rank]
  | chain hlength hlevel _ ih => exact exists_readsBack_chain hlength hlevel ih
  | @flag c hmark hc ih =>
    obtain ⟨is, hitems, hback⟩ := ih
    have hlevel := level_of_mark hmark
    have hreads : Reads 0 is c.reading := hlevel ▸ hback.reads
    refine ⟨is, by rw [nodes, hitems], .of_operand hlevel ?_ (by simp [textReadings])⟩
    rw [reading]
    exact hreads
  | @group c hc ih =>
    obtain ⟨is, hitems, hback⟩ := ih
    refine exists_readsBack_bracket rfl (by rw [nodes]) hitems ?_ (by simp [textReadings])
    rw [Sql.Bracket.close, reading]
    exact hback.disjunction

/-- **The text of a legible clause is read as what the clause says.** -/
theorem Legible.read_toText {c : Clause} (h : c.Legible) : Sql.read c.toText = some c.reading := by
  obtain ⟨is, hitems, hback⟩ := h.readsBack
  have hlex := h.spells [] (by simp [Sql.EndsPiece])
  rw [List.append_nil, Sql.lex_nil, Option.map_some, List.append_nil] at hlex
  exact Sql.read_of_lex hlex hitems hback.disjunction

end Clause

end EntitySearch
