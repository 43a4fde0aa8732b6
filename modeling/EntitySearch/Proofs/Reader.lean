import EntitySearch.Expr
import EntitySearch.Proofs.Lexer

/-!
# Reading of conditions

A condition is read by the usual precedence of its operators: bars bind most tightly, then the comparisons, then `AND`, then
`OR`. Brackets are matched first (`nest`); what stands between two of them is then cut at its loosest operators and read from
the inside to the outside (`read`). Matching finds the brackets that were written (`nest_spellAll`), and a text without the
operator of a level is read at that level as it is one level below (`Reads.mono`).
-/

namespace EntitySearch.Sql

/-! ## Brackets -/

/-- A piece of a condition, with everything that stands in a bracket inside of it. -/
inductive Node where
  | token (t : Token)
  | bracket (b : Bracket) (inside : List Node)
  deriving Repr

/-- An open bracket with what stands in it so far, the last node first. -/
structure Frame where
  bracket : Bracket
  inside : List Node

/-- A frame with one more node. -/
def Frame.push (f : Frame) (n : Node) : Frame := ⟨f.bracket, n :: f.inside⟩

/-- The frames after one more piece, the innermost first. -/
def step : List Frame → Lexeme → Option (List Frame)
  | f :: fs, .token t => some (f.push (.token t) :: fs)
  | fs, .opening b => some (⟨b, []⟩ :: fs)
  | f :: g :: fs, .closing => some (g.push (.bracket f.bracket f.inside.reverse) :: fs)
  | _, _ => none

/-- The nodes of a text, if its brackets match. -/
def nest (ls : List Lexeme) : Option (List Node) :=
  match ls.foldlM step [⟨.group, []⟩] with
  | some [f] => some f.inside.reverse
  | _ => none

mutual

/-- The pieces of a node. -/
def Node.spell : Node → List Lexeme
  | .token t => [.token t]
  | .bracket b inside => .opening b :: spellAll inside ++ [.closing]

/-- The pieces of several nodes. -/
def spellAll : List Node → List Lexeme
  | [] => []
  | n :: ns => n.spell ++ spellAll ns

end

theorem spellAll_append (ns ms : List Node) : spellAll (ns ++ ms) = spellAll ns ++ spellAll ms := by
  induction ns with
  | nil => rfl
  | cons n ns ih => rw [List.cons_append, spellAll, spellAll, ih, List.append_assoc]

mutual

/-- The pieces of a node put the node into the innermost frame. -/
theorem foldlM_spell : ∀ (n : Node) (f : Frame) (fs : List Frame), n.spell.foldlM step (f :: fs) = some (f.push n :: fs)
  | .token t, f, fs => by
    rw [Node.spell]
    rfl
  | .bracket b inside, f, fs => by
    rw [Node.spell, List.cons_append, List.foldlM_cons]
    have hopen : step (f :: fs) (.opening b) = some (⟨b, []⟩ :: f :: fs) := rfl
    rw [hopen, Option.bind_eq_bind, Option.bind_some, List.foldlM_append, foldlM_spellAll inside]
    simp [step]

/-- The pieces of several nodes put the nodes into the innermost frame, one after the other. -/
theorem foldlM_spellAll : ∀ (ns : List Node) (f : Frame) (fs : List Frame),
    (spellAll ns).foldlM step (f :: fs) = some (⟨f.bracket, ns.reverse ++ f.inside⟩ :: fs)
  | [], f, fs => by
    rw [spellAll]
    rfl
  | n :: ns, f, fs => by
    rw [spellAll, List.foldlM_append, foldlM_spell n, Option.bind_eq_bind, Option.bind_some, foldlM_spellAll ns]
    simp [Frame.push]

end

/-- **The brackets of a text are found as they were written.** -/
theorem nest_spellAll (ns : List Node) : nest (spellAll ns) = some ns := by
  rw [nest, foldlM_spellAll]
  simp

/-! ## Operators -/

/-- A piece of a condition of which everything in brackets has been read. -/
inductive Item where
  | token (t : Token)
  | operand (e : Expr)

/-- Whether an item is a sign or word. -/
def Item.isSymbol (s : Symbol) : Item → Bool
  | .token (.symbol t) => t == s
  | _ => false

/-- Whether an item starts the right side of a comparison. -/
def Item.isComparison (i : Item) : Bool := i.isSymbol .ilike || i.isSymbol .equals || i.isSymbol .is

/-- The expressions between the occurrences of an operator. -/
def readChain (s : Symbol) (inner : List Item → Option Expr) (items : List Item) : Option (List Expr) :=
  (items.splitOnP (·.isSymbol s)).mapM inner

/-- Several expressions in one; a single one is itself. -/
def collapse (combine : List Expr → Expr) : List Expr → Expr
  | [e] => e
  | es => combine es

/-- An operand: a column, a constant, or what stood in brackets. -/
def readOperand : List Item → Option Expr
  | [.operand e] => some e
  | [.token (.constant v)] => some (.literal v)
  | [.token (.name t), .token (.symbol .dot), .token (.name n)] => some (.column t n)
  | _ => none

/-- Texts one after the other. -/
def readSum (items : List Item) : Option Expr := (readChain .bars readOperand items).map (collapse .concat)

/-- What the right side of a comparison makes of the left one. -/
def readRight : List Item → Option (Expr → Expr)
  | [] => some id
  | [.token (.symbol .ilike), .token (.constant (.text p))] => some (.matching · p none)
  | [.token (.symbol .ilike), .token (.constant (.text p)), .token (.symbol .escape), .token (.constant (.text x))] =>
    some (.matching · p (some x))
  | [.token (.symbol .is), .token (.constant .null)] => some (.equals · .null)
  | [.token (.symbol .equals), .token (.constant .null)] => none
  | [.token (.symbol .equals), .token (.constant v)] => some (.equals · v)
  | _ => none

/-- A comparison, or texts one after the other. -/
def readComparison (items : List Item) : Option Expr := do
  let e ← readSum (items.takeWhile fun i => !i.isComparison)
  let right ← readRight (items.dropWhile fun i => !i.isComparison)
  return right e

/-- Comparisons joined by `AND`. -/
def readConjunction (items : List Item) : Option Expr := (readChain .and readComparison items).map (collapse .allOf)

/-- A condition: conjunctions joined by `OR`. -/
def readDisjunction (items : List Item) : Option Expr := (readChain .or readConjunction items).map (collapse .anyOf)

/-- The expression that a bracket stands for. -/
def Bracket.close (b : Bracket) (items : List Item) : Option Expr :=
  match b with
  | .group => readDisjunction items
  | .coalesce =>
    match items.splitOnP (·.isSymbol .comma) with
    | [left, [.token (.constant (.text fallback))]] => (readDisjunction left).map (.coalesce · fallback)
    | _ => none
  | .cast =>
    match items.splitOnP (·.isSymbol .as) with
    | [left, [.token (.symbol .varchar)]] => (readDisjunction left).map .asText
    | _ => none

mutual

/-- A node with everything in brackets read. -/
def Node.item : Node → Option Item
  | .token t => some (.token t)
  | .bracket b inside => do return .operand (← b.close (← items inside))

/-- Several nodes with everything in brackets read. -/
def items : List Node → Option (List Item)
  | [] => some []
  | n :: ns => do return (← n.item) :: (← items ns)

end

/-- The expression that a text says. -/
def read (text : String) : Option Expr := do readDisjunction (← items (← nest (← lex text.toList)))

theorem items_append (ns ms : List Node) : items (ns ++ ms) = do return (← items ns) ++ (← items ms) := by
  induction ns with
  | nil => cases h : items ms <;> simp [items, h]
  | cons n ns ih =>
    rw [List.cons_append, items, items, ih]
    cases n.item <;> cases items ns <;> cases items ms <;> simp

/-- A text is read by its pieces, and these by their items. -/
theorem read_of_lex {text : String} {ns : List Node} {is : List Item} {e : Expr} (hlex : lex text.toList = some (spellAll ns))
    (hitems : items ns = some is) (he : readDisjunction is = some e) : read text = some e := by
  simp [read, hlex, nest_spellAll, hitems, he]

/-! ## Levels -/

/-- How loosely an operator binds. Signs that stand in the brackets of a function only count as the loosest. -/
def Symbol.rank : Symbol → ℕ
  | .dot => 0
  | .bars => 1
  | .equals | .ilike | .escape | .is => 2
  | .and => 3
  | .or => 4
  | .comma | .as | .varchar => 5

/-- How loosely an item binds: not at all unless it is an operator. -/
def Item.rank : Item → ℕ
  | .token (.symbol s) => s.rank
  | _ => 0

/-- An item of a lower rank is not the sign. -/
theorem Item.isSymbol_eq_false {i : Item} {s : Symbol} (h : i.rank < s.rank) : i.isSymbol s = false := by
  unfold isSymbol
  split
  · rename_i t
    rw [beq_eq_false_iff_ne]
    rintro rfl
    exact absurd h (Nat.lt_irrefl _)
  · rfl

/-- Items without the sign make up a single member. -/
theorem readChain_single {s : Symbol} {inner : List Item → Option Expr} {is : List Item} (h : ∀ i ∈ is, i.rank < s.rank) :
    readChain s inner is = (inner is).map ([·]) := by
  have hsplit : is.splitOnP (·.isSymbol s) = [is] :=
    List.splitOnP_eq_singleton fun i hi => Item.isSymbol_eq_false (h i hi)
  rw [readChain, hsplit, List.mapM_cons, List.mapM_nil]
  cases inner is <;> rfl

/-- What stands on both sides of an operator is read side by side. -/
theorem readChain_append {s : Symbol} {inner : List Item → Option Expr} {is js : List Item} {es fs : List Expr}
    (his : readChain s inner is = some es) (hjs : readChain s inner js = some fs) :
    readChain s inner (is ++ .token (.symbol s) :: js) = some (es ++ fs) := by
  have hs : Item.isSymbol s (.token (.symbol s)) = true := beq_self_eq_true s
  rw [readChain] at his hjs ⊢
  rw [List.splitOnP_append_cons is js hs, List.mapM_append, his, hjs]
  rfl

/-- The reading of a level. -/
def readAt : ℕ → List Item → Option Expr
  | 0 => readOperand
  | 1 => readSum
  | 2 => readComparison
  | 3 => readConjunction
  | _ => readDisjunction

/-- Whether items that bind no more loosely than a level are read as an expression there. -/
structure Reads (n : ℕ) (is : List Item) (e : Expr) : Prop where
  rank : ∀ i ∈ is, i.rank ≤ n
  reading : readAt n is = some e

/-- Several expressions are put together. -/
theorem collapse_eq {combine : List Expr → Expr} {es : List Expr} (h : 2 ≤ es.length) : collapse combine es = combine es := by
  match es, h with
  | _ :: _ :: _, _ => rfl

/-- Lists that are not empty make up a list that is at least as long as there are of them. -/
theorem length_le_length_flatMap {α β : Type} {f : α → List β} {xs : List α} (h : ∀ x ∈ xs, f x ≠ []) :
    xs.length ≤ (xs.flatMap f).length := by
  induction xs with
  | nil => exact Nat.zero_le _
  | cons x xs ih =>
    have hfirst := List.length_pos_of_ne_nil (h x List.mem_cons_self)
    have hrest := ih fun y hy => h y (List.mem_cons_of_mem x hy)
    rw [List.length_cons, List.flatMap_cons, List.length_append]
    omega

/-- What stands on both sides of a single operator. -/
theorem splitOnP_pair {s : Symbol} {is js : List Item} (his : ∀ i ∈ is, i.rank < s.rank)
    (hjs : ∀ i ∈ js, i.isSymbol s = false) :
    (is ++ .token (.symbol s) :: js).splitOnP (·.isSymbol s) = [is, js] := by
  have hs : Item.isSymbol s (.token (.symbol s)) = true := beq_self_eq_true s
  rw [List.splitOnP_append_cons is js hs, List.splitOnP_eq_singleton fun i hi => Item.isSymbol_eq_false (his i hi),
    List.splitOnP_eq_singleton hjs, List.singleton_append]

/-- Items without the sign read as what they read as inside. -/
theorem map_collapse_readChain {s : Symbol} {inner : List Item → Option Expr} {combine : List Expr → Expr} {is : List Item}
    (h : ∀ i ∈ is, i.rank < s.rank) : (readChain s inner is).map (collapse combine) = inner is := by
  rw [readChain_single h, Option.map_map]
  cases inner is <;> rfl

theorem Item.isComparison_eq_false {i : Item} (h : i.rank < 2) : i.isComparison = false := by
  rw [isComparison, isSymbol_eq_false (s := .ilike) h, isSymbol_eq_false (s := .equals) h, isSymbol_eq_false (s := .is) h]
  rfl

/-- A comparison is read from its two sides. -/
theorem readComparison_append {is : List Item} (js : List Item) {e : Expr} {right : Expr → Expr}
    (hrank : ∀ i ∈ is, i.rank < 2) (his : readSum is = some e) (hjs : ∀ i ∈ js.head?, i.isComparison = true)
    (hright : readRight js = some right) :
    readComparison (is ++ js) = some (right e) := by
  have hleft : ∀ i ∈ is, (!i.isComparison) = true := by
    intro i hi
    rw [Item.isComparison_eq_false (hrank i hi)]
    rfl
  obtain ⟨htake, hdrop⟩ := run_append js hleft fun i hi => by rw [hjs i hi]; rfl
  rw [readComparison, htake, hdrop, his, hright]
  rfl

/-- What is read at a level is read at the next. -/
theorem Reads.succ {n : ℕ} {is : List Item} {e : Expr} (h : Reads n is e) (hn : n < 4) : Reads (n + 1) is e := by
  refine ⟨fun i hi => Nat.le_succ_of_le (h.rank i hi), ?_⟩
  have hrank : ∀ i ∈ is, i.rank < n + 1 := fun i hi => Nat.lt_succ_of_le (h.rank i hi)
  match n, hn with
  | 0, _ => exact (map_collapse_readChain (s := .bars) hrank).trans h.reading
  | 1, _ =>
    have hcompared := readComparison_append [] hrank h.reading (by simp) rfl
    rwa [List.append_nil] at hcompared
  | 2, _ => exact (map_collapse_readChain (s := .and) hrank).trans h.reading
  | 3, _ => exact (map_collapse_readChain (s := .or) hrank).trans h.reading

/-- **What is read at a level is read alike at every looser one.** -/
theorem Reads.mono {n m : ℕ} {is : List Item} {e : Expr} (h : Reads n is e) (hle : n ≤ m) (hm : m ≤ 4) : Reads m is e := by
  induction m, hle using Nat.le_induction with
  | base => exact h
  | succ m hle ih => exact (ih (by omega)).succ (by omega)

end EntitySearch.Sql
