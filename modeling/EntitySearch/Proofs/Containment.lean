import Mathlib.Data.List.TakeWhile
import EntitySearch.Definition
import EntitySearch.Proofs.ClauseText
import EntitySearch.Proofs.Compilation
import EntitySearch.Proofs.LiteralPattern

/-!
# Texts that contain a query

What predicates are about: whether a text contains a query, up to the case of letters (`Backend.Contains`). The text of a
clause is what patterns are matched against (`Clause.text?`); an expression reads a text of the contents of a row
(`Expr.Reads`), and a predicate tests a property of them (`Expr.Tests`). The predicate that an expression contains a query
tests that the text the expression reads contains the query (`tests_containing`), whatever characters the query is made of.
-/

namespace EntitySearch

namespace Backend

/-- Whether a text contains a query up to the folding of case, as far as the backend sees the text; null contains nothing. -/
def Contains (b : Backend) (query : List Char) (text : Option String) : Prop :=
  ∃ s, text = some s ∧ query.map b.fold <:+: b.seen s.toList

/-- The characters that have no case and that searches rely on: the signs and the escape of patterns, and the space. -/
def uncased : List Char := ['%', '_', '\\', ' ']

/-- What is assumed of the patterns of a backend in which a query is searched for: the folding of case leaves the characters
without case alone and makes no other character one of them, and no character of the query ends a text early. -/
structure ReadsLiterally (b : Backend) (query : List Char) : Prop where
  fold_eq_iff : ∀ sign ∈ uncased, ∀ c, b.fold c = sign ↔ c = sign
  unbroken : b.endsAtNull = true → '\x00' ∉ query

/-- A text without a null character is read literally by any backend that reads some query so. -/
theorem ReadsLiterally.of_notMem {b : Backend} {query text : List Char} (h : b.ReadsLiterally query)
    (ht : '\x00' ∉ text) : b.ReadsLiterally text :=
  ⟨h.fold_eq_iff, fun _ => ht⟩

/-- The lower-case form of a letter of ASCII is no character without case. -/
theorem lowerAscii_eq_iff {sign : Char} (hs : sign ∈ uncased) (c : Char) : lowerAscii c = sign ↔ c = sign := by
  simp only [uncased, List.mem_cons, List.not_mem_nil, or_false] at hs
  constructor
  · intro h
    unfold lowerAscii Char.toLower at h
    split at h
    · rename_i hup
      have hlow : 65 ≤ c.val.toNat := UInt32.le_iff_toNat_le.mp hup.1
      have hhigh : c.val.toNat ≤ 90 := UInt32.le_iff_toNat_le.mp hup.2
      have hv : (c.val.toNat + 32) % 4294967296 = sign.val.toNat := congrArg (fun d : Char => d.val.toNat) h
      have hsign : sign.val.toNat ≤ 95 := by rcases hs with rfl | rfl | rfl | rfl <;> decide
      omega
    · exact h
  · rintro rfl
    rcases hs with rfl | rfl | rfl | rfl <;> decide

/-- A backend that folds the letters of ASCII reads every query without a null character literally. -/
theorem ascii_readsLiterally {query : List Char} (h : '\x00' ∉ query) : ascii.ReadsLiterally query :=
  ⟨fun _ hs c => lowerAscii_eq_iff hs c, fun _ => h⟩

end Backend

/-! ## Matching -/

namespace Backend

variable {b : Backend} {query : List Char}

/-- A null contains nothing. -/
theorem not_contains_none : ¬b.Contains query none := by
  rintro ⟨s, h, -⟩
  nomatch h

/-- A text contains a query when its folded form does. -/
theorem contains_some {s : String} : b.Contains query (some s) ↔ query.map b.fold <:+: b.seen s.toList := by
  simp [Contains]

/-- A text that does not end early is visible as a whole. -/
theorem visible_eq_self {cs : List Char} (h : b.endsAtNull = true → '\x00' ∉ cs) : b.visible cs = cs := by
  unfold visible
  split
  · rename_i hn
    rw [List.takeWhile_eq_self_iff]
    intro c hc
    rw [bne_iff_ne]
    rintro rfl
    exact h hn hc
  · rfl

/-- What is visible of a text is in it. -/
theorem mem_visible {cs : List Char} {c : Char} (h : c ∈ b.visible cs) : c ∈ cs := by
  unfold visible at h
  split at h
  · exact List.takeWhile_subset _ h
  · exact h

/-- A query that is read literally is seen whole, together with the signs of the pattern around it. -/
theorem ReadsLiterally.seen_containing (h : b.ReadsLiterally query) :
    b.seen (LikePattern.containing ['\\'] query) = LikePattern.containing ['\\'] (query.map b.fold) := by
  have hfold : ∀ sign ∈ ['%', '_', '\\'], ∀ c, b.fold c = sign ↔ c = sign := by
    intro sign hs
    exact h.fold_eq_iff sign (List.mem_append_left [' '] hs)
  have hvis : b.visible (LikePattern.containing ['\\'] query) = LikePattern.containing ['\\'] query := by
    refine visible_eq_self fun hn hc => ?_
    rcases LikePattern.mem_containing (by decide) (by decide) hc with hc | hc | hc
    · exact h.unbroken hn hc
    · exact absurd hc (by decide)
    · exact absurd hc (by decide)
  rw [seen, hvis, LikePattern.map_containing (by decide) (by decide) hfold]

end Backend

/-! ## Joined parts -/

namespace Clause

/-- The clauses with null read as the empty text, and the separator between neighbours. -/
def separated (separator : String) : List Clause → List Clause
  | [] => []
  | [c] => [.coalesce c ""]
  | c :: cs => .coalesce c "" :: .constant (.text separator) :: separated separator cs

/-- Joined parts compile to the chain of what the parts compile to, with the separators. -/
theorem ofExpr_join {catalog : Catalog} (separator : String) {parts : List Expr} {cs : List Clause}
    (h : List.Forall₂ (fun e c => ofExpr catalog e = .ok c) parts cs) :
    ofExpr catalog (Expr.join separator parts) = .ok (concatAll (separated separator cs)) := by
  have hseparated : ofExprs catalog (Expr.separated separator parts) = .ok (separated separator cs) := by
    induction h with
    | nil => rfl
    | @cons e c es cs hc hcs ih =>
      have hcoalesce : ofExpr catalog (.coalesce e "") = .ok (.coalesce c "") := bind_eq_ok.mpr ⟨c, hc, rfl⟩
      cases hcs with
      | nil => exact bind_eq_ok.mpr ⟨_, hcoalesce, rfl⟩
      | cons hd hds =>
        exact bind_eq_ok.mpr ⟨_, hcoalesce, bind_eq_ok.mpr ⟨_, bind_eq_ok.mpr ⟨_, rfl, bind_eq_ok.mpr ⟨_, ih, rfl⟩⟩, rfl⟩⟩
  cases h with
  | nil => rfl
  | cons hc hcs => exact bind_eq_ok.mpr ⟨_, hseparated, rfl⟩

/-- What joined parts are made of: parts with a fallback, and separators. -/
theorem mem_separated {separator : String} {cs : List Clause} {d : Clause} (h : d ∈ separated separator cs) :
    (∃ c ∈ cs, d = .coalesce c "") ∨ d = .constant (.text separator) := by
  fun_induction separated separator cs with
  | case1 => nomatch h
  | case2 c => exact .inl ⟨c, List.mem_cons_self, List.mem_singleton.mp h⟩
  | case3 c cs _ ih =>
    rcases List.mem_cons.mp h with rfl | h
    · exact .inl ⟨c, List.mem_cons_self, rfl⟩
    · rcases List.mem_cons.mp h with rfl | h
      · exact .inr rfl
      · exact (ih h).imp_left fun ⟨c, hc, hd⟩ => ⟨c, List.mem_cons_of_mem _ hc, hd⟩

/-- No part of a joined text is void. -/
theorem isVoid_of_mem_separated {separator : String} {cs : List Clause} :
    ∀ d ∈ separated separator cs, d.isVoid = false := by
  intro d hd
  obtain ⟨c, -, rfl⟩ | rfl := mem_separated hd <;> rfl

/-- The text of joined parts: their texts between separators, where a null part has the empty text. -/
theorem text?_joined {b : Backend} {cells : Contents} (separator : String) (cs : List Clause) :
    (concatAll (separated separator cs)).text? b cells =
      some (separator.intercalate (cs.map fun c => (c.text? b cells).getD "")) := by
  have hcoalesce : ∀ c : Clause, Sql.asText? ((coalesce c "").value b cells) = some ((c.text? b cells).getD "") := by
    intro c
    rw [← text?, text?_coalesce]
  have hseparator : Sql.asText? ((constant (.text separator)).value b cells) = some separator := text?_constant separator
  rw [text?_concatAll isVoid_of_mem_separated]
  fun_induction separated separator cs with
  | case1 => simp [Sql.concatTexts]
  | case2 c => simp [Sql.concatTexts_singleton, hcoalesce]
  | case3 c cs hne ih =>
    obtain ⟨d, ds, rfl⟩ := List.exists_cons_of_ne_nil hne
    rw [List.map_cons, List.map_cons, Sql.concatTexts, Sql.concatTexts, hcoalesce, hseparator, ih]
    simp [String.append_assoc]

end Clause

/-! ## What expressions read and predicates test -/

/-- A property of the contents of a row, as a backend sees them. -/
abbrev Property := Backend → Contents → Prop

namespace Expr

/-- The expression compiles, and the text of its clause is a function of the contents of a row. -/
def Reads (e : Expr) (f : Contents → Option String) : Prop :=
  ∃ c, Clause.ofExpr Catalog.ofSchema e = .ok c ∧ ∀ b cells, c.text? b cells = f cells

/-- The predicate compiles to a condition that holds something, and that lets through exactly the rows with a property in every
backend that reads the query literally. -/
def Tests (query : List Char) (e : Expr) (P : Property) : Prop :=
  ∃ c, Clause.ofExpr Catalog.ofSchema e = .ok c ∧ c.isVoid = false ∧
    ∀ b cells, b.ReadsLiterally query → (c.passes b cells = true ↔ P b cells)

/-- The catalog has the columns of each table. -/
theorem lookup_ofSchema (t : Table) : Catalog.ofSchema.lookup t.name = some t.columnNames := by
  cases t <;> rfl

/-- A column of the schema compiles to itself. -/
theorem ofExpr_column {t : Table} {name : String} (h : name ∈ t.columnNames) :
    Clause.ofExpr Catalog.ofSchema (column t.name name) = .ok (.column t.name name) := by
  rw [Clause.ofExpr, Clause.columnIn, lookup_ofSchema]
  simp [h]

/-- A column of the schema reads as its cell. -/
theorem reads_column {t : Table} {name : String} (h : name ∈ t.columnNames) :
    (column t.name name).Reads fun cells => cells t.name name :=
  ⟨_, ofExpr_column h, fun _ _ => Clause.text?_column _ _⟩

/-- An expression reads the same as text. -/
theorem reads_asText {e : Expr} {f : Contents → Option String} (h : e.Reads f) : (asText e).Reads f := by
  obtain ⟨c, hc, hf⟩ := h
  refine ⟨.cast c, bind_eq_ok.mpr ⟨c, hc, rfl⟩, fun b cells => ?_⟩
  rw [Clause.text?_cast, hf]

/-- Joined parts read as their texts between separators; a null part reads as the empty text. -/
theorem reads_join (separator : String) {parts : List Expr} {fs : List (Contents → Option String)}
    (h : List.Forall₂ Reads parts fs) :
    (join separator parts).Reads fun cells => some (separator.intercalate (fs.map fun f => (f cells).getD "")) := by
  obtain ⟨cs, hcs, hfs⟩ := exists_between h
  refine ⟨_, Clause.ofExpr_join separator hcs, fun b cells => ?_⟩
  have htexts : (cs.map fun c => (c.text? b cells).getD "") = fs.map fun f => (f cells).getD "" :=
    map_eq_map_of_forall₂ hfs fun c f hf => by rw [hf]
  rw [Clause.text?_joined, htexts]

/-- The predicate that an expression contains a text tests whether what the expression reads contains it. -/
theorem tests_containing {e : Expr} {f : Contents → Option String} (h : e.Reads f) {query text : List Char}
    (ht : ∀ b : Backend, b.ReadsLiterally query → b.ReadsLiterally text) :
    (e.containing (String.ofList text)).Tests query fun b cells => b.Contains text (f cells) := by
  obtain ⟨c, hc, hf⟩ := h
  refine ⟨_, bind_eq_ok.mpr ⟨c, hc, rfl⟩, rfl, fun b cells hb => ?_⟩
  have hescape : LikePattern.defaultEscape.toList = ['\\'] := by decide
  have hchar : Sql.escapeChar (some LikePattern.defaultEscape) = some '\\' := by decide
  rw [Clause.passes_eq_holds rfl rfl, Clause.holds_like]
  simp only [Clause.text?_inPlace, hf, String.toList_ofList, Backend.Contains, hescape, hchar,
    (ht b hb).seen_containing, LikePattern.isMatch_containing (show '\\' ≠ '%' by decide) (show '\\' ≠ '_' by decide)]

/-- A guarded predicate compiles to the guard and the condition of the predicate. -/
theorem ofExpr_guarded_iff {catalog : Catalog} {e p : Expr} {tenant : Option String} {c : Clause} :
    Clause.ofExpr catalog (guarded e tenant (some p)) = .ok c ↔
      ∃ x d, Clause.ofExpr catalog e = .ok x ∧ Clause.ofExpr catalog p = .ok d ∧
        c = Clause.chainAll .conjunction [.equals (x.inPlace .compared) (Value.ofText? tenant), d] := by
  rw [guarded, Option.getD_some, Clause.ofExpr, bind_eq_ok]
  constructor
  · rintro ⟨cs, hcs, hc⟩
    cases Clause.ofExprs_eq_ok.mp hcs with
    | cons hguard hrest =>
      cases hrest with
      | cons hd hnil =>
        cases hnil
        obtain ⟨x, hx, hguard⟩ := bind_eq_ok.mp hguard
        rw [← Except.ok.inj hguard] at hc
        exact ⟨x, _, hx, hd, (Except.ok.inj hc).symm⟩
  · rintro ⟨x, d, hx, hd, rfl⟩
    have hguard : Clause.ofExpr catalog (equals e (Value.ofText? tenant)) =
        .ok (.equals (x.inPlace .compared) (Value.ofText? tenant)) := bind_eq_ok.mpr ⟨x, hx, rfl⟩
    exact ⟨_, Clause.ofExprs_eq_ok.mpr (.cons hguard (.cons hd .nil)), rfl⟩

/-- What a condition behind a guard compiles to, for a column of the schema. -/
theorem ofExpr_guarded {t : Table} {name : String} (hn : name ∈ t.columnNames) {tenant : String} {p : Expr} {c : Clause} :
    Clause.ofExpr Catalog.ofSchema (guarded (column t.name name) (some tenant) (some p)) = .ok c ↔
      ∃ d, Clause.ofExpr Catalog.ofSchema p = .ok d ∧
        c = Clause.chainAll .conjunction [.equals (.column t.name name) (.text tenant), d] := by
  rw [ofExpr_guarded_iff, ofExpr_column hn]
  constructor
  · rintro ⟨x, d, hx, hd, hc⟩
    rw [← Except.ok.inj hx] at hc
    exact ⟨d, hd, hc⟩
  · rintro ⟨d, hd, hc⟩
    exact ⟨_, d, rfl, hd, hc⟩

/-- A guarded condition lets a row through when the guarding column holds the tenant and the condition lets the row through. -/
theorem passes_guarded {table name tenant : String} {c : Clause} {b : Backend} {cells : Contents} :
    (Clause.chainAll .conjunction [.equals (.column table name) (.text tenant), c]).passes b cells = true ↔
      cells table name = some tenant ∧ c.passes b cells = true := by
  rw [Clause.passes_conjunction, List.forall_mem_cons, List.forall_mem_singleton, Clause.passes_eq_holds rfl rfl,
    Clause.holds_equals_column]

/-- A guarded predicate tests that the guarding column holds the tenant and that the predicate's property holds. -/
theorem tests_guarded {t : Table} {name : String} (hn : name ∈ t.columnNames) (tenant : String) {query : List Char}
    {p : Expr} {P : Property} (h : p.Tests query P) :
    (guarded (column t.name name) (some tenant) (some p)).Tests query fun b cells =>
      cells t.name name = some tenant ∧ P b cells := by
  obtain ⟨c, hc, hv, hP⟩ := h
  refine ⟨_, (ofExpr_guarded hn).mpr ⟨c, hc, rfl⟩, ?_, fun b cells hb => ?_⟩
  · simp [Clause.chainAll, Clause.asCondition, Clause.inPlace, Clause.needsGroup, Clause.operands, Clause.isVoid,
      Clause.areVoid]
  · rw [passes_guarded, hP b cells hb]

/-- Predicates compile together, and one of their conditions lets a row through exactly when one of their properties holds. -/
theorem exists_clauses {query : List Char} {ps : List Expr} {Ps : List Property}
    (h : List.Forall₂ (Tests query) ps Ps) :
    ∃ cs, List.Forall₂ (fun p c => Clause.ofExpr Catalog.ofSchema p = .ok c) ps cs ∧ (∀ c ∈ cs, c.isVoid = false) ∧
      ∀ b cells, b.ReadsLiterally query → ((∃ c ∈ cs, c.passes b cells = true) ↔ ∃ P ∈ Ps, P b cells) := by
  induction h with
  | nil => exact ⟨[], .nil, by simp, by simp⟩
  | cons hp _ ih =>
    obtain ⟨c, hc, hv, hP⟩ := hp
    obtain ⟨cs, hcs, hvs, hPs⟩ := ih
    refine ⟨c :: cs, .cons hc hcs, List.forall_mem_cons.mpr ⟨hv, hvs⟩, fun b cells hb => ?_⟩
    rw [List.exists_mem_cons_iff, List.exists_mem_cons_iff, hP b cells hb, hPs b cells hb]

end Expr

end EntitySearch
