import EntitySearch.Proofs.Reader

/-!
# Expressions up to nesting

Chains of texts and of conditions of one kind say the same however they are nested. The canonical form of an expression
(`Expr.canonical`) has them flat, puts a single operand in the place of its chain, and the empty text in the place of a chain
of no texts. It holds the same strings in the same order (`Expr.strings_canonical`), and its shape depends only on the shape
of the expression (`Expr.shape_canonical`): strings are carried along and never looked at.
-/

namespace EntitySearch

/-- The chain of several conditions. -/
def Connective.join : Connective → List Expr → Expr
  | .conjunction => .allOf
  | .disjunction => .anyOf

namespace Expr

/-- The expressions that an expression contributes to a chain of texts. -/
def texts : Expr → List Expr
  | .concat es => es
  | e => [e]

/-- The expressions that an expression contributes to a chain of conditions. -/
def operands : Connective → Expr → List Expr
  | .conjunction, .allOf es => es
  | .disjunction, .anyOf es => es
  | _, e => [e]

mutual

/-- An expression with its chains flat and without chains of fewer than two members. -/
def canonical : Expr → Expr
  | .column table name => .column table name
  | .literal v => .literal v
  | .coalesce e fallback => .coalesce e.canonical fallback
  | .concat [] => .literal (.text "")
  | .concat es => Sql.collapse .concat ((canonicals es).flatMap texts)
  | .asText e => .asText e.canonical
  | .matching e pattern escape => .matching e.canonical pattern escape
  | .equals e v => .equals e.canonical v
  | .allOf es => Sql.collapse .allOf ((canonicals es).flatMap (operands .conjunction))
  | .anyOf es => Sql.collapse .anyOf ((canonicals es).flatMap (operands .disjunction))
  | .foreign v => .foreign v

/-- Several expressions in canonical form. -/
def canonicals : List Expr → List Expr
  | [] => []
  | e :: es => e.canonical :: canonicals es

end

/-- The string that a value is. -/
def valueStrings : Value → List String
  | .text s => [s]
  | _ => []

mutual

/-- The strings of an expression, from left to right: constants, defaults, patterns and escapes. A chain of no texts counts
as the empty one. -/
def strings : Expr → List String
  | .column .. => []
  | .literal v => valueStrings v
  | .coalesce e fallback => e.strings ++ [fallback]
  | .concat [] => [""]
  | .concat es => stringsOf es
  | .asText e => e.strings
  | .matching e pattern escape => e.strings ++ pattern :: escape.toList
  | .equals e v => e.strings ++ valueStrings v
  | .allOf es => stringsOf es
  | .anyOf es => stringsOf es
  | .foreign v => valueStrings v

/-- The strings of several expressions. -/
def stringsOf : List Expr → List String
  | [] => []
  | e :: es => e.strings ++ stringsOf es

end

/-- A value with the string it may be left out. -/
def valueShape : Value → Value
  | .text _ => .text ""
  | v => v

mutual

/-- An expression with its strings left out. -/
def shape : Expr → Expr
  | .column table name => .column table name
  | .literal v => .literal (valueShape v)
  | .coalesce e _ => .coalesce e.shape ""
  | .concat es => .concat (shapes es)
  | .asText e => .asText e.shape
  | .matching e _ escape => .matching e.shape "" (escape.map fun _ => "")
  | .equals e v => .equals e.shape (valueShape v)
  | .allOf es => .allOf (shapes es)
  | .anyOf es => .anyOf (shapes es)
  | .foreign v => .foreign (valueShape v)

/-- Several expressions with their strings left out. -/
def shapes : List Expr → List Expr
  | [] => []
  | e :: es => e.shape :: shapes es

end

/-! ## Lists -/

theorem canonicals_eq_map (es : List Expr) : canonicals es = es.map canonical := by
  induction es with
  | nil => rw [canonicals, List.map_nil]
  | cons e es ih => rw [canonicals, ih, List.map_cons]

theorem shapes_eq_map (es : List Expr) : shapes es = es.map shape := by
  induction es with
  | nil => rw [shapes, List.map_nil]
  | cons e es ih => rw [shapes, ih, List.map_cons]

theorem stringsOf_eq_flatMap (es : List Expr) : stringsOf es = es.flatMap strings := by
  induction es with
  | nil => rw [stringsOf, List.flatMap_nil]
  | cons e es ih => rw [stringsOf, ih, List.flatMap_cons]

/-- The canonical form of a chain of texts: the texts of its members' canonical forms, in one chain. -/
theorem canonical_concat {es : List Expr} (hne : es ≠ []) :
    (concat es).canonical = Sql.collapse .concat ((es.map canonical).flatMap texts) := by
  rw [canonical, canonicals_eq_map]
  exact hne

/-- The canonical form of a chain of conditions: the operands of its members' canonical forms, in one chain. -/
theorem canonical_join (k : Connective) (es : List Expr) :
    (k.join es).canonical = Sql.collapse k.join ((es.map canonical).flatMap (operands k)) := by
  cases k <;> simp only [Connective.join, canonical, canonicals_eq_map]

/-! ## The canonical form -/

/-- Whether an expression has only flat chains, none of them of fewer than two members but a chain of no conditions. -/
inductive IsCanonical : Expr → Prop where
  | column {table name : String} : IsCanonical (.column table name)
  | literal {v : Value} : IsCanonical (.literal v)
  | coalesce {e : Expr} {fallback : String} (he : IsCanonical e) : IsCanonical (.coalesce e fallback)
  | concat {es : List Expr} (hlength : 2 ≤ es.length) (hes : ∀ e ∈ es, IsCanonical e) (hflat : ∀ e ∈ es, e.texts = [e]) :
      IsCanonical (.concat es)
  | asText {e : Expr} (he : IsCanonical e) : IsCanonical (.asText e)
  | matching {e : Expr} {pattern : String} {escape : Option String} (he : IsCanonical e) :
      IsCanonical (.matching e pattern escape)
  | equals {e : Expr} {v : Value} (he : IsCanonical e) : IsCanonical (.equals e v)
  | allOf {es : List Expr} (hlength : es.length ≠ 1) (hes : ∀ e ∈ es, IsCanonical e)
      (hflat : ∀ e ∈ es, e.operands .conjunction = [e]) : IsCanonical (.allOf es)
  | anyOf {es : List Expr} (hlength : es.length ≠ 1) (hes : ∀ e ∈ es, IsCanonical e)
      (hflat : ∀ e ∈ es, e.operands .disjunction = [e]) : IsCanonical (.anyOf es)
  | foreign {v : Value} : IsCanonical (.foreign v)

/-- An expression is its only text, or it is the chain of its texts. -/
theorem texts_eq_or (e : Expr) : e.texts = [e] ∨ e = .concat e.texts := by
  cases e with
  | concat es => exact .inr rfl
  | _ => exact .inl rfl

/-- An expression is its only operand, or it is the chain of its operands. -/
theorem operands_eq_or (k : Connective) (e : Expr) : e.operands k = [e] ∨ e = k.join (e.operands k) := by
  cases k <;> cases e <;> simp [operands, Connective.join]

/-- The texts of an expression in canonical form are in canonical form, and no chains of texts. -/
theorem IsCanonical.of_mem_texts {e : Expr} (h : e.IsCanonical) : ∀ x ∈ e.texts, x.IsCanonical ∧ x.texts = [x] := by
  intro x hx
  rcases texts_eq_or e with hsingle | hchain
  · rw [hsingle, List.mem_singleton] at hx
    subst hx
    exact ⟨h, hsingle⟩
  · rw [hchain] at h
    cases h with
    | concat _ hes hflat => exact ⟨hes x hx, hflat x hx⟩

/-- The operands of an expression in canonical form are in canonical form, and no chains of the same kind. -/
theorem IsCanonical.of_mem_operands {k : Connective} {e : Expr} (h : e.IsCanonical) :
    ∀ x ∈ e.operands k, x.IsCanonical ∧ x.operands k = [x] := by
  intro x hx
  rcases operands_eq_or k e with hsingle | hchain
  · rw [hsingle, List.mem_singleton] at hx
    subst hx
    exact ⟨h, hsingle⟩
  · rw [hchain] at h
    cases k with
    | conjunction =>
      cases h with
      | allOf _ hes hflat => exact ⟨hes x hx, hflat x hx⟩
    | disjunction =>
      cases h with
      | anyOf _ hes hflat => exact ⟨hes x hx, hflat x hx⟩

/-- An expression in canonical form has a text. -/
theorem IsCanonical.texts_ne_nil {e : Expr} (h : e.IsCanonical) : e.texts ≠ [] := by
  cases h with
  | concat hlength _ _ => exact List.ne_nil_of_length_pos (Nat.lt_of_lt_of_le Nat.zero_lt_two hlength)
  | _ => exact List.cons_ne_nil _ _

/-- An expression in canonical form is put together from its texts. -/
theorem IsCanonical.collapse_texts {e : Expr} (h : e.IsCanonical) : Sql.collapse .concat e.texts = e := by
  cases h with
  | concat hlength _ _ => exact Sql.collapse_eq hlength
  | _ => rfl

/-- An expression in canonical form is put together from its operands, of either kind. -/
theorem IsCanonical.collapse_operands {e : Expr} (k : Connective) (h : e.IsCanonical) :
    Sql.collapse k.join (e.operands k) = e := by
  have hchain : ∀ {es : List Expr}, es.length ≠ 1 → Sql.collapse k.join es = k.join es := by
    intro es hlength
    match es, hlength with
    | [], _ => rfl
    | _ :: _ :: _, _ => rfl
  rcases operands_eq_or k e with hsingle | hjoin
  · rw [hsingle]
    rfl
  · have hlength : (e.operands k).length ≠ 1 := by
      rw [hjoin] at h
      cases k with
      | conjunction => cases h with | allOf hlength _ _ => exact hlength
      | disjunction => cases h with | anyOf hlength _ _ => exact hlength
    rw [hchain hlength]
    exact hjoin.symm

/-- Texts in canonical form that are no chains make up an expression in canonical form. -/
theorem isCanonical_collapse_concat {es : List Expr} (hne : es ≠ []) (h : ∀ e ∈ es, e.IsCanonical ∧ e.texts = [e]) :
    (Sql.collapse .concat es).IsCanonical := by
  match es with
  | [] => exact absurd rfl hne
  | [e] => exact (h e List.mem_cons_self).1
  | e :: f :: es => exact .concat (by simp) (fun x hx => (h x hx).1) fun x hx => (h x hx).2

/-- Conditions in canonical form that are no chains of a kind make up one of that kind. -/
theorem isCanonical_collapse_join {k : Connective} {es : List Expr} (h : ∀ e ∈ es, e.IsCanonical ∧ e.operands k = [e]) :
    (Sql.collapse k.join es).IsCanonical := by
  have hchain : es.length ≠ 1 → (k.join es).IsCanonical := by
    intro hlength
    cases k with
    | conjunction => exact .allOf hlength (fun x hx => (h x hx).1) fun x hx => (h x hx).2
    | disjunction => exact .anyOf hlength (fun x hx => (h x hx).1) fun x hx => (h x hx).2
  match es with
  | [] => exact hchain (by simp)
  | [e] => exact (h e List.mem_cons_self).1
  | e :: f :: es => exact hchain (by simp)

/-- Several expressions in canonical form have a text between them. -/
theorem flatMap_texts_ne_nil {es : List Expr} (hne : es ≠ []) (h : ∀ e ∈ es, e.IsCanonical) : es.flatMap texts ≠ [] := by
  obtain ⟨e, es, rfl⟩ := List.exists_cons_of_ne_nil hne
  rw [List.flatMap_cons]
  exact List.append_ne_nil_of_left_ne_nil (h e List.mem_cons_self).texts_ne_nil _

/-- The canonical form of a chain of conditions is canonical when those of its members are. -/
theorem isCanonical_join_canonical {k : Connective} {es : List Expr} (h : ∀ e ∈ es.map canonical, e.IsCanonical) :
    (k.join es).canonical.IsCanonical := by
  rw [canonical_join]
  refine isCanonical_collapse_join fun x hx => ?_
  obtain ⟨e, he, hx⟩ := List.mem_flatMap.mp hx
  exact (h e he).of_mem_operands x hx

mutual

/-- **The canonical form of an expression is canonical.** -/
theorem isCanonical_canonical : ∀ e : Expr, e.canonical.IsCanonical
  | .column .. => .column
  | .literal _ => .literal
  | .coalesce e _ => by
    rw [canonical]
    exact .coalesce (isCanonical_canonical e)
  | .concat es => by
    have hes := isCanonical_canonicals es
    by_cases hne : es = []
    · subst hne
      rw [canonical]
      exact .literal
    · rw [canonical_concat hne]
      refine isCanonical_collapse_concat (flatMap_texts_ne_nil (by simpa using hne) hes) fun x hx => ?_
      obtain ⟨e, he, hx⟩ := List.mem_flatMap.mp hx
      exact (hes e he).of_mem_texts x hx
  | .asText e => by
    rw [canonical]
    exact .asText (isCanonical_canonical e)
  | .matching e _ _ => by
    rw [canonical]
    exact .matching (isCanonical_canonical e)
  | .equals e _ => by
    rw [canonical]
    exact .equals (isCanonical_canonical e)
  | .allOf es => isCanonical_join_canonical (k := .conjunction) (isCanonical_canonicals es)
  | .anyOf es => isCanonical_join_canonical (k := .disjunction) (isCanonical_canonicals es)
  | .foreign _ => .foreign

/-- The canonical forms of several expressions are canonical. -/
theorem isCanonical_canonicals : ∀ es : List Expr, ∀ e ∈ es.map canonical, e.IsCanonical
  | [] => List.forall_mem_nil _
  | e :: es => List.forall_mem_cons.mpr ⟨isCanonical_canonical e, isCanonical_canonicals es⟩

end

/-! ## Chains in canonical form -/

/-- A chain of a single text counts as the text. -/
theorem canonical_concat_singleton (e : Expr) : (concat [e]).canonical = e.canonical := by
  rw [canonical_concat (List.cons_ne_nil e []), List.map_singleton, List.flatMap_singleton]
  exact (isCanonical_canonical e).collapse_texts

/-- A chain of several texts has the texts of its members. -/
theorem canonical_concat_of_two (es : List Expr) (hlength : 2 ≤ es.length) :
    2 ≤ ((es.map canonical).flatMap texts).length ∧ (concat es).canonical = concat ((es.map canonical).flatMap texts) := by
  have hle := Sql.length_le_length_flatMap fun e he => (isCanonical_canonicals es e he).texts_ne_nil
  rw [List.length_map] at hle
  refine ⟨hlength.trans hle, ?_⟩
  rw [canonical_concat (List.ne_nil_of_length_pos (by omega)), Sql.collapse_eq (hlength.trans hle)]

/-- A chain of a single condition counts as the condition. -/
theorem canonical_join_singleton (k : Connective) (e : Expr) : (k.join [e]).canonical = e.canonical := by
  rw [canonical_join, List.map_singleton, List.flatMap_singleton]
  exact (isCanonical_canonical e).collapse_operands k

/-- A chain of several conditions has the operands of its members, if each has any. -/
theorem canonical_join_of_two {k : Connective} {es : List Expr} (hlength : 2 ≤ es.length)
    (h : ∀ e ∈ es, e.canonical.operands k ≠ []) :
    2 ≤ ((es.map canonical).flatMap (operands k)).length ∧
      (k.join es).canonical = k.join ((es.map canonical).flatMap (operands k)) := by
  have hle := Sql.length_le_length_flatMap (List.forall_mem_map.mpr h)
  rw [List.length_map] at hle
  refine ⟨hlength.trans hle, ?_⟩
  rw [canonical_join, Sql.collapse_eq (hlength.trans hle)]

/-- Whether an expression is a tree over columns of the schema and scalar constants. Every chain of conditions has a member:
one without any is what would be written as nothing. -/
inductive Writable : Expr → Prop where
  | column {t : Table} {name : String} (hname : name ∈ t.columnNames) : Writable (.column t.name name)
  | literal {v : Value} (hv : v.IsScalar) : Writable (.literal v)
  | coalesce {e : Expr} {fallback : String} (he : Writable e) : Writable (.coalesce e fallback)
  | concat {es : List Expr} (hes : ∀ e ∈ es, Writable e) : Writable (.concat es)
  | asText {e : Expr} (he : Writable e) : Writable (.asText e)
  | matching {e : Expr} {pattern : String} {escape : Option String} (he : Writable e) : Writable (.matching e pattern escape)
  | equals {e : Expr} {v : Value} (hv : v.IsScalar) (he : Writable e) : Writable (.equals e v)
  | allOf {es : List Expr} (hne : es ≠ []) (hes : ∀ e ∈ es, Writable e) : Writable (.allOf es)
  | anyOf {es : List Expr} (hne : es ≠ []) (hes : ∀ e ∈ es, Writable e) : Writable (.anyOf es)

/-- A chain of several conditions has operands, of whichever kind. -/
theorem operands_join_ne_nil (k l : Connective) {es : List Expr} (hne : es ≠ []) : (l.join es).operands k ≠ [] := by
  cases k <;> cases l <;> simp [operands, Connective.join, hne]

/-- A writable expression contributes something to a chain of conditions. -/
theorem Writable.operands_ne_nil {e : Expr} (h : e.Writable) (k : Connective) : e.canonical.operands k ≠ [] := by
  have hjoin : ∀ {k l : Connective} {es : List Expr}, es ≠ [] → (∀ e ∈ es, ∀ k, e.canonical.operands k ≠ []) →
      (l.join es).canonical.operands k ≠ [] := by
    intro k l es hne hes
    match es, hne with
    | [e], _ =>
      rw [canonical_join_singleton]
      exact hes e List.mem_cons_self k
    | e :: f :: es, _ =>
      -- The chain stays one because its members contribute to its own kind, hence the claim for all kinds at once.
      obtain ⟨hlength, hcanonical⟩ := canonical_join_of_two (by simp) fun x hx => hes x hx l
      rw [hcanonical]
      exact operands_join_ne_nil k l (List.ne_nil_of_length_pos (by omega))
  induction h generalizing k with
  | @concat es _ ih =>
    match es with
    | [] => cases k <;> exact List.cons_ne_nil _ _
    | [e] =>
      rw [canonical_concat_singleton]
      exact ih e List.mem_cons_self k
    | e :: f :: es =>
      rw [(canonical_concat_of_two _ (by simp)).2]
      cases k <;> exact List.cons_ne_nil _ _
  | allOf hne _ ih => exact hjoin (l := .conjunction) hne ih
  | anyOf hne _ ih => exact hjoin (l := .disjunction) hne ih
  | _ => cases k <;> exact List.cons_ne_nil _ _

/-! ## Strings -/

/-- The strings of a chain of texts are those of its members. -/
theorem strings_concat {es : List Expr} (hne : es ≠ []) : (concat es).strings = es.flatMap strings := by
  rw [strings, stringsOf_eq_flatMap]
  exact hne

/-- The strings of a chain of conditions are those of its members. -/
theorem strings_join (k : Connective) (es : List Expr) : (k.join es).strings = es.flatMap strings := by
  cases k <;> simp only [Connective.join, strings, stringsOf_eq_flatMap]

/-- The texts of an expression have its strings. -/
theorem flatMap_strings_texts {e : Expr} (h : e.IsCanonical) : e.texts.flatMap strings = e.strings := by
  rcases texts_eq_or e with hsingle | hchain
  · rw [hsingle, List.flatMap_singleton]
  · exact (strings_concat h.texts_ne_nil).symm.trans (congrArg strings hchain.symm)

/-- The operands of an expression have its strings. -/
theorem flatMap_strings_operands (k : Connective) (e : Expr) : (e.operands k).flatMap strings = e.strings := by
  rcases operands_eq_or k e with hsingle | hchain
  · rw [hsingle, List.flatMap_singleton]
  · exact (strings_join k _).symm.trans (congrArg strings hchain.symm)

/-- Putting expressions together changes no strings. -/
theorem strings_collapse {combine : List Expr → Expr} {es : List Expr} (h : (combine es).strings = es.flatMap strings) :
    (Sql.collapse combine es).strings = es.flatMap strings := by
  unfold Sql.collapse
  split
  · rw [List.flatMap_singleton]
  · exact h

/-- The canonical form of a chain of conditions has the strings of the chain when those of its members do. -/
theorem strings_canonical_join {k : Connective} {es : List Expr}
    (h : (es.map canonical).flatMap strings = es.flatMap strings) :
    (k.join es).canonical.strings = (k.join es).strings := by
  rw [canonical_join, strings_collapse (strings_join k _), strings_join, List.flatMap_assoc,
    List.flatMap_congr fun e _ => flatMap_strings_operands k e, h]

mutual

/-- **The canonical form of an expression holds its strings, in order.** -/
theorem strings_canonical : ∀ e : Expr, e.canonical.strings = e.strings
  | .column .. => by rw [canonical]
  | .literal _ => by rw [canonical]
  | .coalesce e _ => by rw [canonical, strings, strings, strings_canonical e]
  | .concat es => by
    by_cases hne : es = []
    · subst hne
      rw [canonical, strings, strings]
      rfl
    · have hes := isCanonical_canonicals es
      have htexts := flatMap_texts_ne_nil (by simpa using hne) hes
      rw [canonical_concat hne, strings_collapse (strings_concat htexts), strings_concat hne, List.flatMap_assoc,
        List.flatMap_congr fun e he => flatMap_strings_texts (hes e he), flatMap_strings_canonical es]
  | .asText e => by rw [canonical, strings, strings, strings_canonical e]
  | .matching e _ _ => by rw [canonical, strings, strings, strings_canonical e]
  | .equals e _ => by rw [canonical, strings, strings, strings_canonical e]
  | .allOf es => strings_canonical_join (k := .conjunction) (flatMap_strings_canonical es)
  | .anyOf es => strings_canonical_join (k := .disjunction) (flatMap_strings_canonical es)
  | .foreign _ => by rw [canonical]

/-- The canonical forms of several expressions hold their strings, in order. -/
theorem flatMap_strings_canonical : ∀ es : List Expr, (es.map canonical).flatMap strings = es.flatMap strings
  | [] => rfl
  | e :: es => by
    rw [List.map_cons, List.flatMap_cons, List.flatMap_cons, strings_canonical e, flatMap_strings_canonical es]

end

/-! ## Shapes -/

/-- The texts of a shape are the shapes of the texts. -/
theorem texts_shape (e : Expr) : e.shape.texts = e.texts.map shape := by
  cases e <;> simp [shape, texts, shapes_eq_map]

/-- The operands of a shape are the shapes of the operands. -/
theorem operands_shape (k : Connective) (e : Expr) : e.shape.operands k = (e.operands k).map shape := by
  cases k <;> cases e <;> simp [shape, operands, shapes_eq_map]

/-- Expressions are put together without regard to their strings. -/
theorem shape_collapse {combine : List Expr → Expr} {es : List Expr} (h : (combine es).shape = combine (es.map shape)) :
    (Sql.collapse combine es).shape = Sql.collapse combine (es.map shape) := by
  match es with
  | [] => exact h
  | [e] => rfl
  | _ :: _ :: _ => exact h

theorem shape_join (k : Connective) (es : List Expr) : (k.join es).shape = k.join (es.map shape) := by
  cases k <;> simp only [Connective.join, shape, shapes_eq_map]

theorem map_flatMap_shape {f : Expr → List Expr} (h : ∀ e : Expr, f e.shape = (f e).map shape) (es : List Expr) :
    (es.flatMap f).map shape = (es.map shape).flatMap f := by
  rw [List.map_flatMap, List.flatMap_map]
  exact List.flatMap_congr fun e _ => (h e).symm

/-- The canonical form of a chain of conditions goes along with shapes when those of its members do. -/
theorem shape_canonical_join {k : Connective} {es : List Expr}
    (h : (es.map canonical).map shape = (es.map shape).map canonical) :
    (k.join es).canonical.shape = (k.join es).shape.canonical := by
  rw [canonical_join, shape_collapse (shape_join k _), shape_join, canonical_join, ← h, map_flatMap_shape (operands_shape k)]

mutual

/-- **Strings do not count in the canonical form**: its shape is the canonical form of the shape. -/
theorem shape_canonical : ∀ e : Expr, e.canonical.shape = e.shape.canonical
  | .column .. => rfl
  | .literal _ => rfl
  | .coalesce e _ => by rw [canonical, shape, shape, canonical, shape_canonical e]
  | .concat es => by
    by_cases hne : es = []
    · subst hne
      rfl
    · have hconcat : ∀ fs : List Expr, (concat fs).shape = concat (fs.map shape) := by
        intro fs
        rw [shape, shapes_eq_map]
      rw [canonical_concat hne, shape_collapse (hconcat _), hconcat, canonical_concat (by simpa using hne),
        ← map_shape_canonical es, map_flatMap_shape texts_shape]
  | .asText e => by rw [canonical, shape, shape, canonical, shape_canonical e]
  | .matching e _ _ => by rw [canonical, shape, shape, canonical, shape_canonical e]
  | .equals e _ => by rw [canonical, shape, shape, canonical, shape_canonical e]
  | .allOf es => shape_canonical_join (k := .conjunction) (map_shape_canonical es)
  | .anyOf es => shape_canonical_join (k := .disjunction) (map_shape_canonical es)
  | .foreign _ => rfl

/-- Strings do not count in the canonical forms of several expressions. -/
theorem map_shape_canonical : ∀ es : List Expr, (es.map canonical).map shape = (es.map shape).map canonical
  | [] => rfl
  | e :: es => by
    simp only [List.map_cons, shape_canonical e]
    rw [map_shape_canonical es]

end

end Expr

end EntitySearch
