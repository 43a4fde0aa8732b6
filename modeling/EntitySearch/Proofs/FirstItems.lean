import Mathlib.Data.List.Basic

/-!
# First and last items

The first item of a list with a property (`IsFirst`), and the last one (`IsLast`). A search in a list finds the first, and a
search from its end the last.
-/

namespace EntitySearch

variable {α : Type} {p : α → Prop} {l : List α} {x y : α}

/-- Whether an item of a list is the first one with a property. -/
def IsFirst (p : α → Prop) (l : List α) (x : α) : Prop := ∃ before after, l = before ++ x :: after ∧ p x ∧ ∀ y ∈ before, ¬p y

theorem not_isFirst_nil : ¬IsFirst p [] x := by
  rintro ⟨before, after, hl, -⟩
  simp at hl

/-- The first item with a property is at the head, or else in the rest. -/
theorem isFirst_cons {a : α} : IsFirst p (a :: l) x ↔ x = a ∧ p a ∨ ¬p a ∧ IsFirst p l x := by
  constructor
  · rintro ⟨_ | ⟨b, before⟩, after, hl, hx, hbefore⟩
    · obtain ⟨rfl, -⟩ := List.cons.inj hl
      exact .inl ⟨rfl, hx⟩
    · rw [List.cons_append, List.cons.injEq] at hl
      obtain ⟨rfl, rfl⟩ := hl
      exact .inr ⟨hbefore a List.mem_cons_self, before, after, rfl, hx, fun y hy => hbefore y (List.mem_cons_of_mem a hy)⟩
  · rintro (⟨rfl, hx⟩ | ⟨ha, before, after, rfl, hx, hbefore⟩)
    · exact ⟨[], l, rfl, hx, List.forall_mem_nil _⟩
    · exact ⟨a :: before, after, rfl, hx, List.forall_mem_cons.mpr ⟨ha, hbefore⟩⟩

/-- The first item with a property stays the first when more items follow. -/
theorem IsFirst.append (h : IsFirst p l x) (l' : List α) : IsFirst p (l ++ l') x := by
  obtain ⟨before, after, rfl, hx, hbefore⟩ := h
  exact ⟨before, after ++ l', by rw [List.append_assoc, List.cons_append], hx, hbefore⟩

/-- Items without the property may come before the first one. -/
theorem IsFirst.append_left {l' : List α} (h : IsFirst p l' x) (hl : ∀ y ∈ l, ¬p y) : IsFirst p (l ++ l') x := by
  obtain ⟨before, after, rfl, hx, hbefore⟩ := h
  exact ⟨l ++ before, after, (List.append_assoc _ _ _).symm, hx, List.forall_mem_append.mpr ⟨hl, hbefore⟩⟩

/-- Where some item has a property, there is a first one. -/
theorem exists_isFirst (h : ∃ x ∈ l, p x) : ∃ x, IsFirst p l x := by
  induction l with
  | nil => simp at h
  | cons a l ih =>
    by_cases ha : p a
    · exact ⟨a, isFirst_cons.mpr (.inl ⟨rfl, ha⟩)⟩
    · obtain ⟨x, hx⟩ := ih (by simpa [ha] using h)
      exact ⟨x, isFirst_cons.mpr (.inr ⟨ha, hx⟩)⟩

theorem IsFirst.holds (h : IsFirst p l x) : p x := by
  obtain ⟨-, -, -, hx, -⟩ := h
  exact hx

/-- No item that comes before the first one with a property has it. -/
theorem IsFirst.not_of_idxOf_lt [DecidableEq α] (h : IsFirst p l x) (hlt : l.idxOf y < l.idxOf x) : ¬p y := by
  induction l with
  | nil => exact absurd h not_isFirst_nil
  | cons a l ih =>
    rcases isFirst_cons.mp h with ⟨rfl, -⟩ | ⟨ha, hrest⟩
    · rw [List.idxOf_cons_self] at hlt
      exact absurd hlt (Nat.not_lt_zero _)
    · by_cases hy : a = y
      · exact hy ▸ ha
      · have hx : a ≠ x := by
          rintro rfl
          exact ha h.holds
        rw [List.idxOf_cons_ne _ hy, List.idxOf_cons_ne _ hx] at hlt
        exact ih hrest (Nat.lt_of_succ_lt_succ hlt)

/-- There is but one first item with a property. -/
theorem IsFirst.unique (hx : IsFirst p l x) (hy : IsFirst p l y) : x = y := by
  induction l with
  | nil => exact absurd hx not_isFirst_nil
  | cons a l ih =>
    rcases isFirst_cons.mp hx with ⟨rfl, ha⟩ | ⟨hna, hx⟩ <;> rcases isFirst_cons.mp hy with ⟨rfl, hb⟩ | ⟨hnb, hy⟩
    · rfl
    · exact absurd ha hnb
    · exact absurd hb hna
    · exact ih hx hy

/-- What a search in a list finds is the first item with the property. -/
theorem find?_eq_some_iff_isFirst {q : α → Bool} : l.find? q = some x ↔ IsFirst (fun a => q a = true) l x := by
  rw [List.find?_eq_some_iff_append]
  constructor
  · rintro ⟨hx, before, after, rfl, hbefore⟩
    exact ⟨before, after, rfl, hx, fun y hy => by simpa using hbefore y hy⟩
  · rintro ⟨before, after, rfl, hx, hbefore⟩
    exact ⟨hx, before, after, rfl, fun y hy => by simpa using hbefore y hy⟩

/-- Whether an item of a list is the last one with a property. -/
def IsLast (p : α → Prop) (l : List α) (x : α) : Prop := ∃ before after, l = before ++ x :: after ∧ p x ∧ ∀ y ∈ after, ¬p y

theorem IsLast.holds (h : IsLast p l x) : p x := by
  obtain ⟨-, -, -, hx, -⟩ := h
  exact hx

/-- From the end of a list its last item with a property is the first. -/
theorem isFirst_reverse : IsFirst p l.reverse x ↔ IsLast p l x := by
  constructor
  · rintro ⟨before, after, hl, hx, hbefore⟩
    rw [List.reverse_eq_iff, List.reverse_append, List.reverse_cons, List.append_assoc, List.singleton_append] at hl
    exact ⟨after.reverse, before.reverse, hl, hx, fun y hy => hbefore y (List.mem_reverse.mp hy)⟩
  · rintro ⟨before, after, rfl, hx, hafter⟩
    refine ⟨after.reverse, before.reverse, ?_, hx, fun y hy => hafter y (List.mem_reverse.mp hy)⟩
    rw [List.reverse_append, List.reverse_cons, List.append_assoc, List.singleton_append]

/-- What a search from the end of a list finds is the last item with the property. -/
theorem find?_reverse_eq_some_iff_isLast {q : α → Bool} :
    l.reverse.find? q = some x ↔ IsLast (fun a => q a = true) l x :=
  find?_eq_some_iff_isFirst.trans isFirst_reverse

end EntitySearch
