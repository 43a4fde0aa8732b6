/-!
# Three truth values

A condition on a row holds, fails, or is unknown because of a null.
-/

namespace EntitySearch

/-- A truth value; none is unknown. -/
abbrev Truth := Option Bool

namespace Truth

/-- Holds when both do, fails when one does, and is unknown otherwise. -/
def and : Truth → Truth → Truth
  | some false, _ => some false
  | _, some false => some false
  | some true, some true => some true
  | _, _ => none

/-- Holds when one does, fails when both do, and is unknown otherwise. -/
def or : Truth → Truth → Truth
  | some true, _ => some true
  | _, some true => some true
  | some false, some false => some false
  | _, _ => none

/-- Whether all hold. -/
def all (ts : List Truth) : Truth := ts.foldr and (some true)

/-- Whether some hold. -/
def any (ts : List Truth) : Truth := ts.foldr or (some false)

theorem and_eq_true {a b : Truth} : and a b = some true ↔ a = some true ∧ b = some true := by
  rcases a with _ | a <;> rcases b with _ | b <;> (try cases a) <;> (try cases b) <;> decide

theorem or_eq_true {a b : Truth} : or a b = some true ↔ a = some true ∨ b = some true := by
  rcases a with _ | a <;> rcases b with _ | b <;> (try cases a) <;> (try cases b) <;> decide

@[simp] theorem all_singleton (t : Truth) : all [t] = t := by rcases t with _ | _ | _ <;> rfl

@[simp] theorem any_singleton (t : Truth) : any [t] = t := by rcases t with _ | _ | _ <;> rfl

theorem all_eq_true {ts : List Truth} : all ts = some true ↔ ∀ t ∈ ts, t = some true := by
  induction ts with
  | nil => simp [all]
  | cons t ts ih => simpa [all, and_eq_true] using fun _ => ih

theorem any_eq_true {ts : List Truth} : any ts = some true ↔ ∃ t ∈ ts, t = some true := by
  induction ts with
  | nil => simp [any]
  | cons t ts ih =>
    have h : any (t :: ts) = or t (any ts) := rfl
    rw [h, or_eq_true, ih]
    simp [eq_comm]

end Truth

end EntitySearch
