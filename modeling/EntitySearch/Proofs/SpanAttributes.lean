import EntitySearch.Proofs.Entries
import EntitySearch.Proofs.FirstItems
import EntitySearch.Trace.Span

/-!
# Attributes of spans

Attributes are written one after the other, and a span takes those that have a name and a value that can be one
(`Attributes.IsTaken`). Under each name a span then has what was taken last (`lookup_setAll_eq_some_iff`), and it has each name
once (`nodup_setAll`). Of the arguments given by keyword, those that are safe are written, in order and as text
(`records_ofArguments`). Whether nulls are left out before attributes are written makes no difference (`setAll_given`).
-/

namespace EntitySearch.Attributes

variable {attributes writes : List (String × Value)} {name : String} {value : Value}

/-! ## Values -/

/-- Whether a kind is one of single values: texts, truth values and numbers. -/
def IsSingle (k : Value.Kind) : Prop := k = .bool ∨ k = .int ∨ k = .real ∨ k = .text

/-- Besides nulls, the kinds of values that are not single are lists and dictionaries. -/
theorem isSingle_iff {k : Value.Kind} (h : k ≠ .null) : IsSingle k ↔ k ≠ .list ∧ k ≠ .dict := by
  cases k <;> simp_all [IsSingle]

/-- Whether a value can be an attribute: a single value, or a list of single values of one kind, among which there may be
nulls. A null alone cannot be one, and neither can a dictionary. -/
inductive CanBeAttribute : Value → Prop where
  | single {v : Value} : IsSingle v.kind → CanBeAttribute v
  | list {items : List Value} {k : Value.Kind} : IsSingle k → (∀ v ∈ items, v.kind = .null ∨ v.kind = k) →
      CanBeAttribute (.list items)

/-- Items are of one kind when those that are no nulls are. -/
theorem uniform_iff {items : List Value} :
    uniform items = true ↔ ∃ k, IsSingle k ∧ ∀ v ∈ items, v.kind = .null ∨ v.kind = k := by
  have hkinds : ∀ k, (∀ v ∈ items, v.kind = .null ∨ v.kind = k) ↔
      ∀ l ∈ (items.map Value.kind).filter (· != .null), l = k := by
    intro k
    simp only [List.mem_filter, List.mem_map, bne_iff_ne, and_imp, forall_exists_index, forall_apply_eq_imp_iff₂,
      or_iff_not_imp_left]
  have hnull : ∀ l ∈ (items.map Value.kind).filter (· != .null), l ≠ .null := by
    simp only [List.mem_filter, bne_iff_ne]
    exact fun _ h => h.2
  simp only [hkinds, uniform]
  cases hkept : (items.map Value.kind).filter (· != .null) with
  | nil => exact iff_of_true rfl ⟨.text, by simp [IsSingle], List.forall_mem_nil _⟩
  | cons l ls =>
    have hsingle : IsSingle l ↔ l ≠ .list ∧ l ≠ .dict := isSingle_iff (hnull l (hkept ▸ List.mem_cons_self))
    simp only [Bool.and_eq_true, bne_iff_ne, List.all_eq_true, beq_iff_eq, ← hsingle]
    constructor
    · exact fun ⟨hl, hls⟩ => ⟨l, hl, List.forall_mem_cons.mpr ⟨rfl, hls⟩⟩
    · rintro ⟨k, hk, hall⟩
      obtain ⟨rfl, hls⟩ := List.forall_mem_cons.mp hall
      exact ⟨hk, hls⟩

/-- The values that are admitted are those that can be attributes. -/
theorem admissible_iff : admissible value = true ↔ CanBeAttribute value := by
  constructor
  · intro h
    cases value with
    | null => cases h
    | dict entries => cases h
    | list items =>
      obtain ⟨k, hk, hitems⟩ := uniform_iff.mp h
      exact .list hk hitems
    | bool b => exact .single (.inl rfl)
    | int i => exact .single (.inr (.inl rfl))
    | real x => exact .single (.inr (.inr (.inl rfl)))
    | text s => exact .single (.inr (.inr (.inr rfl)))
  · rintro (h | ⟨hk, hitems⟩)
    · cases value <;> simp_all [IsSingle, Value.kind, admissible]
    · exact uniform_iff.mpr ⟨_, hk, hitems⟩

/-! ## What is written last -/

/-- Whether a span takes an attribute: it has a name, and a value that can be an attribute. -/
def IsTaken (a : String × Value) : Prop := a.1 ≠ "" ∧ CanBeAttribute a.2

/-- Whether a span takes an attribute, decided. -/
def takes (a : String × Value) : Bool := !a.1.isEmpty && admissible a.2

/-- The test for attributes that are taken decides whether one is. -/
theorem takes_eq_true_iff {a : String × Value} : takes a = true ↔ IsTaken a := by
  rw [takes, Bool.and_eq_true, admissible_iff, IsTaken, Bool.not_eq_true', Bool.eq_false_iff, Ne, String.isEmpty_iff]

/-- What attributes that are written one after the other leave under a name: the last that is taken. -/
def latest? (writes : List (String × Value)) (name : String) : Option Value :=
  (writes.reverse.find? fun a => takes a && a.1 == name).map (·.2)

/-- What is left under a name is from the attributes written later, or else from those before. -/
theorem latest?_append (writes more : List (String × Value)) (name : String) :
    latest? (writes ++ more) name = (latest? more name).or (latest? writes name) := by
  rw [latest?, List.reverse_append, List.find?_append, Option.map_or, latest?, latest?]

/-- What is left under a name is the value of the last attribute of that name that is taken. -/
theorem latest?_eq_some_iff :
    latest? writes name = some value ↔ IsLast (fun a => IsTaken a ∧ a.1 = name) writes (name, value) := by
  simp only [latest?, Option.map_eq_some_iff, find?_reverse_eq_some_iff_isLast, Bool.and_eq_true, takes_eq_true_iff, beq_iff_eq]
  constructor
  · rintro ⟨⟨n, v⟩, hlast, rfl⟩
    obtain ⟨-, rfl⟩ := IsLast.holds hlast
    exact hlast
  · exact fun hlast => ⟨_, hlast, rfl⟩

/-- An attribute that is taken replaces the one of its name, and one that is not changes nothing. -/
theorem set_eq (attributes : Attributes) (a : String × Value) :
    attributes.set a.1 a.2 =
      if takes a then attributes.filter (fun b => b.1 != a.1) ++ [(a.1, a.2)] else attributes := by
  unfold set takes
  cases a.1.isEmpty <;> cases admissible a.2 <;> rfl

/-- Writing an attribute changes what is under its name, if it is taken, and nothing else. -/
theorem lookup_set (attributes : Attributes) (a : String × Value) (name : String) :
    (attributes.set a.1 a.2).lookup name = (latest? [a] name).or (attributes.lookup name) := by
  rw [set_eq, latest?, List.reverse_singleton]
  cases ha : takes a with
  | false => simp [ha]
  | true =>
    rw [if_pos rfl, lookup_replace]
    by_cases hname : name = a.1
    · simp [ha, hname]
    · simp [ha, hname, Ne.symm hname]

/-- Under each name is what was written last, or else what was there before. -/
theorem lookup_setAll (attributes : Attributes) (writes : List (String × Value)) (name : String) :
    (attributes.setAll writes).lookup name = (latest? writes name).or (attributes.lookup name) := by
  unfold setAll
  induction writes generalizing attributes with
  | nil => rfl
  | cons a writes ih =>
    have hwrites : latest? (a :: writes) name = (latest? writes name).or (latest? [a] name) := latest?_append [a] writes name
    rw [List.foldl_cons, ih, lookup_set, hwrites, Option.or_assoc]

/-- Under each name is the value of the last attribute of that name that is taken, if there is one. -/
theorem lookup_setAll_eq_some_iff :
    (setAll [] writes).lookup name = some value ↔ IsLast (fun a => IsTaken a ∧ a.1 = name) writes (name, value) := by
  rw [lookup_setAll, List.lookup_nil, Option.or_none, latest?_eq_some_iff]

/-- Attributes that are written keep the names of all attributes different. -/
theorem nodup_setAll (h : (attributes.map (·.1)).Nodup) (writes : List (String × Value)) :
    ((setAll attributes writes).map (·.1)).Nodup := by
  unfold setAll
  induction writes generalizing attributes with
  | nil => exact h
  | cons a writes ih =>
    refine ih ?_
    show ((set attributes a.1 a.2).map (·.1)).Nodup
    rw [set_eq]
    split
    · exact nodup_replace h a.1 a.2
    · exact h

/-- Attributes are written one after the other. -/
theorem setAll_append (attributes : Attributes) (writes more : List (String × Value)) :
    attributes.setAll (writes ++ more) = (attributes.setAll writes).setAll more := by
  rw [setAll, List.foldl_append, ← setAll, ← setAll]

/-- A null is not taken, so that it makes no difference whether nulls are left out before. -/
theorem setAll_given (attributes : Attributes) (writes : List (String × Value)) :
    attributes.setAll (given writes) = attributes.setAll writes := by
  induction writes generalizing attributes with
  | nil => rfl
  | cons a writes ih =>
    rw [← List.singleton_append, setAll_append, given, List.filter_append, setAll_append, ← given, ← given, ih]
    refine congrArg (setAll · writes) ?_
    obtain ⟨name, value⟩ := a
    cases value with
    | null => exact (if_pos (Bool.or_eq_true _ _ |>.mpr (.inr rfl))).symm
    | _ => rfl

/-! ## Arguments -/

/-- Whether an argument is recorded, by the rules: it has a value, its name does not start with an underscore, and the name is
one of a few that are known to be harmless, but for the case of letters. -/
structure IsSafe (argument : String × Value) : Prop where
  given : argument.2 ≠ .null
  visible : argument.1.toList.head? ≠ some '_'
  listed : String.ofList (Text.lowerCase argument.1.toList) ∈
    ["id", "name", "count", "limit", "kind", "entity", "tenant_id", "user_id", "provider"]

/-- The arguments that are recorded are the safe ones. -/
theorem isRecorded_iff {argument : String × Value} : isRecorded argument.1 argument.2 = true ↔ IsSafe argument := by
  obtain ⟨name, value⟩ := argument
  have hvisible : (!name.toList.head?.any (· == '_')) = true ↔ name.toList.head? ≠ some '_' := by
    cases name.toList.head? <;> simp
  have hrules : isRecorded name value = true ↔ value ≠ .null ∧ name.toList.head? ≠ some '_' ∧
      String.ofList (Text.lowerCase name.toList) ∈ recordedNames := by
    cases value <;> simp only [isRecorded, Bool.and_eq_true, hvisible, List.contains_iff_mem] <;> simp
  exact hrules.trans ⟨fun h => ⟨h.1, h.2.1, h.2.2⟩, fun h => ⟨h.given, h.visible, h.listed⟩⟩

/-- Whether attributes are what arguments leave: one for each safe argument, in order, under its name behind a prefix and as
text. -/
inductive Records : List (String × Value) → List (String × Value) → Prop where
  | nil : Records [] []
  | safe {argument : String × Value} {rest recorded : List (String × Value)} : IsSafe argument → Records rest recorded →
      Records (argument :: rest) (("arg." ++ argument.1, .text argument.2.display) :: recorded)
  | skipped {argument : String × Value} {rest recorded : List (String × Value)} : ¬IsSafe argument → Records rest recorded →
      Records (argument :: rest) recorded

/-- The attributes of arguments are what the arguments leave. -/
theorem records_ofArguments (arguments : List (String × Value)) : Records arguments (ofArguments arguments) := by
  induction arguments with
  | nil => exact .nil
  | cons argument rest ih =>
    by_cases hsafe : IsSafe argument
    · rw [ofArguments, List.filter_cons, if_pos (isRecorded_iff.mpr hsafe), List.map_cons, ← ofArguments]
      exact .safe hsafe ih
    · rw [ofArguments, List.filter_cons, if_neg (mt isRecorded_iff.mp hsafe), ← ofArguments]
      exact .skipped hsafe ih

end EntitySearch.Attributes
