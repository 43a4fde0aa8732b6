import EntitySearch.Proofs.Entries
import EntitySearch.Proofs.LowerCase
import EntitySearch.Provider

/-!
# Providers by name

A registration takes the place of an earlier one under a name with the same key, and of no other (`lookup_register`). After any
registrations a table therefore holds each key once, with what was registered last under it (`Holds.registerAll`), and finds
for a name what was registered last under a name that agrees with it (`names_find_the_last_registration`). What it lists are
keys, and a key is its own key (`key_key`): each listed name finds what stands under it.
-/

namespace EntitySearch.ProviderTable

variable {α : Type}

/-! ## Names -/

/-- Whether two names are the same but for the blanks around them and the case of letters. -/
def Agree (m n : String) : Prop := Text.lowerCase (Text.trim m.toList) = Text.lowerCase (Text.trim n.toList)

/-- Names have one key when they agree. -/
theorem key_eq_iff {m n : String} : key m = key n ↔ Agree m n := String.ofList_inj

/-- A key is its own key. -/
theorem key_key (name : String) : key (key name) = key name := by
  have htrim : Text.trim (Text.lowerCase (Text.trim name.toList)) = Text.lowerCase (Text.trim name.toList) :=
    Text.trim_of_isTrimmed (Text.isTrimmed_lowerCase (Text.isTrimmed_trim _))
  rw [key, key, String.toList_ofList, htrim, Text.lowerCase_lowerCase]

/-! ## Registrations -/

/-- The table after several registrations, one after the other. -/
def registerAll (t : ProviderTable α) (registrations : List (String × α)) : ProviderTable α :=
  registrations.foldl (fun t r => t.register r.1 r.2) t

/-- Several registrations by the keys of their names, the last one first. -/
def keyed (registrations : List (String × α)) : List (String × α) := (registrations.map fun r => (key r.1, r.2)).reverse

/-- Whether a table holds what registrations leave: each key once, with what was registered last under it. -/
structure Holds (t : ProviderTable α) (registrations : List (String × α)) : Prop where
  distinct : (t.entries.map (·.1)).Nodup
  lookup_eq : ∀ k, t.entries.lookup k = (keyed registrations).lookup k

variable {t : ProviderTable α} {registrations : List (String × α)} {name : String} {p : α} {k : String}

/-- A registration changes what stands under the key of its name, and nothing else. -/
theorem lookup_register (t : ProviderTable α) (name : String) (p : α) (k : String) :
    (t.register name p).entries.lookup k = if k = key name then some p else t.entries.lookup k :=
  lookup_replace t.entries (key name) p k

/-- A table that holds registrations holds one more after it. -/
theorem Holds.register (h : t.Holds registrations) (name : String) (p : α) :
    (t.register name p).Holds (registrations ++ [(name, p)]) where
  distinct := nodup_replace h.distinct (key name) p
  lookup_eq k := by
    rw [lookup_register, h.lookup_eq, keyed, keyed, List.map_append, List.reverse_append, List.map_singleton,
      List.reverse_singleton, List.singleton_append, List.lookup_cons]
    by_cases hk : k = key name
    · rw [if_pos hk, beq_iff_eq.mpr hk]
    · rw [if_neg hk, beq_eq_false_iff_ne.mpr hk]

/-- A table that holds registrations holds all those that follow. -/
theorem Holds.registerAll (h : t.Holds registrations) (more : List (String × α)) :
    (t.registerAll more).Holds (registrations ++ more) := by
  induction more generalizing t registrations with
  | nil => rwa [List.append_nil]
  | cons r rs ih =>
    rw [List.append_cons]
    exact ih (h.register r.1 r.2)

/-- A process starts as if its first provider had been registered under both its names. -/
theorem holds_offering (p : α) : (offering p).Holds [("postgres", p), ("postgres_trigram", p)] where
  distinct := by simp [offering]
  lookup_eq k := by
    have hkeys : key "postgres" = "postgres" ∧ key "postgres_trigram" = "postgres_trigram" := by decide +kernel
    have hne : "postgres" ≠ "postgres_trigram" := by decide
    simp only [offering, keyed, List.map_cons, List.map_nil, List.reverse_cons, List.reverse_nil, List.nil_append,
      List.cons_append, hkeys, List.lookup_cons, List.lookup_nil]
    by_cases hk : k = "postgres"
    · simp [hk]
    · simp [beq_eq_false_iff_ne.mpr hk]

/-! ## What a table finds and lists -/

/-- Whether a provider is the one registered last under a name that agrees with another. -/
def IsLastUnder (name : String) (p : α) (registrations : List (String × α)) : Prop :=
  ∃ before given after, registrations = before ++ (given, p) :: after ∧ Agree given name ∧ ∀ r ∈ after, ¬Agree r.1 name

/-- Under a key stands what was registered last under a name that agrees. -/
theorem lookup_keyed_eq_some_iff :
    (keyed registrations).lookup (key name) = some p ↔ IsLastUnder name p registrations := by
  rw [List.lookup_eq_some_iff, keyed]
  constructor
  · rintro ⟨later, earlier, hsplit, hlater⟩
    rw [List.reverse_eq_iff, List.reverse_append, List.reverse_cons, List.append_assoc, List.singleton_append] at hsplit
    obtain ⟨before, rest, rfl, -, hrest⟩ := List.map_eq_append_iff.mp hsplit
    obtain ⟨⟨given, q⟩, after, rfl, hgiven, hafter⟩ := List.map_eq_cons_iff.mp hrest
    obtain ⟨hkey, rfl⟩ := Prod.mk.inj hgiven
    refine ⟨before, given, after, rfl, key_eq_iff.mp hkey, fun r hr hagree => ?_⟩
    have hmem : (key r.1, r.2) ∈ later := by
      rw [← List.mem_reverse, ← hafter]
      exact List.mem_map_of_mem hr
    exact absurd (key_eq_iff.mpr hagree).symm (by simpa using hlater _ hmem)
  · rintro ⟨before, given, after, rfl, hagree, hafter⟩
    refine ⟨(after.map fun r => (key r.1, r.2)).reverse, (before.map fun r => (key r.1, r.2)).reverse, ?_, ?_⟩
    · simp [key_eq_iff.mpr hagree]
    · simp only [List.mem_reverse, List.mem_map]
      rintro _ ⟨r, hr, rfl⟩
      exact bne_iff_ne.mpr fun hkey => hafter r hr (key_eq_iff.mp hkey.symm)

/-- Under a key stands nothing when no name has it. -/
theorem lookup_keyed_eq_none_iff : (keyed registrations).lookup k = none ↔ ∀ r ∈ registrations, key r.1 ≠ k := by
  rw [List.lookup_eq_none_iff, keyed]
  simp only [List.mem_reverse, List.mem_map, forall_exists_index, and_imp, forall_apply_eq_imp_iff₂, bne_iff_ne, ne_comm]

/-- A table lists the names that something stands under. -/
theorem mem_supported {n : String} : n ∈ t.supported ↔ t.entries.lookup n ≠ none := by
  rw [supported, List.mem_mergeSort, List.mem_map, Ne, List.lookup_eq_none_iff]
  constructor
  · rintro ⟨e, he, rfl⟩ hnone
    exact bne_iff_ne.mp (hnone e he) rfl
  · intro hsome
    by_contra hno
    exact hsome fun e he => bne_iff_ne.mpr fun heq => hno ⟨e, he, heq.symm⟩

/-- Whether a table answers for several registrations: it finds what was registered last, and lists what it finds. -/
structure AnswersFor (t : ProviderTable α) (registrations : List (String × α)) : Prop where
  /-- A name finds the provider registered last under a name that agrees with it; no name is the empty one. -/
  found : ∀ name p, t.create name = .ok p ↔ IsLastUnder (name.getD "") p registrations
  /-- A name is refused as unknown just when no registered name agrees with it. -/
  refused : ∀ name e, t.create name = .error e ↔ (∀ r ∈ registrations, ¬Agree r.1 (name.getD "")) ∧
    e = .domain (.unknownProvider (.ofText? name) (some (.list (t.supported.map .text))))
  /-- The details of a refusal are the name as it was given and the names of the table. -/
  detailed : ∀ name e, t.create name = .error e → ∃ d, e = .domain d ∧
    d.details = .dict [("provider", .ofText? name), ("supported", .list (t.supported.map .text))]
  /-- The names of the table are listed in order, each once. -/
  sorted : t.supported.Pairwise (· < ·)
  /-- The names of the table are the keys of the registered names. -/
  listed : ∀ n, n ∈ t.supported ↔ ∃ r ∈ registrations, key r.1 = n
  /-- Each listed name finds the provider that stands under it. -/
  reached : ∀ n ∈ t.supported, ∃ p, (n, p) ∈ t.entries ∧ t.create (some n) = .ok p

namespace Holds

/-- A name finds what was registered last under it. -/
theorem create_eq_ok_iff (h : t.Holds registrations) {name : Option String} :
    t.create name = .ok p ↔ IsLastUnder (name.getD "") p registrations := by
  rw [← lookup_keyed_eq_some_iff, ← h.lookup_eq, create]
  cases t.entries.lookup (key (name.getD "")) <;> simp

/-- A name that was never registered is refused, with the names there are. -/
theorem create_eq_error_iff (h : t.Holds registrations) {name : Option String} {e : Failure} :
    t.create name = .error e ↔ (∀ r ∈ registrations, ¬Agree r.1 (name.getD "")) ∧
      e = .domain (.unknownProvider (.ofText? name) (some (.list (t.supported.map .text)))) := by
  have hnone : t.entries.lookup (key (name.getD "")) = none ↔ ∀ r ∈ registrations, ¬Agree r.1 (name.getD "") := by
    rw [h.lookup_eq, lookup_keyed_eq_none_iff]
    exact forall₂_congr fun r _ => not_congr key_eq_iff
  rw [← hnone, create]
  cases t.entries.lookup (key (name.getD "")) <;> simp [eq_comm]

/-- The names of a table are in order, each once. -/
theorem sorted_supported (h : t.Holds registrations) : t.supported.Pairwise (· < ·) := by
  have hsorted := @List.pairwise_mergeSort String (fun a b => decide (a ≤ b))
    (fun a b c hab hbc => decide_eq_true (String.le_trans (of_decide_eq_true hab) (of_decide_eq_true hbc)))
    (fun a b => by simpa using String.le_total a b) (t.entries.map (·.1))
  have hdistinct : t.supported.Nodup := (List.mergeSort_perm _ _).nodup_iff.mpr h.distinct
  refine hsorted.imp₂ (fun a b hle hne => ?_) hdistinct
  exact String.not_le.mp fun hge => hne (String.le_antisymm (of_decide_eq_true hle) hge)

/-- The names of a table are the keys of those registered. -/
theorem mem_supported_iff (h : t.Holds registrations) {n : String} : n ∈ t.supported ↔ ∃ r ∈ registrations, key r.1 = n := by
  rw [mem_supported, h.lookup_eq, Ne, lookup_keyed_eq_none_iff]
  simp

/-- A listed name is a key, and so finds what stands under it. -/
theorem exists_of_mem_supported (h : t.Holds registrations) {n : String} (hn : n ∈ t.supported) :
    ∃ p, (n, p) ∈ t.entries ∧ t.create (some n) = .ok p := by
  obtain ⟨p, hp⟩ := Option.ne_none_iff_exists'.mp (mem_supported.mp hn)
  obtain ⟨r, -, rfl⟩ := h.mem_supported_iff.mp hn
  obtain ⟨before, after, hsplit, -⟩ := List.lookup_eq_some_iff.mp hp
  refine ⟨p, hsplit ▸ List.mem_append_right before List.mem_cons_self, ?_⟩
  rw [create, Option.getD_some, key_key, hp]

end Holds

/-- **Names find the last registration.** Whatever has been registered with a table, and in whatever order, its names find the
providers registered last under names that agree with them, the two names that every table starts with counting as registered
first. A name that agrees with none is refused, with the name as given and the names of the table in the details; these names
are listed in order without repetition, and each of them finds the provider that stands under it. -/
theorem names_find_the_last_registration (p : α) (registrations : List (String × α)) :
    ((offering p).registerAll registrations).AnswersFor ([("postgres", p), ("postgres_trigram", p)] ++ registrations) := by
  have hholds := (holds_offering p).registerAll registrations
  exact {
    found := fun _ _ => hholds.create_eq_ok_iff
    refused := fun _ _ => hholds.create_eq_error_iff
    detailed := fun _ _ he => ⟨_, (hholds.create_eq_error_iff.mp he).2, rfl⟩
    sorted := hholds.sorted_supported
    listed := fun _ => hholds.mem_supported_iff
    reached := fun _ hn => hholds.exists_of_mem_supported hn }

end EntitySearch.ProviderTable
