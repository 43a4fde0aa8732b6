import EntitySearch.Definition.Standard

/-!
# Registries

A registry holds at most one definition for each entity and is read-only once made.
-/

namespace EntitySearch

/-- The definitions of a service, in order of registration. -/
structure Registry where
  definitions : List Definition
  /-- No entity has two definitions. -/
  distinct_entities : (definitions.map (·.entity)).Nodup

namespace Registry

/-- The first definition of an entity in a list. -/
def find? (ds : List Definition) (e : Entity) : Option Definition := ds.find? fun d => d.entity == e

/-- The first entity that comes up a second time. -/
def firstRepeated? (seen : List Entity) : List Definition → Option Entity
  | [] => none
  | d :: ds => if seen.contains d.entity then some d.entity else firstRepeated? (d.entity :: seen) ds

theorem nodup_of_firstRepeated? {seen : List Entity} {ds : List Definition} (h : firstRepeated? seen ds = none) :
    (ds.map (·.entity)).Nodup ∧ ∀ d ∈ ds, d.entity ∉ seen := by
  induction ds generalizing seen with
  | nil => simp
  | cons d ds ih =>
    rw [firstRepeated?] at h
    split at h
    · simp at h
    · rename_i hd
      have hd' : d.entity ∉ seen := by simpa using hd
      obtain ⟨hn, hs⟩ := ih h
      refine ⟨?_, ?_⟩
      · rw [List.map_cons, List.nodup_cons]
        refine ⟨?_, hn⟩
        rintro hm
        obtain ⟨x, hx, hxe⟩ := List.mem_map.mp hm
        exact hs x hx (by simp [hxe])
      · intro x hx
        rcases List.mem_cons.mp hx with rfl | hx
        · exact hd'
        · exact fun hm => hs x hx (List.mem_cons_of_mem _ hm)

/-- The registry of a list of definitions. -/
def ofList (ds : List Definition) : Except Failure Registry :=
  match h : firstRepeated? [] ds with
  | some e => .error (.duplicateDefinition e.key)
  | none => .ok ⟨ds, (nodup_of_firstRepeated? h).1⟩

/-- The registry of the standard definitions. -/
def standard : Registry := ⟨Definition.standard, by decide⟩

/-- The entities of a registry, in order of registration. -/
def entities (r : Registry) : List Entity := r.definitions.map (·.entity)

/-- The definition for a key. -/
def definitionFor (r : Registry) (key : EntityKey) : Except Failure Definition :=
  match key.resolve?.bind (find? r.definitions) with
  | some d => .ok d
  | none => .error (.domain (.unknownEntity key.toValue))

end Registry

end EntitySearch
