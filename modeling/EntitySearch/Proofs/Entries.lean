/-!
# Entries by name

A list of named entries in which each new entry takes the place of those that have its name.
-/

namespace EntitySearch

variable {α : Type} {entries : List (String × α)} {name : String}

/-- Without the entries of a name nothing is found under it, and what is found under others stays. -/
theorem lookup_filter_bne (entries : List (String × α)) (name k : String) :
    (entries.filter fun e => e.1 != name).lookup k = if k = name then none else entries.lookup k := by
  induction entries with
  | nil => simp
  | cons e es ih =>
    by_cases he : e.1 = name
    · rw [List.filter_cons_of_neg (by simp [he]), ih]
      split
      · rfl
      · rename_i hk
        rw [List.lookup_cons, beq_eq_false_iff_ne.mpr (by rwa [he])]
    · rw [List.filter_cons_of_pos (by simp [he]), List.lookup_cons, List.lookup_cons, ih]
      by_cases hk : k = name
      · rw [if_pos hk, if_pos hk, beq_eq_false_iff_ne.mpr (by rw [hk]; exact Ne.symm he)]
      · rw [if_neg hk, if_neg hk]

/-- A new entry changes what is found under its name, and nothing else. -/
theorem lookup_replace (entries : List (String × α)) (name : String) (a : α) (k : String) :
    (entries.filter (fun e => e.1 != name) ++ [(name, a)]).lookup k = if k = name then some a else entries.lookup k := by
  rw [List.lookup_append, lookup_filter_bne, List.lookup_cons, List.lookup_nil]
  by_cases hk : k = name
  · rw [if_pos hk, if_pos hk, beq_iff_eq.mpr hk]
    rfl
  · rw [if_neg hk, if_neg hk, beq_eq_false_iff_ne.mpr hk, Option.or_none]

/-- Where no two entries have the same name, none have it after a new one. -/
theorem nodup_replace (h : (entries.map (·.1)).Nodup) (name : String) (a : α) :
    ((entries.filter (fun e => e.1 != name) ++ [(name, a)]).map (·.1)).Nodup := by
  rw [List.map_append, List.nodup_append]
  refine ⟨h.sublist (List.filter_sublist.map _), List.pairwise_singleton _ _, ?_⟩
  rintro m hm n hn rfl
  obtain ⟨e, he, rfl⟩ := List.mem_map.mp hm
  simpa [List.mem_singleton.mp hn] using (List.mem_filter.mp he).2

end EntitySearch
