import Mathlib.Data.List.TakeWhile
import EntitySearch.Proofs.FirstItems
import EntitySearch.Proofs.Words
import EntitySearch.Settings

/-!
# Settings and their sources

Each field of the settings is given by the first source that has a value for it: the arguments, the environment, the file
(`SettingsSources.Gives`). It is read from that value, or left at its default (`SettingsSources.ReadsAs`). Settings whose fields
can be read so pass their checks, or fail the first one that they violate (`Settings.load_of_reads`).
-/

namespace EntitySearch

/-- Nothing is left of a text without the blanks around it when it has nothing but blanks. -/
theorem Text.trim_eq_nil_iff {cs : List Char} : Text.trim cs = [] ↔ ∀ c ∈ cs, Text.isBlank c = true := by
  constructor
  · intro h
    obtain ⟨before, after, hcs, hbefore, hafter⟩ := Text.exists_trim cs
    rw [h, List.nil_append] at hcs
    rw [hcs]
    exact List.forall_mem_append.mpr ⟨hbefore, hafter⟩
  · intro h
    have hnil : cs.dropWhile Text.isBlank = [] := List.dropWhile_eq_nil_iff.mpr h
    rw [Text.trim, hnil, List.reverse_nil, List.dropWhile_nil, List.reverse_nil]

/-! ## Sources -/

namespace SettingsSources

/-- Whether a name, in lower case, is the one of a field. -/
def IsNameOf (field name : String) : Prop := String.ofList (Text.lowerCase name.toList) = field

/-- Whether the last variable of a field's name holds something. -/
def Holds {α : Type} (entries : List (String × α)) (field : String) (x : α) : Prop :=
  ∃ name, IsLast (fun e => IsNameOf field e.1) entries (name, x)

/-- Whether a field is given a value. The arguments come first, and of them the first one of the field's name. Then comes the
environment, and last the file, where a variable can be named without a value. -/
inductive Gives (s : SettingsSources) (field : String) : Value → Prop where
  | argument {name : String} {v : Value} : IsFirst (fun a => IsNameOf field a.1) s.arguments (name, v) → Gives s field v
  | environment {text : String} : (∀ a ∈ s.arguments, ¬IsNameOf field a.1) → Holds s.environment field text →
      Gives s field (.text text)
  | file {text : String} : (∀ a ∈ s.arguments, ¬IsNameOf field a.1) → (∀ e ∈ s.environment, ¬IsNameOf field e.1) →
      Holds s.file field (some text) → Gives s field (.text text)

section

variable {α : Type} {entries : List (String × α)} {field : String} {x : α}

/-- The test for names decides whether a name is the field's. -/
theorem names_eq_true_iff {name : String} : names field name = true ↔ IsNameOf field name := beq_iff_eq

/-- What is found under a field's name stands in the first entry of that name. -/
theorem find?_names_eq_some_iff : (entries.find? fun e => names field e.1).map (·.2) = some x ↔
    ∃ name, IsFirst (fun e => IsNameOf field e.1) entries (name, x) := by
  simp only [Option.map_eq_some_iff, find?_eq_some_iff_isFirst, names_eq_true_iff, Prod.exists, exists_eq_right]

/-- Nothing is found under a field's name when no entry has that name. -/
theorem find?_names_eq_none_iff : (entries.find? fun e => names field e.1).map (·.2) = none ↔
    ∀ e ∈ entries, ¬IsNameOf field e.1 := by
  simp only [Option.map_eq_none_iff, List.find?_eq_none, names_eq_true_iff]

/-- What is found among variables is what the last one of the name holds. -/
theorem lastOf?_eq_some_iff : lastOf? entries field = some x ↔ Holds entries field x := by
  simp only [lastOf?, find?_names_eq_some_iff, isFirst_reverse, Holds]

/-- Nothing is found when no variable has the name. -/
theorem lastOf?_eq_none_iff : lastOf? entries field = none ↔ ∀ e ∈ entries, ¬IsNameOf field e.1 := by
  simp only [lastOf?, find?_names_eq_none_iff, List.mem_reverse]

end

variable {s : SettingsSources} {field : String} {v : Value}

/-- What is found for a field is what it is given. -/
theorem find?_eq_some_iff : s.find? field = some v ↔ s.Gives field v := by
  rw [find?, Option.or_eq_some_iff, find?_names_eq_some_iff, find?_names_eq_none_iff, Option.map_eq_some_iff]
  constructor
  · rintro (⟨name, hname⟩ | ⟨harguments, text, htext, rfl⟩)
    · exact .argument hname
    · rcases Option.or_eq_some_iff.mp htext with henvironment | ⟨henvironment, hfile⟩
      · exact .environment harguments (lastOf?_eq_some_iff.mp henvironment)
      · exact .file harguments (lastOf?_eq_none_iff.mp henvironment)
          (lastOf?_eq_some_iff.mp (Option.join_eq_some_iff.mp hfile))
  · rintro (⟨hname⟩ | ⟨harguments, henvironment⟩ | ⟨harguments, henvironment, hfile⟩)
    · exact .inl ⟨_, hname⟩
    · exact .inr ⟨harguments, _, Option.or_eq_some_iff.mpr (.inl (lastOf?_eq_some_iff.mpr henvironment)), rfl⟩
    · refine .inr ⟨harguments, _, Option.or_eq_some_iff.mpr (.inr ⟨lastOf?_eq_none_iff.mpr henvironment, ?_⟩), rfl⟩
      exact Option.join_eq_some_iff.mpr (lastOf?_eq_some_iff.mpr hfile)

/-- Whether a field comes out as something: it is given a value that is read so, or is given none and has its default. -/
def ReadsAs {α : Type} (s : SettingsSources) (field : String) (read : Value → Except SettingsFault α) (default x : α) : Prop :=
  (∃ v, s.Gives field v ∧ read v = .ok x) ∨ (∀ v, ¬s.Gives field v) ∧ x = default

/-- Whether every field of the settings can be read, and what is read. -/
structure Reads (sources : SettingsSources) (read : Settings) : Prop where
  debug : sources.ReadsAs "debug" Settings.boolean false read.debug
  databaseUrl : sources.ReadsAs "database_url" Settings.text "" read.databaseUrl
  databaseEcho : sources.ReadsAs "database_echo" Settings.boolean false read.databaseEcho
  searchProvider : sources.ReadsAs "search_provider" Settings.text "postgres" read.searchProvider
  searchQueryMaxLength : sources.ReadsAs "search_query_max_length" Settings.integer 256 read.searchQueryMaxLength
  searchMaxResults : sources.ReadsAs "search_max_results" Settings.integer 500 read.searchMaxResults

end SettingsSources

/-- A field is loaded as what it comes out as. -/
theorem Settings.field_eq_ok_iff {α : Type} {s : SettingsSources} {name : String} {read : Value → Except SettingsFault α}
    {default x : α} : field s name read default = .ok x ↔ s.ReadsAs name read default x := by
  rw [field, SettingsSources.ReadsAs]
  cases hfound : s.find? name with
  | none =>
    have hnone : ∀ v, ¬s.Gives name v := fun v hv => by
      rw [← SettingsSources.find?_eq_some_iff, hfound] at hv
      cases hv
    simp [hnone, eq_comm]
  | some v =>
    have hunique : ∀ w, s.Gives name w ↔ w = v := fun w => by
      rw [← SettingsSources.find?_eq_some_iff, hfound, Option.some.injEq, eq_comm]
    simp only [hunique, exists_eq_left, forall_eq, false_and, or_false]
    cases read v <;> simp [Except.mapError]

/-! ## Loading -/

namespace Settings

variable {sources : SettingsSources} {read s : Settings}

/-- Whether the provider of settings has no name. -/
def IsUnnamed (s : Settings) : Prop := ∀ c ∈ s.searchProvider.toList, Text.isBlank c = true

/-- A provider without a name is the first thing that is checked. -/
theorem fault?_of_isUnnamed (h : s.IsUnnamed) : s.fault? = some .blankProvider := by
  rw [fault?, Text.trim_eq_nil_iff.mpr h]
  rfl

/-- With a name for the provider the limits are checked, that on queries first. -/
theorem fault?_of_named (h : ¬s.IsUnnamed) : s.fault? =
    if s.searchQueryMaxLength < 0 then some (.negativeQueryLength s.searchQueryMaxLength)
    else if s.searchMaxResults < 0 then some (.negativeResultCap s.searchMaxResults)
    else none := by
  have htrim : (Text.trim s.searchProvider.toList).isEmpty = false := by
    rw [Bool.eq_false_iff, Ne, List.isEmpty_iff]
    exact mt Text.trim_eq_nil_iff.mp h
  rw [fault?, htrim]
  rfl

theorem fault?_of_negativeQueryLength (hname : ¬s.IsUnnamed) (h : s.searchQueryMaxLength < 0) :
    s.fault? = some (.negativeQueryLength s.searchQueryMaxLength) := by
  rw [fault?_of_named hname, if_pos h]

theorem fault?_of_negativeResultCap (hname : ¬s.IsUnnamed) (hlength : 0 ≤ s.searchQueryMaxLength)
    (h : s.searchMaxResults < 0) : s.fault? = some (.negativeResultCap s.searchMaxResults) := by
  rw [fault?_of_named hname, if_neg (Int.not_lt.mpr hlength), if_pos h]

/-- Settings pass every check when their provider has a name and neither limit is negative. -/
theorem fault?_eq_none_iff : s.fault? = none ↔ ¬s.IsUnnamed ∧ 0 ≤ s.searchQueryMaxLength ∧ 0 ≤ s.searchMaxResults := by
  by_cases hname : s.IsUnnamed
  · simp [fault?_of_isUnnamed hname, hname]
  · by_cases hlength : s.searchQueryMaxLength < 0
    · simp [fault?_of_negativeQueryLength hname hlength, Int.not_le.mpr hlength]
    · by_cases hresults : s.searchMaxResults < 0
      · simp [fault?_of_negativeResultCap hname (Int.not_lt.mp hlength) hresults, Int.not_le.mpr hresults]
      · simp [fault?_of_named hname, hname, hlength, hresults, Int.not_lt.mp hlength, Int.not_lt.mp hresults]

/-- Settings whose fields can be read are loaded when they pass the checks. -/
theorem load_of_reads (h : sources.Reads read) : load sources = read.checked := by
  rw [load, field_eq_ok_iff.mpr h.debug, field_eq_ok_iff.mpr h.databaseUrl, field_eq_ok_iff.mpr h.databaseEcho,
    field_eq_ok_iff.mpr h.searchProvider, field_eq_ok_iff.mpr h.searchQueryMaxLength, field_eq_ok_iff.mpr h.searchMaxResults]

/-- Checked settings are the settings themselves. -/
theorem checked_eq_ok_iff : s.checked = .ok read ↔ read = s ∧ s.fault? = none := by
  unfold checked
  cases hfault : s.fault? <;> simp [eq_comm]

/-- Settings whose fields can be read are loaded as they are read, when they pass the checks. -/
theorem load_eq_ok_iff (h : sources.Reads read) :
    load sources = .ok s ↔ s = read ∧ ¬read.IsUnnamed ∧ 0 ≤ read.searchQueryMaxLength ∧ 0 ≤ read.searchMaxResults := by
  rw [load_of_reads h, checked_eq_ok_iff, fault?_eq_none_iff]

/-- Settings whose fields can be read fail to load with the first check that they violate. -/
theorem load_of_fault? (h : sources.Reads read) {fault : SettingsFault} (hfault : read.fault? = some fault) :
    load sources = .error (.settings [⟨none, fault⟩]) := by
  rw [load_of_reads h, checked, hfault]

/-- Settings that are loaded are what their fields read, and pass every check. -/
theorem reads_of_load (h : load sources = .ok s) : sources.Reads s ∧ s.fault? = none := by
  rw [load] at h
  split at h
  · rename_i hdebug hurl hecho hprovider hlength hresults
    obtain ⟨rfl, hfault⟩ := checked_eq_ok_iff.mp h
    exact ⟨⟨field_eq_ok_iff.mp hdebug, field_eq_ok_iff.mp hurl, field_eq_ok_iff.mp hecho, field_eq_ok_iff.mp hprovider,
      field_eq_ok_iff.mp hlength, field_eq_ok_iff.mp hresults⟩, hfault⟩
  · cases h

end Settings

end EntitySearch
