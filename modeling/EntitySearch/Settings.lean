import EntitySearch.Service
import EntitySearch.Settings.Reading

/-!
# Settings

Six settings, each taken from the first of four places that has it: the arguments of the constructor, the environment, a
file of environment variables, a default. All fields are read before the limits and the provider name are checked, and the
first of these checks that fails is the one reported.
-/

namespace EntitySearch

/-- The settings of the application. -/
structure Settings where
  debug : Bool := false
  databaseUrl : String := ""
  databaseEcho : Bool := false
  searchProvider : String := "postgres"
  /-- The greatest length of a query; zero for any length. -/
  searchQueryMaxLength : Int := 256
  /-- The greatest number of results; zero for any number. -/
  searchMaxResults : Int := 500
  deriving Repr, DecidableEq, Inhabited

/-- Variables of an environment, in the order in which they were set. -/
abbrev Environment := List (String × String)

namespace Environment

/-- The environment with a variable set, or removed. -/
def assign (env : Environment) (name : String) (value : Option String) : Environment :=
  match value with
  | none => env.filter fun e => e.1 != name
  | some v =>
    if env.any (fun e => e.1 == name) then env.map fun e => if e.1 == name then (name, v) else e
    else env ++ [(name, v)]

/-- The environment with several variables set or removed. -/
def assignAll (env : Environment) (changes : List (String × Option String)) : Environment :=
  changes.foldl (fun e c => e.assign c.1 c.2) env

end Environment

/-- Where settings are taken from, besides the defaults. -/
structure SettingsSources where
  /-- The arguments of the constructor. -/
  arguments : List (String × Value) := []
  environment : Environment := []
  /-- The variables that are read from a file of environment variables, in order. One that is named without a value has none. -/
  file : List (String × Option String) := []
  deriving Inhabited

namespace SettingsSources

/-- Whether a name is the one of a field, but for the case of its letters. -/
def names (field name : String) : Bool := String.ofList (Text.lowerCase name.toList) == field

/-- What the last variable of a field's name holds. -/
def lastOf? {α : Type} (entries : List (String × α)) (field : String) : Option α :=
  (entries.reverse.find? fun v => names field v.1).map (·.2)

/-- The value given for a field: by the first argument of its name, or else by the last variable of its name in the environment,
or else by the last one of the file. -/
def find? (s : SettingsSources) (field : String) : Option Value :=
  ((s.arguments.find? fun a => names field a.1).map (·.2)).or
    (((lastOf? s.environment field).or (lastOf? s.file field).join).map Value.text)

end SettingsSources

namespace Settings

/-- Reads a field, or takes its default. -/
def field {α : Type} (s : SettingsSources) (name : String) (read : Value → Except SettingsFault α) (default : α) :
    Except SettingsError α :=
  match s.find? name with
  | none => .ok default
  | some v => (read v).mapError fun fault => ⟨some name, fault⟩

/-- The error of a field, if it has one. -/
def errors {α : Type} : Except SettingsError α → List SettingsError
  | .ok _ => []
  | .error e => [e]

/-- The first check that settings fail: the provider has a name, and neither limit is negative. -/
def fault? (s : Settings) : Option SettingsFault :=
  if (Text.trim s.searchProvider.toList).isEmpty then some .blankProvider
  else if s.searchQueryMaxLength < 0 then some (.negativeQueryLength s.searchQueryMaxLength)
  else if s.searchMaxResults < 0 then some (.negativeResultCap s.searchMaxResults)
  else none

/-- Settings that pass every check. -/
def checked (s : Settings) : Except Failure Settings :=
  match s.fault? with
  | none => .ok s
  | some fault => .error (.settings [⟨none, fault⟩])

/-- Loads the settings. -/
def load (s : SettingsSources) : Except Failure Settings :=
  let debug := field s "debug" boolean false
  let databaseUrl := field s "database_url" text ""
  let databaseEcho := field s "database_echo" boolean false
  let searchProvider := field s "search_provider" text "postgres"
  let searchQueryMaxLength := field s "search_query_max_length" integer 256
  let searchMaxResults := field s "search_max_results" integer 500
  match debug, databaseUrl, databaseEcho, searchProvider, searchQueryMaxLength, searchMaxResults with
  | .ok debug, .ok databaseUrl, .ok databaseEcho, .ok searchProvider, .ok searchQueryMaxLength, .ok searchMaxResults =>
    checked { debug, databaseUrl, databaseEcho, searchProvider, searchQueryMaxLength, searchMaxResults }
  | _, _, _, _, _, _ =>
    .error (.settings (errors debug ++ errors databaseUrl ++ errors databaseEcho ++ errors searchProvider ++
      errors searchQueryMaxLength ++ errors searchMaxResults))

end Settings

namespace SearchConfig

/-- A limit of the settings: zero is none. -/
def limit? (n : Int) : Option Int := if n = 0 then none else some n

/-- The configuration that settings ask for. -/
def ofSettings (s : Settings) : SearchConfig :=
  ⟨some s.searchProvider, limit? s.searchQueryMaxLength, limit? s.searchMaxResults⟩

end SearchConfig

end EntitySearch
