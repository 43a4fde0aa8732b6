import EntitySearch.Settings

/-!
# Cached settings

Settings are loaded from the environment and the file beside it when they are first asked for, and kept until the cache is
cleared. A failed load leaves nothing in the cache.
-/

namespace EntitySearch

/-- The environment of a process and the settings it has loaded. -/
structure SettingsCache where
  environment : Environment := []
  /-- The variables of the file of environment variables, if the process has one. -/
  file : List (String × Option String) := []
  loaded : Option Settings := none
  deriving Inhabited

namespace SettingsCache

/-- The settings, loaded if need be. -/
def get (c : SettingsCache) : Except Failure Settings × SettingsCache :=
  match c.loaded with
  | some s => (.ok s, c)
  | none =>
    match Settings.load { environment := c.environment, file := c.file } with
    | .ok s => (.ok s, { c with loaded := some s })
    | .error e => (.error e, c)

/-- The cache without settings. -/
def clear (c : SettingsCache) : SettingsCache := { c with loaded := none }

/-- The cache with variables of the environment set or removed; settings already loaded stay. -/
def assign (c : SettingsCache) (changes : List (String × Option String)) : SettingsCache :=
  { c with environment := c.environment.assignAll changes }

end SettingsCache

end EntitySearch
