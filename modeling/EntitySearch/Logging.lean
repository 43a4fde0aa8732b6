import EntitySearch.Settings.Cache

/-!
# Setting up the logs

The first set-up gives the root logger its level and a handler to standard output; later ones leave both alone. Every set-up
keeps the loggers of two talkative libraries at the level of information or above.
-/

namespace EntitySearch.Logging

/-- The level of debugging messages. -/
def debugLevel : Int := 10

/-- The level of informative messages. -/
def infoLevel : Int := 20

/-- The level of warnings, which the root logger starts from. -/
def warningLevel : Int := 30

/-- The layout of log lines. -/
def lineFormat : String := "%(asctime)s - %(name)s - %(levelname)s - %(message)s"

/-- The state of the logs of a process. -/
structure State where
  settings : SettingsCache := {}
  rootLevel : Int := warningLevel
  /-- The layouts of the handlers of the root logger; each writes to standard output. -/
  handlers : List String := []
  /-- The level of the two talkative loggers. -/
  quietLevel : Int := 0
  deriving Inhabited

/-- Sets the logs up, at the given level or at the one that the settings ask for. The settings are loaded in either case. -/
def State.setUp (s : State) (level : Option Int) : Except Failure Unit × State :=
  let (loaded, cache) := s.settings.get
  let s := { s with settings := cache }
  match loaded with
  | .error e => (.error e, s)
  | .ok settings =>
    let level := level.getD (if settings.debug then debugLevel else infoLevel)
    let s := if s.handlers.isEmpty then { s with rootLevel := level, handlers := [lineFormat] } else s
    (.ok (), { s with quietLevel := max level infoLevel })

end EntitySearch.Logging
