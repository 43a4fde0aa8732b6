import EntitySearch.Settings.Cache

/-!
# Sessions

A session is what lives in one process: the context of the current request, the provider table, the settings and the services
built from them. Steps act on it one after the other. Steps run in isolation see the context of the request as it is and
change a copy of it; what else they change stays.
-/

namespace EntitySearch

/-- A service with the number that tells it from other services of its session. -/
structure NumberedService where
  number : Nat
  service : Service

/-- The state of a session. -/
structure Session where
  request : SearchContext := {}
  providers : ProviderTable := ProviderTable.standard
  settings : SettingsCache := {}
  /-- The service of the process, once it is built. -/
  shared : Option NumberedService := none
  /-- The service the session searches with. -/
  current : Option NumberedService := none
  /-- The number of services built so far. -/
  built : Nat := 0

/-- What a service is set up from. -/
inductive ServiceSource where
  | config (c : SearchConfig)
  | settings (s : SettingsSources)

/-- A step of a session. -/
inductive Step where
  | setTenant (id : Option String)
  | setUser (id : Option String)
  | clearUser
  | context
  | isolated (steps : List Step)
  | register (name : String) (p : Provider)
  | create (name : Option String)
  | supported
  | assign (changes : List (String × Option String))
  | getSettings
  | clearSettings
  | getService
  | clearService
  /-- Builds a service of the session's own; without a registry the step fails. -/
  | buildService (source : ServiceSource) (registry : Except Failure Registry)
  /-- Searches with the session's service; without a request the step fails. -/
  | search (request : Except Failure SearchRequest)
  deriving Inhabited

/-- What a step answers. -/
inductive Reply where
  | nothing
  | id (id : Option String)
  | context (c : SearchContext)
  | replies (rs : List Reply)
  | registered (supported : List String) (logs : List LogLine)
  | provider (p : Provider)
  | names (names : List String)
  | settings (s : Settings)
  /-- The service of the process, and whether the session held it before. -/
  | service (same : Bool) (config : SearchConfig)
  | config (c : SearchConfig)
  | search (outcome : SearchOutcome)
  /-- A search that never started: nothing is logged and no span is there. -/
  | searchRefused (e : Failure)
  | failed (e : Failure)

/-- The configuration that a source asks for; settings see the environment of the process as well. -/
def ServiceSource.config? (environment : Environment) : ServiceSource → Except Failure SearchConfig
  | .config c => .ok c
  | .settings s =>
    (Settings.load { s with
      environment := environment.assignAll (s.environment.map fun e => (e.1, some e.2)) }).map SearchConfig.ofSettings

namespace Session

/-- The session with a service as its own. -/
def adopt (s : Session) (service : Service) : Session :=
  { s with current := some ⟨s.built, service⟩, built := s.built + 1 }

/-- The answer when a service is asked for again. -/
def serviceReply (s : Session) (n : NumberedService) : Session × Reply :=
  ({ s with current := some n }, .service (s.current.any fun c => c.number == n.number) n.service.config)

/-- The service of the process, built from the settings if need be. -/
def getService (s : Session) : Session × Reply :=
  match s.shared with
  | some n => s.serviceReply n
  | none =>
    let (loaded, cache) := s.settings.get
    let s := { s with settings := cache }
    match loaded with
    | .error e => (s, .failed e)
    | .ok settings =>
      let n : NumberedService := ⟨s.built, { config := .ofSettings settings }⟩
      serviceReply { s with shared := some n, built := s.built + 1 } n

/-- Builds a service of the session's own. -/
def buildService (s : Session) (source : ServiceSource) (registry : Except Failure Registry) : Session × Reply :=
  match registry, source.config? s.settings.environment with
  | .error e, _ => (s, .failed e)
  | _, .error e => (s, .failed e)
  | .ok r, .ok c => (s.adopt ⟨c, r⟩, .config c)

/-- Searches with the session's service. -/
def search (s : Session) (r : SearchRequest) : Reply :=
  match s.current with
  | none => .searchRefused .noService
  | some n => .search (n.service.search ⟨s.providers, s.request⟩ r)

mutual

/-- Runs a step. -/
def run (s : Session) : Step → Session × Reply
  | .setTenant id => ({ s with request := { s.request with tenantId := id } }, .id id)
  | .setUser id => ({ s with request := { s.request with actorId := id } }, .id id)
  | .clearUser => ({ s with request := { s.request with actorId := none } }, .id none)
  | .context => (s, .context s.request)
  | .isolated steps =>
    let (after, replies) := runAll s steps
    ({ after with request := s.request }, .replies replies)
  | .register name p =>
    let providers := s.providers.register name p
    ({ s with providers }, .registered providers.supported [ProviderTable.registrationLine name])
  | .create name =>
    match s.providers.create name with
    | .ok p => (s, .provider p)
    | .error e => (s, .failed e)
  | .supported => (s, .names s.providers.supported)
  | .assign changes => ({ s with settings := s.settings.assign changes }, .nothing)
  | .getSettings =>
    let (loaded, cache) := s.settings.get
    ({ s with settings := cache },
      match loaded with
      | .ok settings => .settings settings
      | .error e => .failed e)
  | .clearSettings => ({ s with settings := s.settings.clear }, .nothing)
  | .getService => s.getService
  | .clearService => ({ s with shared := none }, .nothing)
  | .buildService source registry => s.buildService source registry
  | .search (.ok r) => (s, s.search r)
  | .search (.error e) => (s, .searchRefused e)

/-- Runs steps one after the other. -/
def runAll (s : Session) : List Step → Session × List Reply
  | [] => (s, [])
  | step :: steps =>
    let (next, reply) := run s step
    let (last, replies) := runAll next steps
    (last, reply :: replies)

end

end Session

end EntitySearch
