import EntitySearch.Connection.Url
import EntitySearch.Text.Blank
import EntitySearch.Text.LowerCase

/-!
# Database drivers

The driver that a URL names, and the checks it makes of the rest of the URL before anything is connected. Faults are found in
this order: options of the engine, the name, the driver's library, the driver's own options, and last whether the driver is
asynchronous.
-/

namespace EntitySearch.Connection

/-- What a driver connects to. -/
inductive Endpoint where
  /-- Servers, one of which answers. -/
  | servers
  /-- A file, or the memory of the process. -/
  | file
  deriving Repr, DecidableEq

/-- A driver whose library is at hand, or the library that is missing. -/
inductive Availability where
  | installed (endpoint : Endpoint) (asynchronous : Bool)
  | missing (library : String)
  deriving Repr, DecidableEq

/-- A dialect and the driver that speaks it. -/
structure Driver where
  dialect : String
  name : String
  deriving Repr, DecidableEq

/-- The names under which the drivers of a dialect are known; the first is the one that is taken when none is named. -/
structure Dialect where
  name : String
  drivers : List (String × Availability)

/-- The drivers of the servers that share one protocol. -/
def sharedDrivers : List (String × Availability) :=
  [("mysqldb", .missing "MySQLdb"), ("pymysql", .missing "pymysql"), ("aiomysql", .missing "aiomysql"),
   ("asyncmy", .missing "asyncmy"), ("cymysql", .missing "cymysql"), ("mysqlconnector", .missing "mysql"),
   ("pyodbc", .missing "pyodbc"), ("mariadbconnector", .missing "mariadb")]

/-- The known dialects. -/
def dialects : List Dialect :=
  [⟨"postgresql",
     [("psycopg", .missing "psycopg"), ("asyncpg", .installed .servers true), ("psycopg_async", .missing "psycopg"),
      ("psycopg2", .missing "psycopg2"), ("psycopg2cffi", .missing "psycopg2cffi"), ("pg8000", .missing "pg8000")]⟩,
   ⟨"sqlite",
     [("pysqlite", .installed .file false), ("aiosqlite", .installed .file true),
      ("pysqlcipher", .missing "pysqlcipher3")]⟩,
   ⟨"mysql", sharedDrivers⟩,
   ⟨"mariadb", sharedDrivers⟩,
   ⟨"mssql",
     [("pyodbc", .missing "pyodbc"), ("pymssql", .missing "pymssql"), ("aioodbc", .missing "aioodbc"),
      ("mssqlpython", .missing "mssql_python")]⟩,
   ⟨"oracle",
     [("oracledb", .missing "oracledb"), ("oracledb_async", .missing "oracledb"), ("cx_oracle", .missing "cx_Oracle")]⟩]

/-- The name that stands for the first driver of a dialect. -/
def firstDriver : String := "base"

/-- The driver of a dialect and a driver name, if both are known. -/
def driver? (dialect name : String) : Option (Driver × Availability) :=
  (dialects.find? fun d => d.name == dialect).bind fun d =>
    (if name == firstDriver then d.drivers.head? else d.drivers.find? fun e => e.1 == name).map fun e =>
      (⟨dialect, e.1⟩, e.2)

/-- The driver that the name in front of a URL stands for. -/
def driverOfName (name : List Char) : Except UrlFault (Driver × Availability) :=
  let known (found : Option (Driver × Availability)) : Except UrlFault (Driver × Availability) :=
    match found with
    | some e => .ok e
    | none => .error (.unknownDialect (String.ofList (name.map fun c => if c = '+' then '.' else c)))
  match splitAll '+' name with
  | [dialect] => known (driver? (String.ofList dialect) firstDriver)
  | [dialect, driver] => known (driver? (String.ofList dialect) (String.ofList driver))
  | _ => .error .tooManyNames

namespace Url

/-- The value of an option that is a whole number. -/
def integerOption (u : Url) (key : String) : Except UrlFault Unit :=
  match u.option key with
  | [] => .ok ()
  | [value] => ((Numeral.integer value).map fun _ => ()).mapError .numeral
  | _ => .error .repeatedInteger

/-- The value of an option that is a number. -/
def realOption (u : Url) (key : String) : Except UrlFault Unit :=
  match u.option key with
  | [] => .ok ()
  | [value] => if Numeral.isReal value then .ok () else .error (.unreadableReal (String.ofList value))
  | _ => .error .repeatedReal

/-- The words for a flag that is set. -/
def setWords : List String := ["true", "yes", "on", "y", "t", "1"]

/-- The words for a flag that is not set. -/
def unsetWords : List String := ["false", "no", "off", "n", "f", "0"]

/-- The value of an option that is a flag; blanks and case do not count, and one that is given more than once is set. -/
def flagOption (u : Url) (key : String) : Except UrlFault Bool :=
  match u.option key with
  | [] => .ok false
  | [value] =>
    let word := String.ofList (Text.lowerCase (Text.trim value))
    if setWords.contains word then .ok true
    else if unsetWords.contains word then .ok false
    else .error (.unreadableFlag word)
  | _ => .ok true

/-- The options that a driver of files takes for itself. -/
def fileOptions : List String :=
  ["uri", "timeout", "isolation_level", "detect_types", "check_same_thread", "cached_statements"]

/-- The check of the options that become part of a file address. -/
def checkAddress (u : Url) : Except UrlFault Unit :=
  let others := u.options.filter fun o => !(fileOptions.map String.toList).contains o.1
  if others.any fun o => o.2.length != 1 then .error .repeatedOption
  else if u.database.isNone && !others.isEmpty then .error .missingFile
  else .ok ()

/-- Whether a URL says more of a database than a file can have. -/
def namesServer (u : Url) : Bool :=
  (match u.account with
    | some a => !a.user.isEmpty || !(a.password.getD []).isEmpty
    | none => false) ||
  u.host.isSome || (u.port.getD 0) != 0

/-- The options that the engine has not taken. -/
def withoutPlugins (u : Url) : Url :=
  { u with options := u.options.filter fun o => o.1 != "plugin".toList && o.1 != "plugins".toList }

/-- The checks of a driver of files. -/
def checkFile (u : Url) : Except UrlFault Unit := do
  if u.namesServer then throw (.notAFile u.withoutPlugins.toText)
  let isAddress ← u.flagOption "uri"
  u.realOption "timeout"
  u.integerOption "detect_types"
  let _ ← u.flagOption "check_same_thread"
  u.integerOption "cached_statements"
  if isAddress then u.withoutPlugins.checkAddress

/-- The hosts that options name, the ports they name, and whether these stand behind the hosts. -/
structure Servers where
  hosts : List (List Char) := []
  ports : Option (List (Option (List Char))) := none
  together : Bool := false

/-- Whether a character may stand in the name of a host on the network. -/
def isHostChar (c : Char) : Bool := c.isAlphanum || c == '-' || c == '.'

/-- A host on the network with a port behind a colon; the port may be left out. -/
def hostAndPort? (cs : List Char) : Option (List Char × Option (List Char)) :=
  match splitWhere (· == ':') cs with
  | (host, ':' :: port) =>
    if host.all isHostChar && port.all Text.isDecimalDigit then some (host, if port.isEmpty then none else some port)
    else none
  | _ => none

/-- The servers that the values of the host option name. A single value is a list of hosts, or a host with its port; of
several values each is a host with its port. -/
def serversOf : List (List Char) → Except UrlFault Servers
  | [] => .ok {}
  | [value] =>
    match splitAll ',' value with
    | [host] =>
      match hostAndPort? host with
      | some (host, port) => .ok { hosts := [host], ports := some [port], together := true }
      | none => .ok { hosts := [host] }
    | hosts => .ok { hosts }
  | values =>
    let parts := values.map (splitAll ':')
    if parts.all fun p => 2 < p.length then .error .tooManyNames
    else .ok { hosts := parts.map (·.headD []), ports := some (parts.map fun p => p[1]?), together := true }

/-- The ports that the values of the port option name; an empty one is left out. -/
def portsOf : List (List Char) → List (Option (List Char))
  | [value] => (splitAll ',' value).map some
  | values => values.map some

/-- The servers that the options of a URL name. -/
def servers (u : Url) : Except UrlFault Servers := do
  let found ← serversOf (u.option "host")
  match u.option "port" with
  | [] => return found
  | values => if found.together then throw .mixedPorts else return { found with ports := some (portsOf values) }

/-- The numbers of ports; an empty port has none. -/
def portNumbers (ports : List (Option (List Char))) : Except UrlFault (List (Option Int)) :=
  ports.mapM fun port =>
    match port with
    | none => .ok none
    | some [] => .ok none
    | some cs =>
      match Numeral.integer cs with
      | .ok n => .ok (some n)
      | .error _ => .error (.badPorts (ports.map fun p => p.map String.ofList))

/-- Whether something is said of a port: none and zero say nothing. -/
def isPresent (port : Option Int) : Bool := port.getD 0 != 0

/-- The checks of a driver of servers. -/
def checkServers (u : Url) : Except UrlFault Unit := do
  let found ← u.servers
  let ports ← portNumbers (found.ports.getD (found.hosts.map fun _ => none))
  if found.ports.isSome && ports.length != (if found.hosts.isEmpty then 1 else found.hosts.length) then
    throw .unequalPorts
  u.integerOption "prepared_statement_cache_size"
  if 1 < found.hosts.length then
    if found.hosts.any List.isEmpty then throw .missingHost
    if !ports.all isPresent then throw .missingPort

/-- The checks of a driver. -/
def check (u : Url) : Endpoint → Except UrlFault Unit
  | .servers => u.checkServers
  | .file => u.checkFile

/-- The driver of a URL that passes every check. -/
def driver (u : Url) : Except UrlFault Driver := do
  if let plugin :: _ := u.option "plugin" then throw (.unknownPlugin (String.ofList plugin))
  let (driver, availability) ← driverOfName u.name
  match availability with
  | .missing library => throw (.missingDriver library)
  | .installed endpoint asynchronous =>
    u.check endpoint
    if asynchronous then return driver else throw (.blockingDriver driver.name)

end Url

/-- The driver that a URL names. -/
def Driver.ofUrl (url : String) : Except UrlFault Driver := do (← Url.ofText url.toList).driver

end EntitySearch.Connection
