import EntitySearch.Number.Numeral
import EntitySearch.Value

/-!
# Failures

What can go wrong, by cause. The failures of the search itself carry a code and details for the caller; the others have a
message only. `Failure.message` words all of them.
-/

namespace EntitySearch

/-- The failures that callers are meant to answer: each has a code and details besides its message. -/
inductive DomainError where
  /-- Any other failure of the application, as its raiser describes it. -/
  | general (message : Value) (code : Value) (details : Value)
  /-- The normalized query is longer than the limit. -/
  | queryTooLong (limit : Value)
  /-- No definition is registered for the entity asked for. -/
  | unknownEntity (key : Value)
  /-- The configured provider name has no implementation. -/
  | unknownProvider (name : Value) (supported : Option Value)
  /-- An operation needs a database and none is configured. -/
  | databaseNotConfigured
  deriving Repr, Inhabited

namespace DomainError

/-- The message of a failure. -/
def message : DomainError → String
  | .general m _ _ => m.display
  | .queryTooLong limit => "Search query exceeds maximum length of " ++ limit.display ++ " characters"
  | .unknownEntity key => "Search definition not found for " ++ key.quoted
  | .unknownProvider name _ => "Unknown search provider: " ++ name.quoted
  | .databaseNotConfigured => "This operation requires a SQL database that is not configured."

/-- The code of a failure; none when it is the name of the failure's kind. -/
def code? : DomainError → Option Value
  | .general _ code _ => if code.isBlank then none else some code
  | .queryTooLong _ => some (.text "QUERY_TOO_LONG")
  | .unknownEntity _ => some (.text "UNKNOWN_SEARCH_ENTITY")
  | .unknownProvider _ _ => some (.text "UNKNOWN_SEARCH_PROVIDER")
  | .databaseNotConfigured => some (.text "SERVICE_UNAVAILABLE")

/-- The details of a failure. -/
def details : DomainError → Value
  | .general _ _ details => if details.isBlank then .dict [] else details
  | .queryTooLong limit => .dict [("max_length", limit)]
  | .unknownEntity key => .dict [("entity", .text key.display)]
  | .unknownProvider name supported =>
    .dict (("provider", name) :: (supported.map fun names => ("supported", names)).toList)
  | .databaseNotConfigured => .dict []

end DomainError

/-- Why a field of the settings, or the settings as a whole, are refused. -/
inductive SettingsFault where
  | notText
  | notInteger
  | fractional
  | unreadableInteger
  | oversizedInteger
  | notBoolean
  | unreadableBoolean
  | blankProvider
  | negativeQueryLength (n : Int)
  | negativeResultCap (n : Int)
  deriving Repr, DecidableEq

/-- The message of a fault. -/
def SettingsFault.message : SettingsFault → String
  | .notText => "Input should be a valid string"
  | .notInteger => "Input should be a valid integer"
  | .fractional => "Input should be a valid integer, got a number with a fractional part"
  | .unreadableInteger => "Input should be a valid integer, unable to parse string as an integer"
  | .oversizedInteger => "Unable to parse input string as an integer, exceeded maximum size"
  | .notBoolean => "Input should be a valid boolean"
  | .unreadableBoolean => "Input should be a valid boolean, unable to interpret input"
  | .blankProvider => "Value error, SEARCH_PROVIDER must be a non-empty provider name."
  | .negativeQueryLength n => "Value error, SEARCH_QUERY_MAX_LENGTH must be >= 0, got: " ++ toString n
  | .negativeResultCap n => "Value error, SEARCH_MAX_RESULTS must be >= 0, got: " ++ toString n

/-- A fault and the field it concerns; none for the settings as a whole. -/
structure SettingsError where
  field : Option String
  fault : SettingsFault
  deriving Repr, DecidableEq

/-- A constraint that a change of the stored rows violates. -/
inductive Violation where
  | notNull (table column : String)
  | unique (table : String) (columns : List String)
  deriving Repr, DecidableEq

/-- The message of a violated constraint. -/
def Violation.message : Violation → String
  | .notNull table column => "NOT NULL constraint failed: " ++ table ++ "." ++ column
  | .unique table columns => "UNIQUE constraint failed: " ++ ", ".intercalate (columns.map fun c => table ++ "." ++ c)

/-- Why a database URL is refused. -/
inductive UrlFault where
  /-- The text is no URL. -/
  | unreadable
  /-- A whole number is asked for and the text is none. -/
  | numeral (fault : Numeral.Fault)
  /-- A number is asked for and the text is none. -/
  | unreadableReal (text : String)
  /-- A truth value is asked for and the text is none. -/
  | unreadableFlag (text : String)
  /-- An option that is a whole number is given more than once. -/
  | repeatedInteger
  /-- An option that is a number is given more than once. -/
  | repeatedReal
  /-- An option that becomes part of a file address is given more than once. -/
  | repeatedOption
  /-- A file address has options but no file. -/
  | missingFile
  | unknownPlugin (name : String)
  /-- The name in front holds more than a dialect and a driver. -/
  | tooManyNames
  /-- The dialect is not known. -/
  | unknownDialect (name : String)
  /-- The driver's library is not installed. -/
  | missingDriver (library : String)
  /-- A database that is a file is given an account, a host or a port; the URL is shown. -/
  | notAFile (url : String)
  /-- Ports stand both behind the hosts and by themselves. -/
  | mixedPorts
  /-- Some of the ports are no whole numbers. -/
  | badPorts (ports : List (Option String))
  /-- There are not as many ports as hosts. -/
  | unequalPorts
  /-- One of several hosts is left out. -/
  | missingHost
  /-- The port of one of several hosts is left out. -/
  | missingPort
  /-- The driver is not asynchronous. -/
  | blockingDriver (driver : String)
  deriving Repr, DecidableEq

namespace UrlFault

/-- The most characters of an unreadable whole number, with its quotes, that a message shows. -/
def shownNumeral : Nat := 200

/-- Values between parentheses; a single one is followed by a comma. -/
def tuple (items : List Value) : String :=
  "(" ++ ", ".intercalate (items.map Value.quoted) ++ (if items.length = 1 then "," else "") ++ ")"

/-- The message of a refused URL. -/
def message : UrlFault → String
  | .unreadable => "Could not parse SQLAlchemy URL from given URL string"
  | .numeral (.unreadable text) =>
    "invalid literal for int() with base 10: " ++ String.ofList ((Text.quoted text).toList.take shownNumeral)
  | .numeral (.oversized digits) =>
    "Exceeds the limit (" ++ toString Numeral.mostDigits ++ " digits) for integer string conversion: value has " ++
      toString digits ++ " digits; use sys.set_int_max_str_digits() to increase the limit"
  | .unreadableReal text => "could not convert string to float: " ++ Text.quoted text
  | .unreadableFlag text => "String is not true/false: " ++ Text.quoted text
  | .repeatedInteger => "int() argument must be a string, a bytes-like object or a real number, not 'tuple'"
  | .repeatedReal => "float() argument must be a string or a real number, not 'tuple'"
  | .repeatedOption => "quote_from_bytes() expected bytes"
  | .missingFile => "unsupported operand type(s) for +=: 'NoneType' and 'str'"
  | .unknownPlugin name => "Can't load plugin: sqlalchemy.plugins:" ++ name
  | .tooManyNames => "too many values to unpack (expected 2)"
  | .unknownDialect name => "Can't load plugin: sqlalchemy.dialects:" ++ name
  | .missingDriver library => "No module named " ++ Text.quoted library
  | .notAFile url =>
    "Invalid SQLite URL: " ++ url ++ "\nValid SQLite URL forms are:\n sqlite:///:memory: (or, sqlite://)\n " ++
      "sqlite:///relative/path/to/file.db\n sqlite:////absolute/path/to/file.db"
  | .mixedPorts =>
    "Can't mix 'multihost' formats together; use \"host=h1,h2,h3&port=p1,p2,p3\" or " ++
      "\"host=h1:p1&host=h2:p2&host=h3:p3\" separately"
  | .badPorts ports => "Received non-integer port arguments: " ++ tuple (ports.map Value.ofText?)
  | .unequalPorts => "number of hosts and ports don't match"
  | .missingHost => "All hosts are required to be present for asyncpg multiple host URL"
  | .missingPort => "All ports are required to be present for asyncpg multiple host URL"
  | .blockingDriver driver =>
    "The asyncio extension requires an async driver to be used. The loaded " ++ Text.quoted driver ++ " is not async."

end UrlFault

/-- What can go wrong. -/
inductive Failure where
  | domain (e : DomainError)
  /-- Something that is no node stands in an expression. -/
  | unsupportedNode (kind : Value.Kind)
  | unknownTable (name : String)
  | unknownColumn (table name : String)
  /-- A segment of a join path is no relationship of the entity it is taken from. -/
  | noRelationship (entity name path : String)
  /-- A statement selects no entity. -/
  | unmappedSelect
  /-- A condition that is plain text is given to a statement. -/
  | textCondition (text : String)
  /-- A statement that selects nothing follows a relationship. -/
  | noColumns
  /-- A whole number is too large for the database. -/
  | oversizedInteger
  | duplicateDefinition (entity : String)
  | notAnEntity (value : Value)
  | settings (errors : List SettingsError)
  | constraint (v : Violation)
  | url (fault : UrlFault)
  /-- A search is asked for before there is a service. -/
  | noService
  /-- A value that cannot be a member of a set. -/
  | unhashable (kind : Value.Kind)
  /-- A failure of a traced function that is not the library's own. -/
  | foreign (kind : String) (message : String)
  deriving Repr, Inhabited

/-- A text as messages about it show it: at most 25 characters, then dots. -/
def abridged (s : String) : String :=
  if s.toList.length ≤ 25 then s else String.ofList (s.toList.take 25) ++ "..."

/-- The message of a failure. -/
def Failure.message : Failure → String
  | .domain e => e.message
  | .unsupportedNode kind => "Unsupported search expression: " ++ kind.name
  | .unknownTable name => "Unknown table in search expression: " ++ Text.quoted name
  | .unknownColumn table name => "Unknown column in search expression: " ++ table ++ "." ++ name
  | .noRelationship entity name path =>
    entity ++ " has no relationship " ++ Text.quoted name ++ " (path " ++ Text.quoted path ++ ")"
  | .unmappedSelect => "Select must target a mapped entity"
  | .textCondition text =>
    let shown := Text.quoted (abridged text)
    "Textual SQL expression " ++ shown ++ " should be explicitly declared as text(" ++ shown ++ ")"
  | .noColumns => "Query contains no columns with which to SELECT from."
  | .oversizedInteger => "Python int too large to convert to SQLite INTEGER"
  | .duplicateDefinition entity => "Duplicate search definition for " ++ Text.quoted entity
  | .notAnEntity value => value.quoted ++ " is not a valid SearchEntity"
  | .settings errors => toString errors.length
  | .constraint v => v.message
  | .url fault => fault.message
  | .noService => "'NoneType' object has no attribute 'search'"
  | .unhashable kind => "unhashable type: '" ++ kind.name ++ "'"
  | .foreign _ message => message

end EntitySearch
