import EntitySearch.Failure
import EntitySearch.Text.Percent
import EntitySearch.Text.Word

/-!
# Database URLs

A URL names a dialect and a driver, then an account, a host with a port, a database and options; all but the name may be left
out. The account, the database and the options are percent-encoded. `Url.ofText` reads a URL and `Url.toText` writes it with
the password hidden.
-/

namespace EntitySearch.Connection

/-- Who connects. -/
structure Account where
  user : List Char
  password : Option (List Char) := none
  deriving Repr, DecidableEq

/-- A database URL. -/
structure Url where
  /-- The dialect, with a plus sign and the driver behind it if one is named. -/
  name : List Char
  account : Option Account := none
  host : Option (List Char) := none
  port : Option Int := none
  database : Option (List Char) := none
  /-- The values of each option, options in the order of their first values. -/
  options : List (List Char × List (List Char)) := []
  deriving Repr, DecidableEq

/-- What stands before and behind the last occurrence of a character. -/
def splitLast? (mark : Char) : List Char → Option (List Char × List Char)
  | [] => none
  | c :: cs =>
    match splitLast? mark cs with
    | some (before, behind) => some (c :: before, behind)
    | none => if c = mark then some ([], cs) else none

/-- What stands before the first character with a property, and the rest from there on. -/
def splitWhere (p : Char → Bool) (cs : List Char) : List Char × List Char :=
  (cs.takeWhile fun c => !p c, cs.dropWhile fun c => !p c)

/-- The parts between separators. -/
def splitAll (separator : Char) : List Char → List (List Char)
  | [] => [[]]
  | c :: cs =>
    if c = separator then [] :: splitAll separator cs
    else
      match splitAll separator cs with
      | [] => [[c]]
      | part :: parts => (c :: part) :: parts

namespace Url

/-- Splits off the account, as it is written. A password lies between the first colon and the first at sign behind it; without
one the account ends before the last at sign in front of the first colon or slash. -/
def splitAccount (cs : List Char) : Option Account × List Char :=
  let (front, behind) := splitWhere (fun c => c == ':' || c == '/') cs
  let withoutPassword := match splitLast? '@' front with
    | some (user, host) => (some { user }, host ++ behind)
    | none => (none, cs)
  match behind with
  | ':' :: rest =>
    match splitWhere (· == '@') rest with
    | (password, '@' :: host) => (some { user := front, password := some password }, host)
    | _ => withoutPassword
  | _ => withoutPassword

/-- Splits off a host between brackets, which may hold colons. -/
def splitBracketed? : List Char → Option (List Char × List Char)
  | '[' :: rest =>
    let (front, behind) := splitWhere (fun c => c == '/' || c == '?') rest
    match splitLast? ']' front with
    | some ([], _) => none
    | some (host, left) => some (host, left ++ behind)
    | none => none
  | _ => none

/-- Splits off the host, which may be empty. -/
def splitHost (cs : List Char) : List Char × List Char :=
  (splitBracketed? cs).getD (splitWhere (fun c => c == '/' || c == ':' || c == '?') cs)

/-- Splits off a part that a mark announces and other marks end. -/
def splitMarked (mark : Char) (ends : Char → Bool) : List Char → Option (List Char) × List Char
  | c :: rest =>
    if c = mark then
      let (part, behind) := splitWhere ends rest
      (some part, behind)
    else (none, c :: rest)
  | [] => (none, [])

/-- The text of a part of an option: a plus sign is a blank. -/
def optionText (cs : List Char) : List Char := Text.Percent.decode (cs.map fun c => if c = '+' then ' ' else c)

/-- Options with one more value. -/
def addOption (options : List (List Char × List (List Char))) (key value : List Char) :
    List (List Char × List (List Char)) :=
  if options.any (fun o => o.1 == key) then
    options.map fun o => if o.1 == key then (key, o.2 ++ [value]) else o
  else options ++ [(key, [value])]

/-- The options that a text lists between ampersands; one without a value is none. -/
def optionsOf (cs : List Char) : List (List Char × List (List Char)) :=
  (splitAll '&' cs).foldl
    (fun options part =>
      match splitWhere (· == '=') part with
      | (key, '=' :: c :: value) => addOption options (optionText key) (optionText (c :: value))
      | _ => options) []

/-- Reads a port; an empty one is refused. -/
def portOf : Option (List Char) → Except UrlFault (Option Int)
  | none => .ok none
  | some cs => ((Numeral.integer cs).map some).mapError .numeral

/-- Whether a character may stand in the name in front of a URL. -/
def isNameChar (c : Char) : Bool := Text.isWordChar c || c == '+'

/-- Reads what is behind the name. -/
def ofRest (name rest : List Char) : Except UrlFault Url := do
  let (account, rest) := splitAccount rest
  let (host, rest) := splitHost rest
  let (port, rest) := splitMarked ':' (fun c => c == '/' || c == '?') rest
  let (database, rest) := splitMarked '/' (· == '?') rest
  let (query, _) := splitMarked '?' (· == '\n') rest
  let port ← portOf port
  return {
    name
    account := account.map fun a => ⟨Text.Percent.decode a.user, a.password.map Text.Percent.decode⟩
    host := if host.isEmpty then none else some host
    port
    database := database.map Text.Percent.decode
    options := (query.map optionsOf).getD [] }

/-- Reads a URL. -/
def ofText (cs : List Char) : Except UrlFault Url :=
  match splitWhere (fun c => !isNameChar c) cs with
  | ([], _) => .error .unreadable
  | (name, ':' :: '/' :: '/' :: rest) => ofRest name rest
  | _ => .error .unreadable

/-- The values of an option. -/
def option (u : Url) (key : String) : List (List Char) := (u.options.lookup key.toList).getD []

/-- What is shown in place of a password. -/
def hiddenPassword : List Char := ['*', '*', '*']

/-- An account as it is written, the password hidden. -/
def accountText (a : Account) : List Char :=
  Text.Percent.encode [' ', '+'] a.user ++ (if a.password.isSome then ':' :: hiddenPassword else []) ++ ['@']

/-- A host as it is written: between brackets when it holds a colon. -/
def hostText (host : List Char) : List Char := if host.contains ':' then '[' :: host ++ [']'] else host

/-- A part of an option as it is written. -/
def optionPart (cs : List Char) : List Char := (Text.Percent.encode [' '] cs).map fun c => if c = ' ' then '+' else c

/-- The options as they are written, in alphabetical order of their names. -/
def optionsText (options : List (List Char × List (List Char))) : List Char :=
  let sorted := options.mergeSort fun o p => decide (String.ofList o.1 ≤ String.ofList p.1)
  let parts := sorted.flatMap fun o => o.2.map fun value => optionPart o.1 ++ '=' :: optionPart value
  if parts.isEmpty then [] else '?' :: ['&'].intercalate parts

/-- A URL as it is written, the password hidden. -/
def toText (u : Url) : String :=
  String.ofList (u.name ++ [':', '/', '/'] ++ (u.account.map accountText).getD [] ++ (u.host.map hostText).getD [] ++
    (u.port.map fun n => ':' :: (toString n).toList).getD [] ++
    (u.database.map fun d => '/' :: Text.Percent.encode [' ', '+', '/'] d).getD [] ++ optionsText u.options)

end Url

end EntitySearch.Connection
