import EntitySearch.Failure
import EntitySearch.Query.Email
import EntitySearch.Query.PhoneNumber
import EntitySearch.Text.Blank

/-!
# Search queries

A raw query becomes its words with single spaces between them, checked against the greatest length, and a second text for
the logs in which e-mail addresses and phone numbers are replaced. Addresses are replaced first, so that the digits of an
address are not taken for a phone.
-/

namespace EntitySearch

namespace Query

/-- A text with its words set apart by single spaces, and no other blank. -/
def normalize (cs : List Char) : List Char := Text.joinWith [' '] (Text.words cs)

/-- A text with every e-mail address and every long enough phone number replaced. -/
def mask (cs : List Char) : List Char := PhoneNumber.mask (Email.mask cs)

end Query

/-- A query ready for matching, and its masked form for the logs. -/
structure ParsedQuery where
  normalized : String
  masked : String
  deriving Repr, DecidableEq

namespace ParsedQuery

/-- The parsed form of normalized text. -/
def ofNormalized (cs : List Char) : ParsedQuery := ⟨String.ofList cs, String.ofList (Query.mask cs)⟩

/-- Whether a normalized text is longer than a limit allows; zero is no limit. -/
def exceeds (maxLength : Option Int) (cs : List Char) : Bool :=
  match maxLength with
  | none => false
  | some m => m != 0 && decide (m < cs.length)

/-- Reads a raw query: nothing for null or a blank text, a failure when the normalized text is too long. -/
def ofRaw (maxLength : Option Int) (raw : Value) : Except Failure (Option ParsedQuery) :=
  match raw with
  | .null => .ok none
  | v =>
    let cs := Query.normalize v.display.toList
    if cs.isEmpty then .ok none
    else if exceeds maxLength cs then .error (.domain (.queryTooLong (Value.ofInt? maxLength)))
    else .ok (some (ofNormalized cs))

end ParsedQuery

end EntitySearch
