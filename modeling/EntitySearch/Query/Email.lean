import EntitySearch.Query.Pieces

/-!
# E-mail addresses in a text

An address is a local part, an at sign and a domain that ends in a dot and at least two letters. The letters are those of
ASCII in either case and the four other characters that agree with one of them up to case. The local part and the domain
extend as far as they can; of several dots that can end the domain, the last one does.
-/

namespace EntitySearch.Query.Email

/-- The text put in place of an address. -/
def placeholder : List Char := ['[', 'e', 'm', 'a', 'i', 'l', ']']

/-- Whether a character is a letter of an address. -/
def isLetter (c : Char) : Bool :=
  c.isAlpha || c == '\u0130' || c == '\u0131' || c == '\u017f' || c == '\u212a'

/-- Whether a character may stand in the local part. -/
def isLocalChar (c : Char) : Bool :=
  isLetter c || c.isDigit || c == '.' || c == '_' || c == '%' || c == '+' || c == '-'

/-- Whether a character may stand in the domain. -/
def isDomainChar (c : Char) : Bool := isLetter c || c.isDigit || c == '.' || c == '-'

/-- The length of the domain at the start of a run of domain characters of which `seen` came before: up to the letters
behind the last dot that has a character before it and two letters behind it; zero if there is none. -/
def domainLength (seen : Nat) : List Char → Nat
  | [] => 0
  | c :: rest =>
    let later := domainLength (seen + 1) rest
    let letters := rest.takeWhile isLetter
    if later ≠ 0 then later
    else if c = '.' ∧ 1 ≤ seen ∧ 2 ≤ letters.length then seen + 1 + letters.length
    else 0

/-- The length of the address at the start of a text, or zero. -/
def matchLength (cs : List Char) : Nat :=
  let localPart := cs.takeWhile isLocalChar
  match cs.dropWhile isLocalChar with
  | '@' :: rest =>
    let domain := domainLength 0 (rest.takeWhile isDomainChar)
    if localPart.isEmpty || domain == 0 then 0 else localPart.length + 1 + domain
  | _ => 0

/-- A text with every address replaced. -/
def mask (cs : List Char) : List Char := replaceMatches matchLength (fun _ => placeholder) cs

end EntitySearch.Query.Email
