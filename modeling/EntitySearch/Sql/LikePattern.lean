/-!
# LIKE patterns

A pattern is matched against a whole text: a percent sign stands for any run of characters, an underscore for any single
character, and the escape character takes away the meaning of the character behind it. `escapeText` writes user text so that
every character of it stands for itself. `isMatch_eq` says that `isMatch` decides what `unitsMatch` defines.
-/

namespace EntitySearch.LikePattern

/-- The escape character of the patterns this library builds. -/
def defaultEscape : String := "\\"

/-- A text with every occurrence of a character replaced by a text. -/
def replaceChar (c : Char) (replacement : List Char) (cs : List Char) : List Char :=
  cs.flatMap fun d => if d = c then replacement else [d]

/-- A text with every occurrence of a pattern, taken from the left without overlap, replaced by a text; an empty pattern
occurs nowhere. -/
def replaceAll (pattern replacement : List Char) (cs : List Char) : List Char :=
  match cs with
  | [] => []
  | c :: rest =>
    if pattern ≠ [] ∧ pattern.isPrefixOf (c :: rest) then
      replacement ++ replaceAll pattern replacement (rest.drop (pattern.length - 1))
    else c :: replaceAll pattern replacement rest
  termination_by cs.length
  decreasing_by
    · simp only [List.length_drop, List.length_cons]; omega
    · simp

/-- A text in which the escape text, the percent sign and the underscore are escaped, in this order: an escape text that
holds one of the two signs is escaped once more. -/
def escapeText (escape : List Char) (cs : List Char) : List Char :=
  replaceChar '_' (escape ++ ['_']) (replaceChar '%' (escape ++ ['%']) (replaceAll escape (escape ++ escape) cs))

/-- The pattern of the texts that contain a text. -/
def containing (escape : List Char) (cs : List Char) : List Char := '%' :: escapeText escape cs ++ ['%']

/-- One unit of a pattern. -/
inductive Unit where
  /-- Any run of characters. -/
  | run
  /-- Any single character. -/
  | one
  /-- The character itself. -/
  | exactly (c : Char)
  deriving Repr, DecidableEq

/-- The unit that a character outside an escape stands for. -/
def Unit.ofChar (c : Char) : Unit := if c = '%' then .run else if c = '_' then .one else .exactly c

/-- The units of a pattern under an escape character; none when the pattern ends in an escape. -/
def units? (escape : Option Char) : List Char → Option (List Unit)
  | [] => some []
  | [c] => if some c = escape then none else some [.ofChar c]
  | c :: d :: rest =>
    if some c = escape then (units? escape rest).map (.exactly d :: ·)
    else (units? escape (d :: rest)).map (.ofChar c :: ·)

/-- Whether a text is a run of characters followed by a text that a property holds of. -/
def someSuffix (p : List Char → Bool) : List Char → Bool
  | [] => p []
  | c :: cs => p (c :: cs) || someSuffix p cs

/-- Whether the units match a whole text. -/
def unitsMatch : List Unit → List Char → Bool
  | [], cs => cs.isEmpty
  | .run :: us, cs => someSuffix (unitsMatch us) cs
  | .one :: us, cs => match cs with
    | [] => false
    | _ :: rest => unitsMatch us rest
  | .exactly c :: us, cs => match cs with
    | [] => false
    | d :: rest => c = d && unitsMatch us rest

/-! ## Matching without trying a suffix twice -/

/-- The suffixes of a text, the longest first. -/
def suffixes : List Char → List (List Char)
  | [] => [[]]
  | c :: cs => (c :: cs) :: suffixes cs

/-- For each place of a list whether something holds there or behind it. -/
def holdsBehind : List Bool → List Bool
  | [] => []
  | b :: bs =>
    let behind := holdsBehind bs
    (b || behind.headD false) :: behind

/-- For each suffix of a text whether its first character has a property and something holds of what is behind that
character. -/
def holdsNext (p : Char → Bool) : List Char → List Bool → List Bool
  | c :: cs, _ :: bs => (p c && bs.headD false) :: holdsNext p cs bs
  | _, _ => [false]

/-- For each suffix of a text whether the units match it. The results for the units behind the first one are found once and
serve all suffixes, so that the work is the product of the two lengths. -/
def suffixMatches : List Unit → List Char → List Bool
  | [], cs => (suffixes cs).map List.isEmpty
  | .run :: us, cs => holdsBehind (suffixMatches us cs)
  | .one :: us, cs => holdsNext (fun _ => true) cs (suffixMatches us cs)
  | .exactly c :: us, cs => holdsNext (fun d => c = d) cs (suffixMatches us cs)

@[simp] theorem headD_map_suffixes (p : List Char → Bool) (cs : List Char) :
    ((suffixes cs).map p).headD false = p cs := by
  cases cs <;> simp [suffixes]

theorem holdsBehind_map_suffixes (p : List Char → Bool) (cs : List Char) :
    holdsBehind ((suffixes cs).map p) = (suffixes cs).map (someSuffix p) := by
  induction cs with
  | nil => simp [suffixes, holdsBehind, someSuffix]
  | cons c cs ih =>
    simp only [suffixes, List.map_cons, holdsBehind, ih, headD_map_suffixes, someSuffix]

theorem holdsNext_map_suffixes (q : Char → Bool) (p : List Char → Bool) (cs : List Char) :
    holdsNext q cs ((suffixes cs).map p) =
      (suffixes cs).map fun t => match t with
        | [] => false
        | d :: rest => q d && p rest := by
  induction cs with
  | nil => simp [suffixes, holdsNext]
  | cons c cs ih =>
    simp only [suffixes, List.map_cons, holdsNext, ih, headD_map_suffixes]

/-- The results for the suffixes are those of matching each of them by itself. -/
theorem suffixMatches_eq_map (us : List Unit) (cs : List Char) :
    suffixMatches us cs = (suffixes cs).map (unitsMatch us) := by
  induction us with
  | nil =>
    refine List.map_congr_left fun t _ => ?_
    simp [unitsMatch]
  | cons u us ih =>
    cases u with
    | run =>
      rw [suffixMatches, ih, holdsBehind_map_suffixes]
      exact List.map_congr_left fun t _ => by simp [unitsMatch]
    | one =>
      rw [suffixMatches, ih, holdsNext_map_suffixes]
      exact List.map_congr_left fun t _ => by cases t <;> simp [unitsMatch]
    | exactly c =>
      rw [suffixMatches, ih, holdsNext_map_suffixes]
      exact List.map_congr_left fun t _ => by cases t <;> simp [unitsMatch]

/-- Whether a pattern matches a whole text; one that ends in an escape matches none. -/
def isMatch (escape : Option Char) (pattern cs : List Char) : Bool :=
  match units? escape pattern with
  | some us => (suffixMatches us cs).headD false
  | none => false

/-- A pattern matches when its units do. -/
theorem isMatch_eq (escape : Option Char) (pattern cs : List Char) :
    isMatch escape pattern cs = match units? escape pattern with
      | some us => unitsMatch us cs
      | none => false := by
  unfold isMatch
  split
  · rw [suffixMatches_eq_map, headD_map_suffixes]
  · rfl

end EntitySearch.LikePattern
