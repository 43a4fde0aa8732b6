/-!
# Leftmost matches

A text is cut into the matches of a pattern and the characters between them. Matches are taken from the left, each as long
as the pattern makes it, and the search goes on behind each match. `pieces_source` says that nothing is lost.
-/

namespace EntitySearch.Query

/-- A part of a text: a character outside the matches, or a match. -/
inductive Piece where
  | gap (c : Char)
  | hit (m : List Char)
  deriving Repr, DecidableEq

/-- The characters of a part. -/
def Piece.source : Piece → List Char
  | .gap c => [c]
  | .hit m => m

/-- A text cut into matches and the characters between them; `matchLength` gives the length of the match at the start of a
text, or zero. -/
def pieces (matchLength : List Char → Nat) (cs : List Char) : List Piece :=
  match cs with
  | [] => []
  | c :: rest =>
    match matchLength (c :: rest) with
    | 0 => .gap c :: pieces matchLength rest
    | n + 1 => .hit (c :: rest.take n) :: pieces matchLength (rest.drop n)
  termination_by cs.length
  decreasing_by
    · simp
    · simp only [List.length_drop, List.length_cons]; omega

/-- A text with every match replaced. -/
def replaceMatches (matchLength : List Char → Nat) (replacement : List Char → List Char) (cs : List Char) : List Char :=
  (pieces matchLength cs).flatMap fun p =>
    match p with
    | .gap c => [c]
    | .hit m => replacement m

/-- The parts of a text make up the text. -/
theorem pieces_source (matchLength : List Char → Nat) (cs : List Char) :
    (pieces matchLength cs).flatMap Piece.source = cs := by
  fun_induction pieces matchLength cs with
  | case1 => rfl
  | case2 c rest _ ih => simp [Piece.source, ih]
  | case3 c rest n _ ih => simp [Piece.source, ih]

end EntitySearch.Query
