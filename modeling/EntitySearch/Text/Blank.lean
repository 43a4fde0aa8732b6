import EntitySearch.Text.CodeRange

/-!
# Blanks, words and trimming

The blanks are the separators of Unicode and the ASCII control characters that separate text. A word is a longest run of
other characters. Splitting into words drops blanks and nothing else (`words_flatten`), and trimming takes blanks off both ends
(`exists_trim`).
-/

namespace EntitySearch.Text

/-- The runs of blanks, by code point. -/
def blankRanges : List CodeRange :=
  [(0x0009, 0x000D), (0x001C, 0x0020), (0x0085, 0x0085), (0x00A0, 0x00A0), (0x1680, 0x1680), (0x2000, 0x200A),
   (0x2028, 0x2029), (0x202F, 0x202F), (0x205F, 0x205F), (0x3000, 0x3000)]

/-- Whether a character is a blank. -/
def isBlank (c : Char) : Bool := CodeRange.covers blankRanges c

/-- Whether a text is empty or starts with a blank: a word that is followed by it is complete. -/
def startsBlank : List Char → Bool
  | [] => true
  | c :: _ => isBlank c

/-- Puts a character that is no blank before a list of words: it extends the first one when that follows at once. -/
def extendWord (c : Char) (apart : Bool) : List (List Char) → List (List Char)
  | [] => [[c]]
  | w :: ws => if apart then [c] :: w :: ws else (c :: w) :: ws

/-- The longest runs of characters that are not blank, in order. -/
def words : List Char → List (List Char)
  | [] => []
  | c :: rest => if isBlank c then words rest else extendWord c (startsBlank rest) (words rest)

/-- Words with a single separator between neighbours. -/
def joinWith (separator : List Char) : List (List Char) → List Char
  | [] => []
  | [w] => w
  | w :: ws => w ++ separator ++ joinWith separator ws

/-- A text without its leading and trailing blanks. -/
def trim (cs : List Char) : List Char := ((cs.dropWhile isBlank).reverse.dropWhile isBlank).reverse

theorem isBlank_space : isBlank ' ' = true := by decide

theorem extendWord_ne_nil (c : Char) (apart : Bool) (ws : List (List Char)) : extendWord c apart ws ≠ [] := by
  cases ws <;> cases apart <;> simp [extendWord]

theorem extendWord_flatten (c : Char) (apart : Bool) (ws : List (List Char)) :
    (extendWord c apart ws).flatten = c :: ws.flatten := by
  cases ws <;> cases apart <;> simp [extendWord]

/-- Splitting into words drops blanks and nothing else. -/
theorem words_flatten (cs : List Char) : (words cs).flatten = cs.filter (fun c => !isBlank c) := by
  induction cs with
  | nil => rfl
  | cons c rest ih =>
    by_cases hc : isBlank c = true
    · simp [words, hc, ih]
    · simp [words, hc, extendWord_flatten, ih]

/-- Trimming takes blanks off both ends and nothing else. -/
theorem exists_trim (cs : List Char) : ∃ before after, cs = before ++ (trim cs ++ after) ∧
    (∀ c ∈ before, isBlank c = true) ∧ ∀ c ∈ after, isBlank c = true := by
  refine ⟨cs.takeWhile isBlank, ((cs.dropWhile isBlank).reverse.takeWhile isBlank).reverse, ?_, ?_, ?_⟩
  · rw [trim, ← List.reverse_append, List.takeWhile_append_dropWhile, List.reverse_reverse, List.takeWhile_append_dropWhile]
  · exact List.all_eq_true.mp List.all_takeWhile
  · exact fun c hc => List.all_eq_true.mp List.all_takeWhile c (List.mem_reverse.mp hc)

end EntitySearch.Text
