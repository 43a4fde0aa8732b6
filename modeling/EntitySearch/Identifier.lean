/-!
# Identifiers

The identifiers of rows: 24 characters, the first a lower-case letter, the others lower-case letters or digits. Identifiers
are numbered; `ofNat_injOn` says that two numbers below the `count` of identifiers have two identifiers.
-/

namespace EntitySearch.Identifier

/-- The number of characters of an identifier. -/
def length : Nat := 24

/-- The first character of an identifier. -/
def lead : Char := 'r'

/-- The digit of base thirty-six of a value: a digit below ten, a lower-case letter from there on. -/
def digit (n : Nat) : Char := if n < 10 then Char.ofNat (48 + n) else Char.ofNat (87 + n)

/-- The lowest digits of a number in base thirty-six, as many as asked for. -/
def digits : Nat → Nat → List Char
  | 0, _ => []
  | width + 1, n => digits width (n / 36) ++ [digit (n % 36)]

/-- How many lists of so many digits there are. -/
def capacity : Nat → Nat
  | 0 => 1
  | width + 1 => 36 * capacity width

/-- The number of identifiers. -/
def count : Nat := capacity (length - 1)

/-- The identifier of a number. -/
def ofNat (n : Nat) : String := String.ofList (lead :: digits (length - 1) n)

/-- The first identifier that is not taken. -/
def fresh (taken : List String) : String :=
  ofNat (((List.range (taken.length + 1)).find? fun n => !taken.contains (ofNat n)).getD taken.length)

/-- Whether a text has the form of an identifier. -/
def isWellFormed (s : String) : Bool :=
  match s.toList with
  | c :: cs => c.isLower && cs.all (fun c => c.isLower || c.isDigit) && (c :: cs).length == length
  | [] => false

theorem digits_length (width n : Nat) : (digits width n).length = width := by
  induction width generalizing n with
  | zero => rfl
  | succ w ih => simp [digits, ih]

theorem digit_inj : ∀ m < 36, ∀ n < 36, digit m = digit n → m = n := by decide

theorem digit_isAlphanumeric : ∀ n < 36, ((digit n).isLower || (digit n).isDigit) = true := by decide

theorem digits_inj {width m n : Nat} (hm : m < capacity width) (hn : n < capacity width)
    (h : digits width m = digits width n) : m = n := by
  induction width generalizing m n with
  | zero => simp only [capacity] at hm hn; omega
  | succ w ih =>
    rw [digits, digits] at h
    obtain ⟨hq, hr⟩ := List.append_inj h (by simp [digits_length])
    have hr' : m % 36 = n % 36 :=
      digit_inj _ (Nat.mod_lt _ (by decide)) _ (Nat.mod_lt _ (by decide)) (by simpa using hr)
    have hq' : m / 36 = n / 36 :=
      ih (Nat.div_lt_of_lt_mul hm) (Nat.div_lt_of_lt_mul hn) hq
    omega

/-- Two numbers below the number of identifiers have two identifiers. -/
theorem ofNat_injOn {m n : Nat} (hm : m < count) (hn : n < count) (h : ofNat m = ofNat n) : m = n := by
  have h' := congrArg String.toList h
  simp only [ofNat, String.toList_ofList, List.cons.injEq, true_and] at h'
  exact digits_inj hm hn h'

/-- Every identifier has the form of one. -/
theorem isWellFormed_ofNat (n : Nat) : isWellFormed (ofNat n) = true := by
  have hall : ∀ width n, (digits width n).all (fun c => c.isLower || c.isDigit) = true := by
    intro width
    induction width with
    | zero => intro n; rfl
    | succ w ih => intro n; simp [digits, ih, digit_isAlphanumeric _ (Nat.mod_lt n (by decide : 36 > 0))]
  simpa [isWellFormed, ofNat, hall, length, lead] using digits_length 23 n

end EntitySearch.Identifier
