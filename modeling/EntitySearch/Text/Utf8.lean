/-!
# Bytes of text

Characters as bytes and back. Reading bytes never fails: where they are no character, the longest run that could still have
become one is read as the replacement character.
-/

namespace EntitySearch.Text.Utf8

/-- The bytes of a character. -/
def ofChar (c : Char) : List Nat :=
  let n := c.toNat
  let tail (k : Nat) : Nat := 0x80 + n / k % 0x40
  if n < 0x80 then [n]
  else if n < 0x800 then [0xC0 + n / 0x40, tail 1]
  else if n < 0x10000 then [0xE0 + n / 0x1000, tail 0x40, tail 1]
  else [0xF0 + n / 0x40000, tail 0x1000, tail 0x40, tail 1]

/-- What a first byte says of its character: the leading bits, the number of bytes that follow and the bounds of the next of
them. -/
structure Lead where
  bits : Nat
  tails : Nat
  low : Nat := 0x80
  high : Nat := 0xBF
  deriving Repr, DecidableEq

/-- A first byte; the bounds of the byte behind it shut out overlong forms, halves of pairs and numbers that are too large. -/
def lead? (b : Nat) : Option Lead :=
  if b < 0x80 then some { bits := b, tails := 0 }
  else if b < 0xC2 then none
  else if b < 0xE0 then some { bits := b - 0xC0, tails := 1 }
  else if b = 0xE0 then some { bits := 0, tails := 2, low := 0xA0 }
  else if b = 0xED then some { bits := 0xD, tails := 2, high := 0x9F }
  else if b < 0xF0 then some { bits := b - 0xE0, tails := 2 }
  else if b = 0xF0 then some { bits := 0, tails := 3, low := 0x90 }
  else if b < 0xF4 then some { bits := b - 0xF0, tails := 3 }
  else if b = 0xF4 then some { bits := 4, tails := 3, high := 0x8F }
  else none

/-- Reads the bytes behind a first one: the code point if all are there, and what is left. -/
def readTails (bits low high : Nat) : Nat → List Nat → Option Nat × List Nat
  | 0, bs => (some bits, bs)
  | _ + 1, [] => (none, [])
  | k + 1, b :: bs =>
    if low ≤ b ∧ b ≤ high then readTails (bits * 0x40 + (b - 0x80)) 0x80 0xBF k bs else (none, b :: bs)

theorem readTails_length_le (bits low high k : Nat) (bs : List Nat) :
    (readTails bits low high k bs).2.length ≤ bs.length := by
  induction k generalizing bits low high bs with
  | zero => simp [readTails]
  | succ k ih =>
    cases bs with
    | nil => simp [readTails]
    | cons b bs =>
      rw [readTails]
      split
      · exact Nat.le_succ_of_le (ih _ _ _ _)
      · simp

/-- The character that stands for bytes that are none. -/
def replacement : Char := '\ufffd'

/-- The characters of bytes. -/
def toChars (bs : List Nat) : List Char :=
  match bs with
  | [] => []
  | b :: rest =>
    match lead? b with
    | none => replacement :: toChars rest
    | some l =>
      let read := readTails l.bits l.low l.high l.tails rest
      (match read.1 with
        | some n => Char.ofNat n
        | none => replacement) :: toChars read.2
  termination_by bs.length
  decreasing_by
    · simp
    · exact Nat.lt_succ_of_le (readTails_length_le _ _ _ _ _)

end EntitySearch.Text.Utf8
