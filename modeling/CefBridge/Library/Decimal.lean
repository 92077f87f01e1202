import Mathlib.Data.List.TakeWhile

/-!
# Decimal numerals

An integer is written with its decimal digits after an optional minus sign. The
reader takes an optional sign and the longest run of digits, and hands back the
symbols after them. Reading a written numeral returns the integer, whatever
symbols follow, as long as they do not continue the digits.
-/

namespace Library.Decimal

/-- The decimal digits of a natural number, most significant first. -/
def writeNat (number : Nat) : List Char := Nat.toDigits 10 number

/-- A minus sign stands only before a negative number. -/
def writeInt : Int → List Char
  | .ofNat number => writeNat number
  | .negSucc number => '-' :: writeNat (number + 1)

/-- Read the longest run of digits. Without a digit there is no number. -/
def readNat (text : List Char) : Option (Nat × List Char) :=
  let digits := text.takeWhile Char.isDigit
  if digits.isEmpty then none
  else some (Nat.ofDigitChars 10 digits 0, text.dropWhile Char.isDigit)

/-- Read an optional sign and a number. -/
def readInt : List Char → Option (Int × List Char)
  | '-' :: text => (readNat text).map fun (number, rest) => (-(number : Int), rest)
  | '+' :: text => (readNat text).map fun (number, rest) => ((number : Int), rest)
  | text => (readNat text).map fun (number, rest) => ((number : Int), rest)

theorem writeNat_digits (number : Nat) : ∀ symbol ∈ writeNat number, symbol.isDigit = true :=
  fun _ member => Nat.isDigit_of_mem_toDigits (by decide) (by decide) member

theorem writeNat_shown (number : Nat) : writeNat number ≠ [] := Nat.toDigits_ne_nil

/-- A digit is neither sign. -/
theorem digit_not_sign (symbol : Char) (digit : symbol.isDigit = true) :
    symbol ≠ '-' ∧ symbol ≠ '+' := by
  constructor <;> (rintro rfl; exact absurd digit (by decide))

/-- A written integer consists of digits and at most a minus sign. -/
theorem writeInt_symbols (number : Int) :
    ∀ symbol ∈ writeInt number, symbol = '-' ∨ symbol.isDigit = true := by
  intro symbol member
  cases number with
  | ofNat number => exact Or.inr (writeNat_digits number symbol member)
  | negSucc number =>
    cases List.mem_cons.mp member with
    | inl sign => exact Or.inl sign
    | inr later => exact Or.inr (writeNat_digits _ symbol later)

/-- Reading stops at the end of the written digits, since the next symbol is
no digit. -/
theorem readNat_writeNat (number : Nat) (rest : List Char)
    (stops : ∀ symbol ∈ rest.head?, symbol.isDigit = false) :
    readNat (writeNat number ++ rest) = some (number, rest) := by
  have digits : ∀ symbol ∈ writeNat number, symbol.isDigit = true := writeNat_digits number
  have noneTaken : rest.takeWhile Char.isDigit = [] := by
    cases rest with
    | nil => rfl
    | cons symbol tail => simp [stops symbol rfl]
  have allDropped : rest.dropWhile Char.isDigit = rest := by
    cases rest with
    | nil => rfl
    | cons symbol tail => simp [stops symbol rfl]
  have taken : (writeNat number ++ rest).takeWhile Char.isDigit = writeNat number := by
    rw [List.takeWhile_append_of_pos digits, noneTaken, List.append_nil]
  have dropped : (writeNat number ++ rest).dropWhile Char.isDigit = rest := by
    rw [List.dropWhile_append_of_pos digits, allDropped]
  have shown : (writeNat number).isEmpty = false := by
    simpa using writeNat_shown number
  simp only [readNat, taken, dropped, shown]
  exact congrArg (fun value => some (value, rest)) Nat.ofDigitChars_ten_toDigits

/-- Reading inverts writing, before any symbols that are no digits. -/
theorem readInt_writeInt (number : Int) (rest : List Char)
    (stops : ∀ symbol ∈ rest.head?, symbol.isDigit = false) :
    readInt (writeInt number ++ rest) = some (number, rest) := by
  cases number with
  | negSucc number =>
    have digits := readNat_writeNat (number + 1) rest stops
    simp only [writeInt, List.cons_append, readInt, digits, Option.map_some, Option.some.injEq,
      Prod.mk.injEq, and_true]
    omega
  | ofNat number =>
    have digits := readNat_writeNat number rest stops
    cases written : writeNat number with
    | nil => exact absurd written (writeNat_shown number)
    | cons first tail =>
      have unsigned := digit_not_sign first (writeNat_digits number first (by simp [written]))
      rw [written, List.cons_append] at digits
      rw [writeInt, written, List.cons_append, readInt.eq_3, digits]
      · rfl
      · rintro text same
        exact unsigned.1 (List.cons.inj same).1
      · rintro text same
        exact unsigned.2 (List.cons.inj same).1

end Library.Decimal
