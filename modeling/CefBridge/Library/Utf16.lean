import Mathlib.Data.List.Basic

/-!
# Text in 16-bit units

A character beyond the first 65536 is written as two units, a high and a low
surrogate. Decoding puts a replacement character in place of a surrogate that
stands alone, so decoding and encoding again returns the same units exactly when
no surrogate stands alone.
-/

namespace Library.Utf16

def isHigh (unit : UInt16) : Bool := 0xD800 ≤ unit.toNat && unit.toNat < 0xDC00

def isLow (unit : UInt16) : Bool := 0xDC00 ≤ unit.toNat && unit.toNat < 0xE000

def encodeChar (symbol : Char) : List UInt16 :=
  if symbol.toNat < 0x10000 then [UInt16.ofNat symbol.toNat]
  else
    [UInt16.ofNat (0xD800 + (symbol.toNat - 0x10000) / 0x400),
      UInt16.ofNat (0xDC00 + (symbol.toNat - 0x10000) % 0x400)]

def encode (text : List Char) : List UInt16 := text.flatMap encodeChar

/-- The character of a surrogate pair. -/
def pairChar (high low : UInt16) : Char :=
  Char.ofNat (0x10000 + (high.toNat - 0xD800) * 0x400 + (low.toNat - 0xDC00))

def replacement : Char := Char.ofNat 0xFFFD

def decode : List UInt16 → List Char
  | [] => []
  | [unit] => if isHigh unit || isLow unit then [replacement] else [Char.ofNat unit.toNat]
  | first :: second :: rest =>
    if isHigh first then
      if isLow second then pairChar first second :: decode rest
      else replacement :: decode (second :: rest)
    else if isLow first then replacement :: decode (second :: rest)
    else Char.ofNat first.toNat :: decode (second :: rest)

/-- No surrogate stands alone. -/
def paired : List UInt16 → Bool
  | [] => true
  | [unit] => !isHigh unit && !isLow unit
  | first :: second :: rest =>
    if isHigh first then isLow second && paired rest
    else !isLow first && paired (second :: rest)

theorem toNat_ofNat {code : Nat} (valid : code.isValidChar) : (Char.ofNat code).toNat = code := by
  rw [Char.ofNat, dif_pos valid]
  rfl

theorem encode_cons (symbol : Char) (text : List Char) :
    encode (symbol :: text) = encodeChar symbol ++ encode text := rfl

/-- A unit that is no surrogate is a character by itself. -/
theorem encodeChar_single {unit : UInt16} (notHigh : isHigh unit = false) (notLow : isLow unit = false) :
    encodeChar (Char.ofNat unit.toNat) = [unit] := by
  have bound : unit.toNat < 0x10000 := unit.toNat_lt
  have valid : unit.toNat.isValidChar := by
    simp only [isHigh, isLow, Bool.and_eq_false_iff, decide_eq_false_iff_not] at notHigh notLow
    simp only [Nat.isValidChar]
    omega
  rw [encodeChar, toNat_ofNat valid, if_pos bound, UInt16.ofNat_toNat]

theorem encodeChar_pair {high low : UInt16} (isHighUnit : isHigh high = true)
    (isLowUnit : isLow low = true) : encodeChar (pairChar high low) = [high, low] := by
  simp only [isHigh, isLow, Bool.and_eq_true, decide_eq_true_eq] at isHighUnit isLowUnit
  have valid : (0x10000 + (high.toNat - 0xD800) * 0x400 + (low.toNat - 0xDC00)).isValidChar := by
    simp only [Nat.isValidChar]
    omega
  have beyond : ¬ 0x10000 + (high.toNat - 0xD800) * 0x400 + (low.toNat - 0xDC00) < 0x10000 := by omega
  rw [encodeChar, pairChar, toNat_ofNat valid, if_neg beyond]
  have first : 0xD800 + (0x10000 + (high.toNat - 0xD800) * 0x400 + (low.toNat - 0xDC00) - 0x10000) /
      0x400 = high.toNat := by omega
  have second : 0xDC00 + (0x10000 + (high.toNat - 0xD800) * 0x400 + (low.toNat - 0xDC00) - 0x10000) %
      0x400 = low.toNat := by omega
  rw [first, second, UInt16.ofNat_toNat, UInt16.ofNat_toNat]

theorem encodeChar_replacement : encodeChar replacement = [0xFFFD] := by decide

/-- The replacement character is no surrogate. -/
theorem replacement_ne {unit : UInt16} (surrogate : (isHigh unit || isLow unit) = true) :
    (0xFFFD : UInt16) ≠ unit := by
  rintro rfl
  contradiction

/-- Decoding and encoding again keeps the number of units. -/
theorem length_encode_decode (units : List UInt16) : (encode (decode units)).length = units.length := by
  fun_induction decode units with
  | case1 => rfl
  | case2 unit surrogate => rfl
  | case3 unit single =>
    simp only [Bool.or_eq_true, not_or, Bool.not_eq_true] at single
    simp [encode, encodeChar_single single.1 single.2]
  | case4 first second rest high low ih =>
    simp [encode_cons, encodeChar_pair high low, ih]
  | case5 first second rest high alone ih => simp [encode_cons, encodeChar_replacement, ih]
  | case6 first second rest notHigh low ih => simp [encode_cons, encodeChar_replacement, ih]
  | case7 first second rest notHigh notLow ih =>
    simp only [Bool.not_eq_true] at notHigh notLow
    simp [encode_cons, encodeChar_single notHigh notLow, ih]

/-- Decoding and encoding again returns the same units exactly when no surrogate
stands alone. -/
theorem encode_decode_iff (units : List UInt16) :
    encode (decode units) = units ↔ paired units = true := by
  fun_induction decode units with
  | case1 => simp [encode, paired]
  | case2 unit surrogate =>
    have different := replacement_ne surrogate
    have alone : (!isHigh unit && !isLow unit) = false := by
      rw [← Bool.not_or, surrogate]
      rfl
    simp [encode, encodeChar_replacement, paired, alone, different]
  | case3 unit single =>
    simp only [Bool.or_eq_true, not_or, Bool.not_eq_true] at single
    simp [encode, encodeChar_single single.1 single.2, paired, single]
  | case4 first second rest high low ih =>
    simp [encode_cons, encodeChar_pair high low, paired, high, low, ih]
  | case5 first second rest high alone ih =>
    have different := @replacement_ne first (by simp [high])
    simp [encode_cons, encodeChar_replacement, paired, high, alone, different]
  | case6 first second rest notHigh low ih =>
    have different := @replacement_ne first (by simp [low])
    simp [encode_cons, encodeChar_replacement, paired, notHigh, low, different]
  | case7 first second rest notHigh notLow ih =>
    simp only [Bool.not_eq_true] at notHigh notLow
    simp [encode_cons, encodeChar_single notHigh notLow, paired, notHigh, notLow, ih]

end Library.Utf16
