import Moorings.Text.Utf8

/-!
# Decimal numbers

Ports, session ids and content lengths are written in decimal. What is
written is the plain number, `toString`; what is read is a little wider: a
plus sign may stand in front, and so may any number of zeros. `read?` takes
the greatest number that is acceptable, and refuses an empty text, a lone
sign, any other character and every larger number.

`read?_toString` says that what was written is read back.
-/

namespace Moorings.Text.Decimal

/-- A text without the plus sign it may begin with. -/
def unsigned : List Char → List Char
  | '+' :: rest => rest
  | chars => chars

/-- The number that a text writes, if it is at most `max`. -/
def read? (max : Nat) (text : String) : Option Nat :=
  let digits := unsigned text.toList
  if digits.isEmpty then none
  else if digits.all Char.isDigit then
    let n := Nat.ofDigitChars 10 digits 0
    if n ≤ max then some n else none
  else none

/-- A number of 16 bits. -/
def readUInt16? (text : String) : Option UInt16 :=
  (read? (UInt16.size - 1) text).map UInt16.ofNat

/-- A number of 64 bits. -/
def readUInt64? (text : String) : Option UInt64 :=
  (read? (UInt64.size - 1) text).map UInt64.ofNat

/-- Digits carry no sign. -/
theorem unsigned_toDigits (n : Nat) :
    unsigned (Nat.toDigits 10 n) = Nat.toDigits 10 n := by
  unfold unsigned
  split
  · rename_i rest h
    have : '+' ∈ Nat.toDigits 10 n := by simp [h]
    have := Nat.isDigit_of_mem_toDigits (by decide) (by decide) this
    exact absurd this (by decide)
  · rfl

/-- What was written is read if it is not too large, and only then. -/
theorem read?_toString_eq (max n : Nat) :
    read? max (toString n) = if n ≤ max then some n else none := by
  have hd : (Nat.toDigits 10 n).all Char.isDigit = true := by
    rw [List.all_eq_true]
    intro c hc
    exact Nat.isDigit_of_mem_toDigits (by decide) (by decide) hc
  have he : (Nat.toDigits 10 n).isEmpty = false := by
    simp [Nat.toDigits_ne_nil]
  simp [read?, unsigned_toDigits, hd, he, Nat.ofDigitChars_ten_toDigits]

/-- **What was written is read back**, whenever it is not too large. -/
theorem read?_toString {max n : Nat} (h : n ≤ max) : read? max (toString n) = some n := by
  rw [read?_toString_eq, if_pos h]

/-- What is read is within the bound. -/
theorem le_of_read? {max n : Nat} {text : String} (h : read? max text = some n) :
    n ≤ max := by
  simp only [read?] at h
  repeat' split at h
  all_goals simp_all

@[simp] theorem readUInt16?_toString (n : UInt16) :
    readUInt16? (toString n.toNat) = some n := by
  rw [readUInt16?, read?_toString (Nat.le_sub_one_of_lt n.toNat_lt)]
  simp

@[simp] theorem readUInt64?_toString (n : UInt64) :
    readUInt64? (toString n.toNat) = some n := by
  rw [readUInt64?, read?_toString (Nat.le_sub_one_of_lt n.toNat_lt)]
  simp

end Moorings.Text.Decimal
