import Mathlib.Data.Nat.Digits.Defs
import Moorings.Text.Decimal
import Moorings.Proofs.Text.Characters

/-!
# What is read as a number

A number is read of a text, and a text arrives as bytes. `Decimal.Writes` says of bytes
alone that they write a number: there may be a plus sign, then there are digits, at least
one, and the number is their value in base ten. Zeros in front make no difference to the
value, and there may be any number of them.

`Decimal.read?_eq_some_iff` is the law of reading: a number is read exactly if the bytes
of the text write it, and it is within the bound. So no other text is ever read, however
it may look, and no number of digits is too great for it.
-/

namespace Moorings.Text.Decimal

/-- The byte of a digit. -/
def IsDigit (b : UInt8) : Prop := 48 ≤ b.toNat ∧ b.toNat ≤ 57

/-- The number that digits write in base ten, the highest place first. -/
def valueOf (digits : Bytes) : Nat := Nat.ofDigits 10 (digits.reverse.map fun b => b.toNat - 48)

/-- The plus sign. -/
def plusSign : UInt8 := 43

/-- **Bytes that write a number.** -/
def Writes (bytes : Bytes) (n : Nat) : Prop :=
  ∃ digits, (bytes = digits ∨ bytes = plusSign :: digits)
    ∧ digits ≠ [] ∧ (∀ b ∈ digits, IsDigit b) ∧ valueOf digits = n

/-! ## Digits -/

theorem toNat_ofNat_of_isSmall {c : Char} (h : IsSmall c) :
    (UInt8.ofNat c.toNat).toNat = c.toNat :=
  UInt8.toNat_ofNat_of_lt' (Nat.lt_trans h (by decide))

theorem isDigit_iff {c : Char} : c.isDigit = true ↔ 48 ≤ c.toNat ∧ c.toNat ≤ 57 := by
  rw [Char.isDigit, Bool.and_eq_true, decide_eq_true_eq, decide_eq_true_eq]
  exact and_congr UInt32.le_iff_toNat_le UInt32.le_iff_toNat_le

/-- A small character is a digit if its byte is one. -/
theorem isDigit_ofNat_iff {c : Char} (h : IsSmall c) :
    IsDigit (UInt8.ofNat c.toNat) ↔ c.isDigit = true := by
  rw [isDigit_iff, IsDigit, toNat_ofNat_of_isSmall h]

/-- Small characters are digits if their bytes are. -/
theorem forall_isDigit_map_iff {chars : List Char} (h : ∀ c ∈ chars, IsSmall c) :
    (∀ b ∈ chars.map fun c => UInt8.ofNat c.toNat, IsDigit b) ↔ ∀ c ∈ chars, c.isDigit = true := by
  rw [List.forall_mem_map]
  exact forall₂_congr fun c hc => isDigit_ofNat_iff (h c hc)

/-- The value of digits does not depend on whether they are bytes or characters. -/
theorem valueOf_map {chars : List Char} (h : ∀ c ∈ chars, IsSmall c) :
    valueOf (chars.map fun c => UInt8.ofNat c.toNat) = Nat.ofDigitChars 10 chars 0 := by
  induction chars with
  | nil => rfl
  | cons c chars ih =>
    have hc : (UInt8.ofNat c.toNat).toNat = c.toNat :=
      toNat_ofNat_of_isSmall (h c List.mem_cons_self)
    have hzero : ('0' : Char).toNat = 48 := rfl
    have ih := ih fun d hd => h d (List.mem_cons_of_mem c hd)
    rw [Nat.ofDigitChars_cons, Nat.mul_zero, Nat.zero_add, Nat.ofDigitChars_eq_ofDigitChars_zero,
      ← ih, valueOf, List.map_cons, List.reverse_cons, List.map_append, Nat.ofDigits_append,
      List.length_map, List.length_reverse, List.length_map, List.map_singleton,
      Nat.ofDigits_singleton, hc, hzero, Nat.add_comm]
    rfl

/-! ## Reading -/

/-- What is read of a text is the value of its digits, if there are only digits after the
sign. -/
theorem read?_eq_some_iff_digits {max n : Nat} {text : String} :
    read? max text = some n
      ↔ unsigned text.toList ≠ [] ∧ (∀ c ∈ unsigned text.toList, c.isDigit = true)
        ∧ Nat.ofDigitChars 10 (unsigned text.toList) 0 = n ∧ n ≤ max := by
  unfold read?
  dsimp only
  rw [← List.all_eq_true, ne_eq, ← List.isEmpty_iff]
  split
  · rename_i hempty
    exact iff_of_false nofun fun h => h.1 hempty
  · rename_i hempty
    split
    · rename_i hdigits
      constructor
      · intro h
        split at h
        · rename_i hle
          cases h
          exact ⟨hempty, hdigits, rfl, hle⟩
        · cases h
      · rintro ⟨-, -, rfl, hle⟩
        exact if_pos hle
    · rename_i hdigits
      exact iff_of_false nofun fun h => hdigits h.2.1

/-- A text is its digits, or a plus sign and its digits. -/
theorem eq_unsigned_or (chars : List Char) :
    chars = unsigned chars ∨ chars = '+' :: unsigned chars := by
  unfold unsigned
  split
  · exact .inr rfl
  · exact .inl rfl

/-- Digits have no sign that could be taken off. -/
theorem unsigned_of_isDigit {chars : List Char} (h : ∀ c ∈ chars, c.isDigit = true) :
    unsigned chars = chars := by
  unfold unsigned
  split
  · exact absurd (h '+' List.mem_cons_self) (by decide)
  · rfl

/-- A text that is digits after the sign has only small characters. -/
theorem isSmall_of_isDigit_unsigned {chars : List Char}
    (h : ∀ c ∈ unsigned chars, c.isDigit = true) : ∀ c ∈ chars, IsSmall c := by
  have hdigits : ∀ c ∈ unsigned chars, IsSmall c := fun c hc => isSmall_of_isDigit (h c hc)
  obtain hsame | hsigned := eq_unsigned_or chars
  · rwa [← hsame] at hdigits
  · rw [hsigned]
    exact List.forall_mem_cons.mpr ⟨by decide, hdigits⟩

/-- And so does one whose bytes write a number. -/
theorem isSmall_of_writes {text : String} {n : Nat} (h : Writes (utf8 text) n) :
    ∀ c ∈ text.toList, IsSmall c := by
  obtain ⟨digits, hbytes, -, hdigits, -⟩ := h
  refine fun c => isSmall_of_toNat_lt fun b hb => ?_
  have hlt : ∀ b ∈ digits, b.toNat < 128 := fun b hb =>
    Nat.lt_of_le_of_lt (hdigits b hb).2 (by decide)
  obtain hbytes | hbytes := hbytes
  · exact hlt b (hbytes ▸ hb)
  · obtain rfl | hb := List.mem_cons.mp (hbytes ▸ hb)
    · decide
    · exact hlt b hb

/-- **The bytes of small characters write a number** if the characters are digits after
the sign, and the number is their value. -/
theorem writes_map_iff {chars : List Char} (h : ∀ c ∈ chars, IsSmall c) {n : Nat} :
    Writes (chars.map fun c => UInt8.ofNat c.toNat) n
      ↔ unsigned chars ≠ [] ∧ (∀ c ∈ unsigned chars, c.isDigit = true)
        ∧ Nat.ofDigitChars 10 (unsigned chars) 0 = n := by
  constructor
  · rintro ⟨digits, hbytes, hne, hdigits, rfl⟩
    obtain ⟨rest, hunsigned, hrest, rfl⟩ : ∃ rest, unsigned chars = rest
        ∧ (∀ c ∈ rest, IsSmall c) ∧ (rest.map fun c => UInt8.ofNat c.toNat) = digits := by
      obtain hbytes | hbytes := hbytes
      · refine ⟨chars, unsigned_of_isDigit ?_, h, hbytes⟩
        exact (forall_isDigit_map_iff h).mp (hbytes ▸ hdigits)
      · obtain ⟨c, rest, rfl, hc, hrest⟩ := List.map_eq_cons_iff.mp hbytes
        have hplus : c = '+' := by
          have hnat := congrArg UInt8.toNat hc
          rw [toNat_ofNat_of_isSmall (h c List.mem_cons_self)] at hnat
          exact Char.toNat_inj.mp hnat
        subst hplus
        exact ⟨rest, rfl, fun c hc => h c (List.mem_cons_of_mem _ hc), hrest⟩
    rw [hunsigned]
    exact ⟨fun hnil => hne (List.map_eq_nil_iff.mpr hnil),
      (forall_isDigit_map_iff hrest).mp hdigits, (valueOf_map hrest).symm⟩
  · rintro ⟨hne, hdigits, rfl⟩
    have hsmall : ∀ c ∈ unsigned chars, IsSmall c := fun c hc =>
      isSmall_of_isDigit (hdigits c hc)
    refine ⟨(unsigned chars).map fun c => UInt8.ofNat c.toNat, ?_,
      fun hnil => hne (List.map_eq_nil_iff.mp hnil),
      (forall_isDigit_map_iff hsmall).mpr hdigits, valueOf_map hsmall⟩
    obtain hsame | hsigned := eq_unsigned_or chars
    · left
      rw [← hsame]
    · right
      conv_lhs => rw [hsigned]
      rfl

/-- **The law of reading a number.** -/
theorem read?_eq_some_iff {max n : Nat} {text : String} :
    read? max text = some n ↔ Writes (utf8 text) n ∧ n ≤ max := by
  have hbytes : (∀ c ∈ text.toList, IsSmall c) →
      utf8 text = text.toList.map fun c => UInt8.ofNat c.toNat := by
    intro hsmall
    conv_lhs => rw [← text.ofList_toList]
    exact utf8_ofList_of_isSmall hsmall
  rw [read?_eq_some_iff_digits]
  constructor
  · rintro ⟨hne, hdigits, hvalue, hle⟩
    have hsmall := isSmall_of_isDigit_unsigned hdigits
    rw [hbytes hsmall]
    exact ⟨(writes_map_iff hsmall).mpr ⟨hne, hdigits, hvalue⟩, hle⟩
  · rintro ⟨hwrites, hle⟩
    have hsmall := isSmall_of_writes hwrites
    rw [hbytes hsmall] at hwrites
    obtain ⟨hne, hdigits, hvalue⟩ := (writes_map_iff hsmall).mp hwrites
    exact ⟨hne, hdigits, hvalue, hle⟩

/-- **Zeros in front make no difference**, however many there are. -/
theorem read?_zeros {max n : Nat} (zeros : Nat) (h : n ≤ max) :
    read? max (String.ofList (List.replicate zeros '0') ++ n.repr) = some n := by
  have hdigits : ∀ c ∈ List.replicate zeros '0' ++ Nat.toDigits 10 n, c.isDigit = true := by
    intro c hc
    obtain hc | hc := List.mem_append.mp hc
    · rw [List.eq_of_mem_replicate hc]
      decide
    · exact Nat.isDigit_of_mem_toDigits (by decide) (by decide) hc
  rw [read?_eq_some_iff_digits, String.toList_append, String.toList_ofList, Nat.toList_repr,
    unsigned_of_isDigit hdigits]
  refine ⟨List.append_ne_nil_of_right_ne_nil _ Nat.toDigits_ne_nil, hdigits, ?_, h⟩
  rw [Nat.ofDigitChars_append, Nat.ofDigitChars_replicate_zero, Nat.mul_zero,
    Nat.ofDigitChars_ten_toDigits]

/-- A port is read of the bytes that write it. -/
theorem readUInt16?_eq_some_iff {text : String} {port : UInt16} :
    readUInt16? text = some port ↔ Writes (utf8 text) port.toNat := by
  rw [readUInt16?, Option.map_eq_some_iff]
  constructor
  · rintro ⟨n, hread, rfl⟩
    obtain ⟨hwrites, hle⟩ := read?_eq_some_iff.mp hread
    rwa [UInt16.toNat_ofNat_of_lt' (Nat.lt_of_le_of_lt hle (by decide))]
  · intro hwrites
    refine ⟨port.toNat, ?_, UInt16.ofNat_toNat⟩
    exact read?_eq_some_iff.mpr ⟨hwrites, Nat.le_sub_one_of_lt port.toNat_lt⟩

end Moorings.Text.Decimal
