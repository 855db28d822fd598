import Moorings.Text.Utf8
import Mathlib.Algebra.Group.Nat.Defs
import Mathlib.Data.List.Basic

/-!
# The bytes of a text, character by character

The bytes of a text are those of its characters one after another
(`utf8_eq_flatMap`). A character below U+0080 is a single byte, and no byte of any
other character is that small. So the small bytes of a text tell which of these
characters it has (`mem_utf8_iff`) and which of them it ends in
(`getLast?_utf8_eq_some_iff`); what cuts a text at such bytes cuts it between
characters.
-/

namespace Moorings.Text

theorem utf8_eq_flatMap (text : String) :
    utf8 text = text.toList.flatMap String.utf8EncodeChar := by
  unfold utf8
  rw [← String.utf8Encode_toList, List.utf8Encode, List.data_toByteArray]

theorem utf8_ofList (chars : List Char) :
    utf8 (String.ofList chars) = chars.flatMap String.utf8EncodeChar := by
  rw [utf8_eq_flatMap, String.toList_ofList]

/-! ## Small characters -/

/-- A character that is a single byte. -/
def IsSmall (c : Char) : Prop := c.toNat < 128

instance (c : Char) : Decidable (IsSmall c) := inferInstanceAs (Decidable (c.toNat < 128))

theorem utf8EncodeChar_of_isSmall {c : Char} (h : IsSmall c) :
    String.utf8EncodeChar c = [UInt8.ofNat c.toNat] := by
  unfold String.utf8EncodeChar
  exact if_pos (Nat.le_of_lt_succ h)

/-- Every byte of a character that is not small is at least 128. -/
theorem le_toNat_of_mem_utf8EncodeChar {c : Char} (h : ¬ IsSmall c) {b : UInt8}
    (hb : b ∈ String.utf8EncodeChar c) : 128 ≤ b.toNat := by
  have hbig : ¬ c.val.toNat ≤ 127 := fun hle => h (Nat.lt_succ_of_le hle)
  have key : ∀ n, 128 ≤ n → n < 256 → 128 ≤ (UInt8.ofNat n).toNat := by
    intro n hn hlt
    rwa [UInt8.toNat_ofNat_of_lt' hlt]
  unfold String.utf8EncodeChar at hb
  simp only [if_neg hbig] at hb
  have hc := c.val.toNat_lt
  split at hb
  · simp only [List.mem_cons, List.not_mem_nil, or_false] at hb
    obtain rfl | rfl := hb <;> exact key _ (by omega) (by omega)
  · split at hb
    · simp only [List.mem_cons, List.not_mem_nil, or_false] at hb
      obtain rfl | rfl | rfl := hb <;> exact key _ (by omega) (by omega)
    · simp only [List.mem_cons, List.not_mem_nil, or_false] at hb
      obtain rfl | rfl | rfl | rfl := hb <;> exact key _ (by omega) (by omega)

/-- Small characters have bytes of their own. -/
theorem mem_utf8EncodeChar_iff {c d : Char} (h : IsSmall c) :
    UInt8.ofNat c.toNat ∈ String.utf8EncodeChar d ↔ d = c := by
  have hc : (UInt8.ofNat c.toNat).toNat = c.toNat :=
    UInt8.toNat_ofNat_of_lt' (Nat.lt_trans h (by decide))
  constructor
  · intro hmem
    by_cases hd : IsSmall d
    · rw [utf8EncodeChar_of_isSmall hd, List.mem_singleton] at hmem
      have hnat := congrArg UInt8.toNat hmem
      rw [hc, UInt8.toNat_ofNat_of_lt' (Nat.lt_trans hd (by decide))] at hnat
      exact (Char.toNat_inj.mp hnat).symm
    · have hle := le_toNat_of_mem_utf8EncodeChar hd hmem
      rw [hc] at hle
      exact absurd h (Nat.not_lt.mpr hle)
  · rintro rfl
    rw [utf8EncodeChar_of_isSmall h]
    exact List.mem_singleton_self _

/-- **A text has a small character** exactly if it has the byte of it. -/
theorem mem_utf8_iff {c : Char} (h : IsSmall c) (text : String) :
    UInt8.ofNat c.toNat ∈ utf8 text ↔ c ∈ text.toList := by
  rw [utf8_eq_flatMap, List.mem_flatMap]
  simp only [mem_utf8EncodeChar_iff h, exists_eq_right]

/-- **A text ends in a small character** exactly if it ends in the byte of it. -/
theorem getLast?_utf8_eq_some_iff {c : Char} (h : IsSmall c) (text : String) :
    (utf8 text).getLast? = some (UInt8.ofNat c.toNat) ↔ text.toList.getLast? = some c := by
  rw [utf8_eq_flatMap]
  rcases List.eq_nil_or_concat text.toList with hnil | ⟨front, d, hconcat⟩
  · rw [hnil]
    exact iff_of_false (by simp) (by simp)
  · rw [hconcat, List.concat_eq_append, List.flatMap_append, List.flatMap_singleton,
      List.getLast?_concat,
      List.getLast?_append_of_ne_nil _ String.utf8EncodeChar_ne_nil, Option.some.injEq,
      ← mem_utf8EncodeChar_iff h]
    constructor
    · exact List.mem_of_getLast?
    · rw [mem_utf8EncodeChar_iff h]
      rintro rfl
      rw [utf8EncodeChar_of_isSmall h]
      rfl

/-- A text of small characters has as many bytes as characters. -/
theorem utf8ByteSize_of_isSmall {text : String} (h : ∀ c ∈ text.toList, IsSmall c) :
    text.utf8ByteSize = text.toList.length := by
  rw [← length_utf8, utf8_eq_flatMap]
  generalize text.toList = chars at h
  induction chars with
  | nil => rfl
  | cons c chars ih =>
    rw [List.flatMap_cons, List.length_append,
      utf8EncodeChar_of_isSmall (h c List.mem_cons_self),
      ih fun d hd => h d (List.mem_cons_of_mem c hd), List.length_cons, Nat.add_comm]
    rfl

/-- The bytes of small characters are their code points. -/
theorem utf8_ofList_of_isSmall {chars : List Char} (h : ∀ c ∈ chars, IsSmall c) :
    utf8 (String.ofList chars) = chars.map fun c => UInt8.ofNat c.toNat := by
  rw [utf8_ofList, List.map_eq_flatMap]
  exact List.flatMap_congr fun c hc => utf8EncodeChar_of_isSmall (h c hc)

/-- **A text whose bytes are all small** has no other characters than small ones. -/
theorem isSmall_of_toNat_lt {text : String} (h : ∀ b ∈ utf8 text, b.toNat < 128) {c : Char}
    (hc : c ∈ text.toList) : IsSmall c := by
  by_contra hbig
  obtain ⟨b, hb⟩ := List.exists_mem_of_ne_nil _ (String.utf8EncodeChar_ne_nil (c := c))
  have hmem : b ∈ utf8 text := by
    rw [utf8_eq_flatMap]
    exact List.mem_flatMap.mpr ⟨c, hc, hb⟩
  exact absurd (h b hmem) (Nat.not_lt.mpr (le_toNat_of_mem_utf8EncodeChar hbig hb))

/-- A digit is a single byte. -/
theorem isSmall_of_isDigit {c : Char} (h : c.isDigit = true) : IsSmall c := by
  rw [Char.isDigit, Bool.and_eq_true, decide_eq_true_eq, decide_eq_true_eq] at h
  exact Nat.lt_of_le_of_lt (UInt32.le_iff_toNat_le.mp h.2) (by decide)

/-- **A number has as many bytes as it has digits.** -/
theorem utf8ByteSize_repr_le_iff {n k : Nat} (hk : 0 < k) :
    n.repr.utf8ByteSize ≤ k ↔ n < 10 ^ k := by
  have hsmall : ∀ c ∈ n.repr.toList, IsSmall c := by
    intro c hc
    rw [Nat.toList_repr] at hc
    exact isSmall_of_isDigit (Nat.isDigit_of_mem_toDigits (by decide) (by decide) hc)
  rw [utf8ByteSize_of_isSmall hsmall, Nat.toList_repr, Nat.length_toDigits_le_iff (by decide) hk]

/-- And it has one digit at least. -/
theorem utf8ByteSize_repr_pos (n : Nat) : 0 < n.repr.utf8ByteSize := by
  refine Nat.pos_of_ne_zero fun hzero => ?_
  rw [String.utf8ByteSize_eq_zero_iff] at hzero
  have hdigits : Nat.toDigits 10 n = [] := by rw [← Nat.toList_repr, hzero]; rfl
  exact Nat.toDigits_ne_nil hdigits

/-- A text of one character many times. -/
theorem utf8ByteSize_ofList_replicate (n : Nat) (c : Char) :
    (String.ofList (List.replicate n c)).utf8ByteSize = n * c.utf8Size := by
  rw [← length_utf8, utf8_ofList, List.length_flatMap, List.map_replicate, List.sum_replicate_nat,
    String.length_utf8EncodeChar]

/-- Other characters of the same size make a text of the same size. -/
theorem utf8ByteSize_ofList_map {f : Char → Char} (h : ∀ c, (f c).utf8Size = c.utf8Size)
    (text : String) : (String.ofList (text.toList.map f)).utf8ByteSize = text.utf8ByteSize := by
  rw [← length_utf8, ← length_utf8, utf8_ofList, utf8_eq_flatMap, List.length_flatMap,
    List.length_flatMap, List.map_map]
  congr 2
  funext c
  simp only [Function.comp_apply, String.length_utf8EncodeChar, h]

end Moorings.Text
