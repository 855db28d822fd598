import Moorings.Text.Hidden

/-!
# Quoted text

Messages show a name between double quotes, with everything that could be
mistaken spelled out: the five characters that have a letter of their own
after a backslash (NUL, tab, carriage return, line feed and the quote or
backslash itself), and every hidden character by its code point, as in
`\u{301}`. All others stand as they are, and so does the single quote.

A quoted text never contains a line break (`ne_of_mem_escape`), so a message that
shows one stays on its line.
-/

namespace Moorings.Text

/-- How one character is shown between quotes. -/
def escape (c : Char) : List Char :=
  if c = '\x00' then ['\\', '0']
  else if c = '\t' then ['\\', 't']
  else if c = '\r' then ['\\', 'r']
  else if c = '\n' then ['\\', 'n']
  else if c = '\"' then ['\\', '\"']
  else if c = '\\' then ['\\', '\\']
  else if isHidden c then
    ['\\', 'u', '\x7b'] ++ Nat.toDigits 16 c.toNat ++ ['\x7d']
  else [c]

/-- A text between double quotes. -/
def quoted (text : String) : String :=
  String.ofList ('\"' :: text.toList.flatMap escape ++ ['\"'])

/-- Every digit, in whatever base, has a code point of at least 42. -/
theorem le_toNat_digitChar (n : Nat) : 42 ≤ n.digitChar.toNat := by
  fun_cases Nat.digitChar n <;> decide

/-- Nor does any digit of a number lie below. -/
theorem le_toNat_of_mem_toDigits {b : Nat} (hb : 1 < b) {n : Nat} {c : Char}
    (hc : c ∈ Nat.toDigits b n) : 42 ≤ c.toNat := by
  induction n using Nat.strongRecOn with
  | ind n ih =>
    rw [Nat.toDigits_eq_if hb] at hc
    split at hc
    · rw [List.mem_singleton.1 hc]
      exact le_toNat_digitChar n
    · rcases List.mem_append.1 hc with hc | hc
      · exact ih _ (Nat.div_lt_self (by omega) hb) hc
      · rw [List.mem_singleton.1 hc]
        exact le_toNat_digitChar _

/-- **A shown character brings no line break.** -/
theorem ne_of_mem_escape {c k : Char} (h : k ∈ escape c) : k ≠ '\r' ∧ k ≠ '\n' := by
  unfold escape at h
  -- the six characters that have a letter of their own
  iterate 6
    split at h
    · rw [List.mem_cons, List.mem_singleton] at h
      obtain rfl | rfl := h <;> decide
  rename_i hreturn hnewline _ _
  split at h
  · -- a digit has too great a code point, and the signs around the digits are no line breaks
    rw [List.mem_append, List.mem_append] at h
    obtain (h | h) | h := h
    · rw [List.mem_cons, List.mem_cons, List.mem_singleton] at h
      obtain rfl | rfl | rfl := h <;> decide
    · have hle := le_toNat_of_mem_toDigits (by decide) h
      constructor <;> rintro rfl <;> exact absurd hle (by decide)
    · rw [List.mem_singleton.mp h]
      decide
  · rw [List.mem_singleton.mp h]
    exact ⟨hreturn, hnewline⟩

end Moorings.Text
