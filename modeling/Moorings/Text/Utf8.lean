/-!
# Text as bytes

What travels on a wire is bytes, and what the services mean is text. This
module is the passage between the two: `utf8` writes a text, `ofUtf8?` reads
bytes that are well-formed UTF-8 and refuses all others, and `ofUtf8Lossy`
reads any bytes at all, with U+FFFD in place of what is ill-formed.

The first two are inverse to each other: `ofUtf8?_utf8` says that what was
written is read back, and `eq_utf8_of_ofUtf8?` that nothing else is read.

## Ill-formed bytes

A reader of damaged text has to say how many replacement characters stand for
a run of bad bytes. The rule here is the Unicode one of **maximal subparts**:
a sequence that begins like a character and breaks off counts once, and a
byte that can begin no character counts by itself. `Partial` is the beginning
of a character that has been read, with the range its next byte has to lie
in, and `Partial.step` takes one byte.
-/

namespace Moorings

/-- A run of bytes, in the order in which they travel. -/
abbrev Bytes := List UInt8

namespace Text

/-- The UTF-8 bytes of a text. -/
def utf8 (text : String) : Bytes :=
  text.toByteArray.data.toList

/-- The text that the bytes spell, if they are well-formed UTF-8. -/
def ofUtf8? (bytes : Bytes) : Option String :=
  String.fromUTF8? bytes.toByteArray

/-- Packing the bytes of a text gives the array the text is stored in. -/
theorem toByteArray_utf8 (text : String) :
    (utf8 text).toByteArray = text.toByteArray := by
  apply ByteArray.ext
  simp [utf8, List.data_toByteArray]

/-- What was written is read back. -/
@[simp] theorem ofUtf8?_utf8 (text : String) : ofUtf8? (utf8 text) = some text := by
  have h : text.toByteArray.IsValidUTF8 := text.isValidUTF8
  simp only [ofUtf8?, toByteArray_utf8, String.fromUTF8?, h, ↓reduceDIte]
  rfl

/-- Only the bytes of a text are read as that text. -/
theorem eq_utf8_of_ofUtf8? {bytes : Bytes} {text : String}
    (h : ofUtf8? bytes = some text) : bytes = utf8 text := by
  simp only [ofUtf8?, String.fromUTF8?] at h
  split at h
  · injection h with h
    subst h
    change bytes = bytes.toByteArray.data.toList
    simp [List.data_toByteArray]
  · cases h

/-- Two texts with the same bytes are the same text. -/
theorem utf8_injective {a b : String} (h : utf8 a = utf8 b) : a = b := by
  have : some a = some b := by rw [← ofUtf8?_utf8 a, h, ofUtf8?_utf8]
  exact Option.some.inj this

/-- The bytes of two texts in a row are the bytes of the two in a row. -/
@[simp] theorem utf8_append (a b : String) : utf8 (a ++ b) = utf8 a ++ utf8 b := by
  simp [utf8, String.toByteArray_append]

/-- The empty text has no bytes. -/
@[simp] theorem utf8_empty : utf8 "" = [] := rfl

/-- As many bytes as the text's own measure says. -/
@[simp] theorem length_utf8 (text : String) : (utf8 text).length = text.utf8ByteSize :=
  rfl

/-! ## Reading damaged text -/

/-- What stands for bytes that spell no character. -/
def replacement : Char := '\uFFFD'

/-- **The beginning of a character**: how many bytes it still lacks, the
range in which the next one lies, and the bits read so far. -/
structure Partial where
  /-- How many bytes are still to come, at least one. -/
  lacking : Nat
  /-- The least next byte. -/
  low : UInt8
  /-- The greatest next byte. -/
  high : UInt8
  /-- The scalar value, as far as it is known. -/
  bits : Nat

/-- What a byte comes to where a character may begin: it is one by itself, it
begins a longer one, or it can begin none. The ranges leave out overlong
forms, surrogates and everything above U+10FFFF. -/
def Partial.start (b : UInt8) : List Char × Option Partial :=
  let lead (lacking : Nat) (low high : UInt8) (bits : Nat) : List Char × Option Partial :=
    ([], some { lacking, low, high, bits })
  if b ≤ 0x7F then ([Char.ofNat b.toNat], none)
  else if b < 0xC2 then ([replacement], none)
  else if b ≤ 0xDF then lead 1 0x80 0xBF (b.toNat - 0xC0)
  else if b = 0xE0 then lead 2 0xA0 0xBF 0
  else if b = 0xED then lead 2 0x80 0x9F 0xD
  else if b ≤ 0xEF then lead 2 0x80 0xBF (b.toNat - 0xE0)
  else if b = 0xF0 then lead 3 0x90 0xBF 0
  else if b ≤ 0xF3 then lead 3 0x80 0xBF (b.toNat - 0xF0)
  else if b = 0xF4 then lead 3 0x80 0x8F 4
  else ([replacement], none)

/-- One more byte. In its range it continues the character, which may be
complete with it; otherwise the beginning is given up as one replacement, and
the byte is taken as the start of something new. -/
def Partial.step : Option Partial → UInt8 → List Char × Option Partial
  | none, b => Partial.start b
  | some p, b =>
    if p.low ≤ b ∧ b ≤ p.high then
      let bits := 64 * p.bits + (b.toNat - 0x80)
      if p.lacking ≤ 1 then ([Char.ofNat bits], none)
      else ([], some { lacking := p.lacking - 1, low := 0x80, high := 0xBF, bits })
    else
      let (chars, next) := Partial.start b
      (replacement :: chars, next)

/-- The characters that the bytes spell after the beginning `p`. A beginning
that the end of the bytes cuts off is one replacement. -/
def scrub (p : Option Partial) : Bytes → List Char
  | [] => if p.isSome then [replacement] else []
  | b :: rest =>
    let (chars, next) := Partial.step p b
    chars ++ scrub next rest

/-- **Any bytes as text**: well-formed bytes are read as they are, and in all
others each maximal ill-formed part becomes one U+FFFD. -/
def ofUtf8Lossy (bytes : Bytes) : String :=
  match ofUtf8? bytes with
  | some text => text
  | none => String.ofList (scrub none bytes)

/-- Nothing is replaced in the bytes of a text. -/
@[simp] theorem ofUtf8Lossy_utf8 (text : String) : ofUtf8Lossy (utf8 text) = text := by
  simp [ofUtf8Lossy]

end Text

end Moorings
