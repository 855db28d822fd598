import Moorings.Lease.Message
import Moorings.Proofs.Text.Characters
import Mathlib.Data.String.Basic

/-!
# What is read of a datagram

A message is four lines, and what is read of a line is all of it but the carriage
return that it may end in. So what is read of a message that has been written is that
message, except that its name may have lost a carriage return (`Message.asRead`), if it
is no longer than a datagram may be. `Message.decode_encode_eq` is this law. A name
that a client may have loses nothing and always fits (`Message.decode_encode`).

In the other direction a datagram may be read that nobody would have written: its lines
may end in carriage returns, and its port may have a sign and zeros in front. All this
only makes it longer, so the message that is read is not longer than the datagram when
it is written, but for the last line feed, which the datagram may lack
(`Message.length_encode_le_of_decode`).
-/

namespace Moorings.Text.Decimal

/-- A number that is read of some digits is below the power of ten with as many
zeros. -/
theorem ofDigitChars_lt {digits : List Char} (h : digits.all Char.isDigit = true) (n : Nat) :
    Nat.ofDigitChars 10 digits n < (n + 1) * 10 ^ digits.length := by
  induction digits generalizing n with
  | nil =>
    show n < (n + 1) * 10 ^ 0
    omega
  | cons c digits ih =>
    rw [List.all_cons, Bool.and_eq_true] at h
    have hdigit : c.toNat - '0'.toNat ≤ 9 := by
      have hc := h.1
      rw [Char.isDigit, Bool.and_eq_true, decide_eq_true_eq, decide_eq_true_eq] at hc
      have hle := UInt32.le_iff_toNat_le.mp hc.2
      have h9 : ('9' : Char).val.toNat = 57 := rfl
      have h0 : ('0' : Char).toNat = 48 := rfl
      have hval : c.val.toNat = c.toNat := rfl
      omega
    rw [Nat.ofDigitChars_cons, List.length_cons, Nat.pow_succ']
    refine Nat.lt_of_lt_of_le (ih h.2 _) ?_
    rw [← Nat.mul_assoc]
    exact Nat.mul_le_mul_right _ (by omega)

/-- A sign only makes a text longer. -/
theorem length_unsigned_le (chars : List Char) : (unsigned chars).length ≤ chars.length := by
  unfold unsigned
  split
  · exact Nat.le_succ _
  · exact Nat.le_refl _

/-- A character has one byte at least. -/
theorem length_le_utf8Len (chars : List Char) : chars.length ≤ String.utf8Len chars := by
  induction chars with
  | nil => exact Nat.le_refl 0
  | cons c chars ih =>
    rw [String.utf8Len_cons, List.length_cons]
    exact Nat.add_le_add ih c.utf8Size_pos

/-- **A number is never longer than the text that it is read of.** -/
theorem utf8ByteSize_repr_le_of_read? {max n : Nat} {text : String} (h : read? max text = some n) :
    n.repr.utf8ByteSize ≤ text.utf8ByteSize := by
  have hunsigned := length_unsigned_le text.toList
  have hlength := length_le_utf8Len text.toList
  rw [String.utf8Len_toList] at hlength
  simp only [read?] at h
  split at h
  · cases h
  · rename_i hempty
    split at h
    · rename_i hdigits
      split at h
      · cases h
        have hpos : 0 < (unsigned text.toList).length := by
          rw [List.length_pos_iff]
          exact fun hnil => hempty (List.isEmpty_iff.mpr hnil)
        have hlt := ofDigitChars_lt hdigits 0
        rw [Nat.zero_add, Nat.one_mul] at hlt
        have hrepr := (utf8ByteSize_repr_le_iff hpos).mpr hlt
        omega
      · cases h
    · cases h

end Moorings.Text.Decimal

namespace Moorings.Lease

open Text (utf8 ofUtf8?)

/-! ## Words -/

/-- A word for a kind is one line. -/
theorem Kind.word_isOneLine (kind : Kind) :
    '\n' ∉ kind.word.toList ∧ kind.word.toList.getLast? ≠ some '\r' := by
  cases kind <;> decide

/-- So is a word for a status. -/
theorem Status.word_isOneLine (status : Status) :
    '\n' ∉ status.word.toList ∧ status.word.toList.getLast? ≠ some '\r' := by
  cases status <;> decide

theorem Kind.word_ne_empty (kind : Kind) : kind.word ≠ "" := by
  cases kind <;> decide

theorem Status.word_ne_empty (status : Status) : status.word ≠ "" := by
  cases status <;> decide

theorem Kind.word_injective : Function.Injective Kind.word := fun kind kind' h =>
  Option.some.inj (by rw [← Kind.ofWord?_word kind, h, Kind.ofWord?_word])

theorem Status.word_injective : Function.Injective Status.word := fun status status' h =>
  Option.some.inj (by rw [← Status.ofWord?_word status, h, Status.ofWord?_word])

theorem Kind.read_eq_ok_iff {text : String} {kind : Kind} :
    Kind.read text = .ok kind ↔ text = kind.word := by
  unfold Kind.read
  constructor
  · intro h
    split at h
    · rename_i found hfound
      cases h
      unfold Kind.ofWord? at hfound
      have hword := List.find?_some hfound
      exact (of_decide_eq_true hword).symm
    · cases h
  · rintro rfl
    rw [Kind.ofWord?_word]

theorem Status.read_eq_ok_iff {text : String} {status : Status} :
    Status.read text = .ok status ↔ text = status.word := by
  unfold Status.read
  constructor
  · intro h
    split at h
    · rename_i found hfound
      cases h
      unfold Status.ofWord? at hfound
      have hword := List.find?_some hfound
      exact (of_decide_eq_true hword).symm
    · cases h
  · rintro rfl
    rw [Status.ofWord?_word]

namespace Message

/-! ## Lines -/

/-- The field that a line holds. -/
def fieldOf (line : List Char) : String := String.ofList (withoutReturn line)

variable {line : List Char}

theorem fieldOf_of_getLast?_ne (h : line.getLast? ≠ some '\r') :
    fieldOf line = String.ofList line := by
  rw [fieldOf, withoutReturn, if_neg h]

/-- A text is the field of its line exactly if it does not end in a carriage return. -/
theorem fieldOf_toList_eq_iff {text : String} :
    fieldOf text.toList = text ↔ text.toList.getLast? ≠ some '\r' := by
  constructor
  · intro h hlast
    -- a text that has lost a character is not the same text
    rw [fieldOf, withoutReturn, if_pos hlast] at h
    have hlength := congrArg (fun t : String => t.toList.length) h
    rw [String.toList_ofList, List.length_dropLast] at hlength
    have hpos : 0 < text.toList.length := List.length_pos_of_mem (List.mem_of_getLast? hlast)
    omega
  · intro h
    rw [fieldOf_of_getLast?_ne h, String.ofList_toList]

/-- A field is not longer than its line. -/
theorem utf8ByteSize_fieldOf_le (line : List Char) :
    (fieldOf line).utf8ByteSize ≤ String.utf8Len line := by
  rw [fieldOf, String.utf8ByteSize_ofList, withoutReturn]
  split
  · exact String.utf8Len_le_of_sublist (List.dropLast_sublist line)
  · exact Nat.le_refl _

/-- Nor does it have other characters. -/
theorem newline_notMem_fieldOf (h : '\n' ∉ line) : '\n' ∉ (fieldOf line).toList := by
  rw [fieldOf, String.toList_ofList, withoutReturn]
  split
  · exact fun hmem => h (List.dropLast_subset line hmem)
  · exact h

/-- **The first line of a text** ends at a line feed, after which the others are the lines
of the rest, or is all of it. -/
theorem splitOn_eq_cons {chars : List Char} {others : List (List Char)}
    (h : chars.splitOn '\n' = line :: others) :
    '\n' ∉ line ∧ (others = [] ∧ chars = line
      ∨ ∃ rest, chars = line ++ '\n' :: rest ∧ rest.splitOn '\n' = others) := by
  by_cases hmem : '\n' ∈ chars
  · obtain ⟨front, rest, rfl, hfront⟩ := List.eq_append_cons_of_mem hmem
    rw [List.splitOn_append_cons_self_of_not_mem hfront, List.cons.injEq] at h
    obtain ⟨rfl, rfl⟩ := h
    exact ⟨hfront, .inr ⟨rest, rfl, rfl⟩⟩
  · rw [List.splitOn_eq_singleton hmem, List.cons.injEq] at h
    obtain ⟨rfl, rfl⟩ := h
    exact ⟨hmem, .inl ⟨rfl, rfl⟩⟩

/-- **Four fields and three line feeds** are not longer than the text whose first lines
hold them. -/
theorem utf8ByteSize_le_of_lines {text a b c d : String} {rest : List String}
    (h : lines text = a :: b :: c :: d :: rest) :
    a.utf8ByteSize + b.utf8ByteSize + c.utf8ByteSize + d.utf8ByteSize + 3 ≤ text.utf8ByteSize
      ∧ '\n' ∉ b.toList := by
  change (text.toList.splitOn '\n').map fieldOf = _ at h
  obtain ⟨first, _, hfirst, rfl, h₁⟩ := List.map_eq_cons_iff.mp h
  obtain ⟨second, _, rfl, rfl, h₂⟩ := List.map_eq_cons_iff.mp h₁
  obtain ⟨third, _, rfl, rfl, h₃⟩ := List.map_eq_cons_iff.mp h₂
  obtain ⟨fourth, _, rfl, rfl, -⟩ := List.map_eq_cons_iff.mp h₃
  obtain ⟨-, ⟨hnil, -⟩ | ⟨chars, htext, hsecond⟩⟩ := splitOn_eq_cons hfirst
  · cases hnil
  obtain ⟨hline, ⟨hnil, -⟩ | ⟨chars, rfl, hthird⟩⟩ := splitOn_eq_cons hsecond
  · cases hnil
  obtain ⟨-, ⟨hnil, -⟩ | ⟨chars, rfl, hfourth⟩⟩ := splitOn_eq_cons hthird
  · cases hnil
  have hlast : String.utf8Len fourth ≤ String.utf8Len chars := by
    obtain ⟨-, ⟨-, rfl⟩ | ⟨rest, rfl, -⟩⟩ := splitOn_eq_cons hfourth
    · exact Nat.le_refl _
    · rw [String.utf8Len_append]
      exact Nat.le_add_right _ _
  refine ⟨?_, newline_notMem_fieldOf hline⟩
  have hfeed : ('\n' : Char).utf8Size = 1 := rfl
  have hsize := String.utf8Len_toList text
  rw [htext] at hsize
  simp only [String.utf8Len_append, String.utf8Len_cons, hfeed] at hsize
  have ha := utf8ByteSize_fieldOf_le first
  have hb := utf8ByteSize_fieldOf_le second
  have hc := utf8ByteSize_fieldOf_le third
  have hd := utf8ByteSize_fieldOf_le fourth
  omega

/-! ## What lines make a message -/

theorem required_eq_ok_iff {field : Field} {line? : Option String} {text : String} :
    required field line? = .ok text ↔ line? = some text ∧ text ≠ "" := by
  cases line? with
  | none => exact iff_of_false nofun fun h => nomatch h.1
  | some line =>
    show (if line = "" then .error (.missingField field) else .ok line :
      Except ProtocolError String) = _ ↔ _
    by_cases hempty : line = ""
    · rw [if_pos hempty]
      exact iff_of_false nofun fun h => h.2 (Option.some.inj h.1 ▸ hempty)
    · rw [if_neg hempty, Except.ok.injEq, Option.some.injEq]
      exact ⟨fun e => ⟨e, e ▸ hempty⟩, And.left⟩

/-- One reader after another gives something if both do. -/
theorem bind_eq_ok_iff {α β : Type} {read : Except ProtocolError α}
    {next : α → Except ProtocolError β} {b : β} :
    read >>= next = .ok b ↔ ∃ a, read = .ok a ∧ next a = .ok b := by
  cases read with
  | error error => exact iff_of_false nofun fun ⟨_, e, _⟩ => by cases e
  | ok a => exact ⟨fun h => ⟨a, rfl, h⟩, fun ⟨_, e, h⟩ => by cases e; exact h⟩

/-- A list with something in its first four places. -/
theorem eq_cons_of_getElem? {α : Type} {fields : List α} {a b c d : α} (h₀ : fields[0]? = some a)
    (h₁ : fields[1]? = some b) (h₂ : fields[2]? = some c) (h₃ : fields[3]? = some d) :
    fields = a :: b :: c :: d :: fields.drop 4 := by
  match fields, h₀, h₁, h₂, h₃ with
  | _ :: _ :: _ :: _ :: _, rfl, rfl, rfl, rfl => rfl

/-- **Four lines make a message** if they hold its fields, and what follows is empty. -/
theorem ofLines_eq_ok_iff {fields : List String} {m : Message} :
    ofLines fields = .ok m
      ↔ ∃ portText rest, fields = m.kind.word :: m.name :: portText :: m.status.word :: rest
        ∧ Text.Decimal.readUInt16? portText = some m.port ∧ ∀ field ∈ rest, field = "" := by
  unfold ofLines
  simp only [bind_eq_ok_iff]
  constructor
  · rintro ⟨kindText, hkindText, kind, hkind, h⟩
    -- each of the four lines is there, since the lack of one would have been the outcome
    split at h
    case h_2 => cases h
    rename_i name hname
    split at h
    case h_2 => cases h
    rename_i portText hportText
    split at h
    case h_2 => cases h
    rename_i port hport
    simp only [bind_eq_ok_iff] at h
    obtain ⟨statusText, hstatusText, status, hstatus, h⟩ := h
    obtain ⟨hkindLine, -⟩ := required_eq_ok_iff.mp hkindText
    obtain ⟨hstatusLine, -⟩ := required_eq_ok_iff.mp hstatusText
    obtain rfl := Kind.read_eq_ok_iff.mp hkind
    obtain rfl := Status.read_eq_ok_iff.mp hstatus
    split at h
    · cases h
    · rename_i hrest
      cases h
      refine ⟨portText, fields.drop 4,
        eq_cons_of_getElem? hkindLine hname hportText hstatusLine, hport, fun field hfield => ?_⟩
      by_contra hfield'
      exact hrest (List.any_eq_true.mpr ⟨field, hfield, decide_eq_true hfield'⟩)
  · rintro ⟨portText, rest, rfl, hport, hrest⟩
    refine ⟨_, required_eq_ok_iff.mpr ⟨rfl, m.kind.word_ne_empty⟩, _,
      Kind.read_eq_ok_iff.mpr rfl, ?_⟩
    have hany : ¬(rest.any fun field => decide (field ≠ "")) = true := by
      intro hany
      obtain ⟨field, hfield, hne⟩ := List.any_eq_true.mp hany
      exact of_decide_eq_true hne (hrest field hfield)
    simp only [List.getElem?_cons_succ, List.getElem?_cons_zero, hport, bind_eq_ok_iff]
    exact ⟨_, required_eq_ok_iff.mpr ⟨rfl, m.status.word_ne_empty⟩, _,
      Status.read_eq_ok_iff.mpr rfl, if_neg hany⟩

/-! ## Reading what has been written -/

/-- **What is read of a message**: all of it but the carriage return that its name may
end in. -/
def asRead (m : Message) : Message := { m with name := fieldOf m.name.toList }

variable {m : Message}

theorem asRead_eq_self_iff : m.asRead = m ↔ m.name.toList.getLast? ≠ some '\r' := by
  obtain ⟨kind, name, port, status⟩ := m
  rw [← fieldOf_toList_eq_iff, asRead, mk.injEq]
  simp only [true_and, and_true]

theorem toList_text (m : Message) :
    m.text.toList = m.kind.word.toList ++ '\n' :: (m.name.toList ++ '\n' ::
      (m.port.toNat.repr.toList ++ '\n' :: (m.status.word.toList ++ '\n' :: []))) := by
  show (toString m.kind.word ++ "\n" ++ toString m.name ++ "\n" ++ toString m.port.toNat ++ "\n"
    ++ toString m.status.word ++ "\n").toList = _
  simp only [String.toList_append, List.append_assoc]
  rfl

/-- A number is one line. -/
theorem repr_isOneLine (n : Nat) :
    '\n' ∉ n.repr.toList ∧ n.repr.toList.getLast? ≠ some '\r' := by
  have hdigits : ∀ c ∈ n.repr.toList, c.isDigit = true := by
    intro c hc
    rw [Nat.toList_repr] at hc
    exact Nat.isDigit_of_mem_toDigits (by decide) (by decide) hc
  exact ⟨fun hmem => absurd (hdigits _ hmem) (by decide), fun hlast =>
    absurd (hdigits _ (List.mem_of_getLast? hlast)) (by decide)⟩

/-- **How a message is cut at its line feeds**: its name is between the word for its kind
and its last three fields, however many lines it may take. -/
theorem splitOn_text (m : Message) :
    m.text.toList.splitOn '\n' = m.kind.word.toList ::
      (m.name.toList.splitOn '\n' ++ [m.port.toNat.repr.toList, m.status.word.toList, []]) := by
  rw [toList_text, List.splitOn_append_cons_self_of_not_mem m.kind.word_isOneLine.1,
    List.splitOn_append_cons_self, List.splitOn_append_cons_self_of_not_mem (repr_isOneLine _).1,
    List.splitOn_append_cons_self_of_not_mem m.status.word_isOneLine.1, List.splitOn_nil]

/-- The lines of a message are its fields. -/
theorem lines_text (h : '\n' ∉ m.name.toList) :
    lines m.text
      = [m.kind.word, fieldOf m.name.toList, m.port.toNat.repr, m.status.word, ""] := by
  rw [lines, splitOn_text, List.splitOn_eq_singleton h]
  show [fieldOf m.kind.word.toList, fieldOf m.name.toList, fieldOf m.port.toNat.repr.toList,
    fieldOf m.status.word.toList, ""] = _
  rw [fieldOf_toList_eq_iff.mpr m.kind.word_isOneLine.2,
    fieldOf_toList_eq_iff.mpr (repr_isOneLine _).2,
    fieldOf_toList_eq_iff.mpr m.status.word_isOneLine.2]

/-- **The law of a message that is written.** It is read as it is received, unless it
makes too long a datagram. -/
theorem decode_encode_eq (h : '\n' ∉ m.name.toList) :
    decode m.encode
      = if maxDatagram < m.encode.length then .error (.tooLarge m.encode.length maxDatagram)
        else .ok m.asRead := by
  have hlines : ofLines (lines m.text) = .ok m.asRead := by
    rw [lines_text h]
    refine ofLines_eq_ok_iff.mpr ⟨_, _, rfl, Text.Decimal.readUInt16?_toString m.port, ?_⟩
    exact fun field hfield => List.mem_singleton.mp hfield
  unfold decode
  split
  · rfl
  · rw [encode, Text.ofUtf8?_utf8]
    exact hlines

/-- **A message is read back** exactly if it fits in a datagram and its name does not end
in a carriage return. -/
theorem decode_encode_eq_ok_iff (h : '\n' ∉ m.name.toList) :
    decode m.encode = .ok m
      ↔ m.encode.length ≤ maxDatagram ∧ m.name.toList.getLast? ≠ some '\r' := by
  rw [decode_encode_eq h, ← asRead_eq_self_iff]
  split
  · rename_i hlong
    exact iff_of_false nofun fun hread => absurd hread.1 (Nat.not_le.mpr hlong)
  · rename_i hfits
    rw [Except.ok.injEq]
    exact (and_iff_right (Nat.not_lt.mp hfits)).symm

/-! ## How long a message is -/

/-- What is read of a datagram is read of the lines of its text. -/
theorem eq_utf8_of_decode {datagram : Bytes} (h : decode datagram = .ok m) :
    ∃ text, datagram = utf8 text ∧ ofLines (lines text) = .ok m := by
  unfold decode at h
  split at h
  · cases h
  · split at h
    · rename_i text htext
      exact ⟨text, Text.eq_utf8_of_ofUtf8? htext, h⟩
    · cases h

/-- A message has the bytes of its four fields, and a line feed after each. -/
theorem length_encode (m : Message) :
    m.encode.length = m.kind.word.utf8ByteSize + m.name.utf8ByteSize
      + m.port.toNat.repr.utf8ByteSize + m.status.word.utf8ByteSize + 4 := by
  have hsize : (m.text).utf8ByteSize = String.utf8Len m.text.toList :=
    (String.utf8Len_toList m.text).symm
  have hfeed : ('\n' : Char).utf8Size = 1 := rfl
  rw [encode, Text.length_utf8, hsize, toList_text]
  simp only [String.utf8Len_append, String.utf8Len_cons, String.utf8Len_nil, hfeed,
    String.utf8Len_toList]
  omega

/-- **A message that is read is not longer than the datagram it is read of**, but for its
last line feed. -/
theorem length_encode_le_of_decode {datagram : Bytes} (h : decode datagram = .ok m) :
    m.encode.length ≤ datagram.length + 1 := by
  obtain ⟨text, rfl, hlines⟩ := eq_utf8_of_decode h
  obtain ⟨portText, rest, hfields, hport, -⟩ := ofLines_eq_ok_iff.mp hlines
  obtain ⟨hsize, -⟩ := utf8ByteSize_le_of_lines hfields
  obtain ⟨port, hread, hport⟩ := Option.map_eq_some_iff.mp hport
  have hshorter := Text.Decimal.utf8ByteSize_repr_le_of_read? hread
  have hnat : m.port.toNat = port := by
    rw [← hport]
    exact UInt16.toNat_ofNat_of_lt'
      (Nat.lt_of_le_of_lt (Text.Decimal.le_of_read? hread) (by decide))
  rw [length_encode, Text.length_utf8, hnat]
  omega

/-- **The name of a message that is read** is one line. -/
theorem newline_notMem_of_decode {datagram : Bytes} (h : decode datagram = .ok m) :
    '\n' ∉ m.name.toList := by
  obtain ⟨text, rfl, hlines⟩ := eq_utf8_of_decode h
  obtain ⟨portText, rest, hfields, -⟩ := ofLines_eq_ok_iff.mp hlines
  exact (utf8ByteSize_le_of_lines hfields).2

/-! ## Names that a client may have -/

/-- A name that a client may have is one line, and not longer than a name may be. -/
theorem checkServiceName_eq_ok_iff {name : String} :
    checkServiceName name = .ok ()
      ↔ ('\n' ∉ name.toList ∧ '\r' ∉ name.toList) ∧ name.utf8ByteSize ≤ maxServiceName := by
  have hbreak : name.toList.any (fun c => c = '\n' || c = '\r') = true
      ↔ '\n' ∈ name.toList ∨ '\r' ∈ name.toList := by
    simp only [List.any_eq_true, Bool.or_eq_true, decide_eq_true_eq, and_or_left, exists_or,
      exists_eq_right]
  unfold checkServiceName
  rw [← not_or, ← hbreak]
  split
  · rename_i h
    exact iff_of_false nofun fun hname => hname.1 h
  · rename_i h
    split
    · rename_i hlong
      exact iff_of_false nofun fun hname => absurd hname.2 (Nat.not_le.mpr hlong)
    · rename_i hshort
      exact iff_of_true rfl ⟨h, Nat.not_lt.mp hshort⟩

/-- **A message under a name that a client may have fits in a datagram.** -/
theorem length_encode_le (h : checkServiceName m.name = .ok ()) :
    m.encode.length ≤ maxDatagram := by
  have hname : m.name.utf8ByteSize ≤ 960 := (checkServiceName_eq_ok_iff.mp h).2
  have hkind : m.kind.word.utf8ByteSize ≤ 12 := by
    cases m.kind <;> decide
  have hstatus : m.status.word.utf8ByteSize ≤ 17 := by
    cases m.status <;> decide
  have hport : m.port.toNat.repr.utf8ByteSize ≤ 5 :=
    (Text.utf8ByteSize_repr_le_iff (by decide)).mpr (Nat.lt_trans m.port.toNat_lt (by decide))
  rw [length_encode]
  unfold maxDatagram
  omega

/-- **And it is read back.** -/
theorem decode_encode (h : checkServiceName m.name = .ok ()) : decode m.encode = .ok m := by
  obtain ⟨⟨hline, hreturn⟩, -⟩ := checkServiceName_eq_ok_iff.mp h
  exact (decode_encode_eq_ok_iff hline).mpr
    ⟨length_encode_le h, fun hlast => hreturn (List.mem_of_getLast? hlast)⟩

/-! ## Two messages -/

/-- **No two messages have the same bytes**, whatever their names are: although a name
with a line feed in it is not read back, it begins after the first line and ends before
the last three. -/
theorem encode_injective : Function.Injective encode := by
  intro m m' h
  have htext : m.text = m'.text := Text.utf8_injective h
  have hsplit : m.text.toList.splitOn '\n' = m'.text.toList.splitOn '\n' := by rw [htext]
  rw [splitOn_text, splitOn_text, List.cons.injEq] at hsplit
  obtain ⟨hkind, hfields⟩ := hsplit
  obtain ⟨hname, hlast⟩ := List.append_inj' hfields rfl
  rw [List.cons.injEq, List.cons.injEq] at hlast
  obtain ⟨hport, hstatus, -⟩ := hlast
  have hkind' : m.kind = m'.kind := Kind.word_injective (String.toList_injective hkind)
  have hname' : m.name = m'.name := by
    have hjoin := congrArg (List.intercalate ['\n']) hname
    rw [List.intercalate_splitOn, List.intercalate_splitOn] at hjoin
    exact String.toList_injective hjoin
  have hport' : m.port = m'.port := by
    have hread : Text.Decimal.readUInt16? m.port.toNat.repr = some m'.port := by
      rw [String.toList_injective hport]
      exact Text.Decimal.readUInt16?_toString m'.port
    exact Option.some.inj ((Text.Decimal.readUInt16?_toString m.port).symm.trans hread)
  have hstatus' : m.status = m'.status :=
    Status.word_injective (String.toList_injective hstatus)
  obtain ⟨kind, name, port, status⟩ := m
  cases hkind'
  cases hname'
  cases hport'
  cases hstatus'
  rfl

/-- **A message under a name that a client may have makes its way**, whatever it asks for
or tells. It fits in a datagram, it is the message that is read there, and no other
message has its bytes. The names are the texts without line breaks that are not too
long. -/
theorem checked_read_back (name : String) :
    (checkServiceName name = .ok ()
        ↔ ('\n' ∉ name.toList ∧ '\r' ∉ name.toList) ∧ name.utf8ByteSize ≤ maxServiceName)
      ∧ (checkServiceName name = .ok () → ∀ (kind : Kind) (port : UInt16) (status : Status),
        let m : Message := { kind, name, port, status }
        m.encode.length ≤ maxDatagram ∧ decode m.encode = .ok m
          ∧ ∀ m' : Message, m'.encode = m.encode → m' = m) := by
  refine ⟨checkServiceName_eq_ok_iff, fun h kind port status => ?_⟩
  intro m
  have hcheck : checkServiceName m.name = .ok () := h
  exact ⟨length_encode_le hcheck, decode_encode hcheck, fun m' hsame => encode_injective hsame⟩

/-- The longest name there is, of letters of two bytes, in the longest message. -/
theorem checked_read_back_of_longest :
    let name := String.ofList (List.replicate 480 'é')
    let m : Message := { kind := .requestPort, name, port := 65535, status := .serviceNotFound }
    checkServiceName name = .ok () ∧ name.utf8ByteSize = maxServiceName
      ∧ m.encode.length ≤ maxDatagram ∧ decode m.encode = .ok m := by
  intro name m
  have hletter : ∀ c ∈ name.toList, c = 'é' := by
    intro c hc
    rw [String.toList_ofList] at hc
    exact List.eq_of_mem_replicate hc
  have hsize : name.utf8ByteSize = maxServiceName := by
    rw [Text.utf8ByteSize_ofList_replicate]
    rfl
  obtain ⟨hiff, hread⟩ := checked_read_back name
  have hcheck : checkServiceName name = .ok () := by
    refine hiff.mpr ⟨⟨fun hmem => ?_, fun hmem => ?_⟩, Nat.le_of_eq hsize⟩
    · exact absurd (hletter _ hmem) (by decide)
    · exact absurd (hletter _ hmem) (by decide)
  obtain ⟨hlength, hdecode, -⟩ := hread hcheck .requestPort 65535 .serviceNotFound
  exact ⟨hcheck, hsize, hlength, hdecode⟩

end Message

end Moorings.Lease
