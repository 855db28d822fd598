import Moorings.Proofs.Session.Stability
import Moorings.Proofs.Text.Characters

/-!
# Texts that travel as lines

A text that has no line feed can be sent as a line, but need not arrive as it was:
a carriage return at its end is taken for a part of the line's own. `received` is
the text that arrives, and `Scan.line_lineOf` is the whole law of a line, its
limit included.

A text with no line break at all (`IsOneLine`) arrives as it is, if it is not too
long. Such are the words of the protocol, every number, and whatever
`singleLine` makes of a text.
-/

namespace Moorings.Session

open Text (utf8 ofUtf8? utf8_eq_flatMap utf8_ofList)

/-! ## What arrives -/

/-- **What is received of a text sent as a line**: all of it but the carriage
return that it may end in. -/
def received (text : String) : String :=
  if text.toList.getLast? = some '\r' then String.ofList text.toList.dropLast else text

variable {text : String}

theorem received_of_getLast?_ne (h : text.toList.getLast? ≠ some '\r') : received text = text :=
  if_neg h

theorem received_eq_self_iff : received text = text ↔ text.toList.getLast? ≠ some '\r' := by
  refine ⟨fun h hlast => ?_, received_of_getLast?_ne⟩
  -- a text that has lost a character is not the same text
  rw [received, if_pos hlast] at h
  have hlength := congrArg (fun t : String => t.toList.length) h
  rw [String.toList_ofList, List.length_dropLast] at hlength
  have hpos : 0 < text.toList.length := List.length_pos_of_mem (List.mem_of_getLast? hlast)
  omega

theorem received_of_notMem (h : '\r' ∉ text.toList) : received text = text :=
  received_of_getLast?_ne fun hlast => h (List.mem_of_getLast? hlast)

/-- What arrives is what the bytes of the text are without their carriage
return. -/
theorem withoutReturn_utf8 (text : String) :
    Scan.withoutReturn (utf8 text) = utf8 (received text) := by
  have hlast : (utf8 text).getLast? = some carriageReturn ↔ text.toList.getLast? = some '\r' :=
    Text.getLast?_utf8_eq_some_iff (c := '\r') (by decide) text
  unfold Scan.withoutReturn received
  by_cases h : text.toList.getLast? = some '\r'
  · rw [if_pos (hlast.mpr h), if_pos h, utf8_ofList, utf8_eq_flatMap]
    conv_lhs => rw [← List.dropLast_append_getLast? '\r' h, List.flatMap_append]
    exact List.dropLast_concat
  · rw [if_neg (hlast.not.mpr h), if_neg h]

theorem lineFeed_notMem_utf8 (h : '\n' ∉ text.toList) : lineFeed ∉ utf8 text :=
  fun hmem => h ((Text.mem_utf8_iff (c := '\n') (by decide) text).mp hmem)

/-- **The law of a line.** A text that has no line feed is read as what is received
of it, and what follows the line is left, unless it is too long. -/
theorem Scan.line_lineOf (h : '\n' ∉ text.toList) (rest : Bytes) :
    line (lineOf text ++ rest)
      = if maxLine < (received text).utf8ByteSize then .fail (.lineTooLong maxLine)
        else .done (utf8 (received text)) rest := by
  rw [lineOf, List.append_assoc, List.singleton_append,
    line_of_finished (lineFeed_notMem_utf8 h), withoutReturn_utf8, Text.length_utf8]

/-- **A text that arrives as it was sent**: it does not end in a carriage return,
and is no longer than a line may be. -/
structure Travels (text : String) : Prop where
  getLast?_ne : text.toList.getLast? ≠ some '\r'
  fits : text.utf8ByteSize ≤ maxLine

theorem Travels.received_eq (h : Travels text) : received text = text :=
  received_of_getLast?_ne h.getLast?_ne

/-! ## Texts without line breaks -/

/-- A text that has no line break in it. -/
def IsOneLine (text : String) : Prop := ∀ c ∈ text.toList, c ≠ '\r' ∧ c ≠ '\n'

-- the instance is named since there is another one, which goes through all characters
instance (text : String) : Decidable (IsOneLine text) :=
  List.decidableBAll (fun c => c ≠ '\r' ∧ c ≠ '\n') text.toList

namespace IsOneLine

theorem newline_notMem (h : IsOneLine text) : '\n' ∉ text.toList := fun hmem => (h _ hmem).2 rfl

theorem received_eq (h : IsOneLine text) : received text = text :=
  received_of_notMem fun hmem => (h _ hmem).1 rfl

theorem append {other : String} (h : IsOneLine text) (h' : IsOneLine other) :
    IsOneLine (text ++ other) := by
  intro c hc
  rw [String.toList_append, List.mem_append] at hc
  exact hc.elim (h c) (h' c)

/-- One character many times has no line break if the character is none. -/
theorem replicate {c : Char} (hreturn : c ≠ '\r') (hnewline : c ≠ '\n') (n : Nat) :
    IsOneLine (String.ofList (List.replicate n c)) := by
  intro d hd
  rw [String.toList_ofList] at hd
  obtain rfl := List.eq_of_mem_replicate hd
  exact ⟨hreturn, hnewline⟩

/-- A number has only digits. -/
theorem repr (n : Nat) : IsOneLine n.repr := by
  intro c hc
  rw [Nat.toList_repr] at hc
  have hdigit := Nat.isDigit_of_mem_toDigits (by decide) (by decide) hc
  constructor
  · rintro rfl
    exact absurd hdigit (by decide)
  · rintro rfl
    exact absurd hdigit (by decide)

/-- There is nothing to be replaced in a text without line breaks. -/
theorem singleLine_eq (h : IsOneLine text) : singleLine text = text := by
  have hmap : text.toList.map (fun c => if c = '\r' || c = '\n' then ' ' else c)
      = text.toList := by
    refine (List.map_congr_left fun c hc => ?_).trans (List.map_id _)
    obtain ⟨hreturn, hnewline⟩ := h c hc
    simp [hreturn, hnewline]
  rw [singleLine, hmap, String.ofList_toList]

end IsOneLine

/-- After the replacement there are no line breaks. -/
theorem isOneLine_singleLine (text : String) : IsOneLine (singleLine text) := by
  intro c hc
  rw [singleLine, String.toList_ofList] at hc
  obtain ⟨c', -, rfl⟩ := List.mem_map.mp hc
  split
  · decide
  · rename_i h
    rwa [Bool.or_eq_true, not_or, decide_eq_true_eq, decide_eq_true_eq] at h

/-- **A text sent as a line comes back as it was**, with a space for each line break in
what is received of it, exactly if it has no carriage return. -/
theorem singleLine_received_eq_iff (h : '\n' ∉ text.toList) :
    singleLine (received text) = text ↔ '\r' ∉ text.toList := by
  constructor
  · intro hsame hmem
    have hone := isOneLine_singleLine (received text)
    rw [hsame] at hone
    exact (hone _ hmem).1 rfl
  · intro hreturn
    have hone : IsOneLine text := fun c hc => ⟨fun e => hreturn (e ▸ hc), fun e => h (e ▸ hc)⟩
    rw [hone.received_eq, hone.singleLine_eq]

/-- A space takes as many bytes as a line break. -/
theorem utf8ByteSize_singleLine (text : String) :
    (singleLine text).utf8ByteSize = text.utf8ByteSize := by
  refine Text.utf8ByteSize_ofList_map (fun c => ?_) text
  split
  · rename_i h
    rw [Bool.or_eq_true, decide_eq_true_eq, decide_eq_true_eq] at h
    obtain rfl | rfl := h <;> rfl
  · rfl

/-- **A line without line breaks** is read as it is, if it is not too long. -/
theorem Scan.line_of_isOneLine (h : IsOneLine text) (hle : text.utf8ByteSize ≤ maxLine)
    (rest : Bytes) : line (lineOf text ++ rest) = .done (utf8 text) rest := by
  rw [line_lineOf h.newline_notMem, h.received_eq, if_neg (Nat.not_lt.mpr hle)]

/-! ## Numbers -/

/-- A number of 64 bits has 20 digits at most. -/
theorem utf8ByteSize_repr_le {n : Nat} (h : n < UInt64.size) : n.repr.utf8ByteSize ≤ 20 :=
  (Text.utf8ByteSize_repr_le_iff (by decide)).mpr (Nat.lt_trans h (by decide))

/-- The line of a number is not too long. -/
theorem Scan.line_numberLine {n : Nat} (h : n < UInt64.size) (rest : Bytes) :
    line (numberLine n ++ rest) = .done (utf8 n.repr) rest :=
  line_of_isOneLine (.repr n) (Nat.le_trans (utf8ByteSize_repr_le h) (by decide)) rest

/-- **The id on a line** is the one that was written there. -/
theorem readId?_utf8_repr (id : UInt64) : readId? (utf8 id.toNat.repr) = some id := by
  rw [readId?, Text.ofUtf8?_utf8]
  exact Text.Decimal.readUInt64?_toString id

/-- The length on a line is the one that was written there, if it is one of 64
bits. -/
theorem readLength?_utf8_repr_eq (n : Nat) :
    readLength? (utf8 n.repr) = if n ≤ UInt64.size - 1 then some n else none := by
  rw [readLength?, Text.ofUtf8?_utf8]
  exact Text.Decimal.read?_toString_eq (UInt64.size - 1) n

/-- **The length on a line** is read back. -/
theorem readLength?_utf8_repr {n : Nat} (h : n < UInt64.size) :
    readLength? (utf8 n.repr) = some n := by
  rw [readLength?_utf8_repr_eq, if_pos (Nat.le_sub_one_of_lt h)]

/-! ## Content -/

/-- **As many bytes as a content has** are the content. -/
theorem Scan.bytes_utf8 (content : String) (rest : Bytes) :
    bytes content.utf8ByteSize (utf8 content ++ rest) = .done (utf8 content) rest := by
  unfold bytes
  rw [if_neg (by rw [List.length_append, Text.length_utf8]; omega), ← Text.length_utf8,
    List.take_left, List.drop_left]

end Moorings.Session
