import Moorings.Proofs.Lease.Datagrams
import Moorings.Proofs.Session.Lines
import Moorings.Proofs.Text.Numerals

/-!
# Which datagrams are messages

Whatever arrives at the socket is read as a message or refused, and anybody may send
anything. This module says of the bytes of a datagram alone which of the two happens.

A datagram is cut at its line feeds into `pieces`. It spells a message
(`Message.Spells`) if it is short enough, is text, and has at least four pieces, which
are a word for a kind, a name, a number for a port and a word for a status, with nothing
but empty pieces after them. In other words, it meets seven conditions, each of which
can be said without the others (`Message.Condition.Holds`). The conditions have an order,
and a datagram that is refused is refused for the first of them that it does not meet
(`Message.Refuses`).

`Message.decode_accepts_exactly` is the whole law. That the cut is one of bytes and not
of characters makes no difference, since a line feed is a byte that no other character
has in it (`Message.pieces_utf8`).
-/

namespace Moorings.Lease

open Text (utf8 ofUtf8?)
open Session (lineFeed)

namespace Message

/-! ## Pieces -/

/-- **The pieces of a datagram**: what is between its line feeds, each piece without the
carriage return that it may end in. -/
def pieces (datagram : Bytes) : List Bytes :=
  (datagram.splitOn lineFeed).map Session.Scan.withoutReturn

/-- A text is cut at its line feeds wherever its bytes are. -/
theorem splitOn_utf8 (chars : List Char) :
    (utf8 (String.ofList chars)).splitOn lineFeed
      = (chars.splitOn '\n').map fun line => utf8 (String.ofList line) := by
  induction hn : chars.length using Nat.strongRecOn generalizing chars with
  | ind n ih =>
    subst hn
    by_cases hmem : '\n' ∈ chars
    · obtain ⟨front, rest, rfl, hfront⟩ := List.eq_append_cons_of_mem hmem
      have hbytes : utf8 (String.ofList (front ++ '\n' :: rest))
          = utf8 (String.ofList front) ++ lineFeed :: utf8 (String.ofList rest) := by
        simp only [Text.utf8_ofList, List.flatMap_append, List.flatMap_cons]
        rfl
      have hline : lineFeed ∉ utf8 (String.ofList front) :=
        Session.lineFeed_notMem_utf8 (by rwa [String.toList_ofList])
      have hshorter : rest.length < (front ++ '\n' :: rest).length := by
        rw [List.length_append, List.length_cons]
        omega
      rw [hbytes, List.splitOn_append_cons_self_of_not_mem hline, ih _ hshorter rest rfl,
        List.splitOn_append_cons_self_of_not_mem hfront, List.map_cons]
    · have hline : lineFeed ∉ utf8 (String.ofList chars) :=
        Session.lineFeed_notMem_utf8 (by rwa [String.toList_ofList])
      rw [List.splitOn_eq_singleton hline, List.splitOn_eq_singleton hmem, List.map_singleton]

/-- What is left of the bytes of a line is the field that it holds. -/
theorem withoutReturn_utf8_ofList (line : List Char) :
    Session.Scan.withoutReturn (utf8 (String.ofList line)) = utf8 (fieldOf line) := by
  rw [Session.withoutReturn_utf8, Session.received, String.toList_ofList, fieldOf, withoutReturn]
  split <;> rfl

/-- **The pieces of a text are its lines.** -/
theorem pieces_utf8 (text : String) : pieces (utf8 text) = (lines text).map utf8 := by
  have hsplit := splitOn_utf8 text.toList
  rw [String.ofList_toList] at hsplit
  rw [pieces, hsplit, List.map_map, lines, List.map_map]
  exact List.map_congr_left fun line _ => withoutReturn_utf8_ofList line

section Piece

variable {text field : String} {i : Nat}

theorem getElem?_pieces_utf8 :
    (pieces (utf8 text))[i]? = ((lines text)[i]?).map utf8 := by
  rw [pieces_utf8, List.getElem?_map]

theorem getElem?_pieces_eq_some_iff :
    (pieces (utf8 text))[i]? = some (utf8 field) ↔ (lines text)[i]? = some field := by
  rw [getElem?_pieces_utf8, Option.map_eq_some_iff]
  exact ⟨fun ⟨_, h, e⟩ => Text.utf8_injective e ▸ h, fun h => ⟨field, h, rfl⟩⟩

theorem getElem?_pieces_eq_none_iff :
    (pieces (utf8 text))[i]? = none ↔ (lines text)[i]? = none := by
  rw [getElem?_pieces_utf8, Option.map_eq_none_iff]

end Piece

/-! ## Messages that are spelled -/

/-- **A datagram that spells a message.** -/
structure Spells (datagram : Bytes) (m : Message) : Prop where
  /-- It is no longer than a datagram may be. -/
  fits : datagram.length ≤ maxDatagram
  /-- It is text. -/
  isText : ∃ text, datagram = utf8 text
  /-- Its first four pieces are the fields of the message, and all others are empty. -/
  fields : ∃ port rest,
    pieces datagram = utf8 m.kind.word :: utf8 m.name :: port :: utf8 m.status.word :: rest
      ∧ Text.Decimal.Writes port m.port.toNat ∧ ∀ piece ∈ rest, piece = []

/-- A text that is not too long is read line by line. -/
theorem decode_utf8 {text : String} (h : (utf8 text).length ≤ maxDatagram) :
    decode (utf8 text) = ofLines (lines text) := by
  unfold decode
  rw [if_neg (Nat.not_lt.mpr h), Text.ofUtf8?_utf8]

/-- The lines of a message are the pieces of one. -/
theorem ofLines_eq_ok_iff_pieces {text : String} {m : Message} :
    ofLines (lines text) = .ok m ↔ ∃ port rest,
      pieces (utf8 text) = utf8 m.kind.word :: utf8 m.name :: port :: utf8 m.status.word :: rest
        ∧ Text.Decimal.Writes port m.port.toNat ∧ ∀ piece ∈ rest, piece = [] := by
  rw [ofLines_eq_ok_iff, pieces_utf8]
  constructor
  · rintro ⟨port, rest, hlines, hport, hrest⟩
    refine ⟨utf8 port, rest.map utf8, by rw [hlines]; rfl,
      Text.Decimal.readUInt16?_eq_some_iff.mp hport, fun piece hpiece => ?_⟩
    obtain ⟨field, hfield, rfl⟩ := List.mem_map.mp hpiece
    rw [hrest field hfield, Text.utf8_empty]
  · rintro ⟨port, rest, hpieces, hport, hrest⟩
    obtain ⟨kind, _, hlines, hkind, h₁⟩ := List.map_eq_cons_iff.mp hpieces
    obtain ⟨name, _, rfl, hname, h₂⟩ := List.map_eq_cons_iff.mp h₁
    obtain ⟨port, _, rfl, rfl, h₃⟩ := List.map_eq_cons_iff.mp h₂
    obtain ⟨status, rest, rfl, hstatus, rfl⟩ := List.map_eq_cons_iff.mp h₃
    obtain rfl := Text.utf8_injective hkind
    obtain rfl := Text.utf8_injective hname
    obtain rfl := Text.utf8_injective hstatus
    refine ⟨port, rest, hlines, Text.Decimal.readUInt16?_eq_some_iff.mpr hport, fun field hfield =>
      Text.utf8_injective ?_⟩
    rw [hrest _ (List.mem_map_of_mem hfield), Text.utf8_empty]

/-- **What is read is what is spelled.** -/
theorem decode_eq_ok_iff_spells {datagram : Bytes} {m : Message} :
    decode datagram = .ok m ↔ Spells datagram m := by
  constructor
  · intro h
    have hfits : datagram.length ≤ maxDatagram := by
      unfold decode at h
      split at h
      · cases h
      · rename_i hlong
        exact Nat.not_lt.mp hlong
    obtain ⟨text, rfl, hlines⟩ := eq_utf8_of_decode h
    exact ⟨hfits, ⟨text, rfl⟩, ofLines_eq_ok_iff_pieces.mp hlines⟩
  · rintro ⟨hfits, ⟨text, rfl⟩, hfields⟩
    rw [decode_utf8 hfits]
    exact ofLines_eq_ok_iff_pieces.mpr hfields

/-! ## Conditions -/

/-- **What a datagram has to meet** to be read, one thing after the other. -/
inductive Condition where
  /-- It is not too long. -/
  | size
  /-- It is text. -/
  | encoding
  /-- It says what kind of message it is. -/
  | kind
  /-- It has a name. -/
  | name
  /-- It has a port. -/
  | port
  /-- It has a status. -/
  | status
  /-- It has nothing else. -/
  | ending
  deriving DecidableEq, Repr

namespace Condition

/-- Every condition, in the order in which they are looked at. -/
def all : List Condition := [size, encoding, kind, name, port, status, ending]

/-- The conditions that are looked at before this one. -/
def earlier (c : Condition) : List Condition := all.takeWhile (· ≠ c)

/-- **Whether a datagram meets a condition**, said of each condition by itself. -/
def Holds (datagram : Bytes) : Condition → Prop
  | size => datagram.length ≤ maxDatagram
  | encoding => ∃ text, datagram = utf8 text
  | kind => ∃ kind : Kind, (pieces datagram)[0]? = some (utf8 kind.word)
  | name => ∃ name, (pieces datagram)[1]? = some name
  | port => ∃ port n, (pieces datagram)[2]? = some port ∧ Text.Decimal.Writes port n ∧ n ≤ 65535
  | status => ∃ status : Status, (pieces datagram)[3]? = some (utf8 status.word)
  | ending => ∀ piece ∈ (pieces datagram).drop 4, piece = []

/-- **The first condition that a datagram does not meet.** -/
def IsFirstViolated (datagram : Bytes) (c : Condition) : Prop :=
  (∀ c' ∈ c.earlier, c'.Holds datagram) ∧ ¬ c.Holds datagram

end Condition

/-- **What is said of a datagram that does not meet a condition.** -/
inductive Refuses (datagram : Bytes) : Condition → ProtocolError → Prop
  | tooLong : Refuses datagram .size (.tooLarge datagram.length maxDatagram)
  | noText : Refuses datagram .encoding .invalidUtf8
  | noKind (h : (pieces datagram)[0]? = some []) :
    Refuses datagram .kind (.missingField .kind)
  | otherKind {word : String} (h : (pieces datagram)[0]? = some (utf8 word)) (hne : word ≠ "") :
    Refuses datagram .kind (.unknownMessageType word)
  | noName : Refuses datagram .name (.missingField .serviceName)
  | noPort (h : (pieces datagram)[2]? = none) : Refuses datagram .port (.missingField .port)
  | otherPort {number : String} (h : (pieces datagram)[2]? = some (utf8 number)) :
    Refuses datagram .port (.invalidNumber .port number)
  | noStatus (h : (pieces datagram)[3]? = none ∨ (pieces datagram)[3]? = some []) :
    Refuses datagram .status (.missingField .status)
  | otherStatus {word : String} (h : (pieces datagram)[3]? = some (utf8 word)) (hne : word ≠ "") :
    Refuses datagram .status (.unknownStatus word)
  | moreFields : Refuses datagram .ending (.malformed .extraFields)

end Message

/-! ## What is refused -/

/-- A word that is none for a kind. -/
theorem Kind.read_of_ne {word : String} (h : ∀ kind : Kind, word ≠ kind.word) :
    Kind.read word = .error (.unknownMessageType word) := by
  cases hread : Kind.read word with
  | ok kind => exact absurd (Kind.read_eq_ok_iff.mp hread) (h kind)
  | error error =>
    unfold Kind.read at hread
    split at hread <;> cases hread
    rfl

/-- And one that is none for a status. -/
theorem Status.read_of_ne {word : String} (h : ∀ status : Status, word ≠ status.word) :
    Status.read word = .error (.unknownStatus word) := by
  cases hread : Status.read word with
  | ok status => exact absurd (Status.read_eq_ok_iff.mp hread) (h status)
  | error error =>
    unfold Status.read at hread
    split at hread <;> cases hread
    rfl

namespace Message

variable {datagram : Bytes} {text : String}

/-! The last five conditions, said of the lines of a text. -/

theorem holds_kind_iff :
    Condition.kind.Holds (utf8 text) ↔ ∃ kind : Kind, (lines text)[0]? = some kind.word :=
  exists_congr fun _ => getElem?_pieces_eq_some_iff

theorem holds_name_iff :
    Condition.name.Holds (utf8 text) ↔ ∃ name, (lines text)[1]? = some name := by
  show (∃ name, (pieces (utf8 text))[1]? = some name) ↔ _
  simp only [getElem?_pieces_utf8, Option.map_eq_some_iff]
  exact ⟨fun ⟨_, name, h, _⟩ => ⟨name, h⟩, fun ⟨name, h⟩ => ⟨_, name, h, rfl⟩⟩

theorem holds_port_iff :
    Condition.port.Holds (utf8 text) ↔ ∃ number port, (lines text)[2]? = some number
      ∧ Text.Decimal.readUInt16? number = some port := by
  constructor
  · rintro ⟨piece, n, hpiece, hwrites, hle⟩
    obtain ⟨number, hnumber, rfl⟩ := Option.map_eq_some_iff.mp (getElem?_pieces_utf8 ▸ hpiece)
    refine ⟨number, .ofNat n, hnumber, Text.Decimal.readUInt16?_eq_some_iff.mpr ?_⟩
    rwa [UInt16.toNat_ofNat_of_lt' (Nat.lt_succ_of_le hle)]
  · rintro ⟨number, port, hnumber, hport⟩
    exact ⟨utf8 number, port.toNat, getElem?_pieces_eq_some_iff.mpr hnumber,
      Text.Decimal.readUInt16?_eq_some_iff.mp hport, Nat.le_of_lt_succ port.toNat_lt⟩

theorem holds_status_iff :
    Condition.status.Holds (utf8 text) ↔ ∃ status : Status, (lines text)[3]? = some status.word :=
  exists_congr fun _ => getElem?_pieces_eq_some_iff

theorem holds_ending_iff :
    Condition.ending.Holds (utf8 text) ↔ ∀ field ∈ (lines text).drop 4, field = "" := by
  show (∀ piece ∈ (pieces (utf8 text)).drop 4, piece = []) ↔ _
  rw [pieces_utf8, ← List.map_drop, List.forall_mem_map]
  refine forall₂_congr fun field _ => ⟨fun h => Text.utf8_injective h, ?_⟩
  rintro rfl
  rfl

/-- **A message is spelled if every condition is met.** -/
theorem exists_spells_iff : (∃ m, Spells datagram m) ↔ ∀ c : Condition, c.Holds datagram := by
  constructor
  · rintro ⟨m, hfits, htext, port, rest, hpieces, hport, hrest⟩ c
    cases c with
    | size => exact hfits
    | encoding => exact htext
    | kind => exact ⟨m.kind, by rw [hpieces]; rfl⟩
    | name => exact ⟨utf8 m.name, by rw [hpieces]; rfl⟩
    | port => exact ⟨port, _, by rw [hpieces]; rfl, hport, Nat.le_of_lt_succ m.port.toNat_lt⟩
    | status => exact ⟨m.status, by rw [hpieces]; rfl⟩
    | ending =>
      show ∀ piece ∈ (pieces datagram).drop 4, piece = []
      rw [hpieces]
      exact hrest
  · intro h
    obtain ⟨text, rfl⟩ : ∃ text, datagram = utf8 text := h .encoding
    obtain ⟨kind, hkind⟩ := holds_kind_iff.mp (h .kind)
    obtain ⟨name, hname⟩ := holds_name_iff.mp (h .name)
    obtain ⟨number, port, hnumber, hport⟩ := holds_port_iff.mp (h .port)
    obtain ⟨status, hstatus⟩ := holds_status_iff.mp (h .status)
    refine ⟨{ kind, name, port, status }, h .size, ⟨text, rfl⟩, ?_⟩
    refine ofLines_eq_ok_iff_pieces.mp (ofLines_eq_ok_iff.mpr ⟨number, (lines text).drop 4, ?_⟩)
    exact ⟨eq_cons_of_getElem? hkind hname hnumber hstatus, hport, holds_ending_iff.mp (h .ending)⟩

/-- A reader that has read something is followed by the next one. -/
theorem ok_bind {α β : Type} (a : α) (next : α → Except ProtocolError β) :
    (Except.ok a >>= next) = next a := rfl

theorem required_of_ne {field : Field} {line : String} (h : line ≠ "") :
    required field (some line) = .ok line := if_neg h

/-- Bytes that are no text are not read. -/
theorem decode_of_no_text (hfits : datagram.length ≤ maxDatagram)
    (h : ¬∃ text, datagram = utf8 text) : decode datagram = .error .invalidUtf8 := by
  unfold decode
  rw [if_neg (Nat.not_lt.mpr hfits)]
  split
  · rename_i text htext
    exact absurd ⟨text, Text.eq_utf8_of_ofUtf8? htext⟩ h
  · rfl

section Lines

variable {fields : List String} {kind : Kind} {name number : String} {port : UInt16}
  {status : Status}

theorem ofLines_of_noKind (h₀ : fields[0]? = some "") :
    ofLines fields = .error (.missingField .kind) := by
  unfold ofLines
  rw [h₀]
  rfl

theorem ofLines_of_otherKind {word : String} (h₀ : fields[0]? = some word) (hne : word ≠ "")
    (hother : ∀ kind : Kind, word ≠ kind.word) :
    ofLines fields = .error (.unknownMessageType word) := by
  unfold ofLines
  rw [h₀, required_of_ne hne, ok_bind, Kind.read_of_ne hother]
  rfl

/-- What is still to be read when the kind has been. -/
theorem ofLines_of_kind (h₀ : fields[0]? = some kind.word) :
    ofLines fields = (do
      let some name := fields[1]? | throw (.missingField .serviceName)
      let some number := fields[2]? | throw (.missingField .port)
      let some port := Text.Decimal.readUInt16? number
        | throw (.invalidNumber .port number)
      let status ← Status.read (← required .status fields[3]?)
      if (fields.drop 4).any (· ≠ "") then throw (.malformed .extraFields)
      pure { kind, name, port, status }) := by
  unfold ofLines
  rw [h₀, required_of_ne kind.word_ne_empty, ok_bind, Kind.read_eq_ok_iff.mpr rfl]
  rfl

theorem ofLines_of_noName (h₀ : fields[0]? = some kind.word) (h₁ : fields[1]? = none) :
    ofLines fields = .error (.missingField .serviceName) := by
  rw [ofLines_of_kind h₀, h₁]
  rfl

theorem ofLines_of_noPort (h₀ : fields[0]? = some kind.word) (h₁ : fields[1]? = some name)
    (h₂ : fields[2]? = none) : ofLines fields = .error (.missingField .port) := by
  rw [ofLines_of_kind h₀, h₁, h₂]
  rfl

theorem ofLines_of_otherPort (h₀ : fields[0]? = some kind.word) (h₁ : fields[1]? = some name)
    (h₂ : fields[2]? = some number) (hnumber : Text.Decimal.readUInt16? number = none) :
    ofLines fields = .error (.invalidNumber .port number) := by
  rw [ofLines_of_kind h₀, h₁, h₂]
  dsimp only
  rw [hnumber]
  rfl

section Port

variable (h₀ : fields[0]? = some kind.word) (h₁ : fields[1]? = some name)
  (h₂ : fields[2]? = some number) (hport : Text.Decimal.readUInt16? number = some port)

include h₀ h₁ h₂ hport

/-- What is still to be read when the port has been. -/
theorem ofLines_of_port :
    ofLines fields = (do
      let status ← Status.read (← required .status fields[3]?)
      if (fields.drop 4).any (· ≠ "") then throw (.malformed .extraFields)
      pure { kind, name, port, status }) := by
  rw [ofLines_of_kind h₀, h₁, h₂]
  dsimp only
  rw [hport]

theorem ofLines_of_noStatus (h₃ : fields[3]? = none ∨ fields[3]? = some "") :
    ofLines fields = .error (.missingField .status) := by
  rw [ofLines_of_port h₀ h₁ h₂ hport]
  obtain h₃ | h₃ := h₃
  · rw [h₃]
    rfl
  · rw [h₃]
    rfl

theorem ofLines_of_otherStatus {word : String} (h₃ : fields[3]? = some word) (hne : word ≠ "")
    (hother : ∀ status : Status, word ≠ status.word) :
    ofLines fields = .error (.unknownStatus word) := by
  rw [ofLines_of_port h₀ h₁ h₂ hport, h₃, required_of_ne hne, ok_bind,
    Status.read_of_ne hother]
  rfl

theorem ofLines_of_moreFields (h₃ : fields[3]? = some status.word)
    (h₄ : ¬∀ field ∈ fields.drop 4, field = "") :
    ofLines fields = .error (.malformed .extraFields) := by
  have hany : (fields.drop 4).any (fun field => decide (field ≠ "")) = true := by
    rw [List.any_eq_true]
    by_contra hnone
    refine h₄ fun field hfield => ?_
    by_contra hne
    exact hnone ⟨field, hfield, decide_eq_true hne⟩
  rw [ofLines_of_port h₀ h₁ h₂ hport, h₃, required_of_ne status.word_ne_empty, ok_bind,
    Status.read_eq_ok_iff.mpr rfl, ok_bind, if_pos hany]
  rfl

end Port

end Lines

/-- What is said of the lines of a text is said of the first condition that they do not
meet. -/
theorem ofLines_of_refuses {c : Condition} {error : ProtocolError}
    (hlines : .encoding ∈ c.earlier) (hfirst : c.IsFirstViolated (utf8 text))
    (hrefuses : Refuses (utf8 text) c error) : ofLines (lines text) = .error error := by
  obtain ⟨hearlier, hnot⟩ := hfirst
  -- what the conditions before this one have found
  have hkind := fun h => holds_kind_iff.mp (hearlier .kind h)
  have hname := fun h => holds_name_iff.mp (hearlier .name h)
  have hport := fun h => holds_port_iff.mp (hearlier .port h)
  have hstatus := fun h => holds_status_iff.mp (hearlier .status h)
  cases hrefuses with
  | tooLong => exact absurd hlines (by decide)
  | noText => exact absurd hlines (by decide)
  | noKind h => exact ofLines_of_noKind (getElem?_pieces_eq_some_iff.mp h)
  | otherKind h hne =>
    exact ofLines_of_otherKind (getElem?_pieces_eq_some_iff.mp h) hne fun kind hword =>
      hnot ⟨kind, hword ▸ h⟩
  | noName =>
    obtain ⟨kind, h₀⟩ := hkind (by decide)
    refine ofLines_of_noName h₀ (Option.eq_none_iff_forall_ne_some.mpr fun name h₁ => ?_)
    exact hnot (holds_name_iff.mpr ⟨name, h₁⟩)
  | noPort h =>
    obtain ⟨kind, h₀⟩ := hkind (by decide)
    obtain ⟨name, h₁⟩ := hname (by decide)
    exact ofLines_of_noPort h₀ h₁ (getElem?_pieces_eq_none_iff.mp h)
  | otherPort h =>
    obtain ⟨kind, h₀⟩ := hkind (by decide)
    obtain ⟨name, h₁⟩ := hname (by decide)
    have h₂ := getElem?_pieces_eq_some_iff.mp h
    refine ofLines_of_otherPort h₀ h₁ h₂
      (Option.eq_none_iff_forall_ne_some.mpr fun port hread => ?_)
    exact hnot (holds_port_iff.mpr ⟨_, port, h₂, hread⟩)
  | noStatus h =>
    obtain ⟨kind, h₀⟩ := hkind (by decide)
    obtain ⟨name, h₁⟩ := hname (by decide)
    obtain ⟨number, port, h₂, hread⟩ := hport (by decide)
    exact ofLines_of_noStatus h₀ h₁ h₂ hread
      (h.imp getElem?_pieces_eq_none_iff.mp getElem?_pieces_eq_some_iff.mp)
  | otherStatus h hne =>
    obtain ⟨kind, h₀⟩ := hkind (by decide)
    obtain ⟨name, h₁⟩ := hname (by decide)
    obtain ⟨number, port, h₂, hread⟩ := hport (by decide)
    exact ofLines_of_otherStatus h₀ h₁ h₂ hread (getElem?_pieces_eq_some_iff.mp h) hne
      fun status hword => hnot ⟨status, hword ▸ h⟩
  | moreFields =>
    obtain ⟨kind, h₀⟩ := hkind (by decide)
    obtain ⟨name, h₁⟩ := hname (by decide)
    obtain ⟨number, port, h₂, hread⟩ := hport (by decide)
    obtain ⟨status, h₃⟩ := hstatus (by decide)
    exact ofLines_of_moreFields h₀ h₁ h₂ hread h₃ fun hempty => hnot (holds_ending_iff.mpr hempty)

/-- **What is said is said of the first condition that is not met.** -/
theorem decode_of_refuses {c : Condition} {error : ProtocolError}
    (hfirst : c.IsFirstViolated datagram) (hrefuses : Refuses datagram c error) :
    decode datagram = .error error := by
  have hlater : .encoding ∈ c.earlier → decode datagram = .error error := by
    intro hlines
    have hsize : .size ∈ c.earlier := by
      revert hlines
      cases c <;> decide
    obtain ⟨text, rfl⟩ := hfirst.1 .encoding hlines
    rw [decode_utf8 (hfirst.1 .size hsize)]
    exact ofLines_of_refuses hlines hfirst hrefuses
  cases c with
  | size =>
    cases hrefuses
    unfold decode
    exact if_pos (Nat.lt_of_not_le hfirst.2)
  | encoding =>
    cases hrefuses
    exact decode_of_no_text (hfirst.1 .size (by decide)) hfirst.2
  | kind | name | port | status | ending => exact hlater (by decide)

/-- **Something is said of every condition** that is the first not to be met. -/
theorem exists_refuses {c : Condition} (hfirst : c.IsFirstViolated datagram) :
    ∃ error, Refuses datagram c error := by
  -- a piece of a text is text
  have hpiece : .encoding ∈ c.earlier → ∀ (i : Nat) piece,
      (pieces datagram)[i]? = some piece → ∃ word, piece = utf8 word := by
    intro htext i piece h
    obtain ⟨text, rfl⟩ := hfirst.1 .encoding htext
    obtain ⟨word, -, rfl⟩ := Option.map_eq_some_iff.mp (getElem?_pieces_utf8 ▸ h)
    exact ⟨word, rfl⟩
  cases c with
  | size => exact ⟨_, .tooLong⟩
  | encoding => exact ⟨_, .noText⟩
  | kind =>
    cases h : (pieces datagram)[0]? with
    | none =>
      rw [List.getElem?_eq_none_iff, Nat.le_zero, List.length_eq_zero_iff, pieces,
        List.map_eq_nil_iff] at h
      exact absurd h (List.splitOn_ne_nil _ _)
    | some piece =>
      obtain ⟨word, rfl⟩ := hpiece (by decide) 0 piece h
      by_cases hempty : word = ""
      · subst hempty
        exact ⟨_, .noKind h⟩
      · exact ⟨_, .otherKind h hempty⟩
  | name => exact ⟨_, .noName⟩
  | port =>
    cases h : (pieces datagram)[2]? with
    | none => exact ⟨_, .noPort h⟩
    | some piece =>
      obtain ⟨number, rfl⟩ := hpiece (by decide) 2 piece h
      exact ⟨_, .otherPort h⟩
  | status =>
    cases h : (pieces datagram)[3]? with
    | none => exact ⟨_, .noStatus (.inl h)⟩
    | some piece =>
      obtain ⟨word, rfl⟩ := hpiece (by decide) 3 piece h
      by_cases hempty : word = ""
      · subst hempty
        exact ⟨_, .noStatus (.inr h)⟩
      · exact ⟨_, .otherStatus h hempty⟩
  | ending => exact ⟨_, .moreFields⟩

/-- If not all of some things have a property, there is a first one that has it not. -/
theorem forall_or_exists_first {α : Type} [DecidableEq α] (P : α → Prop) (items : List α) :
    (∀ a ∈ items, P a) ∨ ∃ a, (∀ b ∈ items.takeWhile (· ≠ a), P b) ∧ ¬P a := by
  induction items with
  | nil => exact .inl nofun
  | cons first items ih =>
    by_cases hfirst : P first
    · refine ih.imp (fun hall => List.forall_mem_cons.mpr ⟨hfirst, hall⟩) ?_
      rintro ⟨a, hearlier, ha⟩
      refine ⟨a, ?_, ha⟩
      have hne : first ≠ a := fun e => ha (e ▸ hfirst)
      rw [List.takeWhile_cons_of_pos (by rwa [decide_eq_true_eq])]
      exact List.forall_mem_cons.mpr ⟨hfirst, hearlier⟩
    · refine .inr ⟨first, ?_, hfirst⟩
      rw [List.takeWhile_cons_of_neg (by simp)]
      exact nofun

/-- **Which datagrams are messages**, whatever bytes they have. A datagram is read as a
message exactly if it spells that message, and so exactly if it meets all conditions. If
it is refused, then for the first condition that it does not meet. -/
theorem decode_accepts_exactly (datagram : Bytes) :
    (∀ m, decode datagram = .ok m ↔ Spells datagram m)
      ∧ ((∃ m, decode datagram = .ok m) ↔ ∀ c : Condition, c.Holds datagram)
      ∧ ∀ error, decode datagram = .error error
        ↔ ∃ c : Condition, c.IsFirstViolated datagram ∧ Refuses datagram c error := by
  have haccepts : (∃ m, decode datagram = .ok m) ↔ ∀ c : Condition, c.Holds datagram := by
    rw [← exists_spells_iff]
    exact exists_congr fun m => decode_eq_ok_iff_spells
  refine ⟨fun m => decode_eq_ok_iff_spells, haccepts, fun error => ⟨fun h => ?_, ?_⟩⟩
  · obtain hall | ⟨c, hearlier, hnot⟩ :=
      forall_or_exists_first (fun c : Condition => c.Holds datagram) Condition.all
    · -- then it would have been read
      obtain ⟨m, hm⟩ := haccepts.mpr fun c => hall c (by cases c <;> decide)
      cases h.symm.trans hm
    · obtain ⟨error', hrefuses⟩ := exists_refuses ⟨hearlier, hnot⟩
      cases h.symm.trans (decode_of_refuses ⟨hearlier, hnot⟩ hrefuses)
      exact ⟨c, ⟨hearlier, hnot⟩, hrefuses⟩
  · rintro ⟨c, hfirst, hrefuses⟩
    exact decode_of_refuses hfirst hrefuses

/-- Carriage returns, a sign, zeros in front and empty lines at the end do no harm. -/
example : decode (utf8 "STOP\r\n\r\n+00000\r\nSUCCESS\r\n\n\r") = .ok (.request .stop "" 0) := by
  decide

end Message

end Moorings.Lease
