import Moorings.Lease.Service
import Moorings.Proofs.Lease.Datagrams

/-!
# What the service says in reply

There are few things that can be said in reply to a message, and which of them may be
said depends on what the message asks for (`Service.Gives`). A reply repeats the name of
the message, so it is legible to whoever has sent it if that name can travel.

The service does not ask for this. It takes whatever name it has been able to read, and
such a name may be one that no client may have: it may end in a carriage return, if the
line that held it ended in two, and it may be so long that the reply, whose other fields
take more room than those of the request, is longer than a datagram may be.
`Service.reply_read_back_iff` says that nothing else can go wrong, and by how much a
reply can be too long.
-/

namespace Moorings.Lease

open Text (utf8)

namespace Service

/-! ## What may be said -/

/-- **What may be said in reply to a message.** -/
inductive Gives (m : Message) : Message → Prop
  /-- It asks for nothing that can be done. -/
  | undefined (h : m.kind = .response ∨ m.kind = .requestPort ∧ m.name = "") :
    Gives m .undefinedError
  /-- The service stops. -/
  | stopping (h : m.kind = .stop) : Gives m (.response "" 0 .success)
  /-- A port has been given to the service of this name. -/
  | granted (h : m.kind = .requestPort) (hname : m.name ≠ "") (port : UInt16) :
    Gives m (.response m.name port .success)
  /-- There is none to be given. -/
  | allBusy (h : m.kind = .requestPort) (hname : m.name ≠ "") :
    Gives m (.response m.name 0 .allPortsBusy)
  /-- What came of a renewal or a release. -/
  | held (h : m.kind = .keepAlive ∨ m.kind = .closePort) (outcome : Outcome) :
    Gives m (.response m.name m.port (statusOf outcome))
  /-- The port that the service of this name has. -/
  | found (h : m.kind = .lookupPort) (port : UInt16) : Gives m (.response m.name port .success)
  /-- It has none. -/
  | missing (h : m.kind = .lookupPort) : Gives m (.response m.name 0 .serviceNotFound)

/-- **Nothing else is said.** -/
theorem gives_handle (pool : Pool) (now : Instant) (m : Message) :
    Gives m (handle pool now m).1 := by
  unfold handle
  cases hkind : m.kind with
  | requestPort =>
    dsimp only
    split
    · rename_i hname
      exact .undefined (.inr ⟨hkind, hname⟩)
    · rename_i hname
      split
      · exact .granted hkind hname _
      · exact .allBusy hkind hname
  | keepAlive => exact .held (.inl hkind) _
  | closePort => exact .held (.inr hkind) _
  | lookupPort =>
    dsimp only
    split
    · exact .found hkind _
    · exact .missing hkind
  | stop => exact .stopping hkind
  | response => exact .undefined (.inl hkind)

/-- A reply has the name of its message, or none. -/
theorem Gives.name_eq {m reply : Message} (h : Gives m reply) :
    reply.name = "" ∨ reply.name = m.name := by
  cases h with
  | undefined => exact .inl rfl
  | stopping => exact .inl rfl
  | granted => exact .inr rfl
  | allBusy => exact .inr rfl
  | held => exact .inr rfl
  | found => exact .inr rfl
  | missing => exact .inr rfl

/-- How long a reply is. -/
theorem length_encode_response (name : String) (port : UInt16) (status : Status) :
    (Message.response name port status).encode.length
      = name.utf8ByteSize + port.toNat.repr.utf8ByteSize + status.word.utf8ByteSize + 12 := by
  rw [Message.length_encode]
  show 8 + name.utf8ByteSize + port.toNat.repr.utf8ByteSize + status.word.utf8ByteSize + 4 = _
  omega

/-- **A reply is not much longer than its message**: the word for its status may be ten
bytes longer, and the word for its kind is shorter. -/
theorem Gives.length_encode_le {m reply : Message} (h : Gives m reply) :
    reply.encode.length ≤ m.encode.length + 8 := by
  have hport : 1 ≤ m.port.toNat.repr.utf8ByteSize := Text.utf8ByteSize_repr_pos _
  have hstatus : 7 ≤ m.status.word.utf8ByteSize := by cases m.status <;> decide
  have hkind : 4 ≤ m.kind.word.utf8ByteSize := by cases m.kind <;> decide
  have hzero : (0 : UInt16).toNat.repr.utf8ByteSize = 1 := rfl
  have hdigits : ∀ port : UInt16, port.toNat.repr.utf8ByteSize ≤ 5 := fun port =>
    (Text.utf8ByteSize_repr_le_iff (by decide)).mpr (Nat.lt_trans port.toNat_lt (by decide))
  rw [Message.length_encode m]
  cases h with
  | undefined h =>
    have hword : 8 ≤ m.kind.word.utf8ByteSize := by
      obtain h | ⟨h, -⟩ := h <;> rw [h] <;> decide
    have hreply : Message.undefinedError.encode.length = 28 := rfl
    omega
  | stopping h =>
    have hreply : (Message.response "" 0 .success).encode.length = 20 := rfl
    omega
  | granted h hname port =>
    have hword : m.kind.word.utf8ByteSize = 12 := by rw [h]; rfl
    have hreply : Status.success.word.utf8ByteSize = 7 := rfl
    have hport' := hdigits port
    rw [length_encode_response]
    omega
  | allBusy h hname =>
    have hword : m.kind.word.utf8ByteSize = 12 := by rw [h]; rfl
    have hreply : Status.allPortsBusy.word.utf8ByteSize = 14 := rfl
    rw [length_encode_response]
    omega
  | held h outcome =>
    have hword : m.kind.word.utf8ByteSize = 10 := by obtain h | h := h <;> rw [h] <;> rfl
    have hreply : (statusOf outcome).word.utf8ByteSize ≤ 17 := by cases outcome <;> decide
    rw [length_encode_response]
    omega
  | found h port =>
    have hword : m.kind.word.utf8ByteSize = 11 := by rw [h]; rfl
    have hreply : Status.success.word.utf8ByteSize = 7 := rfl
    have hport' := hdigits port
    rw [length_encode_response]
    omega
  | missing h =>
    have hword : m.kind.word.utf8ByteSize = 11 := by rw [h]; rfl
    have hreply : Status.serviceNotFound.word.utf8ByteSize = 17 := rfl
    rw [length_encode_response]
    omega

/-! ## What is read of it -/

/-- A datagram that is not too long is received as a whole. -/
theorem received_of_length_le {datagram : Bytes} (h : datagram.length ≤ maxDatagram) :
    received datagram = datagram :=
  List.take_of_length_le (Nat.le_trans h (Nat.le_succ _))

/-- **The reply to a datagram** is one to the message that it carries, or is as if it
carried a request that makes no sense. -/
theorem answer_cases (pool : Pool) (now : Instant) {datagram : Bytes}
    (h : datagram.length ≤ maxDatagram) :
    (answer pool now datagram).1 = .undefinedError
      ∨ ∃ m, Message.decode datagram = .ok m ∧ Gives m (answer pool now datagram).1 := by
  unfold answer
  rw [received_of_length_le h]
  cases hdecode : Message.decode datagram with
  | error error => exact .inl rfl
  | ok m => exact .inr ⟨m, rfl, gives_handle pool now m⟩

/-- **What the requester reads of a reply**, in whatever state the service is and
whatever datagram it answers. It is the reply exactly if that fits in a datagram and its
name, which is the name in the datagram, does not end in a carriage return. If it fits,
then it is the reply but for that carriage return. It may be too long by nine bytes, and
not by more. Whoever asks under a name that a client may have reads the reply. -/
theorem reply_read_back_iff (pool : Pool) (now : Instant) {datagram : Bytes}
    (h : datagram.length ≤ maxDatagram) :
    let reply := (answer pool now datagram).1
    (Message.decode reply.encode = .ok reply
        ↔ reply.encode.length ≤ maxDatagram ∧ reply.name.toList.getLast? ≠ some '\r')
      ∧ (reply.encode.length ≤ maxDatagram → Message.decode reply.encode = .ok reply.asRead)
      ∧ reply.encode.length ≤ maxDatagram + 9
      ∧ (reply.name = "" ∨ ∃ m, Message.decode datagram = .ok m ∧ reply.name = m.name)
      ∧ (checkServiceName reply.name = .ok () →
        reply.encode.length ≤ maxDatagram ∧ Message.decode reply.encode = .ok reply) := by
  intro reply
  have hread : '\n' ∉ reply.name.toList ∧ reply.encode.length ≤ maxDatagram + 9
      ∧ (reply.name = "" ∨ ∃ m, Message.decode datagram = .ok m ∧ reply.name = m.name) := by
    obtain hreply | ⟨m, hdecode, hgives⟩ := answer_cases pool now h
    · have hreply : reply = .undefinedError := hreply
      rw [hreply]
      exact ⟨by decide, by decide, .inl rfl⟩
    · have hline := Message.newline_notMem_of_decode hdecode
      have hlength := Message.length_encode_le_of_decode hdecode
      have hlonger : reply.encode.length ≤ m.encode.length + 8 := hgives.length_encode_le
      refine ⟨?_, by omega, ?_⟩
      · obtain hname | hname := hgives.name_eq
        · rw [hname]
          decide
        · rwa [hname]
      · exact hgives.name_eq.imp_right fun hname => ⟨m, hdecode, hname⟩
  obtain ⟨hline, hlength, hname⟩ := hread
  refine ⟨Message.decode_encode_eq_ok_iff hline, fun hfits => ?_, hlength, hname, fun hcheck =>
    ⟨Message.length_encode_le hcheck, Message.decode_encode hcheck⟩⟩
  rw [Message.decode_encode_eq hline, if_neg (Nat.not_lt.mpr hfits)]

/-- A renewal that nobody would have written so: its lines end in carriage returns, its
port has a sign and a zero in front, and its last line does not end. -/
theorem reply_read_back_of_returns :
    let datagram := utf8 "KEEP_ALIVE\r\nprinter\r\n+040000\r\nSUCCESS"
    let pool : Pool :=
      { first := 40000, last := 40000, timeout := .ofSeconds 300
        slots := [{ port := 40000, holder := some { name := "printer", renewed := 0 } }]
        lowestFree := 1, stopped := false }
    let reply := (answer pool 5 datagram).1
    datagram.length ≤ maxDatagram ∧ reply = .response "printer" 40000 .success
      ∧ Message.decode reply.encode = .ok reply := by
  intro datagram pool reply
  have hlength : datagram.length ≤ maxDatagram := by decide
  have hreply : reply = .response "printer" 40000 .success := by decide
  have hcheck : checkServiceName reply.name = .ok () := by rw [hreply]; rfl
  obtain ⟨-, -, -, -, hread⟩ := reply_read_back_iff pool 5 hlength
  exact ⟨hlength, hreply, (hread hcheck).2⟩

/-- A name of `n` letters. -/
def longName (n : Nat) : String := String.ofList (List.replicate n 'a')

theorem eq_of_mem_longName {n : Nat} {c : Char} (h : c ∈ (longName n).toList) : c = 'a' := by
  rw [longName, String.toList_ofList] at h
  exact List.eq_of_mem_replicate h

theorem utf8ByteSize_longName (n : Nat) : (longName n).utf8ByteSize = n := by
  have hletter : ('a' : Char).utf8Size = 1 := rfl
  rw [longName, Text.utf8ByteSize_ofList_replicate, hletter, Nat.mul_one]

/-- **A name that just fits in a renewal** does not fit in its refusal. -/
theorem answer_keepAlive_of_long {pool : Pool} (hpool : 0 < pool.first) (now : Instant)
    {name : String} (hline : '\n' ∉ name.toList) (hreturn : name.toList.getLast? ≠ some '\r')
    (hsize : name.utf8ByteSize = 1002) :
    let datagram := (Message.request .keepAlive name 0).encode
    let reply := (answer pool now datagram).1
    datagram.length ≤ maxDatagram
      ∧ reply = .response name 0 .serviceNotFound
      ∧ reply.encode.length = 1032
      ∧ Message.decode reply.encode = .error (.tooLarge 1032 maxDatagram) := by
  intro datagram reply
  have hfits : datagram.length ≤ maxDatagram := by
    have hzero : (0 : UInt16).toNat.repr.utf8ByteSize = 1 := rfl
    rw [Message.length_encode]
    show 10 + name.utf8ByteSize + (0 : UInt16).toNat.repr.utf8ByteSize + 7 + 4 ≤ 1024
    rw [hsize, hzero]
  have hdecode : Message.decode datagram = .ok (.request .keepAlive name 0) :=
    (Message.decode_encode_eq_ok_iff hline).mpr ⟨hfits, hreturn⟩
  have hheld : pool.heldAt? 0 name = none := if_pos (.inl hpool)
  have hreply : reply = .response name 0 .serviceNotFound := by
    show (answer pool now datagram).1 = _
    unfold answer
    rw [received_of_length_le hfits, hdecode]
    show Message.response name 0 (statusOf (pool.renew 0 name now).1) = _
    rw [Pool.renew, hheld]
    rfl
  have hlength : (Message.response name 0 .serviceNotFound).encode.length = 1032 := by
    rw [length_encode_response, hsize]
    rfl
  rw [hreply]
  refine ⟨hfits, rfl, hlength, ?_⟩
  unfold Message.decode
  rw [hlength]
  rfl

/-- Two datagrams that are no longer than a datagram may be and whose replies do not say
what was meant: a name that ends in a carriage return loses it, and a name that leaves
no room for the word `SERVICE_NOT_FOUND` makes the reply too long. -/
theorem reply_not_read_back :
    ∃ pool, Pool.new 40000 40000 (.ofSeconds 300) = .ok pool
      ∧ (let datagram := utf8 "KEEP_ALIVE\na\r\r\n40000\nSUCCESS\n"
        let reply := (answer pool 0 datagram).1
        datagram.length ≤ maxDatagram
          ∧ Message.decode datagram = .ok (.request .keepAlive "a\r" 40000)
          ∧ reply = .response "a\r" 40000 .serviceNotFound
          ∧ Message.decode reply.encode = .ok (.response "a" 40000 .serviceNotFound)
          ∧ Message.decode reply.encode ≠ .ok reply)
      ∧ (let datagram := (Message.request .keepAlive (longName 1002) 0).encode
        let reply := (answer pool 0 datagram).1
        datagram.length ≤ maxDatagram
          ∧ reply = .response (longName 1002) 0 .serviceNotFound
          ∧ reply.encode.length = 1032
          ∧ Message.decode reply.encode = .error (.tooLarge 1032 maxDatagram)) := by
  refine ⟨_, rfl, ⟨by decide, by decide, by decide, by decide, by decide⟩, ?_⟩
  refine answer_keepAlive_of_long (by decide) 0 (fun hmem => ?_) (fun hlast => ?_)
    (utf8ByteSize_longName 1002)
  · exact absurd (eq_of_mem_longName hmem) (by decide)
  · exact absurd (eq_of_mem_longName (List.mem_of_getLast? hlast)) (by decide)

end Service

end Moorings.Lease
