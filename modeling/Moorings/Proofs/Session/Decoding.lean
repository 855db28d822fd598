import Moorings.Proofs.Session.Backlog

/-!
# A decoder may be asked at any time

Whoever reads from a stream asks a decoder again and again, whenever something has
arrived and without knowing whether it is enough. A `Decoder` is what is asked: it has a
buffer, from the front of which it may take something, and it may know something besides,
as a client knows what it has asked for. `Decoder.IsPrefixStable` says that one cannot ask
too early or too late. What is given early is what would be given late, nothing is given
before all of its bytes are there, and what gives nothing changes nothing.

Both decoders are of this kind (`decoders_prefixStable`). It comes from three properties
of their scans, which all compose: a scan is stable, it leaves the end of its buffer as it
is, and it takes something. Since it takes something, whoever asks on and on comes to an end
(`Decoder.IsPrefixStable.exists_reads`).
-/

namespace Moorings.Session

namespace Scan

variable {α β : Type}

/-! ## What a scan leaves -/

/-- **A scan that leaves the end of its buffer**, from where it has stopped. -/
def LeavesEnd (scan : Scan α) : Prop :=
  ∀ ⦃buffer : Bytes⦄ ⦃a : α⦄ ⦃rest : Bytes⦄, scan buffer = .done a rest → rest <:+ buffer

theorem LeavesEnd.keeps {scan : Scan α} (h : scan.LeavesEnd) : scan.Keeps :=
  fun _ _ _ hread => (h hread).length_le

theorem leavesEnd_pure (a : α) : (pure a : Scan α).LeavesEnd := by
  intro buffer a' rest hread
  rw [pure_eq] at hread
  cases hread
  exact List.suffix_rfl

theorem leavesEnd_fail (error : ProtocolError) : (fail error : Scan α).LeavesEnd :=
  fun _ _ _ hread => nomatch hread

theorem LeavesEnd.bind {scan : Scan α} {next : α → Scan β} (h : scan.LeavesEnd)
    (hnext : ∀ a, (next a).LeavesEnd) : (scan >>= next).LeavesEnd := by
  intro buffer b rest hread
  rw [bind_eq] at hread
  cases hscan : scan buffer with
  | more => rw [hscan] at hread; cases hread
  | fail error => rw [hscan] at hread; cases hread
  | done a middle =>
    rw [hscan] at hread
    exact (hnext a hread).trans (h hscan)

theorem leavesEnd_line : line.LeavesEnd := by
  intro buffer a rest hread
  unfold line at hread
  split at hread
  · rename_i c rest' hdrop
    dsimp only at hread
    split at hread
    · cases hread
    · cases hread
      have hend : c :: rest <:+ buffer := hdrop ▸ List.dropWhile_suffix (· != lineFeed)
      exact (List.suffix_cons c rest).trans hend
  · split at hread <;> cases hread

theorem leavesEnd_bytes (n : ℕ) : (bytes n).LeavesEnd := by
  intro buffer a rest hread
  unfold bytes at hread
  split at hread
  · cases hread
  · cases hread
    exact List.drop_suffix n buffer

/-- **This composes.** -/
theorem composes_leavesEnd : Composes @LeavesEnd where
  pure := leavesEnd_pure
  bind := LeavesEnd.bind
  line := leavesEnd_line
  bytes := leavesEnd_bytes
  fail := fun _ => leavesEnd_fail _

end Scan

/-- A response takes its first line at least. -/
theorem Response.consumes_scan (expect : Expect) : (scan expect).Consumes := by
  refine Scan.consumes_line.bind fun line => ?_
  split
  · exact (scanAfter_of_composes Scan.composes_leavesEnd expect _).keeps
  · exact Scan.keeps_fail _

/-! ## Decoders -/

/-- **A decoder**: from what it knows and what is in its buffer it gives what it has read,
or nothing yet, or a failure; and with it what it knows then and what is in the buffer. -/
def Decoder (σ α : Type) : Type := σ → Bytes → Except ProtocolError (Option α) × σ × Bytes

/-- The decoder that reads by a scan, and changes what it knows whenever something has been
read. -/
def Decoder.ofScan {σ α : Type} (scan : σ → Scan α) (next : σ → σ) : Decoder σ α :=
  fun state buffer =>
    match scan state buffer with
    | .more => (.ok none, state, buffer)
    | .fail error => (.error error, state, buffer)
    | .done a rest => (.ok (some a), next state, rest)

/-- **The decoder of a server.** It knows nothing but what it reads. -/
def Request.decoder : Decoder Unit Request := .ofScan (fun _ => scan) id

/-- **The decoder of a client.** It knows which requests have no answer yet. -/
def Pipeline.decoder : Decoder Pipeline Response := fun p buffer =>
  match p.receive false buffer with
  | (.more, p) => (.ok none, p, buffer)
  | (.fail error, p) => (.error error, p, buffer)
  | (.done response rest, p) => (.ok (some response), p, rest)

/-- It reads by a scan too, and with each response one request less has no answer. -/
theorem Pipeline.decoder_eq :
    decoder
      = .ofScan (fun p => Response.scan p.expected) fun p => { pending := p.pending.tail } := by
  funext p buffer
  have hscan : p.scan false buffer = Response.scan p.expected buffer := rfl
  unfold decoder receive Decoder.ofScan
  rw [hscan]
  dsimp only
  cases Response.scan p.expected buffer <;> rfl

namespace Decoder

variable {σ α : Type} {decode : Decoder σ α}

/-- **A decoder that may be asked at any time.** -/
structure IsPrefixStable (decode : Decoder σ α) : Prop where
  /-- What has been read stays read when there is more, and this is left. -/
  read : ∀ {state state' : σ} {buffer rest : Bytes} {a : α},
    decode state buffer = (.ok (some a), state', rest) →
      ∀ more, decode state (buffer ++ more) = (.ok (some a), state', rest ++ more)
  /-- What has failed fails when there is more, for the same reason. -/
  failed : ∀ {state : σ} {buffer : Bytes} {error : ProtocolError},
    (decode state buffer).1 = .error error →
      ∀ more, (decode state (buffer ++ more)).1 = .error error
  /-- What is read takes some bytes, at least one, from the front of the buffer; and of
  any fewer of them nothing is read yet. -/
  taken : ∀ {state state' : σ} {buffer rest : Bytes} {a : α},
    decode state buffer = (.ok (some a), state', rest) →
      ∃ used, used ≠ [] ∧ buffer = used ++ rest
        ∧ ∀ n < used.length, (decode state (used.take n)).1 = .ok none
  /-- As long as nothing is read, nothing changes. -/
  unmoved : ∀ {state : σ} {buffer : Bytes}, (∀ a, (decode state buffer).1 ≠ .ok (some a)) →
    (decode state buffer).2 = (state, buffer)

/-- **One thing after another read from a buffer**, with what is known and what is left
after them. -/
inductive Reads (decode : Decoder σ α) : σ → Bytes → List α → σ → Bytes → Prop
  | nil (state : σ) (buffer : Bytes) : Reads decode state buffer [] state buffer
  | cons {state state' state'' : σ} {buffer rest left : Bytes} {a : α} {as : List α}
      (hread : decode state buffer = (.ok (some a), state', rest))
      (hrest : Reads decode state' rest as state'' left) :
      Reads decode state buffer (a :: as) state'' left

theorem IsPrefixStable.length_lt (h : decode.IsPrefixStable) {state state' : σ}
    {buffer rest : Bytes} {a : α} (hread : decode state buffer = (.ok (some a), state', rest)) :
    rest.length < buffer.length := by
  obtain ⟨used, hused, rfl, -⟩ := h.taken hread
  rw [List.length_append]
  exact Nat.lt_add_of_pos_left (List.length_pos_of_ne_nil hused)

/-- **Each thing takes a byte at least**, so no more are read than there are bytes. -/
theorem IsPrefixStable.length_reads (h : decode.IsPrefixStable) {state state' : σ}
    {buffer left : Bytes} {as : List α} (hreads : decode.Reads state buffer as state' left) :
    as.length + left.length ≤ buffer.length := by
  induction hreads with
  | nil => exact Nat.le_of_eq (Nat.zero_add _)
  | cons hread hrest ih =>
    have hlt := h.length_lt hread
    rw [List.length_cons]
    omega

/-- **To ask on and on comes to an end**, at a buffer of which nothing is read any more. -/
theorem IsPrefixStable.exists_reads (h : decode.IsPrefixStable) (state : σ) (buffer : Bytes) :
    ∃ as state' left, decode.Reads state buffer as state' left
      ∧ ∀ a, (decode state' left).1 ≠ .ok (some a) := by
  induction hn : buffer.length using Nat.strongRecOn generalizing state buffer with
  | ind n ih =>
    subst hn
    by_cases hread : ∃ a, (decode state buffer).1 = .ok (some a)
    · obtain ⟨a, ha⟩ := hread
      have hread : decode state buffer = (.ok (some a), (decode state buffer).2) :=
        Prod.ext ha rfl
      obtain ⟨as, state', left, hreads, hend⟩ := ih _ (h.length_lt hread) _ _ rfl
      exact ⟨a :: as, state', left, .cons hread hreads, hend⟩
    · exact ⟨[], state, buffer, .nil state buffer, not_exists.mp hread⟩

/-- **A decoder that comes to an end** at every buffer, whatever it knows: it reads one thing
after another until nothing is read, and never more than there are bytes for. -/
def ComesToEnd (decode : Decoder σ α) : Prop :=
  ∀ state buffer,
    (∃ as state' left, decode.Reads state buffer as state' left
        ∧ ∀ a, (decode state' left).1 ≠ .ok (some a))
      ∧ ∀ as state' left, decode.Reads state buffer as state' left →
        as.length + left.length ≤ buffer.length

theorem IsPrefixStable.comesToEnd (h : decode.IsPrefixStable) : decode.ComesToEnd :=
  fun state buffer => ⟨h.exists_reads state buffer, fun _ _ _ => h.length_reads⟩

/-! ## Decoders that read by a scan -/

section OfScan

variable {scan : σ → Scan α} {next : σ → σ} {state state' : σ} {buffer rest : Bytes} {a : α}

theorem ofScan_eq_read_iff :
    ofScan scan next state buffer = (.ok (some a), state', rest)
      ↔ scan state buffer = .done a rest ∧ next state = state' := by
  unfold ofScan
  cases scan state buffer with
  | more => exact iff_of_false nofun nofun
  | fail error => exact iff_of_false nofun nofun
  | done b left => simp only [Prod.mk.injEq, Except.ok.injEq, Option.some.injEq, Reading.done.injEq,
      and_assoc, and_comm (a := left = rest)]

theorem ofScan_fst_eq_error_iff {error : ProtocolError} :
    (ofScan scan next state buffer).1 = .error error ↔ scan state buffer = .fail error := by
  unfold ofScan
  cases scan state buffer with
  | more => exact iff_of_false nofun nofun
  | fail error' => simp only [Except.error.injEq, Reading.fail.injEq]
  | done b left => exact iff_of_false nofun nofun

theorem ofScan_of_more (h : scan state buffer = .more) :
    ofScan scan next state buffer = (.ok none, state, buffer) := by
  rw [ofScan, h]

/-- **A decoder that reads by a scan may be asked at any time**, if the scan is stable, leaves
the end of the buffer and takes something. -/
theorem isPrefixStable_ofScan (hstable : ∀ state, (scan state).Stable)
    (hend : ∀ state, (scan state).LeavesEnd) (hconsumes : ∀ state, (scan state).Consumes) :
    (ofScan scan next).IsPrefixStable where
  read hread more := by
    obtain ⟨hread, hnext⟩ := ofScan_eq_read_iff.mp hread
    exact ofScan_eq_read_iff.mpr ⟨(hstable _).done hread more, hnext⟩
  failed hfail more :=
    ofScan_fst_eq_error_iff.mpr ((hstable _).fail (ofScan_fst_eq_error_iff.mp hfail) more)
  taken := by
    intro state state' buffer rest a hread
    obtain ⟨hread, -⟩ := ofScan_eq_read_iff.mp hread
    obtain ⟨used, rfl⟩ := hend state hread
    refine ⟨used, ?_, rfl, fun n hn => ?_⟩
    · rintro rfl
      exact Nat.lt_irrefl _ (hconsumes state hread)
    · -- the bytes that are missing are some of those that are taken, and more than is left
      have hwhole : scan state (used.take n ++ (used.drop n ++ rest)) = .done a rest := by
        rw [← List.append_assoc, List.take_append_drop, hread]
      have hmissing : rest.length < (used.drop n ++ rest).length := by
        rw [List.length_append, List.length_drop]
        omega
      rw [ofScan_of_more ((hstable state).more_of_front hwhole hmissing)]
  unmoved := by
    intro state buffer hnone
    unfold ofScan at hnone ⊢
    cases hscan : scan state buffer with
    | more => rfl
    | fail error => rfl
    | done a rest => rw [hscan] at hnone; exact absurd rfl (hnone a)

end OfScan

end Decoder

theorem Request.isPrefixStable_decoder : decoder.IsPrefixStable :=
  Decoder.isPrefixStable_ofScan (fun _ => stable_scan)
    (fun _ => scan_of_composes Scan.composes_leavesEnd) fun _ => consumes_scan

theorem Pipeline.isPrefixStable_decoder : decoder.IsPrefixStable := by
  rw [decoder_eq]
  exact Decoder.isPrefixStable_ofScan (fun p => Response.stable_scan p.expected)
    (fun p => Response.scan_of_composes Scan.composes_leavesEnd p.expected)
    fun p => Response.consumes_scan p.expected

/-- **What a server takes from a buffer** is what its decoder gives until it gives nothing. -/
theorem Request.reads_drain (buffer : Bytes) :
    decoder.Reads () buffer (drain buffer).items () (drain buffer).left
      ∧ (decoder () (drain buffer).left).1
        = match (drain buffer).error with
          | none => .ok none
          | some error => .error error := by
  unfold drain
  induction buffer using consumes_scan.induction with
  | more buffer hscan =>
    have hnone : decoder () buffer = (.ok none, (), buffer) := Decoder.ofScan_of_more hscan
    rw [Scan.drain_of_more hscan]
    exact ⟨.nil () buffer, congrArg Prod.fst hnone⟩
  | fail buffer error hscan =>
    rw [Scan.drain_of_fail hscan]
    exact ⟨.nil () buffer, Decoder.ofScan_fst_eq_error_iff.mpr hscan⟩
  | done buffer request rest hscan ih =>
    rw [Scan.drain_of_done hscan]
    exact ⟨.cons (Decoder.ofScan_eq_read_iff.mpr ⟨hscan, rfl⟩) ih.1, ih.2⟩

/-- **Both decoders may be asked at any time**, whatever the bytes are and whatever the client
has asked for. A request or a response that has been read is the same if there is more in the
buffer, and all that is more is left; what has failed fails for the same reason; and of what
is read, any front is not enough. When nothing is read, be it for want of bytes or because it
has failed, neither the buffer nor what is known has changed. Whatever is read takes a byte at
least, so to ask on and on comes to an end at every buffer. Where it ends for a server is told
by what it takes from its buffer. -/
theorem decoders_prefixStable :
    (Request.decoder.IsPrefixStable ∧ Request.decoder.ComesToEnd)
      ∧ (Pipeline.decoder.IsPrefixStable ∧ Pipeline.decoder.ComesToEnd)
      ∧ ∀ buffer,
        let batch := Request.drain buffer
        Request.decoder.Reads () buffer batch.items () batch.left
          ∧ (Request.decoder () batch.left).1
            = match batch.error with
              | none => .ok none
              | some error => .error error :=
  ⟨⟨Request.isPrefixStable_decoder, Request.isPrefixStable_decoder.comesToEnd⟩,
    ⟨Pipeline.isPrefixStable_decoder, Pipeline.isPrefixStable_decoder.comesToEnd⟩,
    Request.reads_drain⟩

end Moorings.Session
