import Moorings.Proofs.Session.Sending

/-!
# What is read is within the limits

A scan fails at a line that is too long and at a content that is, so whatever a
server reads of a stream, written by whom it may be, has names and contents that
are within the limits (`Request.yields_scan`). `Scan.Yields` says of a scan that
all it can read has a property. Like the other properties of scans it passes from
the parts to the whole.
-/

namespace Moorings.Session

open Text (utf8 ofUtf8?)

namespace Scan

variable {α β : Type} {Q : α → Prop} {R : β → Prop}

/-- **A scan that reads nothing but what has the property.** -/
def Yields (scan : Scan α) (Q : α → Prop) : Prop :=
  ∀ ⦃buffer : Bytes⦄ ⦃a : α⦄ ⦃rest : Bytes⦄, scan buffer = .done a rest → Q a

theorem yields_pure {a : α} (h : Q a) : (pure a : Scan α).Yields Q := by
  intro buffer b rest e
  cases e
  exact h

theorem yields_fail (error : ProtocolError) : (fail error : Scan α).Yields Q := by
  intro buffer a rest e
  cases e

/-- What is read first may be used for what is read next. -/
theorem Yields.bind {scan : Scan α} {next : α → Scan β} (h : scan.Yields Q)
    (hnext : ∀ a, Q a → (next a).Yields R) : (scan >>= next).Yields R := by
  intro buffer b rest e
  cases hs : scan buffer with
  | more => rw [bind_eq, hs] at e; cases e
  | fail error => rw [bind_of_fail hs] at e; cases e
  | done a middle =>
    rw [bind_of_done hs] at e
    exact hnext a (h hs) e

/-- **A line that is read** has no line feed and is no longer than a line may
be. -/
theorem yields_line : line.Yields fun text => lineFeed ∉ text ∧ text.length ≤ maxLine := by
  intro buffer text rest e
  by_cases hmem : lineFeed ∈ buffer
  · obtain ⟨front, rest', rfl, hfront⟩ := List.eq_append_cons_of_mem hmem
    rw [line_of_finished hfront] at e
    split at e
    · cases e
    · rename_i hlong
      cases e
      refine ⟨fun hmem => hfront ?_, Nat.not_lt.mp hlong⟩
      unfold withoutReturn at hmem
      split at hmem
      · exact List.dropLast_subset _ hmem
      · exact hmem
  · rw [line_of_unfinished hmem] at e
    split at e <;> cases e

theorem yields_bytes (n : Nat) : (bytes n).Yields fun content => content.length = n := by
  intro buffer content rest e
  unfold bytes at e
  split at e
  · cases e
  · rename_i hn
    cases e
    exact List.length_take_of_le (Nat.not_lt.mp hn)

end Scan

/-! ## Requests -/

/-- A name that fits on a line. -/
structure IsName (name : String) : Prop where
  newline_notMem : '\n' ∉ name.toList
  fits : name.utf8ByteSize ≤ maxLine

/-- The text of a line is a name. -/
theorem isName_of_ofUtf8? {line : Bytes} {name : String}
    (h : lineFeed ∉ line ∧ line.length ≤ maxLine) (hname : ofUtf8? line = some name) :
    IsName name := by
  obtain rfl := Text.eq_utf8_of_ofUtf8? hname
  exact ⟨fun hmem => h.1 ((Text.mem_utf8_iff (c := '\n') (by decide) name).mpr hmem), h.2⟩

namespace Request

/-- **A request that keeps to the limits.** -/
def IsWithinLimits : Request → Prop
  | get name => IsName name
  | post name content => IsName name ∧ content.utf8ByteSize ≤ maxContent
  | _ => True

theorem yields_scanId {verb : Verb} {request : UInt64 → Request}
    (h : ∀ id, (request id).IsWithinLimits) : (scanId verb request).Yields IsWithinLimits := by
  refine Scan.yields_line.bind fun line _ => ?_
  split
  · exact Scan.yields_pure (h _)
  · exact Scan.yields_pure trivial

theorem yields_scanGet : scanGet.Yields IsWithinLimits := by
  refine Scan.yields_line.bind fun line hline => ?_
  split
  · rename_i name hname
    exact Scan.yields_pure (isName_of_ofUtf8? hline hname)
  · exact Scan.yields_pure trivial

theorem yields_scanPost : scanPost.Yields IsWithinLimits := by
  refine Scan.yields_line.bind fun nameLine hline => Scan.yields_line.bind fun lengthLine _ => ?_
  split
  · exact Scan.yields_pure trivial
  · rename_i length _
    split
    · exact Scan.yields_fail _
    · rename_i hlength
      refine (Scan.yields_bytes length).bind fun bytes hbytes => ?_
      split
      · rename_i name content hname hcontent
        obtain rfl := Text.eq_utf8_of_ofUtf8? hcontent
        refine Scan.yields_pure ⟨isName_of_ofUtf8? hline hname, ?_⟩
        rw [← Text.length_utf8, hbytes]
        exact checkContent_eq_ok_iff.mp hlength
      · exact Scan.yields_pure trivial

/-- **Every request that is read keeps to the limits**, whatever the bytes are. -/
theorem yields_scan : scan.Yields IsWithinLimits := by
  refine Scan.yields_line.bind fun line _ => ?_
  split
  · rename_i verb _
    cases verb with
    | openSession => exact Scan.yields_pure trivial
    | resume => exact yields_scanId fun _ => trivial
    | close => exact yields_scanId fun _ => trivial
    | get => exact yields_scanGet
    | post => exact yields_scanPost
  · exact Scan.yields_pure trivial

end Request

end Moorings.Session
