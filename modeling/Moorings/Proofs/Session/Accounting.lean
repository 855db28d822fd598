import Mathlib.Data.Finset.Dedup
import Mathlib.Data.List.Nodup
import Moorings.Proofs.Session.Records

/-!
# The numbers of a directory and its history

The numbers that a directory gives of itself are counted anew each time, from the entries
that it has. The same numbers can be counted in the history instead: how many sessions were
opened, how many of them were closed, and under how many names something is kept in those
that were not. `Hub.stats_of_history` says that the two counts agree.

That a list of entries can be counted at all is because nothing is in it twice
(`Directory.IsDistinct`). A session that is opened is a new entry, since its id has not been
handed out before; one that is closed is one entry less; and a document that is kept once
more takes the place of the one that is there.

Whatever is refused changes none of these numbers, because it changes nothing at all
(`Hub.Happens.eq_of_refusal`), and whatever only looks at something does not either
(`Hub.Happens.directory_eq_of_query`).
-/

namespace Moorings.Session

/-! ## Counting in the history -/

namespace Event

/-- Whether a session was closed. -/
def isClosing (e : Event) : Bool :=
  match e.request, e.response with
  | .close _, .closed _ => true
  | _, _ => false

/-- Where something was kept, if this is what happened: the session and the name. -/
def place? (e : Event) : Option (UInt64 × String) :=
  match e.request, e.response, e.held with
  | .post name _, .success, some id => some (id, name)
  | _, _, _ => none

/-- Something is kept by a post that succeeds, in the session that is held. -/
theorem place?_eq_some_iff {e : Event} {id : UInt64} {name : String} :
    e.place? = some (id, name) ↔ e.held = some id ∧ e.response = .success
      ∧ ∃ content, e.request = .post name content := by
  obtain ⟨held, request, response⟩ := e
  cases request with
  | post name' content =>
    cases response with
    | success =>
      cases held with
      | some id' =>
        show some (id', name') = some (id, name)
          ↔ some id' = some id ∧ Response.success = .success
            ∧ ∃ other, Request.post name' content = .post name other
        simp only [Option.some.injEq, Prod.mk.injEq, Request.post.injEq, true_and,
          exists_and_left, exists_eq', and_true]
      | none => exact iff_of_false nofun nofun
    | _ => exact iff_of_false nofun nofun
  | _ => exact iff_of_false nofun fun ⟨_, _, _, h⟩ => nomatch h

/-- A place is where something is kept. -/
theorem place?_eq_some_iff_kept? {e : Event} {id : UInt64} {name : String} :
    e.place? = some (id, name) ↔ e.kept? id name ≠ none := by
  obtain ⟨held, request, response⟩ := e
  cases request with
  | post name' content =>
    cases response with
    | success =>
      cases held with
      | some id' =>
        show some (id', name') = some (id, name)
          ↔ (if id' = id ∧ name' = name then some content else none) ≠ none
        rw [Option.some.injEq, Prod.mk.injEq, ne_eq, ite_eq_right_iff]
        simp only [reduceCtorEq, imp_false, not_not]
      | none => exact iff_of_false nofun fun h => h rfl
    | _ => exact iff_of_false nofun fun h => h rfl
  | _ => exact iff_of_false nofun fun h => h rfl

end Event

namespace History

variable {past : List Event} {e : Event} {id : UInt64} {name : String}

/-- How many sessions have been closed. -/
def closings (past : List Event) : ℕ := past.countP (·.isClosing)

/-- **Where something has been kept**, once for each time. -/
def places (past : List Event) : List (UInt64 × String) := past.filterMap (·.place?)

/-- Where something is still kept, which is in the sessions that have not been closed. -/
def placesInUse (past : List Event) : Finset (UInt64 × String) :=
  (places past).toFinset.filter fun place => ¬ WasClosed past place.1

theorem closings_concat (past : List Event) (e : Event) :
    closings (past ++ [e]) = closings past + if e.isClosing then 1 else 0 := by
  unfold closings
  rw [List.countP_append, List.countP_singleton]

/-- A place is where a post has succeeded. -/
theorem mem_places_iff :
    (id, name) ∈ places past ↔ ∃ e ∈ past, e.held = some id ∧ e.response = .success
      ∧ ∃ content, e.request = .post name content := by
  unfold places
  rw [List.mem_filterMap]
  exact exists_congr fun e => and_congr_right fun _ => Event.place?_eq_some_iff

/-- And it is where there is a last content. -/
theorem mem_places_iff_lastKept? : (id, name) ∈ places past ↔ lastKept? past id name ≠ none := by
  unfold places lastKept?
  rw [List.mem_filterMap, ne_eq, List.getLast?_eq_none_iff, List.filterMap_eq_nil_iff, not_forall]
  exact exists_congr fun e => by rw [Event.place?_eq_some_iff_kept?, Classical.not_imp]

end History

/-! ## Entries that can be counted -/

/-- A content that is kept under a name that there is leaves one document of this name. -/
theorem Entry.nodup_put {entry : Entry} (h : (entry.documents.map (·.name)).Nodup)
    (name content : String) : ((entry.put name content).documents.map (·.name)).Nodup := by
  unfold put
  rw [List.map_append, List.map_singleton, ← List.concat_eq_append]
  refine (h.sublist (List.filter_sublist.map _)).concat fun hmem => ?_
  obtain ⟨document, hdocument, hname⟩ := List.mem_map.mp hmem
  exact of_decide_eq_true (List.mem_filter.mp hdocument).2 hname

namespace Directory

variable {d d' : Directory} {id : UInt64} {name content : String}

/-- **A directory that has nothing twice**: no session, and no document in a session. -/
structure IsDistinct (d : Directory) : Prop where
  ids : (d.entries.map (·.id)).Nodup
  names : ∀ entry ∈ d.entries, (entry.documents.map (·.name)).Nodup

/-- Where there are documents, one place for each. -/
def places (d : Directory) : List (UInt64 × String) :=
  d.entries.flatMap fun entry => entry.documents.map fun document => (entry.id, document.name)

/-- An entry is found under its id. -/
theorem IsDistinct.find?_eq_some_iff (h : d.IsDistinct) {entry : Entry} :
    d.find? id = some entry ↔ entry ∈ d.entries ∧ entry.id = id := by
  refine ⟨fun hfound => ⟨List.mem_of_find?_eq_some hfound, id_of_find? hfound⟩, ?_⟩
  rintro ⟨hmem, rfl⟩
  obtain ⟨found, hfound⟩ : ∃ found, d.find? entry.id = some found :=
    Option.isSome_iff_exists.mp (List.find?_isSome.mpr ⟨entry, hmem, decide_eq_true rfl⟩)
  rw [hfound, List.inj_on_of_nodup_map h.ids (List.mem_of_find?_eq_some hfound) hmem
    (id_of_find? hfound)]

/-- **The places of a directory** are those under which something is found. -/
theorem IsDistinct.mem_places_iff (h : d.IsDistinct) :
    (id, name) ∈ d.places ↔ ∃ entry, d.find? id = some entry ∧ entry.get? name ≠ none := by
  unfold places
  simp only [List.mem_flatMap, List.mem_map, Prod.mk.injEq, h.find?_eq_some_iff, Entry.get?, ne_eq,
    Option.map_eq_none_iff, List.find?_eq_none, decide_eq_true_eq, not_forall, not_not, exists_prop]
  constructor
  · rintro ⟨entry, hmem, document, hdocument, rfl, rfl⟩
    exact ⟨entry, ⟨hmem, rfl⟩, document, hdocument, rfl⟩
  · rintro ⟨entry, ⟨hmem, rfl⟩, document, hdocument, rfl⟩
    exact ⟨entry, hmem, document, hdocument, rfl, rfl⟩

/-- No place is in it twice. -/
theorem IsDistinct.nodup_places (h : d.IsDistinct) : d.places.Nodup := by
  refine List.nodup_flatMap.mpr ⟨fun entry hmem => ?_, ?_⟩
  · have hnames := h.names entry hmem
    refine List.Nodup.of_map Prod.snd ?_
    rwa [List.map_map]
  · refine (List.pairwise_map.mp h.ids).imp fun hne place hleft hright => ?_
    obtain ⟨document, -, rfl⟩ := List.mem_map.mp hleft
    obtain ⟨other, -, hother⟩ := List.mem_map.mp hright
    exact hne (congrArg Prod.fst hother).symm

/-- So the documents are counted by their places. -/
theorem stats_documents (d : Directory) : d.stats.documents = d.places.length := by
  unfold stats places
  rw [List.length_flatMap, List.length_flatMap]
  simp only [List.length_map]

/-! ## What the operations do to them -/

theorem entries_openSession (hfresh : d.isOpen d.nextId = false) :
    d.openSession.2.entries = d.entries ++ [{ id := d.nextId, documents := [] }] := by
  have hnone := find?_of_isOpen_eq_false hfresh
  unfold find? at hnone
  rw [List.find?_eq_none] at hnone
  have hall : d.entries.filter (·.id ≠ d.nextId) = d.entries :=
    List.filter_eq_self.mpr fun entry hmem => by simpa using hnone entry hmem
  unfold openSession
  dsimp only
  rw [hall]

/-- A session that is opened is a new one. -/
theorem IsDistinct.openSession (h : d.IsDistinct) (hfresh : d.isOpen d.nextId = false) :
    d.openSession.2.IsDistinct where
  ids := by
    rw [entries_openSession hfresh, List.map_append, List.map_singleton, ← List.concat_eq_append]
    refine h.ids.concat fun hmem => ?_
    obtain ⟨entry, hentry, hid⟩ := List.mem_map.mp hmem
    have hfound := h.find?_eq_some_iff.mpr ⟨hentry, hid⟩
    rw [find?_of_isOpen_eq_false hfresh] at hfound
    cases hfound
  names := by
    rw [entries_openSession hfresh]
    intro entry hmem
    obtain hmem | hmem := List.mem_append.mp hmem
    · exact h.names entry hmem
    · rw [List.mem_singleton.mp hmem]
      exact List.nodup_nil

/-- What is left when a session is closed was there before. -/
theorem IsDistinct.close (h : d.IsDistinct) (hclose : d.close id = .ok d') : d'.IsDistinct := by
  obtain ⟨-, rfl⟩ := close_eq_ok_iff.mp hclose
  exact ⟨h.ids.sublist (List.filter_sublist.map _),
    fun entry hmem => h.names entry (List.mem_of_mem_filter hmem)⟩

/-- **A session that is closed is one entry less.** -/
theorem IsDistinct.length_close (h : d.IsDistinct) (hclose : d.close id = .ok d') :
    d'.entries.length + 1 = d.entries.length := by
  obtain ⟨hopen, rfl⟩ := close_eq_ok_iff.mp hclose
  obtain ⟨entry, hfound⟩ := Option.isSome_iff_exists.mp hopen
  obtain ⟨hmem, hid⟩ := h.find?_eq_some_iff.mp hfound
  have hone : d.entries.countP (·.id = id) = 1 := by
    have hcount := List.count_eq_one_of_mem h.ids (List.mem_map.mpr ⟨entry, hmem, hid⟩)
    rw [List.count, List.countP_map] at hcount
    exact hcount
  have hall := List.length_eq_length_filter_add (l := d.entries) (·.id = id)
  rw [← List.countP_eq_length_filter, hone] at hall
  simp only [ne_eq, decide_not]
  rw [hall, Nat.add_comm]

/-- A document that is kept once more takes the place of the one that is there. -/
theorem IsDistinct.put (h : d.IsDistinct) (hput : d.put id name content = .ok d') :
    d'.IsDistinct := by
  obtain ⟨-, rfl⟩ := put_eq_ok_iff.mp hput
  constructor
  · have hids : (d.entries.map fun e => if e.id = id then e.put name content else e).map (·.id)
        = d.entries.map (·.id) := by
      rw [List.map_map]
      exact List.map_congr_left fun entry _ => entry.id_ite_put id name content
    rw [hids]
    exact h.ids
  · intro entry hmem
    obtain ⟨old, hold, rfl⟩ := List.mem_map.mp hmem
    split
    · exact Entry.nodup_put (h.names old hold) name content
    · exact h.names old hold

theorem length_put (hput : d.put id name content = .ok d') :
    d'.entries.length = d.entries.length := by
  obtain ⟨-, rfl⟩ := put_eq_ok_iff.mp hput
  exact List.length_map _

/-! ## The two counts -/

open History

variable {past : List Event} {e : Event} {held : Option UInt64}

/-- **A directory whose sessions can be counted in its history.** -/
structure Accounts (d : Directory) (past : List Event) : Prop where
  isDistinct : d.IsDistinct
  /-- Whatever has been opened is open or has been closed. -/
  opened : d.entries.length + closings past = openings past

theorem Accounts.openSession (h : d.Accounts past) (hfresh : d.isOpen d.nextId = false) :
    d.openSession.2.Accounts (past ++ [⟨held, .openSession, .accepted id⟩]) where
  isDistinct := h.isDistinct.openSession hfresh
  opened := by
    rw [entries_openSession hfresh, List.length_append, closings_concat, openings_concat,
      ← h.opened]
    exact Nat.add_right_comm _ _ _

theorem Accounts.close (h : d.Accounts past) (hclose : d.close id = .ok d') :
    d'.Accounts (past ++ [⟨held, .close id, .closed id⟩]) where
  isDistinct := h.isDistinct.close hclose
  opened := by
    rw [closings_concat, openings_concat, ← h.opened, ← h.isDistinct.length_close hclose]
    show _ + (closings past + 1) = _ + 1 + closings past
    omega

theorem Accounts.put (h : d.Accounts past) (hput : d.put id name content = .ok d') :
    d'.Accounts (past ++ [⟨held, .post name content, .success⟩]) where
  isDistinct := h.isDistinct.put hput
  opened := by
    rw [closings_concat, openings_concat, length_put hput]
    exact h.opened

/-- Nothing happens to the directory. -/
theorem Accounts.unmoved (h : d.Accounts past) (hopening : e.isOpening = false)
    (hclosing : e.isClosing = false) : d.Accounts (past ++ [e]) where
  isDistinct := h.isDistinct
  opened := by
    rw [closings_concat, openings_concat, hopening, hclosing]
    exact h.opened

end Directory

namespace Hub

open History

variable {h h' : Hub} {past : List Event} {number : ℕ} {request : Request} {response : Response}

/-- **What happens is accounted for.** -/
theorem Records.accounts_of_happens (hr : h.Records past)
    (hh : h.Happens number request response h') (ha : h.directory.Accounts past) :
    h'.directory.Accounts (past ++ [⟨h.held number, request, response⟩]) := by
  cases hh with
  | opened hfree =>
    refine ha.openSession (Bool.eq_false_iff.mpr fun hopen => ?_)
    exact hr.directory.not_wasIssued_nextId ((hr.directory.isOpen_iff _).mp hopen).1
  | resumed hfree hopen => exact ha.unmoved rfl rfl
  | closed hclose => exact ha.close hclose
  | kept hheld hput => exact ha.put hput
  | read hheld hget => exact ha.unmoved rfl rfl
  | rejected hfree hopen => exact ha.unmoved rfl rfl
  | refused request message =>
    refine ha.unmoved ?_ ?_
    · cases request <;> rfl
    · cases request <;> rfl

/-- So it is in every run. -/
theorem accounts_run (ops : List (ℕ × Request))
    (hroom : openings (({} : Hub).events ops) < 2 ^ 64 - 1) :
    (({} : Hub).run ops).2.directory.Accounts (({} : Hub).events ops) :=
  (run_induction (P := fun h past => h.Records past ∧ h.directory.Accounts past)
    (fun hfirst hp => ⟨hp.1.of_happens (happens_handle _ _ _) hfirst,
      hp.1.accounts_of_happens (happens_handle _ _ _) hp.2⟩)
    ⟨records_nil, ⟨List.nodup_nil, List.forall_mem_nil _⟩, rfl⟩ ops hroom).2

/-- **A place is in use** if its session is open and something has been kept there. -/
theorem Records.mem_placesInUse_iff {d : Directory} (hr : d.Records past) {id : UInt64}
    {name : String} :
    (id, name) ∈ placesInUse past ↔ d.isOpen id = true ∧ (id, name) ∈ places past := by
  unfold placesInUse
  rw [Finset.mem_filter, List.mem_toFinset, and_comm, hr.isOpen_iff]
  refine and_congr_left fun hplace => ⟨fun hclosed => ⟨?_, hclosed⟩, And.right⟩
  -- nothing has been kept under an id that was not handed out
  obtain ⟨content, hkept⟩ := Option.ne_none_iff_exists'.mp (mem_places_iff_lastKept?.mp hplace)
  exact hr.wasIssued_of_lastKept? hkept

/-- **The places of a directory are those in use**, as its history tells them. -/
theorem toFinset_places {d : Directory} (hr : d.Records past) (hd : d.IsDistinct) :
    d.places.toFinset = placesInUse past := by
  ext ⟨id, name⟩
  rw [List.mem_toFinset, hd.mem_places_iff, Records.mem_placesInUse_iff hr,
    mem_places_iff_lastKept?]
  constructor
  · rintro ⟨entry, hfound, hkept⟩
    exact ⟨Option.isSome_iff_exists.mpr ⟨entry, hfound⟩, hr.get?_eq hfound name ▸ hkept⟩
  · rintro ⟨hopen, hkept⟩
    obtain ⟨entry, hfound⟩ := Option.isSome_iff_exists.mp hopen
    exact ⟨entry, hfound, (hr.get?_eq hfound name).symm ▸ hkept⟩

/-! ## What changes nothing -/

/-- A request that is refused or rejected changes nothing. -/
theorem Happens.eq_of_refusal (hh : h.Happens number request response h')
    (hrefusal : (∃ message, response = .error message) ∨ ∃ reason, response = .rejected reason) :
    h' = h := by
  cases hh with
  | rejected => rfl
  | refused => rfl
  | _ => obtain ⟨_, ⟨⟩⟩ | ⟨_, ⟨⟩⟩ := hrefusal

/-- A request that only looks at something changes nothing in the directory. -/
theorem Happens.directory_eq_of_query (hh : h.Happens number request response h')
    (hquery : (∃ id, request = .resume id) ∨ ∃ name, request = .get name) :
    h'.directory = h.directory := by
  cases hh with
  | resumed => rfl
  | read => rfl
  | rejected => rfl
  | refused => rfl
  | _ => obtain ⟨_, ⟨⟩⟩ | ⟨_, ⟨⟩⟩ := hquery

/-! ## The numbers of a directory -/

theorem Records.toNat_issued {d : Directory} (hr : d.Records past) :
    d.stats.issued.toNat = openings past := by
  have hle : (1 : UInt64) ≤ d.nextId := by
    rw [UInt64.le_iff_toNat_le, hr.nextId_eq]
    exact Nat.le_add_left _ _
  show (d.nextId - 1).toNat = _
  rw [UInt64.toNat_sub_of_le _ _ hle, hr.nextId_eq]
  rfl

/-- **The numbers that a directory gives of itself are those of its history**, whichever
requests any number of connections have made in whichever order. As many ids have been
handed out as sessions were opened; as many sessions are open as were opened and not closed;
and there are as many documents as names under which something has been kept in a session
that is still open, however often. There is an oldest session exactly if there is any.

Whatever is asked then, if it is refused or rejected, nothing changes, neither in the
directory nor in what any connection holds; and a request that only takes up a session or
reads a document changes nothing in the directory, so that the numbers stay what they are. -/
theorem stats_of_history (ops : List (ℕ × Request))
    (hroom : openings (({} : Hub).events ops) < 2 ^ 64 - 1) :
    let past := ({} : Hub).events ops
    let h := (({} : Hub).run ops).2
    let stats := h.directory.stats
    stats.issued.toNat = openings past
      ∧ closings past ≤ openings past ∧ stats.opened = openings past - closings past
      ∧ stats.documents = (placesInUse past).card
      ∧ (∀ id name, (id, name) ∈ placesInUse past
        ↔ h.directory.isOpen id = true ∧ ∃ e ∈ past, e.held = some id ∧ e.response = .success
          ∧ ∃ content, e.request = .post name content)
      ∧ (stats.oldest.isSome = true ↔ 0 < stats.opened)
      ∧ ∀ number request,
        let answer := (h.handle number request).1.response
        let after := (h.handle number request).2
        ((∃ message, answer = .error message) ∨ (∃ reason, answer = .rejected reason) →
          after = h ∧ after.directory.stats = stats)
        ∧ ((∃ id, request = .resume id) ∨ (∃ name, request = .get name) →
          after.directory = h.directory ∧ after.directory.stats = stats) := by
  intro past h stats
  have hr : h.directory.Records past := (records_run ops hroom).directory
  have ha : h.directory.Accounts past := accounts_run ops hroom
  have hopened : stats.opened + closings past = openings past := ha.opened
  refine ⟨Records.toNat_issued hr, hopened ▸ Nat.le_add_left _ _, Nat.eq_sub_of_add_eq hopened, ?_,
    fun id name => ?_, ?_, fun number request => ⟨fun hrefusal => ?_, fun hquery => ?_⟩⟩
  · rw [← toFinset_places hr ha.isDistinct, List.toFinset_card_of_nodup ha.isDistinct.nodup_places]
    exact h.directory.stats_documents
  · rw [Records.mem_placesInUse_iff hr, mem_places_iff]
  · show (h.directory.entries.head?.map _).isSome = true ↔ 0 < h.directory.entries.length
    rw [Option.isSome_map, List.isSome_head?, List.length_pos_iff]
  · have hsame := (happens_handle h number request).eq_of_refusal hrefusal
    exact ⟨hsame, congrArg (·.directory.stats) hsame⟩
  · have hsame := (happens_handle h number request).directory_eq_of_query hquery
    exact ⟨hsame, congrArg Directory.stats hsame⟩

/-- Two sessions are opened, and in both of them something is kept. A name that is used twice
counts once, and with the session that is closed its two documents are gone. The last request
is refused, since the session that its connection holds is the one that was closed. -/
theorem stats_after_close :
    let ops := [(0, .openSession), (0, .post "a" "x"), (0, .post "a" "y"), (0, .post "b" "z"),
      (1, .openSession), (1, .post "a" "w"), (1, .post "d" "w"), (2, .resume 1),
      (2, .post "c" "v"), (0, .close 2), (1, .post "a" "u")]
    let past := ({} : Hub).events ops
    let stats := (({} : Hub).run ops).2.directory.stats
    openings past < 2 ^ 64 - 1
      ∧ stats.issued.toNat = 2 ∧ stats.opened = 2 - 1 ∧ stats.documents = 3
      ∧ stats.oldest.isSome = true := by
  intro ops past stats
  have hroom : openings past < 2 ^ 64 - 1 := by decide +kernel
  obtain ⟨hissued, -, hopened, hdocuments, -, holdest, -⟩ := stats_of_history ops hroom
  have hopenings : openings past = 2 := by decide +kernel
  have hclosings : closings past = 1 := by decide +kernel
  rw [hopenings, hclosings] at hopened
  exact ⟨hroom, hissued.trans hopenings, hopened, hdocuments.trans (by decide +kernel),
    holdest.mpr (hopened ▸ Nat.one_pos)⟩

end Hub

end Moorings.Session
