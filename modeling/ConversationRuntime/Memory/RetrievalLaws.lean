import ConversationRuntime.Memory.Decoding
import ConversationRuntime.Memory.Selection

/-! # What a retrieval does

A retrieval selects distinct records that exist by then, within its limits. So the
trace that it writes is well formed, and it fails only when it is cancelled or when too
much was asked of it. What it changes are the records that were due and when records
were used.
-/

namespace ConversationRuntime

open Foundation.Fallible MemoryStoreError List
open Meets (of_lift of_ok_bind of_require)

/-! ## Noting what was used -/

/-- Every row is as it was but for when it was used. -/
def Used (before after : MemoryStore) : Prop :=
  ∃ move : MemoryRow → MemoryRow, after = { before with memories := before.memories.map move } ∧
    ∀ row ∈ before.memories, row.Moves (move row) ∧ row.Quiet (move row)

theorem Used.refl (store : MemoryStore) : Used store store := by
  refine ⟨fun row => row, by simp, ?_⟩
  intro row _
  exact ⟨.refl row, .refl row⟩

theorem Used.trans {first middle last : MemoryStore} (h : Used first middle)
    (hnext : Used middle last) : Used first last := by
  obtain ⟨move, rfl, hmove⟩ := h
  obtain ⟨next, rfl, hnextMove⟩ := hnext
  refine ⟨next ∘ move, by simp, ?_⟩
  intro row hrow
  obtain ⟨hmoves, hquiet⟩ := hmove row hrow
  obtain ⟨hagain, hquietAgain⟩ := hnextMove (move row) (mem_map.mpr ⟨row, hrow, rfl⟩)
  exact ⟨hmoves.trans_quiet hagain hquietAgain, hquiet.trans hquietAgain⟩

/-- The record of a ranked memory is in the store, and was so by then. -/
structure Usable (now : UnixTimestampMillis) (store : MemoryStore) (memory : RankedMemory) :
    Prop where
  present : ∃ row ∈ store.memories, row.id = memory.record.id
  created : ∀ row ∈ store.memories, row.id = memory.record.id → row.createdAt ≤ now

variable {memory : RankedMemory}

theorem Usable.used {now : UnixTimestampMillis} {before after : MemoryStore}
    (h : Usable now before memory) (hused : Used before after) : Usable now after memory := by
  obtain ⟨move, rfl, hmove⟩ := hused
  constructor
  · obtain ⟨row, hrow, hid⟩ := h.present
    exact ⟨move row, mem_map.mpr ⟨row, hrow, rfl⟩, (hmove row hrow).1.id.trans hid⟩
  · intro moved hmoved hid
    obtain ⟨row, hrow, rfl⟩ := mem_map.mp hmoved
    rw [(hmove row hrow).1.createdAt]
    exact h.created row hrow ((hmove row hrow).1.id.symm.trans hid)

def traceItem (ordinal : Nat) (memory : RankedMemory) : MemoryTraceItem :=
  ⟨ordinal, memory.record.id, memory.record.draft.kind, memory.reason, memory.bytes⟩

/-- The items of a trace, counted from an ordinal. -/
def traceItems : Nat → List RankedMemory → List MemoryTraceItem
  | _, [] => []
  | ordinal, memory :: rest => traceItem ordinal memory :: traceItems (ordinal + 1) rest

@[simp] theorem length_traceItems (ordinal : Nat) (memories : List RankedMemory) :
    (traceItems ordinal memories).length = memories.length := by
  induction memories generalizing ordinal with
  | nil => rfl
  | cons memory rest ih => simp [traceItems, ih]

theorem traceItems_concat (ordinal : Nat) (memories : List RankedMemory) (memory : RankedMemory) :
    traceItems ordinal (memories ++ [memory]) =
      traceItems ordinal memories ++ [traceItem (ordinal + memories.length) memory] := by
  induction memories generalizing ordinal with
  | nil => rfl
  | cons first rest ih =>
    simp only [cons_append, traceItems, ih, length_cons]
    rw [show ordinal + 1 + rest.length = ordinal + (rest.length + 1) by omega]

/-- What does not look at the ordinals. -/
theorem map_traceItems {β : Type} {ofItem : MemoryTraceItem → β} {ofMemory : RankedMemory → β}
    (h : ∀ ordinal memory, ofItem (traceItem ordinal memory) = ofMemory memory) (ordinal : Nat)
    (memories : List RankedMemory) :
    (traceItems ordinal memories).map ofItem = memories.map ofMemory := by
  induction memories generalizing ordinal with
  | nil => rfl
  | cons memory rest ih => simp [traceItems, h, ih]

/-- The next memory is not among the items before it. -/
theorem fresh_traceItems {seen rest : List RankedMemory}
    (hids : ((seen ++ memory :: rest).map (·.record.id)).Nodup) :
    ∀ item ∈ traceItems 0 seen, item.memoryId ≠ memory.record.id := by
  intro item hitem hsame
  rw [map_append, nodup_append] at hids
  apply hids.2.2 item.memoryId ?_ memory.record.id mem_cons_self hsame
  have hseen : (traceItems 0 seen).map (·.memoryId) = seen.map (·.record.id) :=
    map_traceItems (fun _ _ => rfl) 0 seen
  rw [← hseen]
  exact mem_map.mpr ⟨item, hitem, rfl⟩

theorem RankedMemory.bytes_bounds (memory : RankedMemory) :
    1 ≤ memory.bytes ∧ memory.bytes ≤ maxMemoryContentBytes :=
  ⟨memory.record.draft.content.size_pos, memory.record.draft.content.bounded⟩

section Noting

variable {cancelled : CancellationPoint → Bool} {now : UnixTimestampMillis} {store : MemoryStore}

variable (cancelled) in
/-- One item is noted, unless the retrieval was cancelled. -/
theorem noteUse_cases {gathered : Gathered} {memory : RankedMemory}
    (hallowed : ∀ row ∈ store.memories, row.allowed = true) (husable : Usable now store memory)
    (hordinal : gathered.traceItems.length < maxMemoryRetrievalItems)
    (hfresh : ∀ item ∈ gathered.traceItems, item.memoryId ≠ memory.record.id) :
    noteUse cancelled now gathered memory store = (.error cancelledError, store) ∨
      Yields (noteUse cancelled now gathered memory) store fun next reached => next.traceItems =
        gathered.traceItems ++ [traceItem gathered.traceItems.length memory] ∧
        Used store reached := by
  by_cases hcancelled : cancelled (.item gathered.traceItems.length) = false
  · right
    have hitem : (1 ≤ memory.bytes ∧ memory.bytes ≤ maxMemoryContentBytes) ∧
        gathered.traceItems.all (·.memoryId != memory.record.id) = true ∧
        store.memories.any (·.id == memory.record.id) = true := by
      refine ⟨memory.bytes_bounds, ?_, ?_⟩
      · simpa [all_eq_true] using hfresh
      · simpa [any_eq_true] using husable.present
    have hupdate : ∀ row ∈ store.memories, (row.id == memory.record.id) = true →
        (row.use now memory.reason).allowed = true := by
      intro row hrow hid
      have hbefore := MemoryRow.allowed_iff.mp (hallowed row hrow)
      have hcreated := husable.created row hrow (beq_iff_eq.mp hid)
      exact MemoryRow.allowed_iff.mpr { hbefore with used := decide_eq_true hcreated }
    have hcontext : MemoryContextItem.new memory.record.id memory.record.draft.kind
        memory.record.draft.content.text memory.reason = .ok ⟨memory.record.id,
          memory.record.draft.kind, memory.record.draft.content, memory.reason⟩ := by
      simp [MemoryContextItem.new, validateContent, bind, Except.bind]
    have htrace : MemoryTraceItem.new (traceItem gathered.traceItems.length memory) =
        .ok (traceItem gathered.traceItems.length memory) := by
      have hbelow : ¬ maxMemoryRetrievalItems ≤
          (traceItem gathered.traceItems.length memory).ordinal :=
        Nat.not_le.mpr hordinal
      rw [MemoryTraceItem.new, if_neg hbelow, if_neg]
      exact not_not.mpr memory.bytes_bounds
    apply Yields.of_require_bind hcancelled
    apply Yields.of_ok_bind (show insertItem gathered.traceItems memory store = (.ok (), store) from
      (read_bind _ store).trans (require_of_true hitem store))
    apply Yields.of_ok_bind (updateMemories_ok hupdate)
    apply Yields.of_lift_bind (congrArg orInvalid hcontext)
    apply Yields.of_lift_bind (congrArg orInvalid htrace)
    apply Yields.of_pure
    refine ⟨rfl, _, rfl, ?_⟩
    intro row hrow
    by_cases hid : (row.id == memory.record.id) = true
    · simp only [hid, if_true]
      exact ⟨(MemoryRow.use_quiet now memory.reason row).moves rfl rfl rfl (fun _ => hupdate row
        hrow hid) fun hsubject => hsubject, MemoryRow.use_quiet now memory.reason row⟩
    · simp only [hid]
      exact ⟨.refl row, .refl row⟩
  · left
    exact bind_of_error (require_of_false hcancelled store)

variable (cancelled store) in
/-- The loop notes every item, unless the retrieval was cancelled. -/
theorem noteUses_cases (taken rest : List RankedMemory) (gathered : Gathered)
    (hgathered : gathered.traceItems = traceItems 0 taken)
    (hids : ((taken ++ rest).map (·.record.id)).Nodup)
    (hlength : (taken ++ rest).length ≤ maxMemoryRetrievalItems)
    (hallowed : ∀ row ∈ store.memories, row.allowed = true)
    (husable : ∀ memory ∈ rest, Usable now store memory) :
    (noteUses cancelled now rest gathered store).1 = .error cancelledError ∨
      Yields (noteUses cancelled now rest gathered) store fun next reached =>
        next.traceItems = traceItems 0 (taken ++ rest) ∧ Used store reached := by
  induction rest generalizing taken gathered store with
  | nil =>
    right
    refine ⟨gathered, store, rfl, ?_, .refl store⟩
    rw [append_nil, hgathered]
  | cons memory rest ih =>
    have hordinal : gathered.traceItems.length < maxMemoryRetrievalItems := by
      rw [hgathered, length_traceItems]
      rw [length_append, length_cons] at hlength
      omega
    rcases noteUse_cases cancelled hallowed
        (husable memory mem_cons_self) hordinal (hgathered ▸ fresh_traceItems hids) with
      hcancelled | ⟨next, reached, hrun, hnext, hused⟩
    · left
      rw [noteUses, bind_of_error hcancelled]
    · have htaken : next.traceItems = traceItems 0 (taken ++ [memory]) := by
        rw [hnext, traceItems_concat, hgathered, length_traceItems, Nat.zero_add]
      have hconcat : taken ++ memory :: rest = (taken ++ [memory]) ++ rest := by simp
      rw [hconcat] at hids hlength ⊢
      have hallowedNext : ∀ row ∈ reached.memories, row.allowed = true := by
        obtain ⟨move, rfl, hmove⟩ := hused
        intro moved hmoved
        obtain ⟨row, hrow, rfl⟩ := mem_map.mp hmoved
        exact (hmove row hrow).1.allowed (hallowed row hrow)
      rw [noteUses]
      rcases ih reached (taken ++ [memory]) next htaken hids hlength hallowedNext
        (fun other hother =>
          (husable other (mem_cons_of_mem memory hother)).used hused) with
        hcancelled | ⟨last, final, hlast, hitems, hfinal⟩
      · left
        rwa [bind_of_ok hrun]
      · exact .inr (.of_ok_bind hrun ⟨last, final, hlast, hitems, hused.trans hfinal⟩)

end Noting

/-! ## The trace -/

theorem checkOrder_ok (seen rest : List RankedMemory)
    (hids : ((seen ++ rest).map (·.record.id)).Nodup) :
    MemoryRetrievalTrace.checkOrder (traceItems 0 seen) (traceItems seen.length rest) = .ok () := by
  induction rest generalizing seen with
  | nil => rfl
  | cons memory rest ih =>
    have hconcat : seen ++ memory :: rest = (seen ++ [memory]) ++ rest := by simp
    have hfresh : ((traceItems 0 seen).any fun item =>
        item.memoryId == (traceItem seen.length memory).memoryId) = false := by
      rw [List.any_eq_false]
      exact fun item hitem hsame => fresh_traceItems hids item hitem (beq_iff_eq.mp hsame)
    have hordinal : ¬ (traceItem seen.length memory).ordinal ≠ (traceItems 0 seen).length := by
      rw [length_traceItems]
      exact not_not.mpr rfl
    rw [traceItems, MemoryRetrievalTrace.checkOrder, if_neg hordinal, hfresh]
    have hnext := ih (seen ++ [memory]) (hconcat ▸ hids)
    rwa [traceItems_concat, length_append, length_singleton, Nat.zero_add] at hnext

theorem MemoryRetrievalTrace.new_ok (trace : MemoryRetrievalTrace) {selected : List RankedMemory}
    (hitems : trace.items = traceItems 0 selected)
    (hids : (selected.map (·.record.id)).Nodup)
    (hlength : selected.length ≤ maxMemoryRetrievalItems)
    (hbytes : bytesOf selected ≤ maxMemoryRetrievalBytes) : trace.new = .ok trace := by
  have hcount : ¬ maxMemoryRetrievalItems < trace.items.length := by
    rw [hitems, length_traceItems]
    exact Nat.not_lt.mpr hlength
  have horder : checkOrder [] trace.items = .ok () := by
    rw [hitems]
    exact checkOrder_ok [] selected hids
  have hsize : ¬ maxMemoryRetrievalBytes < (trace.items.map (·.contentBytes)).sum := by
    rw [hitems, map_traceItems fun _ _ => rfl]
    exact Nat.not_lt.mpr hbytes
  rw [new, if_neg hcount, horder]
  exact if_neg hsize

/-! ## The transaction -/

section Retrieving

variable {hash : ContentHash} {versions : List MemoryVersion} {store : MemoryStore}
  {cancelled : CancellationPoint → Bool}

theorem ids_recordQuery_sublist (store : MemoryStore) :
    (store.recordQuery.map (·.memory.id)).Sublist (store.memories.map (·.id)) := by
  unfold MemoryStore.recordQuery
  induction store.memories with
  | nil => exact .slnil
  | cons row rest ih =>
    cases hjoined : store.recordRow row with
    | none =>
      rw [filterMap_cons_none hjoined]
      exact ih.cons _
    | some joined =>
      obtain ⟨source, -, hsame⟩ := Option.map_eq_some_iff.mp hjoined
      rw [filterMap_cons_some hjoined, ← hsame]
      exact ih.cons_cons _

/-- The records of a scan are distinct, and each is one of the store. -/
structure Scanned (store : MemoryStore) (records : List MemoryRecord) : Prop where
  ids : (records.map (·.id)).Nodup
  rows : ∀ record ∈ records, ∃ row ∈ store.memories, row.id = record.id ∧
    row.createdAt = record.draft.createdAt

theorem scanned_of_decoded {rows : List RecordRow} {records : List MemoryRecord}
    (hall : Forall₂ (fun joined record =>
      joined.memory ∈ store.memories ∧ Decoded hash store joined.memory record) rows records)
    (hids : (rows.map (·.memory.id)).Nodup) : Scanned store records := by
  have hsame : records.map (·.id) = rows.map (·.memory.id) := by
    clear hids
    induction hall with
    | nil => rfl
    | cons hdecoded _ ih => rw [map_cons, map_cons, ih, hdecoded.2.id]
  refine ⟨by rwa [hsame], ?_⟩
  clear hids hsame
  induction hall with
  | nil =>
    intro record hrecord
    cases hrecord
  | cons hdecoded _ ih =>
    exact forall_mem_cons.mpr ⟨⟨_, hdecoded.1, hdecoded.2.id.symm, hdecoded.2.agrees.createdAt⟩, ih⟩

theorem scanRecords_meets (h : Sound hash versions store) (subject : Option PersonId) :
    Meets (scanRecords hash subject) store fun result reached => reached = store ∧
      match result with
      | .ok records => Scanned store records
      | .error error => error.blamesStore = false := by
  let rows := (store.recordQuery.filter fun row => subject.all (· == row.memory.subject)).take
    (maxMemoryScanRecords + 1)
  have hsublist : rows.Sublist store.recordQuery := (take_sublist _ _).trans filter_sublist
  obtain ⟨records, hrecords, hall⟩ :=
    exists_mapM_ok rows fun joined hjoined => h.exists_rowToRecord (hsublist.subset hjoined)
  apply of_lift
  · intro _ _
    apply Meets.of_read
    apply of_lift
    · intro found hfound
      rw [show mapM (rowToRecord hash) rows = .ok records from hrecords] at hfound
      cases hfound
      apply of_require
      · intro _
        exact ⟨rfl, scanned_of_decoded hall
          (((hsublist.map _).trans (ids_recordQuery_sublist store)).nodup h.ids)⟩
      · intro _
        exact ⟨rfl, rfl⟩
    · intro error hfound
      rw [show mapM (rowToRecord hash) rows = .ok records from hrecords] at hfound
      cases hfound
  · intro error herror
    exact ⟨rfl, checkIdentifier_blames herror⟩

/-- A selection is written down, unless the retrieval is cancelled or its turn has no
number that can be stored. -/
theorem recordSelection_meets {request : MemoryRetrievalRequest} {selection : RankedSelection}
    (hallowed : ∀ row ∈ store.memories, row.allowed = true)
    (hlength : selection.selected.length ≤ request.maximumItems)
    (hbytes : bytesOf selection.selected ≤ request.maximumBytes)
    (hids : (selection.selected.map (·.record.id)).Nodup)
    (husable : ∀ memory ∈ selection.selected, Usable request.now store memory) :
    Meets (recordSelection cancelled request selection) store fun result reached =>
      match result with
      | .ok _ => Used { store with lastTraceId := store.lastTraceId + 1 } reached
      | .error error => error.blamesStore = false := by
  cases hturn : sqliteInteger request.turnId with
  | error error =>
    have hinsert : insertTrace request selection store = (.error error, store) := by
      rw [insertTrace, hturn]
      rfl
    apply Meets.of_error_bind hinsert
    cases sqliteInteger_eq_error hturn
    rfl
  | ok turn =>
    have hinsert : insertTrace request selection store = (.ok (store.lastTraceId + 1),
        { store with lastTraceId := store.lastTraceId + 1 }) := by
      rw [insertTrace, hturn]
      exact bind_of_ok (require_of_true ⟨hlength, hbytes⟩ store)
    apply of_ok_bind hinsert
    have hitems : selection.selected.length ≤ maxMemoryRetrievalItems :=
      hlength.trans request.itemsBounded.2
    rcases noteUses_cases cancelled { store with lastTraceId := store.lastTraceId + 1 } []
        selection.selected ⟨[], []⟩ rfl hids hitems hallowed
        (fun memory hmemory => ⟨(husable memory hmemory).present, (husable memory hmemory).created⟩)
      with hcancelled | ⟨next, reached, hrun, hnext, hused⟩
    · cases hrun : noteUses cancelled request.now selection.selected ⟨[], []⟩
          { store with lastTraceId := store.lastTraceId + 1 } with
      | mk result reached =>
        rw [hrun] at hcancelled
        cases hcancelled
        exact .of_error_bind hrun rfl
    · apply of_ok_bind hrun
      apply of_require
      · intro _
        have htrace := MemoryRetrievalTrace.new_ok
          ⟨store.lastTraceId + 1, request.turnId, request.now, next.traceItems,
            selection.exclusions⟩
          hnext hids hitems (hbytes.trans request.bytesBounded.2)
        apply of_lift
        · intro _ _
          exact hused
        · intro error herror
          rw [htrace] at herror
          cases herror
      · intro _
        rfl

/-- Rows that expire and are then noted as used make one move. -/
theorem expired_used_storeMove (hpeople : ∀ person ∈ store.people, 0 < person.id)
    {now : UnixTimestampMillis} {count : Nat} {middle final : MemoryStore}
    (hexpired : expireDueIn now store = (.ok count, middle))
    (hused : Used { middle with lastTraceId := middle.lastTraceId + 1 } final) :
    StoreMove hash store final := by
  obtain ⟨-, rfl, hallowed⟩ := updateMemories_returned hexpired
  obtain ⟨next, rfl, hnext⟩ := hused
  have hmoved : ∀ row ∈ store.memories, let expired := if row.isDue now then row.expire now else row
      row.Moves expired ∧ row.Demotes expired ∧ expired.Moves (next expired) ∧
        expired.Quiet (next expired) := by
    intro row hrow
    obtain ⟨hmoves, hdemotes⟩ := moved_of_condition fun hdue =>
      ⟨MemoryRow.expire_moves fun _ => hallowed row hrow hdue, MemoryRow.expire_demotes now row⟩
    exact ⟨hmoves, hdemotes, hnext _ (mem_map.mpr ⟨row, hrow, rfl⟩)⟩
  have hrows : StoreMove hash store _ := .rows store.people store.lastPersonId
    (store.lastTraceId + 1) (fun row => next (if row.isDue now then row.expire now else row)) []
      hpeople ?_ ?_ (by simp)
  · rw [append_nil] at hrows
    rw [map_map]
    exact hrows
  · intro row hrow
    obtain ⟨hmoves, -, hagain, hquiet⟩ := hmoved row hrow
    exact hmoves.trans_quiet hagain hquiet
  · intro row hrow
    obtain ⟨hmoves, hdemotes, -, hquiet⟩ := hmoved row hrow
    exact hdemotes.trans hquiet.demotes hmoves.kind

variable (cancelled) in
/-- A retrieval expires what is due and notes what it uses, or it fails over what was
asked for and changes nothing. -/
theorem retrieve_cases (h : Sound hash versions store)
    (hseen : ∀ row ∈ store.memories, row.version ∈ versions)
    (relevance : String → String → Relevance) (request : MemoryRetrievalRequest) :
    Meets (retrieve cancelled hash relevance request) store fun result reached =>
      match result with
      | .ok _ => StoreMove hash store reached
      | .error error => reached = store ∧ error.blamesStore = false := by
  obtain ⟨count, middle, hexpired⟩ := expireDueIn_ok h request.now
  have hsound : Sound hash versions middle :=
    h.storeMove hseen (expired_storeMove h.people hexpired)
  apply of_require
  · intro _
    apply Meets.of_atomically
    apply of_ok_bind hexpired
    apply of_require
    · intro _
      apply (scanRecords_meets hsound request.subject).of_bind
      · rintro records reached ⟨rfl, hscanned⟩
        apply of_require
        · intro _
          apply of_require
          · intro _
            obtain ⟨hlength, hbytes, hids, hrecords⟩ := selectRecords_selected relevance
              request.query.text request.now hscanned.ids request.maximumItems request.maximumBytes
            apply (recordSelection_meets (fun row hrow => (hsound.rows row hrow).allowed) hlength
              hbytes hids ?_).mono
            · intro result final hfinal
              cases result with
              | error error => exact ⟨rfl, hfinal⟩
              | ok value => exact expired_used_storeMove h.people hexpired hfinal
            · intro memory hmemory
              obtain ⟨hrecord, heligible⟩ := hrecords memory hmemory
              obtain ⟨row, hrow, hid, hsame⟩ := hscanned.rows memory.record hrecord
              refine ⟨⟨row, hrow, hid⟩, ?_⟩
              intro other hother hotherId
              rw [inj_on_of_nodup_map hsound.ids hother hrow (hotherId.trans hid.symm), hsame]
              exact heligible.1
          · intro _
            exact ⟨rfl, rfl⟩
        · intro _
          exact ⟨rfl, rfl⟩
      · rintro error reached ⟨rfl, hblames⟩
        exact ⟨rfl, hblames⟩
    · intro _
      exact ⟨rfl, rfl⟩
  · intro _
    exact ⟨rfl, rfl⟩

end Retrieving

end ConversationRuntime
