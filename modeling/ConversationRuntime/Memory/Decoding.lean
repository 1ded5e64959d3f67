import ConversationRuntime.Memory.Sound

/-! # Every row is read back

In a sound store every row decodes, so a listing, a page, an inspection and an
inspection with its history never stumble over what is stored.
-/

namespace ConversationRuntime

open Foundation.Fallible MemoryStoreError MemoryApprovalEvidence MemoryDraft Yields List

/-! ## Lists of results -/

/-- A list of which every item decodes, decodes. -/
theorem exists_mapM_ok {ε α β : Type} {decode : α → Except ε β} {related : α → β → Prop}
    (items : List α) (h : ∀ item ∈ items, ∃ value, decode item = .ok value ∧ related item value) :
    ∃ values, items.mapM decode = .ok values ∧ Forall₂ related items values := by
  induction items with
  | nil => exact ⟨[], rfl, .nil⟩
  | cons item rest ih =>
    obtain ⟨value, hvalue, hrelated⟩ := h item mem_cons_self
    obtain ⟨values, hvalues, hall⟩ := ih fun other hother => h other (mem_cons_of_mem item hother)
    refine ⟨value :: values, ?_, .cons hrelated hall⟩
    rw [mapM_cons, hvalue, hvalues]
    rfl

/-! ## One row -/

/-- What a row is decoded to. -/
structure Decoded (hash : ContentHash) (store : MemoryStore) (row : MemoryRow)
    (record : MemoryRecord) : Prop where
  id : record.id = row.id
  revision : record.revision = row.revision
  agrees : Agrees record row
  lastUsedAt : record.lastUsedAt = row.lastUsedAt
  provenance : ∃ source, (store.sourcesOf row.id).getLast? = some source ∧
    rowToProvenance source = .ok record.draft.provenance
  approval : ∀ evidence ∈ record.approval, ∃ approval,
    (store.approvalsOf row.id).getLast? = some approval ∧ rowToApproval approval = .ok evidence

section Rows

variable {hash : ContentHash} {versions : List MemoryVersion} {store : MemoryStore}

theorem MemoryApprovalEvidence.fromStored_eq_ok {confirmationId actor digest : String}
    {confirmedAt : UnixTimestampMillis} {revision : Nat} {evidence : MemoryApprovalEvidence}
    (h : fromStored confirmationId actor confirmedAt revision digest = .ok evidence) :
    evidence.confirmedAt = confirmedAt ∧ evidence.approvedRevision = revision ∧
      evidence.contentDigest.text = digest := by
  obtain ⟨approval, happroval, hrest⟩ := bind_eq_ok h
  obtain ⟨checked, hdigest, hrest⟩ := bind_eq_ok hrest
  obtain ⟨_, -, happroval⟩ := bind_eq_ok happroval
  obtain ⟨_, -, happroval⟩ := bind_eq_ok happroval
  split at happroval
  next => cases happroval
  next =>
    cases happroval
    split at hrest
    next =>
      cases hrest
      exact ⟨rfl, rfl, boundedText_eq_ok hdigest⟩
    next => cases hrest

/-- The approval that counts for a sound row fits it, and is there when it is needed. -/
theorem currentApproval_valid {row : MemoryRow} {approval : Option MemoryApprovalEvidence}
    (hrow : RowSound hash versions store row)
    (hoptional : optionalApproval (store.approvalsOf row.id).getLast? = .ok approval)
    (hstored : ∀ evidence ∈ approval, ∃ stored, (store.approvalsOf row.id).getLast? = some stored ∧
      rowToApproval stored = .ok evidence) :
    (∀ evidence ∈ currentApproval hash row approval, evidence ∈ approval ∧
        MemoryRecord.misplaced hash row.content row.updatedAt row.revision evidence = false) ∧
      (row.kind.requiresApproval = true → row.state = .active →
        (currentApproval hash row approval).isSome = true) := by
  constructor
  · intro evidence hevidence
    unfold currentApproval at hevidence
    split at hevidence
    next => cases hevidence
    next =>
      obtain ⟨hheld, hmatches⟩ := Option.filter_eq_some_iff.mp hevidence
      obtain ⟨stored, hlast, hdecoded⟩ := hstored evidence hheld
      obtain ⟨hconfirmed, hrevision, -⟩ := fromStored_eq_ok hdecoded
      obtain ⟨hbefore, hbelow⟩ := hrow.placed stored hlast
      refine ⟨hheld, ?_⟩
      simp only [MemoryRecord.misplaced, hmatches, hconfirmed, hrevision, Bool.not_true,
        Bool.false_or, Bool.or_eq_false_iff, decide_eq_false_iff_not, Nat.not_lt, Nat.not_le]
      exact ⟨hbefore, hbelow⟩
  · intro happroval hactive
    obtain ⟨stored, hlast, hdigest, -⟩ := hrow.approved hactive happroval
    rw [hlast] at hoptional
    obtain ⟨evidence, hdecoded, hsome⟩ := bind_eq_ok hoptional
    cases hsome
    obtain ⟨-, -, htext⟩ := fromStored_eq_ok hdecoded
    have hmatches : evidence.matchesContent hash row.content = true := by
      rw [matchesContent, htext, hdigest, beq_self_eq_true]
    rw [currentApproval, if_neg (by rw [hactive]; decide), Option.filter_some, if_pos hmatches]
    rfl

variable (h : Sound hash versions store)
include h

theorem optionalApproval_ok (id : MemoryId) :
    ∃ approval, optionalApproval (store.approvalsOf id).getLast? = .ok approval ∧
      ∀ evidence ∈ approval, ∃ row, (store.approvalsOf id).getLast? = some row ∧
        rowToApproval row = .ok evidence := by
  cases hlast : (store.approvalsOf id).getLast? with
  | none => exact ⟨none, rfl, by simp⟩
  | some row =>
    have hmember : row ∈ store.approvals := (mem_filter.mp (mem_of_getLast? hlast)).1
    obtain ⟨evidence, hevidence⟩ := h.approvals row hmember
    refine ⟨some evidence, ?_, ?_⟩
    · rw [optionalApproval, hevidence]
      rfl
    · intro found hfound
      cases hfound
      exact ⟨row, rfl, hevidence⟩

/-- A sound row decodes to what it holds. -/
theorem Sound.exists_decoded {row : MemoryRow} (hrow : row ∈ store.memories) :
    ∃ joined record, store.recordRow row = some joined ∧ joined.memory = row ∧
      rowToRecord hash joined = .ok record ∧ Decoded hash store row record := by
  have hsound := h.rows row hrow
  have hconstrained := MemoryRow.allowed_iff.mp hsound.allowed
  obtain ⟨retention, hretention, hvalid⟩ := hsound.kept.retention
  obtain ⟨source, hsource⟩ := Option.ne_none_iff_exists'.mp
    (mt getLast?_eq_none_iff.mp hsound.sourced)
  obtain ⟨provenance, hprovenance⟩ := h.sources source (mem_filter.mp (mem_of_getLast? hsource)).1
  obtain ⟨approval, hoptional, hstored⟩ := optionalApproval_ok h row.id
  obtain ⟨hplaced, happroved⟩ := currentApproval_valid hsound hoptional hstored
  let content : MemoryContent := ⟨row.content, hsound.notBlank, hconstrained.sizeBounded⟩
  let confidence : MemoryConfidence := ⟨row.confidence, hconstrained.confidence⟩
  let draft : MemoryDraft :=
    ⟨row.kind, content, provenance, confidence, row.createdAt, retention, row.subject, hvalid⟩
  let record : MemoryRecord :=
    ⟨row.id, draft, row.state, row.updatedAt, row.pinned, row.revision,
      currentApproval hash row approval, row.lastUsedAt, row.lastRetrievalReason⟩
  have hrecord : record.Valid hash := by
    refine ⟨hconstrained.revision, hconstrained.updated, ?_, ?_, ?_, happroved⟩
    · intro time htime
      have hused := hconstrained.used
      have hlast : row.lastUsedAt = some time := htime
      rw [hlast] at hused
      simpa using hused
    · intro hpinned hworking
      have hpinned : row.pinned = true := hpinned
      have hworking : row.kind = .working := hworking
      have hunpinned := hconstrained.workingUnpinned
      rw [hpinned, hworking] at hunpinned
      cases hunpinned
    · intro evidence hevidence
      exact (hplaced evidence hevidence).2
  refine ⟨⟨row, source, (store.approvalsOf row.id).getLast?⟩, record, ?_, rfl, ?_, ?_⟩
  · rw [MemoryStore.recordRow, hsource]
    rfl
  · have hdraft : new row.kind row.content provenance confidence row.createdAt retention =
        .ok ⟨row.kind, content, provenance, confidence, row.createdAt, retention, ownerId,
          hvalid⟩ := by
      change new row.kind content.text _ _ _ _ = _
      simp only [new, validateContent, boundedText_text, bind, Except.bind]
      split
      next error herror => rw [hvalid] at herror; cases herror
      next => rfl
    have hconfidence : MemoryConfidence.new row.confidence = .ok confidence := confidence.new_value
    simp only [rowToRecord, hretention, parseRetention_ofRetention, hprovenance, hoptional,
      hconfidence, hdraft, checkedId_of_pos hsound.subject, checkedId_of_pos (h.positive row hrow),
      conversion_ok, bind, Except.bind]
    exact congrArg conversion hrecord.new
  · refine ⟨rfl, rfl, ⟨rfl, rfl, rfl, rfl, rfl, hretention, rfl⟩, rfl,
      ⟨source, hsource, hprovenance⟩, ?_⟩
    intro evidence hevidence
    exact hstored evidence (hplaced evidence hevidence).1

theorem Sound.exists_rowToRecord {joined : RecordRow} (hjoined : joined ∈ store.recordQuery) :
    ∃ record, rowToRecord hash joined = .ok record ∧
      (joined.memory ∈ store.memories ∧ Decoded hash store joined.memory record) := by
  obtain ⟨row, hrow, hquery⟩ := mem_filterMap.mp hjoined
  obtain ⟨found, record, hfound, rfl, hrecord, hdecoded⟩ := h.exists_decoded hrow
  rw [hquery] at hfound
  cases hfound
  exact ⟨record, hrecord, hrow, hdecoded⟩

end Rows

/-! ## Reading the store -/

/-- The error says that what is stored is wrong, rather than what was asked for. -/
def MemoryStoreError.blamesStore (error : MemoryStoreError) : Bool :=
  error.kind == .invalidDatabase || error.kind == .storage

section Queries

variable {hash : ContentHash} {versions : List MemoryVersion} {store : MemoryStore}
  {error : MemoryStoreError}

theorem checkIdentifier_blames {id : Option Nat} (h : checkIdentifier id = .error error) :
    error.blamesStore = false := by
  cases id with
  | none => cases h
  | some id =>
    cases hrange : sqliteInteger id with
    | ok stored =>
      rw [checkIdentifier, hrange] at h
      cases h
    | error found =>
      rw [checkIdentifier, hrange] at h
      cases h
      cases sqliteInteger_eq_error hrange
      rfl

/-- A history ends with its latest row, however much of it is left out. -/
theorem boundedHistory_ok {ρ α : Type} {mapper : ρ → Except RuntimeError α} (rows : List ρ)
    {historyLimit : Nat} (hlimit : 1 ≤ historyLimit)
    (h : ∀ row ∈ rows, ∃ value, mapper row = .ok value) :
    ∃ values truncated, boundedHistory historyLimit rows mapper = .ok (values, truncated) ∧
      ∀ row value, rows.getLast? = some row → mapper row = .ok value →
        values.getLast? = some value := by
  have hmapped : ∀ row ∈ rows.reverse.take (historyLimit + 1), ∃ value,
      conversion (mapper row) = .ok value ∧ mapper row = .ok value := by
    intro row hrow
    obtain ⟨value, hvalue⟩ := h row (mem_reverse.mp (mem_of_mem_take hrow))
    exact ⟨value, by rw [hvalue, conversion_ok], hvalue⟩
  obtain ⟨values, hvalues, hall⟩ := exists_mapM_ok _ hmapped
  have hlatest : ∀ row value, rows.getLast? = some row → mapper row = .ok value →
      values.head? = some value := by
    intro row value hlast hvalue
    obtain ⟨rest, hrest⟩ : ∃ rest, rows.reverse = row :: rest := by
      rw [← head?_reverse] at hlast
      exact head?_eq_some_iff.mp hlast
    rw [hrest] at hall
    cases hall with
    | cons hfirst _ =>
      rw [hvalue] at hfirst
      cases hfirst
      rfl
  by_cases hmore : historyLimit < values.length
  · refine ⟨values.dropLast.reverse, true, ?_, ?_⟩
    · simp only [boundedHistory, hvalues, bind, Except.bind, hmore, if_true]
    · intro row value hlast hvalue
      rw [getLast?_reverse, head?_dropLast, if_pos (by omega)]
      exact hlatest row value hlast hvalue
  · refine ⟨values.reverse, false, ?_, ?_⟩
    · simp only [boundedHistory, hvalues, bind, Except.bind, hmore, if_false]
    · intro row value hlast hvalue
      rw [getLast?_reverse]
      exact hlatest row value hlast hvalue

theorem MemoryInspection.new_ok {record : MemoryRecord} {sources : List MemoryProvenance}
    {approvals : List MemoryApprovalEvidence}
    (hsource : sources.getLast? = some record.draft.provenance)
    (happroval : ∀ evidence ∈ record.approval, approvals.getLast? = some evidence) :
    MemoryInspection.new record sources approvals = .ok ⟨record, sources, approvals⟩ := by
  have hsome : sources.isEmpty = false := by
    rw [isEmpty_eq_false_iff]
    intro hempty
    rw [hempty] at hsource
    cases hsource
  have hlast : (record.approval.any fun approval =>
      decide (approvals.getLast? ≠ some approval)) = false := by
    apply any_eq_false
    intro evidence hevidence
    simp [happroval evidence hevidence]
  rw [MemoryInspection.new, hsome, if_neg Bool.false_ne_true, if_neg (not_not.mpr hsource), hlast,
    if_neg Bool.false_ne_true]

variable (h : Sound hash versions store)
include h

theorem queryRecords_ok : ∃ records, queryRecords hash store = (.ok records, store) := by
  obtain ⟨records, hrecords, -⟩ :=
    exists_mapM_ok _ fun joined hjoined => h.exists_rowToRecord hjoined
  refine ⟨records, ?_⟩
  rw [queryRecords, read_bind, hrecords]
  rfl

/-- A page fails only over what was asked for. -/
theorem queryPage_blames {beforeId : Option MemoryId} {limit : Nat}
    (hfailed : (queryPage hash beforeId limit store).1 = .error error) :
    error.blamesStore = false := by
  have hmeets : Meets (queryPage hash beforeId limit) store fun result _ =>
      ∀ error, result = .error error → error.blamesStore = false := by
    apply Meets.of_require
    · intro _
      apply Meets.of_lift
      · intro _ _
        apply Meets.of_read
        obtain ⟨records, hrecords, -⟩ := exists_mapM_ok
          ((store.recordQuery.reverse.filter fun row =>
            beforeId.all fun id => row.memory.id < id).take (limit + 1)) fun _ hjoined =>
          h.exists_rowToRecord (mem_reverse.mp (mem_filter.mp (mem_of_mem_take hjoined)).1)
        apply Meets.of_lift
        · intro found _
          by_cases hmore : limit < found.length
          · simp only [hmore, if_true]
            intro error herror
            cases herror
          · simp only [hmore, if_false]
            intro error herror
            cases herror
        · intro error herror
          rw [hrecords] at herror
          cases herror
      · intro error herror found hfound
        cases hfound
        exact checkIdentifier_blames herror
    · intro _ error herror
      cases herror
      rfl
  exact hmeets error hfailed

/-- A record is read, or it is not there. -/
theorem queryRecord_cases (id : MemoryId) :
    (queryRecord hash id store = (.error rangeError, store) ∧ ¬ id < 2 ^ 63) ∨
      (queryRecord hash id store = (.error notFoundError, store) ∧
        ∀ row ∈ store.memories, row.id ≠ id) ∨
      ∃ row ∈ store.memories, row.id = id ∧ ∃ record,
        queryRecord hash id store = (.ok record, store) ∧ Decoded hash store row record := by
  by_cases hrange : id < 2 ^ 63
  · right
    have hstart : queryRecord hash id store =
        (lift (orError notFoundError (store.recordQuery.find? (·.memory.id == id))) >>=
          fun row => lift (rowToRecord hash row)) store := by
      rw [queryRecord, sqliteInteger_of_lt hrange]
      rfl
    cases hfind : store.recordQuery.find? (·.memory.id == id) with
    | none =>
      left
      refine ⟨by rw [hstart, hfind]; rfl, ?_⟩
      intro row hrow hid
      obtain ⟨joined, record, hjoined, rfl, -, -⟩ := h.exists_decoded hrow
      have hmember : joined ∈ store.recordQuery := mem_filterMap.mpr ⟨_, hrow, hjoined⟩
      have hother := find?_eq_none.mp hfind joined hmember
      simp [hid] at hother
    | some joined =>
      right
      obtain ⟨record, hrecord, hrow, hdecoded⟩ := h.exists_rowToRecord (mem_of_find?_eq_some hfind)
      have hid : joined.memory.id = id := by simpa using find?_some hfind
      refine ⟨joined.memory, hrow, hid, record, ?_, hdecoded⟩
      rw [hstart, hfind, ← hrecord]
      rfl
  · left
    refine ⟨?_, hrange⟩
    rw [queryRecord, sqliteInteger, if_neg hrange]
    rfl

/-- An inspection with its history fails only over what was asked for. -/
theorem queryBounded_blames {id : MemoryId} {historyLimit : Nat}
    (hfailed : (queryBounded hash id historyLimit store).1 = .error error) :
    error.blamesStore = false := by
  by_cases hlimit : 1 ≤ historyLimit ∧ historyLimit ≤ maxMemoryInspectionHistoryItems
  · rcases queryRecord_cases h id with
      ⟨hrange, -⟩ | ⟨hmissing, -⟩ | ⟨row, hrow, rfl, record, hread, hdecoded⟩
    · rw [queryBounded, bind_of_ok (require_of_true hlimit store), bind_of_error hrange] at hfailed
      cases hfailed
      rfl
    · rw [queryBounded, bind_of_ok (require_of_true hlimit store), bind_of_error hmissing]
        at hfailed
      cases hfailed
      rfl
    · obtain ⟨source, hsource, hprovenance⟩ := hdecoded.provenance
      obtain ⟨sources, sourcesTruncated, hsources, hlastSource⟩ :=
        boundedHistory_ok (store.sourcesOf row.id) hlimit.1
          fun source hmember => h.sources source (mem_filter.mp hmember).1
      obtain ⟨approvals, approvalsTruncated, happrovals, hlastApproval⟩ :=
        boundedHistory_ok (store.approvalsOf row.id) hlimit.1
          fun approval hmember => h.approvals approval (mem_filter.mp hmember).1
      have happroved : ∀ evidence ∈ record.approval, approvals.getLast? = some evidence := by
        intro evidence hevidence
        obtain ⟨approval, hlast, happroval⟩ := hdecoded.approval evidence hevidence
        exact hlastApproval approval evidence hlast happroval
      have hinspection :=
        MemoryInspection.new_ok (hlastSource source _ hsource hprovenance) happroved
      obtain ⟨value, reached, hrun, -⟩ :
          Yields (queryBounded hash row.id historyLimit) store fun _ _ => True := by
        apply of_require_bind hlimit
        apply of_ok_bind hread
        apply of_read_bind
        apply of_lift_bind hsources
        apply of_lift_bind happrovals
        apply of_lift_bind (congrArg orInvalid hinspection)
        exact .of_pure trivial
      rw [hrun] at hfailed
      cases hfailed
  · rw [queryBounded, bind_of_error (require_of_false hlimit store)] at hfailed
    cases hfailed
    rfl

/-- What was read of a sound store is what its rows hold. -/
theorem Sound.wasRead {id : MemoryId} {record : MemoryRecord}
    (hread : (queryRecord hash id store).1 = .ok record) :
    WasRead id record store ∧ id < 2 ^ 63 := by
  rcases queryRecord_cases h id with
    ⟨hrange, -⟩ | ⟨hmissing, -⟩ | ⟨row, hrow, rfl, found, hfound, hdecoded⟩
  · rw [hrange] at hread
    cases hread
  · rw [hmissing] at hread
    cases hread
  · refine ⟨⟨h.bounded row hrow, ?_⟩, ?_⟩
    · intro other hother hid
      cases inj_on_of_nodup_map h.ids hother hrow hid
      rw [hfound] at hread
      cases hread
      exact ⟨hdecoded.revision.le, fun _ => hdecoded.agrees⟩
    · obtain ⟨_, hstored, -⟩ := returned_lift_bind hfound
      exact sqliteInteger_eq_ok hstored

/-- Rows that are due expire without breaking a constraint. -/
theorem expireDueIn_ok (now : UnixTimestampMillis) :
    ∃ count reached, expireDueIn now store = (.ok count, reached) := by
  refine ⟨_, _, updateMemories_ok ?_⟩
  intro row hrow _
  exact allowed_expire (h.rows row hrow).allowed

end Queries

end ConversationRuntime
