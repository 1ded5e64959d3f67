import ConversationRuntime.Foundation.Fallible
import ConversationRuntime.Memory.Records

/-! # The memory store

The tables of the store and the transactions on them. A statement that breaks a
constraint of its table fails, and a transaction that fails takes back what it
changed. The rows of a table stand in the order of their identifiers, which are
counted up and never given out again.
-/

namespace ConversationRuntime

open Foundation Fallible

inductive MemoryStoreErrorKind where
  | invalidDatabase
  | notFound
  | conflict
  | cancelled
  | limitExceeded
  | storage
deriving DecidableEq

structure MemoryStoreError where
  kind : MemoryStoreErrorKind
  message : String
deriving DecidableEq

namespace MemoryStoreError

def invalidDatabaseError : MemoryStoreError :=
  ⟨.invalidDatabase, "memory database identity or schema is invalid"⟩

def notFoundError : MemoryStoreError := ⟨.notFound, "memory record was not found"⟩

def conflictError : MemoryStoreError := ⟨.conflict, "memory record revision conflict"⟩

def storageError : MemoryStoreError := ⟨.storage, "memory database operation failed"⟩

def cancelledError : MemoryStoreError := ⟨.cancelled, "memory retrieval was cancelled"⟩

def rangeError : MemoryStoreError := ⟨.conflict, "memory numeric value exceeds SQLite range"⟩

end MemoryStoreError

open MemoryStoreError

/-- The database holds signed 64-bit numbers. -/
def sqliteInteger (value : Nat) : Except MemoryStoreError Nat :=
  if value < 2 ^ 63 then .ok value else .error rangeError

variable {value : Nat}

theorem sqliteInteger_eq_ok {stored : Nat} (h : sqliteInteger value = .ok stored) :
    value < 2 ^ 63 := by
  by_contra hlarge
  rw [sqliteInteger, if_neg hlarge] at h
  cases h

theorem sqliteInteger_of_lt (h : value < 2 ^ 63) : sqliteInteger value = .ok value := if_pos h

theorem sqliteInteger_eq_error {error : MemoryStoreError} (h : sqliteInteger value = .error error) :
    error = rangeError := by
  unfold sqliteInteger at h
  split at h <;> cases h
  rfl

/-! ## Rows -/

inductive RetentionKind where
  | working
  | session
  | untilTime
  | untilDeleted
deriving DecidableEq

structure RetentionColumns where
  kind : RetentionKind
  expiresAt : Option UnixTimestampMillis
  sessionId : Option SessionId
deriving DecidableEq

namespace RetentionColumns

def ofRetention : MemoryRetention → RetentionColumns
  | .working expiresAt => ⟨.working, some expiresAt, none⟩
  | .session sessionId => ⟨.session, none, some sessionId⟩
  | .untilTime expiresAt => ⟨.untilTime, some expiresAt, none⟩
  | .untilDeleted => ⟨.untilDeleted, none, none⟩

/-- Exactly the columns that the kind needs are set. -/
def shaped (columns : RetentionColumns) : Bool :=
  match columns.kind with
  | .working | .untilTime => columns.expiresAt.isSome && columns.sessionId.isNone
  | .session => columns.expiresAt.isNone && columns.sessionId.isSome
  | .untilDeleted => columns.expiresAt.isNone && columns.sessionId.isNone

end RetentionColumns

def retentionColumns (retention : MemoryRetention) : Except MemoryStoreError RetentionColumns :=
  match retention.sessionId with
  | none => .ok (.ofRetention retention)
  | some sessionId => do
    let _ ← sqliteInteger sessionId.toNat
    .ok (.ofRetention retention)

theorem retentionColumns_eq_ok {retention : MemoryRetention} {columns : RetentionColumns}
    (h : retentionColumns retention = .ok columns) : columns = .ofRetention retention := by
  unfold retentionColumns at h
  split at h
  · cases h
    rfl
  · obtain ⟨_, -, hcolumns⟩ := bind_eq_ok h
    cases hcolumns
    rfl

def parseRetention (columns : RetentionColumns) : Except MemoryStoreError MemoryRetention :=
  match columns.kind with
  | .working => do
    let expiresAt ← orError invalidDatabaseError columns.expiresAt
    .ok (.working expiresAt)
  | .session => do
    let sessionId ← orError invalidDatabaseError columns.sessionId
    .ok (.session sessionId)
  | .untilTime => do
    let expiresAt ← orError invalidDatabaseError columns.expiresAt
    .ok (.untilTime expiresAt)
  | .untilDeleted => .ok .untilDeleted

@[simp] theorem parseRetention_ofRetention (retention : MemoryRetention) :
    parseRetention (.ofRetention retention) = .ok retention := by
  cases retention <;> rfl

/-- A row of the memories. The three columns of the prior retention are set together. -/
structure MemoryRow where
  id : MemoryId
  kind : MemoryKind
  state : MemoryState
  content : String
  confidence : Nat
  createdAt : UnixTimestampMillis
  updatedAt : UnixTimestampMillis
  retention : RetentionColumns
  pinned : Bool
  prior : Option RetentionColumns
  revision : Nat
  lastUsedAt : Option UnixTimestampMillis
  lastRetrievalReason : Option MemoryRetrievalReason
  subject : PersonId
deriving DecidableEq

namespace MemoryRow

/-- The constraint on a pin. One without a prior retention compares against a missing
value, which the database does not count as broken. -/
def pinShaped (row : MemoryRow) : Bool :=
  match row.pinned, row.prior with
  | false, none => true
  | false, some _ => false
  | true, none => row.retention.kind == .untilDeleted
  | true, some prior =>
    row.retention.kind == .untilDeleted && prior.kind != .working && prior.shaped

/-- The constraints of the table. -/
def allowed (row : MemoryRow) : Bool :=
  (1 ≤ row.content.utf8ByteSize && row.content.utf8ByteSize ≤ maxMemoryContentBytes) &&
    row.confidence ≤ 1000 && row.createdAt ≤ row.updatedAt && 1 ≤ row.revision &&
    row.lastUsedAt.all (row.createdAt ≤ ·) && row.retention.shaped &&
    (row.kind == .working) == (row.retention.kind == .working) &&
    !(row.kind == .working && row.pinned) && row.pinShaped

/-- The constraints, one by one. -/
structure Constrained (row : MemoryRow) : Prop where
  sizePos : 1 ≤ row.content.utf8ByteSize
  sizeBounded : row.content.utf8ByteSize ≤ maxMemoryContentBytes
  confidence : row.confidence ≤ 1000
  updated : row.createdAt ≤ row.updatedAt
  revision : 1 ≤ row.revision
  used : row.lastUsedAt.all (row.createdAt ≤ ·) = true
  shaped : row.retention.shaped = true
  working : (row.kind == .working) = (row.retention.kind == .working)
  workingUnpinned : (row.kind == .working && row.pinned) = false
  pin : row.pinShaped = true

theorem allowed_iff {row : MemoryRow} : row.allowed = true ↔ row.Constrained := by
  simp only [allowed, Bool.and_eq_true, decide_eq_true_eq, beq_iff_eq, Bool.not_eq_true']
  constructor
  · rintro ⟨⟨⟨⟨⟨⟨⟨⟨⟨hpos, hsize⟩, hconfidence⟩, hupdated⟩, hrevision⟩, hused⟩, hshaped⟩, hkind⟩,
      hworking⟩, hpin⟩
    exact ⟨hpos, hsize, hconfidence, hupdated, hrevision, hused, hshaped, hkind, hworking, hpin⟩
  · intro h
    exact ⟨⟨⟨⟨⟨⟨⟨⟨⟨h.sizePos, h.sizeBounded⟩, h.confidence⟩, h.updated⟩, h.revision⟩, h.used⟩,
      h.shaped⟩, h.working⟩, h.workingUnpinned⟩, h.pin⟩

end MemoryRow

/-- Where a memory came from or was changed by. Its texts were checked when the
provenance was built, so they meet the constraints of their columns. -/
structure SourceRow where
  memoryId : MemoryId
  kind : MemoryProvenanceKind
  sourceId : String
  sourceTimestamp : UnixTimestampMillis
  actor : String
  contentDigest : Option String
  createdAt : UnixTimestampMillis
deriving DecidableEq

/-- A row of the same table that holds an approval. -/
structure ApprovalRow where
  memoryId : MemoryId
  confirmationId : String
  actor : String
  confirmedAt : UnixTimestampMillis
  approvedRevision : Nat
  contentDigest : String
  createdAt : UnixTimestampMillis
deriving DecidableEq

structure PersonRow where
  id : PersonId
  isOwner : Bool
deriving DecidableEq

structure MemoryStore where
  people : List PersonRow
  memories : List MemoryRow
  sources : List SourceRow
  approvals : List ApprovalRow
  lastPersonId : PersonId
  lastMemoryId : MemoryId
  lastTraceId : Nat
deriving DecidableEq

/-- A new store knows its owner and nothing else. -/
def MemoryStore.empty : MemoryStore := ⟨[⟨ownerId, true⟩], [], [], [], ownerId, 0, 0⟩

/-! ## Reading -/

/-- A value that does not convert makes the statement fail. -/
def conversion {ε α : Type} : Except ε α → Except MemoryStoreError α
  | .ok value => .ok value
  | .error _ => .error storageError

@[simp] theorem conversion_ok {ε α : Type} (value : α) :
    conversion (.ok value : Except ε α) = .ok value := rfl

/-- A value that should have been checked before it was stored. -/
def orInvalid {ε α : Type} : Except ε α → Except MemoryStoreError α
  | .ok value => .ok value
  | .error _ => .error invalidDatabaseError

def rowToProvenance (row : SourceRow) : Except RuntimeError MemoryProvenance :=
  MemoryProvenance.new row.kind row.sourceId row.sourceTimestamp row.actor row.contentDigest

def rowToApproval (row : ApprovalRow) : Except RuntimeError MemoryApprovalEvidence :=
  MemoryApprovalEvidence.fromStored row.confirmationId row.actor row.confirmedAt
    row.approvedRevision row.contentDigest

def optionalApproval : Option ApprovalRow → Except RuntimeError (Option MemoryApprovalEvidence)
  | none => .ok none
  | some row => do
    let evidence ← rowToApproval row
    .ok (some evidence)

/-- A memory joined with its latest source and its latest approval. -/
structure RecordRow where
  memory : MemoryRow
  source : SourceRow
  approval : Option ApprovalRow
deriving DecidableEq

namespace MemoryStore

def sourcesOf (store : MemoryStore) (id : MemoryId) : List SourceRow :=
  store.sources.filter (·.memoryId == id)

def approvalsOf (store : MemoryStore) (id : MemoryId) : List ApprovalRow :=
  store.approvals.filter (·.memoryId == id)

/-- A memory without a source is left out by the join. -/
def recordRow (store : MemoryStore) (memory : MemoryRow) : Option RecordRow :=
  (store.sourcesOf memory.id).getLast?.map fun source =>
    ⟨memory, source, (store.approvalsOf memory.id).getLast?⟩

def recordQuery (store : MemoryStore) : List RecordRow := store.memories.filterMap store.recordRow

end MemoryStore

section Decoding

variable (hash : ContentHash)

/-- The evidence that counts for a record: an approval of another content, or one that
an edit took back, does not. -/
def currentApproval (memory : MemoryRow) (approval : Option MemoryApprovalEvidence) :
    Option MemoryApprovalEvidence :=
  if memory.state = .candidate then none
  else approval.filter (MemoryApprovalEvidence.matchesContent hash memory.content)

def rowToRecord (row : RecordRow) : Except MemoryStoreError MemoryRecord := do
  let retention ← conversion (parseRetention row.memory.retention)
  let provenance ← conversion (rowToProvenance row.source)
  let approval ← conversion (optionalApproval row.approval)
  let confidence ← conversion (MemoryConfidence.new row.memory.confidence)
  let draft ← conversion (MemoryDraft.new row.memory.kind row.memory.content provenance confidence
    row.memory.createdAt retention)
  let subject ← conversion (checkedId "person identifier" row.memory.subject)
  let id ← conversion (checkedId "memory identifier" row.memory.id)
  conversion (MemoryRecord.new hash
    { id := id
      draft := draft.withSubject subject
      state := row.memory.state
      updatedAt := row.memory.updatedAt
      pinned := row.memory.pinned
      revision := row.memory.revision
      approval := currentApproval hash row.memory approval
      lastUsedAt := row.memory.lastUsedAt
      lastRetrievalReason := row.memory.lastRetrievalReason })

/-- A program on the tables. -/
abbrev Statement (α : Type) : Type := Fallible MemoryStore MemoryStoreError α

/-- The reading half of an inspection. -/
def queryRecord (id : MemoryId) : Statement MemoryRecord := do
  let _ ← lift (sqliteInteger id)
  let store ← read
  let row ← lift (orError notFoundError (store.recordQuery.find? (·.memory.id == id)))
  lift (rowToRecord hash row)

/-- The reading half of a listing. -/
def queryRecords : Statement (List MemoryRecord) := do
  let store ← read
  lift (store.recordQuery.mapM (rowToRecord hash))

structure MemoryPage where
  records : List MemoryRecord
  nextBeforeId : Option MemoryId
deriving DecidableEq

def maxMemoryListPageItems : Nat := 50

def maxMemoryInspectionHistoryItems : Nat := 32

/-- An identifier that a query may be limited by. -/
def checkIdentifier : Option Nat → Except MemoryStoreError Unit
  | none => .ok ()
  | some id => do
    let _ ← sqliteInteger id
    .ok ()

/-- A page is read with one record more, which shows that there is a next page. -/
def queryPage (beforeId : Option MemoryId) (limit : Nat) : Statement MemoryPage := do
  require (1 ≤ limit ∧ limit ≤ maxMemoryListPageItems)
    ⟨.limitExceeded, "memory list page limit must be 1 through 50"⟩
  lift (checkIdentifier beforeId)
  let store ← read
  let rows := (store.recordQuery.reverse.filter fun row =>
    beforeId.all fun id => row.memory.id < id).take (limit + 1)
  let records ← lift (rows.mapM (rowToRecord hash))
  if limit < records.length then
    pure ⟨records.dropLast, records.dropLast.getLast?.map (·.id)⟩
  else pure ⟨records, none⟩

structure BoundedMemoryInspection where
  inspection : MemoryInspection
  sourcesTruncated : Bool
  approvalsTruncated : Bool
deriving DecidableEq

/-- The latest rows of a history, oldest first, and whether there are more. -/
def boundedHistory {ρ α : Type} (historyLimit : Nat) (rows : List ρ)
    (mapper : ρ → Except RuntimeError α) : Except MemoryStoreError (List α × Bool) := do
  let values ← (rows.reverse.take (historyLimit + 1)).mapM fun row => conversion (mapper row)
  if historyLimit < values.length then .ok (values.dropLast.reverse, true)
  else .ok (values.reverse, false)

/-- The reading half of an inspection with its history. -/
def queryBounded (id : MemoryId) (historyLimit : Nat) : Statement BoundedMemoryInspection := do
  require (1 ≤ historyLimit ∧ historyLimit ≤ maxMemoryInspectionHistoryItems)
    ⟨.limitExceeded, "memory inspection history limit must be 1 through 32"⟩
  let record ← queryRecord hash id
  let store ← read
  let sources ← lift (boundedHistory historyLimit (store.sourcesOf id) rowToProvenance)
  let approvals ← lift (boundedHistory historyLimit (store.approvalsOf id) rowToApproval)
  let inspection ← lift (orInvalid (MemoryInspection.new record sources.1 approvals.1))
  pure ⟨inspection, sources.2, approvals.2⟩

end Decoding

end ConversationRuntime
