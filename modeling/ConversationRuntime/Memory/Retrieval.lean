import ConversationRuntime.Memory.Transactions

/-! # Retrieval

A retrieval picks the records that bear on a query, within a number of items and of
bytes, and notes on each that it was used. How a query and a content compare is a
parameter; when the caller cancels is another.
-/

namespace ConversationRuntime

open Foundation.Fallible MemoryStoreError

/-- How a content bears on a query. -/
inductive Relevance where
  | exact
  | shared
  | unrelated
deriving DecidableEq

structure MemoryRetrievalRequest where
  turnId : TurnId
  query : BoundedText maxMemoryQueryBytes
  now : UnixTimestampMillis
  maximumItems : Nat
  maximumBytes : Nat
  subject : Option PersonId
  itemsBounded : 1 ≤ maximumItems ∧ maximumItems ≤ maxMemoryRetrievalItems
  bytesBounded : 1 ≤ maximumBytes ∧ maximumBytes ≤ maxMemoryRetrievalBytes

/-- Where a retrieval looks whether it was cancelled. -/
inductive CancellationPoint where
  | start
  | scan
  | selection
  | ranked
  | item (ordinal : Nat)
  | finish
deriving DecidableEq

structure MemoryTraceExclusions where
  byState : Nat
  byExpiry : Nat
  byRelevance : Nat
  byItemLimit : Nat
  byByteLimit : Nat
deriving DecidableEq

structure RankedMemory where
  record : MemoryRecord
  reason : MemoryRetrievalReason
deriving DecidableEq

def RankedMemory.bytes (memory : RankedMemory) : Nat :=
  memory.record.draft.content.text.utf8ByteSize

structure RankedSelection where
  selected : List RankedMemory
  exclusions : MemoryTraceExclusions
deriving DecidableEq

/-! ## Selection -/

/-- What becomes of one record of a scan. -/
inductive Candidacy where
  | excludedByState
  | excludedByExpiry
  | excludedByRelevance
  | ranked (memory : RankedMemory)
deriving DecidableEq

section Selection

variable (relevance : String → String → Relevance) (query : String) (now : UnixTimestampMillis)

def retrievalReason (record : MemoryRecord) : Option MemoryRetrievalReason :=
  match relevance query record.draft.content.text with
  | .exact => some (if record.pinned then .pinnedMatch else .exactPhrase)
  | .shared => some (if record.pinned then .pinnedMatch else .sharedTerm)
  | .unrelated => if record.draft.kind = .working then some .recentWorking else none

def candidacy (record : MemoryRecord) : Candidacy :=
  if now < record.draft.createdAt ∨ now < record.updatedAt ∨
      record.lastUsedAt.any (now < ·) = true then .excludedByState
  else if record.state = .expired ∨ record.draft.retention.expiresAt.any (· ≤ now) = true then
    .excludedByExpiry
  else if record.state ≠ .active then .excludedByState
  else
    match retrievalReason relevance query record with
    | none => .excludedByRelevance
    | some reason => .ranked ⟨record, reason⟩

def Candidacy.ranked? : Candidacy → Option RankedMemory
  | .ranked memory => some memory
  | .excludedByState | .excludedByExpiry | .excludedByRelevance => none

def reasonPriority : MemoryRetrievalReason → Nat
  | .pinnedMatch => 4
  | .exactPhrase => 3
  | .sharedTerm => 2
  | .recentWorking => 1

def RankedMemory.lastUse (memory : RankedMemory) : UnixTimestampMillis :=
  memory.record.lastUsedAt.getD memory.record.draft.createdAt

/-- The best reason first, then the surest, the latest used and the oldest record. -/
def RankedMemory.before (left right : RankedMemory) : Bool :=
  if reasonPriority left.reason ≠ reasonPriority right.reason then
    reasonPriority right.reason < reasonPriority left.reason
  else if left.record.draft.confidence.value ≠ right.record.draft.confidence.value then
    right.record.draft.confidence.value < left.record.draft.confidence.value
  else if left.lastUse ≠ right.lastUse then right.lastUse < left.lastUse
  else left.record.id ≤ right.record.id

/-- What the loop over the ranked records has taken and left out so far. -/
structure Taking where
  selected : List RankedMemory
  usedBytes : Nat
  byItemLimit : Nat
  byByteLimit : Nat
deriving DecidableEq

def Taking.take (maximumItems maximumBytes : Nat) (taking : Taking) (memory : RankedMemory) :
    Taking :=
  if taking.selected.length = maximumItems then
    { taking with byItemLimit := taking.byItemLimit + 1 }
  else if maximumBytes < taking.usedBytes + memory.bytes then
    { taking with byByteLimit := taking.byByteLimit + 1 }
  else
    { taking with
      selected := taking.selected ++ [memory]
      usedBytes := taking.usedBytes + memory.bytes }

def selectRecords (records : List MemoryRecord) (maximumItems maximumBytes : Nat) :
    RankedSelection :=
  let candidacies := records.map (candidacy relevance query now)
  let ranked := (candidacies.filterMap Candidacy.ranked?).mergeSort RankedMemory.before
  let taking := ranked.foldl (Taking.take maximumItems maximumBytes) ⟨[], 0, 0, 0⟩
  ⟨taking.selected,
    { byState := candidacies.countP (· == .excludedByState)
      byExpiry := candidacies.countP (· == .excludedByExpiry)
      byRelevance := candidacies.countP (· == .excludedByRelevance)
      byItemLimit := taking.byItemLimit
      byByteLimit := taking.byByteLimit }⟩

end Selection

/-! ## The trace of a retrieval -/

structure MemoryContextItem where
  memoryId : MemoryId
  kind : MemoryKind
  content : MemoryContent
  reason : MemoryRetrievalReason
deriving DecidableEq

def MemoryContextItem.new (memoryId : MemoryId) (kind : MemoryKind) (content : String)
    (reason : MemoryRetrievalReason) : Except RuntimeError MemoryContextItem := do
  let content ← validateContent content
  .ok ⟨memoryId, kind, content, reason⟩

structure MemoryTraceItem where
  ordinal : Nat
  memoryId : MemoryId
  kind : MemoryKind
  reason : MemoryRetrievalReason
  contentBytes : Nat
deriving DecidableEq

def MemoryTraceItem.new (item : MemoryTraceItem) : Except RuntimeError MemoryTraceItem :=
  if maxMemoryRetrievalItems ≤ item.ordinal then
    .error (memoryError "memory trace ordinal exceeds item limit")
  else if ¬ (1 ≤ item.contentBytes ∧ item.contentBytes ≤ maxMemoryContentBytes) then
    .error (memoryError "memory trace content byte count is invalid")
  else .ok item

structure MemoryRetrievalTrace where
  traceId : Nat
  turnId : TurnId
  createdAt : UnixTimestampMillis
  items : List MemoryTraceItem
  exclusions : MemoryTraceExclusions
deriving DecidableEq

namespace MemoryRetrievalTrace

/-- The loop over the items of a trace, with those it has seen. -/
def checkOrder : List MemoryTraceItem → List MemoryTraceItem → Except RuntimeError Unit
  | _, [] => .ok ()
  | seen, item :: rest =>
    if item.ordinal ≠ seen.length then
      .error (memoryError "memory trace item order is not contiguous")
    else if seen.any (·.memoryId == item.memoryId) then
      .error (memoryError "memory trace contains a duplicate memory")
    else checkOrder (seen ++ [item]) rest

def new (trace : MemoryRetrievalTrace) : Except RuntimeError MemoryRetrievalTrace := do
  if maxMemoryRetrievalItems < trace.items.length then
    .error (memoryError "memory trace item count exceeds 8")
  else
    checkOrder [] trace.items
    if maxMemoryRetrievalBytes < (trace.items.map (·.contentBytes)).sum then
      .error (memoryError "memory trace byte count exceeds 8192")
    else .ok trace

end MemoryRetrievalTrace

structure MemoryRetrieval where
  items : List MemoryContextItem
  trace : MemoryRetrievalTrace
deriving DecidableEq

/-! ## The transaction -/

def maxMemoryScanRecords : Nat := 1024

/-- The tables of traces are not read again; their constraints are checked here. -/
def insertTrace (request : MemoryRetrievalRequest) (selection : RankedSelection) :
    Statement Nat := do
  let _ ← lift (sqliteInteger request.turnId)
  require (selection.selected.length ≤ request.maximumItems ∧
    (selection.selected.map RankedMemory.bytes).sum ≤ request.maximumBytes) storageError
  update fun store => { store with lastTraceId := store.lastTraceId + 1 }
  let store ← read
  pure store.lastTraceId

def MemoryRow.use (now : UnixTimestampMillis) (reason : MemoryRetrievalReason) (row : MemoryRow) :
    MemoryRow :=
  { row with lastUsedAt := some now, lastRetrievalReason := some reason }

/-- An item of a trace is written once and refers to a memory that is there. -/
def insertItem (taken : List MemoryTraceItem) (memory : RankedMemory) : Statement Unit := do
  let store ← read
  require ((1 ≤ memory.bytes ∧ memory.bytes ≤ maxMemoryContentBytes) ∧
    taken.all (·.memoryId != memory.record.id) = true ∧
    store.memories.any (·.id == memory.record.id) = true) storageError

/-- The items of a retrieval, gathered by the loop over the selected records. -/
structure Gathered where
  contextItems : List MemoryContextItem
  traceItems : List MemoryTraceItem
deriving DecidableEq

section Retrieve

variable (cancelled : CancellationPoint → Bool)

def checkCancellation (point : CancellationPoint) : Statement Unit :=
  require (cancelled point = false) cancelledError

def noteUse (now : UnixTimestampMillis) (gathered : Gathered) (memory : RankedMemory) :
    Statement Gathered := do
  let ordinal := gathered.traceItems.length
  checkCancellation cancelled (.item ordinal)
  insertItem gathered.traceItems memory
  let _ ← updateMemories (·.id == memory.record.id) (MemoryRow.use now memory.reason)
  let contextItem ← lift (orInvalid (MemoryContextItem.new memory.record.id
    memory.record.draft.kind memory.record.draft.content.text memory.reason))
  let traceItem ← lift (orInvalid (MemoryTraceItem.new
    ⟨ordinal, memory.record.id, memory.record.draft.kind, memory.reason, memory.bytes⟩))
  pure ⟨gathered.contextItems ++ [contextItem], gathered.traceItems ++ [traceItem]⟩

def noteUses (now : UnixTimestampMillis) : List RankedMemory → Gathered → Statement Gathered
  | [], gathered => pure gathered
  | memory :: rest, gathered => do
    let next ← noteUse cancelled now gathered memory
    noteUses now rest next

variable (hash : ContentHash)

/-- The records that a retrieval looks at. -/
def scanRecords (subject : Option PersonId) : Statement (List MemoryRecord) := do
  lift (checkIdentifier subject)
  let store ← read
  let rows := (store.recordQuery.filter fun row => subject.all (· == row.memory.subject)).take
    (maxMemoryScanRecords + 1)
  let records ← lift (rows.mapM (rowToRecord hash))
  require (records.length ≤ maxMemoryScanRecords)
    ⟨.limitExceeded, "memory retrieval scan exceeds 1024 records"⟩
  pure records

/-- Write down what was selected, on the records and as a trace. -/
def recordSelection (request : MemoryRetrievalRequest) (selection : RankedSelection) :
    Statement MemoryRetrieval := do
  let traceId ← insertTrace request selection
  let gathered ← noteUses cancelled request.now selection.selected ⟨[], []⟩
  checkCancellation cancelled .finish
  let trace ← lift (orInvalid (MemoryRetrievalTrace.new
    ⟨traceId, request.turnId, request.now, gathered.traceItems, selection.exclusions⟩))
  pure ⟨gathered.contextItems, trace⟩

def retrieve (relevance : String → String → Relevance) (request : MemoryRetrievalRequest) :
    Statement MemoryRetrieval := do
  checkCancellation cancelled .start
  atomically do
    let _ ← expireDueIn request.now
    checkCancellation cancelled .scan
    let records ← scanRecords hash request.subject
    checkCancellation cancelled .selection
    let selection := selectRecords relevance request.query.text request.now records
      request.maximumItems request.maximumBytes
    checkCancellation cancelled .ranked
    recordSelection cancelled request selection

end Retrieve

end ConversationRuntime
