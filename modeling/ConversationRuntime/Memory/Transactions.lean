import ConversationRuntime.Memory.Store

/-! # The transactions of the memory store

An operation that changes a record first reads it, checks the change against what it
read, and writes it in a transaction of its own. What it read may be out of date by
then; the write is made only on the revision that was read.
-/

namespace ConversationRuntime

open Foundation.Fallible MemoryStoreError

/-- Change the rows that meet a condition, and count them. A row that would break a
constraint makes the statement fail. -/
def updateMemories (condition : MemoryRow → Bool) (change : MemoryRow → MemoryRow) :
    Statement Nat := do
  let store ← read
  require ((store.memories.filter condition).all fun row => (change row).allowed) storageError
  update fun store => { store with
    memories := store.memories.map fun row => if condition row then change row else row }
  pure (store.memories.countP condition)

def insertSource (id : MemoryId) (provenance : MemoryProvenance) (createdAt : UnixTimestampMillis) :
    Statement Unit :=
  update fun store => { store with
    sources := store.sources ++
      [⟨id, provenance.kind, provenance.sourceId.text, provenance.sourceTimestamp,
        provenance.actor.text, provenance.contentDigest.map BoundedText.text, createdAt⟩] }

def insertApproval (id : MemoryId) (evidence : MemoryApprovalEvidence)
    (createdAt : UnixTimestampMillis) : Statement Unit := do
  let _ ← lift (sqliteInteger evidence.approvedRevision)
  update fun store => { store with
    approvals := store.approvals ++
      [⟨id, evidence.confirmationId.text, evidence.actor.text, evidence.confirmedAt,
        evidence.approvedRevision, evidence.contentDigest.text, createdAt⟩] }

/-! ## Expiry -/

def MemoryRow.expire (time : UnixTimestampMillis) (row : MemoryRow) : MemoryRow :=
  { row with state := .expired, updatedAt := max row.updatedAt time, revision := row.revision + 1 }

def MemoryRow.isDue (now : UnixTimestampMillis) (row : MemoryRow) : Bool :=
  row.state != .expired && (row.retention.kind == .working || row.retention.kind == .untilTime) &&
    row.retention.expiresAt.any (· ≤ now)

def expireDueIn (now : UnixTimestampMillis) : Statement Nat :=
  updateMemories (MemoryRow.isDue now) (MemoryRow.expire now)

def expireDue (now : UnixTimestampMillis) : Statement Nat := atomically (expireDueIn now)

def MemoryRow.endsWith (sessionId : SessionId) (row : MemoryRow) : Bool :=
  row.state != .expired && row.retention.kind == .session &&
    row.retention.sessionId == some sessionId

def expireSession (sessionId : SessionId) (expiredAt : UnixTimestampMillis) : Statement Nat :=
  atomically do
    let _ ← lift (sqliteInteger sessionId.toNat)
    updateMemories (MemoryRow.endsWith sessionId) (MemoryRow.expire expiredAt)

/-! ## Creation and deletion -/

def newRow (id : MemoryId) (draft : MemoryDraft) (columns : RetentionColumns) : MemoryRow where
  id := id
  kind := draft.kind
  state := draft.initialState
  content := draft.content.text
  confidence := draft.confidence.value
  createdAt := draft.createdAt
  updatedAt := draft.createdAt
  retention := columns
  pinned := false
  prior := none
  revision := 1
  lastUsedAt := none
  lastRetrievalReason := none
  subject := draft.subject

/-- Insert a memory under the next identifier. When there is none left, the database
is full. -/
def insertMemory (draft : MemoryDraft) (columns : RetentionColumns) : Statement MemoryId := do
  let store ← read
  let row := newRow (store.lastMemoryId + 1) draft columns
  require (row.id < 2 ^ 63 ∧ row.allowed = true) storageError
  update fun store => { store with memories := store.memories ++ [row], lastMemoryId := row.id }
  pure row.id

def writeDraft (draft : MemoryDraft) : Statement MemoryId := atomically do
  let columns ← lift (retentionColumns draft.retention)
  let _ ← lift (sqliteInteger draft.subject)
  let store ← read
  require (store.people.any (·.id == draft.subject) = true) notFoundError
  let id ← insertMemory draft columns
  insertSource id draft.provenance draft.createdAt
  pure id

/-- Remove the memories that meet a condition, and with each its sources. -/
def removeMemories (condition : MemoryRow → Bool) : Statement Nat := do
  let store ← read
  let kept := store.memories.filter fun row => !condition row
  update fun store => { store with
    memories := kept
    sources := store.sources.filter fun source => kept.any (·.id == source.memoryId)
    approvals := store.approvals.filter fun approval => kept.any (·.id == approval.memoryId) }
  pure (store.memories.countP condition)

def delete (id : MemoryId) (expectedRevision : Nat) : Statement Unit := do
  require (expectedRevision ≠ 0) conflictError
  atomically do
    let _ ← lift (sqliteInteger id)
    let _ ← lift (sqliteInteger expectedRevision)
    let changed ← removeMemories fun row => row.id == id && row.revision == expectedRevision
    let store ← read
    require (changed = 1) (if store.memories.any (·.id == id) then conflictError else notFoundError)

/-! ## Changes of a record that was read -/

/-- The record as an edit would leave it. -/
def planEdit (patch : MemoryPatch) (current : MemoryRecord) : Except MemoryStoreError MemoryDraft :=
  if current.revision ≠ patch.expectedRevision then .error conflictError
  else if patch.editedAt < current.updatedAt then .error conflictError
  else if current.pinned ∧ patch.retention.isSome then .error conflictError
  else
    match MemoryDraft.new current.draft.kind (patch.content.getD current.draft.content).text
      patch.provenance (patch.confidence.getD current.draft.confidence) current.draft.createdAt
      (patch.retention.getD current.draft.retention) with
    | .error _ => .error ⟨.conflict, "memory edit violates record retention"⟩
    | .ok draft => .ok draft

/-- An approval does not outlive the content it was given for. -/
def editedState (current : MemoryRecord) (content : String) : MemoryState :=
  if current.draft.kind.requiresApproval ∧ current.state = .active ∧
      content ≠ current.draft.content.text then .candidate
  else current.state

def MemoryRow.edit (draft : MemoryDraft) (columns : RetentionColumns) (state : MemoryState)
    (editedAt : UnixTimestampMillis) (row : MemoryRow) : MemoryRow :=
  { row with
    content := draft.content.text
    confidence := draft.confidence.value
    updatedAt := editedAt
    retention := columns
    state := state
    revision := row.revision + 1 }

def writeEdit (id : MemoryId) (patch : MemoryPatch) (current : MemoryRecord) (draft : MemoryDraft) :
    Statement Unit := atomically do
  let columns ← lift (retentionColumns draft.retention)
  let _ ← lift (sqliteInteger id)
  let _ ← lift (sqliteInteger patch.expectedRevision)
  let changed ← updateMemories (fun row => row.id == id && row.revision == patch.expectedRevision)
    (MemoryRow.edit draft columns (editedState current draft.content.text) patch.editedAt)
  require (changed = 1) conflictError
  insertSource id patch.provenance patch.editedAt

def checkApproval (approval : MemoryApproval) (current : MemoryRecord) :
    Except MemoryStoreError Unit :=
  if current.revision ≠ approval.expectedRevision ∨ current.state ≠ .candidate ∨
      current.draft.kind.requiresApproval = false ∨ approval.confirmedAt < current.updatedAt then
    .error conflictError
  else .ok ()

def MemoryRow.approve (confirmedAt : UnixTimestampMillis) (row : MemoryRow) : MemoryRow :=
  { row with state := .active, updatedAt := confirmedAt, revision := row.revision + 1 }

def writeApproval (hash : ContentHash) (id : MemoryId) (approval : MemoryApproval)
    (current : MemoryRecord) : Statement Unit := atomically do
  let _ ← lift (sqliteInteger id)
  let _ ← lift (sqliteInteger approval.expectedRevision)
  let changed ← updateMemories
    (fun row => row.id == id && row.revision == approval.expectedRevision &&
      row.state == .candidate && row.kind.requiresApproval)
    (MemoryRow.approve approval.confirmedAt)
  require (changed = 1) conflictError
  insertApproval id (approval.evidenceFor hash current.draft.content.text) approval.confirmedAt

/-- A request to pin a record or to unpin it. -/
structure PinChange where
  expectedRevision : Nat
  pinned : Bool
  changedAt : UnixTimestampMillis
deriving DecidableEq

def checkPinned (change : PinChange) (current : MemoryRecord) : Except MemoryStoreError Unit :=
  if current.revision ≠ change.expectedRevision ∨ current.state = .expired ∨
      current.draft.kind = .working ∨ current.pinned = change.pinned ∨
      change.changedAt < current.updatedAt then .error conflictError
  else .ok ()

def MemoryRow.pin (changedAt : UnixTimestampMillis) (row : MemoryRow) : MemoryRow :=
  { row with
    pinned := true
    prior := some row.retention
    retention := ⟨.untilDeleted, none, none⟩
    updatedAt := changedAt
    revision := row.revision + 1 }

def MemoryRow.unpin (changedAt : UnixTimestampMillis) (row : MemoryRow) : MemoryRow :=
  { row with
    pinned := false
    retention := row.prior.getD row.retention
    prior := none
    updatedAt := changedAt
    revision := row.revision + 1 }

def updatePinned (id : MemoryId) (change : PinChange) : Statement Nat :=
  if change.pinned then
    updateMemories
      (fun row => row.id == id && row.revision == change.expectedRevision && !row.pinned &&
        row.kind != .working)
      (MemoryRow.pin change.changedAt)
  else
    updateMemories
      (fun row => row.id == id && row.revision == change.expectedRevision && row.pinned &&
        row.prior.isSome)
      (MemoryRow.unpin change.changedAt)

def writePinned (id : MemoryId) (change : PinChange) : Statement Unit := atomically do
  let _ ← lift (sqliteInteger id)
  let _ ← lift (sqliteInteger change.expectedRevision)
  let changed ← updatePinned id change
  require (changed = 1) conflictError

/-! ## People -/

def maxPeople : Nat := 256

/-- The names of people are left out. -/
def createPerson : Statement PersonId := atomically do
  let store ← read
  require (store.people.length < maxPeople)
    ⟨.limitExceeded, "memory store holds the maximum number of people"⟩
  update fun store => { store with
    people := store.people ++ [⟨store.lastPersonId + 1, false⟩]
    lastPersonId := store.lastPersonId + 1 }
  pure (store.lastPersonId + 1)

/-- Whether the person is the owner. -/
def requirePerson (id : PersonId) : Statement Bool := do
  let store ← read
  let person ← lift (orError notFoundError (store.people.find? (·.id == id)))
  pure person.isOwner

def removePerson (id : PersonId) : Statement Unit :=
  update fun store => { store with people := store.people.filter (·.id != id) }

/-- What is known of a person goes with them. -/
def deletePerson (id : PersonId) : Statement Unit := atomically do
  let _ ← lift (sqliteInteger id)
  let isOwner ← requirePerson id
  require (isOwner = false) conflictError
  removePerson id
  let _ ← removeMemories (·.subject == id)
  pure ()

/-- No memory is left of the person who is merged, so none goes with them. -/
def mergePeople (source target : PersonId) : Statement Unit := atomically do
  let _ ← lift (sqliteInteger source)
  let _ ← lift (sqliteInteger target)
  let isOwner ← requirePerson source
  let _ ← requirePerson target
  require (isOwner = false ∧ source ≠ target) conflictError
  let _ ← updateMemories (·.subject == source) fun row => { row with subject := target }
  removePerson source

end ConversationRuntime
