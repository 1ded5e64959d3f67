import ConversationRuntime.Foundation.Runs
import ConversationRuntime.Foundation.Threads
import ConversationRuntime.Memory.RetrievalLaws

/-! # Clients of the store

Several clients work on the store at once. A call of a client runs one transaction at
a time; between the expiry and the reading of an inspection, and between what a call
read and what it writes, the calls of other clients run. The revisions that records
have had, and what calls changed, are noted beside the store.
-/

namespace ConversationRuntime

open Foundation

/-- What a record is read for. -/
inductive ReadingPurpose where
  | answer
  | edit (patch : MemoryPatch)
  | approve (approval : MemoryApproval)
  | setPinned (change : PinChange)
deriving DecidableEq

/-- An operation that is one transaction. -/
inductive MemoryOperation where
  | create (draft : MemoryDraft)
  | pruneExpired (now : UnixTimestampMillis)
  | expireSession (sessionId : SessionId) (expiredAt : UnixTimestampMillis)
  | retrieve (request : MemoryRetrievalRequest) (cancelled : CancellationPoint → Bool)
  | delete (id : MemoryId) (expectedRevision : Nat)
  | mergePeople (source target : PersonId)
  | createPerson
  | deletePerson (id : PersonId)

inductive MemoryAnswer where
  | record (record : MemoryRecord)
  | count (count : Nat)
  | retrieval (retrieval : MemoryRetrieval)
  | person (id : PersonId)
  | done
deriving DecidableEq

/-- Where a call stands. -/
inductive MemoryStage where
  | requested (operation : MemoryOperation)
  | expiring (id : MemoryId) (now : UnixTimestampMillis) (purpose : ReadingPurpose)
  | reading (id : MemoryId) (purpose : ReadingPurpose)
  | editing (id : MemoryId) (patch : MemoryPatch) (current : MemoryRecord) (draft : MemoryDraft)
  | approving (id : MemoryId) (approval : MemoryApproval) (current : MemoryRecord)
  | pinning (id : MemoryId) (change : PinChange) (current : MemoryRecord)
  | returned (result : Except MemoryStoreError MemoryAnswer)

/-- What a transaction changed. -/
inductive MemoryChange where
  | expiredDue (now : UnixTimestampMillis)
  | applied (id : MemoryId) (expectedRevision : Nat)
  | pinned (id : MemoryId) (expectedRevision : Nat) (retention : Option RetentionColumns)
  | unpinned (id : MemoryId) (expectedRevision : Nat) (retention : Option RetentionColumns)
  | other
deriving DecidableEq

/-- The record that a change was made to, with the revision that it expected. -/
def MemoryChange.expected : MemoryChange → Option (MemoryId × Nat)
  | .applied id revision | .pinned id revision _ | .unpinned id revision _ => some (id, revision)
  | .expiredDue _ | .other => none

/-- One transaction of a call: where the call stands after it, the store, and what
changed. -/
structure MemorySection where
  stage : MemoryStage
  store : MemoryStore
  change : Option MemoryChange

/-- The end of a transaction; one that failed changed nothing. -/
def MemorySection.ofResult {α : Type} (outcome : Except MemoryStoreError α × MemoryStore)
    (change : MemoryChange) (next : α → MemoryStage) : MemorySection :=
  match outcome with
  | (.ok value, reached) => ⟨next value, reached, some change⟩
  | (.error error, reached) => ⟨.returned (.error error), reached, none⟩

def retentionOf (id : MemoryId) (store : MemoryStore) : Option RetentionColumns :=
  (store.memories.find? (·.id == id)).map (·.retention)

section Calls

variable (hash : ContentHash) (relevance : String → String → Relevance)

def performOperation (store : MemoryStore) : MemoryOperation → MemorySection
  | .create draft => .ofResult (writeDraft draft store) .other fun id =>
    .expiring id draft.createdAt .answer
  | .pruneExpired now => .ofResult (expireDue now store) (.expiredDue now) fun count =>
    .returned (.ok (.count count))
  | .expireSession sessionId expiredAt =>
    .ofResult (expireSession sessionId expiredAt store) .other fun count =>
      .returned (.ok (.count count))
  | .retrieve request cancelled =>
    .ofResult (retrieve cancelled hash relevance request store) .other fun retrieval =>
      .returned (.ok (.retrieval retrieval))
  | .delete id expectedRevision =>
    .ofResult (delete id expectedRevision store) (.applied id expectedRevision) fun _ =>
      .returned (.ok .done)
  | .mergePeople source target => .ofResult (mergePeople source target store) .other fun _ =>
    .returned (.ok .done)
  | .createPerson => .ofResult (createPerson store) .other fun id => .returned (.ok (.person id))
  | .deletePerson id => .ofResult (deletePerson id store) .other fun _ => .returned (.ok .done)

/-- What a call goes on with once it has read its record. -/
def ReadingPurpose.next (id : MemoryId) (current : MemoryRecord) : ReadingPurpose → MemoryStage
  | .answer => .returned (.ok (.record current))
  | .edit patch =>
    match planEdit patch current with
    | .error error => .returned (.error error)
    | .ok draft => .editing id patch current draft
  | .approve approval =>
    match checkApproval approval current with
    | .error error => .returned (.error error)
    | .ok () => .approving id approval current
  | .setPinned change =>
    match checkPinned change current with
    | .error error => .returned (.error error)
    | .ok () => .pinning id change current

/-- What is noted of a pin: the retention it puts aside, or the one it brings back. -/
def pinNote (id : MemoryId) (change : PinChange) (before after : MemoryStore) : MemoryChange :=
  if change.pinned then .pinned id change.expectedRevision (retentionOf id before)
  else .unpinned id change.expectedRevision (retentionOf id after)

def MemoryStage.step (store : MemoryStore) : MemoryStage → MemorySection
  | .requested operation => performOperation hash relevance store operation
  | .expiring id now purpose => .ofResult (expireDue now store) (.expiredDue now) fun _ =>
    .reading id purpose
  | .reading id purpose =>
    match (queryRecord hash id store).1 with
    | .error error => ⟨.returned (.error error), store, none⟩
    | .ok current => ⟨purpose.next id current, store, none⟩
  | .editing id patch current draft =>
    .ofResult (writeEdit id patch current draft store) (.applied id patch.expectedRevision) fun _ =>
      .expiring id patch.editedAt .answer
  | .approving id approval current =>
    .ofResult (writeApproval hash id approval current store) (.applied id approval.expectedRevision)
      fun _ => .expiring id approval.confirmedAt .answer
  | .pinning id change _ =>
    .ofResult (writePinned id change store)
      (pinNote id change store (writePinned id change store).2) fun _ =>
        .expiring id change.changedAt .answer
  | .returned result => ⟨.returned result, store, none⟩

/-- A call of a client, with what its transactions changed. -/
structure MemoryCall where
  stage : MemoryStage
  made : List MemoryChange

/-- The store, with what its records have been and what was changed so far. -/
structure MemoryShared where
  store : MemoryStore
  versions : List MemoryVersion
  changes : List MemoryChange

def MemoryCall.step (call : MemoryCall) (shared : MemoryShared) : MemoryCall × MemoryShared :=
  let taken := call.stage.step hash relevance shared.store
  (⟨taken.stage, call.made ++ taken.change.toList⟩,
    ⟨taken.store, shared.versions ++ taken.store.memories.map MemoryRow.version,
      shared.changes ++ taken.change.toList⟩)

/-- A client asks for something, or one of the calls runs its next transaction. -/
inductive MemoryAction where
  | perform (operation : MemoryOperation)
  | inspect (id : MemoryId) (now : UnixTimestampMillis)
  | edit (id : MemoryId) (patch : MemoryPatch)
  | approve (id : MemoryId) (approval : MemoryApproval)
  | setPinned (id : MemoryId) (change : PinChange)
  | run (call : Nat)

/-- Where the call that an action starts stands first. -/
def MemoryAction.stage : MemoryAction → Option MemoryStage
  | .perform operation => some (.requested operation)
  | .inspect id now => some (.expiring id now .answer)
  | .edit id patch => some (.expiring id patch.editedAt (.edit patch))
  | .approve id approval => some (.expiring id approval.confirmedAt (.approve approval))
  | .setPinned id change => some (.expiring id change.changedAt (.setPinned change))
  | .run _ => none

abbrev MemoryClients := Pool MemoryShared MemoryCall

def MemoryClients.step (clients : MemoryClients) (action : MemoryAction) : MemoryClients :=
  match action with
  | .run call => clients.advance (MemoryCall.step hash relevance) call
  | action =>
    match action.stage with
    | none => clients
    | some stage => clients.spawn ⟨stage, []⟩

/-- No client has called yet. -/
def MemoryClients.start : MemoryClients := ⟨⟨.empty, [], []⟩, []⟩

end Calls

end ConversationRuntime
