import ConversationRuntime.Foundation.Text
import ConversationRuntime.Voice.Events

/-! # Memory records

What a memory store keeps about one memory, and the checks its values pass when they
are built. A draft, a patch or an approval that breaks its rules cannot be built, and
what was checked once passes the same check again when it is read back.
-/

namespace ConversationRuntime

open Foundation List

def maxMemoryContentBytes : Nat := 4 * 1024

def maxMemoryRetrievalItems : Nat := 8

def maxMemoryRetrievalBytes : Nat := 8 * 1024

def maxMemoryQueryBytes : Nat := 16 * 1024

def maxWorkingRetentionMillis : Nat := 24 * 60 * 60 * 1000

def maxSourceIdentifierBytes : Nat := 512

def maxActorBytes : Nat := 256

def maxDigestBytes : Nat := 256

def maxConfirmationIdentifierBytes : Nat := 512

abbrev MemoryId := Nat

abbrev PersonId := Nat

/-- The person who runs the runtime. -/
def ownerId : PersonId := 1

/-- A point in time; the program keeps it as a non-negative number of milliseconds. -/
abbrev UnixTimestampMillis := Nat

def memoryError (message : String) : RuntimeError := ⟨.configuration, .memory, message⟩

/-! ## Texts -/

/-- A text that is neither blank nor longer than its bound. -/
structure BoundedText (maximumBytes : Nat) where
  text : String
  notBlank : isBlank text = false
  bounded : text.utf8ByteSize ≤ maximumBytes
deriving DecidableEq

def boundedText (value : String) (maximumBytes : Nat) (emptyMessage overflowMessage : String) :
    Except RuntimeError (BoundedText maximumBytes) :=
  if hblank : isBlank value = true then .error (memoryError emptyMessage)
  else if hlong : maximumBytes < value.utf8ByteSize then .error (memoryError overflowMessage)
  else .ok ⟨value, isBlank_eq_false hblank, Nat.le_of_not_lt hlong⟩

variable {maximumBytes : Nat}

@[simp] theorem boundedText_text (value : BoundedText maximumBytes)
    (emptyMessage overflowMessage : String) :
    boundedText value.text maximumBytes emptyMessage overflowMessage = .ok value := by
  have hblank : ¬ isBlank value.text = true := by simp [value.notBlank]
  have hlong : ¬ maximumBytes < value.text.utf8ByteSize := not_lt.mpr value.bounded
  rw [boundedText, dif_neg hblank, dif_neg hlong]

theorem boundedText_eq_ok {value : String} {emptyMessage overflowMessage : String}
    {checked : BoundedText maximumBytes}
    (h : boundedText value maximumBytes emptyMessage overflowMessage = .ok checked) :
    checked.text = value := by
  unfold boundedText at h
  split at h
  · cases h
  · split at h
    · cases h
    · cases h
      rfl

/-- A text that is not blank has a first byte. -/
theorem BoundedText.size_pos (value : BoundedText maximumBytes) : 0 < value.text.utf8ByteSize := by
  apply pos_of_ne_zero
  intro hempty
  have hblank := value.notBlank
  rw [String.utf8ByteSize_eq_zero_iff.mp hempty] at hblank
  simp [isBlank] at hblank

abbrev MemoryContent := BoundedText maxMemoryContentBytes

def validateContent (content : String) : Except RuntimeError MemoryContent :=
  boundedText content maxMemoryContentBytes "memory content must not be empty"
    "memory content exceeds 4 KiB"

/-! ## Kinds and states -/

inductive MemoryKind where
  | working
  | episodic
  | semantic
  | identity
  | relationship
deriving DecidableEq

def MemoryKind.requiresApproval : MemoryKind → Bool
  | .identity | .relationship => true
  | .working | .episodic | .semantic => false

inductive MemoryState where
  | candidate
  | active
  | expired
deriving DecidableEq

inductive MemoryProvenanceKind where
  | userProvided
  | userEdited
  | completedExchange
  | applicationImported
deriving DecidableEq

inductive MemoryRetrievalReason where
  | pinnedMatch
  | exactPhrase
  | sharedTerm
  | recentWorking
deriving DecidableEq

/-- How sure the store is of a memory, in thousandths. -/
structure MemoryConfidence where
  value : Nat
  bounded : value ≤ 1000
deriving DecidableEq

def MemoryConfidence.new (value : Nat) : Except RuntimeError MemoryConfidence :=
  if h : 1000 < value then .error (memoryError "memory confidence exceeds 1000")
  else .ok ⟨value, Nat.le_of_not_lt h⟩

@[simp] theorem MemoryConfidence.new_value (confidence : MemoryConfidence) :
    MemoryConfidence.new confidence.value = .ok confidence := by
  rw [MemoryConfidence.new, dif_neg (not_lt.mpr confidence.bounded)]

/-- An identifier read from the store, which is never zero. -/
def checkedId (label : String) (value : Nat) : Except RuntimeError Nat :=
  if value = 0 then .error (memoryError (label ++ " must be non-zero")) else .ok value

theorem checkedId_of_pos {label : String} {value : Nat} (h : 0 < value) :
    checkedId label value = .ok value := if_neg (ne_of_gt h)

/-! ## Where a memory comes from -/

structure MemoryProvenance where
  kind : MemoryProvenanceKind
  sourceId : BoundedText maxSourceIdentifierBytes
  sourceTimestamp : UnixTimestampMillis
  actor : BoundedText maxActorBytes
  contentDigest : Option (BoundedText maxDigestBytes)
deriving DecidableEq

namespace MemoryProvenance

def checkDigest : Option String → Except RuntimeError (Option (BoundedText maxDigestBytes))
  | none => .ok none
  | some digest => do
    let digest ← boundedText digest maxDigestBytes "memory content digest must not be empty"
      "memory content digest exceeds 256 bytes"
    .ok (some digest)

def new (kind : MemoryProvenanceKind) (sourceId : String) (sourceTimestamp : UnixTimestampMillis)
    (actor : String) (contentDigest : Option String) : Except RuntimeError MemoryProvenance := do
  let sourceId ← boundedText sourceId maxSourceIdentifierBytes
    "memory provenance source identifier must not be empty"
    "memory provenance source identifier exceeds 512 bytes"
  let actor ← boundedText actor maxActorBytes "memory provenance actor must not be empty"
    "memory provenance actor exceeds 256 bytes"
  let contentDigest ← checkDigest contentDigest
  .ok ⟨kind, sourceId, sourceTimestamp, actor, contentDigest⟩

/-- The parts of a provenance pass the checks that built it. -/
theorem new_parts (provenance : MemoryProvenance) :
    new provenance.kind provenance.sourceId.text provenance.sourceTimestamp provenance.actor.text
      (provenance.contentDigest.map BoundedText.text) = .ok provenance := by
  obtain ⟨kind, sourceId, sourceTimestamp, actor, contentDigest⟩ := provenance
  cases contentDigest <;> simp [new, checkDigest, bind, Except.bind]

end MemoryProvenance

/-! ## Approval -/

/-- The hash behind a content digest. -/
structure ContentHash where
  sha256 : Bytes → Bytes
  length_sha256 : ∀ bytes, (sha256 bytes).length = 32

/-- A hash to test with. -/
def ContentHash.padded : ContentHash where
  sha256 := fun bytes => (bytes ++ List.replicate 32 0).take 32
  length_sha256 := length_padded

def isAsciiHexdigit (byte : UInt8) : Bool :=
  isLowercaseHexByte byte || (65 ≤ byte && byte ≤ 70)

def isSha256Digest (value : String) : Bool :=
  (utf8Bytes value).length == 71 && (utf8Bytes value).take 7 == utf8Bytes "sha256:" &&
    ((utf8Bytes value).drop 7).all isAsciiHexdigit

def contentDigest (hash : ContentHash) (content : String) : String :=
  "sha256:" ++ lowercaseHex (hash.sha256 (utf8Bytes content))

theorem utf8Bytes_append (first second : String) :
    utf8Bytes (first ++ second) = utf8Bytes first ++ utf8Bytes second := by
  simp [utf8Bytes, String.toByteArray_append]

theorem length_contentDigest (hash : ContentHash) (content : String) :
    (utf8Bytes (contentDigest hash content)).length = 71 := by
  have hscheme : (utf8Bytes "sha256:").length = 7 := by decide
  rw [contentDigest, utf8Bytes_append, utf8Bytes_lowercaseHex, length_append,
    length_flatMap_hexCodes, hash.length_sha256, hscheme]

theorem isSha256Digest_contentDigest (hash : ContentHash) (content : String) :
    isSha256Digest (contentDigest hash content) = true := by
  have hscheme : (utf8Bytes "sha256:").length = 7 := by decide
  have hhex : isHexText (lowercaseHex (hash.sha256 (utf8Bytes content))) 64 = true := by
    apply isHexText_lowercaseHex
    rw [hash.length_sha256]
  rw [isHexText, Bool.and_eq_true, all_eq_true] at hhex
  rw [isSha256Digest, length_contentDigest, contentDigest, utf8Bytes_append, take_left' hscheme]
  simp only [beq_self_eq_true, Bool.true_and, all_eq_true]
  intro byte hbyte
  rw [isAsciiHexdigit, hhex.2 byte hbyte, Bool.true_or]

/-- The digest of a content, as a text that may be stored. -/
def digestText (hash : ContentHash) (content : String) : BoundedText maxDigestBytes where
  text := contentDigest hash content
  notBlank := by
    have hscheme : isBlank "sha256:" = false := by decide
    rw [contentDigest, isBlank_append, hscheme, Bool.false_and]
  bounded := by
    rw [← length_utf8Bytes, length_contentDigest]
    decide

structure MemoryApproval where
  confirmationId : BoundedText maxConfirmationIdentifierBytes
  actor : BoundedText maxActorBytes
  confirmedAt : UnixTimestampMillis
  expectedRevision : Nat
  revisionPos : 0 < expectedRevision
deriving DecidableEq

/-- What is kept of an approval: the content it was given for is known by its digest. -/
structure MemoryApprovalEvidence where
  confirmationId : BoundedText maxConfirmationIdentifierBytes
  actor : BoundedText maxActorBytes
  confirmedAt : UnixTimestampMillis
  approvedRevision : Nat
  contentDigest : BoundedText maxDigestBytes
  revisionPos : 0 < approvedRevision
  isDigest : isSha256Digest contentDigest.text = true
deriving DecidableEq

def MemoryApproval.new (confirmationId actor : String) (confirmedAt : UnixTimestampMillis)
    (expectedRevision : Nat) : Except RuntimeError MemoryApproval := do
  let confirmationId ← boundedText confirmationId maxConfirmationIdentifierBytes
    "memory confirmation identifier must not be empty"
    "memory confirmation identifier exceeds 512 bytes"
  let actor ← boundedText actor maxActorBytes "memory approval actor must not be empty"
    "memory approval actor exceeds 256 bytes"
  if h : expectedRevision = 0 then .error (memoryError "memory revision must be non-zero")
  else .ok ⟨confirmationId, actor, confirmedAt, expectedRevision, Nat.pos_of_ne_zero h⟩

def MemoryApproval.evidenceFor (hash : ContentHash) (approval : MemoryApproval) (content : String) :
    MemoryApprovalEvidence :=
  ⟨approval.confirmationId, approval.actor, approval.confirmedAt, approval.expectedRevision,
    digestText hash content, approval.revisionPos, isSha256Digest_contentDigest hash content⟩

namespace MemoryApprovalEvidence

def matchesContent (hash : ContentHash) (content : String) (evidence : MemoryApprovalEvidence) :
    Bool :=
  evidence.contentDigest.text == ConversationRuntime.contentDigest hash content

def fromStored (confirmationId actor : String) (confirmedAt : UnixTimestampMillis)
    (approvedRevision : Nat) (contentDigest : String) :
    Except RuntimeError MemoryApprovalEvidence := do
  let approval ← MemoryApproval.new confirmationId actor confirmedAt approvedRevision
  let digest ← boundedText contentDigest maxDigestBytes
    "memory approval content digest must not be empty"
    "memory approval content digest exceeds 256 bytes"
  if h : isSha256Digest digest.text = true then
    .ok ⟨approval.confirmationId, approval.actor, approval.confirmedAt, approval.expectedRevision,
      digest, approval.revisionPos, h⟩
  else .error (memoryError "memory approval content digest is invalid")

theorem fromStored_parts (evidence : MemoryApprovalEvidence) :
    fromStored evidence.confirmationId.text evidence.actor.text evidence.confirmedAt
      evidence.approvedRevision evidence.contentDigest.text = .ok evidence := by
  obtain ⟨confirmationId, actor, confirmedAt, revision, digest, hrevision, hdigest⟩ := evidence
  simp [fromStored, MemoryApproval.new, ne_of_gt hrevision, hdigest, bind, Except.bind]

end MemoryApprovalEvidence

/-! ## Retention, drafts and patches -/

inductive MemoryRetention where
  | working (expiresAt : UnixTimestampMillis)
  | session (sessionId : SessionId)
  | untilTime (expiresAt : UnixTimestampMillis)
  | untilDeleted
deriving DecidableEq

def MemoryRetention.expiresAt : MemoryRetention → Option UnixTimestampMillis
  | .working expiresAt | .untilTime expiresAt => some expiresAt
  | .session _ | .untilDeleted => none

def MemoryRetention.sessionId : MemoryRetention → Option SessionId
  | .session sessionId => some sessionId
  | .working _ | .untilTime _ | .untilDeleted => none

/-- Working memory is kept for a day at most, and nothing expires before it exists. -/
def validateRetention (kind : MemoryKind) (createdAt : UnixTimestampMillis) :
    MemoryRetention → Except RuntimeError Unit
  | .working expiresAt =>
    if kind ≠ .working then .error (memoryError "working retention requires working memory")
    else if expiresAt ≤ createdAt then
      .error (memoryError "working memory expiry must follow creation")
    else if maxWorkingRetentionMillis < expiresAt - createdAt then
      .error (memoryError "working memory retention exceeds 24 hours")
    else .ok ()
  | .untilTime expiresAt =>
    if kind = .working then .error (memoryError "working memory requires working retention")
    else if expiresAt ≤ createdAt then .error (memoryError "memory expiry must follow creation")
    else .ok ()
  | .session _ | .untilDeleted =>
    if kind = .working then .error (memoryError "working memory requires working retention")
    else .ok ()

structure MemoryDraft where
  kind : MemoryKind
  content : MemoryContent
  provenance : MemoryProvenance
  confidence : MemoryConfidence
  createdAt : UnixTimestampMillis
  retention : MemoryRetention
  subject : PersonId
  allowed : validateRetention kind createdAt retention = .ok ()
deriving DecidableEq

namespace MemoryDraft

def new (kind : MemoryKind) (content : String) (provenance : MemoryProvenance)
    (confidence : MemoryConfidence) (createdAt : UnixTimestampMillis)
    (retention : MemoryRetention) :
    Except RuntimeError MemoryDraft := do
  let content ← validateContent content
  match h : validateRetention kind createdAt retention with
  | .error error => .error error
  | .ok () => .ok ⟨kind, content, provenance, confidence, createdAt, retention, ownerId, h⟩

def withSubject (subject : PersonId) (draft : MemoryDraft) : MemoryDraft :=
  { draft with subject := subject }

def initialState (draft : MemoryDraft) : MemoryState :=
  if draft.kind.requiresApproval then .candidate else .active

/-- What was drafted has the parts it was drafted from. -/
theorem new_eq_ok {kind : MemoryKind} {content : String} {provenance : MemoryProvenance}
    {confidence : MemoryConfidence} {createdAt : UnixTimestampMillis} {retention : MemoryRetention}
    {draft : MemoryDraft}
    (h : new kind content provenance confidence createdAt retention = .ok draft) :
    draft.kind = kind ∧ draft.createdAt = createdAt := by
  obtain ⟨checked, -, hrest⟩ := bind_eq_ok h
  split at hrest
  · cases hrest
  · cases hrest
    exact ⟨rfl, rfl⟩

end MemoryDraft

/-- A change to a record; it changes something, and says that the user made it. -/
structure MemoryPatch where
  expectedRevision : Nat
  content : Option MemoryContent
  confidence : Option MemoryConfidence
  retention : Option MemoryRetention
  editedAt : UnixTimestampMillis
  provenance : MemoryProvenance
  revisionPos : 0 < expectedRevision
  changesField : content.isSome ∨ confidence.isSome ∨ retention.isSome
  userEdited : provenance.kind = .userEdited
deriving DecidableEq

/-! ## Records -/

theorem any_eq_false {α : Type} {value : Option α} {test : α → Bool}
    (h : ∀ held ∈ value, test held = false) : value.any test = false := by
  cases value with
  | none => rfl
  | some held => exact h held rfl

structure MemoryRecord where
  id : MemoryId
  draft : MemoryDraft
  state : MemoryState
  updatedAt : UnixTimestampMillis
  pinned : Bool
  revision : Nat
  approval : Option MemoryApprovalEvidence
  lastUsedAt : Option UnixTimestampMillis
  lastRetrievalReason : Option MemoryRetrievalReason
deriving DecidableEq

namespace MemoryRecord

/-- Evidence that cannot have been given for this content, or not yet. -/
def misplaced (hash : ContentHash) (content : String) (updatedAt : UnixTimestampMillis)
    (revision : Nat) (evidence : MemoryApprovalEvidence) : Bool :=
  !evidence.matchesContent hash content || updatedAt < evidence.confirmedAt ||
    revision ≤ evidence.approvedRevision

def new (hash : ContentHash) (record : MemoryRecord) : Except RuntimeError MemoryRecord :=
  if record.revision = 0 then .error (memoryError "memory revision must be non-zero")
  else if record.updatedAt < record.draft.createdAt then
    .error (memoryError "memory update precedes creation")
  else if record.lastUsedAt.any (· < record.draft.createdAt) then
    .error (memoryError "memory last use precedes creation")
  else if record.pinned && record.draft.kind == .working then
    .error (memoryError "working memory cannot be pinned")
  else if record.approval.any
      (misplaced hash record.draft.content.text record.updatedAt record.revision) then
    .error (memoryError "memory approval evidence is invalid")
  else if record.draft.kind.requiresApproval && record.state == .active &&
      record.approval.isNone then
    .error (memoryError "active identity or relationship memory requires approval evidence")
  else .ok record

/-- What a record must satisfy to be built. -/
structure Valid (hash : ContentHash) (record : MemoryRecord) : Prop where
  revision : 0 < record.revision
  updated : record.draft.createdAt ≤ record.updatedAt
  lastUsed : ∀ time ∈ record.lastUsedAt, record.draft.createdAt ≤ time
  pinned : record.pinned = true → record.draft.kind ≠ .working
  placed : ∀ evidence ∈ record.approval,
    misplaced hash record.draft.content.text record.updatedAt record.revision evidence = false
  approved : record.draft.kind.requiresApproval = true → record.state = .active →
    record.approval.isSome = true

theorem Valid.new {hash : ContentHash} {record : MemoryRecord} (h : Valid hash record) :
    MemoryRecord.new hash record = .ok record := by
  have hlast : record.lastUsedAt.any (· < record.draft.createdAt) = false := by
    apply any_eq_false
    simpa using h.lastUsed
  have hplaced : record.approval.any
      (misplaced hash record.draft.content.text record.updatedAt record.revision) = false := by
    exact any_eq_false h.placed
  have hpinned : (record.pinned && record.draft.kind == .working) = false := by
    rw [Bool.and_eq_false_imp]
    intro hpinned
    simpa using h.pinned hpinned
  have happroved : (record.draft.kind.requiresApproval && record.state == .active &&
      record.approval.isNone) = false := by
    rw [Bool.and_eq_false_imp, Bool.and_eq_true]
    rintro ⟨hkind, hstate⟩
    have hsome := h.approved hkind (by simpa using hstate)
    simpa [Option.isSome_iff_ne_none] using hsome
  rw [MemoryRecord.new, if_neg (ne_of_gt h.revision), if_neg (not_lt.mpr h.updated)]
  simp [hlast, hpinned, hplaced, happroved]

end MemoryRecord

/-! ## What a caller is shown -/

structure MemoryInspection where
  record : MemoryRecord
  sources : List MemoryProvenance
  approvals : List MemoryApprovalEvidence
deriving DecidableEq

def MemoryInspection.new (record : MemoryRecord) (sources : List MemoryProvenance)
    (approvals : List MemoryApprovalEvidence) : Except RuntimeError MemoryInspection :=
  if sources.isEmpty then .error (memoryError "memory inspection requires provenance")
  else if sources.getLast? ≠ some record.draft.provenance then
    .error (memoryError "memory inspection latest provenance does not match record")
  else if record.approval.any fun approval => approvals.getLast? ≠ some approval then
    .error (memoryError "memory inspection current approval does not match approval history")
  else .ok ⟨record, sources, approvals⟩

end ConversationRuntime
