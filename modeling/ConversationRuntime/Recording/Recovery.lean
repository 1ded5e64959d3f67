import ConversationRuntime.Recording.Reader
import ConversationRuntime.Recording.Timeline
import ConversationRuntime.Recording.Validation

/-! # Recovering a finalized recording

A recording is trusted again only after one authenticated walk over all its
chunks: they must be ordered, of one format, with alternating gaps and a single
closing chunk at the end. Preflight checks a capability against the file;
adoption issues one for a file that was closed on disk.
-/

namespace ConversationRuntime

open Foundation IdealAead

/-! ## The walk -/

/-- What the walk over a file knows between two chunks. -/
structure Walk where
  ended : Bool
  /-- The recorder's failure record was met; the walk stops there. -/
  incomplete : Bool
  format : Option PcmFormat
  gap : Option UInt64
  lastAtMs : UInt64
  validation : TimedValidation
  timeline : MediaTimeline
deriving DecidableEq

namespace Walk

def empty : Walk := ⟨false, false, none, none, 0, .empty, .empty⟩

/-- A chunk may not lie before the one in front of it. -/
def moveTo (walk : Walk) (atMs : UInt64) : Except RuntimeError Walk :=
  if atMs < walk.lastAtMs then .error recoveryError else .ok { walk with lastAtMs := atMs }

/-- Frames stand outside gaps, are not empty and share one format. -/
def admitsFrame (walk : Walk) (format : PcmFormat) (bytes : Bytes) : Prop :=
  walk.gap = none ∧ (∀ prior ∈ walk.format, prior = format) ∧ bytes ≠ []

instance (walk : Walk) (format : PcmFormat) (bytes : Bytes) :
    Decidable (walk.admitsFrame format bytes) :=
  inferInstanceAs (Decidable (_ ∧ _ ∧ _))

def timedFrame (walk : Walk) (atMs : UInt64) (format : PcmFormat) (bytes : Bytes) :
    Except RuntimeError Walk :=
  if walk.admitsFrame format bytes then do
    let timeline ← walk.timeline.timedFrame format bytes.length
    moveTo { walk with format := some format, timeline := timeline } atMs
  else .error recoveryError

def frame (walk : Walk) (atMs : UInt64) (sampleRateHz : UInt32) (channels : UInt16)
    (sampleFormat : PcmSampleFormat) (bytes : Bytes) : Except RuntimeError Walk := do
  let format ← orElse recoveryError (PcmFormat.new sampleRateHz channels sampleFormat)
  if walk.admitsFrame format bytes ∧ format.frameAlignmentBytes ∣ bytes.length then
    moveTo { walk with
      format := some format, timeline := walk.timeline.frame format bytes.length } atMs
  else .error recoveryError

def gapStarted (walk : Walk) (atMs : UInt64) (reason : String) : Except RuntimeError Walk :=
  if reason = recordingFailureReason then .ok { walk with incomplete := true }
  else if walk.gap.isSome ∨ reason ≠ captureDiscontinuityReason then .error recoveryError
  else moveTo { walk with gap := some atMs, timeline := walk.timeline.gapStarted atMs } atMs

def gapEnded (walk : Walk) (atMs : UInt64) (timed : Bool) : Except RuntimeError Walk :=
  if walk.gap.isNone then .error recoveryError
  else do
    let timeline ← walk.timeline.gapEnded atMs timed
    moveTo { walk with gap := none, timeline := timeline } atMs

/-- Where a chunk belongs on the timeline. -/
def place (timed : Bool) (walk : Walk) : RecordedChunk → Except RuntimeError Walk
  | .timedFrame atMs format _ bytes => walk.timedFrame atMs format bytes
  | .timingPolicy => .ok walk
  | .captureMetadata _ => .ok walk
  | .alignmentLimit => .ok walk
  | .frame atMs _ sampleRateHz channels sampleFormat bytes =>
    walk.frame atMs sampleRateHz channels sampleFormat bytes
  | .gapStarted atMs reason => walk.gapStarted atMs reason
  | .gapEnded atMs => walk.gapEnded atMs timed
  -- A capture discontinuity may legitimately remain open at finalization.
  | .ended atMs => moveTo { walk with ended := true } atMs

/-- Only timed files carry a timing state. -/
def validate (timed : Bool) (walk : Walk) (chunk : RecordedChunk) : Except RuntimeError Walk :=
  if timed then do
    let validation ← walk.validation.accept chunk
    return { walk with validation := validation }
  else .ok walk

/-- One chunk; nothing may follow the closing one. -/
def accept (timed : Bool) (walk : Walk) (chunk : RecordedChunk) : Except RuntimeError Walk :=
  if walk.ended then .error recoveryError
  else do
    let validated ← walk.validate timed chunk
    validated.place timed chunk

/-- All chunks in order, up to a failure record. -/
def acceptAll (timed : Bool) : Walk → List RecordedChunk → Except RuntimeError Walk
  | walk, [] => .ok walk
  | walk, chunk :: chunks => do
    let next ← walk.accept timed chunk
    if next.incomplete then return next else acceptAll timed next chunks

/-! ### Steps of the walk -/

variable {walk next : Walk} {timed : Bool} {chunk : RecordedChunk}

theorem moveTo_of_le {atMs : UInt64} (hle : walk.lastAtMs ≤ atMs) :
    walk.moveTo atMs = .ok { walk with lastAtMs := atMs } :=
  if_neg (UInt64.not_lt.mpr hle)

variable {reached : Walk} {chunks : List RecordedChunk}

/-- A walk that ends without a failure record went on behind each chunk. -/
theorem acceptAll_cons (h : walk.acceptAll timed (chunk :: chunks) = .ok reached)
    (hgoing : reached.incomplete = false) : ∃ next, walk.accept timed chunk = .ok next ∧
      next.incomplete = false ∧ next.acceptAll timed chunks = .ok reached := by
  obtain ⟨next, hnext, hrest⟩ := bind_eq_ok h
  cases hstopped : next.incomplete with
  | true =>
    rw [if_pos hstopped] at hrest
    cases hrest
    cases hstopped.symm.trans hgoing
  | false =>
    rw [hstopped] at hrest
    exact ⟨next, hnext, hstopped, hrest⟩

/-- A walk that has not met a failure record goes on with the next chunk. -/
theorem acceptAll_snoc (hreached : walk.acceptAll timed chunks = .ok reached)
    (hgoing : reached.incomplete = false) (hnext : reached.accept timed chunk = .ok next) :
    walk.acceptAll timed (chunks ++ [chunk]) = .ok next := by
  induction chunks generalizing walk with
  | nil =>
    cases hreached
    rw [List.nil_append, acceptAll, hnext]
    change (if next.incomplete then Except.ok next else Except.ok next) = _
    rw [ite_self]
  | cons first chunks ih =>
    obtain ⟨middle, hmiddle, hmore, hrest⟩ := acceptAll_cons hreached hgoing
    rw [List.cons_append, acceptAll, hmiddle]
    change (if middle.incomplete then Except.ok middle else _) = _
    rw [hmore]
    exact ih hrest

theorem moveTo_eq_ok {atMs : UInt64} (h : walk.moveTo atMs = .ok next) :
    next = { walk with lastAtMs := atMs } := by
  unfold moveTo at h
  split at h
  · cases h
  · cases h
    rfl

/-- Placing a chunk leaves the validation, and this is what it does to the two flags. -/
theorem place_flags (h : walk.place timed chunk = .ok next) :
    next.validation = walk.validation ∧ (next.ended = walk.ended ∨ ∃ atMs, chunk = .ended atMs) ∧
      (next.incomplete = false → ∀ atMs, chunk ≠ .gapStarted atMs recordingFailureReason) := by
  cases chunk with
  | timedFrame atMs format timing bytes =>
    simp only [place, timedFrame] at h
    split at h
    · obtain ⟨timeline, -, h⟩ := bind_eq_ok h
      rw [moveTo_eq_ok h]
      exact ⟨rfl, .inl rfl, by simp⟩
    · cases h
  | timingPolicy | captureMetadata metadata | alignmentLimit =>
    cases h
    exact ⟨rfl, .inl rfl, by simp⟩
  | frame atMs sequence sampleRateHz channels sampleFormat bytes =>
    obtain ⟨format, -, h⟩ := bind_eq_ok h
    split at h
    · rw [moveTo_eq_ok h]
      exact ⟨rfl, .inl rfl, by simp⟩
    · cases h
  | gapStarted atMs reason =>
    simp only [place, gapStarted] at h
    split at h
    · cases h
      exact ⟨rfl, .inl rfl, nofun⟩
    next hother =>
      split at h
      · cases h
      · rw [moveTo_eq_ok h]
        exact ⟨rfl, .inl rfl, by simp [hother]⟩
  | gapEnded atMs =>
    simp only [place, gapEnded] at h
    split at h
    · cases h
    · obtain ⟨timeline, -, h⟩ := bind_eq_ok h
      rw [moveTo_eq_ok h]
      exact ⟨rfl, .inl rfl, by simp⟩
  | ended atMs =>
    rw [moveTo_eq_ok h]
    exact ⟨rfl, .inr ⟨atMs, rfl⟩, by simp⟩

/-- An accepted chunk is validated first, in a timed file, and then placed. -/
theorem accept_eq_ok (h : walk.accept timed chunk = .ok next) : walk.ended = false ∧ ∃ validation,
      (timed = true → walk.validation.accept chunk = .ok validation) ∧
        place timed { walk with validation := validation } chunk = .ok next := by
  unfold accept at h
  split at h
  · cases h
  next hopen =>
    refine ⟨Bool.eq_false_iff.mpr hopen, ?_⟩
    obtain ⟨validated, hvalidated, hplaced⟩ := bind_eq_ok h
    unfold validate at hvalidated
    split at hvalidated
    · obtain ⟨validation, hvalidation, hdone⟩ := bind_eq_ok hvalidated
      cases hdone
      exact ⟨validation, fun _ => hvalidation, hplaced⟩
    next huntimed =>
      cases hvalidated
      exact ⟨walk.validation, fun htimed => absurd htimed huntimed, hplaced⟩

/-- What accepting a chunk does to the two flags. -/
theorem accept_flags (h : walk.accept timed chunk = .ok next) :
    walk.ended = false ∧ (next.ended = true → ∃ atMs, chunk = .ended atMs) ∧
      (next.incomplete = false → ∀ atMs, chunk ≠ .gapStarted atMs recordingFailureReason) := by
  obtain ⟨hopen, validation, -, hplace⟩ := accept_eq_ok h
  obtain ⟨-, hplaced, hfailure⟩ := place_flags hplace
  refine ⟨hopen, fun hclosed => ?_, hfailure⟩
  rcases hplaced with hkept | hclosing
  · rw [hkept, hopen] at hclosed
    cases hclosed
  · exact hclosing

/-- A walk that ends closed has met the closing chunk last, and no failure
record on the way. -/
theorem closing_of_acceptAll (h : walk.acceptAll timed chunks = .ok reached)
    (hopen : walk.ended = false) (hended : reached.ended = true)
    (hgoing : reached.incomplete = false) :
    (∃ before atMs, chunks = before ++ [.ended atMs]) ∧
      ∀ chunk ∈ chunks, ∀ atMs, chunk ≠ .gapStarted atMs recordingFailureReason := by
  induction chunks generalizing walk with
  | nil =>
    cases h
    rw [hopen] at hended
    cases hended
  | cons chunk chunks ih =>
    obtain ⟨next, hnext, hmore, hrest⟩ := acceptAll_cons h hgoing
    obtain ⟨-, hclosing, hfailure⟩ := accept_flags hnext
    have hclean := hfailure hmore
    by_cases hdone : next.ended = true
    · -- Nothing is accepted behind the closing chunk.
      obtain ⟨atMs, rfl⟩ := hclosing hdone
      cases chunks with
      | nil => exact ⟨⟨[], atMs, rfl⟩, by simp⟩
      | cons other others =>
        obtain ⟨after, hafter, -⟩ := bind_eq_ok hrest
        cases hdone.symm.trans (accept_flags hafter).1
    · obtain ⟨⟨before, atMs, rfl⟩, hothers⟩ := ih hrest (Bool.eq_false_iff.mpr hdone)
      exact ⟨⟨chunk :: before, atMs, rfl⟩, List.forall_mem_cons.mpr ⟨hclean, hothers⟩⟩

end Walk

/-- What one authenticated walk over a recording established. -/
structure CompletedWalk where
  ended : Bool
  incomplete : Bool
  timeline : MediaTimeline
  /-- Whether the reader then stood at a torn chunk. -/
  truncated : Bool
deriving DecidableEq

/-- Authenticate and order every chunk. A missing closing chunk and a torn tail
are reported for the caller to judge. -/
def walkCompletedChunks (calls : List SealCall) (reader : RecordedChunks) :
    Except RuntimeError CompletedWalk := do
  let readout := reader.readout calls
  let walk ← Walk.empty.acceptAll (isTimedHeader reader.header) readout.chunks
  if walk.incomplete then return ⟨false, true, walk.timeline, false⟩
  else do
    let truncated ← readout.ending
    return ⟨walk.ended, false, walk.timeline, truncated⟩

/-! ## Preflight and adoption -/

/-- Where recovery finds recordings and the key. `calls` are the calls made
under that key, which the ideal cipher opens against. -/
structure RecoverySettings where
  directory : String
  key : Except RuntimeError RecordingKey
  sha256 : Bytes → Bytes
  stored : String → Option Bytes
  calls : List SealCall

def recoveryCancelled : RuntimeError := invalidStateError "recording recovery was cancelled"

def checkRecoveryCancellation (cancelled : Bool) : Except RuntimeError Unit :=
  if cancelled then .error recoveryCancelled else .ok ()

/-- A private copy of a recording, read strictly from its first chunk. -/
structure Snapshot where
  content : Bytes
  sessionId : SessionId
  sha256 : String

namespace Snapshot

def reader (snapshot : Snapshot) : RecordedChunks := .start snapshot.content true

def header (snapshot : Snapshot) : Bytes := snapshot.content.take headerLen

end Snapshot

variable (settings : RecoverySettings) (cancelled : Bool)

/-- Copy the file of a handle and read its header. -/
def snapshotRecording (handle : String) : Except RuntimeError Snapshot := do
  let content ← orError recoveryError (settings.stored handle)
  if maxFinalizedRecordingBytes < content.length then .error recoveryError
  else do
    checkRecoveryCancellation cancelled
    if content.length < headerLen then .error recoveryError
    else do
      let sessionId ← readHeader (content.take headerLen)
      return ⟨content, sessionId, lowercaseHex (settings.sha256 content)⟩

/-- The snapshot itself must have the digest, and is read from its start. -/
def rewindVerifiedSnapshot (snapshot : Snapshot) (sha256 : String) :
    Except RuntimeError RecordedChunks := do
  checkRecoveryCancellation cancelled
  if lowercaseHex (settings.sha256 snapshot.content) ≠ sha256 then .error recoveryError
  else .ok snapshot.reader

def validateCompletedChunks (snapshot : Snapshot) : Except RuntimeError Unit := do
  checkRecoveryCancellation cancelled
  let walk ← walkCompletedChunks settings.calls snapshot.reader
  if walk.incomplete ∨ ¬ walk.ended ∨ walk.truncated then .error recoveryError else .ok ()

def snapshotFinalizedRecording (capability : FinalizedRecordingCapability) :
    Except RuntimeError Snapshot := do
  checkRecoveryCancellation cancelled
  let key ← settings.key
  key.verify capability
  let binding ← orError recoveryError (decodeHandle capability.recordingHandle)
  let snapshot ← snapshotRecording settings cancelled capability.recordingHandle
  if snapshot.sha256 ≠ capability.sha256 ∨ snapshot.sessionId ≠ capability.sourceSessionId ∨
      slice snapshot.header 28 16 ≠ binding then
    .error recoveryError
  else .ok snapshot

def preflightFinalizedRecording (capability : FinalizedRecordingCapability) :
    Except RuntimeError RecordedChunks := do
  let snapshot ← snapshotFinalizedRecording settings cancelled capability
  validateCompletedChunks settings cancelled snapshot
  rewindVerifiedSnapshot settings cancelled snapshot capability.sha256

/-- Why a closed recording could not be adopted. -/
inductive RecordingAdoptionError where
  | notFound
  | unreadable
  | notClosed
  | incomplete
  | identityMismatch
  | unavailable (error : RuntimeError)
deriving DecidableEq

/-- The refusal of a failed step, unless the adoption was cancelled. -/
def unavailableOr {α : Type} (refusal : RecordingAdoptionError) :
    Except RuntimeError α → Except RecordingAdoptionError α
  | .ok value => .ok value
  | .error error => .error (if cancelled then .unavailable error else refusal)

def orUnavailable {α : Type} : Except RuntimeError α → Except RecordingAdoptionError α
  | .ok value => .ok value
  | .error error => .error (.unavailable error)

/-- Judge the walk, and check the snapshot once more. -/
def judgeWalk (snapshot : Snapshot) (walk : CompletedWalk) :
    Except RecordingAdoptionError Unit :=
  if walk.incomplete then .error .incomplete
  else if ¬ walk.ended then .error .notClosed
  else if walk.truncated then .error .unreadable
  else do
    let _ ← unavailableOr cancelled .unreadable
      (rewindVerifiedSnapshot settings cancelled snapshot snapshot.sha256)

/-- Issue the capability of a recording that was closed on disk. -/
def adoptClosedRecording (sourceSessionId : SessionId) (recordingHandle : String) :
    Except RecordingAdoptionError (RecordingSummary × FinalizedRecordingCapability) := do
  let binding ← orError .notFound (decodeHandle recordingHandle)
  orUnavailable (checkRecoveryCancellation cancelled)
  let key ← orUnavailable settings.key
  let _ ← orError .notFound (settings.stored recordingHandle)
  let snapshot ← unavailableOr cancelled .unreadable
    (snapshotRecording settings cancelled recordingHandle)
  if slice snapshot.header 28 16 ≠ binding ∨ snapshot.sessionId ≠ sourceSessionId then
    .error .identityMismatch
  else do
    let walk ← unavailableOr cancelled .unreadable
      (walkCompletedChunks settings.calls snapshot.reader)
    judgeWalk settings cancelled snapshot walk
    let summary :=
      walk.timeline.summary settings.directory recordingHandle snapshot.sha256 key.keyId
    let capability ← orUnavailable (key.authorize {
      sourceSessionId := snapshot.sessionId
      recordingHandle := summary.recordingHandle
      sha256 := summary.sha256
      keyId := summary.keyId
      authorization := "" })
    return (summary, capability)

/-! ## What was recovered -/

variable {settings cancelled}

theorem stored_of_snapshotRecording {handle : String} {snapshot : Snapshot}
    (h : snapshotRecording settings cancelled handle = .ok snapshot) :
    settings.stored handle = some snapshot.content ∧ headerLen ≤ snapshot.content.length := by
  obtain ⟨content, hcontent, h⟩ := bind_eq_ok h
  split at h
  · cases h
  obtain ⟨-, -, h⟩ := bind_eq_ok h
  split at h
  · cases h
  next hlength =>
    obtain ⟨sessionId, -, h⟩ := bind_eq_ok h
    cases h
    exact ⟨orError_eq_ok.mp hcontent, Nat.le_of_not_lt hlength⟩

/-- What was adopted had been walked to its closing chunk. -/
theorem walk_of_adoptClosedRecording {sourceSessionId : SessionId} {recordingHandle : String}
    {adopted : RecordingSummary × FinalizedRecordingCapability}
    (h : adoptClosedRecording settings cancelled sourceSessionId recordingHandle = .ok adopted) :
    ∃ content timeline, settings.stored recordingHandle = some content ∧
      headerLen ≤ content.length ∧
      walkCompletedChunks settings.calls (.start content true) =
        .ok ⟨true, false, timeline, false⟩ ∧
      adopted.1.durationMs = timeline.durationMs := by
  have hkept : ∀ {α : Type} {refusal : RecordingAdoptionError} {step : Except RuntimeError α}
      {value : α}, unavailableOr cancelled refusal step = .ok value → step = .ok value := by
    intro α refusal step value hstep
    cases step with
    | ok kept => simpa [unavailableOr] using hstep
    | error error => cases hstep
  obtain ⟨binding, -, h⟩ := bind_eq_ok h
  obtain ⟨-, -, h⟩ := bind_eq_ok h
  obtain ⟨key, -, h⟩ := bind_eq_ok h
  obtain ⟨-, -, h⟩ := bind_eq_ok h
  obtain ⟨snapshot, hsnapshot, h⟩ := bind_eq_ok h
  obtain ⟨hstored, hlength⟩ := stored_of_snapshotRecording (hkept hsnapshot)
  split at h
  · cases h
  obtain ⟨walk, hwalk, h⟩ := bind_eq_ok h
  obtain ⟨judged, hjudge, h⟩ := bind_eq_ok h
  obtain ⟨capability, -, h⟩ := bind_eq_ok h
  cases h
  refine ⟨snapshot.content, walk.timeline, hstored, hlength, ?_, rfl⟩
  rw [show RecordedChunks.start snapshot.content true = snapshot.reader from rfl, hkept hwalk]
  unfold judgeWalk at hjudge
  split at hjudge
  · cases hjudge
  next hcomplete =>
    split at hjudge
    · cases hjudge
    next hended =>
      split at hjudge
      · cases hjudge
      next hwhole =>
        obtain ⟨ended, incomplete, timeline, truncated⟩ := walk
        simp_all

/-- The chunks of a walk that reached the closing chunk. -/
theorem closing_of_walkCompletedChunks {calls : List SealCall} {reader : RecordedChunks}
    {timeline : MediaTimeline}
    (h : walkCompletedChunks calls reader = .ok ⟨true, false, timeline, false⟩) :
    (reader.readout calls).ending = .ok false ∧
      (∃ before atMs, (reader.readout calls).chunks = before ++ [.ended atMs]) ∧
      ∀ chunk ∈ (reader.readout calls).chunks, ∀ atMs,
        chunk ≠ .gapStarted atMs recordingFailureReason := by
  obtain ⟨walk, hwalk, h⟩ := bind_eq_ok h
  split at h
  · cases h
  next hcomplete =>
    obtain ⟨truncated, hending, h⟩ := bind_eq_ok h
    have hended : walk.ended = true := congrArg CompletedWalk.ended (Except.ok.inj h)
    have hwhole : truncated = false := congrArg CompletedWalk.truncated (Except.ok.inj h)
    rw [hwhole] at hending
    exact ⟨hending, Walk.closing_of_acceptAll hwalk rfl hended (Bool.eq_false_iff.mpr hcomplete)⟩

end ConversationRuntime
