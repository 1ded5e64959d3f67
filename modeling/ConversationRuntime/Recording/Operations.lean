import ConversationRuntime.Recording.Recorder

/-! # Recorder operations

The public operations of the session recorder, each as the source runs it: an
early return keeps every change made before it.
-/

namespace ConversationRuntime

open Foundation FrameProvenance

namespace SessionRecorder

open Fallible

variable (env : Environment)

/-! ## Safety limits -/

/-- What the guard says about the write just made. -/
def observeLimits : Option AudioFrame → Recording (List LimitNotice)
  | some frame => do
    let free ← ask env.freeDiskBytes
    let recorder ← read
    let (notices, safety) := recorder.safety.observe {
      mediaMs := recorder.mediaDurationMs
      bytes := recorder.file.writtenBytes
      frameMs := frameDurationMs frame
      quiet := frameIsQuiet frame } free
    update fun recorder => { recorder with safety := safety }
    return notices
  | none => do
    let recorder ← read
    return recorder.safety.observeWrite recorder.file.writtenBytes

/-- Write the closing chunk. -/
def appendEnded : Recording Unit := do
  let atMs ← elapsedMs env
  append env (endedRecord atMs)
  update fun recorder => { recorder with ended := true }

/-- Apply the limits after a successful write. A stop appends the closing chunk
first, so a stop whose chunk could not be written is not reported. -/
def enforceLimits (frame : Option AudioFrame) : Recording Unit := do
  let notices ← observeLimits env frame
  onlyIf (anyStopped notices) (appendEnded env)
  update fun recorder => { recorder with
    limitNotices := recorder.limitNotices ++ notices
    produced := recorder.produced ++ notices }

def takeLimitNotices : Recording (List LimitNotice) := do
  let recorder ← read
  update fun recorder => { recorder with limitNotices := [] }
  return recorder.limitNotices

/-! ## Marking the recorder incomplete -/

def markIncompleteState (recorder : SessionRecorder) : SessionRecorder :=
  if recorder.recordingFailed then recorder
  else
    let failure : RecordingGap := ⟨recorder.mediaDurationMs, none, recordingFailureReason⟩
    { recorder with
      recordingFailed := true
      gaps :=
        if recorder.gaps.length < maxRecordingGaps then recorder.gaps ++ [failure]
        else mapLast (fun _ => failure) recorder.gaps }

def markIncomplete : Recording Unit := update markIncompleteState

/-! ## Recording frames -/

/-- Take the first frame's format, or check a later frame's against it. Answers
whether the recorder had media before this frame. -/
def adoptFormat (format : PcmFormat) : Recording Bool := do
  let recorder ← read
  match recorder.format with
  | some existing =>
    require (existing = format) (adapterError "recording capture format changed mid-session")
    return true
  | none =>
    update fun recorder => { recorder with format := some format }
    return false

/-- Charge a closed gap of `length` milliseconds to the timeline. -/
def chargeGap (length : Nat) : Recording Unit := do
  let recorder ← read
  match recorder.timingBudget with
  | none => pure ()
  | some _ =>
    let total ← lift (orError recoveryError (checkedAdd recorder.timedGapMs length))
    update fun recorder => { recorder with timedGapMs := total }

/-- A gap between two frames occupies its real length on the timeline; a gap
before any frame extends nothing. -/
def chargeGapAfterMedia (hadMedia : Bool) (length : Nat) : Recording Unit :=
  onlyIf hadMedia do
    chargeGap length
    update fun recorder => { recorder with mediaMs := saturatingAdd recorder.mediaMs length }

/-- The frame at `atMs` closes a gap that is still open. -/
def closeOpenGap (atMs : UInt64) (hadMedia : Bool) : Recording Unit := do
  let recorder ← read
  match recorder.openGapAtMs with
  | none => pure ()
  | some openedAtMs =>
    append env (gapEndedRecord atMs)
    update fun recorder => { recorder with openGapAtMs := none }
    chargeGapAfterMedia hadMedia (atMs.toNat - openedAtMs.toNat)
    update fun recorder => { recorder with
      gaps := mapLast (fun gap => { gap with endedAtMs := some recorder.mediaMs }) recorder.gaps }

/-- Charge a timing record to the budget. The first record that does not fit
exhausts it for good, and the file says so. -/
def admitTiming (bytes : Nat) : Recording Bool := do
  let recorder ← read
  match recorder.timingBudget with
  | none => return false
  | some budget =>
    if budget.exhausted then return false
    else if budget.full bytes then
      update fun recorder => { recorder with
        timingBudget := some { budget with exhausted := true } }
      append env alignmentLimitRecord
      return false
    else
      update fun recorder => { recorder with
        timingBudget := some
          { budget with records := budget.records + 1, bytes := budget.bytes + bytes } }
      return true

/-- The timing a timed frame is recorded with: none once the budget is spent. -/
def admitFrameTiming (frame : AudioFrame) : Recording (Option Bytes) :=
  match frame.captureTiming with
  | none => return none
  | some timing => do
    let encoded ← lift (orElse recoveryError timing.frame.encode)
    let admitted ← admitTiming env captureTimingBytes
    return if admitted then some encoded else none

/-- Encoding never fails: a frame's timing was validated when it was attached. -/
theorem admitFrameTiming_eq (frame : AudioFrame) : admitFrameTiming env frame =
    (if frame.captureTiming.isSome then admitTiming env captureTimingBytes else pure false) >>=
      fun admitted => pure ((frame.provenanceIf admitted).map layout) := by
  unfold admitFrameTiming
  cases htiming : frame.captureTiming with
  | none => rfl
  | some timing =>
    have hencode : timing.frame.encode = .ok timing.frame.layout := by
      rw [encode, validate_of_validatePcm (frame.timing_valid timing (by simp [htiming]))]
      rfl
    dsimp only
    rw [hencode]
    funext recorder
    rw [bind_of_ok (show lift (orElse recoveryError (.ok timing.frame.layout)) recorder =
      (.ok timing.frame.layout, recorder) from rfl)]
    have hvalue : ∀ admitted : Bool, (if admitted then some timing.frame.layout else none) =
        (frame.provenanceIf admitted).map layout := by
      intro admitted
      cases admitted <;> simp [AudioFrame.provenanceIf, htiming]
    simp only [Option.isSome_some, if_true, hvalue]

def recordTimedFrame (frame : AudioFrame) (atMs : UInt64) : Recording Unit := do
  let timing ← admitFrameTiming env frame
  let recorder ← read
  let samples := frame.bytes.length / frame.format.frameAlignmentBytes
  let total ← lift (orError recoveryError (checkedAdd recorder.timedSamples samples))
  let duration ← lift (exactMediaMs total frame.format.sampleRateHz recorder.timedGapMs)
  append env (timedFrameRecord atMs frame.format timing frame.bytes)
  update fun recorder => { recorder with timedSamples := total, mediaMs := duration }

def recordLegacyFrame (frame : AudioFrame) (atMs : UInt64) : Recording Unit := do
  append env (frameRecord atMs frame)
  update fun recorder => { recorder with
    mediaMs := saturatingAdd recorder.mediaMs (frameDurationMs frame) }

/-- Record one capture frame. -/
def recordFrame (frame : AudioFrame) : Recording Unit := do
  let hadMedia ← adoptFormat frame.format
  let atMs ← elapsedMs env
  closeOpenGap env atMs hadMedia
  let recorder ← read
  match recorder.timingBudget with
  | some _ =>
    recordTimedFrame env frame atMs
    enforceLimits env (some frame)
  | none =>
    recordLegacyFrame env frame atMs
    enforceLimits env (some frame)

/-! ## Gaps, metadata and boundaries -/

def openGap (gaps : List RecordingGap) (mediaMs : Nat) (reason : String) : List RecordingGap :=
  if gaps.length < maxRecordingGaps then gaps ++ [⟨mediaMs, none, reason⟩]
  else mapLast (fun gap => { gap with endedAtMs := none }) gaps

/-- Record a break in the capture bridge as a gap; the next frame closes it. -/
def recordCaptureGap : Recording Unit := do
  let recorder ← read
  match recorder.openGapAtMs with
  | some _ => pure ()
  | none =>
    let atMs ← elapsedMs env
    append env (gapStartedRecord atMs captureDiscontinuityReason)
    update fun recorder => { recorder with
      openGapAtMs := some atMs
      gaps := openGap recorder.gaps recorder.mediaMs captureDiscontinuityReason }
    enforceLimits env none

/-- Append a metadata record if the budget has room for it. -/
def appendMetadata (record : Bytes) : Recording Unit := do
  let admitted ← admitTiming env (record.length - 1)
  onlyIf admitted (append env record)

def recordCaptureMetadata (metadata : CaptureMetadata) : Recording Unit := do
  let recorder ← read
  require (recorder.timingBudget.isSome = true)
    (invalidStateError "legacy recording does not accept timing")
  let record ← lift (metadataRecord metadata)
  appendMetadata env record
  enforceLimits env none

/-- Whether the recorder stands exactly at a producer boundary. -/
def matchesBoundary (recorder : SessionRecorder) (boundary : CaptureFinishBoundary)
    (validation : TimedValidation) : Bool :=
  boundary.sessionId == recorder.identity.sessionId && !recorder.recordingFailed &&
    !recorder.file.capabilityPoisoned && !recorder.ended && recorder.summary.isNone &&
    recorder.fileOpen && recorder.timingBudget.any (fun budget => !budget.exhausted) &&
    !validation.exhausted &&
    validation.epoch.any (fun epoch => epoch.captureEpoch == boundary.captureEpoch) &&
    validation.frameBoundary == boundary.frame.map (fun frame => (frame.1, frame.2.toNat)) &&
    validation.pair.any (fun pair => pair.sequence == boundary.finalClockPairSequence)

/-- Confirm and flush the final timed-capture boundary without appending. -/
def confirmCaptureBoundary (boundary : CaptureFinishBoundary) : Recording Unit := do
  let recorder ← read
  let validation ← lift (orError recoveryError recorder.timedValidation)
  require (matchesBoundary recorder boundary validation = true) recoveryError
  onFile (update fun file => { file with capabilityPoisoned := true })
  let flushed ← onFile (SealedFile.sinkFlush env)
  require (flushed = true) (adapterError "recording file could not be flushed")
  onFile (update fun file => { file with capabilityPoisoned := false })

theorem open_of_matchesBoundary {recorder : SessionRecorder} {boundary : CaptureFinishBoundary}
    {validation : TimedValidation} (h : matchesBoundary recorder boundary validation = true) :
    recorder.file.capabilityPoisoned = false ∧ recorder.ended = false := by
  simp only [matchesBoundary, Bool.and_eq_true, Bool.not_eq_true'] at h
  exact ⟨h.1.1.1.1.1.1.1.1.2, h.1.1.1.1.1.1.1.2⟩

/-- Confirming changes nothing, or only moves on the surroundings, or leaves
the file poisoned after a failed flush. -/
theorem confirmCaptureBoundary_reached (boundary : CaptureFinishBoundary)
    (recorder : SessionRecorder) :
    (confirmCaptureBoundary env boundary recorder).2 = recorder ∨
    ∃ poisoned, recorder.file.capabilityPoisoned = false ∧ recorder.ended = false ∧
      (confirmCaptureBoundary env boundary recorder).2 = { recorder with
        file := { recorder.file with
          capabilityPoisoned := poisoned, tick := recorder.file.tick + 1 } } := by
  unfold confirmCaptureBoundary
  rw [read_bind]
  cases hvalidation : recorder.timedValidation with
  | none => exact .inl rfl
  | some validation =>
    by_cases hmatches : matchesBoundary recorder boundary validation = true
    swap
    · left
      simp [bind_apply, orError, lift, require, hmatches]
    obtain ⟨hclean, hended⟩ := open_of_matchesBoundary hmatches
    refine .inr ⟨env.flushFails recorder.file.tick, hclean, hended, ?_⟩
    cases hfails : env.flushFails recorder.file.tick with
    | true | false =>
      simp [bind_apply, orError, lift, require, hmatches, onFile, update,
        SealedFile.sinkFlush_apply, hfails, hvalidation]

/-! ## Finalizing -/

/-- An incomplete recorder says so inside the file, before the closing chunk. -/
def recordFailure : Recording Unit := do
  let recorder ← read
  onlyIf (recorder.isIncomplete && !recorder.failureRecorded) do
    let atMs ← elapsedMs env
    append env (gapStartedRecord atMs recordingFailureReason)
    update fun recorder => { recorder with failureRecorded := true }

def closeRecording : Recording Unit := do
  let recorder ← read
  onlyIf (!recorder.ended) do
    recordFailure env
    appendEnded env

/-- Flush and sync the file while it is open. -/
def syncFile : Recording Unit := do
  let recorder ← read
  onlyIf recorder.fileOpen do
    let flushed ← onFile (SealedFile.sinkFlush env)
    require (flushed = true) (adapterError "recording file could not be flushed")
    let fails ← ask env.syncFails
    require (fails = false) (adapterError "recording file could not be flushed")

/-- The digest of the bytes in the file, in hexadecimal. -/
def digestHex (bytes : Bytes) : String := lowercaseHex (env.sha256 bytes)

/-- The file stays within what recovery admits, and can be read. -/
def admitRecoverySource : Recording Unit := do
  let fails ← ask env.readFails
  require (fails = false) recoveryError
  let recorder ← read
  require (recorder.file.content.length ≤ maxFinalizedRecordingBytes) recoveryError

/-- Open the file to hash it. Only the recovery path bounds its extent. -/
def openSource (recovery : Bool) : Recording Unit :=
  if recovery then admitRecoverySource env
  else do
    let fails ← ask env.readFails
    require (fails = false) (adapterError "recording could not be read")

/-- Read the file back and hash it. -/
def fileDigest (recovery : Bool) : Recording String := do
  openSource env recovery
  let fails ← ask env.readFails
  require (fails = false) recoveryError
  let recorder ← read
  return digestHex env recorder.file.content

/-- What the recorder states about itself, given the file's digest. -/
def summaryWith (recorder : SessionRecorder) (sha256 : String) : RecordingSummary where
  recordingHandle := recorder.identity.handle
  encryptedPath := recordingPath env.directory recorder.identity.handle
  sha256 := sha256
  durationMs := recorder.mediaDurationMs
  format := formatLabel recorder.format
  keyId := env.key.keyId
  gaps := recorder.reportedGaps

/-- Close the file and keep its summary. Every earlier step is retried by the
next call when it fails; nothing is torn down before all have succeeded. -/
def finalizeUsing (recovery : Bool) : Recording RecordingSummary := do
  let recorder ← read
  match recorder.summary with
  | some summary => return summary
  | none =>
    closeRecording env
    syncFile env
    let sha256 ← fileDigest env recovery
    let recorder ← read
    let summary := summaryWith env recorder sha256
    update fun recorder => { recorder with fileOpen := false, summary := some summary }
    return summary

def finalize : Recording RecordingSummary := finalizeUsing env false

/-- Finalize durably, then issue the capability for exactly the sealed bytes. -/
def finalizeWithCapability : Recording (RecordingSummary × FinalizedRecordingCapability) := do
  let recorder ← read
  require (recorder.isIncomplete = false) recoveryError
  admitRecoverySource env
  let summary ← finalizeUsing env true
  let recorder ← read
  require (summary.sha256 = digestHex env recorder.file.sealedBytes) recoveryError
  let capability ← lift (env.key.authorize {
    sourceSessionId := recorder.identity.sessionId
    recordingHandle := summary.recordingHandle
    sha256 := summary.sha256
    keyId := summary.keyId
    authorization := "" })
  return (summary, capability)

/-! ## Runs -/

/-- A call on the recorder. -/
inductive Operation where
  | recordFrame (frame : AudioFrame)
  | recordCaptureGap
  | recordCaptureMetadata (metadata : CaptureMetadata)
  | confirmCaptureBoundary (boundary : CaptureFinishBoundary)
  | markIncomplete
  | takeLimitNotices
  | finalize
  | finalizeWithCapability

/-- Run an operation, keeping only whether it failed. -/
def perform : Operation → Recording Unit
  | .recordFrame frame => recordFrame env frame
  | .recordCaptureGap => recordCaptureGap env
  | .recordCaptureMetadata metadata => recordCaptureMetadata env metadata
  | .confirmCaptureBoundary boundary => confirmCaptureBoundary env boundary
  | .markIncomplete => markIncomplete
  | .takeLimitNotices => do
    let _ ← takeLimitNotices
  | .finalize => do
    let _ ← finalize env
  | .finalizeWithCapability => do
    let _ ← finalizeWithCapability env

/-- The recorder after one operation, whether it succeeded or not. -/
def step (recorder : SessionRecorder) (operation : Operation) : SessionRecorder :=
  (perform env operation recorder).2

/-- The recorder after a run of operations. -/
def run (recorder : SessionRecorder) (operations : List Operation) : SessionRecorder :=
  operations.foldl (step env) recorder

theorem run_append (recorder : SessionRecorder) (before after : List Operation) :
    run env recorder (before ++ after) = run env (run env recorder before) after :=
  List.foldl_append

end SessionRecorder

end ConversationRuntime
