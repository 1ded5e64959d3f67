import ConversationRuntime.Recording.Safety
import ConversationRuntime.Recording.SealedFile
import ConversationRuntime.Recording.Validation

/-! # The session recorder

The recorder's state and the way it appends a record. A timed recorder
validates each record before it is sealed; a finalized or closed one refuses
it. Everything that reaches the file goes through `append`.
-/

namespace ConversationRuntime

open Foundation

structure TimingBudget where
  records : Nat
  bytes : Nat
  maximumRecords : Nat
  maximumBytes : Nat
  exhausted : Bool
deriving DecidableEq

def TimingBudget.default : TimingBudget :=
  ⟨0, 0, maxRecordingTimingRecords, maxRecordingTimingBytes, false⟩

/-- Whether there is no room for one more record of `bytes` bytes. -/
def TimingBudget.full (budget : TimingBudget) (bytes : Nat) : Bool :=
  budget.maximumRecords ≤ budget.records ||
    (checkedAdd budget.bytes bytes).all (budget.maximumBytes < ·)

structure SessionRecorder where
  identity : RecordingIdentity
  /-- Whether the sink is still held. -/
  fileOpen : Bool
  /-- The sink's side: counter, digest, poisoning and the bytes written. -/
  file : SealedFile
  format : Option PcmFormat
  gaps : List RecordingGap
  openGapAtMs : Option UInt64
  mediaMs : Nat
  ended : Bool
  failureRecorded : Bool
  summary : Option RecordingSummary
  recordingFailed : Bool
  timingBudget : Option TimingBudget
  timedSamples : Nat
  timedGapMs : Nat
  timedValidation : Option TimedValidation
  safety : RecordingSafetyGuard
  limitNotices : List LimitNotice
  /-- Every limit notice ever reported, taken by the caller or not. -/
  produced : List LimitNotice

namespace SessionRecorder

abbrev Recording := Fallible SessionRecorder RuntimeError

open Fallible

/-- The recorder as `start_format` builds it, its header written. -/
def startFormat (identity : RecordingIdentity) (limits : RecordingLimits) : SessionRecorder where
  identity := identity
  fileOpen := true
  file := .start identity.header
  format := none
  gaps := []
  openGapAtMs := none
  mediaMs := 0
  ended := false
  failureRecorded := false
  summary := none
  recordingFailed := false
  timingBudget := if identity.timed then some .default else none
  timedSamples := 0
  timedGapMs := 0
  timedValidation := if identity.timed then some .empty else none
  safety := .new limits
  limitNotices := []
  produced := []

def header (recorder : SessionRecorder) : Bytes := recorder.identity.header

def isIncomplete (recorder : SessionRecorder) : Bool :=
  recorder.recordingFailed || recorder.file.capabilityPoisoned

/-- Zero when no frame was ever recorded. -/
def mediaDurationMs (recorder : SessionRecorder) : Nat :=
  if recorder.format.isSome then recorder.mediaMs else 0

def reportedGaps (recorder : SessionRecorder) : List RecordingGap :=
  clampedGaps recorder.gaps recorder.mediaDurationMs

variable (env : Environment)

/-- Run a program on the recorder's file. -/
def onFile {α : Type} (program : SealedFile.Writing α) : Recording α := fun recorder =>
  ((program recorder.file).1, { recorder with file := (program recorder.file).2 })

def ask {α : Type} (question : Nat → α) : Recording α := onFile (SealedFile.ask question)

def elapsedMs : Recording UInt64 := ask env.clockMs

/-- The validation state after a record, for recorders that keep one. -/
def validation (recorder : SessionRecorder) (record : Bytes) :
    Except RuntimeError (Option TimedValidation) :=
  match recorder.timedValidation with
  | none => .ok none
  | some state => do
    let chunk ← decodeChunk record
    let next ← state.accept chunk
    return some next

def append (record : Bytes) : Recording Unit := do
  let recorder ← read
  let timingState ← lift (recorder.validation record)
  require (recorder.fileOpen = true) (invalidStateError "recording is already finalized")
  require (recorder.ended = false) (invalidStateError "recording is closed")
  onFile (SealedFile.append env recorder.header record)
  update fun recorder => { recorder with timedValidation := timingState }

/-- A new recorder whose header is on disk. A timed one states its policy
first, and does not start when that fails. -/
def start (identity : RecordingIdentity) (limits : RecordingLimits) :
    Except RuntimeError SessionRecorder :=
  if identity.timed then
    match append env policyRecord (startFormat identity limits) with
    | (.ok (), recorder) => .ok recorder
    | (.error error, _) => .error error
  else .ok (startFormat identity limits)

/-! ## The outcomes of appending -/

variable (recorder : SessionRecorder) (record : Bytes)

/-- The recorder after a record was sealed and written whole. -/
def afterAppend (timing : Option TimedValidation) : SessionRecorder :=
  { recorder with
    file := recorder.file.afterAppend env recorder.header record
    timedValidation := timing }

inductive AppendOutcome : Except RuntimeError Unit × SessionRecorder → Prop
  | invalid {error : RuntimeError} (hinvalid : recorder.validation record = .error error) :
      AppendOutcome (.error error, recorder)
  | finalized (hfile : recorder.fileOpen = false) :
      AppendOutcome (.error (invalidStateError "recording is already finalized"), recorder)
  | closed (hended : recorder.ended = true) :
      AppendOutcome (.error (invalidStateError "recording is closed"), recorder)
  | failed {timing : Option TimedValidation} {error : RuntimeError} {file : SealedFile}
      (hvalid : recorder.validation record = .ok timing)
      (hfile : recorder.fileOpen = true) (hended : recorder.ended = false)
      (hfailure : SealedFile.AppendFailure env recorder.header record recorder.file error file) :
      AppendOutcome (.error error, { recorder with file := file })
  | appended {timing : Option TimedValidation} (hvalid : recorder.validation record = .ok timing)
      (hfile : recorder.fileOpen = true) (hended : recorder.ended = false)
      (hcounter : recorder.file.counter < u32Max)
      (hlength : record.length + 16 ≤ maxChunkCiphertextBytes) :
      AppendOutcome (.ok (), recorder.afterAppend env record timing)

theorem append_outcome : AppendOutcome env recorder record (append env record recorder) := by
  suffices h : Meets (append env record) recorder fun result reached =>
    AppendOutcome env recorder record (result, reached) from h
  refine .of_read (.of_lift (fun timing hvalid => .of_require (fun hfile => .of_require
    (fun hended => .bind ?_) ?_) ?_) ?_)
  · have happend := recorder.file.append_meets env recorder.header record
    unfold Meets onFile at *
    generalize SealedFile.append env recorder.header record recorder.file = ran at happend
    obtain ⟨error | _, file⟩ := ran
    · exact .failed hvalid hfile hended happend
    · obtain ⟨rfl, hcounter, hlength⟩ := happend
      exact .appended hvalid hfile hended hcounter hlength
  · exact fun hended => .closed (by simpa using hended)
  · exact fun hfile => .finalized (by simpa using hfile)
  · exact fun _ hinvalid => .invalid hinvalid

/-- What a successful append of `record` has checked. -/
structure Appends (recorder : SessionRecorder) (record : Bytes)
    (timing : Option TimedValidation) : Prop where
  valid : recorder.validation record = .ok timing
  fileOpen : recorder.fileOpen = true
  notEnded : recorder.ended = false
  counter : recorder.file.counter < u32Max
  length : record.length + 16 ≤ maxChunkCiphertextBytes

/-- Why an append of `record` is refused before anything is sealed. -/
def Refuses (recorder : SessionRecorder) (record : Bytes) : Prop :=
  (∃ error, recorder.validation record = .error error) ∨ recorder.fileOpen = false ∨
    recorder.ended = true

/-- The rule of appending: the record is in the file, or the recorder refuses it
unchanged, or the file has failed and is poisoned. -/
theorem append_rule {before : SessionRecorder → Prop} : Triple before (append env record)
    (fun _ reached => ∃ recorder timing, before recorder ∧ recorder.Appends record timing ∧
      reached = recorder.afterAppend env record timing)
    (fun error reached => ∃ recorder, before recorder ∧
      (reached = recorder ∧ recorder.Refuses record ∨
        ∃ file, recorder.fileOpen = true ∧ recorder.ended = false ∧
          SealedFile.AppendFailure env recorder.header record recorder.file error file ∧
          reached = { recorder with file := file })) := by
  refine .of_meets fun recorder hstate => ?_
  have houtcome := append_outcome env recorder record
  unfold Meets
  generalize append env record recorder = ran at houtcome
  cases houtcome with
  | appended hvalid hfile hended hcounter hlength =>
    exact ⟨recorder, _, hstate, ⟨hvalid, hfile, hended, hcounter, hlength⟩, rfl⟩
  | invalid hinvalid => exact ⟨recorder, hstate, .inl ⟨rfl, .inl ⟨_, hinvalid⟩⟩⟩
  | finalized hfile => exact ⟨recorder, hstate, .inl ⟨rfl, .inr (.inl hfile)⟩⟩
  | closed hended => exact ⟨recorder, hstate, .inl ⟨rfl, .inr (.inr hended)⟩⟩
  | failed _ hfile hended hfailure =>
    exact ⟨recorder, hstate, .inr ⟨_, hfile, hended, hfailure, rfl⟩⟩

end SessionRecorder

end ConversationRuntime
