import ConversationRuntime.Recording.Layout
import ConversationRuntime.Recording.Recovery

/-! # Windows of a recording

A finished recording is handed to a diarizer in bounded windows of its audio,
each placed on the media timeline. The reader keeps a timeline of its own; on
every recording the walk accepts it agrees with the one the walk rebuilds.
-/

namespace ConversationRuntime

open Foundation Fallible

/-- The most plaintext audio one window holds. -/
def maxReconciliationWindowBytes : Nat := 1024 * 1024

/-! ## Windows -/

/-- The exact place of a window's first sample. -/
structure MediaSampleOrigin where
  mediaStartSample : Nat
  sampleRateHz : UInt32
  gapOffsetMs : Nat
deriving DecidableEq

namespace MediaSampleOrigin

/-- A sample's time on the media timeline, if it fits. -/
def projectSample (origin : MediaSampleOrigin) (sample : Nat) : Except AdapterError Nat :=
  let invalid : AdapterError := ⟨"meeting sample origin cannot be projected"⟩
  if origin.sampleRateHz = 0 then .error invalid
  else
    let millis := sample * 1000 / origin.sampleRateHz.toNat
    if u64Max < millis then .error invalid
    else orError invalid (checkedAdd millis origin.gapOffsetMs)

def new (mediaStartSample : Nat) (sampleRateHz : UInt32) (gapOffsetMs : Nat) :
    Except AdapterError MediaSampleOrigin := do
  let origin : MediaSampleOrigin := ⟨mediaStartSample, sampleRateHz, gapOffsetMs⟩
  let _ ← origin.projectSample mediaStartSample
  return origin

end MediaSampleOrigin

/-- A bounded window of meeting audio: whole samples, and at least one. -/
structure MeetingAudioWindow where
  format : PcmFormat
  startedAtMs : Nat
  sampleOrigin : Option MediaSampleOrigin
  bytes : Bytes
  bytes_ne_nil : bytes ≠ []
  aligned : format.frameAlignmentBytes ∣ bytes.length

namespace MeetingAudioWindow

def new (format : PcmFormat) (startedAtMs : Nat) (bytes : Bytes) :
    Except AdapterError MeetingAudioWindow :=
  if hempty : bytes = [] then .error ⟨"meeting audio window must not be empty"⟩
  else if haligned : format.frameAlignmentBytes ∣ bytes.length then
    .ok ⟨format, startedAtMs, none, bytes, hempty, haligned⟩
  else .error ⟨"meeting audio window was not sample aligned"⟩

/-- A window with an authoritative sample origin. -/
def newWithSampleOrigin (format : PcmFormat) (origin : MediaSampleOrigin) (bytes : Bytes) :
    Except AdapterError MeetingAudioWindow :=
  if origin.sampleRateHz ≠ format.sampleRateHz then
    .error ⟨"meeting sample origin rate differs from PCM"⟩
  else do
    let startedAtMs ← origin.projectSample origin.mediaStartSample
    let window ← new format startedAtMs bytes
    let last ← orError ⟨"meeting sample count overflowed"⟩
      (checkedAdd origin.mediaStartSample (window.bytes.length / format.frameAlignmentBytes))
    let _ ← origin.projectSample last
    return { window with sampleOrigin := some origin }

/-- The samples of a window. -/
def samples (window : MeetingAudioWindow) : Nat :=
  window.bytes.length / window.format.frameAlignmentBytes

end MeetingAudioWindow

/-! ## Building windows -/

/-- The window under construction, the timeline it sits on, and what was sent. -/
structure Windows where
  timed : Bool
  samples : Nat
  gapMs : Nat
  format : Option PcmFormat
  mediaMs : Nat
  startedAtMs : Nat
  bytes : Bytes
  gapOpenedAtMs : Option UInt64
  sent : List MeetingAudioWindow

namespace Windows

def start (timed : Bool) : Windows := ⟨timed, 0, 0, none, 0, 0, [], none, []⟩

abbrev Building := Fallible Windows RuntimeError

/-- An adapter's error, as the reader reports it. -/
def adapterRuntimeError (error : AdapterError) : RuntimeError := adapterError error.message

/-- Report a result of an adapter. -/
def reported {α : Type} : Except AdapterError α → Except RuntimeError α
  | .ok value => .ok value
  | .error error => .error (adapterRuntimeError error)

/-- The window that the bytes gathered so far make. -/
def window (windows : Windows) (format : PcmFormat) : Except RuntimeError MeetingAudioWindow :=
  if windows.timed then do
    let count := windows.bytes.length / format.frameAlignmentBytes
    if windows.samples < count then
      .error (adapterError "recording window sample origin underflowed")
    else do
      let origin ← reported
        (MediaSampleOrigin.new (windows.samples - count) format.sampleRateHz windows.gapMs)
      reported (MeetingAudioWindow.newWithSampleOrigin format origin windows.bytes)
  else reported (MeetingAudioWindow.new format windows.startedAtMs windows.bytes)

-- Whether the receiver still takes a window after some were sent.
variable (listening : Nat → Bool)

/-- Hand a window over. Answers whether the diarizer is still listening. -/
def send (window : MeetingAudioWindow) : Building Bool := fun windows =>
  if listening windows.sent.length then
    (.ok true, { windows with sent := windows.sent ++ [window] })
  else (.ok false, windows)

/-- Send the window being filled, if it holds anything. -/
def flush : Building Bool := do
  let windows ← read
  if windows.bytes = [] then return true
  else
    let format ← lift (orError (adapterError "recording window has no format") windows.format)
    let window ← lift (windows.window format)
    update fun windows => { windows with bytes := [] }
    send listening window

def adoptFormat (format : PcmFormat) : Building Unit := do
  let windows ← read
  match windows.format with
  | some existing =>
    require (existing = format) (adapterError "recording capture format changed mid-session")
  | none => update fun windows => { windows with format := some format }

/-- Send the window first when a frame would overflow it. -/
def makeRoom (bytes : Bytes) : Building Bool := do
  let windows ← read
  if maxReconciliationWindowBytes < windows.bytes.length + bytes.length then flush listening
  else return true

/-- Move the timeline on by a frame. -/
def advance (format : PcmFormat) (bytes : Bytes) : Building Unit := do
  let windows ← read
  if windows.timed then
    let samples ← lift (orError (adapterError "recording sample count overflowed")
      (checkedAdd windows.samples (bytes.length / format.frameAlignmentBytes)))
    update fun windows => { windows with samples := samples }
    let mediaMs ← lift (exactMediaMs samples format.sampleRateHz windows.gapMs)
    update fun windows => { windows with mediaMs := mediaMs }
  else
    update fun windows => { windows with
      mediaMs := saturatingAdd windows.mediaMs (pcmDurationMs format bytes.length) }

/-- Add one frame's audio. -/
def accept (format : PcmFormat) (bytes : Bytes) : Building Bool := do
  adoptFormat format
  require (bytes.length ≤ maxReconciliationWindowBytes)
    (adapterError "recording frame exceeded the window size")
  let room ← makeRoom listening bytes
  if room then
    update fun windows => { windows with
      startedAtMs := if windows.bytes = [] then windows.mediaMs else windows.startedAtMs }
    advance format bytes
    update fun windows => { windows with bytes := windows.bytes ++ bytes }
    return true
  else return false

/-- The timeline after a gap that ends at `endedAtMs`; one that opened before
any audio costs nothing. -/
def closeGap (windows : Windows) (endedAtMs : UInt64) : Windows :=
  match windows.gapOpenedAtMs with
  | none => windows
  | some openedAtMs =>
    let length := endedAtMs.toNat - openedAtMs.toNat
    if windows.format.isSome then { windows with
      gapOpenedAtMs := none
      gapMs := if windows.timed then saturatingAdd windows.gapMs length else windows.gapMs
      mediaMs := saturatingAdd windows.mediaMs length }
    else { windows with gapOpenedAtMs := none }

/-- One chunk. Answers whether the diarizer is still listening. -/
def deliver : RecordedChunk → Building Bool
  | .timedFrame _ format _ bytes => accept listening format bytes
  | .timingPolicy => return true
  | .captureMetadata _ => return true
  | .alignmentLimit => return true
  | .frame _ _ sampleRateHz channels sampleFormat bytes => do
    let format ← lift (orElse (adapterError "recording frame states an unusable format")
      (PcmFormat.new sampleRateHz channels sampleFormat))
    accept listening format bytes
  | .gapStarted atMs _ => do
    -- A window never spans a gap.
    let delivered ← flush listening
    update fun windows => { windows with gapOpenedAtMs := some atMs }
    return delivered
  | .gapEnded atMs => do
    update fun windows => windows.closeGap atMs
    return true
  | .ended _ => flush listening

-- Whether the reader is cancelled before it looks for its next chunk.
variable (cancelled : Nat → Bool)

/-- All chunks in order. Answers whether none was left out. -/
def deliverAll : Nat → List RecordedChunk → Building Bool
  | position, [] => return !cancelled position
  | position, chunk :: chunks =>
    if cancelled position then return false
    else do
      let delivered ← deliver listening chunk
      if delivered then deliverAll (position + 1) chunks else return false

/-- Walk a recording and send its windows. Answers whether its tail was torn. -/
def readChunkWindows (readout : RecordedChunks.Readout) : Building Bool := do
  let finished ← deliverAll listening cancelled 0 readout.chunks
  if finished then
    let truncated ← lift readout.ending
    let _ ← flush listening
    return truncated
  else return false

end Windows

/-! ## The timeline, chunk by chunk -/

/-- The media a chunk carries. -/
def RecordedChunk.payload : RecordedChunk → Option Bytes
  | .timedFrame _ _ _ bytes => some bytes
  | .frame _ _ _ _ _ bytes => some bytes
  | _ => none

/-- What an accepted chunk does to the timeline of a recording. -/
inductive MediaTimeline.Step (timed : Bool) (timeline : MediaTimeline) :
    RecordedChunk → MediaTimeline → Prop
  | timedFrame {atMs format timing bytes next} (hgap : timeline.openGapAtMs = none)
      (hformat : ∀ prior ∈ timeline.format, prior = format) (hbytes : bytes ≠ [])
      (hnext : timeline.timedFrame format bytes.length = .ok next) :
      Step timed timeline (.timedFrame atMs format timing bytes) next
  | frame {atMs sequence sampleRateHz channels sampleFormat format bytes}
      (hnew : PcmFormat.new sampleRateHz channels sampleFormat = .ok format)
      (hgap : timeline.openGapAtMs = none) (hformat : ∀ prior ∈ timeline.format, prior = format)
      (hbytes : bytes ≠ []) (haligned : format.frameAlignmentBytes ∣ bytes.length) :
      Step timed timeline (.frame atMs sequence sampleRateHz channels sampleFormat bytes)
        (timeline.frame format bytes.length)
  | gapStarted {atMs reason} (hgap : timeline.openGapAtMs = none) :
      Step timed timeline (.gapStarted atMs reason) (timeline.gapStarted atMs)
  | gapEnded {atMs opened next} (hgap : timeline.openGapAtMs = some opened)
      (hnext : timeline.gapEnded atMs timed = .ok next) :
      Step timed timeline (.gapEnded atMs) next
  | other {chunk} (hpayload : chunk.payload = none)
      (hstarted : ∀ atMs reason, chunk ≠ .gapStarted atMs reason)
      (hended : ∀ atMs, chunk ≠ .gapEnded atMs) : Step timed timeline chunk timeline

namespace Walk

/-- The walk states its format and its open gap twice. -/
structure Consistent (walk : Walk) : Prop where
  format_eq : walk.format = walk.timeline.format
  gap_eq : walk.gap = walk.timeline.openGapAtMs
  going : walk.incomplete = false

theorem consistent_empty : Consistent .empty := ⟨rfl, rfl, rfl⟩

variable {chunk : RecordedChunk}

/-- What placing a chunk does, unless it is the failure record. -/
theorem step_of_place {timed : Bool} {walk next : Walk} (hwalk : walk.Consistent)
    (h : walk.place timed chunk = .ok next) (hgoing : next.incomplete = false) :
    next.Consistent ∧ walk.timeline.Step timed chunk next.timeline := by
  cases chunk with
  | timedFrame atMs format timing bytes =>
    simp only [place, timedFrame] at h
    split at h
    next hadmits =>
      obtain ⟨timeline, htimeline, hmoved⟩ := bind_eq_ok h
      obtain ⟨hgap, hformat, hbytes⟩ := hadmits
      rw [hwalk.gap_eq] at hgap
      rw [hwalk.format_eq] at hformat
      rw [moveTo_eq_ok hmoved]
      obtain ⟨total, mediaMs, -, -, rfl⟩ := MediaTimeline.timedFrame_eq_ok htimeline
      exact ⟨⟨rfl, hwalk.gap_eq, hwalk.going⟩, .timedFrame hgap hformat hbytes htimeline⟩
    next => cases h
  | timingPolicy | captureMetadata metadata | alignmentLimit =>
    cases h
    exact ⟨hwalk, .other rfl (by simp) (by simp)⟩
  | frame atMs sequence sampleRateHz channels sampleFormat bytes =>
    obtain ⟨format, hnew, h⟩ := bind_eq_ok h
    split at h
    next hadmits =>
      obtain ⟨⟨hgap, hformat, hbytes⟩, haligned⟩ := hadmits
      rw [hwalk.gap_eq] at hgap
      rw [hwalk.format_eq] at hformat
      rw [moveTo_eq_ok h]
      exact ⟨⟨rfl, hwalk.gap_eq, hwalk.going⟩,
        .frame (orElse_eq_ok.mp hnew) hgap hformat hbytes haligned⟩
    next => cases h
  | gapStarted atMs reason =>
    simp only [place, gapStarted] at h
    split at h
    · cases h
      cases hgoing
    split at h
    · cases h
    next hadmits =>
      simp only [not_or, Option.not_isSome_iff_eq_none] at hadmits
      rw [hwalk.gap_eq] at hadmits
      rw [moveTo_eq_ok h]
      exact ⟨⟨hwalk.format_eq, rfl, hwalk.going⟩, .gapStarted hadmits.1⟩
  | gapEnded atMs =>
    simp only [place, gapEnded] at h
    split at h
    · cases h
    · obtain ⟨timeline, htimeline, hmoved⟩ := bind_eq_ok h
      rw [moveTo_eq_ok hmoved]
      obtain ⟨opened, timedGapMs, hopened, -, rfl⟩ := MediaTimeline.gapEnded_eq_ok htimeline
      exact ⟨⟨hwalk.format_eq, rfl, hwalk.going⟩, .gapEnded hopened htimeline⟩
  | ended atMs =>
    rw [moveTo_eq_ok h]
    exact ⟨⟨hwalk.format_eq, hwalk.gap_eq, hwalk.going⟩, .other rfl (by simp) (by simp)⟩

theorem step_of_accept {timed : Bool} {walk next : Walk} (hwalk : walk.Consistent)
    (h : walk.accept timed chunk = .ok next) (hgoing : next.incomplete = false) :
    next.Consistent ∧ walk.timeline.Step timed chunk next.timeline := by
  obtain ⟨-, validation, -, hplaced⟩ := accept_eq_ok h
  have hsame : Consistent { walk with validation := validation } :=
    ⟨hwalk.format_eq, hwalk.gap_eq, hwalk.going⟩
  have hstep := step_of_place hsame hplaced hgoing
  exact hstep

end Walk

end ConversationRuntime
