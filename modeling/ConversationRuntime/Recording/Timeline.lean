import ConversationRuntime.Recording.Chunk

/-! # The media timeline

A recording's timeline is the audio it holds plus the gaps between that audio.
The recorder keeps it while writing; `MediaTimeline` rebuilds it from the
chunks of a file.
-/

namespace ConversationRuntime

open Foundation

/-- The most gaps one summary lists; the last entry is widened past this. -/
def maxRecordingGaps : Nat := 256

/-- The reported format of a recording that captured no audio at all. -/
def emptyRecordingFormat : String := "none"

/-- A gap in the recorded media; its end is absent while it is open. -/
structure RecordingGap where
  startedAtMs : Nat
  endedAtMs : Option Nat
  reason : String
deriving DecidableEq

/-- What a finalized recording is, stated without any key material. -/
structure RecordingSummary where
  recordingHandle : String
  encryptedPath : String
  sha256 : String
  durationMs : Nat
  format : String
  keyId : String
  gaps : List RecordingGap
deriving DecidableEq

def sampleFormatName : PcmSampleFormat → String
  | .signed16LittleEndian => "pcm_s16le"
  | .float32LittleEndian => "pcm_f32le"

def formatLabel : Option PcmFormat → String
  | none => emptyRecordingFormat
  | some format => sampleFormatName format.sampleFormat ++ "/" ++
      toString format.sampleRateHz.toNat ++ "/" ++ toString format.channels.toNat

def clampedGaps (gaps : List RecordingGap) (duration : Nat) : List RecordingGap :=
  gaps.map fun gap => {
    startedAtMs := min gap.startedAtMs duration
    endedAtMs := gap.endedAtMs.map (min · duration)
    reason := gap.reason }

/-- The canonical file of a handle. -/
def recordingPath (directory handle : String) : String := directory ++ "/" ++ handle ++ ".crsr"

/-- How much audio a run of PCM carries, rounded down to whole milliseconds. -/
def pcmDurationMs (format : PcmFormat) (bytes : Nat) : Nat :=
  min (bytes / format.frameAlignmentBytes * 1000 / format.sampleRateHz.toNat) u64Max

/-- The exact length of `samples` samples and `gapMs` of gaps, if it fits. -/
def exactMediaMs (samples : Nat) (rate : UInt32) (gapMs : Nat) : Except RuntimeError Nat :=
  if rate = 0 then .error recoveryError
  else
    let audio := samples * 1000 / rate.toNat
    if u64Max < audio then .error recoveryError
    else orError recoveryError (checkedAdd audio gapMs)

theorem exactMediaMs_eq_ok {samples gapMs duration : Nat} {rate : UInt32}
    (h : exactMediaMs samples rate gapMs = .ok duration) :
    duration = samples * 1000 / rate.toNat + gapMs ∧ duration ≤ u64Max := by
  unfold exactMediaMs at h
  split at h
  · cases h
  · dsimp only at h
    split at h
    · cases h
    · rw [orError_eq_ok, checkedAdd_eq_some] at h
      omega

/-- Change the last entry of a list. -/
def mapLast {α : Type} (change : α → α) : List α → List α
  | [] => []
  | [last] => [change last]
  | first :: second :: rest => first :: mapLast change (second :: rest)

structure MediaTimeline where
  format : Option PcmFormat
  mediaMs : Nat
  timedSamples : Nat
  timedGapMs : Nat
  openGapAtMs : Option UInt64
  gaps : List RecordingGap
deriving DecidableEq

namespace MediaTimeline

def empty : MediaTimeline := ⟨none, 0, 0, 0, none, []⟩

def frame (timeline : MediaTimeline) (format : PcmFormat) (bytes : Nat) : MediaTimeline :=
  { timeline with
    format := some format
    mediaMs := saturatingAdd timeline.mediaMs (pcmDurationMs format bytes) }

def timedFrame (timeline : MediaTimeline) (format : PcmFormat) (bytes : Nat) :
    Except RuntimeError MediaTimeline := do
  let samples := bytes / format.frameAlignmentBytes
  let total ← orError recoveryError (checkedAdd timeline.timedSamples samples)
  let mediaMs ← exactMediaMs total format.sampleRateHz timeline.timedGapMs
  return { timeline with mediaMs := mediaMs, timedSamples := total, format := some format }

variable {timeline : MediaTimeline}

theorem timedFrame_of_ok {format : PcmFormat} {bytes total length : Nat}
    (htotal : checkedAdd timeline.timedSamples (bytes / format.frameAlignmentBytes) = some total)
    (hlength : exactMediaMs total format.sampleRateHz timeline.timedGapMs = .ok length) :
    timeline.timedFrame format bytes = .ok
      { timeline with mediaMs := length, timedSamples := total, format := some format } := by
  change (orError recoveryError (checkedAdd timeline.timedSamples
    (bytes / format.frameAlignmentBytes)) >>= _) = _
  rw [htotal]
  change (exactMediaMs total format.sampleRateHz timeline.timedGapMs >>= _) = _
  rw [hlength]
  rfl

theorem timedFrame_eq_ok {next : MediaTimeline} {format : PcmFormat} {bytes : Nat}
    (h : timeline.timedFrame format bytes = .ok next) : ∃ total mediaMs,
      checkedAdd timeline.timedSamples (bytes / format.frameAlignmentBytes) = some total ∧
      exactMediaMs total format.sampleRateHz timeline.timedGapMs = .ok mediaMs ∧
      next = { timeline with
        mediaMs := mediaMs, timedSamples := total, format := some format } := by
  obtain ⟨total, htotal, h⟩ := bind_eq_ok h
  obtain ⟨mediaMs, hmediaMs, h⟩ := bind_eq_ok h
  cases h
  exact ⟨total, mediaMs, orError_eq_ok.mp htotal, hmediaMs, rfl⟩

def gapStarted (timeline : MediaTimeline) (atMs : UInt64) : MediaTimeline :=
  { timeline with
    openGapAtMs := some atMs
    gaps :=
      if timeline.gaps.length < maxRecordingGaps then
        timeline.gaps ++ [⟨timeline.mediaMs, none, captureDiscontinuityReason⟩]
      else mapLast (fun gap => { gap with endedAtMs := none }) timeline.gaps }

/-- The sum of gaps after one of `length` milliseconds: only gaps after some
audio count, and only timed files keep the sum. -/
def chargedGapMs (timeline : MediaTimeline) (length : Nat) (timed : Bool) :
    Except RuntimeError Nat :=
  if timeline.format.isSome ∧ timed then
    orError recoveryError (checkedAdd timeline.timedGapMs length)
  else .ok timeline.timedGapMs

def gapEnded (timeline : MediaTimeline) (atMs : UInt64) (timed : Bool) :
    Except RuntimeError MediaTimeline := do
  let opened ← orError recoveryError timeline.openGapAtMs
  let length := atMs.toNat - opened.toNat
  let timedGapMs ← timeline.chargedGapMs length timed
  let mediaMs := if timeline.format.isSome then saturatingAdd timeline.mediaMs length
    else timeline.mediaMs
  return { timeline with
    openGapAtMs := none
    timedGapMs := timedGapMs
    mediaMs := mediaMs
    gaps := mapLast (fun gap => { gap with endedAtMs := some mediaMs }) timeline.gaps }

theorem gapEnded_eq_ok {next : MediaTimeline} {atMs : UInt64} {timed : Bool}
    (h : timeline.gapEnded atMs timed = .ok next) : ∃ opened timedGapMs,
      timeline.openGapAtMs = some opened ∧
      timeline.chargedGapMs (atMs.toNat - opened.toNat) timed = .ok timedGapMs ∧
      next = { timeline with
        openGapAtMs := none
        timedGapMs := timedGapMs
        mediaMs := if timeline.format.isSome then
          saturatingAdd timeline.mediaMs (atMs.toNat - opened.toNat) else timeline.mediaMs
        gaps := mapLast (fun gap => { gap with endedAtMs := some (if timeline.format.isSome then
          saturatingAdd timeline.mediaMs (atMs.toNat - opened.toNat) else timeline.mediaMs) })
            timeline.gaps } := by
  obtain ⟨opened, hopened, h⟩ := bind_eq_ok h
  obtain ⟨timedGapMs, hcharged, h⟩ := bind_eq_ok h
  cases h
  exact ⟨opened, timedGapMs, orError_eq_ok.mp hopened, hcharged, rfl⟩

/-- The timeline after a gap of `length` milliseconds was closed. -/
def afterGap (timeline : MediaTimeline) (length : Nat) (timed : Bool) : MediaTimeline :=
  let mediaMs := if timeline.format.isSome then saturatingAdd timeline.mediaMs length
    else timeline.mediaMs
  { timeline with
    openGapAtMs := none
    timedGapMs := if timeline.format.isSome && timed then timeline.timedGapMs + length
      else timeline.timedGapMs
    mediaMs := mediaMs
    gaps := mapLast (fun gap => { gap with endedAtMs := some mediaMs }) timeline.gaps }

/-- Closing an open gap succeeds while the sum of gaps fits. -/
theorem gapEnded_of_le {opened atMs : UInt64} {timed : Bool}
    (hopen : timeline.openGapAtMs = some opened)
    (hfits : timeline.timedGapMs + (atMs.toNat - opened.toNat) ≤ u64Max) :
    timeline.gapEnded atMs timed = .ok (timeline.afterGap (atMs.toNat - opened.toNat) timed) := by
  have hcharged : timeline.chargedGapMs (atMs.toNat - opened.toNat) timed =
      .ok (if timeline.format.isSome && timed then
        timeline.timedGapMs + (atMs.toNat - opened.toNat) else timeline.timedGapMs) := by
    unfold chargedGapMs
    rw [checkedAdd_of_le hfits]
    cases timeline.format <;> cases timed <;> rfl
  unfold gapEnded
  rw [hopen]
  change (timeline.chargedGapMs (atMs.toNat - opened.toNat) timed >>= _) = _
  rw [hcharged]
  rfl

/-- Zero when no frame was ever recorded. -/
def durationMs (timeline : MediaTimeline) : Nat :=
  if timeline.format.isSome then timeline.mediaMs else 0

def summary (timeline : MediaTimeline) (directory handle sha256 keyId : String) :
    RecordingSummary where
  recordingHandle := handle
  encryptedPath := recordingPath directory handle
  sha256 := sha256
  durationMs := timeline.durationMs
  format := formatLabel timeline.format
  keyId := keyId
  gaps := clampedGaps timeline.gaps timeline.durationMs

end MediaTimeline

end ConversationRuntime
