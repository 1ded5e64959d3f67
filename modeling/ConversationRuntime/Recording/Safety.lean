import ConversationRuntime.Recording.Timeline

/-! # Recording safety limits

The guard looks at each write and says which limits are near and which are
reached. A stop is reported alone; otherwise every warning crossed by the write
is reported once.
-/

namespace ConversationRuntime

open Foundation

def mib : Nat := 1024 * 1024

/-- The largest permitted size limit, a mebibyte below what recovery admits. -/
def maxRecordingBytesLimit : Nat := 8 * 1024 * mib - mib

/-- Room kept below the size limit for what one call may still write. -/
def sizeHeadroomBytes : Nat := 2 * (4 + 128 * 1024)

def warningPercent : Nat := 90

/-- Free space is read at most once per second of recorded media. -/
def diskCheckIntervalMs : Nat := 1000

def quietPeakS16 : Int := 98

/-- The bit pattern of the 32-bit float 0.003. Magnitudes of floats are ordered
as their bit patterns, and every non-finite pattern lies above this one. -/
def quietPeakF32 : UInt32 := 0x3b449ba6

structure SilenceAutoStop where
  afterMs : Nat
  graceMs : Nat
  afterMs_pos : 0 < afterMs
  graceMs_pos : 0 < graceMs

/-- The limits one recording runs under. -/
structure RecordingLimits where
  minFreeDiskBytes : Nat
  maxDurationMs : Nat
  maxBytes : Nat
  silenceAutoStop : Option SilenceAutoStop
  minFreeDiskBytes_pos : 0 < minFreeDiskBytes
  maxDurationMs_pos : 0 < maxDurationMs
  maxBytes_pos : 0 < maxBytes
  maxBytes_le : maxBytes ≤ maxRecordingBytesLimit

/-- A 512 MiB disk floor, eight hours, 4 GiB, and no silence auto-stop. -/
def RecordingLimits.default : RecordingLimits where
  minFreeDiskBytes := 512 * mib
  maxDurationMs := 8 * 60 * 60 * 1000
  maxBytes := 4 * 1024 * mib
  silenceAutoStop := none
  minFreeDiskBytes_pos := by decide
  maxDurationMs_pos := by decide
  maxBytes_pos := by decide
  maxBytes_le := by decide

abbrev LimitNotice := RecordingLimit × RecordingLimitState

def stoppedNotice (limit : RecordingLimit) : LimitNotice := (limit, .stopped)

def warningNotice (limit : RecordingLimit) : LimitNotice := (limit, .warning)

/-- Whether any of the notices is a stop. -/
def anyStopped (notices : List LimitNotice) : Bool := notices.any fun notice => notice.2 == .stopped

theorem anyStopped_append (left right : List LimitNotice) :
    anyStopped (left ++ right) = (anyStopped left || anyStopped right) := List.any_append

/-- What the recorder knows after writing one frame. -/
structure FrameObservation where
  mediaMs : Nat
  bytes : Nat
  frameMs : Nat
  quiet : Bool
deriving DecidableEq

def warningPoint (limit : Nat) : Nat :=
  limit / 100 * warningPercent + limit % 100 * warningPercent / 100

structure RecordingSafetyGuard where
  limits : RecordingLimits
  lastDiskCheckMs : Option Nat
  warnedSize : Bool
  warnedDuration : Bool
  quietMs : Nat
  warnedSilence : Bool

namespace RecordingSafetyGuard

def new (limits : RecordingLimits) : RecordingSafetyGuard :=
  ⟨limits, none, false, false, 0, false⟩

/-- Whether `bytes` in the file leave less than the headroom. -/
def sizeReached (guard : RecordingSafetyGuard) (bytes : Nat) : Bool :=
  guard.limits.maxBytes < saturatingAdd bytes sizeHeadroomBytes

def diskDue (guard : RecordingSafetyGuard) (mediaMs : Nat) : Bool :=
  guard.lastDiskCheckMs.all fun last => diskCheckIntervalMs ≤ mediaMs - last

/-- The quiet span after one more frame; an audible frame re-arms the warning. -/
def observeQuiet (guard : RecordingSafetyGuard) (frame : FrameObservation) :
    RecordingSafetyGuard :=
  if frame.quiet then { guard with quietMs := saturatingAdd guard.quietMs frame.frameMs }
  else { guard with quietMs := 0, warnedSilence := false }

/-- The warnings this frame crosses, each reported once. -/
def warnings (guard : RecordingSafetyGuard) (frame : FrameObservation) :
    List LimitNotice × RecordingSafetyGuard :=
  let size := !guard.warnedSize && warningPoint guard.limits.maxBytes ≤ frame.bytes
  let duration := !guard.warnedDuration && warningPoint guard.limits.maxDurationMs ≤ frame.mediaMs
  let silence := guard.limits.silenceAutoStop.any fun silence =>
    !guard.warnedSilence && silence.afterMs ≤ guard.quietMs
  ((if size then [warningNotice .size] else []) ++
      (if duration then [warningNotice .duration] else []) ++
      (if silence then [warningNotice .silence] else []),
    { guard with
      warnedSize := guard.warnedSize || size
      warnedDuration := guard.warnedDuration || duration
      warnedSilence := guard.warnedSilence || silence })

/-- The checks after a frame, in the order disk, size, duration, silence. The
free space counts only when a check is due; an unknown figure stops nothing. -/
def observe (guard : RecordingSafetyGuard) (frame : FrameObservation)
    (freeDiskBytes : Option Nat) : List LimitNotice × RecordingSafetyGuard :=
  let due := guard.diskDue frame.mediaMs
  let checked := if due then { guard with lastDiskCheckMs := some frame.mediaMs } else guard
  if due ∧ freeDiskBytes.any (· < guard.limits.minFreeDiskBytes) then
    ([stoppedNotice .freeDiskSpace], checked)
  else if checked.sizeReached frame.bytes then ([stoppedNotice .size], checked)
  else if guard.limits.maxDurationMs ≤ frame.mediaMs then ([stoppedNotice .duration], checked)
  else
    let quiet := checked.observeQuiet frame
    if quiet.limits.silenceAutoStop.any fun silence =>
        saturatingAdd silence.afterMs silence.graceMs ≤ quiet.quietMs then
      ([stoppedNotice .silence], quiet)
    else quiet.warnings frame

variable (guard : RecordingSafetyGuard)

theorem observeQuiet_limits (frame : FrameObservation) :
    (guard.observeQuiet frame).limits = guard.limits := by
  unfold observeQuiet
  split <;> rfl

/-- Observing never changes the limits. -/
theorem observe_limits (frame : FrameObservation)
    (freeDiskBytes : Option Nat) : (guard.observe frame freeDiskBytes).2.limits = guard.limits := by
  have hchecked : (if guard.diskDue frame.mediaMs then
      { guard with lastDiskCheckMs := some frame.mediaMs } else guard).limits = guard.limits := by
    split <;> rfl
  unfold observe
  dsimp only
  generalize (if guard.diskDue frame.mediaMs then
    { guard with lastDiskCheckMs := some frame.mediaMs } else guard) = checked at hchecked ⊢
  have hquiet := (checked.observeQuiet_limits frame).trans hchecked
  split
  · exact hchecked
  split
  · exact hchecked
  split
  · exact hchecked
  split <;> exact hquiet

variable {guard : RecordingSafetyGuard}

theorem sizeReached_congr {other : RecordingSafetyGuard} (h : guard.limits = other.limits)
    (bytes : Nat) : guard.sizeReached bytes = other.sizeReached bytes := by
  rw [sizeReached, sizeReached, h]

/-- Unless the guard stops, the size leaves the headroom. -/
theorem sizeReached_of_observe {frame : FrameObservation} {freeDiskBytes : Option Nat}
    (h : anyStopped (guard.observe frame freeDiskBytes).1 = false) :
    guard.sizeReached frame.bytes = false := by
  have hchecked : (if guard.diskDue frame.mediaMs then
      { guard with lastDiskCheckMs := some frame.mediaMs } else guard).limits = guard.limits := by
    split <;> rfl
  unfold observe at h
  dsimp only at h
  generalize (if guard.diskDue frame.mediaMs then
    { guard with lastDiskCheckMs := some frame.mediaMs } else guard) = checked at hchecked h
  split at h
  · cases h
  split at h
  · cases h
  next hsize =>
    rw [← sizeReached_congr hchecked]
    exact Bool.eq_false_iff.mpr hsize

/-- The size check alone, for writes that carry no audio. -/
def observeWrite (guard : RecordingSafetyGuard) (bytes : Nat) : List LimitNotice :=
  if guard.sizeReached bytes then [stoppedNotice .size] else []

theorem observeWrite_cases (bytes : Nat) :
    anyStopped (guard.observeWrite bytes) = true ∨ guard.observeWrite bytes = [] := by
  unfold observeWrite
  split
  · exact .inl rfl
  · exact .inr rfl

theorem sizeReached_of_observeWrite {bytes : Nat}
    (h : anyStopped (guard.observeWrite bytes) = false) : guard.sizeReached bytes = false := by
  unfold observeWrite at h
  split at h
  · cases h
  next hsize => exact Bool.eq_false_iff.mpr hsize

end RecordingSafetyGuard

/-! ## Quiet frames -/

/-- The sample two little-endian bytes spell. -/
def i16Value (low high : UInt8) : Int :=
  let value : Int := low.toNat + 256 * high.toNat
  if value < 32768 then value else value - 65536

def allQuietS16 : Bytes → Bool
  | low :: high :: rest => (i16Value low high).natAbs ≤ quietPeakS16 && allQuietS16 rest
  | _ => true

/-- The magnitude bits of a little-endian 32-bit float. -/
def f32Magnitude (first second third fourth : UInt8) : UInt32 :=
  UInt32.ofNat (first.toNat + 256 * second.toNat + 65536 * third.toNat +
    16777216 * (fourth.toNat % 128))

def allQuietF32 : Bytes → Bool
  | first :: second :: third :: fourth :: rest =>
    f32Magnitude first second third fourth ≤ quietPeakF32 && allQuietF32 rest
  | _ => true

/-- Whether every whole sample of a frame is at or below the quiet level. -/
def frameIsQuiet (frame : AudioFrame) : Bool :=
  match frame.format.sampleFormat with
  | .signed16LittleEndian => allQuietS16 frame.bytes
  | .float32LittleEndian => allQuietF32 frame.bytes

def frameDurationMs (frame : AudioFrame) : Nat := pcmDurationMs frame.format frame.bytes.length

end ConversationRuntime
