import ConversationRuntime.Capture.Timing

/-! # Capture frames -/

namespace ConversationRuntime

open Foundation

/-- One frame of captured PCM. Its bytes are whole samples within the frame
limit, and attached timing describes exactly these bytes. The turn, generation
and utterance identifiers are not part of the model: nothing here reads them. -/
structure AudioFrame where
  sequence : UInt64
  format : PcmFormat
  bytes : Bytes
  captureTiming : Option TimedCapture
  bytes_ne_nil : bytes ≠ []
  length_bytes_le : bytes.length ≤ maxPcmFrameBytes
  aligned : format.frameAlignmentBytes ∣ bytes.length
  epoch_valid : ∀ timing ∈ captureTiming, timing.epoch.validate = .ok ()
  timing_valid : ∀ timing ∈ captureTiming, timing.frame.validatePcm format bytes.length = .ok ()
  epoch_eq : ∀ timing ∈ captureTiming, timing.epoch.captureEpoch = timing.frame.captureEpoch
  sequence_eq : ∀ timing ∈ captureTiming, sequence = timing.frame.sequence

namespace AudioFrame

/-- The checked constructor of a frame without timing. -/
def new (sequence : UInt64) (format : PcmFormat) (bytes : Bytes) : Except AdapterError AudioFrame :=
  if hempty : bytes = [] then .error ⟨"PCM frame bytes must not be empty"⟩
  else if hlength : maxPcmFrameBytes < bytes.length then .error ⟨"PCM frame bytes exceeded 64 KiB"⟩
  else if haligned : ¬ format.frameAlignmentBytes ∣ bytes.length then
    .error ⟨"PCM frame bytes were not sample aligned"⟩
  else .ok {
    sequence, format, bytes
    captureTiming := none
    bytes_ne_nil := hempty
    length_bytes_le := Nat.le_of_not_lt hlength
    aligned := not_not.mp haligned
    epoch_valid := by simp
    timing_valid := by simp
    epoch_eq := by simp
    sequence_eq := by simp }

/-- Attach source-derived timing, which must describe this frame. -/
def withCaptureTiming (frame : AudioFrame) (timing : TimedCapture) :
    Except AdapterError AudioFrame :=
  match hepoch : timing.epoch.validate with
  | .error error => .error error
  | .ok () =>
    match hframe : timing.frame.validatePcm frame.format frame.bytes.length with
    | .error error => .error error
    | .ok () =>
      if hidentity : timing.epoch.captureEpoch ≠ timing.frame.captureEpoch ∨
          frame.sequence ≠ timing.frame.sequence then
        .error ⟨"capture timing identity did not match frame"⟩
      else .ok {
        frame with
        captureTiming := some timing
        epoch_valid := by simpa using hepoch
        timing_valid := by simpa using hframe
        epoch_eq := by simp_all
        sequence_eq := by simp_all }

/-- The frame's provenance if its timing was admitted. -/
def provenanceIf (frame : AudioFrame) (admitted : Bool) : Option FrameProvenance :=
  if admitted then frame.captureTiming.map TimedCapture.frame else none

theorem provenanceIf_valid (frame : AudioFrame) (admitted : Bool) :
    ∀ value ∈ frame.provenanceIf admitted,
      value.validatePcm frame.format frame.bytes.length = .ok () := by
  intro value hvalue
  cases admitted with
  | false => simp [provenanceIf] at hvalue
  | true =>
    simp only [provenanceIf, if_true, Option.mem_map] at hvalue
    obtain ⟨timing, htiming, rfl⟩ := hvalue
    exact frame.timing_valid timing htiming

/-- A frame of one sample to evaluate the model with. Its timing, if it has
any, belongs to the first epoch of a capture. -/
def sample (timed : Bool) : AudioFrame where
  sequence := 1
  format := .sample
  bytes := [1, 0]
  captureTiming :=
    if timed then
      some ⟨⟨"bridge", "clock", 1⟩, ⟨1, 1, 0, 1, 0, 16000, 16000, 16000, .unknownClock, none⟩⟩
    else none
  bytes_ne_nil := by decide
  length_bytes_le := by decide
  aligned := by decide
  epoch_valid := by cases timed <;> decide +kernel
  timing_valid := by cases timed <;> decide +kernel
  epoch_eq := by cases timed <;> decide +kernel
  sequence_eq := by cases timed <;> decide +kernel

end AudioFrame

end ConversationRuntime
