import ConversationRuntime.Protocol.Error

/-! # PCM formats -/

namespace ConversationRuntime

inductive PcmSampleFormat where
  | signed16LittleEndian
  | float32LittleEndian
deriving DecidableEq

def PcmSampleFormat.bytesPerSample : PcmSampleFormat → Nat
  | .signed16LittleEndian => 2
  | .float32LittleEndian => 4

/-- A PCM format; its rate and its channel count are never zero. -/
structure PcmFormat where
  sampleRateHz : UInt32
  channels : UInt16
  sampleFormat : PcmSampleFormat
  sampleRateHz_pos : sampleRateHz ≠ 0
  channels_pos : channels ≠ 0
deriving DecidableEq

namespace PcmFormat

/-- The checked constructor. -/
def new (sampleRateHz : UInt32) (channels : UInt16) (sampleFormat : PcmSampleFormat) :
    Except AdapterError PcmFormat :=
  if hrate : sampleRateHz = 0 then .error ⟨"PCM sample rate must be greater than zero"⟩
  else if hchannels : channels = 0 then .error ⟨"PCM channels must be greater than zero"⟩
  else .ok ⟨sampleRateHz, channels, sampleFormat, hrate, hchannels⟩

@[simp] theorem new_self (format : PcmFormat) :
    new format.sampleRateHz format.channels format.sampleFormat = .ok format := by
  rw [new, dif_neg format.sampleRateHz_pos, dif_neg format.channels_pos]

/-- The size of one sample across all channels. Sixteen-bit channel counts keep
the product far below the machine's range, so it never overflows. -/
def frameAlignmentBytes (format : PcmFormat) : Nat :=
  format.channels.toNat * format.sampleFormat.bytesPerSample

/-- A format to evaluate the model with. -/
def sample : PcmFormat := ⟨16000, 1, .signed16LittleEndian, by decide, by decide⟩

end PcmFormat

/-- The most PCM one capture frame carries. -/
def maxPcmFrameBytes : Nat := 64 * 1024

end ConversationRuntime
