import ConversationRuntime.Capture.Frame

/-! # Records of a recording

Each chunk of a recording seals one record: a kind byte and a body. The
recorder builds records; the reader decodes them into chunks. Decoding what the
recorder built gives back the chunk it meant.
-/

namespace ConversationRuntime

open Foundation FrameProvenance List

/-- The reason recorded for a gap opened by a break in the capture bridge. -/
def captureDiscontinuityReason : String := "capture_discontinuity"

/-- The reason of the record an incomplete recorder leaves before closing. -/
def recordingFailureReason : String := "recording_failed"

def chunkFrame : UInt8 := 1
def chunkGapStarted : UInt8 := 2
def chunkGapEnded : UInt8 := 3
def chunkEnded : UInt8 := 4
def chunkPolicy : UInt8 := 9
def chunkTimedFrame : UInt8 := 10
def chunkEpoch : UInt8 := 11
def chunkClockPair : UInt8 := 12
def chunkTimingDiscontinuity : UInt8 := 13
def chunkAlignmentLimit : UInt8 := 14

def sampleFormatS16le : UInt8 := 1
def sampleFormatF32le : UInt8 := 2

/-- One decrypted record. -/
inductive RecordedChunk where
  | timedFrame (atMs : UInt64) (format : PcmFormat) (timing : Option FrameProvenance)
      (bytes : Bytes)
  | timingPolicy
  | captureMetadata (metadata : CaptureMetadata)
  | alignmentLimit
  | frame (atMs sequence : UInt64) (sampleRateHz : UInt32) (channels : UInt16)
      (sampleFormat : PcmSampleFormat) (bytes : Bytes)
  | gapStarted (atMs : UInt64) (reason : String)
  | gapEnded (atMs : UInt64)
  | ended (atMs : UInt64)
deriving DecidableEq

def sampleFormatCode : PcmSampleFormat → UInt8
  | .signed16LittleEndian => sampleFormatS16le
  | .float32LittleEndian => sampleFormatF32le

def sampleFormatFromCode (code : UInt8) : Except RuntimeError PcmSampleFormat :=
  if code = sampleFormatS16le then .ok .signed16LittleEndian
  else if code = sampleFormatF32le then .ok .float32LittleEndian
  else .error (adapterError "recording sample format is not recognised")

@[simp] theorem sampleFormatFromCode_sampleFormatCode (format : PcmSampleFormat) :
    sampleFormatFromCode (sampleFormatCode format) = .ok format := by
  cases format <;> rfl

/-! ## Records the recorder builds -/

def gapStartedRecord (atMs : UInt64) (reason : String) : Bytes :=
  chunkGapStarted :: (u64Bytes atMs ++ (UInt8.ofNat (utf8Bytes reason).length :: utf8Bytes reason))

/-- The two records that state a kind and a time and nothing else. -/
def momentRecord (kind : UInt8) (atMs : UInt64) : Bytes := kind :: u64Bytes atMs

def gapEndedRecord (atMs : UInt64) : Bytes := momentRecord chunkGapEnded atMs

def endedRecord (atMs : UInt64) : Bytes := momentRecord chunkEnded atMs

def frameRecord (atMs : UInt64) (frame : AudioFrame) : Bytes :=
  chunkFrame :: (u64Bytes atMs ++ (u64Bytes frame.sequence ++
    (u32Bytes frame.format.sampleRateHz ++ (u16Bytes frame.format.channels ++
    (sampleFormatCode frame.format.sampleFormat :: frame.bytes)))))

/-- The fields of a timed frame before its timing flag. -/
def timedFrameHead (atMs : UInt64) (format : PcmFormat) : Bytes :=
  u64Bytes atMs ++ (sampleFormatCode format.sampleFormat ::
    (u32Bytes format.sampleRateHz ++ u16Bytes format.channels))

def timedFrameRecord (atMs : UInt64) (format : PcmFormat) (timing : Option Bytes)
    (bytes : Bytes) : Bytes :=
  chunkTimedFrame :: (timedFrameHead atMs format ++
    ((if timing.isSome then 1 else 0) :: (timing.getD [] ++ bytes)))

def policyRecord : Bytes :=
  chunkPolicy :: [clockPairCadenceNs, maxClockBracketNs, maxClockPairGapNs,
    maxClockResidualNs].flatMap u64Bytes

def alignmentLimitRecord : Bytes := [chunkAlignmentLimit]

def metadataRecord : CaptureMetadata → Except RuntimeError Bytes
  | .epoch epoch => do
    let body ← orElse recoveryError epoch.encode
    return chunkEpoch :: body
  | .clockPair pair => do
    let body ← orElse recoveryError pair.encode
    return chunkClockPair :: body
  | .discontinuity captureEpoch reason =>
    if captureEpoch = 0 then .error recoveryError
    else .ok (chunkTimingDiscontinuity :: (u64Bytes captureEpoch ++ [reason.code]))

/-! ## Decoding -/

/-- The timing a timed frame's flag announces, and where its PCM starts. -/
def decodeFrameTiming (body : Bytes) : Except RuntimeError (Option FrameProvenance × Nat) :=
  if body.getD 15 0 = 0 then .ok (none, 16)
  else if body.getD 15 0 = 1 ∧ 16 + captureTimingBytes ≤ body.length then do
    let timing ← orElse recoveryError (FrameProvenance.decode (slice body 16 captureTimingBytes))
    return (some timing, 16 + captureTimingBytes)
  else .error recoveryError

/-- The checks on a timed frame's PCM, and on its timing against that PCM. -/
def timedFrameChunk (atMs : UInt64) (format : PcmFormat) (timing : Option FrameProvenance)
    (bytes : Bytes) : Except RuntimeError RecordedChunk := do
  if bytes = [] ∨ maxPcmFrameBytes < bytes.length ∨
      ¬ format.frameAlignmentBytes ∣ bytes.length then
    throw recoveryError
  match timing with
  | none => return .timedFrame atMs format none bytes
  | some provenance =>
    orElse recoveryError (provenance.validatePcm format bytes.length)
    return .timedFrame atMs format (some provenance) bytes

def decodeTimedFrame (body : Bytes) : Except RuntimeError RecordedChunk := do
  if body.length < 16 then throw recoveryError
  let sampleFormat ← sampleFormatFromCode (body.getD 8 0)
  let format ← orElse recoveryError
    (PcmFormat.new (u32Value (slice body 9 4)) (u16Value (slice body 13 2)) sampleFormat)
  let (timing, offset) ← decodeFrameTiming body
  timedFrameChunk (u64Value (slice body 0 8)) format timing (body.drop offset)

def decodeDiscontinuity (body : Bytes) : Except RuntimeError RecordedChunk := do
  let captureEpoch := u64Value (slice body 0 8)
  if captureEpoch = 0 then throw recoveryError
  let reason ← orElse recoveryError (CaptureDiscontinuityReason.decode (body.getD 8 0))
  return .captureMetadata (.discontinuity captureEpoch reason)

def decodeFrame (body : Bytes) : Except RuntimeError RecordedChunk := do
  if body.length < 23 then throw (adapterError "recording frame chunk is truncated")
  let sampleFormat ← sampleFormatFromCode (body.getD 22 0)
  return .frame (u64Value (slice body 0 8)) (u64Value (slice body 8 8))
    (u32Value (slice body 16 4)) (u16Value (slice body 20 2)) sampleFormat (body.drop 23)

def decodeGapStarted (body : Bytes) : Except RuntimeError RecordedChunk := do
  if body.length < 9 then throw (adapterError "recording gap chunk is truncated")
  let length := (body.getD 8 0).toNat
  if body.length < 9 + length then throw (adapterError "recording gap chunk is truncated")
  let reason ← orError (adapterError "recording gap reason is not text")
    (utf8Text? (slice body 9 length))
  return .gapStarted (u64Value (slice body 0 8)) reason

def decodeMoment (body : Bytes) (chunk : UInt64 → RecordedChunk) :
    Except RuntimeError RecordedChunk :=
  if body.length ≠ 8 then .error (adapterError "recording chunk is truncated")
  else .ok (chunk (u64Value (slice body 0 8)))

def decodeChunk : Bytes → Except RuntimeError RecordedChunk
  | [] => .error (adapterError "recording chunk is empty")
  | kind :: body =>
    if kind = chunkPolicy ∧ kind :: body = policyRecord then .ok .timingPolicy
    else if kind = chunkTimedFrame then decodeTimedFrame body
    else if kind = chunkEpoch then do
      let epoch ← orElse recoveryError (CaptureEpoch.decode body)
      return .captureMetadata (.epoch epoch)
    else if kind = chunkClockPair then do
      let pair ← orElse recoveryError (CaptureClockPair.decode body)
      return .captureMetadata (.clockPair pair)
    else if kind = chunkTimingDiscontinuity ∧ body.length = 9 then decodeDiscontinuity body
    else if kind = chunkAlignmentLimit ∧ body = [] then .ok .alignmentLimit
    else if kind = chunkFrame then decodeFrame body
    else if kind = chunkGapStarted then decodeGapStarted body
    else if kind = chunkGapEnded then decodeMoment body .gapEnded
    else if kind = chunkEnded then decodeMoment body .ended
    else .error (adapterError "recording chunk kind is not recognised")

/-! ## Decoding what was built -/

@[simp] theorem decodeChunk_policyRecord : decodeChunk policyRecord = .ok .timingPolicy := by
  rw [policyRecord, decodeChunk, if_pos ⟨rfl, rfl⟩]

@[simp] theorem decodeChunk_alignmentLimitRecord :
    decodeChunk alignmentLimitRecord = .ok .alignmentLimit := rfl

variable (atMs : UInt64)

theorem decodeMoment_u64Bytes (chunk : UInt64 → RecordedChunk) :
    decodeMoment (u64Bytes atMs) chunk = .ok (chunk atMs) := by
  rw [decodeMoment, if_neg (by simp), slice_self (length_u64Bytes atMs), u64Value_u64Bytes]

@[simp] theorem decodeChunk_gapEndedRecord :
    decodeChunk (gapEndedRecord atMs) = .ok (.gapEnded atMs) :=
  decodeMoment_u64Bytes atMs .gapEnded

@[simp] theorem decodeChunk_endedRecord : decodeChunk (endedRecord atMs) = .ok (.ended atMs) :=
  decodeMoment_u64Bytes atMs .ended

theorem decodeChunk_gapStartedRecord {reason : String} (hreason : (utf8Bytes reason).length < 256) :
    decodeChunk (gapStartedRecord atMs reason) = .ok (.gapStarted atMs reason) := by
  have hlength : (UInt8.ofNat (utf8Bytes reason).length).toNat = (utf8Bytes reason).length := by
    rw [UInt8.toNat_ofNat', Nat.mod_eq_of_lt hreason]
  change decodeGapStarted (u64Bytes atMs ++ (UInt8.ofNat (utf8Bytes reason).length ::
    utf8Bytes reason)) = _
  have htext : slice (u64Bytes atMs ++ (UInt8.ofNat (utf8Bytes reason).length ::
      utf8Bytes reason)) 9 (utf8Bytes reason).length = utf8Bytes reason := by
    exact take_length
  have hbyte : (u64Bytes atMs ++ (UInt8.ofNat (utf8Bytes reason).length ::
      utf8Bytes reason)).getD 8 0 = UInt8.ofNat (utf8Bytes reason).length := by
    rfl
  unfold decodeGapStarted
  rw [if_neg (by simp; omega)]
  simp only [hbyte, hlength, htext, utf8Text?_utf8Bytes]
  rw [if_neg (by simp; omega), slice_append_self (length_u64Bytes atMs), u64Value_u64Bytes]
  rfl

theorem decodeChunk_frameRecord (frame : AudioFrame) :
    decodeChunk (frameRecord atMs frame) = .ok (.frame atMs frame.sequence
      frame.format.sampleRateHz frame.format.channels frame.format.sampleFormat frame.bytes) := by
  change decodeFrame (u64Bytes atMs ++ (u64Bytes frame.sequence ++
    (u32Bytes frame.format.sampleRateHz ++ (u16Bytes frame.format.channels ++
    (sampleFormatCode frame.format.sampleFormat :: frame.bytes))))) = _
  unfold decodeFrame
  simp (disch := simp) only [getD_append_right, slice_append_of_le, slice_append_self,
    length_u64Bytes, length_u32Bytes, length_u16Bytes, Nat.reduceSub, u64Value_u64Bytes,
    u32Value_u32Bytes, u16Value_u16Bytes, getD_cons_zero, sampleFormatFromCode_sampleFormatCode,
    drop_append, drop_eq_nil_of_le, nil_append, drop_succ_cons, drop_zero]
  rfl

section TimedFrame

variable (format : PcmFormat) (flag : UInt8) (rest : Bytes)

@[simp] theorem length_timedFrameHead : (timedFrameHead atMs format).length = 15 := by
  simp [timedFrameHead]

theorem slice_timedFrameHead : slice (timedFrameHead atMs format ++ rest) 0 8 = u64Bytes atMs ∧
      slice (timedFrameHead atMs format ++ rest) 9 4 = u32Bytes format.sampleRateHz ∧
      slice (timedFrameHead atMs format ++ rest) 13 2 = u16Bytes format.channels := by
  simp only [timedFrameHead, append_assoc, cons_append]
  refine ⟨slice_append_self (length_u64Bytes atMs), ?_, ?_⟩
  · rw [slice_append_of_le (by simp)]
    exact slice_append_self (length_u32Bytes _)
  · rw [slice_append_of_le (by simp)]
    exact slice_append_self (length_u16Bytes _)

theorem getD_timedFrameHead :
    (timedFrameHead atMs format ++ rest).getD 8 0 = sampleFormatCode format.sampleFormat := by
  simp only [timedFrameHead, append_assoc, cons_append]
  rfl

theorem getD_timedFrameFlag : (timedFrameHead atMs format ++ flag :: rest).getD 15 0 = flag := by
  rfl

theorem drop_timedFrameHead (count : Nat) :
    (timedFrameHead atMs format ++ flag :: rest).drop (16 + count) = rest.drop count := by
  rw [drop_append, drop_eq_nil_of_le (by simp; omega), length_timedFrameHead,
    nil_append, show 16 + count - 15 = count + 1 by omega, drop_succ_cons]

/-- Decoding a body once its timing is known. -/
theorem decodeTimedFrame_head {timing : Option FrameProvenance} {count : Nat}
    (htiming : decodeFrameTiming (timedFrameHead atMs format ++ flag :: rest) =
      .ok (timing, 16 + count)) :
    decodeTimedFrame (timedFrameHead atMs format ++ flag :: rest) =
      timedFrameChunk atMs format timing (rest.drop count) := by
  obtain ⟨hat, hrate, hchannels⟩ := slice_timedFrameHead atMs format (flag :: rest)
  unfold decodeTimedFrame
  rw [htiming, hat, hrate, hchannels, getD_timedFrameHead,
    sampleFormatFromCode_sampleFormatCode, u64Value_u64Bytes, u32Value_u32Bytes, u16Value_u16Bytes]
  change (orElse recoveryError (PcmFormat.new format.sampleRateHz format.channels
    format.sampleFormat) >>= fun format => timedFrameChunk atMs format timing
      ((timedFrameHead atMs _ ++ flag :: rest).drop (16 + count))) = _
  rw [PcmFormat.new_self, drop_timedFrameHead]
  rfl

end TimedFrame

theorem decodeChunk_timedFrameRecord (atMs : UInt64) (format : PcmFormat)
    (timing : Option FrameProvenance) {bytes : Bytes} (hbytes : bytes ≠ [])
    (hlength : bytes.length ≤ maxPcmFrameBytes)
    (haligned : format.frameAlignmentBytes ∣ bytes.length)
    (htiming : ∀ value ∈ timing, value.validatePcm format bytes.length = .ok ()) :
    decodeChunk (timedFrameRecord atMs format (timing.map FrameProvenance.layout) bytes) =
      .ok (.timedFrame atMs format timing bytes) := by
  have hpayload : ¬ (bytes = [] ∨ maxPcmFrameBytes < bytes.length ∨
      ¬ format.frameAlignmentBytes ∣ bytes.length) := by
    simp only [hbytes, haligned, not_true_eq_false, or_false, false_or]
    omega
  cases timing with
  | none =>
    change decodeTimedFrame (timedFrameHead atMs format ++ 0 :: bytes) = _
    rw [decodeTimedFrame_head atMs format 0 bytes (show decodeFrameTiming _ = .ok (none, 16 + 0)
      from if_pos (getD_timedFrameFlag _ _ _ _)), drop_zero, timedFrameChunk, if_neg hpayload]
    rfl
  | some provenance =>
    have hvalid := htiming provenance rfl
    change decodeTimedFrame (timedFrameHead atMs format ++ 1 :: (provenance.layout ++ bytes)) = _
    have hdecode : decodeFrameTiming (timedFrameHead atMs format ++
        1 :: (provenance.layout ++ bytes)) = .ok (some provenance, 16 + captureTimingBytes) := by
      have hslice : slice (timedFrameHead atMs format ++ 1 :: (provenance.layout ++ bytes)) 16
          captureTimingBytes = provenance.layout := by
        rw [slice, drop_timedFrameHead atMs format 1 _ 0, drop_zero,
          take_left' (length_layout provenance)]
      have hdecoded := decode_layout _ (validate_of_validatePcm hvalid)
      unfold decodeFrameTiming
      rw [getD_timedFrameFlag, if_neg (by decide), if_pos ⟨rfl, by simp; omega⟩, hslice, hdecoded]
      rfl
    rw [decodeTimedFrame_head atMs format 1 _ hdecode, drop_left' (length_layout provenance),
      timedFrameChunk, if_neg hpayload]
    rw [hvalid]
    rfl

theorem decodeChunk_metadataRecord {metadata : CaptureMetadata} {record : Bytes}
    (hrecord : metadataRecord metadata = .ok record) :
    decodeChunk record = .ok (.captureMetadata metadata) := by
  cases metadata with
  | epoch epoch =>
    cases hvalid : epoch.validate with
    | error error =>
      simp [metadataRecord, CaptureEpoch.encode, hvalid, orElse, bind, Except.bind] at hrecord
    | ok _ =>
      rw [metadataRecord, CaptureEpoch.encode, hvalid] at hrecord
      cases hrecord
      change (orElse recoveryError (CaptureEpoch.decode epoch.layout) >>= fun epoch =>
        Except.ok (RecordedChunk.captureMetadata (.epoch epoch))) = _
      rw [CaptureEpoch.decode_layout hvalid]
      rfl
  | clockPair pair =>
    cases hvalid : pair.validate with
    | error error =>
      simp [metadataRecord, CaptureClockPair.encode, hvalid, orElse, bind, Except.bind] at hrecord
    | ok _ =>
      rw [metadataRecord, CaptureClockPair.encode, hvalid] at hrecord
      cases hrecord
      change (orElse recoveryError (CaptureClockPair.decode pair.layout) >>= fun pair =>
        Except.ok (RecordedChunk.captureMetadata (.clockPair pair))) = _
      rw [CaptureClockPair.decode_layout hvalid]
      rfl
  | discontinuity captureEpoch reason =>
    rw [metadataRecord] at hrecord
    split at hrecord
    · cases hrecord
    next hepoch =>
      cases hrecord
      have hdecode : decodeChunk (chunkTimingDiscontinuity ::
          (u64Bytes captureEpoch ++ [reason.code])) =
          decodeDiscontinuity (u64Bytes captureEpoch ++ [reason.code]) := by
        simp [decodeChunk, chunkTimingDiscontinuity, chunkPolicy, chunkTimedFrame, chunkEpoch,
          chunkClockPair]
      have hreason : (u64Bytes captureEpoch ++ [reason.code]).getD 8 0 = reason.code := by
        rfl
      rw [hdecode, decodeDiscontinuity, slice_append_self (length_u64Bytes captureEpoch),
        u64Value_u64Bytes, if_neg hepoch, hreason, CaptureDiscontinuityReason.decode_code]
      rfl

end ConversationRuntime
