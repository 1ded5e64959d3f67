import ConversationRuntime.Foundation.Checked
import ConversationRuntime.Capture.Pcm

/-! # Capture timing

Producer-derived capture coordinates: epochs, clock pairs and the provenance of
single frames, with the byte layouts in which recordings carry them. Every
decoder validates what it read, so a decoded value is always a valid one.
-/

namespace ConversationRuntime

open Foundation List

def captureTimingBytes : Nat := 88
def maxCaptureIdentifierBytes : Nat := 64
def maxCaptureClockDomains : Nat := 256
def maxRecordingTimingRecords : Nat := 1000000
def maxRecordingTimingBytes : Nat := 128 * 1024 * 1024
def clockPairCadenceNs : UInt64 := 1000000000
def maxClockBracketNs : UInt64 := 5000000
def maxClockPairGapNs : UInt64 := 2000000000
def maxClockResidualNs : UInt64 := 10000000

/-- The error of malformed capture timing. -/
def malformedTiming : AdapterError := ⟨"capture timing was malformed"⟩

/-- The control characters of Unicode. -/
def isControl (char : Char) : Bool :=
  char.val ≤ 0x1f || (0x7f ≤ char.val && char.val ≤ 0x9f)

def isCaptureIdentifier (value : String) : Bool :=
  0 < (utf8Bytes value).length && (utf8Bytes value).length ≤ maxCaptureIdentifierBytes &&
    !value.toList.any isControl

def validateCaptureIdentifier (value : String) : Except AdapterError Unit :=
  if isCaptureIdentifier value then .ok () else .error malformedTiming

/-- Which clock domains one source has used; a domain that was left never
returns. -/
structure CaptureDomainHistory where
  admitted : List String
  current : Option String
deriving DecidableEq

namespace CaptureDomainHistory

def empty : CaptureDomainHistory := ⟨[], none⟩

def admitDomain (history : CaptureDomainHistory) (domain : String) :
    Except AdapterError CaptureDomainHistory := do
  validateCaptureIdentifier domain
  if history.current = some domain then return history
  if domain ∈ history.admitted then throw ⟨"capture clock domain was retired"⟩
  if maxCaptureClockDomains ≤ history.admitted.length then
    throw ⟨"capture clock domain limit exceeded"⟩
  return ⟨domain :: history.admitted, some domain⟩

end CaptureDomainHistory

inductive CaptureMappingQuality where
  | nominalFrameEndpointInterpolation
  | unknownClock
  | unknownPriming
  | filterEdge
  | incompleteSourceCoverage
deriving DecidableEq

namespace CaptureMappingQuality

def code : CaptureMappingQuality → UInt8
  | .nominalFrameEndpointInterpolation => 1
  | .unknownClock => 2
  | .unknownPriming => 3
  | .filterEdge => 4
  | .incompleteSourceCoverage => 5

def decode (code : UInt8) : Except AdapterError CaptureMappingQuality :=
  if code = 1 then .ok .nominalFrameEndpointInterpolation
  else if code = 2 then .ok .unknownClock
  else if code = 3 then .ok .unknownPriming
  else if code = 4 then .ok .filterEdge
  else if code = 5 then .ok .incompleteSourceCoverage
  else .error malformedTiming

@[simp] theorem decode_code (quality : CaptureMappingQuality) :
    decode quality.code = .ok quality := by
  cases quality <;> rfl

end CaptureMappingQuality

/-! ## Frame provenance -/

structure NominalCaptureSpan where
  hostStartNs : UInt64
  hostEndNs : UInt64
  roundingEnvelopeNs : UInt64
  captureUncertaintyNs : Option UInt64
deriving DecidableEq

structure FrameProvenance where
  captureEpoch : UInt64
  sequence : UInt64
  outputStartSample : UInt64
  sampleCount : UInt32
  sourceStartNumerator : UInt64
  sourceEndNumerator : UInt64
  sourceDenominator : UInt32
  sourceRateHz : UInt32
  quality : CaptureMappingQuality
  span : Option NominalCaptureSpan
deriving DecidableEq

namespace FrameProvenance

def validate (frame : FrameProvenance) : Except AdapterError Unit := do
  let finish ← orError malformedTiming
    (checkedAdd frame.outputStartSample.toNat frame.sampleCount.toNat)
  if frame.captureEpoch = 0 ∨ frame.sequence = 0 ∨ frame.sampleCount = 0 ∨
      frame.sourceDenominator = 0 ∨ frame.sourceRateHz = 0 ∨
      checkedMul frame.outputStartSample.toNat frame.sourceRateHz.toNat ≠
        some frame.sourceStartNumerator.toNat ∨
      checkedMul finish frame.sourceRateHz.toNat ≠ some frame.sourceEndNumerator.toNat ∨
      frame.span.isSome ≠ (frame.quality == .nominalFrameEndpointInterpolation) then
    throw malformedTiming
  match frame.span with
  | none => return ()
  | some span =>
    if span.hostStartNs = 0 ∨ span.hostEndNs ≤ span.hostStartNs then throw malformedTiming

def validatePcm (frame : FrameProvenance) (format : PcmFormat) (length : Nat) :
    Except AdapterError Unit := do
  frame.validate
  if frame.sourceDenominator ≠ format.sampleRateHz ∨
      frame.sampleCount.toNat * format.frameAlignmentBytes ≠ length then
    throw malformedTiming

variable {frame : FrameProvenance}

theorem validate_of_validatePcm {format : PcmFormat} {length : Nat}
    (hvalid : frame.validatePcm format length = .ok ()) : frame.validate = .ok () := by
  unfold validatePcm at hvalid
  cases hframe : frame.validate with
  | ok _ => rfl
  | error error =>
    rw [hframe] at hvalid
    cases hvalid

/-- Byte 1 of the layout: bit 0 for a span, bit 1 for its uncertainty. -/
def spanFlags : Option NominalCaptureSpan → UInt8
  | none => 0
  | some span => if span.captureUncertaintyNs.isSome then 3 else 1

def spanBytes : Option NominalCaptureSpan → Bytes
  | none => List.replicate 32 0
  | some span => u64Bytes span.hostStartNs ++ (u64Bytes span.hostEndNs ++
      (u64Bytes span.roundingEnvelopeNs ++ u64Bytes (span.captureUncertaintyNs.getD 0)))

/-- The 88-byte layout, field by field in offset order. -/
def layout (frame : FrameProvenance) : Bytes :=
  [1, spanFlags frame.span, frame.quality.code, 0] ++ (u64Bytes frame.captureEpoch ++
    (u64Bytes frame.sequence ++ (u64Bytes frame.outputStartSample ++
    (u32Bytes frame.sampleCount ++ (u64Bytes frame.sourceStartNumerator ++
    (u64Bytes frame.sourceEndNumerator ++ (u32Bytes frame.sourceDenominator ++
    (u32Bytes frame.sourceRateHz ++ spanBytes frame.span))))))))

def encode (frame : FrameProvenance) : Except AdapterError Bytes := do
  frame.validate
  return frame.layout

def decodeSpan (bytes : Bytes) (flags : UInt8) : Option NominalCaptureSpan :=
  if flags &&& 1 ≠ 0 then
    some {
      hostStartNs := u64Value (slice bytes 56 8)
      hostEndNs := u64Value (slice bytes 64 8)
      roundingEnvelopeNs := u64Value (slice bytes 72 8)
      captureUncertaintyNs :=
        if flags &&& 2 ≠ 0 then some (u64Value (slice bytes 80 8)) else none }
  else none

def decode (bytes : Bytes) : Except AdapterError FrameProvenance := do
  let flags := bytes.getD 1 0
  if bytes.length ≠ captureTimingBytes ∨ bytes.getD 0 0 ≠ 1 ∨
      ¬ (flags = 0 ∨ flags = 1 ∨ flags = 3) ∨ bytes.getD 3 0 ≠ 0 then
    throw malformedTiming
  if (flags = 0 ∧ (bytes.drop 56).any (· ≠ 0)) ∨
      (flags &&& 2 = 0 ∧ u64Value (slice bytes 80 8) ≠ 0) then
    throw malformedTiming
  let quality ← CaptureMappingQuality.decode (bytes.getD 2 0)
  let value : FrameProvenance := {
    captureEpoch := u64Value (slice bytes 4 8)
    sequence := u64Value (slice bytes 12 8)
    outputStartSample := u64Value (slice bytes 20 8)
    sampleCount := u32Value (slice bytes 28 4)
    sourceStartNumerator := u64Value (slice bytes 32 8)
    sourceEndNumerator := u64Value (slice bytes 40 8)
    sourceDenominator := u32Value (slice bytes 48 4)
    sourceRateHz := u32Value (slice bytes 52 4)
    quality := quality
    span := decodeSpan bytes flags }
  value.validate
  return value

theorem length_spanBytes (span : Option NominalCaptureSpan) : (spanBytes span).length = 32 := by
  cases span with
  | none => rfl
  | some span => simp [spanBytes]

variable (frame)

@[simp] theorem length_layout : frame.layout.length = captureTimingBytes := by
  simp [layout, length_spanBytes, captureTimingBytes]

/-- The fields before the span fill 56 bytes. -/
theorem layout_eq_append : ∃ fields : Bytes, fields.length = 56 ∧
    frame.layout = fields ++ spanBytes frame.span := by
  refine ⟨[1, spanFlags frame.span, frame.quality.code, 0] ++ (u64Bytes frame.captureEpoch ++
    (u64Bytes frame.sequence ++ (u64Bytes frame.outputStartSample ++ (u32Bytes frame.sampleCount ++
    (u64Bytes frame.sourceStartNumerator ++ (u64Bytes frame.sourceEndNumerator ++ (u32Bytes
    frame.sourceDenominator ++ u32Bytes frame.sourceRateHz))))))), by simp, by simp [layout]⟩

theorem drop_layout : frame.layout.drop 56 = spanBytes frame.span := by
  obtain ⟨fields, hfields, heq⟩ := layout_eq_append frame
  rw [heq, drop_left' hfields]

theorem slice_layout {offset : Nat} (hoffset : 56 ≤ offset) :
    slice frame.layout offset 8 = slice (spanBytes frame.span) (offset - 56) 8 := by
  obtain ⟨fields, hfields, heq⟩ := layout_eq_append frame
  rw [heq, slice_append_of_le (by omega), hfields]

theorem decodeSpan_layout : decodeSpan frame.layout (spanFlags frame.span) = frame.span := by
  cases hspan : frame.span with
  | none => rfl
  | some span =>
    simp (disch := simp) only [decodeSpan, slice_layout, hspan, spanBytes, slice_append_of_le,
      slice_append_self, slice_self, length_u64Bytes, Nat.reduceSub, u64Value_u64Bytes]
    cases span with
    | mk hostStartNs hostEndNs roundingEnvelopeNs captureUncertaintyNs =>
      cases captureUncertaintyNs with
      | none => simp [spanFlags, show (1 : UInt8) &&& 2 = 0 by decide]
      | some bound => simp [spanFlags, show (3 : UInt8) &&& 1 = 1 by decide,
          show (3 : UInt8) &&& 2 = 2 by decide]

/-- The reserved bytes of a layout without an uncertainty, or without a span, are zero. -/
theorem layout_reserved : ¬ ((spanFlags frame.span = 0 ∧ (frame.layout.drop 56).any (· ≠ 0)) ∨
      (spanFlags frame.span &&& 2 = 0 ∧ u64Value (slice frame.layout 80 8) ≠ 0)) := by
  rw [drop_layout, slice_layout frame (by omega)]
  cases hspan : frame.span with
  | none => decide
  | some span =>
    simp (disch := simp) only [spanBytes, slice_append_of_le, slice_self, length_u64Bytes,
      Nat.reduceSub, u64Value_u64Bytes]
    cases huncertain : span.captureUncertaintyNs with
    | none => simp [spanFlags, huncertain]
    | some bound => simp [spanFlags, huncertain, show (3 : UInt8) &&& 2 = 2 by decide]

/-- A valid provenance survives its byte layout. -/
theorem decode_layout (hvalid : frame.validate = .ok ()) : decode frame.layout = .ok frame := by
  have hflags : frame.layout.getD 1 0 = spanFlags frame.span := rfl
  have hknown : spanFlags frame.span = 0 ∨ spanFlags frame.span = 1 ∨ spanFlags frame.span = 3 := by
    cases frame.span with
    | none => exact .inl rfl
    | some span => cases huncertain : span.captureUncertaintyNs <;> simp [spanFlags, huncertain]
  have hquality : frame.layout.getD 2 0 = frame.quality.code := rfl
  unfold decode
  simp only [hflags, hquality, CaptureMappingQuality.decode_code, decodeSpan_layout, length_layout]
  rw [if_neg (by simp only [hknown]; simp [layout]), if_neg (layout_reserved frame)]
  simp (disch := simp) only [layout, slice_append_of_le, slice_append_self,
    length_u64Bytes, length_u32Bytes, length_cons, length_nil, Nat.reduceSub,
    Nat.reduceAdd, u64Value_u64Bytes, u32Value_u32Bytes]
  change (frame.validate >>= fun _ => Except.ok frame) = .ok frame
  rw [hvalid]
  rfl

end FrameProvenance

/-! ## The cursor over variable-length records -/

/-- A reader of the remaining bytes. -/
abbrev TimingCursor := StateT Bytes (Except AdapterError)

namespace TimingCursor

def takeBytes (count : Nat) : TimingCursor Bytes := fun remaining =>
  if remaining.length < count then .error malformedTiming
  else .ok (remaining.take count, remaining.drop count)

def byte : TimingCursor UInt8 := do
  let bytes ← takeBytes 1
  return bytes.headD 0

def u64 : TimingCursor UInt64 := do
  let bytes ← takeBytes 8
  return u64Value bytes

def i64 : TimingCursor Int64 := do
  let bytes ← takeBytes 8
  return i64Value bytes

def id : TimingCursor String := do
  let length ← byte
  if length = 0 ∨ maxCaptureIdentifierBytes < length.toNat then throw malformedTiming
  let text ← takeBytes length.toNat
  let value ← orError malformedTiming (utf8Text? text)
  validateCaptureIdentifier value
  return value

def finish : TimingCursor Unit := fun remaining =>
  if remaining = [] then .ok ((), []) else .error malformedTiming

end TimingCursor

def putId (id : String) : Bytes :=
  UInt8.ofNat (utf8Bytes id).length :: utf8Bytes id

namespace TimingCursor

theorem bind_of_ok {α β : Type} {first : TimingCursor α} {next : α → TimingCursor β}
    {bytes rest : Bytes} {value : α} (hfirst : first bytes = .ok (value, rest)) :
    (first >>= next) bytes = next value rest := by
  change (first bytes >>= fun read => next read.1 read.2) = _
  rw [hfirst]
  rfl

theorem lift_ok {α : Type} (value : α) (bytes : Bytes) :
    (liftM (Except.ok value : Except AdapterError α) : TimingCursor α) bytes = .ok (value, bytes) :=
  rfl

theorem takeBytes_append (field : Bytes) {count : Nat} (hfield : field.length = count)
    (rest : Bytes) : takeBytes count (field ++ rest) = .ok (field, rest) := by
  rw [takeBytes, if_neg (by simp; omega), take_left' hfield, drop_left' hfield]

theorem byte_cons (value : UInt8) (rest : Bytes) : byte (value :: rest) = .ok (value, rest) := by
  have htake : takeBytes 1 (value :: rest) = .ok ([value], rest) :=
    takeBytes_append [value] rfl rest
  rfl

theorem u64_append (value : UInt64) (rest : Bytes) :
    u64 (u64Bytes value ++ rest) = .ok (value, rest) := by
  rw [u64, bind_of_ok (takeBytes_append _ (length_u64Bytes value) rest), u64Value_u64Bytes]
  rfl

theorem i64_append (value : Int64) (rest : Bytes) :
    i64 (i64Bytes value ++ rest) = .ok (value, rest) := by
  rw [i64, bind_of_ok (takeBytes_append _ (length_i64Bytes value) rest), i64Value_i64Bytes]
  rfl

theorem id_append {value : String} (hvalue : isCaptureIdentifier value = true) (rest : Bytes) :
    id (putId value ++ rest) = .ok (value, rest) := by
  have hbounds : 0 < (utf8Bytes value).length ∧ (utf8Bytes value).length ≤ 64 := by
    simp only [isCaptureIdentifier, Bool.and_eq_true, decide_eq_true_eq] at hvalue
    exact hvalue.1
  have hlength : (UInt8.ofNat (utf8Bytes value).length).toNat = (utf8Bytes value).length := by
    rw [UInt8.toNat_ofNat']
    omega
  have hknown : ¬ (UInt8.ofNat (utf8Bytes value).length = 0 ∨
      maxCaptureIdentifierBytes < (UInt8.ofNat (utf8Bytes value).length).toNat) := by
    rw [← UInt8.toNat_inj, maxCaptureIdentifierBytes]
    simp only [UInt8.toNat_zero]
    omega
  rw [id, putId, cons_append, bind_of_ok (byte_cons _ _), if_neg hknown]
  beta_reduce
  have hvalidate : validateCaptureIdentifier value = .ok () := if_pos hvalue
  rw [bind_of_ok (takeBytes_append _ hlength.symm rest), utf8Text?_utf8Bytes,
    orError_some, bind_of_ok (lift_ok value rest), hvalidate]
  rfl

end TimingCursor

/-! ## Epochs -/

structure CaptureEpoch where
  bridgeSessionId : String
  clockDomainId : String
  captureEpoch : UInt64
deriving DecidableEq

open TimingCursor (bind_of_ok id_append u64_append i64_append byte_cons)

namespace CaptureEpoch

def validate (epoch : CaptureEpoch) : Except AdapterError Unit := do
  validateCaptureIdentifier epoch.bridgeSessionId
  validateCaptureIdentifier epoch.clockDomainId
  if epoch.captureEpoch = 0 then throw malformedTiming

def layout (epoch : CaptureEpoch) : Bytes :=
  putId epoch.bridgeSessionId ++ (putId epoch.clockDomainId ++ (u64Bytes epoch.captureEpoch ++ [1]))

def encode (epoch : CaptureEpoch) : Except AdapterError Bytes := do
  epoch.validate
  return epoch.layout

/-- The fields in the order the cursor reads them. -/
def readFields : TimingCursor CaptureEpoch := do
  let bridgeSessionId ← TimingCursor.id
  let clockDomainId ← TimingCursor.id
  let captureEpoch ← TimingCursor.u64
  let version ← TimingCursor.byte
  if version ≠ 1 then throw malformedTiming
  TimingCursor.finish
  return ⟨bridgeSessionId, clockDomainId, captureEpoch⟩

def decode (bytes : Bytes) : Except AdapterError CaptureEpoch := do
  let (value, _) ← readFields bytes
  value.validate
  return value

theorem isCaptureIdentifier_of_validate {epoch : CaptureEpoch} (hvalid : epoch.validate = .ok ()) :
    isCaptureIdentifier epoch.bridgeSessionId = true ∧
      isCaptureIdentifier epoch.clockDomainId = true := by
  unfold validate validateCaptureIdentifier at hvalid
  by_cases hbridge : isCaptureIdentifier epoch.bridgeSessionId = true
  · by_cases hdomain : isCaptureIdentifier epoch.clockDomainId = true
    · exact ⟨hbridge, hdomain⟩
    · rw [if_pos hbridge, if_neg hdomain] at hvalid
      cases hvalid
  · rw [if_neg hbridge] at hvalid
    cases hvalid

/-- A valid epoch survives its byte layout. -/
theorem decode_layout {epoch : CaptureEpoch} (hvalid : epoch.validate = .ok ()) :
    decode epoch.layout = .ok epoch := by
  obtain ⟨hbridge, hdomain⟩ := isCaptureIdentifier_of_validate hvalid
  have hread : readFields epoch.layout = .ok (epoch, []) := by
    rw [readFields, layout, bind_of_ok (id_append hbridge _), bind_of_ok (id_append hdomain _),
      bind_of_ok (u64_append _ _)]
    rfl
  rw [decode, hread]
  change (epoch.validate >>= fun _ => .ok epoch) = _
  rw [hvalid]
  rfl

end CaptureEpoch

/-- A frame's provenance with the epoch it was captured in. -/
structure TimedCapture where
  epoch : CaptureEpoch
  frame : FrameProvenance
deriving DecidableEq

/-- The producer boundary a timed recorder must match before capture may close. -/
structure CaptureFinishBoundary where
  sessionId : SessionId
  captureEpoch : UInt64
  frame : Option (UInt64 × UInt64)
  finalClockPairSequence : UInt64
deriving DecidableEq

/-! ## Clock pairs -/

structure CaptureClockPair where
  clockDomainId : String
  wallEpoch : UInt64
  sequence : UInt64
  hostBeforeNs : UInt64
  localUnixNs : Int64
  hostAfterNs : UInt64
  wallResolutionNs : UInt64
  externalUtcAccuracyNs : Option UInt64
deriving DecidableEq

namespace CaptureClockPair

def validate (pair : CaptureClockPair) : Except AdapterError Unit := do
  validateCaptureIdentifier pair.clockDomainId
  if pair.wallEpoch = 0 ∨ pair.sequence = 0 ∨ pair.hostBeforeNs = 0 ∨
      pair.hostAfterNs < pair.hostBeforeNs then
    throw malformedTiming

/-- Twice the midpoint of the bracket, which is exact. -/
def midpointTwice (pair : CaptureClockPair) : Nat :=
  pair.hostBeforeNs.toNat + pair.hostAfterNs.toNat

def layout (pair : CaptureClockPair) : Bytes :=
  putId pair.clockDomainId ++ (u64Bytes pair.wallEpoch ++ (u64Bytes pair.sequence ++
    (u64Bytes pair.hostBeforeNs ++ (i64Bytes pair.localUnixNs ++ (u64Bytes pair.hostAfterNs ++
    (u64Bytes pair.wallResolutionNs ++
    ((if pair.externalUtcAccuracyNs.isSome then 1 else 0) ::
      u64Bytes (pair.externalUtcAccuracyNs.getD 0))))))))

def encode (pair : CaptureClockPair) : Except AdapterError Bytes := do
  pair.validate
  return pair.layout

/-- The accuracy a presence byte and a bound spell. -/
def accuracy (present : UInt8) (bound : UInt64) : Except AdapterError (Option UInt64) :=
  if present = 0 ∧ bound = 0 then .ok none
  else if present = 1 then .ok (some bound)
  else .error malformedTiming

/-- The fields in the order the cursor reads them. -/
def readFields : TimingCursor CaptureClockPair := do
  let clockDomainId ← TimingCursor.id
  let wallEpoch ← TimingCursor.u64
  let sequence ← TimingCursor.u64
  let hostBeforeNs ← TimingCursor.u64
  let localUnixNs ← TimingCursor.i64
  let hostAfterNs ← TimingCursor.u64
  let wallResolutionNs ← TimingCursor.u64
  let present ← TimingCursor.byte
  let bound ← TimingCursor.u64
  let externalUtcAccuracyNs ← accuracy present bound
  TimingCursor.finish
  return {
    clockDomainId, wallEpoch, sequence, hostBeforeNs, localUnixNs, hostAfterNs, wallResolutionNs,
    externalUtcAccuracyNs }

def decode (bytes : Bytes) : Except AdapterError CaptureClockPair := do
  let (value, _) ← readFields bytes
  value.validate
  return value

variable {pair : CaptureClockPair}

theorem isCaptureIdentifier_of_validate (hvalid : pair.validate = .ok ()) :
    isCaptureIdentifier pair.clockDomainId = true := by
  unfold validate validateCaptureIdentifier at hvalid
  by_cases hdomain : isCaptureIdentifier pair.clockDomainId = true
  · exact hdomain
  · rw [if_neg hdomain] at hvalid
    cases hvalid

theorem accuracy_layout (bound : Option UInt64) :
    accuracy (if bound.isSome then 1 else 0) (bound.getD 0) = .ok bound := by
  cases bound with
  | none | some => rfl

/-- A valid clock pair survives its byte layout. -/
theorem decode_layout (hvalid : pair.validate = .ok ()) : decode pair.layout = .ok pair := by
  have hdomain := isCaptureIdentifier_of_validate hvalid
  have hbound : TimingCursor.u64 (u64Bytes (pair.externalUtcAccuracyNs.getD 0)) =
      .ok (pair.externalUtcAccuracyNs.getD 0, []) := by
    simpa using u64_append (pair.externalUtcAccuracyNs.getD 0) []
  have hread : readFields pair.layout = .ok (pair, []) := by
    rw [readFields, layout, bind_of_ok (id_append hdomain _)]
    iterate 3 rw [bind_of_ok (u64_append _ _)]
    rw [bind_of_ok (i64_append _ _)]
    iterate 2 rw [bind_of_ok (u64_append _ _)]
    rw [bind_of_ok (byte_cons _ _), bind_of_ok hbound, accuracy_layout]
    rfl
  rw [decode, hread]
  change (pair.validate >>= fun _ => .ok pair) = _
  rw [hvalid]
  rfl

end CaptureClockPair

/-! ## Discontinuities and metadata -/

inductive CaptureDiscontinuityReason where
  | sourceDrop
  | sequenceHole
  | reconnect
  | pause
  | epochReset
  | missingTiming
  | inconsistentCoordinates
  | sourceDiscontinuity
  | alignmentLimitExceeded
deriving DecidableEq

namespace CaptureDiscontinuityReason

def code : CaptureDiscontinuityReason → UInt8
  | .sourceDrop => 1
  | .sequenceHole => 2
  | .reconnect => 3
  | .pause => 4
  | .epochReset => 5
  | .missingTiming => 6
  | .inconsistentCoordinates => 7
  | .sourceDiscontinuity => 8
  | .alignmentLimitExceeded => 9

def decode (code : UInt8) : Except AdapterError CaptureDiscontinuityReason :=
  if code = 1 then .ok .sourceDrop
  else if code = 2 then .ok .sequenceHole
  else if code = 3 then .ok .reconnect
  else if code = 4 then .ok .pause
  else if code = 5 then .ok .epochReset
  else if code = 6 then .ok .missingTiming
  else if code = 7 then .ok .inconsistentCoordinates
  else if code = 8 then .ok .sourceDiscontinuity
  else if code = 9 then .ok .alignmentLimitExceeded
  else .error malformedTiming

@[simp] theorem decode_code (reason : CaptureDiscontinuityReason) :
    decode reason.code = .ok reason := by
  cases reason <;> rfl

end CaptureDiscontinuityReason

inductive CaptureMetadata where
  | epoch (epoch : CaptureEpoch)
  | clockPair (pair : CaptureClockPair)
  | discontinuity (captureEpoch : UInt64) (reason : CaptureDiscontinuityReason)
deriving DecidableEq

end ConversationRuntime
