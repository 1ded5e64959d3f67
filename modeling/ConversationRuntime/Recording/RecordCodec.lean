import ConversationRuntime.Recording.Chunk

/-! # Records have one spelling

Decoding gives back the chunk that a record was built from, and the timed
metadata has no second spelling: whatever its decoders accept is, byte for byte,
what encoding the decoded value writes.
-/

namespace ConversationRuntime

open Foundation List

/-! ## What a cursor has read -/

namespace TimingCursor

variable {bytes rest field : Bytes} {count : Nat}

theorem ok_of_bind {α β : Type} {first : TimingCursor α} {next : α → TimingCursor β}
    {result : β × Bytes} (h : (first >>= next) bytes = .ok result) :
    ∃ value rest, first bytes = .ok (value, rest) ∧ next value rest = .ok result := by
  obtain ⟨⟨value, rest⟩, hfirst, hnext⟩ := bind_eq_ok h
  exact ⟨value, rest, hfirst, hnext⟩

theorem ok_of_lift {α : Type} {result : Except AdapterError α} {value : α}
    (h : (liftM result : TimingCursor α) bytes = .ok (value, rest)) :
    result = .ok value ∧ bytes = rest := by
  cases result with
  | error error => cases h
  | ok found =>
    cases h
    exact ⟨rfl, rfl⟩

theorem append_of_takeBytes (h : takeBytes count bytes = .ok (field, rest)) :
    bytes = field ++ rest ∧ field.length = count := by
  unfold takeBytes at h
  split at h
  · cases h
  next henough =>
    cases h
    rw [length_take]
    exact ⟨(take_append_drop _ _).symm, by omega⟩

theorem append_of_byte {value : UInt8} (h : byte bytes = .ok (value, rest)) :
    bytes = value :: rest := by
  obtain ⟨field, remaining, htake, hdone⟩ := ok_of_bind h
  obtain ⟨rfl, hlength⟩ := append_of_takeBytes htake
  obtain ⟨first, rfl⟩ := length_eq_one_iff.mp hlength
  cases hdone
  rfl

theorem append_of_u64 {value : UInt64} (h : u64 bytes = .ok (value, rest)) :
    bytes = u64Bytes value ++ rest := by
  obtain ⟨field, remaining, htake, hdone⟩ := ok_of_bind h
  obtain ⟨rfl, hlength⟩ := append_of_takeBytes htake
  cases hdone
  rw [u64Bytes_u64Value hlength]

theorem append_of_i64 {value : Int64} (h : i64 bytes = .ok (value, rest)) :
    bytes = i64Bytes value ++ rest := by
  obtain ⟨field, remaining, htake, hdone⟩ := ok_of_bind h
  obtain ⟨rfl, hlength⟩ := append_of_takeBytes htake
  cases hdone
  rw [i64Bytes_i64Value hlength]

/-- The length byte of an identifier is the length of the text it announces. -/
theorem append_of_id {value : String} (h : id bytes = .ok (value, rest)) :
    bytes = putId value ++ rest := by
  obtain ⟨length, announced, hlength, hread⟩ := ok_of_bind h
  split at hread
  · cases hread
  · obtain ⟨text, remaining, htake, hread⟩ := ok_of_bind hread
    obtain ⟨found, after, hfound, hread⟩ := ok_of_bind hread
    obtain ⟨htext, rfl⟩ := ok_of_lift hfound
    obtain ⟨_, last, hvalid, hdone⟩ := ok_of_bind hread
    obtain ⟨-, rfl⟩ := ok_of_lift hvalid
    cases hdone
    obtain ⟨hannounced, hcount⟩ := append_of_takeBytes htake
    have hspelled := utf8Bytes_of_utf8Text? (orError_eq_ok.mp htext)
    rw [append_of_byte hlength, hannounced, putId, hspelled, hcount, UInt8.ofNat_toNat]
    rfl

theorem nil_of_finish {done : Unit} (h : finish bytes = .ok (done, rest)) :
    bytes = [] ∧ rest = [] := by
  unfold finish at h
  split at h
  next hempty =>
    cases h
    exact ⟨hempty, rfl⟩
  next => cases h

end TimingCursor

open TimingCursor

/-! ## Epochs and clock pairs -/

theorem CaptureEpoch.encode_of_decode {bytes : Bytes} {epoch : CaptureEpoch}
    (h : CaptureEpoch.decode bytes = .ok epoch) : epoch.encode = .ok bytes := by
  obtain ⟨⟨value, left⟩, hread, h⟩ := bind_eq_ok h
  obtain ⟨_, hvalid, hdone⟩ := bind_eq_ok h
  cases hdone
  obtain ⟨bridge, rest, hbridge, hread⟩ := ok_of_bind hread
  obtain ⟨domain, rest, hdomain, hread⟩ := ok_of_bind hread
  obtain ⟨number, rest, hnumber, hread⟩ := ok_of_bind hread
  obtain ⟨version, rest, hversion, hread⟩ := ok_of_bind hread
  split at hread
  · cases hread
  next hone =>
    obtain ⟨_, rest, hfinish, hread⟩ := ok_of_bind hread
    obtain ⟨rfl, rfl⟩ := nil_of_finish hfinish
    cases hread
    rw [encode, hvalid, append_of_id hbridge, append_of_id hdomain, append_of_u64 hnumber,
      append_of_byte hversion, not_not.mp hone]
    rfl

theorem CaptureClockPair.accuracy_eq_ok {present : UInt8} {bound : UInt64} {value : Option UInt64}
    (h : accuracy present bound = .ok value) :
    (if value.isSome then 1 else 0) = present ∧ value.getD 0 = bound := by
  unfold accuracy at h
  split at h
  next hnone =>
    cases h
    exact ⟨hnone.1.symm, hnone.2.symm⟩
  next =>
    split at h
    next hsome =>
      cases h
      exact ⟨hsome.symm, rfl⟩
    next => cases h

theorem CaptureClockPair.encode_of_decode {bytes : Bytes} {pair : CaptureClockPair}
    (h : CaptureClockPair.decode bytes = .ok pair) : pair.encode = .ok bytes := by
  obtain ⟨⟨value, left⟩, hread, hchecked⟩ := bind_eq_ok h
  obtain ⟨_, hvalid, hdone⟩ := bind_eq_ok hchecked
  cases hdone
  obtain ⟨domain, rest, hdomain, hread⟩ := ok_of_bind hread
  obtain ⟨wallEpoch, rest, hwallEpoch, hread⟩ := ok_of_bind hread
  obtain ⟨sequence, rest, hsequence, hread⟩ := ok_of_bind hread
  obtain ⟨hostBefore, rest, hhostBefore, hread⟩ := ok_of_bind hread
  obtain ⟨localUnix, rest, hlocalUnix, hread⟩ := ok_of_bind hread
  obtain ⟨hostAfter, rest, hhostAfter, hread⟩ := ok_of_bind hread
  obtain ⟨resolution, rest, hresolution, hread⟩ := ok_of_bind hread
  obtain ⟨present, rest, hpresent, hread⟩ := ok_of_bind hread
  obtain ⟨bound, rest, hbound, hread⟩ := ok_of_bind hread
  obtain ⟨accurate, rest, haccurate, hread⟩ := ok_of_bind hread
  obtain ⟨haccuracy, rfl⟩ := ok_of_lift haccurate
  obtain ⟨hflag, hvalue⟩ := accuracy_eq_ok haccuracy
  obtain ⟨_, rest, hfinish, hread⟩ := ok_of_bind hread
  obtain ⟨rfl, rfl⟩ := nil_of_finish hfinish
  cases hread
  rw [encode, hvalid, append_of_id hdomain, append_of_u64 hwallEpoch, append_of_u64 hsequence,
    append_of_u64 hhostBefore, append_of_i64 hlocalUnix, append_of_u64 hhostAfter,
    append_of_u64 hresolution, append_of_byte hpresent, append_of_u64 hbound, ← hflag, ← hvalue]
  rfl

/-! ## Frame provenance -/

theorem CaptureMappingQuality.code_of_decode {code : UInt8} {quality : CaptureMappingQuality}
    (h : decode code = .ok quality) : quality.code = code := by
  unfold decode at h
  split_ifs at h <;> cases h <;> exact (.symm ‹_›)

theorem CaptureDiscontinuityReason.code_of_decode {code : UInt8}
    {reason : CaptureDiscontinuityReason} (h : decode code = .ok reason) : reason.code = code := by
  unfold decode at h
  split_ifs at h <;> cases h <;> exact (.symm ‹_›)

namespace FrameProvenance

variable {bytes : Bytes}

/-- The last 32 bytes are those of the span that was read from them. -/
theorem spanBytes_decodeSpan {flags : UInt8} (hlength : bytes.length = captureTimingBytes)
    (hflags : flags = 0 ∨ flags = 1 ∨ flags = 3)
    (hreserved : ¬ ((flags = 0 ∧ (bytes.drop 56).any (· ≠ 0)) ∨
      (flags &&& 2 = 0 ∧ u64Value (slice bytes 80 8) ≠ 0))) :
    spanFlags (decodeSpan bytes flags) = flags ∧
      spanBytes (decodeSpan bytes flags) = bytes.drop 56 := by
  have hlong : bytes.length = 88 := hlength
  have hlast : u64Bytes (u64Value (slice bytes 80 8)) = bytes.drop 80 := by
    rw [u64Bytes_u64Value (length_slice (by omega)), slice, take_of_length_le]
    rw [length_drop]
    omega
  have hspelled : ∀ uncertainty : UInt64, u64Bytes uncertainty = bytes.drop 80 →
      u64Bytes (u64Value (slice bytes 56 8)) ++ (u64Bytes (u64Value (slice bytes 64 8)) ++
        (u64Bytes (u64Value (slice bytes 72 8)) ++ u64Bytes uncertainty)) = bytes.drop 56 := by
    intro uncertainty huncertain
    rw [u64Bytes_u64Value (length_slice (by omega)), u64Bytes_u64Value (length_slice (by omega)),
      u64Bytes_u64Value (length_slice (by omega)), huncertain, slice_append_drop bytes 72 8,
      slice_append_drop bytes 64 8, slice_append_drop bytes 56 8]
  rw [not_or, not_and, not_and, not_not] at hreserved
  rcases hflags with rfl | rfl | rfl
  · refine ⟨rfl, ?_⟩
    -- Without a span the 32 bytes are zero.
    have hzero := hreserved.1 rfl
    simp only [any_eq_true, decide_eq_true_eq, not_exists, not_and, not_not] at hzero
    refine (eq_replicate_iff.mpr ⟨?_, hzero⟩).symm
    rw [length_drop]
    omega
  · refine ⟨rfl, hspelled 0 ?_⟩
    rw [← hlast, hreserved.2 (by decide)]
  · exact ⟨rfl, hspelled _ hlast⟩

theorem encode_of_decode {frame : FrameProvenance} (h : decode bytes = .ok frame) :
    frame.encode = .ok bytes := by
  simp only [decode] at h
  split at h
  · cases h
  next hhead =>
    split at h
    · cases h
    next hreserved =>
      obtain ⟨quality, hquality, h⟩ := bind_eq_ok h
      obtain ⟨_, hvalid, hdone⟩ := bind_eq_ok h
      cases hdone
      rw [not_or, not_or, not_or] at hhead
      obtain ⟨hlength, hfirst, hflags, hfourth⟩ := hhead
      rw [not_not] at hlength hfirst hflags hfourth
      have hlong : bytes.length = 88 := hlength
      obtain ⟨hspanFlags, hspanBytes⟩ := spanBytes_decodeSpan hlength hflags hreserved
      rw [encode, hvalid]
      rw [layout, hspanFlags, hspanBytes, CaptureMappingQuality.code_of_decode hquality]
      -- Field by field, from the last one on.
      iterate 3 rw [u32Bytes_u32Value (length_slice (by omega))]
      iterate 5 rw [u64Bytes_u64Value (length_slice (by omega))]
      rw [slice_append_drop bytes 52 4, slice_append_drop bytes 48 4, slice_append_drop bytes 40 8,
        slice_append_drop bytes 32 8, slice_append_drop bytes 28 4, slice_append_drop bytes 20 8,
        slice_append_drop bytes 12 8, slice_append_drop bytes 4 8]
      rcases bytes with _ | ⟨first, _ | ⟨flags, _ | ⟨code, _ | ⟨fourth, rest⟩⟩⟩⟩
      iterate 4 cases hlong
      simp only [getD_cons_zero, getD_cons_succ] at hfirst hfourth ⊢
      rw [hfirst, hfourth]
      rfl

end FrameProvenance

/-! ## Records and their bodies -/

/-- The records that are built in a recorder, each with the chunk it stands for. -/
inductive BuiltRecord : RecordedChunk → Bytes → Prop
  | frame (atMs : UInt64) (frame : AudioFrame) :
      BuiltRecord (.frame atMs frame.sequence frame.format.sampleRateHz frame.format.channels
        frame.format.sampleFormat frame.bytes) (frameRecord atMs frame)
  | untimedFrame (atMs : UInt64) (frame : AudioFrame) :
      BuiltRecord (.timedFrame atMs frame.format none frame.bytes)
        (timedFrameRecord atMs frame.format none frame.bytes)
  | timedFrame (atMs : UInt64) (frame : AudioFrame) {timing : TimedCapture} {body : Bytes}
      (htiming : timing ∈ frame.captureTiming) (hbody : timing.frame.encode = .ok body) :
      BuiltRecord (.timedFrame atMs frame.format (some timing.frame) frame.bytes)
        (timedFrameRecord atMs frame.format (some body) frame.bytes)
  | gapStarted (atMs : UInt64) {reason : String} (hreason : (utf8Bytes reason).length ≤ 255) :
      BuiltRecord (.gapStarted atMs reason) (gapStartedRecord atMs reason)
  | gapEnded (atMs : UInt64) : BuiltRecord (.gapEnded atMs) (gapEndedRecord atMs)
  | ended (atMs : UInt64) : BuiltRecord (.ended atMs) (endedRecord atMs)
  | policy : BuiltRecord .timingPolicy policyRecord
  | metadata {metadata : CaptureMetadata} {record : Bytes}
      (hrecord : metadataRecord metadata = .ok record) :
      BuiltRecord (.captureMetadata metadata) record
  | alignmentLimit : BuiltRecord .alignmentLimit alignmentLimitRecord

variable {chunk : RecordedChunk}

theorem BuiltRecord.decodes {record : Bytes} (h : BuiltRecord chunk record) :
    decodeChunk record = .ok chunk := by
  cases h with
  | frame atMs frame => exact decodeChunk_frameRecord atMs frame
  | untimedFrame atMs frame =>
    exact decodeChunk_timedFrameRecord atMs frame.format none frame.bytes_ne_nil
      frame.length_bytes_le frame.aligned (by simp)
  | @timedFrame atMs frame timing body htiming hbody =>
    obtain ⟨_, -, hlayout⟩ := bind_eq_ok hbody
    cases hlayout
    apply decodeChunk_timedFrameRecord atMs frame.format (some timing.frame)
      frame.bytes_ne_nil frame.length_bytes_le frame.aligned
    intro value hvalue
    cases hvalue
    exact frame.timing_valid timing htiming
  | gapStarted atMs hreason => exact decodeChunk_gapStartedRecord atMs (Nat.lt_succ_of_le hreason)
  | gapEnded atMs => exact decodeChunk_gapEndedRecord atMs
  | ended atMs => exact decodeChunk_endedRecord atMs
  | policy => exact decodeChunk_policyRecord
  | metadata hrecord => exact decodeChunk_metadataRecord hrecord
  | alignmentLimit => exact decodeChunk_alignmentLimitRecord

theorem metadataRecord_of_discontinuity {body : Bytes}
    (h : decodeChunk (chunkTimingDiscontinuity :: body) = .ok chunk) :
    ∃ metadata, chunk = .captureMetadata metadata ∧
      metadataRecord metadata = .ok (chunkTimingDiscontinuity :: body) := by
  have hkind : body.length = 9 ∧ decodeDiscontinuity body = .ok chunk := by
    simp only [decodeChunk, chunkTimingDiscontinuity, chunkPolicy, chunkTimedFrame, chunkEpoch,
      chunkClockPair, chunkAlignmentLimit, chunkFrame, chunkGapStarted, chunkGapEnded,
      chunkEnded] at h
    by_cases hlength : body.length = 9
    · exact ⟨hlength, by simpa [hlength] using h⟩
    · simp [hlength] at h
  obtain ⟨hlength, h⟩ := hkind
  simp only [decodeDiscontinuity] at h
  split at h
  · cases h
  next hepoch =>
    obtain ⟨reason, hreason, hdone⟩ := bind_eq_ok h
    cases hdone
    refine ⟨_, rfl, ?_⟩
    have hcode := CaptureDiscontinuityReason.code_of_decode (orElse_eq_ok.mp hreason)
    have hbody : slice body 0 8 ++ [body.getD 8 0] = body := by
      have hlast : 8 < body.length := by omega
      rw [slice, drop_zero, getD_eq_getElem body 0 hlast, take_append_getElem,
        take_of_length_le hlength.le]
    rw [metadataRecord, if_neg hepoch, hcode, u64Bytes_u64Value (length_slice (by omega)), hbody]

/-- Every record a recorder builds decodes to the chunk it was built from, and
the bodies of the timed metadata are canonical: re-encoding what was decoded
from any bytes gives these bytes back. -/
theorem records_canonical :
    (∀ chunk record, BuiltRecord chunk record → decodeChunk record = .ok chunk) ∧
    (∀ body frame, FrameProvenance.decode body = .ok frame → frame.encode = .ok body) ∧
    (∀ body epoch, CaptureEpoch.decode body = .ok epoch → epoch.encode = .ok body) ∧
    (∀ body pair, CaptureClockPair.decode body = .ok pair → pair.encode = .ok body) ∧
    ∀ body chunk, decodeChunk (chunkTimingDiscontinuity :: body) = .ok chunk →
      ∃ metadata, chunk = .captureMetadata metadata ∧
        metadataRecord metadata = .ok (chunkTimingDiscontinuity :: body) :=
  ⟨fun _ _ => BuiltRecord.decodes, fun _ _ => FrameProvenance.encode_of_decode,
    fun _ _ => CaptureEpoch.encode_of_decode, fun _ _ => CaptureClockPair.encode_of_decode,
    fun _ _ => metadataRecord_of_discontinuity⟩

end ConversationRuntime
