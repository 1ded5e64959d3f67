import ConversationRuntime.Recording.Reader

/-! # What a reader yields

Every chunk the reader yields belongs to the layout of its file, and the media
it carries are whole samples of a bounded size; a frame's timing is valid. The
size is bounded because the cipher adds a tag of fixed length to what it seals.
-/

namespace ConversationRuntime

open Foundation IdealAead

/-- The chunk may stand in a file of the layout, and its media are bounded. -/
def RecordedChunk.Fits (timed : Bool) : RecordedChunk → Prop
  | .timedFrame _ format timing bytes =>
    timed = true ∧ format.frameAlignmentBytes ∣ bytes.length ∧
      bytes.length ≤ maxChunkCiphertextBytes ∧
      ∀ provenance ∈ timing, provenance.validatePcm format bytes.length = .ok ()
  | .frame _ _ _ _ _ bytes => timed = false ∧ bytes.length ≤ maxChunkCiphertextBytes
  | _ => True

/-- Every logged call sealed with the key. -/
def SealedUnder (key : RecordingKey) (calls : List SealCall) : Prop :=
  ∀ call ∈ calls, ∀ ciphertext ∈ call.ciphertext,
    ciphertext = key.sealed call.nonce call.aad call.plaintext

variable {record body : Bytes} {chunk : RecordedChunk} {timed : Bool}

/-- What opens is shorter than its ciphertext. -/
theorem SealedUnder.length_le {key : RecordingKey} {calls : List SealCall}
    (h : SealedUnder key calls) {nonce aad ciphertext : Bytes}
    (hopen : openWith calls nonce aad ciphertext = some record) :
    record.length ≤ ciphertext.length := by
  obtain ⟨call, hcall, -, -, hciphertext, rfl⟩ := exists_call_of_openWith hopen
  rw [h call hcall ciphertext hciphertext, key.length_sealed]
  exact Nat.le_add_right _ _

theorem timedFrame_of_timedFrameChunk {atMs : UInt64} {format : PcmFormat}
    {timing : Option FrameProvenance} {bytes : Bytes}
    (h : timedFrameChunk atMs format timing bytes = .ok chunk) :
    chunk = .timedFrame atMs format timing bytes ∧ format.frameAlignmentBytes ∣ bytes.length ∧
      bytes.length ≤ maxPcmFrameBytes ∧
      ∀ provenance ∈ timing, provenance.validatePcm format bytes.length = .ok () := by
  unfold timedFrameChunk at h
  by_cases hbad : bytes = [] ∨ maxPcmFrameBytes < bytes.length ∨
      ¬ format.frameAlignmentBytes ∣ bytes.length
  · rw [if_pos hbad] at h
    cases h
  · rw [if_neg hbad] at h
    simp only [not_or, not_lt, not_not] at hbad
    cases timing with
    | none =>
      cases h
      exact ⟨rfl, hbad.2.2, hbad.2.1, by simp⟩
    | some provenance =>
      obtain ⟨valid, hvalid, hdone⟩ := bind_eq_ok h
      cases hdone
      refine ⟨rfl, hbad.2.2, hbad.2.1, fun other hother => ?_⟩
      cases hother
      exact orElse_eq_ok.mp hvalid

/-- What a timed frame decodes to. -/
theorem fits_of_decodeTimedFrame (h : decodeTimedFrame body = .ok chunk) : chunk.Fits true := by
  unfold decodeTimedFrame at h
  by_cases hshort : body.length < 16
  · rw [if_pos hshort] at h
    cases h
  · rw [if_neg hshort] at h
    obtain ⟨sampleFormat, -, h⟩ := bind_eq_ok h
    obtain ⟨format, -, h⟩ := bind_eq_ok h
    obtain ⟨⟨timing, offset⟩, -, h⟩ := bind_eq_ok h
    obtain ⟨rfl, haligned, hlength, hvalid⟩ := timedFrame_of_timedFrameChunk h
    have hsmall : maxPcmFrameBytes ≤ maxChunkCiphertextBytes := by decide
    exact ⟨rfl, haligned, hlength.trans hsmall, hvalid⟩

theorem fits_of_decodeFrame (h : decodeFrame body = .ok chunk)
    (hlength : body.length ≤ maxChunkCiphertextBytes) : chunk.Fits false := by
  unfold decodeFrame at h
  by_cases hshort : body.length < 23
  · rw [if_pos hshort] at h
    cases h
  · rw [if_neg hshort] at h
    obtain ⟨sampleFormat, -, h⟩ := bind_eq_ok h
    cases h
    refine ⟨rfl, ?_⟩
    rw [List.length_drop]
    omega

theorem fits_of_decodeMoment {build : UInt64 → RecordedChunk}
    (h : decodeMoment body build = .ok chunk) (hbuild : ∀ atMs, (build atMs).Fits timed) :
    chunk.Fits timed := by
  unfold decodeMoment at h
  split at h
  · cases h
  · cases h
    exact hbuild _

theorem fits_of_decodeGapStarted (h : decodeGapStarted body = .ok chunk) : chunk.Fits timed := by
  unfold decodeGapStarted at h
  by_cases hshort : body.length < 9
  · rw [if_pos hshort] at h
    cases h
  · rw [if_neg hshort] at h
    by_cases htorn : body.length < 9 + (body.getD 8 0).toNat
    · rw [if_pos htorn] at h
      cases h
    · rw [if_neg htorn] at h
      obtain ⟨reason, -, h⟩ := bind_eq_ok h
      cases h
      trivial

theorem fits_of_decodeDiscontinuity (h : decodeDiscontinuity body = .ok chunk) :
    chunk.Fits timed := by
  unfold decodeDiscontinuity at h
  by_cases hzero : u64Value (slice body 0 8) = 0
  · rw [if_pos hzero] at h
    cases h
  · rw [if_neg hzero] at h
    obtain ⟨reason, -, h⟩ := bind_eq_ok h
    cases h
    trivial

/-- A chunk fits the layout whose records may have its kind. -/
theorem fits_of_decodeChunk {kind : UInt8}
    (hkind : ¬ ((timed = true ∧ kind = chunkFrame) ∨ (¬ timed = true ∧ chunkPolicy ≤ kind)))
    (hlength : body.length ≤ maxChunkCiphertextBytes) (h : decodeChunk (kind :: body) = .ok chunk) :
    chunk.Fits timed := by
  rw [decodeChunk] at h
  -- One split per kind of record, in the order the decoder asks.
  split at h
  · cases h
    trivial
  split at h
  next htimed =>
    have hlayout : timed = true := by
      by_contra hlegacy
      exact hkind (.inr ⟨hlegacy, htimed ▸ by decide⟩)
    rw [hlayout]
    exact fits_of_decodeTimedFrame h
  split at h
  · obtain ⟨epoch, -, h⟩ := bind_eq_ok h
    cases h
    trivial
  split at h
  · obtain ⟨pair, -, h⟩ := bind_eq_ok h
    cases h
    trivial
  split at h
  · exact fits_of_decodeDiscontinuity h
  split at h
  · cases h
    trivial
  split at h
  next hframe =>
    have hlayout : timed = false := by
      by_contra htimed
      exact hkind (.inl ⟨by simpa using htimed, hframe⟩)
    rw [hlayout]
    exact fits_of_decodeFrame h hlength
  split at h
  · exact fits_of_decodeGapStarted h
  split at h
  · exact fits_of_decodeMoment h fun _ => trivial
  split at h
  · exact fits_of_decodeMoment h fun _ => trivial
  · cases h

theorem fits_of_checkRecord {strict : Bool} (h : checkRecord timed strict record = .ok chunk)
    (hlength : record.length ≤ maxChunkCiphertextBytes) : chunk.Fits timed := by
  cases record with
  | nil => cases h
  | cons kind body =>
    unfold checkRecord at h
    change (if _ then _ else _ : Except RuntimeError RecordedChunk) = _ at h
    split at h
    · cases h
    next hkind =>
      split at h
      · cases h
      · have hbody : body.length ≤ maxChunkCiphertextBytes := (Nat.le_succ _).trans hlength
        exact fits_of_decodeChunk hkind hbody h

/-- The strict check only refuses more. -/
theorem checkRecord_lenient (h : checkRecord timed true record = .ok chunk) (strict : Bool) :
    checkRecord timed strict record = .ok chunk := by
  cases strict with
  | true => exact h
  | false =>
    obtain ⟨kind, hkind, h⟩ := bind_eq_ok h
    unfold checkRecord
    rw [hkind]
    change (if _ then _ else _ : Except RuntimeError RecordedChunk) = _ at h
    change (if _ then _ else _ : Except RuntimeError RecordedChunk) = _
    split at h
    · cases h
    next hlayout =>
      rw [if_neg hlayout]
      split at h
      · cases h
      · rw [if_neg (by simp)]
        exact h

namespace RecordedChunks

variable {calls : List SealCall} {header : Bytes} {counter : Nat}

theorem openChunk_lenient {ciphertext : Bytes} {chunk : RecordedChunk}
    (h : openChunk calls header true counter ciphertext = .ok chunk) (strict : Bool) :
    openChunk calls header strict counter ciphertext = .ok chunk := by
  obtain ⟨record, hrecord, hcheck, hcounter⟩ := (openChunk_eq_ok calls).mp h
  exact (openChunk_eq_ok calls).mpr ⟨record, hrecord, checkRecord_lenient hcheck strict, hcounter⟩

/-- What the strict reader reads without an error, any reader reads. -/
theorem readout_lenient {stream : Bytes} {truncated : Bool}
    (h : (readout calls (cursor header true counter stream)).ending = .ok truncated)
    (strict : Bool) :
    readout calls (cursor header strict counter stream) =
      readout calls (cursor header true counter stream) := by
  -- Each chunk leaves a shorter stream behind it.
  induction hlength : stream.length using Nat.strongRecOn generalizing counter stream with
  | ind length ih =>
    have hnext := nextChunk_cursor calls header true counter stream
    have hother := nextChunk_cursor calls header strict counter stream
    cases hfound : LengthPrefixed.next maxChunkCiphertextBytes stream with
    | finished =>
      rw [hfound] at hnext hother
      rw [readout_of_none calls hnext, readout_of_none calls hother]
      rfl
    | torn =>
      rw [hfound] at hnext hother
      rw [readout_of_none calls hnext, readout_of_none calls hother]
    | oversized =>
      rw [hfound] at hnext
      rw [readout_of_error calls hnext] at h
      cases h
    | body ciphertext rest =>
      rw [hfound] at hnext hother
      cases hopen : openChunk calls header true counter ciphertext with
      | error error =>
        rw [answer_of_closed calls header true hopen] at hnext
        rw [readout_of_error calls hnext] at h
        cases h
      | ok chunk =>
        rw [answer_of_open calls header true hopen] at hnext
        rw [answer_of_open calls header strict (openChunk_lenient hopen strict)] at hother
        rw [readout_of_chunk calls hnext] at h
        have hshorter : rest.length < length := hlength ▸ LengthPrefixed.length_rest_lt hfound
        rw [readout_of_chunk calls hnext, readout_of_chunk calls hother,
          ih rest.length hshorter h rfl]

/-- Every chunk of a walk over a file fits the layout its header states. -/
theorem fits_of_readout {key : RecordingKey} (hsealed : SealedUnder key calls) {strict : Bool}
    {stream : Bytes} {chunk : RecordedChunk}
    (hchunk : chunk ∈ (readout calls (cursor header strict counter stream)).chunks) :
    chunk.Fits (isTimedHeader header) := by
  obtain ⟨bodies, rest, -, hopens, -⟩ := exists_frames_of_readout calls header strict counter stream
  obtain ⟨index, hindex⟩ := List.mem_iff_getElem?.mp hchunk
  have hbound : index < bodies.length := by
    rw [hopens.length_eq]
    exact (List.getElem?_eq_some_iff.mp hindex).1
  obtain ⟨hlength, hopen⟩ := hopens.opens (List.getElem?_eq_getElem hbound) hindex
  obtain ⟨record, hrecord, hcheck, -⟩ := (openChunk_eq_ok calls).mp hopen
  exact fits_of_checkRecord hcheck ((hsealed.length_le hrecord).trans hlength)

end RecordedChunks

end ConversationRuntime
