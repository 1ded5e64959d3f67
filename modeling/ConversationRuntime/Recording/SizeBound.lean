import ConversationRuntime.Recording.FileRuns
import ConversationRuntime.Recording.Feeding

/-! # The size limit

The guard looks at the size after every call that writes and closes the
recorder while the headroom still has room for what one call may add. As long
as nothing fails, the file therefore stays within the size limit, and so within
what recovery admits. Bytes of an append that failed are not counted.
-/

namespace ConversationRuntime

open Foundation LengthPrefixed SealedFile List Nat

/-- What the recorder counts is what stands in its file. -/
def SealedFile.Counted (file : SealedFile) : Prop :=
  file.writtenBytes = min file.content.length u64Max

/-- Without faults the count stays right along every run. -/
theorem counted_fileRule {env : Environment} (hfaultless : env.Faultless)
    (identity : RecordingIdentity) : FileRule env identity Counted where
  asked := fun _ _ _ h => h
  poisoned := fun _ h => h
  failed := by
    intro file record error reached hrecord h hfailure
    obtain ⟨-, rfl⟩ := hfailure.exhausted_of_faultless hfaultless hrecord.length_le
    exact h
  appended := by
    intro file record _ h _ _
    unfold Counted at h ⊢
    simp only [afterAppend, length_append, length_frame]
    rw [h, saturatingAdd_min, saturatingAdd_min, add_assoc]

theorem counted_start (identity : RecordingIdentity) : (start identity.header).Counted := by
  change identity.header.length = min identity.header.length u64Max
  rw [identity.length_header]
  rfl

namespace SessionRecorder

open Fallible

variable {env : Environment}

/-! ## Within the limit -/

/-- Room for the chunks of a start and for those owed. -/
def allowanceBytes : Nat := 128

/-- The recorder still has its headroom, or takes nothing more and has kept
within the limit. -/
structure WithinLimit (limits : RecordingLimits) (recorder : SessionRecorder) : Prop where
  limits_eq : recorder.safety.limits = limits
  within : recorder.committed + sizeHeadroomBytes ≤ limits.maxBytes + allowanceBytes ∨
    Full recorder ∧ recorder.file.content.length ≤ limits.maxBytes

variable {limits : RecordingLimits} {recorder : SessionRecorder}

theorem WithinLimit.length_le (h : WithinLimit limits recorder) :
    recorder.file.content.length ≤ limits.maxBytes := by
  rcases h.within with hroom | ⟨-, hlength⟩
  · have hcommitted := recorder.length_le_committed
    simp only [sizeHeadroomBytes, allowanceBytes] at hroom
    omega
  · exact hlength

theorem owed_le (recorder : SessionRecorder) : recorder.owed ≤ 50 := by
  unfold owed momentChunkBytes alignmentChunkBytes
  split <;> split <;> omega

/-- A recorder that has just looked at its size has its headroom. -/
theorem headroom_of_observed (hlimits : recorder.safety.limits = limits)
    (hcounted : recorder.file.Counted)
    (hsize : recorder.safety.sizeReached recorder.file.writtenBytes = false) :
    recorder.committed + sizeHeadroomBytes ≤ limits.maxBytes + allowanceBytes := by
  have howed := recorder.owed_le
  have hmax := limits.maxBytes_le
  unfold Counted at hcounted
  simp only [RecordingSafetyGuard.sizeReached, decide_eq_false_iff_not, not_lt, hlimits,
    hcounted, saturatingAdd] at hsize
  simp only [committed, allowanceBytes, maxRecordingBytesLimit, mib, sizeHeadroomBytes, u64Max]
    at hsize hmax ⊢
  omega

theorem WithinLimit.step (hfaultless : env.Faultless) (operation : Operation)
    (hcounted : (SessionRecorder.step env recorder operation).file.Counted)
    (h : WithinLimit limits recorder) :
    WithinLimit limits (SessionRecorder.step env recorder operation) := by
  by_cases hmark : operation = .markIncomplete
  · subst hmark
    change WithinLimit limits recorder.markIncompleteState
    unfold markIncompleteState
    split
    · exact h
    · exact ⟨h.limits_eq, h.within⟩
  have hfed : Fed env recorder _ _ := fed_of_step hmark recorder
  have hlimits := hfed.limits.trans h.limits_eq
  refine ⟨hlimits, ?_⟩
  rcases h.within with hroom | ⟨hfull, hlength⟩
  · rcases hfed.length hfaultless with hsmall | hobserved | ⟨hfull, hlength⟩
    · exact .inl (by omega)
    · exact .inl (headroom_of_observed hlimits hcounted hobserved)
    · right
      refine ⟨hfull, ?_⟩
      simp only [sizeHeadroomBytes, allowanceBytes, largestChunkBytes, momentChunkBytes,
        maxPcmFrameBytes] at hroom hlength
      omega
  · right
    obtain ⟨later, moved, frames, hreach⟩ := step_reach env operation recorder 0 []
    have hrests := kept_of_reach _ Resting.change hreach (.refl hfull)
    exact ⟨hrests.full, hrests.content_eq ▸ hlength⟩

variable {identity : RecordingIdentity}

theorem WithinLimit.run (hfaultless : env.Faultless)
    (hkept : FileKept identity Counted recorder) (operations : List Operation)
    (h : WithinLimit limits recorder) : WithinLimit limits (run env recorder operations) := by
  induction operations generalizing recorder with
  | nil => exact h
  | cons operation rest ih =>
    have hnext : FileKept identity Counted (.step env recorder operation) :=
      .run (counted_fileRule hfaultless identity) [operation] hkept
    exact ih hnext (h.step hfaultless operation hnext.file)

theorem WithinLimit.start {started : SessionRecorder}
    (hstart : start env identity limits = .ok started) (hroom : sizeHeadroomBytes < limits.maxBytes)
    : WithinLimit limits started := by
  have hheader : (startFormat identity limits).committed ≤ headerLen + alignmentChunkBytes := by
    simp only [committed, owed, startFormat, SealedFile.start, identity.length_header,
      Option.isSome_none, Bool.false_eq_true, if_false]
    cases identity.timed with
    | true => exact le_of_eq rfl
    | false => exact le_add_right _ _
  rcases start_cases hstart with ⟨-, rfl⟩ | ⟨-, timing, -, rfl⟩
  · refine ⟨rfl, .inl ?_⟩
    simp only [headerLen, alignmentChunkBytes, allowanceBytes] at hheader ⊢
    omega
  · refine ⟨rfl, .inl ?_⟩
    have hlength : policyRecord.length = 33 := rfl
    rw [committed_afterAppend, hlength]
    simp only [headerLen, alignmentChunkBytes, allowanceBytes] at hheader ⊢
    omega

/-- Without faults the file of a recorder with room below its limit never
outgrows it, nor what recovery admits; and from the first stop on nothing is
sealed, written or reported. -/
theorem size_within_limit {identity : RecordingIdentity} {limits : RecordingLimits}
    {started : SessionRecorder} (hstart : start env identity limits = .ok started)
    (hroom : sizeHeadroomBytes < limits.maxBytes) (operations : List Operation) :
    (env.Faultless → (run env started operations).file.content.length ≤ limits.maxBytes) ∧
    limits.maxBytes ≤ maxFinalizedRecordingBytes ∧
    ∀ before after, operations = before ++ after →
      anyStopped (run env started before).produced = true →
      (run env started operations).file.content = (run env started before).file.content ∧
      (run env started operations).file.seals = (run env started before).file.seals ∧
      (run env started operations).produced = (run env started before).produced := by
  refine ⟨fun hfaultless => ?_, ?_, ?_⟩
  · have hkept := FileKept.start (counted_fileRule hfaultless identity)
      (counted_start identity) hstart
    have hwithin := WithinLimit.run hfaultless hkept operations (.start hstart hroom)
    exact hwithin.length_le
  · refine limits.maxBytes_le.trans ?_
    decide
  · intro before after hoperations hstopped
    have hended : (run env started before).ended = true :=
      (run_kept _ StopCloses.change before (.start hstart)).closes hstopped
    subst hoperations
    have hrests : Resting (run env started before) (run env started (before ++ after)) := by
      rw [run_append]
      exact run_kept _ Resting.change after (.refl (.inl hended))
    obtain ⟨-, hseals, hproduced⟩ := hrests.closed hended
    exact ⟨hrests.content_eq, hseals, hproduced⟩

theorem size_within_limit_stopped :
    let limits : RecordingLimits :=
      ⟨1, 1, sizeHeadroomBytes + 1, none, by decide, by decide, by decide, by decide⟩
    let started := startFormat (.sample false) limits
    let stopped := run .calm started [.recordCaptureGap]
    let last := run .calm started [.recordCaptureGap, .recordCaptureGap, .finalize]
    anyStopped stopped.produced = true ∧ last.file.content.length ≤ limits.maxBytes ∧
      last.file.content = stopped.file.content ∧ last.produced = stopped.produced := by
  intro limits started stopped last
  have hstopped : anyStopped stopped.produced = true := by decide +kernel
  have hroom : sizeHeadroomBytes < limits.maxBytes := by decide +kernel
  have hstart : start .calm (.sample false) limits = .ok started := rfl
  have hwithin := size_within_limit hstart hroom
    [.recordCaptureGap, .recordCaptureGap, .finalize]
  have hlast : run .calm started [.recordCaptureGap, .recordCaptureGap, .finalize] = last := rfl
  have hfaultless : Environment.calm.Faultless := fun _ => rfl
  rw [hlast] at hwithin
  obtain ⟨hlength, -, hafter⟩ := hwithin
  obtain ⟨hcontent, -, hproduced⟩ :=
    hafter [.recordCaptureGap] [.recordCaptureGap, .finalize] rfl hstopped
  have hfirst : run .calm started [.recordCaptureGap] = stopped := rfl
  rw [hfirst] at hcontent hproduced
  exact ⟨hstopped, hlength hfaultless, hcontent, hproduced⟩

/-! ## Appends that fail are not counted -/

/-- Surroundings that take every byte but never flush. -/
def unflushed : Environment := { Environment.calm with flushFails := fun _ => true }

theorem writeChunk_unflushed (ciphertext : Bytes) (file : SealedFile) :
    writeChunk unflushed ciphertext file = (.ok false,
      { file with content := file.content ++ frame ciphertext, tick := file.tick + 3 }) := by
  have hwrite : ∀ (bytes : Bytes) (file : SealedFile), sinkWrite unflushed bytes file =
      (.ok true, { file with content := file.content ++ bytes, tick := file.tick + 1 }) := by
    intro bytes file
    change (Except.ok true, { file with content := file.content ++ bytes.take bytes.length,
                                        tick := file.tick + 1 }) = _
    rw [take_length]
  unfold writeChunk
  rw [bind_of_ok (hwrite _ _), if_pos rfl, bind_of_ok (hwrite _ _), if_pos rfl, append_assoc]
  rfl

/-- Without a flush an append leaves its whole chunk behind and fails. -/
theorem append_unflushed (header record : Bytes) (file : SealedFile)
    (hcounter : file.counter < u32Max) (hsize : record.length + 16 ≤ maxChunkCiphertextBytes) :
    ∃ error after, SealedFile.append unflushed header record file = (.error error, after) ∧
      after.counter = file.counter + 1 ∧
      after.content.length = file.content.length + record.length + 20 := by
  have hlength := file.length_sealedRecord unflushed header record
  refine ⟨adapterError "recording chunk could not be written",
    file.afterFailure header record (some (file.sealedRecord unflushed header record))
      (frame (file.sealedRecord unflushed header record)) 4, ?_, rfl, ?_⟩
  · unfold SealedFile.append
    rw [read_bind, update_bind, bind_of_ok (require_of_true hcounter _), update_bind,
      bind_of_ok (sealRecord_apply _ _ _ _ _),
      bind_of_ok (require_of_true (hlength ▸ hsize) _), bind_of_ok (writeChunk_unflushed _ _)]
    rfl
  · simp only [afterFailure, length_append, length_frame, hlength]
    omega

/-- A legacy recorder that has met `format` and written `file`. -/
def legacy (limits : RecordingLimits) (format : Option PcmFormat) (file : SealedFile) :
    SessionRecorder :=
  { startFormat (.sample false) limits with format, file }

variable {format : Option PcmFormat} {frame : AudioFrame}

/-- A frame given in vain leaves its bytes in the file. -/
theorem step_unflushed (limits : RecordingLimits) {file : SealedFile}
    (hformat : ∀ known ∈ format, known = frame.format) (hcounter : file.counter < u32Max) :
    ∃ after, step unflushed (legacy limits format file) (.recordFrame frame) =
        legacy limits (some frame.format) after ∧
      after.counter = file.counter + 1 ∧
      file.content.length + frame.bytes.length ≤ after.content.length := by
  have hframe := frame.length_bytes_le
  have hrecord : (frameRecord (unflushed.clockMs file.tick) frame).length =
      frame.bytes.length + 24 := by
    simp only [frameRecord, length_cons, length_append, length_u64Bytes,
      length_u32Bytes, length_u16Bytes]
    omega
  have hadopt : adoptFormat frame.format (legacy limits format file) =
      (.ok format.isSome, legacy limits (some frame.format) file) := by
    cases format with
    | none => rfl
    | some known =>
      obtain rfl := hformat known rfl
      exact bind_of_ok (require_of_true rfl _)
  obtain ⟨error, after, hfile, hcount, hlength⟩ :=
    append_unflushed (legacy limits format file).header
      (frameRecord (unflushed.clockMs file.tick) frame) { file with tick := file.tick + 1 } hcounter
      (by simp only [maxChunkCiphertextBytes, maxPcmFrameBytes] at hframe ⊢; omega)
  have happend : append unflushed (frameRecord (unflushed.clockMs file.tick) frame)
      (legacy limits (some frame.format) { file with tick := file.tick + 1 }) =
      (.error error, legacy limits (some frame.format) after) := by
    exact (bind_of_error (congrArg (fun run =>
      (run.1, legacy limits (some frame.format) run.2)) hfile) : (_ >>= fun _ => update _) _ = _)
  refine ⟨after, ?_, hcount, by simp only at hlength; omega⟩
  have hlegacy : recordLegacyFrame unflushed frame _ _ = _ := bind_of_error happend
  have hrun : recordFrame unflushed frame (legacy limits format file) =
      (.error error, legacy limits (some frame.format) after) := by
    rw [recordFrame, bind_of_ok hadopt]
    exact (bind_of_error hlegacy : (_ >>= fun _ => enforceLimits unflushed (some frame)) _ = _)
  exact congrArg Prod.snd hrun

theorem run_unflushed (limits : RecordingLimits) (file : SealedFile)
    (hformat : ∀ known ∈ format, known = frame.format) (times : Nat)
    (hcounter : file.counter + times < u32Max) :
    file.content.length + times * frame.bytes.length ≤ (run unflushed (legacy limits format file)
        (replicate times (.recordFrame frame))).file.content.length := by
  induction times generalizing format file with
  | zero => simp [run, legacy]
  | succ times ih =>
    obtain ⟨after, hstep, hcount, hlength⟩ :=
      step_unflushed limits hformat (by omega : file.counter < u32Max)
    have hrest := ih after (by simp : ∀ known ∈ some frame.format, known = _) (by omega)
    rw [← hstep] at hrest
    rw [succ_mul]
    exact le_trans (by omega) hrest

/-- A silent frame of the largest permitted size. -/
def longestFrame : AudioFrame :=
  { AudioFrame.sample false with
    bytes := List.replicate maxPcmFrameBytes 0
    bytes_ne_nil := List.ne_nil_of_length_pos (by rw [List.length_replicate]; decide)
    length_bytes_le := List.length_replicate.le
    aligned := by rw [List.length_replicate]; decide
    timing_valid := by simp [AudioFrame.sample]
    epoch_eq := by simp [AudioFrame.sample]
    sequence_eq := by simp [AudioFrame.sample] }

/-- Five frames that are written but never flushed pass a limit larger than the
headroom: the bytes of a failed append are not counted. -/
theorem unflushed_frames_exceed_limit :
    let limits : RecordingLimits :=
      ⟨1, 1, sizeHeadroomBytes + 1, none, by decide, by decide, by decide, by decide⟩
    let started := startFormat (.sample false) limits
    let recorder := run unflushed started (replicate 5 (.recordFrame longestFrame))
    start unflushed (.sample false) limits = .ok started ∧ sizeHeadroomBytes < limits.maxBytes ∧
      limits.maxBytes < recorder.file.content.length := by
  intro limits started recorder
  have hwritten := run_unflushed limits (.start (RecordingIdentity.sample false).header)
    (nofun : ∀ known ∈ none, known = longestFrame.format) 5 (by decide +kernel)
  have hframe : longestFrame.bytes.length = maxPcmFrameBytes := length_replicate
  have hexceeds : limits.maxBytes < 5 * maxPcmFrameBytes := by decide +kernel
  have hstarted : legacy limits none (SealedFile.start (RecordingIdentity.sample false).header) =
      started := rfl
  have hrun : run unflushed started (replicate 5 (.recordFrame longestFrame)) = recorder := rfl
  rw [hframe, hstarted, hrun] at hwritten
  exact ⟨rfl, by decide +kernel, lt_of_lt_of_le hexceeds (le_of_add_le_right hwritten)⟩

end SessionRecorder

end ConversationRuntime
