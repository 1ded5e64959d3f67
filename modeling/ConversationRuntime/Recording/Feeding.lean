import ConversationRuntime.Recording.Changes

/-! # What one feeding call does

A call that feeds a frame, a gap or metadata appends a few chunks and then
looks at the limits. It closes the recorder only after all it appended has
succeeded, so a call that closes a recorder leaves it as complete as it was.
Without faults it adds at most one large chunk before the size is looked at:
what a refused call leaves behind unobserved was owed by an open gap or by the
timing budget before.
-/

namespace ConversationRuntime

open Foundation LengthPrefixed FrameProvenance RecordingSafetyGuard List Option

/-! ## The size of a chunk -/

/-- The chunk of a record that states a kind and a time. -/
def momentChunkBytes : Nat := 29

/-- The chunk that ends the timing records. -/
def alignmentChunkBytes : Nat := 21

/-- No single chunk of a recorder is longer. -/
def largestChunkBytes : Nat := maxPcmFrameBytes + 180

theorem length_putId_le {id : String} (hid : isCaptureIdentifier id = true) :
    (putId id).length ≤ 65 := by
  simp only [isCaptureIdentifier, Bool.and_eq_true, decide_eq_true_iff] at hid
  have hlength := hid.1.2
  simp only [maxCaptureIdentifierBytes] at hlength
  simp only [putId, length_cons]
  omega

variable {record : Bytes}

theorem length_metadataRecord_le {metadata : CaptureMetadata}
    (hrecord : metadataRecord metadata = .ok record) : record.length ≤ 160 := by
  cases metadata with
  | epoch epoch =>
    obtain ⟨body, hbody, hdone⟩ := bind_eq_ok hrecord
    obtain ⟨valid, hvalid, hlayout⟩ := bind_eq_ok (orElse_eq_ok.mp hbody)
    cases hdone
    cases hlayout
    obtain ⟨hbridge, hdomain⟩ := CaptureEpoch.isCaptureIdentifier_of_validate hvalid
    have hbridgeLength := length_putId_le hbridge
    have hdomainLength := length_putId_le hdomain
    simp only [CaptureEpoch.layout, length_cons, length_append, length_u64Bytes, length_nil]
    omega
  | clockPair pair =>
    obtain ⟨body, hbody, hdone⟩ := bind_eq_ok hrecord
    obtain ⟨valid, hvalid, hlayout⟩ := bind_eq_ok (orElse_eq_ok.mp hbody)
    cases hdone
    cases hlayout
    have hdomain := length_putId_le (CaptureClockPair.isCaptureIdentifier_of_validate hvalid)
    simp only [CaptureClockPair.layout, length_cons, length_append, length_u64Bytes,
      length_i64Bytes]
    omega
  | discontinuity captureEpoch reason =>
    rw [metadataRecord] at hrecord
    split at hrecord
    · cases hrecord
    · cases hrecord
      simp

/-- Every record a recorder appends is a frame or shorter than any frame may be. -/
theorem EmittedRecord.length_le {timed : Bool} (h : EmittedRecord timed record) :
    record.length ≤ maxPcmFrameBytes + 160 := by
  cases h with
  | policy htimed =>
    have hlength : policyRecord.length = 33 := rfl
    omega
  | frame htimed atMs frame =>
    have hbytes := frame.length_bytes_le
    simp only [frameRecord, length_cons, length_append, length_u64Bytes,
      length_u32Bytes, length_u16Bytes]
    omega
  | @timedFrame htimed atMs format timing bytes hbytes hlength =>
    have htiming : ((timing.map layout).getD []).length ≤ 88 := by
      cases timing with
      | none => exact Nat.zero_le _
      | some value => exact (length_layout value).le
    simp only [timedFrameRecord, length_cons, length_append, length_timedFrameHead]
    omega
  | metadata htimed hrecord =>
    have hlength := length_metadataRecord_le hrecord
    omega
  | alignmentLimit htimed =>
    have hlength : alignmentLimitRecord.length = 1 := rfl
    omega
  | @gapStarted atMs reason hreason =>
    have hshort : (gapStartedRecord atMs reason).length ≤ 40 := by
      rcases hreason with rfl | rfl
      · simp only [gapStartedRecord, length_cons, length_append, length_u64Bytes]
        decide
      · simp only [gapStartedRecord, length_cons, length_append, length_u64Bytes]
        decide
    omega
  | gapEnded atMs =>
    have hlength : (gapEndedRecord atMs).length = 9 := rfl
    omega
  | ended atMs =>
    have hlength : (endedRecord atMs).length = 9 := rfl
    omega

/-- The seal, the writes and the flushes never fail. -/
def Environment.Faultless (env : Environment) : Prop := ∀ tick, env.faultAt tick = false

/-- Without faults an append fails only once the counter is spent, and then
leaves the bytes alone. -/
theorem SealedFile.AppendFailure.exhausted_of_faultless {env : Environment} {header : Bytes}
    {file reached : SealedFile} {error : RuntimeError}
    (h : AppendFailure env header record file error reached) (hfaultless : env.Faultless)
    (hlength : record.length ≤ maxPcmFrameBytes + 160) :
    u32Max ≤ file.counter ∧ reached = { file with capabilityPoisoned := true } := by
  cases h with
  | exhausted hcounter => exact ⟨hcounter, rfl⟩
  | failed _ _ _ _ _ _ _ hcause =>
    rcases hcause with hlong | ⟨tick, -, -, hfault⟩
    · simp only [maxChunkCiphertextBytes, maxPcmFrameBytes] at hlong hlength
      omega
    · rw [hfaultless tick] at hfault
      cases hfault

namespace SessionRecorder

open Fallible

/-- The chunks a refused call may still write: the end of an open gap, and the
end of the timing records. -/
def owed (recorder : SessionRecorder) : Nat :=
  (if recorder.openGapAtMs.isSome then momentChunkBytes else 0) +
    (if recorder.timingBudget.any (fun budget => !budget.exhausted) then alignmentChunkBytes else 0)

/-- The length of the file with the chunks that are owed. -/
def committed (recorder : SessionRecorder) : Nat := recorder.file.content.length + recorder.owed

theorem length_le_committed (recorder : SessionRecorder) :
    recorder.file.content.length ≤ recorder.committed := Nat.le_add_right _ _

/-- An append adds exactly its chunk. -/
theorem committed_afterAppend (env : Environment) (recorder : SessionRecorder) (record : Bytes)
    (timing : Option TimedValidation) :
    (recorder.afterAppend env record timing).committed =
      recorder.committed + (record.length + 20) := by
  simp only [committed, owed, afterAppend, SealedFile.afterAppend, length_append,
    length_frame, SealedFile.length_sealedRecord]
  omega

/-- A call on `origin` that has not failed, and has not written past `bound`. -/
structure Feeding (origin : SessionRecorder) (bound : Nat) (recorder : SessionRecorder) : Prop where
  limits : recorder.safety.limits = origin.safety.limits
  ended : recorder.ended = origin.ended
  incomplete : recorder.isIncomplete = origin.isIncomplete
  committed_le : recorder.committed ≤ bound

/-- What a call on `origin` leaves. If it closed the recorder it did not fail;
without faults it stayed within `bound`, or looked at the size afterwards, or
left a recorder that takes nothing more. -/
structure Fed (env : Environment) (origin : SessionRecorder) (bound : Nat)
    (recorder : SessionRecorder) : Prop where
  limits : recorder.safety.limits = origin.safety.limits
  closed : recorder.ended = true → recorder.isIncomplete = origin.isIncomplete
  length : env.Faultless → recorder.committed ≤ bound ∨
    recorder.safety.sizeReached recorder.file.writtenBytes = false ∨
    (recorder.ended = true ∨ u32Max ≤ recorder.file.counter) ∧
      recorder.file.content.length ≤ bound + largestChunkBytes + momentChunkBytes

variable {env : Environment} {origin recorder : SessionRecorder} {bound : Nat}
  {facts : SessionRecorder → Prop}

section

variable (h : Feeding origin bound recorder)
include h

theorem Feeding.fed : Fed env origin bound recorder :=
  ⟨h.limits, fun _ => h.incomplete, fun _ => .inl h.committed_le⟩

theorem Feeding.weaken {later : Nat} (hle : bound ≤ later) :
    Feeding origin later recorder := { h with committed_le := h.committed_le.trans hle }

end

theorem Fed.weaken {later : Nat} (h : Fed env origin bound recorder) (hle : bound ≤ later) :
    Fed env origin later recorder := by
  refine ⟨h.limits, h.closed, fun hfaultless => ?_⟩
  rcases h.length hfaultless with hsmall | hobserved | ⟨hfull, hlength⟩
  · exact .inl (hsmall.trans hle)
  · exact .inr (.inl hobserved)
  · exact .inr (.inr ⟨hfull, by omega⟩)

/-- The program is part of a call on `origin`: where it returns, the call stands as `after`
says, and where it fails, the call has ended. -/
abbrev Feeds (env : Environment) (origin : SessionRecorder) (bound : Nat) {α : Type}
    (program : Recording α) (after : SessionRecorder → Prop) : Prop :=
  Triple (Feeding origin bound) program (fun _ => after) (fun _ => Fed env origin bound)

variable {record : Bytes} {failed : RuntimeError → SessionRecorder → Prop}
  {timing : Option TimedValidation}

theorem Feeding.appended (h : Feeding origin bound recorder) :
    Feeding origin (bound + (record.length + 20)) (recorder.afterAppend env record timing) :=
  { h with
    committed_le := by
      rw [committed_afterAppend]
      exact Nat.add_le_add_right h.committed_le _ }

/-- An append that fails leaves an open recorder that, without faults, takes
nothing more. -/
theorem Feeding.broken {written : Nat} (h : Feeding origin written recorder)
    (hwritten : written ≤ bound + largestChunkBytes + momentChunkBytes)
    (hended : recorder.ended = false) {error : RuntimeError} {file : SealedFile}
    (hlength : record.length ≤ maxPcmFrameBytes + 160)
    (hfailure : SealedFile.AppendFailure env recorder.header record recorder.file error file) :
    Fed env origin bound { recorder with file := file } := by
  refine ⟨h.limits, fun hclosed => absurd (hended.symm.trans hclosed) (by decide),
    fun hfaultless => .inr (.inr ?_)⟩
  obtain ⟨hcounter, rfl⟩ := hfailure.exhausted_of_faultless hfaultless hlength
  exact ⟨.inr hcounter, recorder.length_le_committed.trans (h.committed_le.trans hwritten)⟩

/-! ## Appending within a call -/

/-- An append whose failure ends the call. -/
theorem append_feeding (hlength : record.length ≤ maxPcmFrameBytes + 160) :
    Triple (fun recorder => Feeding origin bound recorder ∧ facts recorder) (append env record)
      (fun _ reached => ∃ recorder timing, (Feeding origin bound recorder ∧ facts recorder) ∧
        recorder.Appends record timing ∧ reached = recorder.afterAppend env record timing)
      (fun _ => Fed env origin bound) := by
  refine (append_rule env record).weaken (fun _ _ h => h) ?_
  rintro error reached ⟨recorder, ⟨hfeeding, -⟩, ⟨rfl, -⟩ | ⟨file, -, hended, hfailure, rfl⟩⟩
  · exact hfeeding.fed
  · exact hfeeding.broken (by omega) hended hlength hfailure

theorem ask_feeding {α : Type} (question : Nat → α) :
    Triple (Feeding origin bound) (ask question) (fun _ => Feeding origin bound) failed where
  returned := by
    rintro recorder value reached h ⟨⟩
    exact { h with }
  stopped := by rintro _ _ _ _ ⟨⟩

/-! ## Looking at the limits -/

/-- A call that may still look at the limits: it has written nothing large, or
has just appended a record. -/
def Observable (origin : SessionRecorder) (bound : Nat) (recorder : SessionRecorder) : Prop :=
  Feeding origin bound recorder ∨
    Feeding origin (bound + largestChunkBytes) recorder ∧ Closable recorder

theorem Observable.feeding (h : Observable origin bound recorder) :
    Feeding origin (bound + largestChunkBytes) recorder := by
  rcases h with hsmall | ⟨hlarge, -⟩
  · exact hsmall.weaken (Nat.le_add_right _ _)
  · exact hlarge

theorem Observable.imp {reached : SessionRecorder} (h : Observable origin bound recorder)
    (hfeeding : ∀ bound, Feeding origin bound recorder → Feeding origin bound reached)
    (hclosable : Closable recorder → Closable reached) : Observable origin bound reached :=
  Or.imp (hfeeding _) (.imp (hfeeding _) hclosable) h

theorem ask_observable {α : Type} (question : Nat → α) :
    Triple (Observable origin bound) (ask question) (fun _ => Observable origin bound) failed := by
  refine ⟨?_, by rintro _ _ _ _ ⟨⟩⟩
  rintro recorder value reached h ⟨⟩
  exact h.imp (fun _ h => { h with }) id

theorem observeLimits_feeding (frame : Option AudioFrame) :
    Triple (Observable origin bound) (observeLimits env frame)
      (fun notices recorder => Observable origin bound recorder ∧ (anyStopped notices = false →
        recorder.safety.sizeReached recorder.file.writtenBytes = false)) failed := by
  cases frame with
  | none =>
    refine .of_read fun seen _ => .of_pure ?_
    rintro recorder ⟨hstate, rfl⟩
    exact ⟨hstate, sizeReached_of_observeWrite⟩
  | some frame =>
    refine .of_bind (ask_observable _) fun free => ?_
    refine .of_read fun seen _ => ?_
    refine .of_update_bind (.of_pure fun _ h => h) ?_
    rintro recorder ⟨hstate, rfl⟩
    have hlimits := observe_limits recorder.safety {
      mediaMs := recorder.mediaDurationMs
      bytes := recorder.file.writtenBytes
      frameMs := frameDurationMs frame
      quiet := frameIsQuiet frame } free
    refine ⟨hstate.imp (fun _ h => { h with limits := hlimits.trans h.limits }) id,
      fun hgoing => ?_⟩
    have hsize := sizeReached_of_observe hgoing
    rwa [← sizeReached_congr hlimits] at hsize

theorem appendEnded_feeding : Triple (Observable origin bound) (appendEnded env)
    (fun _ => Fed env origin bound) (fun _ => Fed env origin bound) := by
  refine .of_bind (ask_observable _) fun atMs => ?_
  refine .of_bind ((append_rule env (endedRecord atMs)).weaken (fun _ _ h => h) ?_)
    fun _ => .of_update ?_
  · have hlength := (.ended atMs : EmittedRecord false _).length_le
    rintro error reached ⟨recorder, hstate, ⟨rfl, hrefuses⟩ | ⟨file, -, hended, hfailure, rfl⟩⟩
    · rcases hstate with hsmall | ⟨-, hclosable⟩
      · exact hsmall.fed
      · exact absurd hrefuses (hclosable.not_refuses atMs)
    · exact hstate.feeding.broken (Nat.le_add_right _ _) hended hlength hfailure
  · rintro _ ⟨recorder, timing, hstate, -, rfl⟩
    have happended := (hstate.feeding.appended : Feeding origin _
      (recorder.afterAppend env (endedRecord atMs) timing))
    exact ⟨happended.limits, fun _ => happended.incomplete, fun _ => .inr (.inr ⟨.inl rfl,
      (length_le_committed _).trans happended.committed_le⟩)⟩

theorem enforceLimits_feeding (frame : Option AudioFrame) :
    Triple (Observable origin bound) (enforceLimits env frame)
      (fun _ => Fed env origin bound) (fun _ => Fed env origin bound) := by
  refine .of_bind (observeLimits_feeding frame) fun notices => ?_
  cases hstop : anyStopped notices with
  | false =>
    refine .of_pure_bind (.of_update ?_)
    rintro recorder ⟨hstate, hsize⟩
    have hfeeding := hstate.feeding
    exact ⟨hfeeding.limits, fun _ => hfeeding.incomplete, fun _ => .inr (.inl (hsize rfl))⟩
  | true =>
    exact .entered (fun _ h => h.1) (.of_bind appendEnded_feeding fun _ =>
      .of_update fun recorder h => { h with })

/-! ## Frames -/

theorem adoptFormat_feeding (format : PcmFormat) :
    Feeds env origin bound (adoptFormat format) (Feeding origin bound) := by
  refine .of_read fun seen _ => ?_
  cases seen.format with
  | some existing =>
    refine .of_require_bind (fun _ => ?_) fun _ _ h => h.1.fed
    exact .of_pure fun _ h => h.1
  | none =>
    refine .of_update_bind (.of_pure fun _ h => h) ?_
    rintro recorder ⟨h, -⟩
    exact { h with }

/-- The end of a gap was owed while the gap was open. -/
theorem closeOpenGap_feeding (atMs : UInt64) (hadMedia : Bool) :
    Feeds env origin bound (closeOpenGap env atMs hadMedia) (Feeding origin bound) := by
  refine .of_read fun seen _ => ?_
  cases hgap : seen.openGapAtMs with
  | none => exact .of_pure fun _ h => h.1
  | some openedAtMs =>
    have hlength := (.gapEnded atMs : EmittedRecord false _).length_le
    -- With the gap gone, its end is in the file and no longer owed.
    have hpaid : ∀ recorder timing, Feeding origin bound recorder ∧ recorder = seen →
        Feeding origin bound { recorder.afterAppend env (gapEndedRecord atMs) timing with
          openGapAtMs := none } := by
      rintro recorder timing ⟨h, rfl⟩
      have hrecord : (gapEndedRecord atMs).length = 9 := rfl
      have hle := (h.appended : Feeding origin _
        (recorder.afterAppend env (gapEndedRecord atMs) timing)).committed_le
      refine ⟨h.limits, h.ended, h.incomplete, ?_⟩
      simp only [committed, owed, afterAppend, hgap, hrecord, isSome_some,
        isSome_none, if_true, Bool.false_eq_true, if_false, momentChunkBytes] at hle ⊢
      omega
    refine .of_bind (append_feeding hlength) fun _ => ⟨?_, ?_⟩
    · rintro _ value reached ⟨recorder, timing, hstate, -, rfl⟩ hrun
      have h := hpaid recorder timing hstate
      rw [closeGap_apply] at hrun
      split at hrun
      · cases hrun
      · cases hrun
        exact { h with }
    · rintro _ error reached ⟨recorder, timing, hstate, -, rfl⟩ hrun
      rw [closeGap_apply] at hrun
      split at hrun
      · cases hrun
        exact (hpaid recorder timing hstate).fed
      · cases hrun

/-- The end of the timing records was owed until the budget was spent. -/
theorem admitTiming_feeding (bytes : Nat) :
    Feeds env origin bound (admitTiming env bytes) (Feeding origin bound) := by
  refine .of_read fun seen _ => ?_
  cases hbudget : seen.timingBudget with
  | none => exact .of_pure fun _ h => h.1
  | some budget =>
    dsimp only
    split
    · exact .of_pure fun _ h => h.1
    next hleft =>
      have hspare : ∀ recorder : SessionRecorder, Feeding origin bound recorder ∧
          recorder = seen → Feeding origin (bound - alignmentChunkBytes) { recorder with
            timingBudget := some { budget with exhausted := true } } ∧
            alignmentChunkBytes ≤ bound := by
        rintro recorder ⟨h, rfl⟩
        have hle := h.committed_le
        simp only [committed, owed, hbudget, any_some, hleft, Bool.not_false, if_true,
          alignmentChunkBytes] at hle
        refine ⟨⟨h.limits, h.ended, h.incomplete, ?_⟩, ?_⟩
        · simp only [committed, owed, any_some, Bool.not_true, Bool.false_eq_true,
            if_false, alignmentChunkBytes]
          omega
        · simp only [alignmentChunkBytes]
          omega
      split
      · refine .of_update_bind (.of_fact fun hroom => ?_) hspare
        have happend := (append_feeding (EmittedRecord.alignmentLimit rfl).length_le :
          Triple (fun recorder => Feeding origin (bound - alignmentChunkBytes) recorder ∧ True)
            (append env alignmentLimitRecord) _ _)
        refine .entered (fun _ h => ⟨h, trivial⟩) (.of_bind (happend.weaken
          (fun _ _ h => h) fun _ _ h => h.weaken (Nat.sub_le _ _)) fun _ => .of_pure ?_)
        rintro _ ⟨recorder, timing, ⟨h, -⟩, -, rfl⟩
        have hrecord : alignmentLimitRecord.length = 1 := rfl
        exact h.appended.weaken (by simp only [alignmentChunkBytes, hrecord] at hroom ⊢; omega)
      · refine .of_update_bind (.of_pure fun _ h => h) ?_
        rintro recorder ⟨h, rfl⟩
        have hle := h.committed_le
        refine ⟨h.limits, h.ended, h.incomplete, ?_⟩
        simpa only [committed, owed, hbudget, any_some] using hle

/-- A record that was appended may be followed by a look at the limits. -/
theorem Feeding.observable (h : Feeding origin bound recorder)
    (hlength : record.length ≤ maxPcmFrameBytes + 160) (happends : recorder.Appends record timing) :
    Observable origin bound (recorder.afterAppend env record timing) := by
  refine .inr ⟨h.appended.weaken ?_, happends.closable env⟩
  simp only [largestChunkBytes]
  omega

variable (frame : AudioFrame)

theorem recordTimedFrame_feeding (atMs : UInt64) :
    Feeds env origin bound (recordTimedFrame env frame atMs) (Observable origin bound) := by
  have htiming : Triple (Feeding origin bound) (admitFrameTiming env frame)
      (fun timing recorder => Feeding origin bound recorder ∧ ∃ admitted,
        timing = (frame.provenanceIf admitted).map layout)
      (fun _ => Fed env origin bound) := by
    rw [admitFrameTiming_eq]
    refine Triple.of_bind (?_ : Triple _ _ (fun _ => Feeding origin bound) _)
      fun admitted => Triple.of_pure fun _ h => ⟨h, admitted, rfl⟩
    split
    · exact admitTiming_feeding _
    · exact Triple.of_pure fun _ h => h
  refine Triple.of_bind htiming fun timing => Triple.of_fact ?_
  rintro ⟨admitted, rfl⟩
  have hlength := (EmittedRecord.timedFrame rfl atMs frame.format frame.bytes_ne_nil
    frame.length_bytes_le frame.aligned (frame.provenanceIf_valid admitted)).length_le
  refine Triple.of_read fun seen _ => ?_
  refine Triple.of_lift_bind (fun total _ => ?_) fun _ _ _ h => h.1.fed
  refine Triple.of_lift_bind (fun duration _ => ?_) fun _ _ _ h => h.1.fed
  refine Triple.of_bind (append_feeding hlength) fun _ => Triple.of_update ?_
  rintro _ ⟨recorder, timing, ⟨h, -⟩, happends, rfl⟩
  exact (h.observable hlength happends).imp (fun _ h => { h with }) id

theorem recordLegacyFrame_feeding (atMs : UInt64) :
    Feeds env origin bound (recordLegacyFrame env frame atMs) (Observable origin bound) := by
  have hlength := (EmittedRecord.frame rfl atMs frame).length_le
  refine Triple.entered (fun _ h => ⟨h, trivial⟩) (Triple.of_bind (append_feeding hlength : Triple
    (fun recorder => Feeding origin bound recorder ∧ True) _ _ _) fun _ => Triple.of_update ?_)
  rintro _ ⟨recorder, timing, ⟨h, -⟩, happends, rfl⟩
  exact (h.observable hlength happends).imp (fun _ h => { h with }) id

theorem recordFrame_feeding :
    Feeds env origin bound (recordFrame env frame) (Fed env origin bound) := by
  refine .of_bind (adoptFormat_feeding frame.format) fun hadMedia => ?_
  refine .of_bind (ask_feeding _) fun atMs => ?_
  refine .of_bind (closeOpenGap_feeding atMs hadMedia) fun _ => ?_
  refine .of_read fun seen _ => .entered (fun _ h => h.1) ?_
  cases seen.timingBudget with
  | some budget =>
    exact .of_bind (recordTimedFrame_feeding frame atMs) fun _ =>
      enforceLimits_feeding (some frame)
  | none =>
    exact .of_bind (recordLegacyFrame_feeding frame atMs) fun _ =>
      enforceLimits_feeding (some frame)

/-! ## Gaps and metadata -/

theorem recordCaptureGap_feeding :
    Feeds env origin bound (recordCaptureGap env) (Fed env origin bound) := by
  refine .of_read fun seen hseen => ?_
  cases hgap : seen.openGapAtMs with
  | some openedAtMs => exact .of_pure fun _ h => h.1.fed
  | none =>
    have hclock : Triple (fun recorder => Feeding origin bound recorder ∧
        recorder.openGapAtMs = none) (elapsedMs env) (fun _ recorder =>
          Feeding origin bound recorder ∧ recorder.openGapAtMs = none)
        (fun _ => Fed env origin bound) := by
      refine ⟨?_, by rintro _ _ _ _ ⟨⟩⟩
      rintro recorder value reached ⟨h, hopen⟩ ⟨⟩
      exact ⟨{ h with }, hopen⟩
    refine .entered_at _ ⟨hseen, hgap⟩ (.of_bind hclock fun atMs => ?_)
    have hlength := (.gapStarted atMs (.inl rfl) : EmittedRecord false
      (gapStartedRecord atMs captureDiscontinuityReason)).length_le
    have hrecord : (gapStartedRecord atMs captureDiscontinuityReason).length = 31 := rfl
    refine .of_bind (append_feeding hlength) fun _ => ?_
    refine .of_update_bind (enforceLimits_feeding none) ?_
    rintro _ ⟨recorder, timing, ⟨h, hopen⟩, happends, rfl⟩
    -- From now on the end of the gap is owed.
    have hle := (h.appended : Feeding origin _ (recorder.afterAppend env
      (gapStartedRecord atMs captureDiscontinuityReason) timing)).committed_le
    refine .inr ⟨⟨h.limits, h.ended, h.incomplete, ?_⟩, happends.closable env⟩
    simp only [committed, owed, afterAppend, hopen, hrecord, isSome_some, isSome_none,
      if_true, Bool.false_eq_true, if_false, momentChunkBytes, largestChunkBytes] at hle ⊢
    omega

theorem recordCaptureMetadata_feeding (metadata : CaptureMetadata) :
    Feeds env origin bound (recordCaptureMetadata env metadata) (Fed env origin bound) := by
  refine Triple.of_read fun seen _ => ?_
  refine Triple.of_require_bind (fun _ => ?_) fun _ _ h => h.1.fed
  refine Triple.of_lift_bind (fun record hrecord => ?_) fun _ _ _ h => h.1.fed
  have hlength := (EmittedRecord.metadata rfl hrecord).length_le
  refine Triple.entered (fun _ h => h.1) (Triple.of_bind (Triple.of_bind (admitTiming_feeding _)
    fun admitted => ?_) fun _ => enforceLimits_feeding none)
  cases admitted with
  | false => exact Triple.of_pure fun _ h => .inl h
  | true =>
    refine Triple.entered (fun _ h => ⟨h, trivial⟩) ((append_feeding hlength : Triple (fun recorder
      => Feeding origin bound recorder ∧ True) _ _ _).weaken ?_ fun _ _ h => h)
    rintro _ _ ⟨recorder, timing, ⟨h, -⟩, happends, rfl⟩
    exact h.observable hlength happends

/-! ## Finalizing -/

theorem recordFailure_feeding :
    Feeds env origin bound (recordFailure env) (Observable origin bound) := by
  refine .of_read fun seen _ => .of_onlyIf (fun _ => ?_) fun _ _ h => .inl h.1
  refine .entered (fun _ h => h.1) (.of_bind (ask_feeding _) fun atMs => ?_)
  have hlength := (.gapStarted atMs (.inr rfl) : EmittedRecord false
    (gapStartedRecord atMs recordingFailureReason)).length_le
  refine .entered (fun _ h => ⟨h, trivial⟩) (.of_bind
    (append_feeding hlength : Triple (fun recorder => Feeding origin bound recorder ∧ True) _ _ _)
      fun _ => .of_update ?_)
  rintro _ ⟨recorder, timing, ⟨h, -⟩, happends, rfl⟩
  exact (h.observable hlength happends).imp (fun _ h => { h with }) id

theorem closeRecording_feeding :
    Feeds env origin bound (closeRecording env) (Fed env origin bound) := by
  refine .of_read fun seen _ => .of_onlyIf (fun _ => ?_) fun _ _ h => h.1.fed
  exact .entered (fun _ h => h.1) (.of_bind recordFailure_feeding fun _ =>
      appendEnded_feeding)

theorem Fed.asked (recorder : SessionRecorder) (tick : Nat) (_ : recorder.file.tick ≤ tick)
    (h : Fed env origin bound recorder) : Fed env origin bound (recorder.atTick tick) :=
  { h with }

theorem finalizeUsing_feeding (recovery : Bool) :
    Feeds env origin bound (finalizeUsing env recovery) (Fed env origin bound) :=
  finalizeUsing_rule Fed.asked recovery (fun _ _ _ h => h.fed)
    (.entered (fun _ h => h.1) closeRecording_feeding) (fun _ h => h)
    fun _ h _ => { h with }

theorem finalizeWithCapability_feeding :
    Feeds env origin bound (finalizeWithCapability env) (Fed env origin bound) := by
  refine (finalizeWithCapability_rule ?_ (.entered (fun _ h => h.1.1)
    (finalizeUsing_feeding true)) (fun _ h => h.fed) fun _ _ h => h).weaken
    (fun _ _ h => h.1) fun _ _ h => h
  exact fun _ _ _ h => { h with }

/-! ## Calls -/

/-- What a call leaves, whether or not it succeeds, unless it is made to mark the
recorder incomplete. -/
theorem fed_of_step {operation : Operation} (hmark : operation ≠ .markIncomplete)
    (recorder : SessionRecorder) :
    Fed env recorder recorder.committed (step env recorder operation) := by
  have hbefore : Feeding recorder recorder.committed recorder := ⟨rfl, rfl, rfl, le_rfl⟩
  cases operation with
  | recordFrame frame => exact (recordFrame_feeding frame).reached hbefore
  | recordCaptureGap => exact recordCaptureGap_feeding.reached hbefore
  | recordCaptureMetadata metadata => exact (recordCaptureMetadata_feeding metadata).reached hbefore
  | confirmCaptureBoundary boundary =>
    change Fed env recorder recorder.committed (confirmCaptureBoundary env boundary recorder).2
    rcases confirmCaptureBoundary_reached env boundary recorder with
      hsame | ⟨poisoned, -, hended, hmoved⟩
    · rw [hsame]
      exact hbefore.fed
    · rw [hmoved]
      exact ⟨rfl, fun hclosed => absurd (hended.symm.trans hclosed) (by decide),
        fun _ => .inl le_rfl⟩
  | markIncomplete => exact absurd rfl hmark
  | takeLimitNotices => exact ⟨rfl, fun _ => rfl, fun _ => .inl le_rfl⟩
  | finalize =>
    have hfinal : Feeds env recorder recorder.committed (perform env .finalize)
        (Fed env recorder recorder.committed) :=
      (finalizeUsing_feeding false).of_bind fun _ => .of_pure fun _ h => h
    exact hfinal.reached hbefore
  | finalizeWithCapability =>
    have hfinal : Feeds env recorder recorder.committed (perform env .finalizeWithCapability)
        (Fed env recorder recorder.committed) :=
      finalizeWithCapability_feeding.of_bind fun _ => .of_pure fun _ h => h
    exact hfinal.reached hbefore

end SessionRecorder

end ConversationRuntime
