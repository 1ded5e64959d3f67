import ConversationRuntime.Foundation.Runs
import ConversationRuntime.Recording.Feeding
import ConversationRuntime.Recording.Issue

/-! # Incompleteness across a restart

An incomplete recorder closes its file only behind a failure record, which
stops every later adoption. This leaves three ways in which the file of an
incomplete recorder can look like a complete one: a limit closes a recorder
that is already incomplete, a closed recorder is marked incomplete afterwards,
and an append of the closing chunk fails although all its bytes arrived.
-/

namespace ConversationRuntime

open Foundation IdealAead LengthPrefixed RecordedChunks RecordingIdentity List

/-! ## The calls behind the chunks of a file -/

/-- Only the closing record decodes to the closing chunk. -/
theorem EmittedRecord.eq_endedRecord {timed : Bool} {record : Bytes} {atMs : UInt64}
    (h : EmittedRecord timed record) (hdecode : decodeChunk record = .ok (.ended atMs)) :
    record = endedRecord atMs := by
  cases h with
  | policy => rw [decodeChunk_policyRecord] at hdecode; cases hdecode
  | frame htimed atMs frame => rw [decodeChunk_frameRecord] at hdecode; cases hdecode
  | timedFrame htimed atMs format hbytes hlength haligned htiming =>
    rw [decodeChunk_timedFrameRecord atMs format _ hbytes hlength haligned htiming] at hdecode
    cases hdecode
  | metadata htimed hrecord => rw [decodeChunk_metadataRecord hrecord] at hdecode; cases hdecode
  | alignmentLimit => rw [decodeChunk_alignmentLimitRecord] at hdecode; cases hdecode
  | gapStarted atMs hreason =>
    rw [decodeChunk_gapStartedRecord atMs (length_gapReason hreason)] at hdecode
    cases hdecode
  | gapEnded atMs => rw [decodeChunk_gapEndedRecord] at hdecode; cases hdecode
  | ended other =>
    rw [decodeChunk_endedRecord] at hdecode
    cases hdecode
    rfl

/-- The first `count` chunks ever sealed stand whole at the front of the file. -/
def SealedFile.Holds (header : Bytes) (file : SealedFile) (count : Nat) : Prop :=
  header ++ (file.seals.take count).flatMap chunkBytes <+: file.content

/-- The file starts with its header, whatever else fails. -/
theorem header_fileRule (env : Environment) (identity : RecordingIdentity) :
    FileRule env identity fun file => identity.header <+: file.content where
  asked := fun _ _ _ h => h
  poisoned := fun _ h => h
  failed := by
    intro file record error reached _ h hfailure
    cases hfailure with
    | exhausted => exact h
    | failed => exact h.trans (prefix_append _ _)
  appended := fun _ h _ _ => h.trans (prefix_append _ _)

section Opened

variable {identity : RecordingIdentity} {file : SealedFile} {calls : List SealCall}
  {bodies : List Bytes} {chunks : List RecordedChunk}

section

variable (hwritten : WrittenLog identity file) (hkey : KeyLog identity file calls)
  (hopens : RecordedChunks.OpensAll calls identity.header true 0 bodies chunks)
include hwritten hkey hopens

/-- A chunk that opens in a recording's file was sealed at its position. -/
theorem exists_call_of_opensAll
    {index : Nat} {chunk : RecordedChunk} (hchunk : chunks[index]? = some chunk) :
    ∃ call body, file.seals[index]? = some call ∧ bodies[index]? = some body ∧
      call.ciphertext = some body ∧ decodeChunk call.plaintext = .ok chunk := by
  have hindex : index < bodies.length := by
    rw [hopens.length_eq]
    exact (List.getElem?_eq_some_iff.mp hchunk).1
  have hbody : bodies[index]? = some bodies[index] := getElem?_eq_getElem hindex
  obtain ⟨-, hopen⟩ := hopens.opens hbody hchunk
  rw [Nat.zero_add] at hopen
  obtain ⟨record, hrecord, hcheck, hcounter⟩ := (openChunk_eq_ok calls).mp hopen
  obtain ⟨call, hcall, hciphertext, hplaintext⟩ := hkey.call_of_openWith hwritten.log
    (by simp only [u32Max] at hcounter; omega) hrecord
  refine ⟨call, bodies[index], hcall, hbody, hciphertext, ?_⟩
  have hemitted := hwritten.emitted call (mem_of_getElem? hcall)
  rw [hplaintext] at hemitted ⊢
  rwa [identity.isTimedHeader_header, (hemitted.readable true).1] at hcheck

/-- Chunks that open are those of the first sealing calls. -/
theorem flatMap_chunkBytes_of_opensAll
    : (file.seals.take bodies.length).flatMap chunkBytes = bodies.flatMap frame := by
  have hsame : (file.seals.take bodies.length).map (fun call => call.ciphertext.getD []) =
      bodies := by
    apply ext_getElem?
    intro index
    rw [getElem?_map, getElem?_take]
    split
    next hindex =>
      have hchunk := getElem?_eq_getElem (hopens.length_eq ▸ hindex : index < chunks.length)
      obtain ⟨call, body, hcall, hbody, hciphertext, -⟩ :=
        exists_call_of_opensAll hwritten hkey hopens hchunk
      rw [hcall, hbody, Option.map_some, hciphertext, Option.getD_some]
    next hindex => rw [getElem?_eq_none (Nat.le_of_not_lt hindex), Option.map_none]
  have hframes := congrArg (flatMap frame) hsame
  rwa [flatMap_map] at hframes

end

/-- A cut of a recording's file that a walk finds closed ends behind a sealed
closing record, with no failure record sealed before it. -/
theorem closing_of_walk (hwritten : WrittenLog identity file)
    (hheader : identity.header <+: file.content) (hkey : KeyLog identity file calls) {length : Nat}
    (hlength : headerLen ≤ (file.content.take length).length) {timeline : MediaTimeline}
    (hwalk : walkCompletedChunks calls (.start (file.content.take length) true) =
      .ok ⟨true, false, timeline, false⟩) :
    ∃ index call atMs, file.seals[index]? = some call ∧ call.plaintext = endedRecord atMs ∧
      file.Holds identity.header (index + 1) ∧
      ∀ earlier < index, ∀ call, file.seals[earlier]? = some call →
        ∀ atMs, call.plaintext ≠ gapStartedRecord atMs recordingFailureReason := by
  -- The cut keeps the header.
  obtain ⟨stream, hstream⟩ : ∃ stream, file.content.take length = identity.header ++ stream := by
    obtain ⟨rest, hrest⟩ := hheader
    have hfits : identity.header.length ≤ length := by
      rw [length_take] at hlength
      rw [identity.length_header]
      exact hlength.trans (min_le_left _ _)
    exact ⟨rest.take (length - identity.header.length), by
      rw [← hrest, take_append, take_of_length_le hfits]⟩
  rw [hstream, start_header] at hwalk
  obtain ⟨hending, ⟨before, atMs, hchunks⟩, hclean⟩ := closing_of_walkCompletedChunks hwalk
  obtain ⟨bodies, rest, hframes, hopens, hend⟩ :=
    exists_frames_of_readout calls identity.header true 0 stream
  rw [hchunks] at hopens hclean
  have hlast : (before ++ [RecordedChunk.ended atMs])[before.length]? = some (.ended atMs) := by
    rw [getElem?_append_right le_rfl, Nat.sub_self]
    rfl
  obtain ⟨call, -, hcall, -, -, hdecode⟩ := exists_call_of_opensAll hwritten hkey hopens hlast
  refine ⟨before.length, call, atMs, hcall,
    (hwritten.emitted call (mem_of_getElem? hcall)).eq_endedRecord hdecode, ?_, ?_⟩
  · have hcount : bodies.length = before.length + 1 := by
      rw [hopens.length_eq, length_append]
      rfl
    have hcontent : identity.header ++ bodies.flatMap frame = file.content.take length := by
      rw [hstream, hframes, hend hending, append_nil]
    rw [SealedFile.Holds, ← hcount, flatMap_chunkBytes_of_opensAll hwritten hkey hopens, hcontent]
    exact take_prefix _ _
  · intro earlier hearlier other hother failedAt hfailure
    have hbefore : (before ++ [RecordedChunk.ended atMs])[earlier]? = some before[earlier] := by
      rw [getElem?_append_left hearlier, getElem?_eq_getElem hearlier]
    obtain ⟨sealed, -, hsealed, -, -, hdecoded⟩ :=
      exists_call_of_opensAll hwritten hkey hopens hbefore
    cases hsealed.symm.trans hother
    rw [hfailure, decodeChunk_gapStartedRecord failedAt (length_gapReason (.inr rfl))] at hdecoded
    exact hclean _ (mem_append_left _ (getElem_mem hearlier)) failedAt (Except.ok.inj hdecoded).symm

end Opened

namespace SessionRecorder

open Fallible

variable {env : Environment}

/-! ## What is known about an incomplete recorder -/

/-- A recorder that counts its failure as recorded has sealed the record. -/
def FailureSealed (recorder : SessionRecorder) : Prop :=
  recorder.failureRecorded = true → ∃ call ∈ recorder.file.seals, ∃ atMs,
    call.plaintext = gapStartedRecord atMs recordingFailureReason

theorem FailureSealed.appended {recorder next : SessionRecorder} (h : FailureSealed recorder)
    {later : List SealCall} (hseals : next.file.seals = recorder.file.seals ++ later)
    (hrecorded : next.failureRecorded = recorder.failureRecorded) : FailureSealed next := by
  intro hfailure
  obtain ⟨call, hcall, hplaintext⟩ := h (hrecorded ▸ hfailure)
  exact ⟨call, hseals ▸ mem_append_left _ hcall, hplaintext⟩

theorem FailureSealed.change (first next : Moment) (hchange : Change env first next)
    (h : FailureSealed first.recorder) : FailureSealed next.recorder := by
  cases hchange with
  | @failed _ _ _ _ _ _ file _ _ _ hfailure =>
    cases hfailure with
    | exhausted => exact h
    | failed => exact h.appended rfl rfl
  | gapEnded | gapOverflowed | alignmentLimit | timedFrame | legacyFrame => exact h.appended rfl rfl
  | stopped | gapStarted | metadata | closed => exact h.appended rfl rfl
  | @failureNoted recorder now _ _ _ =>
    intro _
    exact ⟨_, mem_append_right _ (mem_singleton_self _), now, rfl⟩
  | incompleteMarked =>
    unfold markIncompleteState
    split <;> exact h
  | _ => exact h

/-- A closed recorder that is incomplete has recorded its failure. -/
def FailureNoted (recorder : SessionRecorder) : Prop :=
  recorder.ended = true → recorder.isIncomplete = true → recorder.failureRecorded = true

/-- A call that keeps incompleteness visible in the file: a limit does not close
a recorder that is incomplete without a failure record, and no closed recorder
is marked incomplete. -/
def ClosesSoundly (env : Environment) (recorder : SessionRecorder) (operation : Operation) : Prop :=
  (operation.feeds = true → recorder.ended = false → recorder.isIncomplete = true →
    recorder.failureRecorded = false → (step env recorder operation).ended = false) ∧
  (operation = .markIncomplete → recorder.ended = true → recorder.isIncomplete = true)

/-! ## Finalizing notes the failure -/

/-- An incomplete recorder has recorded its failure, closed or not. -/
def Noted (recorder : SessionRecorder) : Prop :=
  recorder.isIncomplete = true → recorder.failureRecorded = true

theorem append_failureNoted (record : Bytes) : Keeps FailureNoted (append env record) := by
  refine (append_rule env record).weaken ?_ ?_
  · rintro _ _ ⟨recorder, timing, h, -, rfl⟩
    exact h
  · rintro _ _ ⟨recorder, h, ⟨rfl, -⟩ | ⟨file, -, hended, -, rfl⟩⟩
    · exact h
    · exact fun hclosed => absurd (hended.symm.trans hclosed) (by decide)

theorem recordFailure_noted :
    Triple FailureNoted (recordFailure env) (fun _ => Noted) (fun _ => FailureNoted) := by
  refine .of_read fun seen _ => .of_onlyIf (fun _ => ?_) fun hskipped => ?_
  · refine .entered (fun _ h => h.1) (.of_bind (ask_keeps (fun _ _ _ h => h) _) fun atMs => ?_)
    refine .of_bind (append_failureNoted _) fun _ => .of_update ?_
    exact fun _ _ _ => rfl
  · rintro recorder ⟨-, rfl⟩ hincomplete
    rw [hincomplete] at hskipped
    simpa using hskipped

theorem appendEnded_failureNoted :
    Triple Noted (appendEnded env) (fun _ => FailureNoted) (fun _ => FailureNoted) := by
  have hclock : Triple Noted (elapsedMs env) (fun _ => Noted) (fun _ => FailureNoted) :=
    ⟨by rintro recorder value reached h ⟨⟩; exact h, by rintro _ _ _ _ ⟨⟩⟩
  refine .of_bind hclock fun atMs => ?_
  refine .of_bind ((append_rule env (endedRecord atMs)).weaken (fun _ _ h => h) ?_)
    fun _ => .of_update ?_
  · rintro _ _ ⟨recorder, h, ⟨rfl, -⟩ | ⟨file, -, hended, -, rfl⟩⟩
    · exact fun _ => h
    · exact fun hclosed => absurd (hended.symm.trans hclosed) (by decide)
  · rintro _ ⟨recorder, timing, h, -, rfl⟩
    exact fun _ => h

/-- Finalizing writes the failure record before the closing chunk. -/
theorem finalizeUsing_failureNoted (recovery : Bool) :
    Keeps FailureNoted (finalizeUsing env recovery) := by
  have hclose : Keeps FailureNoted (closeRecording env) :=
    .of_read fun seen _ => .of_onlyIf fun _ =>
      Triple.of_bind recordFailure_noted fun _ => appendEnded_failureNoted
  exact finalizeUsing_rule (fun _ _ _ h => h) recovery (fun _ _ _ h => h)
    (.entered (fun _ h => h.1) hclose) (fun _ h => h) fun _ h _ => h

theorem finalizeWithCapability_failureNoted : Keeps FailureNoted (finalizeWithCapability env) :=
  (finalizeWithCapability_rule (fun _ _ _ h => h) (.entered (fun _ h => h.1.1)
    (finalizeUsing_failureNoted true)) (fun _ h => h) fun _ _ h => h).weaken
    (fun _ _ h => h.1) fun _ _ h => h

/-- The failure record once recorded stays recorded. -/
theorem failureRecorded_of_change (first next : Moment) (hchange : Change env first next)
    (h : first.recorder.failureRecorded = true) : next.recorder.failureRecorded = true := by
  cases hchange with
  | failureNoted => rfl
  | incompleteMarked =>
    unfold markIncompleteState
    split <;> exact h
  | _ => exact h

theorem FailureNoted.step (recorder : SessionRecorder) (operation : Operation)
    (hsound : ClosesSoundly env recorder operation) (h : FailureNoted recorder) :
    FailureNoted (SessionRecorder.step env recorder operation) := by
  have hfed : operation.feeds = true → FailureNoted (.step env recorder operation) := by
    intro hfeeds hclosed hincomplete
    -- A call that leaves the recorder closed leaves it as complete as it was.
    have hmark : operation ≠ .markIncomplete := by
      rintro rfl
      cases hfeeds
    rw [(fed_of_step hmark recorder).closed hclosed] at hincomplete
    obtain ⟨later, moved, frames, hreach⟩ := step_reach env operation recorder 0 []
    refine kept_of_reach (·.failureRecorded = true) failureRecorded_of_change hreach ?_
    cases hended : recorder.ended with
    | true => exact h hended hincomplete
    | false =>
      by_contra hnone
      have hopen := hsound.1 hfeeds hended hincomplete (Bool.eq_false_iff.mpr hnone)
      cases hclosed.symm.trans hopen
  cases operation with
  | recordFrame | recordCaptureGap | recordCaptureMetadata => exact hfed rfl
  | confirmCaptureBoundary boundary =>
    change FailureNoted (confirmCaptureBoundary env boundary recorder).2
    rcases confirmCaptureBoundary_reached env boundary recorder with
      hsame | ⟨poisoned, -, hended, hmoved⟩
    · rwa [hsame]
    · rw [hmoved]
      exact fun hclosed => absurd (hended.symm.trans hclosed) (by decide)
  | markIncomplete =>
    change FailureNoted (markIncompleteState recorder)
    unfold markIncompleteState
    split
    · exact h
    · exact fun hclosed _ => h hclosed (hsound.2 rfl hclosed)
  | takeLimitNotices => exact h
  | finalize =>
    exact (Keeps.of_bind (finalizeUsing_failureNoted false) fun _ => Keeps.of_pure ()).reached h
  | finalizeWithCapability =>
    exact (Keeps.of_bind finalizeWithCapability_failureNoted fun _ => Keeps.of_pure ()).reached h

/-! ## No adoption of an incomplete recording -/

/-- A closing chunk that is whole in the file is the one that closed the
recorder: no append of a closing chunk failed although its bytes arrived. -/
def NoStrayClosing (recorder : SessionRecorder) : Prop :=
  ∀ index call atMs, recorder.file.seals[index]? = some call → call.plaintext = endedRecord atMs →
    recorder.file.Holds recorder.identity.header (index + 1) →
    recorder.ended = true ∧ index + 1 = recorder.file.seals.length

/-- No cut of the file of an incomplete recorder looks closed and complete. -/
theorem not_closed_of_incomplete {recorder : SessionRecorder} {calls : List SealCall}
    (hwritten : WrittenLog recorder.identity recorder.file)
    (hheader : recorder.identity.header <+: recorder.file.content)
    (hkey : KeyLog recorder.identity recorder.file calls) (hsealed : FailureSealed recorder)
    (hnoted : FailureNoted recorder) (hstray : NoStrayClosing recorder)
    (hincomplete : recorder.isIncomplete = true) {length : Nat}
    (hlength : headerLen ≤ (recorder.file.content.take length).length) (timeline : MediaTimeline) :
    walkCompletedChunks calls (.start (recorder.file.content.take length) true) ≠
      .ok ⟨true, false, timeline, false⟩ := by
  intro hwalk
  obtain ⟨index, call, atMs, hcall, hclosing, hholds, hclean⟩ :=
    closing_of_walk hwritten hheader hkey hlength hwalk
  obtain ⟨hended, hlast⟩ := hstray index call atMs hcall hclosing hholds
  -- The failure was sealed in front of the closing chunk, where the walk has met it.
  obtain ⟨failure, hfailure, failedAt, hrecord⟩ := hsealed (hnoted hended hincomplete)
  obtain ⟨position, hposition⟩ := mem_iff_getElem?.mp hfailure
  obtain ⟨hbound, -⟩ := List.getElem?_eq_some_iff.mp hposition
  rcases Nat.lt_or_ge position index with hearlier | hlater
  · exact hclean position hearlier failure hposition failedAt hrecord
  · have hsame : position = index := by omega
    rw [hsame, hcall] at hposition
    cases hposition
    exact absurd (hclosing.symm.trans hrecord) (by simp [endedRecord, momentRecord,
      gapStartedRecord, chunkEnded, chunkGapStarted])

/-- Once a recorder was incomplete, no cut of its file is ever adopted, provided
every call closes soundly and no stray closing chunk is whole in the file. -/
theorem incompleteness_permanent {identity : RecordingIdentity} {limits : RecordingLimits}
    {started : SessionRecorder} (hstart : start env identity limits = .ok started)
    {before after : List Operation}
    (hsound : Along (step env) (ClosesSoundly env) started (before ++ after))
    (hincomplete : (run env started before).isIncomplete = true)
    (hstray : NoStrayClosing (run env started (before ++ after))) {settings : RecoverySettings}
    (hkey : KeyLog identity (run env started (before ++ after)).file settings.calls) {length : Nat}
    (hstored : settings.stored identity.handle =
      some ((run env started (before ++ after)).file.content.take length))
    (cancelled : Bool) (sourceSessionId : SessionId)
    (adopted : RecordingSummary × FinalizedRecordingCapability) :
    adoptClosedRecording settings cancelled sourceSessionId identity.handle ≠ .ok adopted := by
  intro hadopted
  have hbegun : started.failureRecorded = false ∧ started.ended = false := by
    rcases start_cases hstart with ⟨-, rfl⟩ | ⟨-, timing, -, rfl⟩ <;> exact ⟨rfl, rfl⟩
  have hsealed : FailureSealed (run env started (before ++ after)) :=
    run_kept _ FailureSealed.change _ fun h => absurd (hbegun.1.symm.trans h) (by decide)
  have hnoted : FailureNoted (run env started (before ++ after)) :=
    hsound.kept FailureNoted.step fun h => absurd (hbegun.2.symm.trans h) (by decide)
  have hheader := (FileKept.run (header_fileRule env identity) (before ++ after)
    (FileKept.start (header_fileRule env identity) (prefix_refl _) hstart)).file
  have hstill : (run env started (before ++ after)).isIncomplete = true := by
    rw [run_append]
    exact run_kept (·.isIncomplete = true) (fun _ _ => incomplete_of_change) after hincomplete
  obtain ⟨hidentity, hwritten⟩ := writtenLog_of_run hstart (before ++ after) rfl
  rw [← hidentity] at hkey hheader
  obtain ⟨content, timeline, hcontent, hlength, hwalk, -⟩ := walk_of_adoptClosedRecording hadopted
  cases hstored.symm.trans hcontent
  exact not_closed_of_incomplete hwritten hheader hkey hsealed hnoted hstray hstill hlength timeline
    hwalk

theorem incompleteness_permanent_marked :
    let started := startFormat (.sample false) .default
    let recorder := run .calm started ([.recordCaptureGap, .markIncomplete] ++ [.finalize])
    (run .calm started [.recordCaptureGap, .markIncomplete]).isIncomplete = true ∧
      recorder.ended = true ∧ ∀ adopted, adoptClosedRecording (restart .calm recorder) false 7
        (sample false).handle ≠ .ok adopted := by
  intro started recorder
  have hincomplete : (run .calm started [.recordCaptureGap, .markIncomplete]).isIncomplete =
      true := by
    decide +kernel
  have hsound : Along (step .calm) (ClosesSoundly .calm) started
      ([.recordCaptureGap, .markIncomplete] ++ [.finalize]) := by
    refine ⟨⟨fun _ _ hfailed => ?_, by simp⟩, ⟨by simp [Operation.feeds], fun _ hclosed => ?_⟩,
      ⟨by simp [Operation.feeds], by simp⟩, trivial⟩
    · exact absurd hfailed (by decide +kernel)
    · exact absurd hclosed (by decide +kernel)
  have hclosed : recorder.ended = true := by decide +kernel
  have hothers : recorder.file.seals.dropLast.all
      (fun call => call.plaintext.head? != some chunkEnded) = true := by decide +kernel
  have hstray : NoStrayClosing recorder := by
    intro index call atMs hcall hclosing _
    refine ⟨hclosed, ?_⟩
    obtain ⟨hindex, hvalue⟩ := List.getElem?_eq_some_iff.mp hcall
    by_contra hearlier
    have hfront : index < recorder.file.seals.dropLast.length := by
      rw [length_dropLast]
      omega
    have hmem := all_eq_true.mp hothers _ (getElem_mem hfront)
    rw [getElem_dropLast, hvalue, hclosing] at hmem
    exact absurd hmem (by simp [endedRecord, momentRecord])
  have hstart : start .calm (.sample false) .default = .ok started := rfl
  have hrun : run .calm started ([.recordCaptureGap, .markIncomplete] ++ [.finalize]) = recorder :=
    rfl
  have hidentity : recorder.identity = .sample false := (writtenLog_of_run hstart _ hrun).1
  have hpermanent := incompleteness_permanent hstart hsound hincomplete
  rw [hrun, ← hidentity] at hpermanent
  rw [← hidentity]
  refine ⟨hincomplete, hclosed, hpermanent hstray (restarted .calm recorder).calls (?_ :
    _ = some (recorder.file.content.take recorder.file.content.length)) false 7⟩
  rw [take_length]
  exact (restarted .calm recorder).stored

/-- A flush that fails behind the closing chunk leaves an incomplete recorder,
but a file that is adopted. -/
theorem incomplete_recording_adopted :
    let env : Environment := { Environment.calm with flushFails := fun tick => tick == 4 }
    let started := startFormat (.sample false) .default
    let recorder := run env started [.finalize]
    start env (.sample false) .default = .ok started ∧ recorder.isIncomplete = true ∧
      ∃ adopted, adoptClosedRecording (restart env recorder) false 7
        (sample false).handle = .ok adopted := by
  intro env started recorder
  refine ⟨rfl, by decide +kernel, ?_⟩
  obtain ⟨adopted, hadopted, -⟩ := exists_ok (adoptClosedRecording (restart env recorder) false 7
    (sample false).handle) (fun _ => true) (by decide +kernel)
  exact ⟨adopted, hadopted⟩

end SessionRecorder

end ConversationRuntime
