import ConversationRuntime.Recording.Mirror

/-! # Issued capabilities

A capability is issued only to a complete recorder that has closed its file.
The walk over that file mirrors the recorder to its end, so a preflight with
the capability succeeds on the unchanged file.
-/

namespace ConversationRuntime

open Foundation List

namespace RecordingKey

/-- Whatever a key signs, it verifies. -/
theorem verify_of_authorize {key : RecordingKey}
    {unsigned capability : FinalizedRecordingCapability}
    (h : key.authorize unsigned = .ok capability) (hkey : unsigned.keyId = key.keyId) :
    key.verify capability = .ok () := by
  obtain ⟨fields, hfields, hdone⟩ := bind_eq_ok h
  cases hdone
  have hsigned : isHexText (lowercaseHex (key.sign fields)) 64 = true :=
    isHexText_lowercaseHex (by rw [key.length_sign])
  have hzeros : isHexText (String.ofList (replicate 64 '0')) 64 = true := by decide +kernel
  -- The tag itself is no part of the signed fields.
  have hsame : capabilityFields { unsigned with authorization := lowercaseHex (key.sign fields) } =
      .ok fields := by
    rw [← hfields]
    simp only [capabilityFields, FinalizedRecordingCapability.validate, hsigned, hzeros]
  unfold verify
  rw [hsame]
  rw [decodeHex_lowercaseHex (key.length_sign fields)]
  change (if unsigned.keyId ≠ key.keyId then _ else _ : Except RuntimeError Unit) = _
  rw [if_neg (not_not.mpr hkey)]
  rw [if_neg (not_not.mpr rfl)]
  rfl

end RecordingKey

namespace SessionRecorder

open Fallible

variable {env : Environment}

/-! ## What a finalized recorder keeps -/

/-- A recorder with a summary is closed for good, and the summary names its
file as it is. -/
structure Finished (env : Environment) (recorder : SessionRecorder) : Prop where
  ended : recorder.summary.isSome = true → recorder.ended = true
  fileOpen : recorder.summary.isSome = true → recorder.fileOpen = false
  handle : ∀ summary ∈ recorder.summary, summary.recordingHandle = recorder.identity.handle
  sha256 : ∀ summary ∈ recorder.summary, summary.sha256 = digestHex env recorder.file.content
  keyId : ∀ summary ∈ recorder.summary, summary.keyId = env.key.keyId

variable {recorder started : SessionRecorder} {chunks : List RecordedChunk}

/-- A recorder whose file still takes records has no summary. -/
theorem Finished.summary_eq_none (h : Finished env recorder) (hfile : recorder.fileOpen = true) :
    recorder.summary = none := by
  cases hsummary : recorder.summary with
  | none => rfl
  | some summary =>
    have hclosed := h.fileOpen (by rw [hsummary]; rfl)
    cases hfile.symm.trans hclosed

theorem Finished.of_no_summary (h : recorder.summary = none) : Finished env recorder :=
  ⟨by simp [h], by simp [h], by simp [h], by simp [h], by simp [h]⟩

theorem Finished.change (first next : Moment) (hchange : Change env first next)
    (h : Finished env first.recorder) : Finished env next.recorder := by
  -- What an append follows has no summary; everything else leaves these fields alone.
  have happended : ∀ {record timing}, first.recorder.Appends record timing →
      first.recorder.summary = none := fun happends => h.summary_eq_none happends.fileOpen
  cases hchange with
  | failed hrecord hfile => exact .of_no_summary (h.summary_eq_none hfile)
  | gapEnded _ _ happends | gapOverflowed _ happends | alignmentLimit _ happends
  | timedFrame _ _ _ _ _ happends | legacyFrame _ _ _ happends | stopped _ _ happends
  | gapStarted _ happends | metadata _ _ happends =>
    exact .of_no_summary (happended happends)
  | failureNoted _ happends | closed _ happends => exact .of_no_summary (happended happends)
  | incompleteMarked =>
    unfold markIncompleteState
    split
    · exact h
    · exact { h with }
  | finalized hended => exact ⟨fun _ => hended, fun _ => rfl, by simp [summaryWith],
      by simp [summaryWith], by simp [summaryWith]⟩
  | _ => exact { h with }

/-! ## The walk over a complete recorder's file -/

/-- The recorder is incomplete, or a walk over its chunks mirrors it. -/
def Followed (env : Environment) (recorder : SessionRecorder) : Prop :=
  recorder.isIncomplete = true ∨
    ∃ now chunks walk, Mirrors env recorder now false chunks walk

theorem Mirrors.settled {now : UInt64} {settling : Bool} {walk : Walk}
    (h : Mirrors env recorder now settling chunks walk) :
    Mirrors env recorder now false chunks walk :=
  { h with unsettled := by simp }

/-- Along a chain of changes the walk follows the recorder until it becomes
incomplete. -/
theorem Mirrors.reach (hclock : env.MonotoneClock) {first last : Moment}
    (hreach : Reach env first last) {walk : Walk}
    (h : Mirrors env first.recorder first.now first.settling chunks walk) :
    last.recorder.isIncomplete = true ∨ Carries env walk first.settling first.recorder last := by
  induction hreach with
  | refl => exact .inr ⟨chunks, walk, h, fun hagrees => hagrees⟩
  | @tail middle last _ hlast ih =>
    rcases ih with hincomplete | ⟨seen, reached, hmirrors, hcarried⟩
    · exact .inl (incomplete_of_change hlast hincomplete)
    cases hcomplete : middle.recorder.isIncomplete with
    | true => exact .inl (incomplete_of_change hlast hcomplete)
    | false =>
      rcases hmirrors.change hclock hcomplete hlast with
        hincomplete | ⟨later, after, hnext, hagrees⟩
      · exact .inl hincomplete
      · exact .inr ⟨later, after, hnext, fun hbefore => hagrees (hcarried hbefore)⟩

theorem incomplete_of_reach {first last : Moment} (hreach : Reach env first last)
    (h : first.recorder.isIncomplete = true) : last.recorder.isIncomplete = true :=
  kept_of_reach (·.isIncomplete = true) (fun _ _ => incomplete_of_change) hreach h

theorem Followed.step (hclock : env.MonotoneClock) (operation : Operation)
    (h : Followed env recorder) : Followed env (SessionRecorder.step env recorder operation) := by
  rcases h with hincomplete | ⟨now, chunks, walk, hmirrors⟩
  · obtain ⟨later, moved, frames, hreach⟩ := step_reach env operation recorder 0 []
    exact .inl (incomplete_of_reach hreach hincomplete)
  · obtain ⟨later, moved, frames, hreach⟩ := step_reach env operation recorder now []
    rcases Mirrors.reach hclock hreach hmirrors with hincomplete | ⟨seen, reached, hnext, -⟩
    · exact .inl hincomplete
    · exact .inr ⟨later, seen, reached, hnext.settled⟩

theorem Followed.run (hclock : env.MonotoneClock) (operations : List Operation)
    (h : Followed env recorder) : Followed env (run env recorder operations) :=
  foldlRecOn operations (SessionRecorder.step env) h
    fun _ hreached operation _ => hreached.step hclock operation

/-- Before its first record the walk has seen nothing. -/
theorem Mirrors.startFormat (identity : RecordingIdentity) (limits : RecordingLimits) :
    Mirrors env (startFormat identity limits) 0 false [] .empty where
  decodes := rfl
  walked := rfl
  going := rfl
  ended := rfl
  gap := rfl
  timelineGap := rfl
  timelineFormat := rfl
  formatOf := fun _ hnone => absurd hnone (by simp [Walk.empty])
  unsettled := fun _ => rfl
  validation := rfl
  samples := rfl
  gapMs_le := le_rfl
  gapMs_bound := Nat.zero_le _
  gapAt_le := fun _ hnone => absurd hnone (by simp [SessionRecorder.startFormat])
  last_le := UInt64.le_refl _
  now_le := UInt64.zero_le
  budget := by
    simp only [SessionRecorder.startFormat]
    cases identity.timed <;> rfl
  unfinished := fun _ => rfl

theorem Agrees.startFormat (identity : RecordingIdentity) (limits : RecordingLimits) :
    Agrees env (startFormat identity limits) false .empty :=
  ⟨fun _ _ => rfl, rfl, rfl, rfl, fun _ hnone =>
    absurd hnone (by simp [SessionRecorder.startFormat])⟩

/-- A recorder that has started is mirrored, and agrees with the walk. -/
theorem Mirrors.start (hclock : env.MonotoneClock) {identity : RecordingIdentity}
    {limits : RecordingLimits} (hstart : start env identity limits = .ok started) :
    ∃ now chunks walk, Mirrors env started now false chunks walk ∧
      Agrees env started false walk := by
  rcases start_cases hstart with ⟨-, rfl⟩ | ⟨htimed, timing, happends, rfl⟩
  · exact ⟨0, [], .empty, .startFormat identity limits, .startFormat identity limits⟩
  · obtain ⟨chunks, walk, hmirrors, hagrees⟩ := (Mirrors.startFormat identity limits).unplaced
      hclock [] happends decodeChunk_policyRecord fun _ => rfl
    exact ⟨_, chunks, walk, hmirrors, hagrees (.startFormat identity limits)⟩

/-! ## Finalizing with a capability -/

/-- What holds once a capability was issued. -/
structure Issued (env : Environment) (recorder : SessionRecorder) (summary : RecordingSummary)
    (capability : FinalizedRecordingCapability) : Prop where
  complete : recorder.isIncomplete = false
  summary_eq : recorder.summary = some summary
  extent : recorder.file.content.length ≤ maxFinalizedRecordingBytes
  authorized : env.key.authorize {
    sourceSessionId := recorder.identity.sessionId
    recordingHandle := summary.recordingHandle
    sha256 := summary.sha256
    keyId := summary.keyId
    authorization := "" } = .ok capability

section Completing

/-- The recorder stays complete; how a program fails does not matter here. -/
abbrev StaysComplete {α : Type} (program : Recording α) : Prop :=
  Triple (fun recorder => recorder.isIncomplete = false) program
    (fun _ recorder => recorder.isIncomplete = false) fun _ _ => True

theorem append_staysComplete (record : Bytes) : StaysComplete (append env record) := by
  refine (append_rule env record).weaken ?_ fun _ _ _ => trivial
  rintro _ reached ⟨recorder, timing, hcomplete, -, rfl⟩
  exact hcomplete

/-- Finalizing a complete recorder asks for no failure record, and checks the extent of the
file before it keeps the summary. -/
theorem finalizeUsing_staysComplete :
    Triple (fun recorder => (True ∧ recorder.isIncomplete = false) ∧
        recorder.file.content.length ≤ maxFinalizedRecordingBytes)
      (finalizeUsing env true)
      (fun summary recorder => recorder.isIncomplete = false ∧ recorder.summary = some summary ∧
        recorder.file.content.length ≤ maxFinalizedRecordingBytes)
      fun _ _ => True := by
  have hfailure : StaysComplete (recordFailure env) := by
    refine .of_read fun seen hseen => .of_onlyIf (fun hneeded => ?_) fun _ _ h => h.1
    rw [hseen] at hneeded
    cases hneeded
  have hclose : StaysComplete (closeRecording env) := by
    refine .of_read fun seen _ => .of_onlyIf (fun _ => ?_) fun _ _ h => h.1
    refine .entered (fun _ h => h.1) (.of_bind hfailure fun _ => ?_)
    refine .of_bind ((ask_keeps (fun _ _ _ h => h) _).weaken (fun _ _ h => h)
      fun _ _ _ => trivial) fun atMs => ?_
    exact .of_bind (append_staysComplete _) fun _ => .of_update fun _ h => h
  refine finalizeUsing_rule (fun _ _ _ h => h) true (fun _ _ hsummary h => ⟨h.1.2, hsummary, h.2⟩)
    (.entered (fun _ h => h.1.1.2) hclose) (fun _ _ => trivial) ?_
  exact fun _ hcomplete hextent => ⟨hcomplete, rfl, hextent rfl⟩

theorem finalizeWithCapability_issued : Triple (fun _ => True) (finalizeWithCapability env)
      (fun issued recorder => Issued env recorder issued.1 issued.2) fun _ _ => True := by
  refine (finalizeWithCapability_rule (fun _ _ _ h => h) finalizeUsing_staysComplete
    (fun _ h => h) fun _ _ _ => trivial).weaken ?_ fun _ _ h => h
  rintro issued recorder ⟨⟨hcomplete, hsummary, hextent⟩, hauthorized⟩
  exact ⟨hcomplete, hsummary, hextent, hauthorized⟩

end Completing

/-! ## Recovering the unchanged file -/

/-- Recovery finds the recorder's file as it is, with the same key. Under that
key only recordings with other headers were made besides. -/
structure Restarted (env : Environment) (recorder : SessionRecorder) (settings : RecoverySettings) :
    Prop where
  directory : settings.directory = env.directory
  key : settings.key = .ok env.key
  sha256 : settings.sha256 = env.sha256
  stored : settings.stored recorder.identity.handle = some recorder.file.content
  calls : KeyLog recorder.identity recorder.file settings.calls

/-- Recovery right after the recorder, which was alone under its key. -/
def restart (env : Environment) (recorder : SessionRecorder) : RecoverySettings where
  directory := env.directory
  key := .ok env.key
  sha256 := env.sha256
  stored := fun handle =>
    if handle = recorder.identity.handle then some recorder.file.content else none
  calls := recorder.file.seals

theorem restarted (env : Environment) (recorder : SessionRecorder) :
    Restarted env recorder (restart env recorder) :=
  ⟨rfl, rfl, rfl, if_pos rfl, .alone _ _⟩

section Restart

variable {recorder : SessionRecorder} {settings : RecoverySettings}
  (hwritten : WrittenLog recorder.identity recorder.file)
  (hcomplete : recorder.isIncomplete = false) (hsettings : Restarted env recorder settings)

include hwritten hcomplete in
theorem allAppended_of_complete : recorder.file.AllAppended recorder.identity.header := by
  refine hwritten.clean ?_
  rw [isIncomplete, Bool.or_eq_false_iff] at hcomplete
  exact hcomplete.2

include hwritten hcomplete in
/-- The file of a complete recorder is its header and its chunks. -/
theorem content_header :
    recorder.file.content = recorder.identity.header ++ recorder.file.ciphertexts.flatMap
      LengthPrefixed.frame :=
  hwritten.content_eq (allAppended_of_complete hwritten hcomplete)

include hwritten hcomplete in
theorem take_headerLen : recorder.file.content.take headerLen = recorder.identity.header := by
  rw [content_header hwritten hcomplete]
  exact take_left' recorder.identity.length_header

include hwritten hcomplete hsettings in
/-- The walk over a closed, complete recorder's file reaches its end. -/
theorem walk_of_mirrors {now : UInt64} {settling : Bool} {chunks : List RecordedChunk} {walk : Walk}
    (hmirrors : Mirrors env recorder now settling chunks walk) (hended : recorder.ended = true) :
    walkCompletedChunks settings.calls (.start recorder.file.content true) =
      .ok ⟨true, false, walk.timeline, false⟩ := by
  have hread := hwritten.readout_whole hsettings.calls (allAppended_of_complete hwritten hcomplete)
    hmirrors.decodes true
  have hheader : (RecordedChunks.start recorder.file.content true).header =
      recorder.identity.header := take_headerLen hwritten hcomplete
  unfold walkCompletedChunks
  rw [hread, hheader, recorder.identity.isTimedHeader_header]
  dsimp only
  rw [hmirrors.walked]
  change (if walk.incomplete = true then _ else _ : Except RuntimeError CompletedWalk) = _
  rw [hmirrors.going, if_neg Bool.false_ne_true, hmirrors.ended, hended]
  rfl

include hwritten hcomplete hsettings in
theorem snapshot_of_complete (hextent : recorder.file.content.length ≤ maxFinalizedRecordingBytes) :
    snapshotRecording settings false recorder.identity.handle =
      .ok ⟨recorder.file.content, recorder.identity.sessionId,
        digestHex env recorder.file.content⟩ := by
  have hlength : ¬ recorder.file.content.length < headerLen := by
    rw [content_header hwritten hcomplete, length_append, recorder.identity.length_header]
    omega
  unfold snapshotRecording
  rw [hsettings.stored, orError_some]
  change (if _ then _ else _ : Except RuntimeError Snapshot) = _
  rw [if_neg (Nat.not_lt_of_le hextent)]
  rw [if_neg hlength, take_headerLen hwritten hcomplete, recorder.identity.readHeader_header,
    hsettings.sha256]
  rfl

include hwritten hcomplete in
/-- The binding in the header of the snapshot is the one the handle spells. -/
theorem snapshot_binding (sessionId : SessionId) (sha256 : String) :
    slice (Snapshot.header ⟨recorder.file.content, sessionId, sha256⟩) 28 16 =
      recorder.identity.binding := by
  rw [Snapshot.header, take_headerLen hwritten hcomplete, recorder.identity.slice_header_binding]

include hwritten hsettings in
/-- A preflight with an issued capability opens the file at its first chunk. -/
theorem preflight_of_issued {summary : RecordingSummary}
    {capability : FinalizedRecordingCapability} (hissued : Issued env recorder summary capability)
    (hfinished : Finished env recorder) {timeline : MediaTimeline}
    (hwalk : walkCompletedChunks settings.calls (.start recorder.file.content true) =
      .ok ⟨true, false, timeline, false⟩) :
    preflightFinalizedRecording settings false capability =
      .ok (.start recorder.file.content true) := by
  have hmem : summary ∈ recorder.summary := hissued.summary_eq
  have hhandle := hfinished.handle summary hmem
  have hsha256 := hfinished.sha256 summary hmem
  have hverify := RecordingKey.verify_of_authorize hissued.authorized (hfinished.keyId summary hmem)
  have hfields : capability.sourceSessionId = recorder.identity.sessionId ∧
      capability.recordingHandle = recorder.identity.handle ∧
      capability.sha256 = digestHex env recorder.file.content := by
    obtain ⟨fields, -, hdone⟩ := bind_eq_ok hissued.authorized
    cases hdone
    exact ⟨rfl, hhandle, hsha256⟩
  have hsnapshot : snapshotFinalizedRecording settings false capability =
      .ok ⟨recorder.file.content, recorder.identity.sessionId,
        digestHex env recorder.file.content⟩ := by
    unfold snapshotFinalizedRecording
    rw [hsettings.key]
    change (env.key.verify capability >>= _) = _
    rw [hverify, hfields.2.1]
    rw [recorder.identity.decodeHandle_handle, orError_some]
    rw [snapshot_of_complete hwritten hissued.complete hsettings hissued.extent]
    change (if _ then _ else _ : Except RuntimeError Snapshot) = _
    rw [if_neg]
    rw [snapshot_binding hwritten hissued.complete, hfields.1, hfields.2.2]
    simp
  unfold preflightFinalizedRecording
  rw [hsnapshot]
  change (validateCompletedChunks settings false _ >>= _) = _
  have hvalid : validateCompletedChunks settings false ⟨recorder.file.content,
      recorder.identity.sessionId, digestHex env recorder.file.content⟩ = .ok () := by
    unfold validateCompletedChunks
    change (walkCompletedChunks settings.calls (.start recorder.file.content true) >>= _) = _
    rw [hwalk]
    rfl
  rw [hvalid]
  unfold rewindVerifiedSnapshot
  rw [if_neg]
  · rfl
  · rw [hsettings.sha256, hfields.2.2]
    exact not_not.mpr rfl

end Restart

/-! ## Runs that end in a capability -/

/-- Finalizing with a capability is the last operation of a longer run. -/
theorem run_finalizeWithCapability {operations : List Operation}
    {result : Except RuntimeError (RecordingSummary × FinalizedRecordingCapability)}
    (h : finalizeWithCapability env (run env started operations) = (result, recorder)) :
    run env started (operations ++ [.finalizeWithCapability]) = recorder := by
  rw [run_append]
  change ((finalizeWithCapability env >>= fun _ => pure () : Recording Unit)
    (run env started operations)).2 = _
  cases result with
  | ok issued => rw [bind_of_ok h]; rfl
  | error error => rw [bind_of_error h]

section

variable {identity : RecordingIdentity} {limits : RecordingLimits}
  {started recorder : SessionRecorder}

theorem writtenLog_of_run (hstart : start env identity limits = .ok started)
    (operations : List Operation) (hrun : run env started operations = recorder) :
    recorder.identity = identity ∧ WrittenLog recorder.identity recorder.file := by
  have hrule := WrittenLog.fileRule env identity
  have hkept := FileKept.run hrule operations
    (FileKept.start hrule (WrittenLog.start identity) hstart)
  rw [hrun] at hkept
  exact ⟨hkept.identity_eq, hkept.identity_eq ▸ hkept.file⟩

theorem finished_of_run (hstart : start env identity limits = .ok started)
    (operations : List Operation) (hrun : run env started operations = recorder) :
    Finished env recorder := by
  rw [← hrun]
  refine run_kept _ Finished.change operations (.of_no_summary ?_)
  rcases start_cases hstart with ⟨-, rfl⟩ | ⟨-, timing, -, rfl⟩ <;> rfl

/-- Every capability a recorder issues opens its unchanged file: the walk over
all chunks reaches the closing one and nothing behind it, and the preflight
stands at the first chunk. -/
theorem issued_capability_usable (hclock : env.MonotoneClock)
    (hstart : start env identity limits = .ok started) (operations : List Operation)
    {summary : RecordingSummary} {capability : FinalizedRecordingCapability}
    (hissue : finalizeWithCapability env (run env started operations) =
      (.ok (summary, capability), recorder))
    {settings : RecoverySettings} (hsettings : Restarted env recorder settings) :
    preflightFinalizedRecording settings false capability =
        .ok (.start recorder.file.content true) ∧
      ∃ timeline, walkCompletedChunks settings.calls (.start recorder.file.content true) =
        .ok ⟨true, false, timeline, false⟩ := by
  have hrun := run_finalizeWithCapability hissue
  have hissued : Issued env recorder summary capability :=
    finalizeWithCapability_issued.returned trivial hissue
  obtain ⟨-, hwritten⟩ := writtenLog_of_run hstart _ hrun
  have hfinished := finished_of_run hstart _ hrun
  have hended : recorder.ended = true := hfinished.ended (by rw [hissued.summary_eq]; rfl)
  obtain ⟨now, chunks, walk, hbegun, -⟩ := Mirrors.start hclock hstart
  have hfollowed := Followed.run hclock (operations ++ [.finalizeWithCapability])
    (.inr ⟨now, chunks, walk, hbegun⟩)
  rw [hrun] at hfollowed
  rcases hfollowed with hincomplete | ⟨now, chunks, walk, hmirrors⟩
  · cases hissued.complete.symm.trans hincomplete
  · have hwalk := walk_of_mirrors hwritten hissued.complete hsettings hmirrors hended
    exact ⟨preflight_of_issued hwritten hsettings hissued hfinished hwalk, walk.timeline, hwalk⟩

end

/-- An epoch with a frame, a gap, and a frame without timing. -/
def gappedOperations : List Operation :=
  [.recordCaptureMetadata (.epoch ⟨"bridge", "clock", 1⟩), .recordFrame (.sample true),
    .recordCaptureGap, .recordFrame (.sample false)]

theorem issued_capability_usable_gap : ∃ started issued recorder,
    start .calm (.sample true) .default = .ok started ∧
      let gapped := run .calm started gappedOperations
      gapped.timedSamples = 2 ∧ gapped.gaps.length = 1 ∧
        finalizeWithCapability .calm gapped = (.ok issued, recorder) ∧
        preflightFinalizedRecording (restart .calm recorder) false issued.2 =
          .ok (.start recorder.file.content true) := by
  have hclock : Environment.calm.MonotoneClock := fun _ _ hle => hle
  obtain ⟨started, hstart, hfacts⟩ := exists_ok (start .calm (.sample true) .default)
    (fun started =>
      let gapped := run .calm started gappedOperations
      decide (gapped.timedSamples = 2 ∧ gapped.gaps.length = 1) &&
        (finalizeWithCapability .calm gapped).1.toOption.any fun _ => true) (by decide +kernel)
  simp only [Bool.and_eq_true, decide_eq_true_eq] at hfacts
  obtain ⟨⟨hsamples, hgaps⟩, hfinalized⟩ := hfacts
  obtain ⟨issued, recorder, hissue, -⟩ := exists_run _ _ hfinalized
  have husable := issued_capability_usable hclock hstart _ hissue (restarted .calm recorder)
  exact ⟨started, issued, recorder, hstart, hsamples, hgaps, hissue, husable.1⟩

end SessionRecorder

end ConversationRuntime
