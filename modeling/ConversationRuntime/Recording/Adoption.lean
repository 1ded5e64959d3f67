import ConversationRuntime.Foundation.Runs
import ConversationRuntime.Recording.Issue

/-! # Adoption against live finalization

Adoption rebuilds the summary of a closed file from its chunks. It agrees with
the summary the recorder stated itself, unless the recorder took its format
from a first frame that it then refused: the format stays in the recorder, but
no chunk carries it.
-/

namespace ConversationRuntime

open Foundation

namespace SessionRecorder

open Fallible

variable {env : Environment}

/-! ## When the two accounts agree -/

/-- A call that is given the first frame of an unfinalized recorder succeeds. -/
def FirstFrameAccepted (env : Environment) (recorder : SessionRecorder) (operation : Operation) :
    Prop :=
  operation.frames ≠ [] → recorder.format = none → recorder.summary = none →
    (perform env operation recorder).1 = .ok ()

instance (recorder : SessionRecorder) (operation : Operation) :
    Decidable (FirstFrameAccepted env recorder operation) :=
  inferInstanceAs (Decidable (_ → _ → _ → _))

/-- The recorder is incomplete, or a walk over its chunks agrees with it. -/
def Agreed (env : Environment) (recorder : SessionRecorder) : Prop :=
  recorder.isIncomplete = true ∨ ∃ now chunks walk,
    Mirrors env recorder now false chunks walk ∧ Agrees env recorder false walk

/-- A recorder with a format never waits for its first frame again. -/
theorem settled_of_reach {first last : Moment} (hreach : Reach env first last)
    (h : first.recorder.format.isSome = true ∧ first.settling = false) :
    last.recorder.format.isSome = true ∧ last.settling = false := by
  induction hreach with
  | refl => exact h
  | tail _ hlast ih =>
    cases hlast with
    | formatTaken format hformat =>
      rw [hformat] at ih
      cases ih.1
    | timedFrame | legacyFrame => exact ⟨ih.1, rfl⟩
    | incompleteMarked =>
      unfold markIncompleteState
      split <;> exact ih
    | _ => exact ih

theorem summary_of_reach {first last : Moment} (hreach : Reach env first last)
    (h : first.recorder.summary.isSome = true) : last.recorder.summary.isSome = true := by
  induction hreach with
  | refl => exact h
  | tail _ hlast ih =>
    cases hlast with
    | incompleteMarked =>
      unfold markIncompleteState
      split <;> exact ih
    | finalized => rfl
    | _ => exact ih

variable {recorder : SessionRecorder}

/-- Where the format has settled, or no longer matters, agreement is complete. -/
theorem Agrees.settled {settling : Bool} {walk : Walk} (h : Agrees env recorder settling walk)
    (hsettled : settling = false ∨ recorder.summary.isSome = true) :
    Agrees env recorder false walk := by
  refine { h with format := fun _ hsummary => ?_ }
  rcases hsettled with hsettling | hsome
  · exact h.format hsettling hsummary
  · rw [hsummary] at hsome
    cases hsome

theorem Agreed.step (hclock : env.MonotoneClock) (recorder : SessionRecorder)
    (operation : Operation) (haccepted : FirstFrameAccepted env recorder operation)
    (h : Agreed env recorder) : Agreed env (step env recorder operation) := by
  rcases h with hincomplete | ⟨now, chunks, walk, hmirrors, hagrees⟩
  · obtain ⟨later, moved, frames, hreach⟩ := step_reach env operation recorder 0 []
    exact .inl (incomplete_of_reach hreach hincomplete)
  have hcarried : ∀ later moved frames reached,
      Reach env ⟨recorder, now, false, []⟩ ⟨reached, later, moved, frames⟩ →
      (moved = false ∨ reached.summary.isSome = true) → Agreed env reached := by
    intro later moved frames reached hreach hsettled
    rcases Mirrors.reach hclock hreach hmirrors with hincomplete | ⟨seen, after, hnext, hcarries⟩
    · exact .inl hincomplete
    · exact .inr ⟨later, seen, after, hnext.settled, (hcarries hagrees).settled hsettled⟩
  have hpasses : Passes env ⟨recorder, now, false, []⟩ now false [] recorder :=
    Relation.ReflTransGen.refl
  unfold SessionRecorder.step
  cases hrun : perform env operation recorder with
  | mk result reached =>
    cases result with
    | ok value =>
      obtain ⟨later, hreach⟩ := (perform_passes operation).returned hpasses hrun
      exact hcarried later false _ reached hreach (.inl rfl)
    | error error =>
      -- A refused call leaves a format behind only if it was given a first frame.
      have hstops : ∃ later moved frames, (moved = true → operation.frames ≠ []) ∧
          Reach env ⟨recorder, now, false, []⟩ ⟨reached, later, moved, frames⟩ := by
        rcases (perform_passes operation).stopped hpasses hrun with
          ⟨later, moved, hmoved, hreach⟩ | ⟨⟨later, moved, hmoved, hreach⟩, -⟩
        · exact ⟨later, moved, _, by simpa using hmoved, hreach⟩
        · exact ⟨later, moved, _, by simpa using hmoved, hreach⟩
      obtain ⟨later, moved, frames, hframes, hreach⟩ := hstops
      refine hcarried later moved frames reached hreach ?_
      cases moved with
      | false => exact .inl rfl
      | true =>
        by_cases hformat : recorder.format = none
        · by_cases hsummary : recorder.summary = none
          · have hok := haccepted (hframes rfl) hformat hsummary
            rw [hrun] at hok
            cases hok
          · exact .inr (summary_of_reach hreach (Option.isSome_iff_ne_none.mpr hsummary))
        · have hsettled := settled_of_reach hreach ⟨Option.isSome_iff_ne_none.mpr hformat, rfl⟩
          exact .inl hsettled.2

/-! ## Adopting the unchanged file -/

/-- Adoption of an issued recording signs what the recorder signed, for the
summary its chunks tell. -/
theorem adopt_of_issued {settings : RecoverySettings}
    (hwritten : WrittenLog recorder.identity recorder.file)
    (hsettings : Restarted env recorder settings) {summary : RecordingSummary}
    {capability : FinalizedRecordingCapability} (hissued : Issued env recorder summary capability)
    {timeline : MediaTimeline}
    (hwalk : walkCompletedChunks settings.calls (.start recorder.file.content true) =
      .ok ⟨true, false, timeline, false⟩)
    (hsummary : summary = timeline.summary env.directory recorder.identity.handle
      (digestHex env recorder.file.content) env.key.keyId) :
    adoptClosedRecording settings false recorder.identity.sessionId recorder.identity.handle =
      .ok (summary, capability) := by
  unfold adoptClosedRecording
  rw [recorder.identity.decodeHandle_handle, hsettings.key, hsettings.stored,
    snapshot_of_complete hwritten hissued.complete hsettings hissued.extent]
  change (if _ then _ else _ : Except RecordingAdoptionError _) = _
  rw [snapshot_binding hwritten hissued.complete, if_neg (by simp)]
  change (unavailableOr false .unreadable (walkCompletedChunks settings.calls
    (.start recorder.file.content true)) >>= _) = _
  rw [hwalk]
  change (judgeWalk settings false _ _ >>= _) = _
  have hjudge : judgeWalk settings false ⟨recorder.file.content, recorder.identity.sessionId,
      digestHex env recorder.file.content⟩ ⟨true, false, timeline, false⟩ = .ok () := by
    have hdigest : lowercaseHex (settings.sha256 recorder.file.content) =
        digestHex env recorder.file.content := by rw [hsettings.sha256]; rfl
    change (unavailableOr false .unreadable (if lowercaseHex (settings.sha256
      recorder.file.content) ≠ digestHex env recorder.file.content then _ else _) >>= _) = _
    rw [if_neg (not_not.mpr hdigest)]
    rfl
  rw [hjudge]
  change (orUnavailable (env.key.authorize _) >>= _) = _
  rw [hsettings.directory, ← hsummary]
  rw [hissued.authorized]
  rfl

/-- As long as no first frame is refused, adopting the unchanged file returns
exactly the summary and the capability that finalizing returned. -/
theorem adoption_agrees_with_finalization (hclock : env.MonotoneClock)
    {identity : RecordingIdentity} {limits : RecordingLimits} {started recorder : SessionRecorder}
    (hstart : start env identity limits = .ok started) {operations : List Operation}
    (haccepted : Along (step env) (FirstFrameAccepted env) started operations)
    {summary : RecordingSummary} {capability : FinalizedRecordingCapability}
    (hissue : finalizeWithCapability env (run env started operations) =
      (.ok (summary, capability), recorder))
    {settings : RecoverySettings} (hsettings : Restarted env recorder settings) :
    adoptClosedRecording settings false identity.sessionId identity.handle =
      .ok (summary, capability) := by
  have hrun := run_finalizeWithCapability hissue
  have hissued : Issued env recorder summary capability :=
    finalizeWithCapability_issued.returned trivial hissue
  obtain ⟨rfl, hwritten⟩ := writtenLog_of_run hstart _ hrun
  have hended : recorder.ended = true :=
    (finished_of_run hstart _ hrun).ended (by rw [hissued.summary_eq]; rfl)
  have hagreed : Agreed env recorder := by
    have hbefore := haccepted.kept (Agreed.step hclock) (.inr (Mirrors.start hclock hstart))
    have hafter := Agreed.step hclock _ .finalizeWithCapability (fun h => absurd rfl h) hbefore
    rwa [← hrun, run_append]
  rcases hagreed with hincomplete | ⟨now, chunks, walk, hmirrors, hagrees⟩
  · cases hissued.complete.symm.trans hincomplete
  · have hwalk := walk_of_mirrors hwritten hissued.complete hsettings hmirrors hended
    exact adopt_of_issued hwritten hsettings hissued hwalk
      (hagrees.summary summary hissued.summary_eq)

theorem adoption_agrees_with_finalization_frame :
    let started := startFormat (.sample false) .default
    Along (step .calm) (FirstFrameAccepted .calm) started [.recordFrame (.sample false)] ∧
      ∃ issued recorder, finalizeWithCapability .calm
          (run .calm started [.recordFrame (.sample false)]) = (.ok issued, recorder) ∧
        adoptClosedRecording (restart .calm recorder) false 7
          (RecordingIdentity.sample false).handle = .ok issued := by
  intro started
  have hclock : Environment.calm.MonotoneClock := fun _ _ hle => hle
  have hstart : start .calm (.sample false) .default = .ok started := rfl
  have haccepted : Along (step .calm) (FirstFrameAccepted .calm) started
      [.recordFrame (.sample false)] :=
    ⟨fun _ _ _ => by decide +kernel, trivial⟩
  refine ⟨haccepted, ?_⟩
  obtain ⟨issued, recorder, hissue, -⟩ := exists_run (finalizeWithCapability .calm
    (run .calm started [.recordFrame (.sample false)])) (fun _ => true) (by decide +kernel)
  exact ⟨issued, recorder, hissue, adoption_agrees_with_finalization hclock hstart haccepted hissue
    (restarted .calm recorder)⟩

/-- A timed recorder that is given a frame with timing before any epoch refuses
it, but has taken its format: it reports a format that no chunk carries. -/
theorem adoption_disagrees_after_refused_frame :
    Environment.calm.MonotoneClock ∧ (∀ tick, Environment.calm.faultAt tick = false) ∧
    ∃ started issued recorder adopted,
      start .calm (.sample true) .default = .ok started ∧
      finalizeWithCapability .calm (run .calm started [.recordFrame (.sample true)]) =
        (.ok issued, recorder) ∧
      adoptClosedRecording (restart .calm recorder) false 7
        (RecordingIdentity.sample true).handle = .ok adopted ∧
      issued.1.format = "pcm_s16le/16000/1" ∧ adopted.1.format = "none" := by
  refine ⟨fun _ _ hle => hle, fun _ => rfl, ?_⟩
  obtain ⟨started, hstart, hdiffer⟩ := exists_ok (start .calm (.sample true) .default)
    (fun started =>
      let finished := finalizeWithCapability .calm (run .calm started [.recordFrame (.sample true)])
      finished.1.toOption.any fun issued => (adoptClosedRecording (restart .calm finished.2) false 7
        (RecordingIdentity.sample true).handle).toOption.any fun adopted =>
          issued.1.format = "pcm_s16le/16000/1" ∧ adopted.1.format = "none") (by decide +kernel)
  obtain ⟨issued, hissued, hdiffer⟩ := exists_ok _ _ hdiffer
  obtain ⟨adopted, hadopted, hdiffer⟩ := exists_ok _ _ hdiffer
  obtain ⟨hlive, hrebuilt⟩ := of_decide_eq_true hdiffer
  exact ⟨started, issued, _, adopted, hstart, Prod.ext hissued rfl, hadopted, hlive, hrebuilt⟩

end SessionRecorder

end ConversationRuntime
