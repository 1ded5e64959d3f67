import ConversationRuntime.Voice.Interruption

/-! # Handling a signal

Whatever wakes the loop, it makes moves, takes in one hypothesis or obeys one
command to stop speaking; or it leaves.
-/

namespace ConversationRuntime

open Foundation Fallible Meets TurnFinalizer Wire

namespace VoiceLoop

variable {before after : VoiceLoop}

theorem Murmurs.reach (h : Murmurs before after) :
    Reach before after := by
  obtain ⟨plain, hplain, hgrows⟩ := h.deeds
  obtain ⟨wire, rfl⟩ := h.change
  exact .single (.quiet hplain hgrows)

theorem Silences.acts {identity : TurnIdentity}
    (h : Silences before after identity) : Acts before after :=
  .single (.inr ⟨_, .silenced h⟩)

/-- An interruption that does not return has found the consumer gone. -/
theorem Quietens.leaves {stop : Stop}
    (h : Quietens before (.error stop) after) : Leaves before stop after := by
  cases stop with
  | dropped => exact h
  | failed => exact absurd h not_false
  | exit exit =>
    cases exit with
    | shutdown | fatal => exact absurd h not_false
    | consumerDropped =>
      obtain ⟨hclosed, identity, hsilences⟩ := h
      exact ⟨hclosed, hsilences.acts.exits⟩

section Hearing

variable (env : VoiceEnvironment) {loop : VoiceLoop} {identity : TurnIdentity}

theorem handleSpeechEnd_handles {now : Nat} {wire : Wire} (hgrows : loop.wire.Grows [] wire)
    (hnow : now ≤ wire.clockMs) :
    Meets (handleSpeechEnd env) { loop with
      finalizer := { loop.finalizer with speechEndedAtMs := some now }, wire }
      (Handled loop Anywhere) := by
  apply of_read
  have harm : Meets (armAfter env loop.finalSilenceMs) { loop with
      finalizer := { loop.finalizer with speechEndedAtMs := some now }, wire }
      (fun result after => result = .ok () ∧ Move loop after) := by
    apply nowMs_bind
    intro armed harmed
    exact ⟨rfl, .fellSilent (hgrows.after_quiet harmed) (hnow.trans harmed.clock)⟩
  apply harm.of_bind
  · rintro _ middle ⟨-, hmove⟩
    apply Handles.after_move hmove
    apply publishTiming_or
    exact fun wire hquiet hclosed => closed_leaves (quiet_reach hquiet) hclosed
  · rintro _ _ ⟨⟨⟩, -⟩

variable (hcoupled : loop.Coupled)
include hcoupled

/-- A barge-in on the turn being spoken is announced, and the turn is stopped. -/
theorem handleBargeIn_meets {post : Except Stop Unit → VoiceLoop → Prop}
    (hgone : ∀ after, Murmurs loop after → after.wire.isClosed = true →
      post (.error (.exit .consumerDropped)) after)
    (hkept : loop.state ≠ .responding identity → post (.ok ()) loop)
    (hquiet : ∀ middle, loop.state = .responding identity → Murmurs loop middle →
      ∀ result after, Quietens middle result after → post result after) :
    Meets (handleBargeIn env identity) loop post := by
  apply of_read
  split
  next hstate =>
    apply publishOrLeave_bind env (by trivial) rfl hgone
    intro middle hmurmurs
    apply (interruptOrStopSpeaking_quietens env (hcoupled.reach hmurmurs.reach)).mono
    exact hquiet middle hstate hmurmurs
  next hstate => exact hkept hstate

/-- Speech over a response interrupts it; nothing that waits is lost by that. -/
theorem handleBargeIn_handles (hmute : loop.finalizer.speechEndedAtMs = none) :
    Handles (handleBargeIn env identity) loop Anywhere := by
  apply handleBargeIn_meets env hcoupled
  · exact fun after hmurmurs hclosed => ⟨hclosed, (Reach.acts hmurmurs.reach).exits⟩
  · exact fun _ => ⟨.refl, trivial⟩
  · intro middle _ hmurmurs result after hquietens
    have hmiddle : middle.finalizer.speechEndedAtMs = none := by
      obtain ⟨wire, rfl⟩ := hmurmurs.change
      exact hmute
    cases result with
    | ok =>
      rcases hquietens with rfl | ⟨identity, hsilences⟩
      · exact ⟨hmurmurs.reach, trivial⟩
      · exact ⟨hmurmurs.reach.tail (.silenced hmiddle hsilences), trivial⟩
    | error stop => exact Leaves.of_acts (Reach.acts hmurmurs.reach) hquietens.leaves

theorem handleSpeech_handles {finalizer : TurnFinalizer} {wire : Wire}
    (hresumes : loop.finalizer.Resumes finalizer) (hgrows : loop.wire.Grows [] wire) :
    Meets (handleSpeech env) { loop with finalizer, wire } (Handled loop Anywhere) := by
  have hreach : Reach loop { loop with
      finalizer, deadline := none, finalizationDue := false, wire } :=
    (quiet_reach hgrows).tail
    (.spoken (show (loop.onto wire).finalizer.Resumes finalizer from hresumes))
  apply of_update
  apply Handles.after_reach hreach
  apply of_read
  split
  next identity _ =>
    exact handleBargeIn_handles env (hcoupled.reach hreach) hresumes.ended
  next => exact Handles.of_pure trivial

theorem handleActivity_handles (activity : VoiceActivity) :
    Handles (handleActivity env activity) loop Anywhere := by
  apply nowMs_bind
  intro timed htimed
  apply of_read
  apply of_update
  apply publishBestEffort_bind env rfl rfl
  intro isOpen wire hgrows hclosed
  have hquiet : loop.wire.Grows [] wire := htimed.after_quiet hgrows
  apply of_require
  · intro _
    cases activity with
    | speechStarted atMs =>
      exact handleSpeech_handles env hcoupled (resumes_of_started _ _) hquiet
    | speechContinued atMs =>
      exact handleSpeech_handles env hcoupled (resumes_of_continued _ timed.clockMs) hquiet
    | speechEnded atMs => exact handleSpeechEnd_handles env hquiet hgrows.clock
    | captureDiscontinuity => exact ⟨quiet_reach hquiet, trivial⟩
  · intro hshut
    refine ⟨hclosed (by simpa using hshut), loop.onto wire, Reach.acts (quiet_reach hquiet), ?_⟩
    exact .inr (.heard _)

/-- A failed recogniser costs the response and the utterance. -/
theorem handleRecognitionFailure_handles (error : VoiceIoFailure) :
    Handles (handleRecognitionFailure env error) loop Anywhere := by
  apply (interruptOrStopSpeaking_quietens env hcoupled).of_bind
  · intro _ silent hquietens
    have hmove : Move loop { silent with
        deadline := none
        finalizationDue := false
        finalizer := .new silent.finalSilenceMs
        activeSegmentId := none } := by
      rcases hquietens with rfl | ⟨identity, hsilences⟩
      · exact .recovered (.inl rfl)
      · obtain ⟨wire, rfl⟩ := hsilences.change
        exact .recovered (.inr ⟨identity, hsilences⟩)
    apply of_update
    apply of_update
    apply of_read
    apply Handles.after_move hmove
    exact publishOrLeave_handles env trivial rfl
  · exact fun _ _ hquietens => hquietens.leaves

end Hearing

/-- What comes of a signal: moves, or one hypothesis taken in or command obeyed. -/
def Woken (signal : LoopSignal) (before : VoiceLoop) : Except Stop Unit → VoiceLoop → Prop
  | .ok (), after => Reach before after ∨ ∃ middle, Murmurs before middle ∧ Turn middle signal after
  | .error stop, after => Leaves before stop after

theorem Handles.woken {program : Voice Unit} {loop : VoiceLoop} {signal : LoopSignal}
    (h : Handles program loop Anywhere) : Meets program loop (Woken signal loop) := by
  apply h.mono
  intro result after hhandled
  cases result with
  | ok => exact .inl hhandled.1
  | error => exact hhandled

section Signals

variable (env : VoiceEnvironment) {loop : VoiceLoop}

variable (loop) in
/-- The deadline armed for a final text does not fire before the silence is over. -/
theorem armForFinal_meets {now : Nat} (hnow : now ≤ loop.wire.clockMs) :
    Meets (armForFinal env now) loop (fun result after => result = .ok () ∧
      ∃ deadline wire, loop.wire.Grows [] wire ∧ after = { loop with deadline, wire } ∧
        (deadline = loop.deadline ∨ ∃ firesAt, deadline = some firesAt ∧
          ∀ endedAtMs, loop.finalizer.speechEndedAtMs = some endedAtMs →
            loop.finalizer.readyAtMs endedAtMs ≤ firesAt) ∧
        (loop.finalizer.finalized = false → loop.state = .listening →
          loop.finalizer.speechEndedAtMs.isSome → deadline.isSome)) := by
  apply of_read
  split
  next remainingMs hstate hremaining =>
    apply nowMs_bind
    intro armed harmed
    refine ⟨rfl, _, armed, harmed, rfl, .inr ⟨_, rfl, ?_⟩, fun _ _ _ => rfl⟩
    intro endedAtMs hended
    have hrest : remainingMs = loop.finalizer.readyAtMs endedAtMs - now := by
      unfold remainingSilenceMs at hremaining
      split at hremaining
      next => cases hremaining
      next =>
        rw [hended] at hremaining
        exact (Option.some.inj hremaining).symm
    have hclock : now ≤ armed.clockMs := hnow.trans harmed.clock
    split
    next => omega
    next => omega
  next hnone =>
    refine ⟨rfl, _, _, .refl loop.wire, rfl, .inl rfl, ?_⟩
    intro hunfinalized hstate hended
    obtain ⟨endedAtMs, hended⟩ := Option.isSome_iff_exists.mp hended
    have hremaining : loop.finalizer.remainingSilenceMs now =
        some (loop.finalizer.readyAtMs endedAtMs - now) := by
      simp [remainingSilenceMs, hunfinalized, hended]
    exact absurd hremaining (hnone _ hstate)

theorem handleHypothesis_woken (hypothesis : RecognitionHypothesis) :
    Meets (handleHypothesis env hypothesis) loop
      (Woken (.input (some (.ok (.recognition (.hypothesis hypothesis))))) loop) := by
  apply nowMs_bind
  intro timed htimed
  apply of_read
  obtain ⟨hended, hsilence, hfinalized⟩ := loop.finalizer.observeHypothesis_timing hypothesis
  split
  next haccepted =>
    apply of_update
    split
    next hfinal =>
      apply (armForFinal_meets env { loop with
        finalizer := (loop.finalizer.observeHypothesis hypothesis).2
        activeSegmentId := some hypothesis.segmentId
        wire := timed } le_rfl).mono
      rintro _ _ ⟨rfl, deadline, wire, hgrows, rfl, hkept, harmed⟩
      simp only [hended, hfinalized, readyAtMs, hsilence] at hkept harmed
      refine .inr ⟨loop, .of_quiet (.refl loop.wire), ?_⟩
      exact .heard haccepted hkept (fun _ => harmed (unfinalized_of_accepted haccepted))
        (htimed.after_quiet hgrows)
    next hfinal =>
      obtain ⟨isOpen, wire, hrun, hgrows, hclosed⟩ :=
        publishPartial_law env timed hypothesis.segmentId hypothesis.text
      apply of_ok_bind (onWire_eq hrun)
      have hturn : Turn loop (.input (some (.ok (.recognition (.hypothesis hypothesis))))) _ :=
        .heard haccepted (.inl rfl) (fun h => absurd h hfinal) (htimed.after_quiet hgrows)
      apply of_last_require
      · exact fun _ => .inr ⟨loop, .of_quiet (.refl loop.wire), hturn⟩
      · exact fun hshut => ⟨hclosed (by simpa using hshut), Acts.exits (.single (.inr ⟨_, hturn⟩))⟩
  next => exact .inl (quiet_reach htimed)

/-- Report why a turn failed, if it did. -/
theorem reportFailure_bind {failure : Option RuntimeError} {next : Unit → Voice Unit}
    {post : Except Stop Unit → VoiceLoop → Prop}
    (hgone : ∀ after, Murmurs loop after → after.wire.isClosed = true →
      post (.error (.exit .consumerDropped)) after)
    (h : ∀ after, Murmurs loop after → Meets (next ()) after post) :
    Meets (reportFailure env failure >>= next) loop post := by
  cases failure with
  | none => exact h loop (.of_quiet (.refl loop.wire))
  | some error =>
    have hsame : reportFailure env (some error) loop =
        publishOrLeave env (.sessionFailed loop.sessionId error .continueSession) loop := rfl
    apply of_same_bind hsame
    exact publishOrLeave_bind env (by trivial) rfl hgone h

theorem startCaptureOperation_reach (kind : CaptureOperationKind) :
    Reach loop (startCaptureOperation kind loop).2 := by
  simp only [startCaptureOperation, update]
  split
  next => exact .single (.captured .pausing (some .pause) loop.completion loop.firstAudioReceived)
  next => exact .single (.captured .resuming (some .resume) loop.completion loop.firstAudioReceived)
  next => exact .refl

theorem handleCaptureCompletion_handles (succeeded : Bool) :
    Handles (handleCaptureCompletion env succeeded) loop Anywhere := by
  apply of_read
  split
  next => exact Handles.of_pure trivial
  next kind _ =>
    apply of_update
    have hmove : Move loop _ := .captured (if succeeded then captureDone kind
      else captureRestored kind) none loop.completion loop.firstAudioReceived
    apply Handles.after_move hmove
    split
    next => exact publishOrLeave_handles env (by cases kind <;> trivial) (by cases kind <;> rfl)
    next => exact .of_pure trivial

theorem observeAudio_handles : Handles (observeAudio env) loop Anywhere := by
  apply of_read
  split
  next => exact Handles.of_pure trivial
  next =>
    apply of_update
    have hmove : Move loop _ :=
      .captured loop.captureState loop.captureOperation loop.completion true
    apply Handles.after_move hmove
    apply publishTiming_or
    exact fun wire hquiet hclosed => closed_leaves (quiet_reach hquiet) hclosed

theorem leaveFatally_handles (error : RuntimeError) :
    Handles (leaveFatally error) loop Anywhere := Acts.exits .refl

theorem handlePlayback_handles (receipt : PlaybackReceipt) :
    Handles (handlePlayback env receipt) loop Anywhere := by
  unfold handlePlayback
  split
  next => exact handleRenderedPlayback_handles env receipt
  next => exact handleFlushedPlayback_handles env receipt
  next => exact leaveFatally_handles _

/-- Up to the point where the loop waits, only the consumer and the clock move. -/
theorem awaitSignal_meets :
    Meets (awaitSignal env) loop (fun result after => ∃ wire, loop.wire.Grows [] wire ∧
      after = loop.onto wire ∧ ((result = .ok () ∧ wire.isClosed = false) ∨
        (result = .error (.exit .consumerDropped) ∧ wire.isClosed = true))) := by
  obtain ⟨isOpen, flushed, hflush, hflushed, hclosed⟩ := flushPendingEvents_law env loop.wire
  apply of_ok_bind (onWire_eq hflush)
  apply of_require
  · intro _
    obtain ⟨attended, hattend, hattended⟩ := attend_law env (loop.onto flushed).wire
    apply of_ok_bind (onWire_eq hattend)
    apply nowMs_bind
    intro wire hgrows
    have hquiet := hflushed.after_quiet (hattended.after_quiet hgrows)
    apply of_read
    apply of_last_require
    · exact fun hopen => ⟨wire, hquiet, rfl, .inl ⟨rfl, hopen⟩⟩
    · intro hshut
      have hshut' : wire.isClosed = true := Bool.eq_true_of_not_eq_false hshut
      exact ⟨wire, hquiet, rfl, .inr ⟨rfl, hshut'⟩⟩
  · intro hshut
    exact ⟨flushed, hflushed, rfl, .inr ⟨rfl, hclosed (by simpa using hshut)⟩⟩

variable (hcoupled : loop.Coupled)
include hcoupled

/-- A barge-in that is commanded stops the turn without a look at what waits. -/
theorem handleBargeIn_woken (identity : TurnIdentity) :
    Meets (handleBargeIn env identity) loop (Woken (.command (some (.bargeIn identity))) loop) := by
  apply handleBargeIn_meets env hcoupled
  · exact fun after hmurmurs hclosed => ⟨hclosed, (Reach.acts hmurmurs.reach).exits⟩
  · exact fun _ => .inl .refl
  · intro middle hstate hmurmurs result after hquietens
    have hsame : ∀ spoken, Silences middle after spoken → spoken = identity := by
      intro spoken hsilences
      have hspoken := hsilences.state
      obtain ⟨wire, rfl⟩ := hmurmurs.change
      rw [show (loop.onto wire).state = loop.state from rfl, hstate] at hspoken
      cases hspoken
      rfl
    cases result with
    | ok =>
      rcases hquietens with rfl | ⟨spoken, hsilences⟩
      · exact .inl hmurmurs.reach
      · rw [hsame spoken hsilences] at hsilences
        exact .inr ⟨middle, hmurmurs, .silenced hsilences⟩
    | error stop => exact Leaves.of_acts (Reach.acts hmurmurs.reach) hquietens.leaves

/-- The deadline of an idle loop asks the finalizer; while a turn is spoken it only
leaves a note. -/
theorem handleDeadline_handles {firesAt : Nat} (hdeadline : loop.deadline = some firesAt)
    (hfired : firesAt ≤ loop.wire.clockMs) : Handles (handleDeadline env) loop Anywhere := by
  apply of_update
  apply of_read
  split
  next hstate =>
    apply asFatal_handled
    apply (startReadyTurn_meets env { loop with deadline := none }
      (hcoupled.idle hstate) hcoupled.segment).mono
    rintro result after ⟨wire, hgrows, hhandled⟩
    exact hhandled.after_reach (.single (.fired hdeadline hfired hstate hgrows))
  next identity hstate => exact ⟨.single (.fallsDue hdeadline hfired hstate), trivial⟩
  next hstate => exact absurd hstate hcoupled.running

variable {identity : TurnIdentity}

theorem endTurn_handles (event : RuntimeEvent) (hstate : loop.state = .responding identity) :
    Handles (endTurn env event) loop Anywhere := by
  have hturn : loop.turnEvents = some identity := by
    rw [hcoupled.turn, hstate]
    rfl
  apply releaseTurn_bind
  intro reaped hreaped
  rw [reaping, hturn] at hreaped
  apply clearPartials_bind true
  intro cleared hcleared
  apply of_update
  have hquiet := hreaped.then_quiet hcleared
  apply reportFailure_bind
  · intro after hmurmurs hclosed
    obtain ⟨plain, hplain, hgrows⟩ := hmurmurs.deeds
    obtain ⟨wire, rfl⟩ := hmurmurs.change
    have hlast : Last loop _ := .cutShort hturn hplain (hquiet.trans hgrows)
    exact ⟨hclosed, hlast.exits⟩
  · intro after hmurmurs
    obtain ⟨plain, hplain, hgrows⟩ := hmurmurs.deeds
    obtain ⟨wire, rfl⟩ := hmurmurs.change
    have hdeeds := hquiet.trans hgrows
    apply of_read
    split
    next hdue =>
      apply asFatal_handled
      apply (startReadyTurn_meets env { loop with
        turnEvents := none, state := .listening, playback := none, wire := wire }
        ⟨rfl, rfl⟩ hcoupled.segment).mono
      rintro result after ⟨ready, hready, hhandled⟩
      have hmove : Move loop _ := .endedDue hstate hplain (hdeeds.then_quiet hready)
      exact hhandled.after_reach (.single hmove)
    next hdue =>
      have hmove : Move loop _ := .ended hstate (Bool.eq_false_of_not_eq_true hdue) hplain hdeeds
      exact ⟨.single hmove, trivial⟩

theorem handleTurnEvent_handles (event : Option RuntimeEvent)
    (hstate : loop.state = .responding identity) :
    Handles (handleTurnEvent env event) loop Anywhere := by
  cases event with
  | none =>
    have hturn : loop.turnEvents = some identity := by
      rw [hcoupled.turn, hstate]
      rfl
    apply releaseTurn_bind
    intro wire hreaped
    rw [reaping, hturn] at hreaped
    exact (Last.streamEnded hturn hreaped).exits
  | some event =>
    apply of_read
    simp only [hstate]
    apply publishRuntimeTiming_bind
    intro timed htimed
    apply Handles.after_reach (quiet_reach htimed)
    apply Handles.of_bind (publishTurnEvent_handles env identity.generationId event)
    intro isOpen middle hreach hpasses
    apply of_require
    · intro _
      split
      next =>
        exact endTurn_handles env ((hcoupled.reach (quiet_reach htimed)).reach hreach) event
          (hpasses.1.trans hstate)
      next => exact Handles.of_pure trivial
    · exact fun hshut => ⟨hpasses.2 (by simpa using hshut), Acts.exits .refl⟩

theorem handleCommand_woken (command : Option SessionCommand) (hopen : loop.wire.isClosed = false) :
    Meets (handleCommand env command) loop (Woken (.command command) loop) := by
  rcases command with _ | command
  · exact Relation.ReflTransGen.refl
  cases command with
  | bargeIn identity => exact handleBargeIn_woken env hcoupled identity
  | pauseCapture => exact .inl (startCaptureOperation_reach .pause)
  | resumeCapture => exact .inl (startCaptureOperation_reach .resume)
  | shutdown => exact Relation.ReflTransGen.refl
  | authorizeResponse sessionId segmentId =>
    apply Handles.woken
    apply Handles.of_bind (authorizeSegment_handles env sessionId segmentId hopen)
    intro result middle _ hledger
    have hnoted := grows_note middle.wire (.authorized segmentId result)
    cases result with
    | ok turnId => exact ⟨.single (.authorized (hledger turnId rfl) hnoted), trivial⟩
    | error error =>
      refine ⟨.single (.quiet ?_ hnoted), trivial⟩
      intro deed hdeed
      rw [List.mem_singleton.mp hdeed]
      trivial
  | skipResponse sessionId segmentId reason =>
    apply Handles.woken
    apply Handles.of_bind (skipSegment_handles env sessionId segmentId reason)
    exact fun _ _ _ _ => .of_pure trivial

theorem handleInput_woken (input : Option (Except VoiceIoFailure VoiceInputEvent)) :
    Meets (handleInput env input) loop (Woken (.input input) loop) := by
  rcases input with _ | error | event
  · exact (leaveFatally_handles _).woken
  · apply Handles.woken
    simp only [handleInput]
    split
    next => exact handleRecognitionFailure_handles env hcoupled error
    next => exact leaveFatally_handles _
  cases event with
  | deviceStatus inputLabel outputLabel =>
    apply Handles.woken
    apply of_read
    exact publishOrLeave_handles env trivial rfl
  | activity activity => exact (handleActivity_handles env hcoupled activity).woken
  | recognition event =>
    cases event with
    | finalizedUtterance utterance =>
      apply Handles.woken
      exact asFatal_handled (admitFinalizedUtterance_handles env utterance)
    | hypothesis hypothesis => exact handleHypothesis_woken env hypothesis
    | speechStarted | speechEnded => exact (leaveFatally_handles _).woken
  | playback receipt => exact (handlePlayback_handles env receipt).woken
  | captureDiscontinuity => exact .inl (.single .discontinued)
  | captureFrame => exact (observeAudio_handles env).woken
  | captureMetadata | captureFinish => exact .inl .refl

/-- A signal the loop was waiting for is handled by moves. -/
theorem handle_woken {signal : LoopSignal} (hopen : loop.wire.isClosed = false)
    (hoffers : loop.offers signal = true) : Meets (handle env signal) loop (Woken signal loop) := by
  cases signal with
  | consumerDropped =>
    have hgrows : loop.wire.Grows [] (make (.attend ⟨0, true⟩) loop.wire).2 :=
      grows_make _ _ trivial
    refine closed_leaves (quiet_reach hgrows) ?_
    exact Channel.closed_attend_closing loop.wire.outbox.events
  | command command => exact handleCommand_woken env hcoupled command hopen
  | capture succeeded => exact (handleCaptureCompletion_handles env succeeded).woken
  | completion failure =>
    have hmove : Move loop _ := .captured loop.captureState loop.captureOperation false
      loop.firstAudioReceived
    exact (Reach.acts (.single hmove)).exits
  | recorder notice =>
    apply Handles.woken
    apply of_read
    exact publishOrLeave_handles env (by cases notice <;> trivial) (by cases notice <;> rfl)
  | automaticResponse =>
    apply Handles.woken
    exact asFatal_handled (startQueuedAutomaticResponse_handles env)
  | input input => exact handleInput_woken env hcoupled input
  | turn event =>
    simp only [offers, Bool.and_eq_true] at hoffers
    obtain ⟨identity, hturn⟩ := Option.isSome_iff_exists.mp hoffers.2
    apply Handles.woken
    apply handleTurnEvent_handles env hcoupled event
    exact hcoupled.responding hturn
  | deadline =>
    simp only [offers, Bool.and_eq_true] at hoffers
    have hany := hoffers.2
    cases hdeadline : loop.deadline with
    | none => simp [hdeadline] at hany
    | some firesAt =>
      have hfired : firesAt ≤ loop.wire.clockMs := by simpa [hdeadline] using hany
      exact (handleDeadline_handles env hcoupled hdeadline hfired).woken
  | delivery =>
    obtain ⟨isOpen, wire, hrun, hgrows, hclosed⟩ := deliverPendingEvent_law env loop.wire
    apply of_ok_bind (onWire_eq hrun)
    apply of_last_require
    · exact fun _ => .inl (quiet_reach hgrows)
    · exact fun hshut => closed_leaves (quiet_reach hgrows) (hclosed (by simpa using hshut))

/-- One turn of the loop from where it waits. -/
theorem runTurn_woken (signal : LoopSignal) :
    Meets (runTurn env signal) loop (Woken signal loop) := by
  apply (awaitSignal_meets env).of_bind
  · rintro _ _ ⟨wire, hgrows, rfl, ⟨-, hopen⟩ | ⟨⟨⟩, -⟩⟩
    apply of_read
    split
    next hoffers =>
      apply (handle_woken env (hcoupled.reach (quiet_reach hgrows)) hopen hoffers).mono
      intro result after hwoken
      cases result with
      | ok =>
        rcases hwoken with hreach | ⟨middle, hmurmurs, hturn⟩
        · exact .inl ((quiet_reach hgrows).trans hreach)
        · exact .inr ⟨middle, (Murmurs.of_quiet hgrows).trans hmurmurs, hturn⟩
      | error stop => exact Leaves.of_acts (Reach.acts (quiet_reach hgrows)) hwoken
    next => exact .inl (quiet_reach hgrows)
  · rintro _ _ ⟨wire, hgrows, rfl, ⟨⟨⟩, -⟩ | ⟨hstop, hclosed⟩⟩
    cases hstop
    exact closed_leaves (quiet_reach hgrows) hclosed

end Signals

end VoiceLoop

end ConversationRuntime
