import ConversationRuntime.Voice.Signals

/-! # How a session ends

Once the loop has left, it stops the turn being spoken, cleans up, and perhaps
goes on recording. It starts nothing and answers nothing any more.
-/

namespace ConversationRuntime

open Foundation Fallible Meets List

/-- What the journal may still show once the loop has left. -/
def Deed.IsFading : Deed → Prop
  | .interrupted _ | .reaped _ => True
  | deed => deed.IsPlain

theorem Deed.IsPlain.fading {deed : Deed} (h : deed.IsPlain) : deed.IsFading := by
  cases deed <;> trivial

namespace VoiceLoop

/-- Segments and responses are as they were, or the queue was given up. -/
structure Fades (before after : VoiceLoop) : Prop where
  sessionId : after.sessionId = before.sessionId
  responseMode : after.responseMode = before.responseMode
  pendingSegments : after.pendingSegments = before.pendingSegments
  pendingOrder : after.pendingOrder = before.pendingOrder
  lastFinalizedSegment : after.lastFinalizedSegment = before.lastFinalizedSegment
  sequence : after.sequence = before.sequence
  queue : after.automaticResponses = before.automaticResponses ∨ after.automaticResponses = []
  deeds : ∃ deeds : List Deed, (∀ deed ∈ deeds, deed.IsFading) ∧ before.wire.Grows deeds after.wire

namespace Fades

theorem refl (loop : VoiceLoop) : Fades loop loop :=
  ⟨rfl, rfl, rfl, rfl, rfl, rfl, .inl rfl, [], forall_mem_nil _, .refl loop.wire⟩

theorem onto {before middle : VoiceLoop} {wire : Wire} {deeds : List Deed}
    (h : Fades before middle) (hdeeds : ∀ deed ∈ deeds, deed.IsFading)
    (hgrows : middle.wire.Grows deeds wire) : Fades before (middle.onto wire) := by
  obtain ⟨former, hformer, hbefore⟩ := h.deeds
  refine ⟨h.sessionId, h.responseMode, h.pendingSegments, h.pendingOrder, h.lastFinalizedSegment,
    h.sequence, h.queue, former ++ deeds, ?_, hbefore.trans hgrows⟩
  intro deed hdeed
  exact (mem_append.mp hdeed).elim (hformer deed) (hdeeds deed)

theorem closed {before after : VoiceLoop} (h : Fades before after)
    (hclosed : before.wire.isClosed = true) : after.wire.isClosed = true := by
  obtain ⟨deeds, -, hgrows⟩ := h.deeds
  exact hgrows.closed hclosed

end Fades

/-- Stopping the turn being spoken leaves segments and responses alone. -/
theorem Silences.fades {before after : VoiceLoop} {identity : TurnIdentity}
    (h : Silences before after identity) : Fades before after := by
  obtain ⟨plain, more, hplain, hgrows⟩ := h.deeds
  obtain ⟨wire, rfl⟩ := h.change
  refine ⟨rfl, rfl, rfl, rfl, rfl, rfl, .inl rfl, _, ?_, hgrows⟩
  intro deed hdeed
  simp only [cons_append, mem_cons, mem_append] at hdeed
  rcases hdeed with rfl | hdeed | rfl | hdeed
  · trivial
  · exact (hplain deed (mem_append_left more hdeed)).fading
  · trivial
  · exact (hplain deed (mem_append_right plain hdeed)).fading

section Cleanup

variable (env : VoiceEnvironment) {loop before after : VoiceLoop}

theorem Fades.trans {middle after : VoiceLoop} (hfirst : Fades before middle)
    (hsecond : Fades middle after) : Fades before after := by
  obtain ⟨deeds, hdeeds, hgrows⟩ := hfirst.deeds
  obtain ⟨more, hmore, hgrows'⟩ := hsecond.deeds
  refine ⟨hsecond.sessionId.trans hfirst.sessionId, hsecond.responseMode.trans hfirst.responseMode,
    hsecond.pendingSegments.trans hfirst.pendingSegments, hsecond.pendingOrder.trans
    hfirst.pendingOrder, hsecond.lastFinalizedSegment.trans hfirst.lastFinalizedSegment,
    hsecond.sequence.trans hfirst.sequence, ?_, deeds ++ more, ?_, hgrows.trans hgrows'⟩
  · rcases hsecond.queue with hsame | hempty
    · rw [hsame]
      exact hfirst.queue
    · exact .inr hempty
  · intro deed hdeed
    exact (mem_append.mp hdeed).elim (hdeeds deed) (hmore deed)

/-- Time that passes changes nothing that fades. -/
theorem Fades.of_quiet {wire : Wire} (h : loop.wire.Grows [] wire) : Fades loop (loop.onto wire) :=
  (Fades.refl loop).onto (forall_mem_nil _) h

theorem Murmurs.fades (h : Murmurs before after) : Fades before after := by
  obtain ⟨plain, hplain, hgrows⟩ := h.deeds
  obtain ⟨wire, rfl⟩ := h.change
  exact (Fades.refl before).onto (fun deed hdeed => (hplain deed hdeed).fading) hgrows

theorem LetsGo.fades (h : LetsGo before after) : Fades before after := by
  obtain ⟨plain, hplain, hgrows⟩ := h.deeds
  obtain ⟨wire, rfl⟩ := h.change
  have hfading : ∀ deed ∈ plain ++ before.reaping, deed.IsFading := by
    intro deed hdeed
    rcases mem_append.mp hdeed with hold | hreaped
    · exact (hplain deed hold).fading
    · obtain ⟨identity, -, rfl⟩ := Option.map_eq_some_iff.mp (Option.mem_toList.mp hreaped)
      trivial
  exact { (Fades.refl before).onto hfading hgrows with }

/-- Whatever state the loop left in, its turn is stopped, or stopping it fails. -/
theorem interruptCurrentTurn_fades :
    Meets (interruptCurrentTurn env) loop (fun result after => Fades loop after ∧
      (result = .ok () ∨ ∃ error, result = .error (.failed error))) := by
  cases hstate : loop.state with
  | responding identity =>
    apply (interruptCurrentTurn_stops env hstate).mono
    rintro result after ⟨asked, hgrows, hstops⟩
    have hfading : ∀ deed ∈ [Deed.interrupted identity], deed.IsFading := by simp [Deed.IsFading]
    have hasked : Fades loop { loop with playback := none, wire := asked } :=
      { (Fades.refl loop).onto hfading hgrows with }
    have hhushed : Hushes { loop with playback := none, wire := asked } after →
        Fades loop after := by
      rintro ⟨gone, hgone, rfl⟩
      exact { hasked.trans hgone.fades with }
    cases result with
    | ok => exact ⟨hhushed hstops, .inl rfl⟩
    | error stop =>
      cases stop with
      | failed error =>
        exact ⟨hstops.elim hhushed fun h => hasked.trans h.1.fades, .inr ⟨error, rfl⟩⟩
      | dropped | exit => exact absurd hstops not_false
  | _ =>
    apply of_read
    simp only [hstate]
    exact ⟨.refl loop, .inl rfl⟩

theorem cleanupActiveTurn_bind {β : Type} {next : Except RuntimeError Unit → Voice β}
    {post : Except Stop β → VoiceLoop → Prop}
    (h : ∀ value stopped, Fades loop stopped → Meets (next value) stopped post) :
    Meets (caught (cleanupActiveTurn env) >>= next) loop post := by
  apply caught_bind
  apply (interruptCurrentTurn_fades env).mono
  rintro _ stopped ⟨hstopped, rfl | ⟨error, rfl⟩⟩ <;> exact h _ stopped hstopped

/-- What a session that has ended says of how it ended. -/
def Concluded (exit : LoopExit) (deferred : Option RuntimeError) (before after : VoiceLoop) :
    Prop :=
  Fades before after ∧ ∃ event, after.course = .ended event ∧
    ∀ sessionId, event = .sessionEnded sessionId → before.automaticResponses = [] ∧
      (exit = .consumerDropped ∨ exit = .shutdown ∧ deferred = none)

theorem cleanupCaptureOperation_meets :
    Meets (cleanupCaptureOperation env) loop (fun result after => (∃ error, result = .ok error) ∧
      Fades loop after ∧ after.automaticResponses = loop.automaticResponses) := by
  apply of_read
  apply answers_bind
  intro answer asked hasked
  have hfades := Fades.of_quiet hasked
  split
  next => exact ⟨⟨_, rfl⟩, hfades, rfl⟩
  next => exact ⟨⟨_, rfl⟩, { hfades with }, rfl⟩

theorem awaitCompletionCleanup_meets : Meets (awaitCompletionCleanup env) loop (fun result after =>
      (∃ error, result = .ok error) ∧ Fades loop after) := by
  apply of_read
  apply answers_bind
  intro answer asked hasked
  exact ⟨⟨_, rfl⟩, { Fades.of_quiet hasked with }⟩

/-- A session ends well only when nothing was left to answer and it was told to end. -/
theorem terminalEvent_sessionEnded {sessionId session : SessionId}
    {deferred cleanupError : Option RuntimeError} {exit : LoopExit}
    (h : terminalEvent sessionId deferred cleanupError exit = .sessionEnded session) :
    cleanupError = none ∧ (exit = .consumerDropped ∨ exit = .shutdown ∧ deferred = none) := by
  cases exit with
  | shutdown =>
    cases cleanupError with
    | some => cases h
    | none =>
      cases deferred with
      | some => cases h
      | none => exact ⟨rfl, .inr ⟨rfl, rfl⟩⟩
  | consumerDropped =>
    cases cleanupError with
    | some => cases h
    | none => exact ⟨rfl, .inl rfl⟩
  | fatal => cases h

theorem queue_of_unadmitted (h : loop.unadmitted = none) : loop.automaticResponses = [] := by
  unfold unadmitted at h
  split at h
  next hempty => exact isEmpty_iff.mp hempty
  next => cases h

theorem conclude_meets (exit : LoopExit) (deferred : Option RuntimeError) (loop : VoiceLoop) :
    Meets (conclude env exit deferred) loop (fun result after => result = .ok () ∧
      Concluded exit deferred loop after) := by
  apply cleanupCaptureOperation_meets env |>.of_bind
  · rintro captureError captured ⟨-, hcaptured, hqueue⟩
    apply of_read
    apply cleanupActiveTurn_bind env
    intro turnResult stopped hstopped
    apply of_update
    apply (awaitCompletionCleanup_meets env).of_bind
    · rintro completionError completed ⟨-, hcompleted⟩
      have hended : Fades loop { stopped with state := .ending } :=
        { hcaptured.trans hstopped with }
      refine ⟨rfl, { hended.trans hcompleted with }, _, rfl, ?_⟩
      intro sessionId hended
      obtain ⟨hclean, hexit⟩ := terminalEvent_sessionEnded hended
      refine ⟨?_, hexit⟩
      simp only [Option.or_eq_none_iff] at hclean
      rw [← hqueue]
      exact queue_of_unadmitted hclean.1.1.2
    · rintro _ _ ⟨⟨_, ⟨⟩⟩, -⟩
  · rintro _ _ ⟨⟨_, ⟨⟩⟩, -⟩

/-- How the first loop of a session is left: to record on with an empty queue, or for
good. -/
def Departs (exit : LoopExit) (before after : VoiceLoop) : Prop :=
  Fades before after ∧
    ((∃ error, after.course = .recording error) ∨
      ∃ event, after.course = .ended event ∧ ∀ sessionId, event = .sessionEnded sessionId →
        after.wire.isClosed = true ∨ exit = .consumerDropped ∨
          exit = .shutdown ∧ before.automaticResponses = [])

theorem Concluded.departs {exit : LoopExit} {after : VoiceLoop}
    (h : Concluded exit none loop after) :
    Departs exit loop after := by
  obtain ⟨hfades, event, hcourse, hended⟩ := h
  refine ⟨hfades, .inr ⟨event, hcourse, ?_⟩⟩
  intro sessionId hevent
  obtain ⟨hqueue, hexit⟩ := hended sessionId hevent
  rcases hexit with hdropped | ⟨hshutdown, -⟩
  · exact .inr (.inl hdropped)
  · exact .inr (.inr ⟨hshutdown, hqueue⟩)

theorem recordUntilStopped_departs (error : RuntimeError) :
    Meets (recordUntilStopped env error) loop
      (fun _ after => Departs (.fatal error) loop after) := by
  apply cleanupActiveTurn_bind env
  intro _ stopped hstopped
  have hemptied : Fades loop { stopped with
      automaticResponses := [], turnEvents := none, state := .listening } :=
    { hstopped with queue := .inr rfl }
  apply of_update
  apply of_read
  apply publishReliable_bind env rfl
  intro isOpen wire hpublishes
  obtain ⟨wasOpen, hgrows, -⟩ := hpublishes.grows
  have hplain : (VoiceSessionEvent.sessionFailed stopped.sessionId voiceLoopStopped
    .continueSession).IsPlain := trivial
  have htold := hemptied.trans (Murmurs.of_passed hplain hgrows).fades
  cases isOpen with
  | true => exact ⟨{ htold with }, .inl ⟨error, rfl⟩⟩
  | false =>
    apply (conclude_meets env .consumerDropped (some error) _).mono
    rintro _ after ⟨-, hfades, event, hcourse, -⟩
    refine ⟨htold.trans hfades, .inr ⟨event, hcourse, fun _ _ => .inl ?_⟩⟩
    exact hfades.closed (hpublishes.closed rfl)

theorem leave_departs (exit : LoopExit) :
    Meets (leave env exit) loop (fun _ after => Departs exit loop after) := by
  have hconclude : ∀ exit {loop : VoiceLoop},
      Meets (conclude env exit none) loop (fun _ after => Departs exit loop after) :=
    fun exit _ => (conclude_meets env exit none _).mono fun _ _ h => h.2.departs
  cases exit with
  | shutdown => exact hconclude .shutdown
  | consumerDropped => exact hconclude .consumerDropped
  | fatal error =>
    have hrecords : Meets (recordsAfterFailure env) loop (fun result after =>
        (∃ records, result = .ok records) ∧ ∃ wire, loop.wire.Grows [] wire ∧
          after = loop.onto wire) := by
      apply answers_bind
      intro answer asked hasked
      exact ⟨⟨_, rfl⟩, asked, hasked, rfl⟩
    apply hrecords.of_bind
    · rintro records _ ⟨-, wire, hgrows, rfl⟩
      have hfades := Fades.of_quiet hgrows
      have hsame : ∀ after, Departs (.fatal error) (loop.onto wire) after →
          Departs (.fatal error) loop after :=
        fun after hdeparts => ⟨hfades.trans hdeparts.1, hdeparts.2⟩
      split
      next => exact (recordUntilStopped_departs env error).mono fun _ after h => hsame after h
      next => exact (hconclude _).mono fun _ after h => hsame after h
    · rintro _ _ ⟨⟨_, ⟨⟩⟩, -⟩

end Cleanup

/-! ## Recording on -/

/-- The result makes the session end for want of a consumer. -/
def FindsNoConsumer : Except Stop Unit → Prop
  | .ok () => False
  | .error stop => Stop.asExit stop = .consumerDropped

/-- What a signal does while only the recording goes on. -/
def Records (before : VoiceLoop) (result : Except Stop Unit) (after : VoiceLoop) : Prop :=
  Fades before after ∧ after.course = before.course ∧
    (FindsNoConsumer result → after.wire.isClosed = true)

variable {before after : VoiceLoop}

theorem Murmurs.course (h : Murmurs before after) : after.course = before.course := by
  obtain ⟨wire, rfl⟩ := h.change
  rfl

section Recording

variable (env : VoiceEnvironment) {loop : VoiceLoop}

theorem publishOrLeave_records {before : VoiceLoop} {event : VoiceSessionEvent}
    (hplain : event.IsPlain) (hproper : event.partialSegment = none) (hfades : Fades before loop)
    (hcourse : loop.course = before.course) :
    Meets (publishOrLeave env event) loop (Records before) := by
  apply publishReliable_bind env hproper
  intro isOpen wire hpublishes
  obtain ⟨wasOpen, hgrows, -⟩ := hpublishes.grows
  have hmurmurs := Murmurs.of_passed hplain hgrows
  have hafter := hfades.trans hmurmurs.fades
  apply of_last_require
  · exact fun _ => ⟨hafter, hcourse, nofun⟩
  · exact fun hshut => ⟨hafter, hcourse, fun _ => hpublishes.closed (by simpa using hshut)⟩

theorem handleCaptureCompletion_records (succeeded : Bool) :
    Meets (handleCaptureCompletion env succeeded) loop (Records loop) := by
  apply of_read
  split
  next => exact ⟨.refl loop, rfl, nofun⟩
  next kind _ =>
    apply of_update
    have hfades : ∀ captureState, Fades loop { loop with captureOperation := none, captureState } :=
      fun _ => { Fades.refl loop with }
    split
    next =>
      exact publishOrLeave_records env (by cases kind <;> trivial) (by cases kind <;> rfl)
        (hfades _) rfl
    next => exact ⟨hfades _, rfl, nofun⟩

theorem startCaptureOperation_records (kind : CaptureOperationKind) :
    Meets (startCaptureOperation kind) loop (Records loop) := by
  simp only [startCaptureOperation, Meets, update]
  split
  next => exact ⟨{ Fades.refl loop with }, rfl, by rintro ⟨⟩⟩
  next => exact ⟨{ Fades.refl loop with }, rfl, by rintro ⟨⟩⟩
  next => exact ⟨.refl loop, rfl, by rintro ⟨⟩⟩

theorem handleRecording_records (error : RuntimeError) (signal : LoopSignal) :
    Meets (handleRecording env error signal) loop (Records loop) := by
  have hrefl : ∀ result, ¬ FindsNoConsumer result → Records loop result loop :=
    fun result hresult => ⟨.refl loop, rfl, fun h => absurd h hresult⟩
  cases signal with
  | consumerDropped =>
    have hgrows : loop.wire.Grows [] (Wire.make (.attend ⟨0, true⟩) loop.wire).2 :=
      Wire.grows_make _ _ trivial
    exact ⟨(Murmurs.of_quiet hgrows).fades, rfl,
      fun _ => Channel.closed_attend_closing loop.wire.outbox.events⟩
  | command command =>
    rcases command with _ | command
    · exact hrefl _ nofun
    cases command with
    | pauseCapture => exact startCaptureOperation_records .pause
    | resumeCapture => exact startCaptureOperation_records .resume
    | _ => exact hrefl _ nofun
  | capture succeeded => exact handleCaptureCompletion_records env succeeded
  | completion => exact ⟨{ Fades.refl loop with }, rfl, nofun⟩
  | recorder notice =>
    apply of_read
    exact publishOrLeave_records env (by cases notice <;> trivial) (by cases notice <;> rfl)
      (.refl loop) rfl
  | input input => cases input <;> exact hrefl _ nofun
  | delivery =>
    obtain ⟨isOpen, wire, hrun, hgrows, hclosed⟩ := Wire.deliverPendingEvent_law env loop.wire
    have hfades := (Murmurs.of_quiet hgrows).fades
    apply of_ok_bind (onWire_eq hrun)
    apply of_last_require
    · exact fun _ => ⟨hfades, rfl, nofun⟩
    · exact fun hshut => ⟨hfades, rfl, fun _ => hclosed (by simpa using hshut)⟩
  | automaticResponse | turn | deadline => exact hrefl _ nofun

theorem recordTurn_records (error : RuntimeError) (signal : LoopSignal) :
    Meets (recordTurn env error signal) loop (Records loop) := by
  apply (awaitSignal_meets env).of_bind
  · rintro _ _ ⟨wire, hgrows, rfl, -⟩
    have hfades := (Murmurs.of_quiet hgrows).fades
    apply of_read
    split
    next =>
      apply (handleRecording_records env error signal).mono
      exact fun _ _ hrecords => ⟨hfades.trans hrecords.1, hrecords.2.1, hrecords.2.2⟩
    next => exact ⟨hfades, rfl, nofun⟩
  · rintro _ _ ⟨wire, hgrows, rfl, ⟨⟨⟩, -⟩ | ⟨hstop, hclosed⟩⟩
    cases hstop
    exact ⟨(Murmurs.of_quiet hgrows).fades, rfl, fun _ => hclosed⟩

end Recording

/-! ## Steps and runs -/

theorem Move.course (h : Move before after) : after.course = before.course := by
  cases h with
  | recovered hsilent =>
    rcases hsilent with rfl | ⟨identity, hsilences⟩
    · rfl
    · obtain ⟨wire, rfl⟩ := hsilences.change
      rfl
  | silenced _ hsilences =>
    obtain ⟨wire, rfl⟩ := hsilences.change
    rfl
  | _ => rfl

theorem Reach.course (h : Reach before after) : after.course = before.course := by
  induction h with
  | refl => rfl
  | tail _ hmove ih => exact hmove.course.trans ih

theorem Turn.course {signal : LoopSignal} (h : Turn before signal after) :
    after.course = before.course := by
  cases h with
  | heard => rfl
  | silenced hsilences =>
    obtain ⟨wire, rfl⟩ := hsilences.change
    rfl

/-- What one more signal does to a session. -/
inductive Proceeds (loop : VoiceLoop) (signal : LoopSignal) : VoiceLoop → Prop
  | ceased {event : VoiceSessionEvent} (hcourse : loop.course = .ended event) :
      Proceeds loop signal loop
  | moves {after : VoiceLoop} (hcourse : loop.course = .running) (hreach : Reach loop after) :
      Proceeds loop signal after
  | turns {middle after : VoiceLoop} (hcourse : loop.course = .running)
      (hmurmurs : Murmurs loop middle) (hturn : Turn middle signal after) :
      Proceeds loop signal after
  | leaves {middle after : VoiceLoop} {stop : Stop} (hcourse : loop.course = .running)
      (hleaves : Leaves loop stop middle) (hdeparts : Departs (Stop.asExit stop) middle after) :
      Proceeds loop signal after
  | records {error : RuntimeError} {after : VoiceLoop} (hcourse : loop.course = .recording error)
      (hfades : Fades loop after)
      (hends : after.course = .recording error ∨ ∃ event, after.course = .ended event ∧
        ∀ sessionId, event = .sessionEnded sessionId → after.wire.isClosed = true) :
      Proceeds loop signal after

theorem step_proceeds (env : VoiceEnvironment) {loop : VoiceLoop} (signal : LoopSignal)
    (hcoupled : loop.course = .running → loop.Coupled) :
    Proceeds loop signal (step env loop signal) := by
  unfold step
  split
  next event hcourse => exact .ceased hcourse
  next hcourse =>
    have hwoken := runTurn_woken env (hcoupled hcourse) signal
    rw [Meets] at hwoken
    split
    next reached hrun =>
      rw [hrun] at hwoken
      rcases hwoken with hreach | ⟨middle, hmurmurs, hturn⟩
      · exact .moves hcourse hreach
      · exact .turns hcourse hmurmurs hturn
    next stop reached hrun =>
      rw [hrun] at hwoken
      exact .leaves hcourse hwoken (leave_departs env (Stop.asExit stop))
  next error hcourse =>
    have hrecords : Meets (recordTurn env error signal) loop (Records loop) :=
      recordTurn_records env error signal
    rw [Meets] at hrecords
    split
    next reached hrun =>
      rw [hrun] at hrecords
      exact .records hcourse hrecords.1 (.inl (hrecords.2.1.trans hcourse))
    next stop reached hrun =>
      rw [hrun] at hrecords
      obtain ⟨-, hfades, event, hended, hwell⟩ :=
        conclude_meets env (Stop.asExit stop) (some error) reached
      refine .records hcourse (hrecords.1.trans hfades) (.inr ⟨event, hended, ?_⟩)
      intro sessionId hevent
      rcases (hwell sessionId hevent).2 with hdropped | ⟨-, ⟨⟩⟩
      exact hfades.closed (hrecords.2.2 hdropped)

/-- What holds inside the loop and what is left of it outside. -/
structure Lasting (inside outside : VoiceLoop → Prop) : Prop where
  act : ∀ {before after}, before.Coupled → inside before → Act before after → inside after
  leave : ∀ {loop}, inside loop → outside loop
  last : ∀ {before after}, before.Coupled → inside before → Last before after → outside after
  fade : ∀ {before after}, Fades before after → outside before → outside after

namespace Lasting

/-- What holds of a loop that may have been left: the one while it runs, the other always. -/
structure Lasts (inside outside : VoiceLoop → Prop) (loop : VoiceLoop) : Prop where
  inside : loop.course = .running → loop.Coupled ∧ inside loop
  outside : outside loop

variable {inside outside : VoiceLoop → Prop} {after loop : VoiceLoop}

section

variable (h : Lasting inside outside)

include h

theorem acts {before : VoiceLoop} (hcoupled : before.Coupled) (hinside : inside before)
    (hacts : Acts before after) : inside after := by
  induction hacts with
  | refl => exact hinside
  | tail hsofar hact ih => exact h.act (hcoupled.acts hsofar) ih hact

theorem exits {before : VoiceLoop} (hcoupled : before.Coupled) (hinside : inside before)
    (hexits : Exits before after) : outside after := by
  obtain ⟨middle, hacts, rfl | hlast⟩ := hexits
  · exact h.leave (h.acts hcoupled hinside hacts)
  · exact h.last (hcoupled.acts hacts) (h.acts hcoupled hinside hacts) hlast

theorem leaves {before after : VoiceLoop} {stop : Stop} (hcoupled : before.Coupled)
    (hinside : inside before) (hleaves : Leaves before stop after) : outside after := by
  cases stop with
  | dropped => exact absurd hleaves not_false
  | failed => exact h.exits hcoupled hinside hleaves
  | exit exit =>
    cases exit with
    | shutdown => exact h.leave (h.acts hcoupled hinside hleaves)
    | consumerDropped => exact h.exits hcoupled hinside hleaves.2
    | fatal => exact h.exits hcoupled hinside hleaves

theorem start (hcoupled : loop.Coupled) (hinside : inside loop) : Lasts inside outside loop :=
  ⟨fun _ => ⟨hcoupled, hinside⟩, h.leave hinside⟩

/-- One signal keeps both, each where it belongs. -/
theorem proceeds {signal : LoopSignal} (hlasts : Lasts inside outside loop)
    (hproceeds : Proceeds loop signal after) : Lasts inside outside after := by
  have hleft : ∀ {middle : VoiceLoop} {exit : LoopExit}, outside middle →
      Departs exit middle after → Lasts inside outside after := by
    rintro middle exit hmiddle ⟨hfades, ⟨error, hcourse⟩ | ⟨event, hcourse, -⟩⟩ <;>
      exact ⟨fun hrunning => (nomatch hcourse.symm.trans hrunning), h.fade hfades hmiddle⟩
  have hstays : ∀ {after : VoiceLoop}, loop.course = .running → Acts loop after →
      Lasts inside outside after := by
    intro after hcourse hacts
    obtain ⟨hcoupled, hloop⟩ := hlasts.inside hcourse
    exact h.start (hcoupled.acts hacts) (h.acts hcoupled hloop hacts)
  cases hproceeds with
  | ceased => exact hlasts
  | moves hcourse hreach => exact hstays hcourse (Reach.acts hreach)
  | turns hcourse hmurmurs hturn =>
    exact hstays hcourse ((Reach.acts hmurmurs.reach).tail (.inr ⟨_, hturn⟩))
  | leaves hcourse hleaves hdeparts =>
    obtain ⟨hcoupled, hloop⟩ := hlasts.inside hcourse
    exact hleft (h.leaves hcoupled hloop hleaves) hdeparts
  | records hcourse hfades hends =>
    refine ⟨fun hrunning => ?_, h.fade hfades hlasts.outside⟩
    rcases hends with hrecording | ⟨event, hended, -⟩
    · exact nomatch hrecording.symm.trans hrunning
    · exact nomatch hended.symm.trans hrunning

/-- Every run keeps both. -/
theorem run (env : VoiceEnvironment) (signals : List LoopSignal)
    (hlasts : Lasts inside outside loop) : Lasts inside outside (run env loop signals) := by
  induction signals generalizing loop with
  | nil => exact hlasts
  | cons signal rest ih =>
    have hproceeds := step_proceeds env signal fun hcourse => (hlasts.inside hcourse).1
    exact ih (h.proceeds hlasts hproceeds)

end

/-- The session ended well with a consumer only after the loop had nothing left to answer. -/
def EndsWell (inside : VoiceLoop → Prop) (loop : VoiceLoop) : Prop :=
  ∀ sessionId, loop.course = .ended (.sessionEnded sessionId) → loop.wire.isClosed = false →
    ∃ middle, inside middle ∧ middle.automaticResponses = [] ∧ Fades middle loop

theorem endsWell_proceeds (h : Lasting inside outside) {signal : LoopSignal}
    (hlasts : Lasts inside outside loop) (hends : EndsWell inside loop)
    (hproceeds : Proceeds loop signal after) : EndsWell inside after := by
  intro sessionId hended hopen
  cases hproceeds with
  | ceased => exact hends sessionId hended hopen
  | moves hcourse hreach => exact nomatch (hreach.course.trans hcourse).symm.trans hended
  | turns hcourse hmurmurs hturn =>
    exact nomatch ((hturn.course.trans hmurmurs.course).trans hcourse).symm.trans hended
  | @leaves middle _ stop hcourse hleaves hdeparts =>
    obtain ⟨hfades, ⟨error, hrecords⟩ | ⟨event, hevent, hwell⟩⟩ := hdeparts
    · exact nomatch hrecords.symm.trans hended
    cases hevent.symm.trans hended
    obtain ⟨hcoupled, hloop⟩ := hlasts.inside hcourse
    rcases hwell sessionId rfl with hclosed | hdropped | ⟨hshutdown, hempty⟩
    · cases hclosed.symm.trans hopen
    · -- Only a closed channel makes the loop leave for want of a consumer.
      obtain rfl : stop = .exit .consumerDropped := by
        cases stop with
        | dropped => exact absurd hleaves not_false
        | failed => cases hdropped
        | exit exit => exact congrArg Stop.exit hdropped
      cases (hfades.closed hleaves.1).symm.trans hopen
    · obtain rfl : stop = .exit .shutdown := by
        cases stop with
        | dropped => exact absurd hleaves not_false
        | failed => cases hshutdown
        | exit exit => exact congrArg Stop.exit hshutdown
      exact ⟨middle, h.acts hcoupled hloop hleaves, hempty, hfades⟩
  | records hcourse hfades hends =>
    rcases hends with hrecording | ⟨event, hevent, hclosed⟩
    · exact nomatch hrecording.symm.trans hended
    · cases hevent.symm.trans hended
      cases (hclosed sessionId rfl).symm.trans hopen

theorem endsWell (h : Lasting inside outside) (env : VoiceEnvironment) (signals : List LoopSignal)
    (hlasts : Lasts inside outside loop) (hends : EndsWell inside loop) :
    EndsWell inside (VoiceLoop.run env loop signals) := by
  induction signals generalizing loop with
  | nil => exact hends
  | cons signal rest ih =>
    have hproceeds := step_proceeds env signal fun hcourse => (hlasts.inside hcourse).1
    exact ih (h.proceeds hlasts hproceeds) (h.endsWell_proceeds hlasts hends hproceeds)

end Lasting

end VoiceLoop

end ConversationRuntime
