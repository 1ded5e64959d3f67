import ConversationRuntime.Voice.Handling

/-! # Playback and interruption make moves

The transport reports what it plays; a turn that is interrupted is drained under a
timeout that may drop the drain wherever it waits.
-/

namespace ConversationRuntime

open Foundation.Fallible Meets VoiceSessionEvent List Wire

namespace VoiceLoop

section Playback

variable (env : VoiceEnvironment) {loop : VoiceLoop} {lifecycle next : PlaybackLifecycle}
  {state : PlaybackState} {generationId : GenerationId}

section

variable (hplayback : loop.playback = some lifecycle) (hreports : lifecycle.Reports state next)
  (hgeneration : lifecycle.generationId = generationId)
include hplayback hreports hgeneration

/-- A report moves the lifecycle on if the consumer was told. -/
theorem reportPlayback_handles : Handles (reportPlayback env false generationId state next) loop
      (fun isOpen after => after.state = loop.state ∧ (isOpen = true → after.playback = some next) ∧
        (isOpen = false → after.wire.isClosed = true)) := by
  subst hgeneration
  apply of_read
  apply publishReliable_bind env rfl
  intro isOpen wire hpublishes
  cases isOpen with
  | true =>
    have hmove : Move loop _ := .reported hplayback hreports hpublishes.opened hpublishes.told
    exact ⟨.single hmove, rfl, fun _ => rfl, nofun⟩
  | false =>
    obtain ⟨wasOpen, hgrows, hshut, -⟩ := hpublishes.grows
    have hclosed := hpublishes.closed rfl
    have hopen : wasOpen = true → loop.wire.isClosed = false := by
      rintro rfl
      exact Bool.eq_false_of_not_eq_true fun h => absurd (hshut h) (by decide)
    have hmove : Move loop _ := .reportedInVain hplayback hreports hclosed hopen hgrows
    exact ⟨.single hmove, rfl, nofun, fun _ => hclosed⟩

/-- A report without which the session cannot go on. -/
theorem reportOrLeave_handles : Handles (do
      let isOpen ← reportPlayback env false generationId state next
      require isOpen (.exit .consumerDropped)) loop Anywhere := by
  apply Handles.of_bind (reportPlayback_handles env hplayback hreports hgeneration)
  intro isOpen middle _ hends
  apply of_last_require
  · exact fun _ => ⟨.refl, trivial⟩
  · exact fun hshut => ⟨hends.2.2 (by simpa using hshut), Acts.exits .refl⟩

end

theorem handleRenderedPlayback_handles (receipt : PlaybackReceipt) :
    Handles (handleRenderedPlayback env receipt) loop Anywhere := by
  apply of_read
  split
  next generationId pendingRendered hplayback =>
    split
    next => exact ⟨.single (.parked hplayback), trivial⟩
    next => exact Handles.of_pure trivial
  next generationId hplayback =>
    split
    next => exact reportOrLeave_handles env hplayback (.rendered generationId) rfl
    next => exact Handles.of_pure trivial
  next => exact Handles.of_pure trivial

theorem handleFlushedPlayback_handles (receipt : PlaybackReceipt) :
    Handles (handleFlushedPlayback env receipt) loop Anywhere := by
  apply of_read
  split
  next hunsettled =>
    unfold unsettledGeneration at hunsettled
    split at hunsettled
    next generationId pendingRendered hplayback =>
      cases hunsettled
      exact reportOrLeave_handles env hplayback (.flushedEarly _ pendingRendered) rfl
    next generationId hplayback =>
      cases hunsettled
      exact reportOrLeave_handles env hplayback (.flushed _) rfl
    next => cases hunsettled
  next => exact Handles.of_pure trivial

/-- Passing on what a turn says keeps the loop responding. -/
def PassesOn (loop : VoiceLoop) (isOpen : Bool) (after : VoiceLoop) : Prop :=
  after.state = loop.state ∧ (isOpen = false → after.wire.isClosed = true)

theorem acceptPlayback_handles (generationId accepted : GenerationId) :
    Handles (acceptPlayback env false generationId accepted) loop (PassesOn loop) := by
  apply of_read
  split
  next active pendingRendered hplayback =>
    split
    next hactive =>
      obtain ⟨-, rfl⟩ := hactive
      apply Handles.of_bind (reportPlayback_handles env hplayback
        (.accepted active pendingRendered) rfl)
      intro isOpen middle _ hends
      obtain ⟨hstate, hnext, hclosed⟩ := hends
      cases isOpen with
      | false => exact .of_pure ⟨hstate, hclosed⟩
      | true =>
        cases pendingRendered with
        | none => exact .of_pure ⟨hstate, nofun⟩
        | some receipt =>
          apply Handles.weaken (reportPlayback_handles env (hnext rfl) (.rendered active) rfl)
          exact fun _ _ _ hrendered => ⟨hrendered.1.trans hstate, hrendered.2.2⟩
    next => exact Handles.of_pure ⟨rfl, nofun⟩
  next => exact Handles.of_pure ⟨rfl, nofun⟩

theorem publishTurnEvent_handles (generationId : GenerationId) (event : RuntimeEvent) :
    Handles (publishTurnEvent env false generationId event) loop (PassesOn loop) := by
  apply of_read
  split
  next turnId accepted => exact acceptPlayback_handles env generationId accepted
  next =>
    split
    next =>
      apply publishReliable_meets env rfl
      intro isOpen wire hpublishes
      have hplain : (turn loop.sessionId generationId event).IsPlain := trivial
      exact ⟨told_reach hplain hpublishes, rfl, hpublishes.closed⟩
    next =>
      apply publishBestEffort_meets env rfl rfl
      intro isOpen wire hgrows hclosed
      exact ⟨quiet_reach hgrows, rfl, hclosed⟩

end Playback

/-! ## The drain of an interrupted turn -/

/-- Only plain deeds were added, and only the wire changed. -/
structure Murmurs (before : VoiceLoop) (after : VoiceLoop) : Prop where
  change : ∃ wire, after = before.onto wire
  deeds : ∃ plain : List Deed, (∀ deed ∈ plain, deed.IsPlain) ∧ before.wire.Grows plain after.wire

/-- What is noted when the turn's stream is let go of. -/
def reaping (loop : VoiceLoop) : List Deed := (loop.turnEvents.map Deed.reaped).toList

/-- The turn's stream, if there is one, was let go of after plain deeds. -/
structure LetsGo (before after : VoiceLoop) : Prop where
  change : ∃ wire, after = { before with turnEvents := none, wire := wire }
  deeds : ∃ plain : List Deed, (∀ deed ∈ plain, deed.IsPlain) ∧
    before.wire.Grows (plain ++ before.reaping) after.wire

variable {before middle after : VoiceLoop} {wire : Wire} {identity : TurnIdentity}

theorem Murmurs.of_quiet (h : before.wire.Grows [] wire) : Murmurs before (before.onto wire) :=
  ⟨⟨wire, rfl⟩, [], forall_mem_nil _, h⟩

theorem Murmurs.of_passed {event : VoiceSessionEvent} {wasOpen : Bool} (hplain : event.IsPlain)
    (h : before.wire.Grows [.passed event wasOpen] wire) : Murmurs before (before.onto wire) := by
  exact ⟨⟨wire, rfl⟩, [.passed event wasOpen], forall_mem_singleton.mpr hplain, h⟩

theorem Murmurs.trans (hfirst : Murmurs before middle) (hsecond : Murmurs middle after) :
    Murmurs before after := by
  obtain ⟨wire, rfl⟩ := hfirst.change
  obtain ⟨wire', rfl⟩ := hsecond.change
  obtain ⟨plain, hplain, hgrows⟩ := hfirst.deeds
  obtain ⟨more, hmore, hgrows'⟩ := hsecond.deeds
  refine ⟨⟨wire', rfl⟩, plain ++ more, ?_, hgrows.trans hgrows'⟩
  exact forall_mem_append.mpr ⟨hplain, hmore⟩

theorem LetsGo.of_reaped (h : before.wire.Grows before.reaping wire) :
    LetsGo before { before with turnEvents := none, wire } :=
  ⟨⟨wire, rfl⟩, [], forall_mem_nil _, h⟩

/-- Without a stream there is nothing to let go of. -/
theorem LetsGo.of_none (h : ¬ before.turnEvents.isSome = true) : LetsGo before before := by
  have hnone : before.turnEvents = none := by simpa using h
  refine ⟨⟨before.wire, ?_⟩, [], forall_mem_nil _, ?_⟩
  · rw [← hnone]
  · rw [reaping, hnone]
    exact .refl before.wire

theorem LetsGo.after_murmurs (hfirst : Murmurs before middle)
    (hsecond : LetsGo middle after) : LetsGo before after := by
  obtain ⟨wire, rfl⟩ := hfirst.change
  obtain ⟨wire', rfl⟩ := hsecond.change
  obtain ⟨plain, hplain, hgrows⟩ := hfirst.deeds
  obtain ⟨more, hmore, hgrows'⟩ := hsecond.deeds
  refine ⟨⟨wire', rfl⟩, plain ++ more, ?_, ?_⟩
  · exact forall_mem_append.mpr ⟨hplain, hmore⟩
  · rw [append_assoc]
    exact hgrows.trans hgrows'

/-- How a drain ends: dropped where it waited, or done with the turn's stream. -/
def Drains (before : VoiceLoop) : Except Stop Unit → VoiceLoop → Prop
  | .error .dropped, after => Murmurs before after
  | .error (.exit _), _ => False
  | .error (.failed _), after | .ok (), after => LetsGo before after

theorem Drains.after_murmurs {result : Except Stop Unit} (hfirst : Murmurs before middle)
    (h : Drains middle result after) : Drains before result after := by
  cases result with
  | ok => exact LetsGo.after_murmurs hfirst h
  | error stop =>
    cases stop with
    | dropped => exact Murmurs.trans hfirst h
    | failed => exact LetsGo.after_murmurs hfirst h
    | exit => exact h

section Drain

variable (env : VoiceEnvironment) {loop : VoiceLoop} {β : Type}
  {post : Except Stop β → VoiceLoop → Prop} {next : Unit → Voice β}

/-- Publish an event without which the session cannot go on. -/
theorem publishOrLeave_bind {event : VoiceSessionEvent} (hplain : event.IsPlain)
    (hproper : event.partialSegment = none)
    (hgone : ∀ after, Murmurs loop after → after.wire.isClosed = true →
      post (.error (.exit .consumerDropped)) after)
    (h : ∀ after, Murmurs loop after → Meets (next ()) after post) :
    Meets (publishOrLeave env event >>= next) loop post := by
  apply Meets.bind
  apply publishReliable_bind env hproper
  intro isOpen wire hpublishes
  obtain ⟨wasOpen, hgrows, -⟩ := hpublishes.grows
  have hmurmurs := Murmurs.of_passed hplain hgrows
  cases isOpen with
  | true => exact h _ hmurmurs
  | false => exact hgone _ hmurmurs (hpublishes.closed rfl)

theorem releaseTurn_bind (h : ∀ wire, loop.wire.Grows loop.reaping wire →
      Meets (next ()) { loop with turnEvents := none, wire } post) :
    Meets (releaseTurn >>= next) loop post := by
  have hrun : releaseTurn loop = (.ok (), { loop with
      turnEvents := none
      wire := { loop.wire with journal := loop.wire.journal ++ loop.reaping } }) := by
    rw [releaseTurn, read_bind, reaping]
    cases loop.turnEvents with
    | none =>
      simp only [Option.map_none, Option.toList_none, append_nil]
      rfl
    | some identity => rfl
  refine .of_ok_bind hrun (h _ ?_)
  rw [reaping]
  cases loop.turnEvents with
  | none => simpa using Grows.refl loop.wire
  | some identity => exact grows_note loop.wire _

/-- What a drained turn says is published under the timeout; acceptances are not. -/
theorem publishDrained_meets (generationId : GenerationId) (event : RuntimeEvent) :
    Meets (publishDrained env generationId event) loop (fun result after =>
      Murmurs loop after ∧ (result = .error .dropped ∨ ∃ isOpen, result = .ok isOpen)) := by
  unfold publishDrained
  split
  next => exact ⟨.of_quiet (.refl loop.wire), .inr ⟨true, rfl⟩⟩
  next hacceptance =>
    apply of_read
    split
    next => exact absurd rfl hacceptance
    next =>
      split
      next =>
        obtain ⟨result, wire, hrun, hends⟩ := publishReliable_cancellable_law env loop.wire true
          (.turn loop.sessionId generationId event) rfl
        have hloop : publishReliable env true (.turn loop.sessionId generationId event) loop =
            (result, loop.onto wire) := onWire_eq hrun
        have hplain : (turn loop.sessionId generationId event).IsPlain := trivial
        rw [Meets, hloop]
        rcases hends with ⟨hdropped, -, wasOpen, hgrows⟩ | ⟨isOpen, hok, hpublishes⟩
        · exact ⟨.of_passed hplain hgrows, .inl hdropped⟩
        · obtain ⟨wasOpen, hgrows, -⟩ := hpublishes.grows
          exact ⟨.of_passed hplain hgrows, .inr ⟨isOpen, hok⟩⟩
      next =>
        apply publishBestEffort_meets env rfl rfl
        intro isOpen wire hgrows _
        exact ⟨.of_quiet hgrows, .inr ⟨isOpen, rfl⟩⟩

theorem publishRuntimeTiming_bind {event : RuntimeEvent}
    (h : ∀ wire, loop.wire.Grows [] wire → Meets (next ()) (loop.onto wire) post) :
    Meets (publishRuntimeTiming env event >>= next) loop post := by
  cases event
  case timing turnId milestone elapsedMs =>
    apply Meets.bind
    apply publishTiming_bind
    exact fun _ wire hgrows _ => h wire hgrows
  all_goals exact h loop.wire (.refl loop.wire)

theorem clearPartials_bind (condition : Bool) {next : Unit → Voice β}
    (h : ∀ wire, loop.wire.Grows [] wire → Meets (next ()) (loop.onto wire) post) :
    Meets (onlyIf condition clearPartials >>= next) loop post := by
  cases condition with
  | false => exact h loop.wire (.refl loop.wire)
  | true => exact h _ (grows_make loop.wire .clearPartials trivial)

variable {identity : TurnIdentity}

theorem drainEvents_drains (ends : Bool) (events : List RuntimeEvent) (deliveryOpen : Bool) :
    Meets (drainEvents env identity ends events deliveryOpen) loop (Drains loop) := by
  induction events generalizing loop deliveryOpen with
  | nil =>
    cases ends with
    | true =>
      apply releaseTurn_bind
      exact fun wire hreaped => .of_reaped hreaped
    | false => exact .of_quiet (.refl loop.wire)
  | cons event rest ih =>
    apply clearPartials_bind
    intro cleared hcleared
    apply publishRuntimeTiming_bind
    intro timed htimed
    have hquiet : Murmurs loop (loop.onto timed) := .of_quiet (hcleared.after_quiet htimed)
    apply (publishDrained_meets env identity.generationId event).of_bind
    · rintro published middle ⟨hmurmurs, -⟩
      have hsofar := hquiet.trans hmurmurs
      split
      next =>
        apply releaseTurn_bind
        intro wire hreaped
        have hdone := LetsGo.after_murmurs hsofar (.of_reaped hreaped)
        apply of_require (fun _ => ?_) (fun _ => hdone)
        exact .of_last_require (fun _ => hdone) (fun _ => hdone)
      next =>
        apply (ih _).mono
        exact fun _ _ hdrains => hdrains.after_murmurs hsofar
    · rintro stop middle ⟨hmurmurs, hdropped | ⟨_, ⟨⟩⟩⟩
      cases hdropped
      exact hquiet.trans hmurmurs

theorem drainInterruptedTurn_drains :
    Meets (drainInterruptedTurn env identity) loop (Drains loop) := by
  apply of_read
  apply of_require (fun _ => ?_) LetsGo.of_none
  apply answers_bind
  intro answer asked hasked
  apply (drainEvents_drains env answer.drained.2 answer.drained.1 true).mono
  exact fun _ _ hdrains => hdrains.after_murmurs (.of_quiet hasked)

/-- Whether the abort succeeds or not, the turn's stream is gone. -/
theorem abortInterruptedTurn_meets :
    Meets (abortInterruptedTurn env) loop (fun result after => LetsGo loop after ∧
      (result = .ok () ∨ ∃ error, result = .error (.failed error))) := by
  apply of_read
  apply of_require (fun _ => ?_) (fun hnone => ⟨.of_none hnone, .inr ⟨_, rfl⟩⟩)
  apply answers_bind
  intro answer asked hasked
  apply releaseTurn_bind
  intro wire hreaped
  have hdone : LetsGo loop { loop with turnEvents := none, wire } :=
    .of_reaped (hasked.after_quiet hreaped)
  cases answer.aborted with
  | none => exact ⟨hdone, .inr ⟨_, rfl⟩⟩
  | some result =>
    cases result with
    | ok => exact ⟨hdone, .inl rfl⟩
    | error error => exact ⟨hdone, .inr ⟨error, rfl⟩⟩

/-- The drain under its timeout: dropped, or done with the turn's stream. -/
theorem drained_bind {next : Option (Except RuntimeError Unit) → Voice β}
    (hdropped : ∀ middle, Murmurs loop middle → Meets (next none) middle post)
    (hgone : ∀ result middle, LetsGo loop middle → Meets (next (some result)) middle post) :
    Meets (cleanupWithTimeout (drainInterruptedTurn env identity) >>= next) loop post := by
  have hdrains : Meets (drainInterruptedTurn env identity) loop (Drains loop) :=
    drainInterruptedTurn_drains env
  apply Meets.bind
  simp only [Meets, cleanupWithTimeout] at hdrains ⊢
  cases hrun : drainInterruptedTurn env identity loop with
  | mk result middle =>
    rw [hrun] at hdrains
    cases result with
    | ok value => exact hgone _ middle hdrains
    | error stop =>
      cases stop with
      | dropped => exact hdropped middle hdrains
      | failed error => exact hgone _ middle hdrains
      | exit => exact absurd hdrains not_false

end Drain

/-! ## Interruptions -/

/-- The turn was let go of and the loop listens. -/
def Hushes (before after : VoiceLoop) : Prop :=
  ∃ gone, LetsGo before gone ∧ after = { gone with state := .listening }

theorem Hushes.after_murmurs (hfirst : Murmurs before middle) (h : Hushes middle after) :
    Hushes before after := by
  obtain ⟨gone, hgone, rfl⟩ := h
  exact ⟨gone, hgone.after_murmurs hfirst, rfl⟩

/-- How stopping a turn ends. The turn is left behind only when the consumer is gone. -/
def Stops (before : VoiceLoop) : Except Stop Unit → VoiceLoop → Prop
  | .ok (), after => Hushes before after
  | .error (.failed _), after =>
    Hushes before after ∨ (Murmurs before after ∧ after.wire.isClosed = true)
  | .error _, _ => False

section Interruptions

variable (env : VoiceEnvironment) {loop : VoiceLoop} {identity : TurnIdentity}

/-- An aborted turn is gone wherever in between the loop began to listen. -/
theorem hushes_of_listening {gone : VoiceLoop}
    (h : LetsGo { loop with state := .listening } gone) : Hushes loop gone := by
  obtain ⟨wire, rfl⟩ := h.change
  exact ⟨{ loop with turnEvents := none, wire }, ⟨⟨wire, rfl⟩, h.deeds⟩, rfl⟩

theorem endUnflushed_stops {error : RuntimeError} : Meets (do
      let drained ← cleanupWithTimeout (drainInterruptedTurn env identity)
      setListening
      endUnflushed env error drained) loop (Stops loop) := by
  apply drained_bind env
  · intro middle hmurmurs
    apply of_update
    apply (abortInterruptedTurn_meets env).of_bind
    · rintro _ gone ⟨hgone, -⟩
      exact .inl ((hushes_of_listening hgone).after_murmurs hmurmurs)
    · rintro _ gone ⟨hgone, ⟨⟨⟩⟩ | ⟨_, herror⟩⟩
      cases herror
      exact .inl ((hushes_of_listening hgone).after_murmurs hmurmurs)
  · intro result gone hgone
    apply of_update
    cases result with
    | ok | error => exact .inl ⟨gone, hgone, rfl⟩

theorem endFlushed_stops : Meets (do
      let drained ← cleanupWithTimeout (drainInterruptedTurn env identity)
      endFlushed env drained) loop (Stops loop) := by
  apply drained_bind env
  · intro middle hmurmurs
    apply caught_bind
    apply (abortInterruptedTurn_meets env).mono
    rintro result gone ⟨hgone, rfl | ⟨error, rfl⟩⟩ <;>
      exact .inl ⟨gone, hgone.after_murmurs hmurmurs, rfl⟩
  · intro result gone hgone
    apply of_update
    cases result with
    | ok => exact ⟨gone, hgone, rfl⟩
    | error => exact .inl ⟨gone, hgone, rfl⟩

theorem stopTurn_stops (flushError : Option RuntimeError) :
    Meets (stopTurn env identity flushError) loop (Stops loop) := by
  cases flushError with
  | some error => exact endUnflushed_stops env
  | none =>
    apply publishTiming_bind
    intro isOpen timed htimed hclosed
    apply of_require
    · intro _
      apply (endFlushed_stops env).mono
      intro result after hstops
      have hquiet := Murmurs.of_quiet htimed
      cases result with
      | ok => exact .after_murmurs hquiet hstops
      | error stop =>
        cases stop with
        | failed =>
          rcases hstops with hhushes | ⟨hmurmurs, hshut⟩
          · exact .inl (hhushes.after_murmurs hquiet)
          · exact .inr ⟨hquiet.trans hmurmurs, hshut⟩
        | dropped | exit => exact hstops
    · intro hshut
      exact .inr ⟨.of_quiet htimed, hclosed (by simpa using hshut)⟩

/-- Whatever turn the loop reads, the one being spoken is told to stop first. -/
theorem interruptCurrentTurn_stops (hstate : loop.state = .responding identity) :
    Meets (interruptCurrentTurn env) loop (fun result after =>
      ∃ asked, loop.wire.Grows [.interrupted identity] asked ∧
        Stops { loop with playback := none, wire := asked } result after) := by
  apply of_read
  split
  next spoken hspoken =>
    cases hspoken.symm.trans hstate
    apply of_update
    apply note_bind
    intro noted hnoted
    apply answers_bind
    intro answer asked hasked
    apply (stopTurn_stops env (flushError answer.interrupted)).mono
    exact fun result after hstops => ⟨asked, hnoted.then_quiet hasked, hstops⟩
  next hother => exact absurd hstate (hother identity)

/-- How an interruption of the turn being spoken ends: its playback is forgotten, and
unless the consumer is gone so is the turn. -/
def Interrupts (identity : TurnIdentity) (before : VoiceLoop) : Except Stop Unit → VoiceLoop → Prop
  | .ok (), after => Silences before after identity
  | .error (.failed _), after => Silences before after identity ∨
      (after.wire.isClosed = true ∧ ∃ wire plain, (∀ deed ∈ plain, Deed.IsPlain deed) ∧
        before.wire.Grows (.interrupted identity :: plain) wire ∧
        after = { before with playback := none, wire })
  | .error _, _ => False

theorem interruptCurrentTurn_interrupts (hstate : loop.state = .responding identity)
    (hturn : loop.turnEvents = some identity) :
    Meets (interruptCurrentTurn env) loop (Interrupts identity loop) := by
  apply (interruptCurrentTurn_stops env hstate).mono
  rintro result after ⟨asked, hasked, hstops⟩
  have hsilences : Hushes { loop with playback := none, wire := asked } after →
      Silences loop after identity := by
    rintro ⟨gone, hgone, rfl⟩
    obtain ⟨plain, hplain, hgrows⟩ := hgone.deeds
    obtain ⟨wire, rfl⟩ := hgone.change
    rw [hturn] at hgrows
    refine ⟨hstate, ⟨wire, rfl⟩, plain, [], ?_, hasked.trans hgrows⟩
    simpa using hplain
  cases result with
  | ok => exact hsilences hstops
  | error stop =>
    cases stop with
    | dropped | exit => exact hstops
    | failed =>
      rcases hstops with hhushes | ⟨hmurmurs, hclosed⟩
      · exact .inl (hsilences hhushes)
      · obtain ⟨plain, hplain, hgrows⟩ := hmurmurs.deeds
        obtain ⟨wire, rfl⟩ := hmurmurs.change
        exact .inr ⟨hclosed, wire, plain, hplain, hasked.trans hgrows, rfl⟩

theorem Silences.murmurs {before middle after : VoiceLoop} (h : Silences before middle identity)
    (hmurmurs : Murmurs middle after) : Silences before after identity := by
  obtain ⟨plain, more, hplain, hgrows⟩ := h.deeds
  obtain ⟨most, hmost, hgrows'⟩ := hmurmurs.deeds
  obtain ⟨wire, rfl⟩ := hmurmurs.change
  obtain ⟨wire', rfl⟩ := h.change
  refine ⟨h.state, ⟨wire, rfl⟩, plain, more ++ most, ?_, ?_⟩
  · rw [← append_assoc]
    exact forall_mem_append.mpr ⟨hplain, hmost⟩
  · have hall := hgrows.trans hgrows'
    simpa using hall

/-- What a failed interruption leaves behind is aborted. -/
theorem abortLeftover_bind {before : VoiceLoop} {next : Unit → Voice Unit}
    {post : Except Stop Unit → VoiceLoop → Prop} (error : RuntimeError)
    (hstate : before.state = .responding identity) (hturn : before.turnEvents = some identity)
    (hinterrupts : Interrupts identity before (.error (.failed error)) loop)
    (h : ∀ after, Silences before { after with state := .listening, playback := none } identity →
      Meets (next ()) after post) :
    Meets (abortLeftover env >>= next) loop post := by
  rcases hinterrupts with hsilences | ⟨-, wire, plain, hplain, hgrows, rfl⟩
  · obtain ⟨wire, rfl⟩ := hsilences.change
    exact .of_ok_bind rfl (h _ hsilences)
  · have hnext : ∀ gone, LetsGo { before with playback := none, wire := wire } gone →
        Meets (next ()) gone post := by
      intro gone hgone
      apply h gone
      obtain ⟨more, hmore, hgrows'⟩ := hgone.deeds
      obtain ⟨wire', rfl⟩ := hgone.change
      rw [reaping, hturn] at hgrows'
      refine ⟨hstate, ⟨wire', rfl⟩, plain ++ more, [], ?_, ?_⟩
      · rw [append_nil]
        exact forall_mem_append.mpr ⟨hplain, hmore⟩
      · have hall := hgrows.trans hgrows'
        simpa using hall
    apply Meets.bind
    apply of_read
    rw [if_pos (show before.turnEvents.isSome = true by rw [hturn]; rfl)]
    apply caught_bind
    apply (abortInterruptedTurn_meets env).mono
    rintro result gone ⟨hgone, rfl | ⟨failure, rfl⟩⟩ <;> exact hnext gone hgone

/-- How the loop stops speaking: it listens afterwards, unless the consumer is gone. -/
def Quietens (before : VoiceLoop) : Except Stop Unit → VoiceLoop → Prop
  | .ok (), after => after = before ∨ ∃ identity, Silences before after identity
  | .error (.exit .consumerDropped), after =>
    after.wire.isClosed = true ∧ ∃ identity, Silences before after identity
  | .error _, _ => False

theorem interruptOrStopSpeaking_quietens (hcoupled : loop.Coupled) :
    Meets (interruptOrStopSpeaking env) loop (Quietens loop) := by
  apply of_read
  split
  next identity hstate =>
    have hturn : loop.turnEvents = some identity := by
      rw [hcoupled.turn, hstate]
      rfl
    apply caught_bind
    apply (interruptCurrentTurn_interrupts env hstate hturn).mono
    intro result middle hinterrupts
    cases result with
    | ok => exact .inr ⟨identity, hinterrupts⟩
    | error stop =>
      cases stop with
      | dropped | exit => exact absurd hinterrupts not_false
      | failed error =>
        apply abortLeftover_bind env error hstate hturn hinterrupts
        intro after hsilences
        apply of_update
        apply of_read
        apply of_require
        · intro _
          apply publishReliable_bind env rfl
          intro isOpen wire hpublishes
          obtain ⟨wasOpen, hgrows, -⟩ := hpublishes.grows
          have hplain : (sessionFailed after.sessionId error .continueSession).IsPlain := trivial
          have hafter := hsilences.murmurs (.of_passed hplain hgrows)
          apply of_last_require
          · exact fun _ => .inr ⟨identity, hafter⟩
          · exact fun hshut => ⟨hpublishes.closed (by simpa using hshut), identity, hafter⟩
        · intro hshut
          exact ⟨by simpa [isClosed] using hshut, identity, hsilences⟩
  next => exact .inl rfl

end Interruptions

end VoiceLoop

end ConversationRuntime
