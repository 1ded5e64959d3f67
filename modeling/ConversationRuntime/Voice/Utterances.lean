import ConversationRuntime.Voice.Endings

/-! # Utterances that wait for time

An utterance that is complete but for the silence after it is finalized by a
deadline, or at the end of the response during which the deadline fired. This
holds as long as no engine-final text arrives over a response with neither of the
two in place, and no command stops a response that an utterance waits for.
-/

namespace ConversationRuntime

open Foundation TurnFinalizer

namespace TurnFinalizer

variable {finalizer : TurnFinalizer} {value : RecognitionHypothesis}

/-- An utterance whose silence is over is released when the finalizer is asked. -/
theorem not_waiting_of_ready {now endedAtMs : Nat}
    (hended : finalizer.speechEndedAtMs = some endedAtMs)
    (hready : finalizer.readyAtMs endedAtMs ≤ now)
    (hspoken : ∀ text, finalizer.engineFinalCandidate = some text → isBlank text = false) :
    ¬ (finalizer.finalizeReady now).2.IsWaiting := by
  rintro ⟨hsegment, hcandidate, -, hfinalized⟩
  rcases finalizer.finalizeReady_cases now with ⟨hnone, hsame⟩ | hreleased
  · rw [hsame] at hsegment hcandidate hfinalized
    obtain ⟨segmentId, hsegment⟩ := Option.isSome_iff_exists.mp hsegment
    obtain ⟨text, hcandidate⟩ := Option.isSome_iff_exists.mp hcandidate
    have htext : isBlank (String.join finalizer.committed ++ text) = false := by
      rw [isBlank_append, hspoken text hcandidate, Bool.and_false]
    simp [finalizeReady, hsegment, hended, gathered, hcandidate, hfinalized, htext,
      Nat.not_lt.mpr hready] at hnone
  · rw [hreleased] at hfinalized
    cases hfinalized

/-- A text that is not engine-final adds nothing to wait for. -/
theorem waiting_of_displayed (hfinal : value.engineFinal = false)
    (h : (finalizer.observeHypothesis value).2.IsWaiting) : finalizer.IsWaiting := by
  unfold observeHypothesis at h
  split at h
  next => exact h
  next =>
    by_cases hsame : finalizer.segmentId = some value.segmentId
    · simpa [IsWaiting, enterSegment, hsame, hfinal] using h
    · simp [IsWaiting, enterSegment, hsame, hfinal] at h

theorem spoken_of_observed
    (h : ∀ text, finalizer.engineFinalCandidate = some text → isBlank text = false) :
    ∀ text, (finalizer.observeHypothesis value).2.engineFinalCandidate = some text →
      isBlank text = false := by
  intro text htext
  unfold observeHypothesis at htext
  split at htext
  next => exact h text htext
  next haccepted =>
    simp only [enterSegment] at htext
    split at htext
    next =>
      cases htext
      simp only [Bool.or_eq_true, not_or, Bool.not_eq_true] at haccepted
      exact haccepted.2
    next =>
      split at htext
      next => exact h text htext
      next => cases htext

end TurnFinalizer

namespace VoiceLoop

/-- Whoever waits for time is looked after. -/
structure Tended (loop : VoiceLoop) : Prop where
  silence : loop.finalizer.finalSilenceMs = loop.finalSilenceMs
  spoken : ∀ text, loop.finalizer.engineFinalCandidate = some text → isBlank text = false
  armed : ∀ firesAt endedAtMs, loop.deadline = some firesAt →
    loop.finalizer.speechEndedAtMs = some endedAtMs → loop.finalizer.readyAtMs endedAtMs ≤ firesAt
  due : loop.finalizationDue = true → ∀ endedAtMs,
    loop.finalizer.speechEndedAtMs = some endedAtMs →
      loop.deadline.isSome ∨ loop.finalizer.readyAtMs endedAtMs ≤ loop.wire.clockMs
  waiting : loop.finalizer.IsWaiting → loop.deadline.isSome ∨
    (loop.finalizationDue = true ∧ ∃ identity, loop.state = .responding identity)

namespace Tended

variable {before after : VoiceLoop}

/-- No response was being spoken, so what waits has its deadline. -/
theorem idle (h : before.Tended) (hidle : before.IsIdle)
    (hwaiting : before.finalizer.IsWaiting) : before.deadline.isSome := by
  rcases h.waiting hwaiting with harmed | ⟨-, identity, hresponding⟩
  · exact harmed
  · rw [hidle.1] at hresponding
    cases hresponding

section

variable (h : before.Tended) (hfinalizer : after.finalizer = before.finalizer)
  (hsilence : after.finalSilenceMs = before.finalSilenceMs)
  (hdeadline : after.deadline = before.deadline)
  (hdue : after.finalizationDue = before.finalizationDue)
  (hclock : before.wire.clockMs ≤ after.wire.clockMs)
include h hfinalizer hsilence hdeadline hdue hclock

/-- Nothing but time passes for the utterance, and a response does not end. -/
theorem later (hstate : ∀ identity, before.state = .responding identity →
    ∃ identity, after.state = .responding identity) : after.Tended := by
  refine ⟨?_, ?_, ?_, ?_, ?_⟩
  · rw [hfinalizer, hsilence]
    exact h.silence
  · rw [hfinalizer]
    exact h.spoken
  · rw [hfinalizer, hdeadline]
    exact h.armed
  · rw [hfinalizer, hdeadline, hdue]
    intro hdue endedAtMs hended
    exact (h.due hdue endedAtMs hended).imp id fun hready => hready.trans hclock
  · rw [hfinalizer, hdeadline, hdue]
    intro hwaiting
    rcases h.waiting hwaiting with harmed | ⟨hdue, identity, hresponding⟩
    · exact .inl harmed
    · exact .inr ⟨hdue, hstate identity hresponding⟩

/-- The turn that began cannot have taken a waiting utterance's place. -/
theorem began (hidle : before.IsIdle) : after.Tended := by
  apply h.later hfinalizer hsilence hdeadline hdue hclock
  intro identity hresponding
  rw [hidle.1] at hresponding
  cases hresponding

end

/-- The finalizer is asked, and the utterance that nothing else would finalize is
released. -/
theorem readied {now : Nat} (h : before.Tended)
    (hfinalizer : after.finalizer = (before.finalizer.finalizeReady now).2)
    (hsilence : after.finalSilenceMs = before.finalSilenceMs)
    (hdeadline : after.deadline = before.deadline ∨ after.deadline = none)
    (hdue : after.finalizationDue = false)
    (hready : ∀ endedAtMs, before.finalizer.speechEndedAtMs = some endedAtMs →
      before.finalizer.IsWaiting →
      after.deadline.isSome ∨ before.finalizer.readyAtMs endedAtMs ≤ now) : after.Tended := by
  have hkept : ((before.finalizer.finalizeReady now).2.speechEndedAtMs =
        before.finalizer.speechEndedAtMs) ∧
      ((before.finalizer.finalizeReady now).2.finalSilenceMs = before.finalizer.finalSilenceMs) ∧
      (before.finalizer.finalizeReady now).2.engineFinalCandidate =
        before.finalizer.engineFinalCandidate := by
    rcases before.finalizer.finalizeReady_cases now with ⟨-, hsame⟩ | hreleased
    · rw [hsame]
      exact ⟨rfl, rfl, rfl⟩
    · rw [hreleased]
      exact ⟨rfl, rfl, rfl⟩
  obtain ⟨hended, hsilent, hcandidate⟩ := hkept
  refine ⟨?_, ?_, ?_, ?_, ?_⟩
  · rw [hfinalizer, hsilent, hsilence]
    exact h.silence
  · rw [hfinalizer, hcandidate]
    exact h.spoken
  · intro firesAt endedAtMs hfires hspoke
    rw [hfinalizer, hended] at hspoke
    rw [hfinalizer, readyAtMs, hsilent]
    rcases hdeadline with hsame | hnone
    · rw [hsame] at hfires
      exact h.armed firesAt endedAtMs hfires hspoke
    · rw [hnone] at hfires
      cases hfires
  · rw [hdue]
    rintro ⟨⟩
  · rw [hfinalizer]
    intro hwaiting
    rcases before.finalizer.finalizeReady_cases now with ⟨-, hsame⟩ | hreleased
    · have hbefore : before.finalizer.IsWaiting := hsame ▸ hwaiting
      obtain ⟨endedAtMs, hspoke⟩ := Option.isSome_iff_exists.mp hbefore.2.2.1
      rcases hready endedAtMs hspoke hbefore with harmed | hover
      · exact .inl harmed
      · exact absurd hwaiting (not_waiting_of_ready hspoke hover h.spoken)
    · rw [hreleased] at hwaiting
      exact absurd hwaiting.2.2.2 (by simp)

/-- Where nothing was said, nothing waits. -/
theorem fresh (hsilence : after.finalizer.finalSilenceMs = after.finalSilenceMs)
    (hspoken : ∀ text, after.finalizer.engineFinalCandidate = some text → isBlank text = false)
    (hended : after.finalizer.speechEndedAtMs = none) : after.Tended := by
  refine ⟨hsilence, hspoken, ?_, ?_, ?_⟩
  · intro firesAt endedAtMs _ hspoke
    rw [hended] at hspoke
    cases hspoke
  · intro _ endedAtMs hspoke
    rw [hended] at hspoke
    cases hspoke
  · intro hwaiting
    have hspoke := hwaiting.2.2.1
    rw [hended] at hspoke
    cases hspoke

theorem move (h : before.Tended) (hmove : Move before after) : after.Tended := by
  cases hmove with
  | quiet _ hgrows | authorized _ hgrows | expired _ hgrows | registered _ _ hgrows
  | skipped _ _ hgrows | admitted _ _ _ hgrows | admittedInVain _ _ _ hgrows
  | respondedInVain _ _ _ _ _ hgrows | spokeInVain _ _ _ hgrows | reported _ _ _ hgrows
  | reportedInVain _ _ _ _ hgrows =>
    exact h.later rfl rfl rfl rfl hgrows.clock fun identity hstate => ⟨identity, hstate⟩
  | captured | passedOver | parked =>
    exact h.later rfl rfl rfl rfl le_rfl fun identity hstate => ⟨identity, hstate⟩
  | responded hidle _ _ _ hgrows | answered hidle _ _ hgrows | spokeUp hidle _ hgrows =>
    exact h.began rfl rfl rfl rfl hgrows.clock hidle
  | spoken hresumes =>
    apply fresh
    · exact hresumes.silence.trans h.silence
    · exact fun text htext => h.spoken text (hresumes.candidate text htext)
    · exact hresumes.ended
  | @fellSilent now later wire hgrows hlater =>
    refine ⟨h.silence, h.spoken, ?_, fun _ _ _ => .inl rfl, fun _ => .inl rfl⟩
    intro firesAt endedAtMs hfires hspoke
    cases hfires
    cases hspoke
    have hready : before.finalizer.readyAtMs now ≤ now + before.finalizer.finalSilenceMs :=
      Nat.min_le_left _ _
    rw [h.silence] at hready
    exact hready.trans (Nat.add_le_add_right hlater _)
  | discontinued => exact fresh h.silence nofun rfl
  | recovered hsilent =>
    apply fresh
    · rcases hsilent with rfl | ⟨identity, hsilences⟩
      · rfl
      · obtain ⟨wire, rfl⟩ := hsilences.change
        rfl
    · exact nofun
    · rfl
  | silenced hmute hsilences =>
    obtain ⟨wire, rfl⟩ := hsilences.change
    exact fresh h.silence h.spoken hmute
  | fallsDue hdeadline hfired hstate =>
    refine ⟨h.silence, h.spoken, nofun, ?_, ?_⟩
    · intro _ endedAtMs hspoke
      exact .inr ((h.armed _ endedAtMs hdeadline hspoke).trans hfired)
    · exact fun _ => .inr ⟨rfl, _, hstate⟩
  | fired hdeadline hfired _ hgrows =>
    refine h.readied rfl rfl (.inr rfl) rfl ?_
    intro endedAtMs hspoke _
    exact .inr (((h.armed _ endedAtMs hdeadline hspoke).trans hfired).trans hgrows.clock)
  | ended _ hdue _ hgrows =>
    refine ⟨h.silence, h.spoken, h.armed, ?_, ?_⟩
    · intro hstill
      cases hdue.symm.trans hstill
    · intro hwaiting
      rcases h.waiting hwaiting with harmed | ⟨hstill, -⟩
      · exact .inl harmed
      · cases hdue.symm.trans hstill
  | endedDue _ _ hgrows =>
    refine h.readied rfl rfl (.inl rfl) rfl ?_
    intro endedAtMs hspoke hwaiting
    rcases h.waiting hwaiting with harmed | ⟨hdue, -⟩
    · exact .inl harmed
    · exact (h.due hdue endedAtMs hspoke).imp id fun hready => hready.trans hgrows.clock

theorem reach (h : before.Tended) (hreach : Reach before after) : after.Tended := by
  induction hreach with
  | refl => exact h
  | tail _ hmove ih => exact ih.move hmove

end Tended

/-- The hypothesis the signal brings. -/
def LoopSignal.hypothesis : LoopSignal → Option RecognitionHypothesis
  | .input (some (.ok (.recognition (.hypothesis hypothesis)))) => some hypothesis
  | _ => none

/-- The turn a command asks to interrupt. -/
def LoopSignal.bargedIn : LoopSignal → Option TurnIdentity
  | .command (some (.bargeIn identity)) => some identity
  | _ => none

/-- The signal does not bring a response between an utterance and its finalization: an
engine-final text over a response finds the deadline armed or due, and no command stops
a response during which the deadline of a waiting utterance has fired. -/
def LeavesTended (loop : VoiceLoop) (signal : LoopSignal) : Prop :=
  (∀ hypothesis ∈ signal.hypothesis, hypothesis.engineFinal = true →
    (loop.finalizer.observeHypothesis hypothesis).1 = true →
    loop.finalizer.speechEndedAtMs.isSome → loop.state ≠ .listening →
      loop.deadline.isSome ∨ loop.finalizationDue = true) ∧
  (∀ identity ∈ signal.bargedIn, loop.state = .responding identity →
    loop.finalizer.IsWaiting → loop.deadline.isSome)

instance (loop : VoiceLoop) (signal : LoopSignal) : Decidable (loop.LeavesTended signal) :=
  inferInstanceAs (Decidable (_ ∧ _))

namespace Tended

variable {before after : VoiceLoop}

theorem turn {signal : LoopSignal} (hcoupled : before.Coupled) (h : before.Tended)
    (hleaves : before.LeavesTended signal) (hturn : Turn before signal after) : after.Tended := by
  cases hturn with
  | @heard hypothesis deadline wire haccepted hkept harmed hgrows =>
    obtain ⟨hended, hsilence, hfinalized⟩ := before.finalizer.observeHypothesis_timing hypothesis
    have hstill : before.deadline.isSome → deadline.isSome := by
      rcases hkept with rfl | ⟨firesAt, rfl, -⟩
      · exact id
      · exact fun _ => rfl
    refine ⟨hsilence.trans h.silence, spoken_of_observed h.spoken, ?_, ?_, ?_⟩
    · intro firesAt endedAtMs hfires hspoke
      simp only [hended] at hspoke
      simp only [readyAtMs, hsilence]
      rcases hkept with rfl | ⟨_, rfl, hready⟩
      · exact h.armed firesAt endedAtMs hfires hspoke
      · cases hfires
        exact hready endedAtMs hspoke
    · intro hdue endedAtMs hspoke
      simp only [hended] at hspoke
      simp only [readyAtMs, hsilence]
      exact (h.due hdue endedAtMs hspoke).imp hstill fun hready => hready.trans hgrows.clock
    · intro hwaiting
      have hspoke : before.finalizer.speechEndedAtMs.isSome := hended ▸ hwaiting.2.2.1
      cases hfinal : hypothesis.engineFinal with
      | false =>
        have hbefore := waiting_of_displayed hfinal hwaiting
        exact (h.waiting hbefore).imp hstill id
      | true =>
        cases hstate : before.state with
        | listening => exact .inl (harmed hfinal hstate hspoke)
        | ending => exact absurd hstate hcoupled.running
        | responding identity =>
          have hbusy : before.state ≠ .listening := by simp [hstate]
          rcases hleaves.1 _ rfl hfinal haccepted hspoke hbusy with hdeadline | hdue
          · exact .inl (hstill hdeadline)
          · exact .inr ⟨hdue, identity, rfl⟩
  | silenced hsilences =>
    have hdeadline := hleaves.2 _ rfl hsilences.state
    obtain ⟨plain, more, -, hgrows⟩ := hsilences.deeds
    obtain ⟨wire, rfl⟩ := hsilences.change
    refine ⟨h.silence, h.spoken, h.armed, ?_, fun hwaiting => .inl (hdeadline hwaiting)⟩
    intro hdue endedAtMs hspoke
    exact (h.due hdue endedAtMs hspoke).imp id fun hready => hready.trans hgrows.clock

/-- One signal, from where the loop waits. -/
theorem proceeds {signal : LoopSignal}
    (h : before.course = .running → before.Coupled ∧ before.Tended)
    (hleaves : before.LeavesTended signal) (hproceeds : Proceeds before signal after) :
    after.course = .running → after.Coupled ∧ after.Tended := by
  intro hrunning
  cases hproceeds with
  | ceased => exact h hrunning
  | moves hcourse hreach =>
    obtain ⟨hcoupled, htended⟩ := h hcourse
    exact ⟨hcoupled.reach hreach, htended.reach hreach⟩
  | turns hcourse hmurmurs hturn =>
    obtain ⟨hcoupled, htended⟩ := h hcourse
    have hmiddle := hcoupled.reach hmurmurs.reach
    have htended' := htended.reach hmurmurs.reach
    obtain ⟨wire, rfl⟩ := hmurmurs.change
    exact ⟨hmiddle.turn_kept hturn, htended'.turn hmiddle hleaves hturn⟩
  | leaves _ _ hdeparts =>
    rcases hdeparts.2 with ⟨error, hcourse⟩ | ⟨event, hcourse, -⟩ <;>
      exact nomatch hcourse.symm.trans hrunning
  | records _ _ hends =>
    rcases hends with hcourse | ⟨event, hcourse, -⟩ <;> exact nomatch hcourse.symm.trans hrunning

end Tended

/-- In every run whose signals leave utterances tended: whenever the loop waits for a
signal and listens, an utterance that only waits for time has its deadline armed. -/
theorem waiting_utterance_armed (env : VoiceEnvironment) (sessionId : SessionId)
    (finalSilenceMs : Nat) (responseMode : VoiceResponseMode) (captureRecorder : Bool)
    (sequence : Nat) (signals : List LoopSignal)
    (h : Along (step env) LeavesTended
      (new sessionId finalSilenceMs responseMode captureRecorder sequence) signals) :
    let loop := run env (new sessionId finalSilenceMs responseMode captureRecorder sequence) signals
    loop.course = .running → loop.state = .listening → loop.finalizer.IsWaiting →
      loop.deadline.isSome := by
  intro loop hrunning hstate hwaiting
  have hnew : (new sessionId finalSilenceMs responseMode captureRecorder sequence).Tended :=
    .fresh rfl nofun rfl
  have hkept := h.kept (fun before signal hleaves (hbefore : before.course = .running →
      before.Coupled ∧ before.Tended) => Tended.proceeds hbefore hleaves
        (step_proceeds env signal fun hcourse => (hbefore hcourse).1))
    (fun _ => ⟨⟨rfl, nofun, nofun, nofun⟩, hnew⟩)
  obtain ⟨hcoupled, htended⟩ := hkept hrunning
  exact htended.idle (hcoupled.idle hstate) hwaiting

/-- The first utterance is answered while the second one waits; its deadline fires. -/
def answeredLate : List LoopSignal :=
  utter 1 "one" ++ List.replicate 9 .deadline ++ utter 2 "two" ++
    .command (some (.authorizeResponse 7 1)) :: List.replicate 9 .deadline

theorem waiting_utterance_armed_early :
    Along (step unhurried) LeavesTended (new 7 100 .externalGate false 0) (utter 1 "one") ∧
      (run unhurried (new 7 100 .externalGate false 0) (utter 1 "one")).deadline.isSome :=
  ⟨by decide +kernel, waiting_utterance_armed unhurried 7 100 .externalGate false 0 (utter 1 "one")
    (by decide +kernel) (by decide +kernel) (by decide +kernel) (by decide +kernel)⟩

/-- A command that interrupts the response leaves the second utterance without a
deadline: only new speech would wake the loop, and it discards the utterance. -/
theorem interrupted_response_strands_utterance :
    let loop := run unhurried (new 7 100 .externalGate false 0)
      (answeredLate ++ [.command (some (.bargeIn ⟨1, 1⟩))])
    loop.course = .running ∧ loop.state = .listening ∧ loop.finalizer.IsWaiting ∧
      loop.deadline = none := by
  decide +kernel

end VoiceLoop

end ConversationRuntime
