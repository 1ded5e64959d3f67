import ConversationRuntime.Voice.Coupling

/-! # Texts that come too late

A text that is not final is stored while the channel is nearly full; the final text of
its segment is not, and takes the place that is left. A consumer that then reads on
receives the stored text after the final one. This cannot happen as long as no text of
a segment is stored when its final text is published.
-/

namespace ConversationRuntime

open Foundation List Outbox Option

namespace Outbox

/-- The later event does not bring a text observed before its segment's final text,
the earlier event, was published. -/
def InOrder (earlier later : Dispatch) : Prop :=
  ∀ segmentId ∈ earlier.event.finalSegment, later.event.partialSegment = some segmentId →
    earlier.stamp < later.stamp

instance (earlier later : Dispatch) : Decidable (InOrder earlier later) :=
  inferInstanceAs (Decidable (∀ segmentId ∈ earlier.event.finalSegment,
    later.event.partialSegment = some segmentId → earlier.stamp < later.stamp))

/-- No text of a segment is stored when its final text is published. -/
def Supersedes (outbox : Outbox) : Call → Prop
  | .publishReliable event _ => ∀ segmentId ∈ event.finalSegment,
      outbox.partials.lookup segmentId = none
  | _ => True

instance (outbox : Outbox) : ∀ call, Decidable (Supersedes outbox call)
  | .publishReliable event _ => inferInstanceAs (Decidable (∀ segmentId ∈ event.finalSegment,
      outbox.partials.lookup segmentId = none))
  | .attend _ | .publishBestEffort _ | .publishPartial _ _ | .flushReliable | .flushPartial
  | .deliver _ | .clearPartials => inferInstanceAs (Decidable True)

/-- What was sent or waits to be. -/
def entrusted (outbox : Outbox) : List Dispatch := outbox.events.carried ++ outbox.reliableEvents

/-- Whatever text is stored was observed after the final texts of its segment. -/
structure Ahead (outbox : Outbox) : Prop where
  stored : ∀ dispatch ∈ outbox.entrusted, ∀ segmentId ∈ dispatch.event.finalSegment,
    ∀ stored ∈ outbox.partials.lookup segmentId, dispatch.stamp < stored.stamp
  passed : ∀ dispatch ∈ outbox.entrusted, dispatch.event.finalSegment.isSome →
    dispatch.stamp < outbox.published.length
  queued : ∀ dispatch ∈ outbox.reliableEvents, dispatch.event.partialSegment = none

/-- Nothing carried is stale, and nothing will be while the channel is open. -/
structure Timely (outbox : Outbox) : Prop where
  carried : outbox.events.carried.Pairwise InOrder
  ahead : outbox.isClosed = false → outbox.Ahead

/-- An event that brings no such text comes never too late. -/
theorem inOrder_of_proper (dispatch : Dispatch) (h : dispatch.event.partialSegment = none)
    (earlier : Dispatch) : InOrder earlier dispatch := by
  intro segmentId _ hpartial
  exact absurd (h.symm.trans hpartial) nofun

/-- What a call publishes, as it is sent. -/
def fresh (outbox : Outbox) : Call → List Dispatch
  | .publishReliable event _ => [outbox.reliably event]
  | _ => []

section Steps

variable {outbox : Outbox} {call : Call} {dispatch : Dispatch}

/-- What waits was waiting before, or is published now. -/
theorem queued_step (hopen : (outbox.step call).isClosed = false)
    (h : dispatch ∈ (outbox.step call).reliableEvents) :
    dispatch ∈ outbox.reliableEvents ∨ dispatch ∈ outbox.fresh call ∧
      outbox.published.length < (outbox.step call).published.length := by
  cases step_effect outbox call with
  | shut hclosed => cases hclosed.symm.trans hopen
  | rested _ hqueue | storedPartial _ _ _ hqueue | sentBestEffort _ _ _ hqueue
  | sentPartial _ _ _ hqueue | releasedPartial _ _ _ _ hqueue => exact .inl (hqueue ▸ h)
  | lost _ _ _ _ _ hbefore | released _ hbefore =>
    rw [hbefore]
    exact .inl (mem_cons_of_mem _ h)
  | passedDirectly _ _ _ _ hqueue =>
    rw [hqueue] at h
    cases h
  | passedToQueue event _ hcall _ hqueue _ hpublished =>
    subst hcall
    rw [hqueue] at h
    exact (mem_append.mp h).imp_right fun hnew => ⟨hnew, by simp [hpublished]⟩
  | passedBehindOldest event _ _ _ hcall hbefore hqueue _ hpublished =>
    subst hcall
    rw [hqueue] at h
    rw [hbefore]
    exact (mem_append.mp h).imp (mem_cons_of_mem _) fun hnew =>
      ⟨hnew, by simp [hpublished]⟩

/-- What is sent was waiting before, or is published now, or brings no final text. -/
theorem carried_step (hproper : call.IsProper) (h : dispatch ∈ (outbox.step call).events.carried) :
    dispatch ∈ outbox.entrusted ∨ dispatch.event.finalSegment = none ∨
      dispatch ∈ outbox.fresh call ∧
        outbox.published.length < (outbox.step call).published.length := by
  cases step_effect outbox call with
  | rested hcarried | storedPartial _ _ hcarried | lost _ _ _ _ _ _ hcarried | shut _ hcarried
  | passedToQueue _ _ _ _ _ hcarried => exact .inl (mem_append_left _ (hcarried ▸ h))
  | passedDirectly event _ hcall _ _ hcarried hpublished =>
    subst hcall
    rw [hcarried] at h
    exact (mem_append.mp h).imp (mem_append_left _) fun hnew =>
      .inr ⟨hnew, by simp [hpublished]⟩
  | passedBehindOldest _ _ oldest _ _ hbefore _ hcarried | released oldest hbefore hcarried =>
    rw [hcarried] at h
    rcases mem_append.mp h with hold | hnew
    · exact .inl (mem_append_left _ hold)
    · rw [mem_singleton.mp hnew]
      exact .inl (mem_append_right _ (hbefore ▸ mem_cons_self))
  | sentBestEffort event hcall hcarried =>
    subst hcall
    rw [hcarried] at h
    refine (mem_append.mp h).imp (mem_append_left _) fun hnew => .inl ?_
    rw [mem_singleton.mp hnew]
    exact hproper.2
  | sentPartial _ _ hcarried | releasedPartial _ _ _ hcarried =>
    rw [hcarried] at h
    refine (mem_append.mp h).imp (mem_append_left _) fun hnew => .inl ?_
    rw [mem_singleton.mp hnew]
    rfl

/-- What is stored was stored before, or is observed now. -/
theorem stored_step (hopen : (outbox.step call).isClosed = false) {segmentId : Nat}
    {stored : StoredPartial} (h : (outbox.step call).partials.lookup segmentId = some stored) :
    outbox.partials.lookup segmentId = some stored ∨ stored.stamp = outbox.published.length ∧
      (outbox.step call).published = outbox.published := by
  cases step_effect outbox call with
  | shut hclosed => cases hclosed.symm.trans hopen
  | storedPartial _ _ _ _ hpublished hpartials =>
    exact (hpartials segmentId stored h).symm.imp_right fun hnew => ⟨hnew, hpublished⟩
  | _ => exact .inl (‹Fewer _ _› segmentId stored h)

/-- Every event sent comes in order. -/
theorem inOrder_step (h : outbox.Timely) (hahead : outbox.Ahead) (hproper : call.IsProper) :
    (outbox.step call).events.carried.Pairwise InOrder := by
  cases step_effect outbox call with
  | rested hcarried | storedPartial _ _ hcarried | lost _ _ _ _ _ _ hcarried | shut _ hcarried
  | passedToQueue _ _ _ _ _ hcarried =>
    rw [hcarried]
    exact h.carried
  | passedDirectly event _ hcall _ _ hcarried =>
    subst hcall
    rw [hcarried]
    exact pairwise_snoc h.carried fun earlier _ =>
      inOrder_of_proper (outbox.reliably event) hproper earlier
  | sentBestEffort _ hcall hcarried =>
    subst hcall
    rw [hcarried]
    exact pairwise_snoc h.carried fun earlier _ => inOrder_of_proper _ hproper.1 earlier
  | passedBehindOldest _ _ oldest _ _ hbefore _ hcarried | released oldest hbefore hcarried =>
    have hqueued := hahead.queued oldest (hbefore ▸ mem_cons_self)
    rw [hcarried]
    exact pairwise_snoc h.carried fun earlier _ => inOrder_of_proper _ hqueued earlier
  | sentPartial _ _ hcarried =>
    -- A text that is just observed is ahead of everything.
    rw [hcarried]
    refine pairwise_snoc h.carried fun earlier hearlier other hfinal _ => ?_
    exact hahead.passed earlier (mem_append_left _ hearlier) (isSome_of_mem hfinal)
  | releasedPartial segmentId stored hstored hcarried =>
    rw [hcarried]
    refine pairwise_snoc h.carried fun earlier hearlier other hfinal hpartial => ?_
    cases hpartial
    exact hahead.stored earlier (mem_append_left _ hearlier) segmentId hfinal stored hstored

variable (hproper : call.IsProper) (hsupersedes : Supersedes outbox call)
include hproper hsupersedes

/-- What is published has the stamp of its publication and is no text of its own. -/
theorem mem_fresh (h : dispatch ∈ outbox.fresh call) :
    dispatch.stamp = outbox.published.length ∧ dispatch.event.partialSegment = none ∧
      ∀ segmentId ∈ dispatch.event.finalSegment, outbox.partials.lookup segmentId = none := by
  cases call with
  | publishReliable event awaited =>
    rw [mem_singleton.mp h]
    exact ⟨rfl, hproper, hsupersedes⟩
  | _ => cases h

theorem Ahead.step (h : outbox.Ahead) (hopen : (outbox.step call).isClosed = false) :
    (outbox.step call).Ahead := by
  have hentrusted : ∀ dispatch ∈ (outbox.step call).entrusted,
      dispatch.event.finalSegment.isSome → dispatch ∈ outbox.entrusted ∨
        dispatch ∈ outbox.fresh call ∧
          outbox.published.length < (outbox.step call).published.length := by
    intro dispatch hdispatch hfinal
    rcases mem_append.mp hdispatch with hsent | hqueued
    · rcases carried_step hproper hsent with hold | hnone | hnew
      · exact .inl hold
      · rw [hnone] at hfinal
        cases hfinal
      · exact .inr hnew
    · exact (queued_step hopen hqueued).imp_left (mem_append_right _)
  refine ⟨?_, ?_, ?_⟩
  · intro dispatch hdispatch segmentId hfinal stored hstored
    rcases hentrusted dispatch hdispatch (isSome_of_mem hfinal) with hold | ⟨hnew, hgrows⟩
    · rcases stored_step hopen hstored with hbefore | ⟨hnow, -⟩
      · exact h.stored dispatch hold segmentId hfinal stored hbefore
      · rw [hnow]
        exact h.passed dispatch hold (isSome_of_mem hfinal)
    · rcases stored_step hopen hstored with hbefore | ⟨-, hsame⟩
      · rw [(mem_fresh hproper hsupersedes hnew).2.2 segmentId hfinal] at hbefore
        cases hbefore
      · rw [hsame] at hgrows
        exact absurd hgrows (Nat.lt_irrefl _)
  · intro dispatch hdispatch hfinal
    rcases hentrusted dispatch hdispatch hfinal with hold | ⟨hnew, hgrows⟩
    · exact (h.passed dispatch hold hfinal).trans_le (published_prefix_step outbox call).length_le
    · rwa [(mem_fresh hproper hsupersedes hnew).1]
  · intro dispatch hdispatch
    rcases queued_step hopen hdispatch with hold | ⟨hnew, -⟩
    · exact h.queued dispatch hold
    · exact (mem_fresh hproper hsupersedes hnew).2.1

/-- The calls of the loop that keep to the condition bring nothing too late. -/
theorem Timely.step (h : outbox.Timely) : (outbox.step call).Timely := by
  cases hbefore : outbox.isClosed with
  | true =>
    refine ⟨?_, ?_⟩
    · rw [events_step_of_closed call hbefore]
      exact h.carried
    · intro hopen
      cases (isClosed_step call hbefore).symm.trans hopen
  | false =>
    have hahead := h.ahead hbefore
    exact ⟨inOrder_step h hahead hproper, .step hproper hsupersedes hahead⟩

end Steps

theorem timely_start (sessionId : SessionId) : (start sessionId).Timely := by
  refine ⟨pairwise_singleton _ _, fun _ => ⟨?_, ?_, ?_⟩⟩
  · intro dispatch hdispatch segmentId hfinal
    rw [mem_singleton.mp hdispatch] at hfinal
    exact absurd hfinal (not_mem_none segmentId)
  · intro dispatch hdispatch hfinal
    rw [mem_singleton.mp hdispatch] at hfinal
    cases hfinal
  · exact forall_mem_nil _

end Outbox

namespace VoiceLoop

/-- The outbox is what the calls of the loop made of it. -/
structure Wired (sessionId : SessionId) (loop : VoiceLoop) : Prop where
  outbox : loop.wire.outbox = loop.wire.calls.foldl Outbox.step (.start sessionId)
  proper : ∀ call ∈ loop.wire.calls, call.IsProper

variable {before after : VoiceLoop}

theorem Wired.grows {sessionId : SessionId} {deeds : List Deed} (h : before.Wired sessionId)
    (hgrows : before.wire.Grows deeds after.wire) : after.Wired sessionId := by
  obtain ⟨calls, hcalls, houtbox, hproper⟩ := hgrows.calls
  refine ⟨?_, ?_⟩
  · rw [houtbox, hcalls, foldl_append, ← h.outbox]
  · intro call hcall
    rw [hcalls] at hcall
    exact (mem_append.mp hcall).elim (h.proper call) (hproper call)

theorem Silences.grows {identity : TurnIdentity} (h : Silences before after identity) :
    ∃ deeds, before.wire.Grows deeds after.wire := by
  obtain ⟨plain, more, -, hgrows⟩ := h.deeds
  exact ⟨_, hgrows⟩

theorem Act.grows (h : Act before after) : ∃ deeds, before.wire.Grows deeds after.wire := by
  rcases h with hmove | ⟨signal, hturn⟩
  · cases hmove with
    | captured | spoken | discontinued | fallsDue | passedOver | parked => exact ⟨[], .refl _⟩
    | recovered hsilent =>
      rcases hsilent with rfl | ⟨identity, hsilences⟩
      · exact ⟨[], .refl _⟩
      · exact hsilences.grows
    | silenced _ hsilences => exact hsilences.grows
    | _ => exact ⟨_, ‹Wire.Grows _ _ _›⟩
  · cases hturn with
    | heard _ _ _ hgrows => exact ⟨_, hgrows⟩
    | silenced hsilences => exact hsilences.grows

theorem Last.grows (h : Last before after) : ∃ deeds, before.wire.Grows deeds after.wire := by
  cases h with
  | heard => exact ⟨[], .refl _⟩
  | answeredInVain _ _ _ _ hgrows hafter =>
    subst hafter
    exact ⟨_, hgrows⟩
  | _ => exact ⟨_, ‹Wire.Grows _ _ _›⟩

theorem lasting_wired (sessionId : SessionId) : Lasting (Wired sessionId) (Wired sessionId) where
  act := by
    intro before after _ h hact
    obtain ⟨deeds, hgrows⟩ := hact.grows
    exact h.grows hgrows
  leave := fun h => h
  last := by
    intro before after _ h hlast
    obtain ⟨deeds, hgrows⟩ := hlast.grows
    exact h.grows hgrows
  fade := by
    intro before after hfades h
    obtain ⟨deeds, -, hgrows⟩ := hfades.deeds
    exact h.grows hgrows

/-- In every run that stores no text of a segment when its final text is published: once
the consumer has received the final text of a segment, it receives no text of that
segment which was observed before. -/
theorem received_texts_in_order (env : VoiceEnvironment) (sessionId : SessionId)
    (finalSilenceMs : Nat) (responseMode : VoiceResponseMode) (captureRecorder : Bool)
    (sequence : Nat) (signals : List LoopSignal)
    (h : Along Outbox.step Outbox.Supersedes (.start sessionId) (run env (new sessionId
      finalSilenceMs responseMode captureRecorder sequence) signals).wire.calls) :
    (run env (new sessionId finalSilenceMs responseMode captureRecorder sequence)
      signals).wire.outbox.events.received.Pairwise Outbox.InOrder := by
  have hcoupled := coupled_new sessionId finalSilenceMs responseMode captureRecorder sequence
  have hnew : (new sessionId finalSilenceMs responseMode captureRecorder sequence).Wired
      sessionId :=
    ⟨rfl, forall_mem_nil _⟩
  have hlasting := lasting_wired sessionId
  obtain ⟨-, hwired⟩ := hlasting.run env signals (hlasting.start hcoupled hnew)
  have htimely := (h.knowing hwired.proper).kept
    (fun _ _ hcall h => Timely.step hcall.2 hcall.1 h) (timely_start sessionId)
  rw [← hwired.outbox] at htimely
  exact htimely.carried.sublist (IsPrefix.sublist (Channel.received_prefix_carried _))

/-- A session whose consumer reads nothing at first. -/
def readFrom (tick : Nat) : VoiceEnvironment where
  answers now := { Answers.calm with
    elapsedMs := 10
    consumer := ⟨if now < tick then 0 else 40, false⟩ }
  cleanFinal := some

/-- Some events that take up the channel, and then an utterance of which two texts are
heard. -/
def heardLate (events : Nat) : List LoopSignal :=
  List.replicate events (.input (some (.ok (.activity (.captureDiscontinuity 0))))) ++
    [.input (some (.ok (.activity (.speechStarted 0)))),
      .input (some (.ok (.recognition (.hypothesis ⟨1, "on", false⟩)))),
      .input (some (.ok (.recognition (.hypothesis ⟨1, "one", true⟩)))),
      .input (some (.ok (.activity (.speechEnded 0))))] ++
    List.replicate 9 .deadline ++ [.delivery, .delivery]

theorem received_texts_in_order_awake :
    let loop := run (readFrom 0) (new 7 100 .externalGate false 0) (heardLate 1)
    Along Outbox.step Outbox.Supersedes (.start 7) loop.wire.calls ∧
      (loop.wire.outbox.events.received.filterMap fun dispatch => dispatch.event.finalSegment) =
      [1] ∧
      loop.wire.outbox.events.received.Pairwise InOrder :=
  ⟨by decide +kernel, by decide +kernel,
    received_texts_in_order (readFrom 0) 7 100 .externalGate false 0 (heardLate 1)
      (by decide +kernel)⟩

/-- The consumer wakes up when the final text was sent and the text before it is still
stored. -/
theorem stored_text_received_late :
    let loop := run (readFrom 160) (new 7 100 .externalGate false 0) (heardLate 27)
    (loop.wire.outbox.events.received.map Dispatch.event).drop 28 =
      [.transcriptFinal 7 1 none "one" none, .transcriptPartial 7 1 "on"] ∧
    ¬ loop.wire.outbox.events.received.Pairwise InOrder := by
  decide +kernel

end VoiceLoop

end ConversationRuntime
