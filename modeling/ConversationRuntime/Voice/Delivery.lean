import ConversationRuntime.Foundation.Runs
import ConversationRuntime.Voice.Outbox

/-! # What the consumer of a voice session receives

An access to the outbox does one of a few things to what the channel has carried,
to the queue of reliable events and to the stored texts. Whatever is received is
a beginning of what was carried, so the order of delivery is decided there.
-/

namespace ConversationRuntime

open Foundation Channel List

namespace Outbox

/-- Every text stored after was stored before. -/
def Fewer (after before : Outbox) : Prop :=
  ∀ segmentId stored, after.partials.lookup segmentId = some stored →
    before.partials.lookup segmentId = some stored

theorem Fewer.of_eq {after before : Outbox} (h : after.partials = before.partials) :
    after.Fewer before := by
  intro segmentId stored hstored
  rwa [h] at hstored

theorem lookup_of_lookup_erase {partials : AList fun _ : Nat => StoredPartial}
    {erased segmentId : Nat} {stored : StoredPartial}
    (h : (partials.erase erased).lookup segmentId = some stored) :
    partials.lookup segmentId = some stored := by
  by_cases hsame : segmentId = erased
  · rw [hsame, AList.lookup_erase] at h
    cases h
  · rwa [AList.lookup_erase_ne hsame] at h

theorem Fewer.of_erase {after before : Outbox} {segmentId : Nat}
    (h : after.partials = before.partials.erase segmentId) : after.Fewer before := by
  intro other stored hother
  rw [h] at hother
  exact lookup_of_lookup_erase hother

/-- What a call can do, by what it sends, queues and stores. -/
inductive Effect (before : Outbox) (call : Call) (after : Outbox) : Prop
  | rested (hcarried : after.events.carried = before.events.carried)
      (hqueue : after.reliableEvents = before.reliableEvents)
      (hpublished : after.published = before.published) (hpartials : after.Fewer before)
  | passedDirectly (event : VoiceSessionEvent) (awaited : Awaited)
      (hcall : call = .publishReliable event awaited)
      (hbefore : before.reliableEvents = []) (hqueue : after.reliableEvents = [])
      (hcarried : after.events.carried = before.events.carried ++ [before.reliably event])
      (hpublished : after.published = before.published ++ [event])
      (hpartials : after.Fewer before)
  | passedToQueue (event : VoiceSessionEvent) (awaited : Awaited)
      (hcall : call = .publishReliable event awaited)
      (hroom : before.reliableEvents.length < maxPendingReliableEvents)
      (hqueue : after.reliableEvents = before.reliableEvents ++ [before.reliably event])
      (hcarried : after.events.carried = before.events.carried)
      (hpublished : after.published = before.published ++ [event])
      (hpartials : after.Fewer before)
  | passedBehindOldest (event : VoiceSessionEvent) (awaited : Awaited) (oldest : Dispatch)
      (rest : List Dispatch) (hcall : call = .publishReliable event awaited)
      (hbefore : before.reliableEvents = oldest :: rest)
      (hqueue : after.reliableEvents = rest ++ [before.reliably event])
      (hcarried : after.events.carried = before.events.carried ++ [oldest])
      (hpublished : after.published = before.published ++ [event])
      (hpartials : after.Fewer before)
  /-- The caller was dropped: the event and the oldest one before it are lost. -/
  | lost (event : VoiceSessionEvent) (awaited : Awaited) (oldest : Dispatch)
      (hcall : call = .publishReliable event awaited)
      (hdropped : (before.publishReliable event awaited).1 = none)
      (hbefore : before.reliableEvents = oldest :: after.reliableEvents)
      (hcarried : after.events.carried = before.events.carried)
      (hpublished : after.published = before.published ++ [event])
      (hpartials : after.Fewer before)
  /-- The channel is closed by the end of the call, and nothing can be sent any more. -/
  | shut (hclosed : after.isClosed = true) (hcarried : after.events.carried = before.events.carried)
      (hqueue : after.reliableEvents.length ≤
        max before.reliableEvents.length maxPendingReliableEvents)
      (hpublished : before.published <+: after.published)
  | sentBestEffort (event : VoiceSessionEvent) (hcall : call = .publishBestEffort event)
      (hcarried : after.events.carried =
        before.events.carried ++ [⟨event, .bestEffort, before.published.length⟩])
      (hqueue : after.reliableEvents = before.reliableEvents)
      (hpublished : after.published = before.published) (hpartials : after.Fewer before)
  | sentPartial (segmentId : Nat) (text : String)
      (hcarried : after.events.carried = before.events.carried ++
        [before.partialDispatch segmentId ⟨text, before.published.length⟩])
      (hqueue : after.reliableEvents = before.reliableEvents)
      (hpublished : after.published = before.published) (hpartials : after.Fewer before)
  | storedPartial (segmentId : Nat) (text : String)
      (hcarried : after.events.carried = before.events.carried)
      (hqueue : after.reliableEvents = before.reliableEvents)
      (hpublished : after.published = before.published)
      (hpartials : ∀ other stored, after.partials.lookup other = some stored →
        stored.stamp = before.published.length ∨ before.partials.lookup other = some stored)
  | released (oldest : Dispatch)
      (hbefore : before.reliableEvents = oldest :: after.reliableEvents)
      (hcarried : after.events.carried = before.events.carried ++ [oldest])
      (hpublished : after.published = before.published) (hpartials : after.Fewer before)
  | releasedPartial (segmentId : Nat) (stored : StoredPartial)
      (hstored : before.partials.lookup segmentId = some stored)
      (hcarried : after.events.carried =
        before.events.carried ++ [before.partialDispatch segmentId stored])
      (hqueue : after.reliableEvents = before.reliableEvents)
      (hpublished : after.published = before.published) (hpartials : after.Fewer before)

section Effects

variable (outbox : Outbox) (event : VoiceSessionEvent)

theorem pass_of_open {outbox : Outbox} (h : outbox.isClosed = false) :
    outbox.pass event = { outbox with published := outbox.published ++ [event] } := by
  simp [pass, h]

theorem pass_of_closed {outbox : Outbox} (h : outbox.isClosed = true) :
    outbox.pass event = outbox := if_pos h

variable (call : Call)

theorem Effect.unchanged : Effect outbox call outbox := .rested rfl rfl rfl (.of_eq rfl)

/-- What a publication does and how it is answered: only a closed channel makes it report
failure, and only a dropped caller gets no answer. -/
structure Publication (before : Outbox) (event : VoiceSessionEvent) (awaited : Awaited)
    (answered : Option Bool × Outbox) : Prop where
  effect : Effect before (.publishReliable event awaited) answered.2
  closed : answered.1 = some false → answered.2.isClosed = true
  dropped : answered.1 = none → awaited = .dropped

variable (awaited : Awaited)

/-- A closed channel takes nothing, whatever becomes of the queue. -/
theorem publishReliable_of_closed {outbox : Outbox} (h : outbox.isClosed = true) :
    (outbox.publishReliable event awaited).1 = some false ∧
      Publication outbox event awaited (outbox.publishReliable event awaited) := by
  have hsend : ∀ oldest, outbox.events.send oldest awaited = (some .closed, outbox.events) :=
    fun oldest => if_pos h
  unfold publishReliable
  simp only [pass_of_closed event h]
  cases hqueue : outbox.reliableEvents with
  | nil =>
    simp only [trySend_of_closed _ h]
    exact ⟨trivial, .unchanged outbox _, fun _ => h, nofun⟩
  | cons oldest rest =>
    simp only
    split
    · rw [publishBehindOldest, hsend]
      refine ⟨rfl, .shut h rfl ?_ (prefix_refl _), fun _ => h, nofun⟩
      simp only [hqueue, length_cons]
      omega
    · refine ⟨by simp [h], .shut h rfl ?_ (prefix_refl _), fun _ => h, nofun⟩
      simp only [length_append, length_cons, length_nil] at *
      omega

/-- The queue is full and the channel open: the oldest event is sent, or the
channel is closed, or the caller is dropped and two events are lost. -/
theorem publishBehindOldest_effect {outbox : Outbox} {oldest : Dispatch} {rest : List Dispatch}
    (hqueue : outbox.reliableEvents = oldest :: rest)
    (hcall : outbox.publishReliable event awaited =
      (outbox.pass event).publishBehindOldest (outbox.reliably event) oldest rest awaited)
    (hopen : outbox.isClosed = false) :
    Publication outbox event awaited (outbox.publishReliable event awaited) := by
  have hdropped := congrArg Prod.fst hcall
  rw [hcall]
  rw [pass_of_open event hopen] at hdropped ⊢
  unfold publishBehindOldest at hdropped ⊢
  rcases outbox.events.send_cases oldest awaited with
    ⟨events, hsend, hcarried⟩ | ⟨events, hsend, hclosed, hcarried⟩ | ⟨hawaited, hsend⟩
  · simp only [hsend]
    refine ⟨.passedBehindOldest event awaited oldest rest rfl hqueue rfl hcarried rfl
      (.of_eq rfl), fun h => ?_, nofun⟩
    simpa [isClosed] using h
  · simp only [hsend]
    refine ⟨.shut hclosed hcarried ?_ (prefix_append _ _), fun _ => hclosed, nofun⟩
    rw [hqueue]
    exact le_max_of_le_left (Nat.le_succ _)
  · simp only [hsend] at hdropped ⊢
    exact ⟨.lost event awaited oldest rfl hdropped hqueue rfl rfl (.of_eq rfl), nofun,
      fun _ => hawaited⟩

theorem publishReliable_effect :
    Publication outbox event awaited (outbox.publishReliable event awaited) := by
  cases hopen : outbox.isClosed with
  | true => exact (publishReliable_of_closed event awaited hopen).2
  | false =>
    cases hqueue : outbox.reliableEvents with
    | nil =>
      simp only [publishReliable, pass_of_open event hopen, hqueue]
      rcases outbox.events.trySend_cases (outbox.reliably event) with
        ⟨hclosed, -⟩ | hsend | hsend
      · rw [isClosed, hclosed] at hopen
        cases hopen
      · simp only [hsend]
        exact ⟨.passedDirectly event awaited rfl hqueue rfl (carried_push _ _) rfl
          (.of_eq rfl), nofun, nofun⟩
      · simp only [hsend]
        refine ⟨.passedToQueue event awaited rfl ?_ ?_ rfl rfl (.of_eq rfl), nofun, nofun⟩
        · rw [hqueue]
          decide
        · rw [hqueue]
          rfl
    | cons oldest rest =>
      by_cases hfull : maxPendingReliableEvents ≤ outbox.reliableEvents.length
      · apply publishBehindOldest_effect event awaited hqueue _ hopen
        simp only [publishReliable, pass_of_open event hopen, hqueue]
        rw [hqueue] at hfull
        rw [if_pos hfull]
      · have hcall : outbox.publishReliable event awaited =
            (some !outbox.isClosed, { outbox.pass event with
              reliableEvents := outbox.reliableEvents ++ [outbox.reliably event] }) := by
          simp only [publishReliable, pass_of_open event hopen, hqueue]
          rw [hqueue] at hfull
          rw [if_neg hfull]
          rfl
        rw [hcall, pass_of_open event hopen, hopen]
        exact ⟨.passedToQueue event awaited rfl (Nat.lt_of_not_le hfull) rfl rfl rfl
          (.of_eq rfl), nofun, nofun⟩

theorem publishBestEffort_effect :
    Effect outbox (.publishBestEffort event) (outbox.publishBestEffort event).2 ∧
      ((outbox.publishBestEffort event).1 = false →
        (outbox.publishBestEffort event).2.isClosed = true) := by
  unfold publishBestEffort
  split
  · exact ⟨.unchanged outbox _, by simp⟩
  · rcases outbox.events.trySend_cases ⟨event, .bestEffort, outbox.published.length⟩ with
      ⟨hclosed, hsend⟩ | hsend | hsend <;> simp only [hsend]
    · exact ⟨.unchanged outbox _, fun _ => hclosed⟩
    · exact ⟨.sentBestEffort event rfl (carried_push _ _) rfl rfl (Fewer.of_eq rfl), nofun⟩
    · exact ⟨.unchanged outbox _, nofun⟩

/-- A text stored now is the new one, or was there before. -/
theorem storePartial_effect (segmentId : Nat) (text : String) :
    Effect outbox call (outbox.storePartial segmentId text) := by
  have hinsert : ∀ (partials : AList fun _ : Nat => StoredPartial) other stored,
      (partials.insert segmentId ⟨text, outbox.published.length⟩).lookup other = some stored →
      stored.stamp = outbox.published.length ∨ partials.lookup other = some stored := by
    intro partials other stored hstored
    by_cases hsame : other = segmentId
    · rw [hsame, AList.lookup_insert] at hstored
      left
      rw [← Option.some.inj hstored]
    · rw [AList.lookup_insert_ne hsame] at hstored
      exact .inr hstored
  unfold storePartial
  split
  · split
    · refine .storedPartial segmentId text rfl rfl rfl ?_
      intro other stored hstored
      exact (hinsert _ other stored hstored).imp_right lookup_of_lookup_erase
    · exact .storedPartial segmentId text rfl rfl rfl (hinsert _)
  · exact .storedPartial segmentId text rfl rfl rfl (hinsert _)

theorem events_storePartial (segmentId : Nat) (text : String) :
    (outbox.storePartial segmentId text).events = outbox.events := by
  unfold storePartial
  split <;> try split
  all_goals rfl

theorem publishPartial_effect (segmentId : Nat) (text : String) :
    Effect outbox (.publishPartial segmentId text) (outbox.publishPartial segmentId text).2 ∧
      ((outbox.publishPartial segmentId text).1 = false →
        (outbox.publishPartial segmentId text).2.isClosed = true) := by
  unfold publishPartial
  split
  · exact ⟨storePartial_effect outbox _ segmentId text, by simp [isClosed, events_storePartial]⟩
  · rcases outbox.events.trySend_cases
      (outbox.partialDispatch segmentId ⟨text, outbox.published.length⟩) with
      ⟨hclosed, hsend⟩ | hsend | hsend <;> simp only [hsend]
    · exact ⟨.unchanged outbox _, fun _ => hclosed⟩
    · exact ⟨.sentPartial segmentId text (carried_push _ _) rfl rfl (Fewer.of_eq rfl), nofun⟩
    · exact ⟨storePartial_effect outbox _ segmentId text, nofun⟩

theorem flushReliable_effect : Effect outbox .flushReliable outbox.flushReliable.2 ∧
    (outbox.flushReliable.1 = some .closed → outbox.flushReliable.2.isClosed = true) := by
  unfold flushReliable
  cases hqueue : outbox.reliableEvents with
  | nil => exact ⟨.unchanged outbox _, nofun⟩
  | cons oldest rest =>
    rcases outbox.events.trySend_cases oldest with ⟨hclosed, hsend⟩ | hsend | hsend <;>
      simp only [hsend]
    · exact ⟨.unchanged outbox _, fun _ => hclosed⟩
    · exact ⟨.released oldest hqueue (carried_push _ _) rfl (Fewer.of_eq rfl), nofun⟩
    · exact ⟨.unchanged outbox _, nofun⟩

theorem lookup_of_firstPartial {outbox : Outbox} {segmentId : Nat} {stored : StoredPartial}
    (h : outbox.firstPartial = some (segmentId, stored)) :
    outbox.partials.lookup segmentId = some stored := by
  obtain ⟨first, -, hfirst⟩ := Option.bind_eq_some_iff.mp h
  obtain ⟨found, hfound, heq⟩ := Option.map_eq_some_iff.mp hfirst
  cases heq
  exact hfound

theorem flushPartial_effect : Effect outbox .flushPartial outbox.flushPartial.2 ∧
    (outbox.flushPartial.1 = some .closed → outbox.flushPartial.2.isClosed = true) := by
  unfold flushPartial
  split
  · exact ⟨.unchanged outbox _, nofun⟩
  · cases hfirst : outbox.firstPartial with
    | none => exact ⟨.unchanged outbox _, nofun⟩
    | some first =>
      obtain ⟨segmentId, stored⟩ := first
      rcases outbox.events.trySend_cases (outbox.partialDispatch segmentId stored) with
        ⟨hclosed, hsend⟩ | hsend | hsend <;> simp only [hsend]
      · exact ⟨.unchanged outbox _, fun _ => hclosed⟩
      · exact ⟨.releasedPartial segmentId stored (lookup_of_firstPartial hfirst)
          (carried_push _ _) rfl rfl (Fewer.of_erase rfl), nofun⟩
      · exact ⟨.unchanged outbox _, nofun⟩

theorem deliver_effect (waiting : Option Nat) :
    Effect outbox (.deliver waiting) (outbox.deliver waiting).2 ∧
      ((outbox.deliver waiting).1 = false → (outbox.deliver waiting).2.isClosed = true) := by
  have hsent : ∀ (places takes : Nat) (dispatch : Dispatch),
      ((outbox.events.awaitFree places takes).push dispatch).carried =
        outbox.events.carried ++ [dispatch] := by
    intro places takes dispatch
    rw [carried_push, carried_awaitFree]
  unfold deliver
  split
  next hclosed => exact ⟨.unchanged outbox _, fun _ => hclosed⟩
  · cases waiting with
    | none => exact ⟨.rested rfl rfl rfl (.of_eq rfl), fun _ => rfl⟩
    | some takes =>
      cases hqueue : outbox.reliableEvents with
      | cons oldest rest =>
        exact ⟨.released oldest hqueue (hsent _ _ _) rfl (.of_eq rfl), nofun⟩
      | nil =>
        cases hfirst : outbox.firstPartial with
        | none => exact ⟨.unchanged outbox _, nofun⟩
        | some first =>
          exact ⟨.releasedPartial first.1 first.2 (lookup_of_firstPartial hfirst)
            (hsent _ _ _) hqueue.symm rfl (.of_erase rfl), nofun⟩

/-- Every call has one of the effects. -/
theorem step_effect : Effect outbox call (outbox.step call) := by
  cases call with
  | attend receiving =>
    exact .rested (carried_attend _ _) rfl rfl (Fewer.of_eq rfl)
  | publishReliable event awaited => exact (publishReliable_effect outbox event awaited).effect
  | publishBestEffort event => exact (publishBestEffort_effect outbox event).1
  | publishPartial segmentId text => exact (publishPartial_effect outbox segmentId text).1
  | flushReliable => exact (flushReliable_effect outbox).1
  | flushPartial => exact (flushPartial_effect outbox).1
  | deliver waiting => exact (deliver_effect outbox waiting).1
  | clearPartials =>
    refine .rested rfl rfl rfl ?_
    intro segmentId stored hstored
    cases hstored

/-- Nothing changes a closed channel. -/
theorem events_step_of_closed {outbox : Outbox} (h : outbox.isClosed = true) :
    (outbox.step call).events = outbox.events := by
  have htry : ∀ dispatch, outbox.events.trySend dispatch = (.closed, outbox.events) :=
    fun dispatch => trySend_of_closed dispatch h
  have hsend : ∀ oldest awaited, outbox.events.send oldest awaited =
      (some .closed, outbox.events) :=
    fun oldest awaited => if_pos h
  cases call with
  | attend receiving => exact attend_of_closed receiving h
  | clearPartials => rfl
  | deliver waiting =>
    simp only [step, serve, deliver, h, if_true]
  | publishReliable event awaited =>
    simp only [step, serve, publishReliable, pass_of_closed event h, htry, publishBehindOldest,
      hsend]
    split <;> try split
    all_goals rfl
  | publishBestEffort event =>
    simp only [step, serve, publishBestEffort, htry]
    split <;> rfl
  | publishPartial segmentId text =>
    simp only [step, serve, publishPartial, htry]
    split
    · exact events_storePartial outbox segmentId text
    · rfl
  | flushReliable =>
    simp only [step, serve, flushReliable, htry]
    split <;> rfl
  | flushPartial =>
    simp only [step, serve, flushPartial, htry]
    split <;> try split
    all_goals rfl

theorem isClosed_step {outbox : Outbox} (h : outbox.isClosed = true) :
    (outbox.step call).isClosed = true := by
  rw [isClosed, events_step_of_closed call h]
  exact h

end Effects

/-! ## Reliable events -/

/-- The reliable events among some that were sent. -/
def reliableOf (dispatches : List Dispatch) : List VoiceSessionEvent :=
  (dispatches.filter fun dispatch => dispatch.lane = .reliable).map Dispatch.event

theorem reliableOf_snoc {dispatch : Dispatch} (sent : List Dispatch) (h : dispatch.lane = .reliable)
    : reliableOf (sent ++ [dispatch]) = reliableOf sent ++ [dispatch.event] := by
  simp [reliableOf, h]

theorem reliableOf_snoc_other {dispatch : Dispatch} (sent : List Dispatch)
    (h : dispatch.lane ≠ .reliable) : reliableOf (sent ++ [dispatch]) = reliableOf sent := by
  simp [reliableOf, h]

/-- The reliable events the consumer has received. -/
def receivedReliable (outbox : Outbox) : List VoiceSessionEvent :=
  reliableOf outbox.events.received

theorem receivedReliable_isPrefix (outbox : Outbox) :
    outbox.receivedReliable <+: reliableOf outbox.events.carried := by
  obtain ⟨waiting, hwaiting⟩ := outbox.events.received_prefix_carried
  refine ⟨reliableOf waiting, ?_⟩
  rw [receivedReliable, ← hwaiting]
  simp [reliableOf]

/-- While the channel is open, the queue holds what was passed and not yet sent. -/
structure Waiting (outbox : Outbox) : Prop where
  reliable : ∀ dispatch ∈ outbox.reliableEvents, dispatch.lane = .reliable
  rest : reliableOf outbox.events.carried ++ outbox.reliableEvents.map Dispatch.event =
    outbox.published

/-- The reliable events carried are the first of those passed. -/
structure Unbroken (outbox : Outbox) : Prop where
  carried : reliableOf outbox.events.carried <+: outbox.published
  waiting : outbox.isClosed = false → outbox.Waiting

variable {outbox : Outbox}

theorem Unbroken.of_waiting (h : outbox.Waiting) : outbox.Unbroken := ⟨⟨_, h.rest⟩, fun _ => h⟩

/-- The call is not dropped while it waits for room. -/
def Patient (outbox : Outbox) : Call → Prop
  | .publishReliable event awaited => (outbox.publishReliable event awaited).1 ≠ none
  | _ => True

instance (outbox : Outbox) : ∀ call, Decidable (Patient outbox call)
  | .publishReliable event awaited =>
    inferInstanceAs (Decidable ((outbox.publishReliable event awaited).1 ≠ none))
  | .attend _ | .publishBestEffort _ | .publishPartial _ _ | .flushReliable | .flushPartial
  | .deliver _ | .clearPartials => inferInstanceAs (Decidable True)

theorem published_prefix_step (outbox : Outbox) (call : Call) :
    outbox.published <+: (outbox.step call).published := by
  cases step_effect outbox call with
  | shut _ _ _ hpublished => exact hpublished
  | passedDirectly event _ _ _ _ _ hpublished | passedToQueue event _ _ _ _ _ hpublished
  | passedBehindOldest event _ _ _ _ _ _ _ hpublished | lost event _ _ _ _ _ _ hpublished =>
    exact ⟨[event], hpublished.symm⟩
  | rested _ _ hpublished | sentBestEffort _ _ _ _ hpublished | sentPartial _ _ _ _ hpublished
  | storedPartial _ _ _ _ hpublished | released _ _ _ hpublished
  | releasedPartial _ _ _ _ _ hpublished => rw [hpublished]

/-- A call keeps the order of what waits, or finds the channel closed and sends
nothing. -/
theorem Waiting.step {call : Call} (h : outbox.Waiting) (hpatient : Patient outbox call) :
    (outbox.step call).Waiting ∨ (outbox.step call).isClosed = true ∧
      (outbox.step call).events.carried = outbox.events.carried := by
  have hrest := h.rest
  -- what is sent on another lane leaves the reliable events as they are
  have hother : ∀ dispatch : Dispatch, dispatch.lane ≠ .reliable →
      (outbox.step call).events.carried = outbox.events.carried ++ [dispatch] →
      (outbox.step call).reliableEvents = outbox.reliableEvents →
      (outbox.step call).published = outbox.published → (outbox.step call).Waiting := by
    intro dispatch hlane hcarried hqueue hpublished
    rw [← reliableOf_snoc_other _ hlane, ← hcarried, ← hqueue, ← hpublished] at hrest
    exact ⟨hqueue ▸ h.reliable, hrest⟩
  cases step_effect outbox call with
  | shut hclosed hcarried => exact .inr ⟨hclosed, hcarried⟩
  | lost event awaited _ hcall hdropped =>
    subst hcall
    exact absurd hdropped hpatient
  | rested hcarried hqueue hpublished | storedPartial _ _ hcarried hqueue hpublished =>
    rw [← hcarried, ← hqueue, ← hpublished] at hrest
    exact .inl ⟨hqueue ▸ h.reliable, hrest⟩
  | passedDirectly event _ _ hbefore hqueue hcarried hpublished =>
    refine .inl ⟨?_, ?_⟩
    · rw [hqueue]
      simp
    · rw [hbefore] at hrest
      rw [hcarried, reliableOf_snoc _ rfl, hqueue, hpublished, ← hrest]
      simp [reliably]
  | passedToQueue event _ _ _ hqueue hcarried hpublished =>
    refine .inl ⟨?_, ?_⟩
    · rw [hqueue]
      exact forall_mem_snoc h.reliable rfl
    · rw [hcarried, hqueue, hpublished, ← hrest]
      simp [reliably]
  | passedBehindOldest event _ oldest rest _ hbefore hqueue hcarried hpublished =>
    rw [hbefore] at hrest
    have hreliable := h.reliable
    rw [hbefore] at hreliable
    refine .inl ⟨?_, ?_⟩
    · rw [hqueue]
      exact forall_mem_snoc (forall_mem_cons.mp hreliable).2 rfl
    · rw [hcarried, reliableOf_snoc _ (hreliable oldest mem_cons_self), hqueue, hpublished, ← hrest]
      simp [reliably]
  | sentBestEffort _ _ hcarried hqueue hpublished
  | sentPartial _ _ hcarried hqueue hpublished
  | releasedPartial _ _ _ hcarried hqueue hpublished =>
    exact .inl (hother _ (by nofun) hcarried hqueue hpublished)
  | released oldest hbefore hcarried hpublished =>
    have hreliable := h.reliable
    rw [hbefore] at hrest hreliable
    refine .inl ⟨?_, ?_⟩
    · intro dispatch hdispatch
      exact hreliable dispatch (mem_cons_of_mem _ hdispatch)
    · rw [hcarried, reliableOf_snoc _ (hreliable oldest mem_cons_self), hpublished, ← hrest]
      simp

theorem Unbroken.step {call : Call} (h : outbox.Unbroken) (hpatient : Patient outbox call) :
    (outbox.step call).Unbroken := by
  have hshut : (outbox.step call).isClosed = true →
      (outbox.step call).events.carried = outbox.events.carried →
      (outbox.step call).Unbroken := by
    intro hclosed hcarried
    refine ⟨?_, fun hopen => ?_⟩
    · rw [hcarried]
      exact h.carried.trans (published_prefix_step outbox call)
    · rw [hclosed] at hopen
      cases hopen
  cases hbefore : outbox.isClosed with
  | true =>
    apply hshut (isClosed_step call hbefore)
    rw [events_step_of_closed call hbefore]
  | false =>
    rcases (h.waiting hbefore).step hpatient with hwaiting | ⟨hclosed, hcarried⟩
    · exact .of_waiting hwaiting
    · exact hshut hclosed hcarried

theorem unbroken_start (sessionId : SessionId) : (start sessionId).Unbroken := by
  apply Unbroken.of_waiting
  constructor
  · intro dispatch hdispatch
    cases hdispatch
  · rfl

/-- The queue never outgrows its bound. -/
theorem length_reliableEvents_step (call : Call)
    (h : outbox.reliableEvents.length ≤ maxPendingReliableEvents) :
    (outbox.step call).reliableEvents.length ≤ maxPendingReliableEvents := by
  cases step_effect outbox call with
  | rested _ hqueue | sentBestEffort _ _ _ hqueue | sentPartial _ _ _ hqueue
  | storedPartial _ _ _ hqueue | releasedPartial _ _ _ _ hqueue => rwa [hqueue]
  | passedDirectly _ _ _ _ hqueue =>
    rw [hqueue]
    exact Nat.zero_le _
  | passedToQueue _ _ _ hroom hqueue =>
    rw [hqueue, length_append]
    exact hroom
  | passedBehindOldest _ _ _ _ _ hbefore hqueue =>
    rw [hbefore] at h
    rwa [hqueue, length_append, length_singleton]
  | lost _ _ _ _ _ hbefore | released _ hbefore =>
    rw [hbefore] at h
    exact Nat.le_of_succ_le h
  | shut _ _ hqueue => exact hqueue.trans (max_le h le_rfl)

/-- For every interleaving of calls and of what the consumer does, the queue of
reliable events keeps its bound; and when no call is dropped while it waits, the
reliable events received are the first of those passed, in order. -/
theorem received_reliable_unbroken (sessionId : SessionId) (calls : List Call) :
    (calls.foldl step (start sessionId)).reliableEvents.length ≤ maxPendingReliableEvents ∧
      (Along step Patient (start sessionId) calls →
        (calls.foldl step (start sessionId)).receivedReliable <+:
          (calls.foldl step (start sessionId)).published) := by
  constructor
  · have halways : ∀ (calls : List Call) (outbox : Outbox),
        outbox.reliableEvents.length ≤ maxPendingReliableEvents →
        (calls.foldl step outbox).reliableEvents.length ≤ maxPendingReliableEvents := by
      intro calls
      induction calls with
      | nil => exact fun _ h => h
      | cons call rest ih => exact fun outbox h => ih _ (length_reliableEvents_step call h)
    exact halways calls _ (Nat.zero_le _)
  · intro halong
    have hunbroken := halong.kept (fun _ _ hpatient h => .step h hpatient)
      (unbroken_start sessionId)
    exact (receivedReliable_isPrefix _).trans hunbroken.carried

/-- A failure waits in a full queue behind 32 events, finds room, and all is
received in order. -/
theorem received_reliable_unbroken_waiting :
    let event := fun number => .captureHealth 7 false number
    let calls := (range 63).map (fun number => .publishReliable (event number) (.room 0 false))
      ++ [.publishReliable (.sessionFailed 7 (runtimeError "stopped") .continueSession)
        (.room 1 false), .attend ⟨32, false⟩, .flushReliable, .attend ⟨1, false⟩]
    let outbox := calls.foldl step (start 7)
    Along step Patient (start 7) calls ∧ outbox.reliableEvents.length = 31 ∧
      outbox.receivedReliable.length = 33 ∧ outbox.receivedReliable <+: outbox.published := by
  intro event calls outbox
  have hpatient : Along step Patient (start 7) calls := by decide +kernel
  exact ⟨hpatient, by decide +kernel, by decide +kernel,
    (received_reliable_unbroken 7 calls).2 hpatient⟩

/-- Reliable events have filled channel and queue when a response is interrupted.
The drain of the cancelled turn is dropped while its last event waits: the oldest
event of the queue is gone, and the consumer receives the one after it. -/
theorem dropped_drain_loses_oldest :
    let calls := (range 59).map
        (fun number => .publishReliable (.captureHealth 7 false number) (.room 0 false))
      ++ [5, 6, 8].map (fun segmentId =>
        .publishReliable (.responseSkipped 7 segmentId "declined") (.room 0 false))
      ++ [.publishReliable (.bargeIn 7 1 1) (.room 0 false),
        .publishReliable (.turn 7 1 (.turnCancelled 1)) .dropped,
        .attend ⟨32, false⟩, .flushReliable, .attend ⟨1, false⟩]
    let outbox := calls.foldl step (start 7)
    outbox.published[31]? = some (.captureHealth 7 false 31) ∧
      outbox.receivedReliable[31]? = some (.captureHealth 7 false 32) ∧
      ¬ outbox.receivedReliable <+: outbox.published := by
  decide +kernel

end Outbox

end ConversationRuntime
