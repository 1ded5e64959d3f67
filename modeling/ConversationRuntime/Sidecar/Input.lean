import ConversationRuntime.Foundation.Lists
import ConversationRuntime.Foundation.Runs
import ConversationRuntime.Voice.Events

/-! # Input from the voice sidecar

The reader of the sidecar's output publishes reliable events into one queue and
hypotheses that are not final into another, where they may be dropped. The
dispatcher merges both queues into the voice input and prefers the reliable one.
-/

namespace ConversationRuntime

open Foundation List

def inputQueueCapacity : Nat := 32
def reliableInputQueueCapacity : Nat := 16
def nonterminalInputQueueCapacity : Nat := 1

/-- What the sidecar sends, as far as the reader looks at it. -/
inductive SidecarControl where
  | ready
  /-- `recognition` marks a failed recognition of the recognizer's own stage. -/
  | failure (recognition : Bool) (error : AdapterError)
  | audioDeviceStatus (inputLabel outputLabel : String)
  | voiceActivity (activity : VoiceActivity)
  | transcriptHypothesis (hypothesis : RecognitionHypothesis)
  | playbackAccepted
  | playbackRendered (generationId : GenerationId)
  | playbackFlushed
  | captureStarted
  | capturePaused
  | captureResumed
  | shutdownComplete
  /-- A control that only the parent sends. -/
  | parentControl

/-- One event on its way to the voice input, with its place among all events. -/
structure InputDelivery where
  position : Nat
  event : Except AdapterError VoiceInputEvent
  reliable : Bool

/-- The two publisher queues, the dispatcher and the voice input. -/
structure SidecarInput where
  ready : Bool
  captureStarted : Bool
  /-- The reader has not returned. -/
  reading : Bool
  /-- The dispatcher has not returned. -/
  dispatching : Bool
  reliable : List InputDelivery
  nonterminal : List InputDelivery
  /-- What the dispatcher waits to put into the output. -/
  held : Option InputDelivery
  output : List InputDelivery
  delivered : List InputDelivery
  /-- Everything that was published, in the order the sidecar sent it. -/
  published : List InputDelivery

namespace SidecarInput

def start : SidecarInput := ⟨false, false, true, true, [], [], none, [], [], []⟩

variable (input : SidecarInput)

def halt : SidecarInput := { input with reading := false }

/-- Put an event into the reliable queue. One that finds no room is not
published: the session fails. -/
def publishReliable (event : Except AdapterError VoiceInputEvent) : Bool × SidecarInput :=
  if input.dispatching && decide (input.reliable.length < reliableInputQueueCapacity) then
    let delivery := ⟨input.published.length, event, true⟩
    (true, { input with
      reliable := input.reliable ++ [delivery]
      published := input.published ++ [delivery] })
  else (false, input)

/-- Put an event into the other queue, or drop it. -/
def publishNonterminal (event : Except AdapterError VoiceInputEvent) : SidecarInput :=
  let delivery := ⟨input.published.length, event, false⟩
  { input with
    nonterminal :=
      if input.dispatching && decide (input.nonterminal.length < nonterminalInputQueueCapacity) then
        input.nonterminal ++ [delivery]
      else input.nonterminal
    published := input.published ++ [delivery] }

/-- What the reader makes of a control once the sidecar is ready: an event and
whether it is reliable, nothing, or an error. `resolved` is the answer of the
operation table, which for a rendered frame tells whether it was still live. -/
def inputEvent (deviceStatus : String → String → Option (String × String))
    (resolved : Except AdapterError Bool) :
    SidecarControl → Except AdapterError (Option (VoiceInputEvent × Bool))
  | .audioDeviceStatus inputLabel outputLabel =>
    .ok ((deviceStatus inputLabel outputLabel).map fun labels =>
      (.deviceStatus labels.1 labels.2, true))
  | .voiceActivity (.captureDiscontinuity _) => .ok (some (.captureDiscontinuity, true))
  | .voiceActivity activity => .ok (some (.activity activity, true))
  | .transcriptHypothesis hypothesis =>
    .ok (some (.recognition (.hypothesis hypothesis), hypothesis.engineFinal))
  | .playbackRendered generationId =>
    resolved.map fun live => if live then some (.playback ⟨generationId, .rendered⟩, true) else none
  | .playbackAccepted | .playbackFlushed | .captureStarted | .capturePaused | .captureResumed =>
    resolved.map fun _ => none
  | .shutdownComplete => .ok none
  | .ready | .failure .. | .parentControl =>
    .error ⟨"voice sidecar lifecycle event was out of order"⟩

/-- The reader handles one control of its session. -/
def read (deviceStatus : String → String → Option (String × String))
    (resolved : Except AdapterError Bool) (control : SidecarControl) : SidecarInput :=
  match control with
  | .failure recognition error =>
    let reached := (input.publishReliable (.error error)).2
    if input.captureStarted && recognition then reached else reached.halt
  | control =>
    if input.ready then
      let reached :=
        match control with
        | .captureStarted => { input with captureStarted := true }
        | _ => input
      match inputEvent deviceStatus resolved control with
      | .error _ => input.halt
      | .ok none => reached
      | .ok (some (event, false)) => input.publishNonterminal (.ok event)
      | .ok (some (event, true)) =>
        match input.publishReliable (.ok event) with
        | (true, reached) => reached
        | (false, reached) => reached.halt
    else
      match control with
      | .ready => { input with ready := true }
      | _ => input.halt

/-- The dispatcher takes the next event. -/
def dispatch : SidecarInput :=
  if input.dispatching && input.held.isNone then
    match input.reliable, input.nonterminal with
    | next :: rest, _ => { input with reliable := rest, held := some next }
    | [], next :: rest => { input with nonterminal := rest, held := some next }
    | [], [] => input
  else input

/-- The output has room for what the dispatcher holds. -/
def forward : SidecarInput :=
  if input.dispatching && decide (input.output.length < inputQueueCapacity) then
    { input with output := input.output ++ input.held.toList, held := none }
  else input

/-- The voice session takes its next event. -/
def receive : SidecarInput :=
  { input with
    output := input.output.drop 1
    delivered := input.delivered ++ input.output.take 1 }

inductive Move where
  | read (deviceStatus : String → String → Option (String × String))
      (resolved : Except AdapterError Bool) (control : SidecarControl)
  /-- The reader ends: the stream or the session does, or a frame is not its own. -/
  | halt
  /-- The supervisor reports how the session ended. -/
  | report (error : AdapterError)
  | dispatch
  | forward
  | receive
  /-- The dispatcher ends: it is cancelled or the voice input has closed. -/
  | close

def step (input : SidecarInput) : Move → SidecarInput
  | .read deviceStatus resolved control =>
    if input.reading then input.read deviceStatus resolved control else input
  | .halt => input.halt
  | .report error => (input.publishReliable (.error error)).2
  | .dispatch => input.dispatch
  | .forward => input.forward
  | .receive => input.receive
  | .close => { input with dispatching := false }

def run (moves : List Move) : SidecarInput := moves.foldl step start

/-! ## The order of delivery -/

def Before (one two : InputDelivery) : Prop := one.position < two.position

/-- What the dispatcher has taken from its queues. -/
def taken : List InputDelivery := input.delivered ++ (input.output ++ input.held.toList)

/-- The dispatcher takes no reliable event while an earlier one waits in the
other queue, and does not end before the reliable ones it has to pass on. -/
def TakesInOrder (input : SidecarInput) : Move → Prop
  | .dispatch => ∀ next ∈ input.reliable.head?, ∀ waiting ∈ input.nonterminal,
      next.position < waiting.position
  | .close => (input.held.toList ++ input.reliable).filter InputDelivery.reliable = []
  | _ => True

instance (input : SidecarInput) : DecidablePred input.TakesInOrder
  | .dispatch => inferInstanceAs (Decidable (∀ next ∈ _, ∀ waiting ∈ _, _ < _))
  | .close => inferInstanceAs (Decidable (_ = []))
  | .read .. | .halt | .report _ | .forward | .receive => inferInstanceAs (Decidable True)

/-- The voice input has taken everything, and the dispatcher has ended or finds nothing. -/
def AtRest (input : SidecarInput) : Prop :=
  input.output = [] ∧ (input.dispatching = true → input.reliable = [] ∧ input.held = none)

instance (input : SidecarInput) : Decidable input.AtRest := inferInstanceAs (Decidable (_ ∧ _))

structure InOrder (input : SidecarInput) : Prop where
  published : input.published.Pairwise Before
  fresh : ∀ found ∈ input.published, found.position < input.published.length
  reliable : (input.taken ++ input.reliable).Pairwise Before
  nonterminal : (input.taken ++ input.nonterminal).Pairwise Before
  known : ∀ found ∈ input.taken ++ input.reliable ++ input.nonterminal, found ∈ input.published
  complete : (input.taken ++ input.reliable).filter InputDelivery.reliable =
    input.published.filter InputDelivery.reliable
  droppable : ∀ found ∈ input.nonterminal, found.reliable = false
  ended : input.dispatching = false →
    (input.held.toList ++ input.reliable).filter InputDelivery.reliable = []

variable {input : SidecarInput}

theorem inOrder_start : InOrder start := by
  constructor <;> simp [start, taken]

/-- A queue stays in order when the newest event of all is added to it. -/
theorem pairwise_snoc {queue published : List InputDelivery} {next : InputDelivery}
    (h : queue.Pairwise Before) (hknown : ∀ found ∈ queue, found ∈ published)
    (hfresh : ∀ found ∈ published, found.position < published.length)
    (hnext : next.position = published.length) : (queue ++ [next]).Pairwise Before := by
  refine Foundation.pairwise_snoc h fun found hfound => ?_
  rw [Before, hnext]
  exact hfresh found (hknown found hfound)

theorem fresh_snoc {published : List InputDelivery} {next : InputDelivery}
    (hfresh : ∀ found ∈ published, found.position < published.length)
    (hnext : next.position = published.length) :
    ∀ found ∈ published ++ [next], found.position < (published ++ [next]).length := by
  rw [length_append]
  refine forall_mem_snoc (fun found hfound => Nat.lt_succ_of_lt (hfresh found hfound)) ?_
  rw [hnext]
  exact Nat.lt_succ_self _

section

variable (h : InOrder input)
include h

variable (event : Except AdapterError VoiceInputEvent)

theorem inOrder_publishReliable : InOrder (input.publishReliable event).2 := by
  unfold publishReliable
  split
  next hroom =>
    have hdispatching : input.dispatching = true := (Bool.and_eq_true_iff.mp hroom).1
    have hknown : ∀ found ∈ input.taken ++ input.reliable, found ∈ input.published :=
      fun found hfound => h.known found (mem_append_left _ hfound)
    refine ⟨pairwise_snoc h.published (fun _ => id) h.fresh rfl, fresh_snoc h.fresh rfl, ?_,
      h.nonterminal, ?_, ?_, h.droppable, by simp [hdispatching]⟩
    · show (input.taken ++ (input.reliable ++ [_])).Pairwise Before
      rw [← append_assoc]
      exact pairwise_snoc h.reliable hknown h.fresh rfl
    · intro found hfound
      have := h.known found
      simp only [taken, mem_append] at this hfound ⊢
      tauto
    · have hcomplete := h.complete
      simp only [taken, filter_append] at hcomplete ⊢
      rw [← append_assoc, hcomplete]
  next => exact h

theorem inOrder_publishNonterminal : InOrder (input.publishNonterminal event) := by
  unfold publishNonterminal
  have hknown : ∀ found ∈ input.taken ++ input.nonterminal, found ∈ input.published := by
    intro found hfound
    apply h.known
    simp only [mem_append] at hfound ⊢
    tauto
  refine ⟨pairwise_snoc h.published (fun _ => id) h.fresh rfl, fresh_snoc h.fresh rfl, h.reliable,
    ?_, ?_, ?_, ?_, h.ended⟩
  · dsimp only
    split
    · show (input.taken ++ (input.nonterminal ++ [_])).Pairwise Before
      rw [← append_assoc]
      exact pairwise_snoc h.nonterminal hknown h.fresh rfl
    · exact h.nonterminal
  · intro found hfound
    have := h.known found
    split at hfound
    all_goals
      simp only [taken, mem_append] at this hfound ⊢
      tauto
  · show (input.taken ++ input.reliable).filter _ = (input.published ++ [_]).filter _
    rw [h.complete]
    simp
  · dsimp only
    split
    · exact forall_mem_snoc h.droppable rfl
    · exact h.droppable

theorem inOrder_dispatch (horder : input.TakesInOrder .dispatch) : InOrder input.dispatch := by
  unfold dispatch
  split
  next hidle =>
    have hheld : input.held = none := by simp_all
    have hdispatching : input.dispatching = true := (Bool.and_eq_true_iff.mp hidle).1
    have htaken : ∀ next, input.delivered ++ (input.output ++ [next]) = input.taken ++ [next] := by
      intro next
      simp [taken, hheld]
    split
    next next rest hreliable =>
      have hordered := h.reliable
      have hknown := h.known
      have hcomplete := h.complete
      rw [hreliable, append_cons] at hordered hcomplete
      rw [hreliable] at hknown
      refine ⟨h.published, h.fresh, ?_, ?_, ?_, ?_, h.droppable, by simp [hdispatching]⟩
      all_goals rw [taken, Option.toList_some, htaken]
      · exact hordered
      · have hnext := (pairwise_append.mp hordered).1
        have hwaiting := pairwise_append.mp h.nonterminal
        refine pairwise_append.mpr ⟨hnext, hwaiting.2.1, fun found hfound other hother => ?_⟩
        rcases mem_append.mp hfound with hfound | hfound
        · exact hwaiting.2.2 found hfound other hother
        · rw [mem_singleton.mp hfound]
          exact horder next (by rw [hreliable]; rfl) other hother
      · simpa using hknown
      · exact hcomplete
    next next rest hreliable hnonterminal =>
      have hordered := h.nonterminal
      have hknown := h.known
      have hcomplete := h.complete
      rw [hreliable, append_nil] at hcomplete
      rw [hnonterminal, append_cons] at hordered
      rw [hnonterminal] at hknown
      have hdroppable := h.droppable next (by rw [hnonterminal]; exact mem_cons_self)
      refine ⟨h.published, h.fresh, ?_, ?_, ?_, ?_, fun found hfound => h.droppable found ?_,
        by simp [hdispatching]⟩
      all_goals try rw [taken, Option.toList_some, htaken]
      · simpa [hreliable] using (pairwise_append.mp hordered).1
      · exact hordered
      · simpa [hreliable] using hknown
      · simp [hreliable, filter_append, hcomplete, hdroppable]
      · rw [hnonterminal]
        exact mem_cons_of_mem next hfound
    · exact h
  · exact h

/-- What the reader and the dispatcher have taken and queued decides the order. -/
theorem InOrder.of_eq {reached : SidecarInput}
    (hended : reached.dispatching = false →
      (reached.held.toList ++ reached.reliable).filter InputDelivery.reliable = [])
    (htaken : reached.taken = input.taken) (hreliable : reached.reliable = input.reliable)
    (hnonterminal : reached.nonterminal = input.nonterminal)
    (hpublished : reached.published = input.published) : InOrder reached := by
  obtain ⟨published, fresh, reliable, nonterminal, known, complete, droppable, -⟩ := h
  refine ⟨?_, ?_, ?_, ?_, ?_, ?_, ?_, hended⟩
  all_goals
    simp only [htaken, hreliable, hnonterminal, hpublished]
    assumption

theorem inOrder_read (deviceStatus : String → String → Option (String × String))
    (resolved : Except AdapterError Bool) (control : SidecarControl) :
    InOrder (input.read deviceStatus resolved control) := by
  have hhalt : ∀ {reached}, InOrder reached → InOrder reached.halt :=
    fun hreached => { hreached with }
  unfold read
  split
  next recognition error =>
    have hpublished := inOrder_publishReliable h (.error error)
    split
    · exact hpublished
    · exact hhalt hpublished
  next control hfailure =>
    split
    · dsimp only
      split
      · exact hhalt h
      · split
        · exact { h with }
        · exact h
      next event _ => exact inOrder_publishNonterminal h _
      next event _ =>
        have hpublished := inOrder_publishReliable h (.ok event)
        split
        next reached hreached =>
          rw [hreached] at hpublished
          exact hpublished
        next reached hreached =>
          rw [hreached] at hpublished
          exact hhalt hpublished
    · split
      · exact { h with }
      · exact hhalt h

end

theorem inOrder_step (input : SidecarInput) (move : Move) (horder : input.TakesInOrder move)
    (h : InOrder input) : InOrder (input.step move) := by
  cases move with
  | read deviceStatus resolved control =>
    simp only [step]
    split
    · exact inOrder_read h deviceStatus resolved control
    · exact h
  | halt => exact { h with }
  | close => exact { h with ended := fun _ => horder }
  | report error => exact inOrder_publishReliable h (.error error)
  | dispatch => exact inOrder_dispatch h horder
  | forward =>
    simp only [step, forward]
    split
    next hroom =>
      have hdispatching : input.dispatching = true := (Bool.and_eq_true_iff.mp hroom).1
      exact h.of_eq (by simp [hdispatching]) (by simp [taken]) rfl rfl rfl
    next => exact h
  | receive =>
    refine h.of_eq h.ended ?_ rfl rfl rfl
    simp only [step, receive, taken]
    rw [append_assoc, ← append_assoc (take 1 _), take_append_drop]

/-- Once nothing of a reliable event is left, all of them are delivered. -/
theorem InOrder.delivered_of_atRest (h : InOrder input) (hrest : input.AtRest) :
    input.delivered.filter InputDelivery.reliable =
      input.published.filter InputDelivery.reliable := by
  have hcomplete := h.complete
  have hleft : (input.held.toList ++ input.reliable).filter InputDelivery.reliable = [] := by
    cases hdispatching : input.dispatching with
    | true =>
      obtain ⟨hreliable, hheld⟩ := hrest.2 hdispatching
      rw [hreliable, hheld]
      rfl
    | false => exact h.ended hdispatching
  rwa [taken, hrest.1, nil_append, append_assoc, filter_append, hleft, append_nil] at hcomplete

/-- While no reliable event overtakes another and the dispatcher does not end before
them, what is delivered is what was published, in order and short of dropped hypotheses
alone: once the queues are empty, every reliable event was delivered. -/
theorem delivered_in_order (moves : List Move) (horder : Along step TakesInOrder start moves) :
    (run moves).delivered.Sublist (run moves).published ∧
    ((run moves).AtRest → (run moves).delivered.filter InputDelivery.reliable =
      (run moves).published.filter InputDelivery.reliable) := by
  have h : InOrder (run moves) := horder.kept inOrder_step inOrder_start
  refine ⟨sublist_of_ranked ?_ h.published fun found hfound => h.known found ?_,
    h.delivered_of_atRest⟩
  · exact (pairwise_append.mp (pairwise_append.mp h.reliable).1).1
  · simp [taken, hfound]

/-- A hypothesis and the final one of the same segment, with what the dispatcher
does in between. -/
def exampleFinal (between : List Move) : List Move :=
  let read := Move.read (fun input output => some (input, output)) (.ok true)
  [read .ready, read (.transcriptHypothesis ⟨1, "te", false⟩)] ++ between ++
    [read (.transcriptHypothesis ⟨1, "text", true⟩)]

def exampleDispatched : List Move := [.dispatch, .forward, .receive]

theorem delivered_in_order_of_prompt_dispatch :
    let reached := run (exampleFinal exampleDispatched ++ exampleDispatched ++ [.close])
    reached.delivered.map InputDelivery.position = [0, 1] ∧
    reached.delivered.Sublist reached.published ∧
    reached.delivered.filter InputDelivery.reliable =
      reached.published.filter InputDelivery.reliable := by
  have hordered :=
    delivered_in_order (exampleFinal exampleDispatched ++ exampleDispatched ++ [.close])
    (by decide)
  exact ⟨by decide, hordered.1, hordered.2 (by decide)⟩

/-- Both hypotheses wait when the dispatcher comes: the final one is delivered
first, and the earlier one after it. -/
theorem final_overtakes_hypothesis :
    (run (exampleFinal [] ++ exampleDispatched ++ exampleDispatched)).delivered.map
      (fun found => (found.position, found.reliable)) = [(1, true), (0, false)] ∧
    ¬ (run (exampleFinal [] ++ exampleDispatched ++ exampleDispatched)).delivered.Sublist
      (run (exampleFinal [] ++ exampleDispatched ++ exampleDispatched)).published := by
  refine ⟨by decide, fun h => ?_⟩
  have hpositions := h.map InputDelivery.position
  revert hpositions
  decide

end SidecarInput

end ConversationRuntime
