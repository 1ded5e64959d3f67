import ConversationRuntime.Turns.TextCustody

/-! # The outcome of a text turn

Under the custody of its call, the claim of the completion is the point at which the
outcome of a turn is decided: an interruption that comes before it keeps the turn from
completing, and one that comes after it changes nothing.
-/

namespace ConversationRuntime

open Foundation Ending TextTurn List
open Nat

variable {Persona : Type}

section acts

variable {board : TextBoard Persona} {index : Nat} {turn : TextTurn}

/-! ## The run of the language model -/

namespace TextTurn

theorem deltaText_append (events more : List RuntimeEvent)
    (h : ∀ turnId delta, .textDelta turnId delta ∉ more) :
    deltaText (events ++ more) = deltaText events := by
  induction more generalizing events with
  | nil => rw [append_nil]
  | cons event rest ih =>
    rw [← singleton_append, ← append_assoc, ih _ fun turnId delta hmem =>
      h turnId delta (mem_cons_of_mem _ hmem)]
    unfold deltaText
    rw [foldl_append]
    cases event with
    | textDelta turnId delta => exact absurd mem_cons_self (h turnId delta)
    | _ => rfl

/-- Events that carry no text are published. -/
theorem publish_unanswered (h : turn.Unanswered) {events : List RuntimeEvent} {stage : TextStage}
    (hevents : ∀ turnId text, .textCompleted turnId text ∉ events) :
    (turn.publish events stage).Unanswered := by
  refine ⟨?_, h.terminals⟩
  intro turnId text hmem
  rcases mem_append.mp hmem with hold | hnew
  · exact h.texts turnId text hold
  · exact hevents turnId text hnew

variable {identity : TurnIdentity}

/-- A run that fails or is cancelled. -/
theorem outcome_warranted (hunanswered : turn.Unanswered)
    (hready : turn.Ready board index identity (some false) false) {terminal : RuntimeEvent}
    (hends : terminal.isTerminal = true) (hincomplete : terminal.isCompletion = false)
    (text : String) : (turn.outcome identity terminal text).Warranted board index := by
  refine ⟨⟨hunanswered.staged _, hends, ?_⟩, hready⟩
  intro hcompletion
  rw [hincomplete] at hcompletion
  cases hcompletion

/-- An item of the language model. -/
theorem receive_warranted {text : String} {first : Bool}
    (hstage : turn.stage = .running identity (.streaming text first)) (input : TextInput)
    (h : turn.Warranted board index) :
    (turn.receive identity text first input).Warranted board index := by
  have hall := h
  simp only [Warranted, hstage, runText] at h
  obtain ⟨hunanswered, htext, hbound, hready⟩ := h
  cases input with
  | closed | failed error => exact outcome_warranted hunanswered hready rfl rfl _
  | ready _ _ => exact hall
  | finished =>
    simp only [receive]
    split
    next => exact outcome_warranted hunanswered hready rfl rfl _
    next hblank =>
      refine ⟨⟨hunanswered.staged _, rfl, fun _ => ⟨by simpa using hblank, htext.symm, ?_⟩⟩, hready⟩
      exact le_trans (le_add_right _ _) hbound
  | delta author delta =>
    simp only [receive]
    split
    next => exact outcome_warranted hunanswered hready rfl rfl _
    next =>
      split
      next => exact outcome_warranted hunanswered hready rfl rfl _
      next hfits =>
        refine ⟨hunanswered.staged _, htext, ?_, hready⟩
        show text.utf8ByteSize + delta.utf8ByteSize ≤ turn.maximumResponseBytes
        omega

/-- Publishing what is not text leaves the run where it was. -/
theorem publish_warranted {run : TextRun} {event : RuntimeEvent} (hunanswered : turn.Unanswered)
    (htext : deltaText turn.events = (runText run).1)
    (hbound : (runText run).1.utf8ByteSize + (runText run).2.utf8ByteSize ≤
      turn.maximumResponseBytes)
    (hready : turn.Ready board index identity (some false) false)
    (hdelta : ∀ turnId delta, .textDelta turnId delta ∉ [event])
    (hcompleted : ∀ turnId text, .textCompleted turnId text ∉ [event]) :
    (turn.publish [event] (.running identity run)).Warranted board index :=
  ⟨publish_unanswered hunanswered hcompleted, (deltaText_append _ _ hdelta).trans htext, hbound,
    hready⟩

theorem run_warranted {run : TextRun} (hstage : turn.stage = .running identity run)
    (interrupted : Bool) (input : TextInput) (h : turn.Warranted board index) :
    (turn.run identity interrupted input run).Warranted board index := by
  have hall := h
  simp only [Warranted, hstage] at h
  obtain ⟨hunanswered, htext, hbound, hready⟩ := h
  have hcancelled : ∀ text, (turn.cancelledOutcome identity text).Warranted board index :=
    fun text => outcome_warranted hunanswered hready rfl rfl text
  have hfailed : ∀ error text, (turn.failedOutcome identity error text).Warranted board index :=
    fun error text => outcome_warranted hunanswered hready rfl rfl text
  cases run with
  | resolving =>
    simp only [run]
    split
    next => exact hcancelled _
    next =>
      cases input with
      | closed => exact hfailed _ _
      | ready _ _ =>
        cases turn.remembers <;>
          exact publish_warranted hunanswered htext hbound hready (by simp) (by simp)
      | _ => exact hall
  | retrieving =>
    simp only [run]
    split
    next => exact hcancelled _
    next =>
      cases input with
      | closed | failed => exact hfailed _ _
      | ready _ _ => exact ⟨hunanswered.staged _, htext, hbound, hready⟩
      | _ => exact hall
  | publishingMemory =>
    simp only [run]
    split
    next => exact hcancelled _
    next =>
      cases input with
      | closed => exact hfailed _ _
      | ready _ _ => exact publish_warranted hunanswered htext hbound hready (by simp) (by simp)
      | _ => exact hall
  | requesting =>
    simp only [run]
    split
    next => exact hfailed _ _
    next =>
      split
      next => exact hcancelled _
      next => exact ⟨hunanswered.staged _, htext, hbound, hready⟩
  | streaming text first =>
    simp only [run]
    split
    next => exact hcancelled _
    next => exact receive_warranted hstage input hall
  | publishingDelta text first delta =>
    simp only [run]
    split
    next => exact hcancelled _
    next =>
      cases input with
      | closed => exact hfailed _ _
      | ready _ elapsedMs =>
        refine ⟨publish_unanswered hunanswered ?_, ?_, ?_, hready⟩
        · cases first <;> simp
        · have htext : deltaText turn.events = text := htext
          change deltaText (turn.events ++ _) = text ++ delta
          rw [← htext, deltaText, foldl_append]
          cases first <;> rfl
        · show (text ++ delta).utf8ByteSize + "".utf8ByteSize ≤ turn.maximumResponseBytes
          rw [String.utf8ByteSize_append]
          exact hbound
      | _ => exact hall

end TextTurn

/-! ## Every step of a turn -/

variable {identity : TurnIdentity} {terminal : RuntimeEvent} {text : String}

open TextTurn in
/-- A terminal event is selected; a completion that was not claimed gives way to the
interruption. -/
theorem selected_warranted {completed : Bool} (hcomposed : turn.Composed terminal text)
    (hcompleted : terminal.isCompletion = completed)
    (hready : turn.Ready board index identity (some completed) completed) :
    Warranted board index { turn with stage := settlement identity terminal text } := by
  subst hcompleted
  have hends := hcomposed.ends
  cases terminal with
  | turnCompleted turnId =>
    exact ⟨hcomposed.staged _, fun _ => rfl, nofun, rfl, hready⟩
  | turnCancelled turnId | turnFailed turnId error =>
    exact ⟨hcomposed.staged _, nofun, fun _ => rfl, rfl, hready⟩
  | _ => exact absurd hends Bool.false_ne_true

open TextTurn in
/-- The completed text is published, or the consumer is gone. -/
theorem published_warranted (hcomposed : turn.Composed terminal text)
    (hcustody : TextCustody board index identity .gone (some terminal.isCompletion)
      terminal.isCompletion terminal.isCompletion) {events : List RuntimeEvent}
    (hevents : events = [] ∨
      terminal.isCompletion = true ∧ events = [.textCompleted identity.turnId text]) :
    (turn.publish events (.clearing identity terminal)).Warranted board index := by
  refine ⟨⟨hcomposed.ends, ?_⟩, hcomposed.unanswered.terminals, hcustody⟩
  have hdeltas : deltaText (turn.events ++ events) = deltaText turn.events := by
    apply deltaText_append
    rcases hevents with rfl | ⟨-, rfl⟩ <;> simp
  intro turnId other hmem
  rcases mem_append.mp hmem with hold | hnew
  · exact absurd hold (hcomposed.unanswered.texts turnId other)
  · rcases hevents with rfl | ⟨hcompletion, rfl⟩
    · exact absurd hnew not_mem_nil
    · cases mem_singleton.mp hnew
      exact ⟨hcompletion, (hcomposed.answer hcompletion).2.1.trans hdeltas.symm⟩

open TextTurn in
/-- Every step of a turn is well. -/
theorem turn_actsWell (h : TextConsistent board) (input : TextInput)
    (hturn : turn.Warranted board index) :
    TextActsWell index board (.turn (turn.act index input board).1)
      (turn.act index input board).2 := by
  obtain ⟨transcript, remembers, events, terminals, stage⟩ := turn
  cases stage with
  | beginning stage =>
    cases stage with
    | done result =>
      cases result with
      | ok identity => exact .same h ⟨hturn.1.staged _, hturn.2⟩
      | error error => exact .same h (hturn.staged _)
    | _ => exact beginning_actsWell h (Beginning.step_move _ board.context _) hturn
  | admitting identity =>
    obtain ⟨hquiet, user, huser, hcustody⟩ := hturn
    cases hactive : board.active with
    | none =>
      simp only [act, hactive]
      exact (custody_admits h hcustody hactive).imp fun hreached =>
        ⟨hquiet.staged _, user, huser, hreached⟩
    | some active =>
      simp only [act, hactive]
      exact .same h ⟨hquiet.staged _, rfl, rfl, user, huser, hcustody⟩
  | preparing identity =>
    obtain ⟨hquiet, user, huser, hcustody⟩ := hturn
    have hrunning : (publish ⟨transcript, remembers, events, terminals, .preparing identity⟩
        [.turnStarted identity.turnId] (.running identity .resolving)).Warranted board index := by
      apply publish_warranted ⟨?_, hquiet.terminals⟩ ?_ (zero_le _) ⟨user, huser, hcustody⟩
        (by simp) (by simp)
      · rw [hquiet.events]
        exact fun _ _ => not_mem_nil
      · rw [hquiet.events]
        rfl
    cases input with
    | failed error => exact .same h ⟨hquiet.staged _, rfl, rfl, user, huser, hcustody⟩
    | _ => exact .same h hrunning
  | abandoning identity admitted error ending =>
    obtain ⟨hquiet, hdiscard, hstands⟩ := hturn
    cases ending with
    | done outcome author result =>
      cases admitted with
      | true => exact .same h ⟨hquiet.staged _, hstands.2.2⟩
      | false => exact .same h (hquiet.staged _)
    | _ =>
      have hpasses := stands_step h (step_move board.context _) hstands
        ⟨fun hfalse => absurd hfalse Bool.false_ne_true, fun _ => hdiscard⟩
      refine hpasses.imp fun hreached => ⟨hquiet.staged _, ?_, hreached.staged _⟩
      rw [step_outcome]
      exact hdiscard
  | releasing identity error =>
    obtain ⟨hquiet, hcustody⟩ := hturn
    exact (custody_release h hcustody).imp fun _ => hquiet.staged _
  | refused error => exact .same h hturn
  | running identity run => exact .same h (run_warranted rfl _ input hturn)
  | claiming identity terminal text =>
    obtain ⟨hcomposed, user, huser, hcustody⟩ := hturn
    cases terminal with
    | turnCompleted turnId =>
      exact (custody_claim h hcustody).imp fun ⟨hinterrupted, hreached⟩ =>
        ⟨hcomposed.staged _, fun _ => rfl, fun hfalse _ => hinterrupted hfalse, user, huser,
          hreached⟩
    | _ => exact .same h ⟨hcomposed.staged _, nofun, nofun, user, huser, hcustody⟩
  | selecting identity terminal text completed =>
    obtain ⟨hcomposed, hclaimed, hinterrupted, hready⟩ := hturn
    apply TextPasses.same h
    cases completed with
    | true => exact selected_warranted (hcomposed.staged _) (hclaimed rfl) hready
    | false =>
      simp only [act, Bool.false_eq_true, if_false]
      by_cases hmem : identity.turnId ∈ board.interrupted
      · rw [if_pos hmem]
        have hcancelled : Composed _ (.turnCancelled identity.turnId) text :=
          ⟨hcomposed.unanswered, rfl, nofun⟩
        exact selected_warranted hcancelled rfl hready
      · rw [if_neg hmem]
        have hincomplete : terminal.isCompletion = false :=
          Bool.eq_false_of_not_eq_true fun htrue => hmem (hinterrupted rfl htrue)
        exact selected_warranted (hcomposed.staged _) hincomplete hready
  | settling identity terminal text ending =>
    obtain ⟨hcomposed, hcompletion, hdiscard, hstands⟩ := hturn
    cases ending with
    | done outcome author result =>
      obtain ⟨-, rfl, hcustody⟩ := hstands
      exact .same h ⟨hcomposed.staged _, hcustody⟩
    | _ =>
      have hpasses := stands_step h (step_move board.context _) hstands ⟨fun htrue =>
        ⟨text, hcompletion htrue, (hcomposed.answer htrue).1, (hcomposed.answer htrue).2.2⟩,
          hdiscard⟩
      refine hpasses.imp fun hreached => ⟨hcomposed.staged _, ?_, ?_, hreached.staged _⟩
      · rw [step_outcome]
        exact hcompletion
      · rw [step_outcome]
        exact hdiscard
  | publishing identity terminal text =>
    obtain ⟨hcomposed, hcustody⟩ := hturn
    apply TextPasses.same h
    apply published_warranted hcomposed hcustody
    cases terminal with
    | turnCompleted turnId =>
      cases input with
      | closed => exact .inl rfl
      | _ => exact .inr ⟨rfl, rfl⟩
    | _ => exact .inl rfl
  | clearing identity terminal =>
    obtain ⟨hclosing, hterminals, hcustody⟩ := hturn
    exact (custody_release h hcustody).imp fun hreached =>
      ⟨hclosing.staged _, hterminals, hreached⟩
  | sending identity terminal =>
    obtain ⟨hclosing, hterminals, hcustody⟩ := hturn
    refine .same h ⟨⟨hclosing.ends, hclosing.texts⟩, ?_, hcustody⟩
    exact congrArg (· ++ [terminal]) hterminals
  | ceased identity terminal => exact .same h hturn

/-! ## Every step of a call -/

/-- An interruption keeps the board consistent, and returns only where the token is set or the
completion was claimed. -/
theorem interrupt_actsWell (h : TextConsistent board) (turnId : TurnId) :
    TextActsWell index board (.interrupted turnId (board.interrupt turnId).1)
      (board.interrupt turnId).2 := by
  unfold TextBoard.interrupt
  split
  next => exact .same h trivial
  next active hactive =>
    split
    next hturn =>
      have hclaimed := h.finalizing active hactive
      rw [hturn] at hclaimed
      split
      next hfinalizing => exact .same h (.inr (hclaimed.mp hfinalizing))
      next hopen =>
        -- the turn in the slot is not claimed
        refine ⟨{ h with claimed := fun other hother =>
          ⟨(h.claimed other hother).1, fun hmem => ?_⟩ },
          .inl (mem_append_right _ (mem_singleton_self _)), ⟨id, fun _ _ => id,
            fun _ _ => id, fun _ _ => .rfl, fun _ _ => .rfl, mem_append_left _, id⟩⟩
        rcases mem_append.mp hmem with hold | hnew
        · exact (h.claimed other hother).2 hold
        · exact hopen (hclaimed.mpr (mem_singleton.mp hnew ▸ hother))
    next => exact .same h trivial

theorem call_actsWell (h : TextConsistent board) (input : TextInput) {call : TextCall}
    (hcall : call.Warranted board index) :
    TextActsWell index board (call.act index input board).1 (call.act index input board).2 := by
  cases call with
  | turn started => exact turn_actsWell h input hcall
  | interrupt turnId => exact interrupt_actsWell h turnId
  | interrupted turnId result => exact .same h hcall

namespace TextTurn

variable {after : TextBoard Persona} {other : Nat} {identity : TurnIdentity} {slot : Option Bool}
  (hspares : TextSpares index board after) (hother : other ≠ index)
include hspares hother

theorem Ready.spared {claimed : Bool} (h : turn.Ready board other identity slot claimed) :
    turn.Ready after other identity slot claimed := by
  obtain ⟨user, huser, hcustody⟩ := h
  exact ⟨user, huser, hcustody.spared hspares hother⟩

theorem Stands.spared {completes : Bool} {ending : Ending}
    (h : turn.Stands board other identity slot completes ending) :
    turn.Stands after other identity slot completes ending := by
  cases ending with
  | claim _ author => exact ⟨h.1, .spared hspares hother h.2⟩
  | settle _ author reclaimed =>
    obtain ⟨hauthor, hreclaimed, user, huser, hcustody⟩ := h
    exact ⟨hauthor, hreclaimed, user, huser, hcustody.spared hspares hother⟩
  | finish _ author result | done _ author result => exact ⟨h.1, h.2.1, h.2.2.spared hspares hother⟩

/-- The other turns keep what they know. -/
theorem Warranted.spared (h : turn.Warranted board other) : turn.Warranted after other := by
  obtain ⟨transcript, remembers, events, terminals, stage⟩ := turn
  cases stage with
  | beginning stage =>
    cases stage with
    | reserve _ => exact h
    | resolve identity _ => exact ⟨h.1, h.2.1, h.2.2.spared hspares hother⟩
    | release identity _ => exact ⟨h.1, h.2.spared hspares hother⟩
    | done result =>
      cases result with
      | ok identity => exact ⟨h.1, .spared hspares hother h.2⟩
      | error _ => exact h
  | admitting identity | preparing identity | claiming identity terminal text =>
    exact ⟨h.1, .spared hspares hother h.2⟩
  | abandoning identity admitted error ending =>
    exact ⟨h.1, h.2.1, .spared hspares hother h.2.2⟩
  | releasing identity _ | publishing identity terminal text =>
    exact ⟨h.1, h.2.spared hspares hother⟩
  | refused _ => exact h
  | running identity run => exact ⟨h.1, h.2.1, h.2.2.1, .spared hspares hother h.2.2.2⟩
  | selecting identity terminal text completed =>
    exact ⟨h.1, h.2.1, fun hfalse htrue => hspares.interrupted (h.2.2.1 hfalse htrue),
      .spared hspares hother h.2.2.2⟩
  | settling identity terminal text ending =>
    exact ⟨h.1, h.2.1, h.2.2.1, .spared hspares hother h.2.2.2⟩
  | clearing identity terminal | sending identity terminal =>
    exact ⟨h.1, h.2.1, h.2.2.spared hspares hother⟩
  | ceased identity terminal => exact ⟨h.1, h.2.1, h.2.2.spared hspares hother⟩

end TextTurn

theorem TextCall.Warranted.spared {after : TextBoard Persona} {other : Nat} {call : TextCall}
    (hcall : call.Warranted board other) (hspares : TextSpares index board after)
    (hother : other ≠ index) : call.Warranted after other := by
  cases call with
  | interrupt turnId => trivial
  | interrupted turnId result =>
    cases result with
    | error _ => trivial
    | ok _ => exact hcall.imp hspares.interrupted hspares.kept
  | turn started => exact TextTurn.Warranted.spared hspares hother hcall

end acts

/-! ## Whole runs -/

namespace TextCalls

abbrev Sound (calls : TextCalls Persona) : Prop := calls.Holds TextConsistent TextCall.Warranted

theorem sound_new (persona : Persona) : (TextCalls.new persona).Sound := by
  refine ⟨?_, fun index call hcall => by simp [TextCalls.new] at hcall⟩
  exact {
    bounded := forall_mem_nil _
    unique := fun _ _ _ h => absurd h not_mem_nil
    recorded := forall_mem_nil _
    claimed := forall_mem_nil _
    slot := nofun
    finalizing := nofun
    idle := fun _ => rfl
    fits := forall_mem_nil _ }

variable {calls : TextCalls Persona}

theorem step_sound (h : calls.Sound) (action : TextAction) : (calls.step action).Sound := by
  cases action with
  | start transcript remembers => exact h.spawn ⟨⟨rfl, rfl⟩, rfl⟩
  | interrupt turnId => exact h.spawn trivial
  | advance index input =>
    apply h.advance index
    intro call hcall hwarranted
    have hacts := call_actsWell h.whole input hwarranted
    refine ⟨hacts.consistent, hacts.known, ?_⟩
    intro other mate hother _ hmate
    exact hmate.spared hacts.spares hother

theorem run_sound (h : calls.Sound) (actions : List TextAction) :
    (actions.foldl step calls).Sound :=
  foldlRecOn actions step h fun _ h action _ => step_sound h action

theorem step_interrupted (h : calls.Sound) (action : TextAction) {turnId : TurnId}
    (hturn : turnId ∈ calls.shared.interrupted) :
    turnId ∈ (calls.step action).shared.interrupted := by
  cases action with
  | start | interrupt => exact hturn
  | advance index input =>
    simp only [step, Pool.advance]
    split
    next => exact hturn
    next call hcall =>
      exact (call_actsWell h.whole input (h.own index call hcall)).spares.interrupted hturn

/-- A token that was set stays set. -/
theorem run_interrupted (h : calls.Sound) (actions : List TextAction) {turnId : TurnId}
    (hturn : turnId ∈ calls.shared.interrupted) :
    turnId ∈ (actions.foldl step calls).shared.interrupted := by
  refine (foldlRecOn actions step ⟨h, hturn⟩ fun calls
    (h : calls.Sound ∧ turnId ∈ calls.shared.interrupted) action _ => ?_).2
  exact ⟨step_sound h.1 action, step_interrupted h.1 action h.2⟩

/-- How many steps a task has left once its run has an outcome. -/
def stepsLeft : TextStage → Option Nat
  | .claiming _ _ _ => some 9
  | .selecting _ _ _ _ => some 8
  | .settling _ _ _ (.claim _ _) => some 7
  | .settling _ _ _ (.settle _ _ _) => some 6
  | .settling _ _ _ (.finish _ _ _) => some 5
  | .settling _ _ _ (.done _ _ _) => some 4
  | .publishing _ _ _ => some 3
  | .clearing _ _ => some 2
  | .sending _ _ => some 1
  | .ceased _ _ => some 0
  | _ => none

/-- Every step brings the task nearer to its terminal event. -/
theorem act_stepsLeft (index : Nat) (input : TextInput) (turn : TextTurn)
    (board : TextBoard Persona)
    {left : Nat} (h : stepsLeft turn.stage = some (left + 1)) :
    ∃ less ≤ left, stepsLeft (turn.act index input board).1.stage = some less := by
  obtain ⟨transcript, remembers, events, terminals, stage⟩ := turn
  cases stage with
  | claiming identity terminal text =>
    cases h
    cases terminal <;> exact ⟨8, le_refl _, rfl⟩
  | selecting identity terminal text completed =>
    cases h
    simp only [TextTurn.act]
    generalize (if completed = true then terminal
      else if identity.turnId ∈ board.interrupted then .turnCancelled identity.turnId
      else terminal) = selected
    cases selected with
    | turnCompleted _ | turnCancelled _ | turnFailed _ _ => exact ⟨7, le_refl _, rfl⟩
    | _ => exact ⟨3, by decide, rfl⟩
  | settling identity terminal text ending =>
    cases ending with
    | done outcome author result =>
      cases h
      cases result <;> exact ⟨3, le_refl _, rfl⟩
    | claim outcome author =>
      cases h
      simp only [TextTurn.act, Ending.step]
      split
      next => exact ⟨6, le_refl _, rfl⟩
      next => exact ⟨4, by decide, rfl⟩
    | settle outcome author reclaimed =>
      cases h
      exact ⟨5, le_refl _, rfl⟩
    | finish outcome author result =>
      cases h
      exact ⟨4, le_refl _, rfl⟩
  | publishing identity terminal text =>
    cases h
    exact ⟨2, le_refl _, rfl⟩
  | clearing identity terminal =>
    cases h
    exact ⟨1, le_refl _, rfl⟩
  | sending identity terminal =>
    cases h
    exact ⟨0, le_refl _, rfl⟩
  | _ => cases h

/-- The outcomes of the turns of `later`, which comes after `earlier`. -/
structure Linearizable (earlier later : TextCalls Persona) : Prop where
  /-- A task sends its terminal event with its last step, and no other. -/
  once : ∀ started, .turn started ∈ later.threads → started.terminals = [] ∨
    ∃ identity terminal, started.stage = .ceased identity terminal ∧
      started.terminals = [terminal] ∧ terminal.isTerminal = true
  /-- A task whose run has an outcome comes to its terminal event. -/
  sends : ∀ started left index input, .turn started ∈ later.threads →
    stepsLeft started.stage = some (left + 1) →
    ∃ less ≤ left, stepsLeft (started.act index input later.shared).1.stage = some less
  completed : ∀ started identity terminal, .turn started ∈ later.threads →
    started.stage = .ceased identity terminal →
    (terminal.isCompletion = true ↔ identity.turnId ∈ later.shared.context.quality.recorded)
  /-- An interruption that returned before the completion was claimed. -/
  interrupted : ∀ turnId, .interrupted turnId (.ok ()) ∈ earlier.threads →
    turnId ∉ earlier.shared.claimed → turnId ∉ later.shared.context.quality.recorded ∧
    ∀ started identity terminal, .turn started ∈ later.threads →
      started.stage = .ceased identity terminal → identity.turnId = turnId →
      terminal.isCompletion = false
  texts : ∀ started turnId text, .turn started ∈ later.threads →
    .textCompleted turnId text ∈ started.events → text = TextTurn.deltaText started.events ∧
    ∃ identity terminal, terminal.isCompletion = true ∧
      (started.stage = .clearing identity terminal ∨
      started.stage = .sending identity terminal ∨ started.stage = .ceased identity terminal)
  fits : ∀ exchange ∈ later.shared.context.quality.history, exchange.turnId ≠ none →
    exchange.user.text.utf8ByteSize + exchange.assistant.text.utf8ByteSize ≤
      maxConversationMessageBytes
  /-- The call of `complete_turn` does not fail. -/
  commits : ∀ started identity terminal text assistant author error, .turn started ∈ later.threads →
    started.stage ≠ .settling identity terminal text
      (.done (.complete assistant) author (.error error))
  /-- A turn whose terminal event was sent stands in nobody's way. -/
  free : ∀ started identity terminal, .turn started ∈ later.threads →
    started.stage = .ceased identity terminal →
    (∀ active ∈ later.shared.active, active.identity.turnId ≠ identity.turnId) ∧
    ¬ later.shared.context.lifecycle.Owns identity ∧
    ¬ later.shared.context.quality.Awaits identity.turnId

/-- What an ended turn knows. -/
theorem Sound.ceased (h : calls.Sound) {started : TextTurn} {identity : TurnIdentity}
    {terminal : RuntimeEvent} (hmem : .turn started ∈ calls.threads)
    (hstage : started.stage = .ceased identity terminal) :
    ∃ index, TextCustody calls.shared index identity .gone none terminal.isCompletion
      terminal.isCompletion := by
  obtain ⟨index, hindex⟩ := mem_iff_getElem?.mp hmem
  have hwarranted := h.own index _ hindex
  simp only [TextCall.Warranted, Warranted, hstage] at hwarranted
  exact ⟨index, hwarranted.2.2⟩

end TextCalls

namespace TextTurn

variable {board : TextBoard Persona} {index : Nat} {turn : TextTurn}

/-- Before its text is published a turn has told nothing, and then only its terminal event
is left. -/
theorem Warranted.phase (h : turn.Warranted board index) : turn.Unanswered ∨
    ∃ identity terminal, turn.Closing terminal ∧
      ((turn.stage = .clearing identity terminal ∨ turn.stage = .sending identity terminal) ∧
        turn.terminals = [] ∨
      turn.stage = .ceased identity terminal ∧ turn.terminals = [terminal]) := by
  obtain ⟨transcript, remembers, events, terminals, stage⟩ := turn
  have hquiet : ∀ {turn : TextTurn}, turn.Quiet → turn.Unanswered := by
    intro turn hquiet
    refine ⟨fun _ _ => ?_, hquiet.terminals⟩
    rw [hquiet.events]
    exact not_mem_nil
  cases stage with
  | beginning stage =>
    left
    cases stage with
    | done result =>
      cases result with
      | ok _ => exact hquiet h.1
      | error _ => exact hquiet h
    | _ => exact hquiet h.1
  | refused _ => exact .inl (hquiet h)
  | running _ _ => exact .inl h.1
  | claiming _ _ _ | selecting _ _ _ _ | settling _ _ _ _ | publishing _ _ _ =>
    exact .inl h.1.unanswered
  | clearing identity terminal | sending identity terminal =>
    exact .inr ⟨identity, terminal, h.1, .inl ⟨by simp, h.2.1⟩⟩
  | ceased identity terminal => exact .inr ⟨identity, terminal, h.1, .inr ⟨rfl, h.2.1⟩⟩
  | _ => exact .inl (hquiet h.1)

theorem Warranted.once (h : turn.Warranted board index) : turn.terminals = [] ∨
    ∃ identity terminal, turn.stage = .ceased identity terminal ∧ turn.terminals = [terminal] ∧
      terminal.isTerminal = true := by
  obtain hunanswered | ⟨identity, terminal, hclosing, ⟨-, hnone⟩ | ⟨hstage, hsent⟩⟩ := h.phase
  · exact .inl hunanswered.terminals
  · exact .inl hnone
  · exact .inr ⟨identity, terminal, hstage, hsent, hclosing.ends⟩

theorem Warranted.texts (h : turn.Warranted board index) {turnId : TurnId} {text : String}
    (hmem : .textCompleted turnId text ∈ turn.events) : text = deltaText turn.events ∧
    ∃ identity terminal, terminal.isCompletion = true ∧ (turn.stage = .clearing identity terminal ∨
      turn.stage = .sending identity terminal ∨ turn.stage = .ceased identity terminal) := by
  obtain hunanswered | ⟨identity, terminal, hclosing, hstage⟩ := h.phase
  · exact absurd hmem (hunanswered.texts _ _)
  · obtain ⟨hcompletion, htext⟩ := hclosing.texts _ _ hmem
    exact ⟨htext, identity, terminal, hcompletion, by tauto⟩

end TextTurn

namespace TextCalls

/-- A turn that nobody interrupts completes. -/
example :
    let ready := TextInput.ready ⟨false, .ok ()⟩ 7
    let inputs :=
      List.replicate 7 ready ++ [.delta ⟨1, 1⟩ "hi", ready, .finished] ++ List.replicate 9 ready
    let calls := ((.start "hello" false :: inputs.map (.advance 0)).foldl step (new ())).threads
    calls.map (fun call => match call with
      | .turn started => (started.events, started.terminals)
      | _ => ([], [])) =
      [([.turnStarted 1, .qualityResolved 1, .textDelta 1 "hi", .timing 1 .firstTextDelta 7,
        .textCompleted 1 "hi"], [.turnCompleted 1])] := by
  decide +kernel

end TextCalls

end ConversationRuntime
