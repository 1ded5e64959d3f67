import ConversationRuntime.Foundation.Runs
import ConversationRuntime.Foundation.Threads
import ConversationRuntime.Turns.Sections

/-! # Interrupting a streaming turn

The task of a streaming turn runs its pipeline, tests its interruption token, ends the
turn in the context, publishes, clears the slot of the active generation and sends the
terminal event, in this order and each under a lock of its own. An interruption looks at
the slot only. It can therefore find the turn when the token was tested already, and is
accepted although the turn completes.
-/

namespace ConversationRuntime

open Foundation

/-- How far the task of a turn has come. -/
inductive StreamingStage where
  | running
  | selecting (terminal : RuntimeEvent) (generatedText : String)
  | settling (terminal : RuntimeEvent) (generatedText : String) (ending : Ending)
  | publishing (terminal : RuntimeEvent) (generatedText : String)
  | clearing (terminal : RuntimeEvent)
  | sending (terminal : RuntimeEvent)
  | ceased
deriving DecidableEq

structure ActiveGeneration where
  identity : TurnIdentity
  sessionId : Option SessionId
deriving DecidableEq

/-- A started turn with what its task shares with the interruptions. -/
structure StreamingTurn (Persona : Type) where
  identity : TurnIdentity
  active : Option ActiveGeneration
  externalInterruption : Bool
  workCancellation : Bool
  context : ConversationContext Persona
  events : List RuntimeEvent
  terminal : Option RuntimeEvent
  stage : StreamingStage

variable {Persona : Type}

namespace StreamingTurn

/-- What the terminal event asks of the context. -/
def outcomeOf (terminal : RuntimeEvent) (generatedText : String) : Option Outcome :=
  match terminal with
  | .turnCompleted _ =>
    some (if isBlank generatedText then .discard false else .complete generatedText)
  | .turnCancelled _ => some (.discard true)
  | .turnFailed _ _ => some (.discard false)
  | _ => none

/-- Test the interruption token and begin the call that ends the turn. -/
def select (turn : StreamingTurn Persona) (terminal : RuntimeEvent) (generatedText : String) :
    StreamingStage :=
  let terminal :=
    if turn.externalInterruption then .turnCancelled turn.identity.turnId else terminal
  match outcomeOf terminal generatedText with
  | some outcome => .settling terminal generatedText (.claim outcome turn.identity)
  | none => .publishing (.turnFailed turn.identity.turnId
      (runtimeError "streaming turn produced a nonterminal result")) generatedText

/-- The next step of the task; `pipeline` is what the pipeline returns, with the text it
generated. -/
def task (pipeline : RuntimeEvent × String) (turn : StreamingTurn Persona) :
    StreamingTurn Persona :=
  match turn.stage with
  | .running => { turn with stage := .selecting pipeline.1 pipeline.2 }
  | .selecting terminal generatedText =>
    { turn with stage := turn.select terminal generatedText }
  | .settling terminal generatedText (.done _ _ (.ok ())) =>
    { turn with stage := .publishing terminal generatedText }
  | .settling _ generatedText (.done _ _ (.error error)) =>
    { turn with stage := .publishing (.turnFailed turn.identity.turnId error) generatedText }
  | .settling terminal generatedText ending =>
    let ran := ending.step turn.context
    { turn with context := ran.2, stage := .settling terminal generatedText ran.1 }
  | .publishing terminal generatedText =>
    let events :=
      match terminal with
      | .turnCompleted _ => [.textCompleted turn.identity.turnId generatedText]
      | _ => []
    { turn with events := turn.events ++ events, stage := .clearing terminal }
  | .clearing terminal =>
    let active := if turn.active.map (·.identity) = some turn.identity then none else turn.active
    { turn with active, stage := .sending terminal }
  | .sending terminal => { turn with terminal := some terminal, stage := .ceased }
  | .ceased => turn

end StreamingTurn

/-- How far a call of `interrupt` has come. -/
inductive Interruption where
  | looking (identity : TurnIdentity)
  | cancelling (generation : ActiveGeneration)
  | cancellingWork (generation : ActiveGeneration)
  | flushing (generation : ActiveGeneration)
  | returned (result : Except RuntimeError Unit)
deriving DecidableEq

/-- The next step of `interrupt`; `flush` is what the audio output answers. -/
def Interruption.act (flush : Except AdapterError Unit) (interruption : Interruption)
    (turn : StreamingTurn Persona) : Interruption × StreamingTurn Persona :=
  match interruption with
  | .looking identity =>
    match turn.active with
    | none => (.returned (.error (runtimeError "there is no active streaming generation")), turn)
    | some generation =>
      if generation.identity = identity then (.cancelling generation, turn)
      else (.returned (.error (otherActive generation.identity identity)), turn)
  | .cancelling generation =>
    (.cancellingWork generation, { turn with externalInterruption := true })
  | .cancellingWork generation => (.flushing generation, { turn with workCancellation := true })
  | .flushing generation =>
    match generation.sessionId, flush with
    | some _, .error error =>
      (.returned (.error ⟨.adapter, .continuousAudioOutput, error.message⟩), turn)
    | _, _ => (.returned (.ok ()), turn)
  | .returned result => (.returned result, turn)

/-- A turn and the interruptions of it. -/
abbrev InterruptedTurn (Persona : Type) : Type := Pool (StreamingTurn Persona) Interruption

inductive InterruptedAction where
  | task (pipeline : RuntimeEvent × String)
  | interrupt (identity : TurnIdentity)
  | advance (index : Nat) (flush : Except AdapterError Unit)

namespace InterruptedTurn

/-- A turn that was just started. -/
def started (context : ConversationContext Persona) (identity : TurnIdentity)
    (sessionId : Option SessionId) : InterruptedTurn Persona :=
  ⟨⟨identity, some ⟨identity, sessionId⟩, false, false, context, [.turnStarted identity.turnId],
    none,
    .running⟩, []⟩

def step (turn : InterruptedTurn Persona) : InterruptedAction → InterruptedTurn Persona
  | .task pipeline => { turn with shared := turn.shared.task pipeline }
  | .interrupt identity => turn.spawn (.looking identity)
  | .advance index flush => turn.advance (Interruption.act flush) index

/-! ## Accepted interruptions -/

end InterruptedTurn

/-- The token was not tested yet. -/
def StreamingStage.isEarly : StreamingStage → Bool
  | .running | .selecting _ _ => true
  | _ => false


/-- From here the turn cannot complete if its token is set. -/
def StreamingStage.Withholds : StreamingStage → Prop
  | .settling terminal _ ending =>
    terminal.isCompletion = false ∧ ending.outcome.isDiscard = true
  | .publishing terminal _ | .clearing terminal | .sending terminal => terminal.isCompletion = false
  | _ => True

/-- The turn does not complete once its token is set. -/
structure StreamingTurn.Interruptible (initial : ConversationContext Persona)
    (turn : StreamingTurn Persona) : Prop where
  early : turn.stage.isEarly = true → turn.context = initial ∧ turn.terminal = none
  withheld : turn.externalInterruption = true → turn.stage.Withholds ∧
    initial.quality.Forgets turn.context.quality ∧
    ∀ event ∈ turn.terminal, event.isCompletion = false

/-- An interruption that went past the token has set it. -/
def Interruption.HasCancelled (turn : StreamingTurn Persona) (_ : Nat) : Interruption → Prop
  | .cancellingWork _ | .flushing _ | .returned (.ok _) => turn.externalInterruption = true
  | _ => True

namespace StreamingTurn

variable {initial : ConversationContext Persona} {turn : StreamingTurn Persona}

theorem task_externalInterruption (pipeline : RuntimeEvent × String) (turn : StreamingTurn Persona)
    : (turn.task pipeline).externalInterruption = turn.externalInterruption := by
  unfold task
  split <;> rfl

/-- A set token selects the cancellation, and with it a discard. -/
theorem select_withholds (h : turn.externalInterruption = true) (terminal : RuntimeEvent)
    (generatedText : String) : (turn.select terminal generatedText).Withholds := by
  simp only [select, h, if_true, outcomeOf]
  exact ⟨rfl, rfl⟩

/-- The token is tested once and for all. -/
theorem isEarly_select (terminal : RuntimeEvent) (generatedText : String) :
    (turn.select terminal generatedText).isEarly = false := by
  simp only [select]
  split <;> rfl

theorem task_interruptible (h : turn.Interruptible initial) (pipeline : RuntimeEvent × String) :
    (turn.task pipeline).Interruptible initial := by
  obtain ⟨hearly, hwithheld⟩ := h
  unfold task
  cases hstage : turn.stage with
  | running =>
    rw [hstage] at hearly hwithheld
    exact ⟨fun _ => hearly rfl, fun hset => ⟨trivial, (hwithheld hset).2⟩⟩
  | selecting terminal generatedText =>
    refine ⟨fun hlate => ?_, fun hset => ⟨select_withholds hset _ _, (hwithheld hset).2⟩⟩
    rw [show _ = _ from isEarly_select terminal generatedText] at hlate
    cases hlate
  | settling terminal generatedText ending =>
    rw [hstage] at hwithheld
    -- the call goes on, or its result is known
    cases ending with
    | done outcome identity result =>
      cases result with
      | ok _ => exact ⟨nofun, fun hset => ⟨(hwithheld hset).1.1, (hwithheld hset).2⟩⟩
      | error _ => exact ⟨nofun, fun hset => ⟨rfl, (hwithheld hset).2⟩⟩
    | _ =>
      refine ⟨nofun, fun hset => ?_⟩
      obtain ⟨⟨hterminal, hdiscard⟩, hforgets, hsent⟩ := hwithheld hset
      exact ⟨⟨hterminal, (Ending.step_outcome turn.context _).symm ▸ hdiscard⟩,
        hforgets.trans (Ending.step_forgets turn.context hdiscard), hsent⟩
  | publishing terminal generatedText | clearing terminal =>
    rw [hstage] at hwithheld
    exact ⟨nofun, hwithheld⟩
  | sending terminal =>
    rw [hstage] at hwithheld
    refine ⟨nofun, fun hset => ⟨trivial, (hwithheld hset).2.1, ?_⟩⟩
    intro event hevent
    cases hevent
    exact (hwithheld hset).1
  | ceased => exact ⟨hearly, hwithheld⟩

end StreamingTurn

/-- The interruption sets the token with its next step. -/
def Interruption.isCancelling : Interruption → Bool
  | .cancelling _ => true
  | _ => false

namespace InterruptedTurn

/-- An interruption sets the token before the task tests it. -/
def Prompt (turn : InterruptedTurn Persona) : InterruptedAction → Prop
  | .advance index _ => ∀ interruption ∈ turn.threads[index]?,
      interruption.isCancelling = true → turn.shared.stage.isEarly = true
  | _ => True

instance (turn : InterruptedTurn Persona) (action : InterruptedAction) :
    Decidable (turn.Prompt action) :=
  match action with
  | .task _ => inferInstanceAs (Decidable True)
  | .interrupt _ => inferInstanceAs (Decidable True)
  | .advance index _ => inferInstanceAs (Decidable (∀ interruption ∈ turn.threads[index]?, _))

/-- One step keeps that the turn does not complete once its token is set. -/
theorem step_holds {initial : ConversationContext Persona} {turn : InterruptedTurn Persona}
    {action : InterruptedAction} (hprompt : turn.Prompt action)
    (h : turn.Holds (·.Interruptible initial) Interruption.HasCancelled) :
    (turn.step action).Holds (·.Interruptible initial) Interruption.HasCancelled := by
  cases action with
  | task pipeline =>
    refine ⟨StreamingTurn.task_interruptible h.whole pipeline, ?_⟩
    intro index interruption hinterruption
    have hown := h.own index interruption hinterruption
    unfold Interruption.HasCancelled at hown ⊢
    rw [show (turn.step (.task pipeline)).shared.externalInterruption = _ from
      StreamingTurn.task_externalInterruption pipeline turn.shared]
    exact hown
  | interrupt identity => exact h.spawn trivial
  | advance index flush =>
    apply h.advance index
    intro interruption hinterruption hown
    cases interruption with
    | looking identity =>
      simp only [Interruption.act]
      split
      next => exact ⟨h.whole, trivial, fun _ _ _ _ hmate => hmate⟩
      next =>
        split
        next => exact ⟨h.whole, trivial, fun _ _ _ _ hmate => hmate⟩
        next => exact ⟨h.whole, trivial, fun _ _ _ _ hmate => hmate⟩
    | cancelling generation =>
      -- the task comes to the test with the context as it was
      have hearly := hprompt _ hinterruption rfl
      obtain ⟨hcontext, hterminal⟩ := h.whole.early hearly
      refine ⟨⟨h.whole.early, fun _ => ⟨?_, ?_, ?_⟩⟩, rfl, ?_⟩
      · revert hearly
        simp only [Interruption.act]
        cases turn.shared.stage <;> first | exact fun _ => trivial | exact nofun
      · simp only [Interruption.act, hcontext]
        exact .refl _
      · simp only [Interruption.act, hterminal]
        exact nofun
      · intro other mate _ _ hmate
        cases mate with
        | returned result => cases result <;> trivial
        | _ => trivial
    | cancellingWork generation =>
      exact ⟨⟨h.whole.early, h.whole.withheld⟩, hown, fun _ _ _ _ hmate => hmate⟩
    | flushing generation =>
      simp only [Interruption.act]
      split
      next => exact ⟨h.whole, trivial, fun _ _ _ _ hmate => hmate⟩
      next => exact ⟨h.whole, hown, fun _ _ _ _ hmate => hmate⟩
    | returned result => exact ⟨h.whole, hown, fun _ _ _ _ hmate => hmate⟩

/-- In every run in which no interruption sets the token after the task tested it, a turn with
an accepted interruption does not complete and leaves no exchange. -/
theorem interrupted_turn_not_completed (context : ConversationContext Persona)
    (identity : TurnIdentity) (sessionId : Option SessionId) (actions : List InterruptedAction)
    (hprompt : Along step Prompt (started context identity sessionId) actions)
    (haccepted : .returned (.ok ()) ∈
      (actions.foldl step (started context identity sessionId)).threads) :
    let turn := (actions.foldl step (started context identity sessionId)).shared
    (∀ event ∈ turn.terminal, event.isCompletion = false) ∧
      context.quality.Forgets turn.context.quality := by
  have hholds := hprompt.kept (fun turn action haction
      (h : turn.Holds (·.Interruptible context) Interruption.HasCancelled) => step_holds haction h)
    ⟨⟨fun _ => ⟨rfl, rfl⟩, nofun⟩, fun index thread hthread => by simp [started] at hthread⟩
  obtain ⟨index, hindex⟩ := List.mem_iff_getElem?.mp haccepted
  have hset := hholds.own index _ hindex
  exact ⟨(hholds.whole.withheld hset).2.2, (hholds.whole.withheld hset).2.1⟩

/-! ## Two runs -/

/-- The context in which the turn with this transcript has begun. -/
def begun (transcript : String) : ConversationContext Unit :=
  let resolution : Resolution := ⟨false, .ok ()⟩
  let reserved := (Beginning.reserve transcript).step resolution (.new ())
  (reserved.1.step resolution reserved.2).2

/-- An interruption that goes through. -/
def interrupting (index : Nat) : List InterruptedAction :=
  [.interrupt ⟨1, 1⟩] ++ List.replicate 4 (.advance index (.ok ()))

/-- Steps of the task of a turn that is to complete. -/
def completing (steps : Nat) : List InterruptedAction :=
  List.replicate steps (.task (.turnCompleted 1, "hi"))

/-- The interruption comes while the pipeline runs. -/
theorem interrupted_turn_not_completed_early :
    let turn := ((interrupting 0 ++ completing 9).foldl step
      (started (begun "hello") ⟨1, 1⟩ none)).shared
    turn.terminal = some (.turnCancelled 1) ∧
      (begun "hello").quality.Forgets turn.context.quality :=
  ⟨by decide +kernel, (interrupted_turn_not_completed (begun "hello") ⟨1, 1⟩ none _
    (by decide +kernel) (by decide +kernel)).2⟩

/-- The interruption comes after the token was tested and before the slot is cleared: it is
accepted, and the turn completes with its exchange in the history. -/
theorem interrupted_turn_completes :
    let turn := (completing 2 ++ interrupting 0 ++ completing 7).foldl step
      (started (begun "hello") ⟨1, 1⟩ none)
    turn.threads = [.returned (.ok ())] ∧ turn.shared.terminal = some (.turnCompleted 1) ∧
    turn.shared.context.quality.history.map (fun exchange : CompletedExchange =>
      (exchange.turnId, exchange.user.text, exchange.assistant.text)) =
      [(some 1, "hello", "hi")] := by
  decide +kernel

end InterruptedTurn

end ConversationRuntime
