import ConversationRuntime.Foundation.Threads
import ConversationRuntime.Turns.Sections

/-! # Text turns

A client starts text turns and interrupts them. Starting a turn begins it in the shared
context, takes the slot of the active turn and spawns a task; the task streams the
answer of the language model, claims the completion under the lock of the slot, ends the
turn in the context, clears the slot and sends the terminal event. Every await between
two of these is a place where other starts and interruptions come in.
-/

namespace ConversationRuntime

open Foundation

def adapterRuntimeError (stage : RuntimeStage) (error : AdapterError) : RuntimeError :=
  ⟨.adapter, stage, error.message⟩

def languageError (message : String) : RuntimeError := adapterRuntimeError .languageModel ⟨message⟩

/-- Where `run_text_turn` waits. -/
inductive TextRun where
  | resolving
  | retrieving
  | publishingMemory
  | requesting
  | streaming (generatedText : String) (emittedFirstText : Bool)
  | publishingDelta (generatedText : String) (emittedFirstText : Bool) (delta : String)
deriving DecidableEq

/-- How far a started turn has come. The stages up to `refused` are those of `start_turn`. -/
inductive TextStage where
  | beginning (stage : Beginning)
  | admitting (identity : TurnIdentity)
  | preparing (identity : TurnIdentity)
  | abandoning (identity : TurnIdentity) (admitted : Bool) (error : RuntimeError) (ending : Ending)
  | releasing (identity : TurnIdentity) (error : RuntimeError)
  | refused (error : RuntimeError)
  | running (identity : TurnIdentity) (run : TextRun)
  | claiming (identity : TurnIdentity) (terminal : RuntimeEvent) (generatedText : String)
  | selecting (identity : TurnIdentity) (terminal : RuntimeEvent) (generatedText : String)
      (completed : Bool)
  | settling (identity : TurnIdentity) (terminal : RuntimeEvent) (generatedText : String)
      (ending : Ending)
  | publishing (identity : TurnIdentity) (terminal : RuntimeEvent) (generatedText : String)
  | clearing (identity : TurnIdentity) (terminal : RuntimeEvent)
  | sending (identity : TurnIdentity) (terminal : RuntimeEvent)
  | ceased (identity : TurnIdentity) (terminal : RuntimeEvent)
deriving DecidableEq

/-- A turn with what it has published. -/
structure TextTurn where
  transcript : String
  /-- Whether the context has a memory provider. -/
  remembers : Bool
  events : List RuntimeEvent
  terminals : List RuntimeEvent
  stage : TextStage
deriving DecidableEq

structure ActiveTextTurn where
  identity : TurnIdentity
  finalizing : Bool
deriving DecidableEq

/-- What the turns of one runtime share. The tokens of a turn are set together, under the
lock of the slot. Which call began a turn and which turns were claimed is not kept by
the program. -/
structure TextBoard (Persona : Type) where
  context : ConversationContext Persona
  active : Option ActiveTextTurn
  interrupted : List TurnId
  claimed : List TurnId
  owners : List (Nat × TurnId)

/-- What a waiting turn goes on with. -/
inductive TextInput where
  | ready (resolution : Resolution) (elapsedMs : Nat)
  | closed
  | failed (error : RuntimeError)
  | delta (identity : TurnIdentity) (text : String)
  | finished
deriving DecidableEq

variable {Persona : Type}

namespace TextTurn

variable (turn : TextTurn) (identity : TurnIdentity)

/-- `run_text_turn` returned. -/
def outcome (terminal : RuntimeEvent) (generatedText : String) : TextTurn :=
  { turn with stage := .claiming identity terminal generatedText }

def cancelledOutcome (generatedText : String) : TextTurn :=
  turn.outcome identity (.turnCancelled identity.turnId) generatedText

def failedOutcome (error : RuntimeError) (generatedText : String) : TextTurn :=
  turn.outcome identity (.turnFailed identity.turnId error) generatedText

/-- The consumer of the events is gone; what was generated is dropped. -/
def closedOutcome (message : String) : TextTurn :=
  turn.failedOutcome identity (runtimeError message) ""

def publish (events : List RuntimeEvent) (stage : TextStage) : TextTurn :=
  { turn with events := turn.events ++ events, stage }

def maximumResponseBytes : Nat :=
  maxConversationMessageBytes - turn.transcript.utf8ByteSize

/-- An item of the language model. -/
def receive (generatedText : String) (emittedFirstText : Bool) : TextInput → TextTurn
  | .closed => turn.closedOutcome identity "text event consumer closed during generation"
  | .failed error => turn.failedOutcome identity error generatedText
  | .finished =>
    if isBlank generatedText then
      turn.failedOutcome identity (languageError "generation language response is empty")
        generatedText
    else turn.outcome identity (.turnCompleted identity.turnId) generatedText
  | .delta author text =>
    if author ≠ identity then
      turn.failedOutcome identity (languageError "generation language delta identity mismatch")
        generatedText
    else if turn.maximumResponseBytes - generatedText.utf8ByteSize < text.utf8ByteSize then
      turn.failedOutcome identity
        (languageError "generation language response exceeds the completed history limit")
        generatedText
    else
      { turn with
        stage := .running identity (.publishingDelta generatedText emittedFirstText text) }
  | .ready _ _ => turn

/-- One step of `run_text_turn`. Each wait looks at the token first. -/
def run (interrupted : Bool) (input : TextInput) : TextRun → TextTurn
  | .resolving =>
    if interrupted then turn.cancelledOutcome identity ""
    else match input with
      | .closed =>
        turn.closedOutcome identity "text event consumer closed during quality resolution"
      | .ready _ _ => turn.publish [.qualityResolved identity.turnId]
          (.running identity (if turn.remembers then .retrieving else .requesting))
      | _ => turn
  | .retrieving =>
    if interrupted then turn.cancelledOutcome identity ""
    else match input with
      | .closed => turn.closedOutcome identity "text event consumer closed during memory retrieval"
      | .failed error => turn.failedOutcome identity error ""
      | .ready _ _ => { turn with stage := .running identity .publishingMemory }
      | _ => turn
  | .publishingMemory =>
    if interrupted then turn.cancelledOutcome identity ""
    else match input with
      | .closed =>
        turn.closedOutcome identity "text event consumer closed during memory publication"
      | .ready _ _ =>
        turn.publish [.memoryRetrieved identity.turnId] (.running identity .requesting)
      | _ => turn
  | .requesting =>
    match input with
    | .failed error => turn.failedOutcome identity error ""
    | _ =>
      if interrupted then turn.cancelledOutcome identity ""
      else { turn with stage := .running identity (.streaming "" false) }
  | .streaming generatedText emittedFirstText =>
    if interrupted then turn.cancelledOutcome identity generatedText
    else turn.receive identity generatedText emittedFirstText input
  | .publishingDelta generatedText emittedFirstText delta =>
    if interrupted then turn.cancelledOutcome identity generatedText
    else match input with
      | .closed => turn.closedOutcome identity "text event consumer closed during text publication"
      | .ready _ elapsedMs => turn.publish
          (.textDelta identity.turnId delta ::
            if emittedFirstText then [] else [.timing identity.turnId .firstTextDelta elapsedMs])
          (.running identity (.streaming (generatedText ++ delta) true))
      | _ => turn

end TextTurn

namespace TextBoard

def new (persona : Persona) : TextBoard Persona := ⟨.new persona, none, [], [], []⟩

/-- Note which call a turn was handed out to. -/
def noteOwner (board : TextBoard Persona) (index : Nat) (context : ConversationContext Persona) :
    TextBoard Persona :=
  let owners :=
    if context.lifecycle.sequence = board.context.lifecycle.sequence then board.owners
    else board.owners ++ [(index, context.lifecycle.sequence)]
  { board with context, owners }

/-- Clear the slot if it is still this turn's. -/
def release (board : TextBoard Persona) (identity : TurnIdentity) : TextBoard Persona :=
  if board.active.map (·.identity) = some identity then { board with active := none } else board

/-- Claim the completion under the lock of the slot. -/
def claimCompletion (board : TextBoard Persona) (identity : TurnIdentity) :
    Bool × TextBoard Persona :=
  if board.active = some ⟨identity, false⟩ ∧ identity.turnId ∉ board.interrupted then
    (true,
      { board with active := some ⟨identity, true⟩, claimed := board.claimed ++ [identity.turnId] })
  else (false, board)

end TextBoard

namespace TextTurn

/-- The call that the terminal event asks for. -/
def settlement (identity : TurnIdentity) (terminal : RuntimeEvent) (generatedText : String) :
    TextStage :=
  match terminal with
  | .turnCompleted _ =>
    .settling identity terminal generatedText (.claim (.complete generatedText) identity)
  | .turnCancelled _ =>
    .settling identity terminal generatedText (.claim (.discard true) identity)
  | .turnFailed _ _ =>
    .settling identity terminal generatedText (.claim (.discard false) identity)
  | _ => .publishing identity (.turnFailed identity.turnId
      (runtimeError "text turn produced a nonterminal result")) generatedText

/-- Give up a turn that was begun and cannot be started. -/
def abandon (turn : TextTurn) (identity : TurnIdentity) (admitted : Bool) (error : RuntimeError) :
    TextTurn :=
  { turn with stage := .abandoning identity admitted error (.claim (.discard false) identity) }

/-- The next step of the call at `index`. -/
def act (index : Nat) (input : TextInput) (turn : TextTurn) (board : TextBoard Persona) :
    TextTurn × TextBoard Persona :=
  match turn.stage with
  | .beginning (.done (.ok identity)) => ({ turn with stage := .admitting identity }, board)
  | .beginning (.done (.error error)) => ({ turn with stage := .refused error }, board)
  | .beginning stage =>
    let resolution : Resolution := match input with
      | .ready resolution _ => resolution
      | .failed error => ⟨false, .error error⟩
      | _ => ⟨false, .ok ()⟩
    let ran := stage.step resolution board.context
    ({ turn with stage := .beginning ran.1 }, board.noteOwner index ran.2)
  | .admitting identity =>
    match board.active with
    | none =>
      ({ turn with stage := .preparing identity }, { board with active := some ⟨identity, false⟩ })
    | some active =>
      (turn.abandon identity false (stillActive active.identity), board)
  | .preparing identity =>
    match input with
    | .failed error =>
      (turn.abandon identity true error, board)
    | _ => (turn.publish [.turnStarted identity.turnId] (.running identity .resolving), board)
  | .abandoning identity admitted error (.done _ _ _) =>
    ({ turn with stage := if admitted then .releasing identity error else .refused error }, board)
  | .abandoning identity admitted error ending =>
    let ran := ending.step board.context
    ({ turn with stage := .abandoning identity admitted error ran.1 },
      { board with context := ran.2 })
  | .releasing identity error => ({ turn with stage := .refused error }, board.release identity)
  | .refused _ => (turn, board)
  | .running identity run =>
    (turn.run identity (decide (identity.turnId ∈ board.interrupted)) input run, board)
  | .claiming identity terminal generatedText =>
    match terminal with
    | .turnCompleted _ =>
      let ran := board.claimCompletion identity
      ({ turn with stage := .selecting identity terminal generatedText ran.1 }, ran.2)
    | _ => ({ turn with stage := .selecting identity terminal generatedText false }, board)
  | .selecting identity terminal generatedText completed =>
    let terminal :=
      if completed then terminal
      else if identity.turnId ∈ board.interrupted then .turnCancelled identity.turnId
      else terminal
    ({ turn with stage := settlement identity terminal generatedText }, board)
  | .settling identity terminal generatedText (.done _ _ (.ok ())) =>
    ({ turn with stage := .publishing identity terminal generatedText }, board)
  | .settling identity _ generatedText (.done _ _ (.error error)) =>
    ({ turn with stage := .publishing identity (.turnFailed identity.turnId error) generatedText },
      board)
  | .settling identity terminal generatedText ending =>
    let ran := ending.step board.context
    ({ turn with stage := .settling identity terminal generatedText ran.1 },
      { board with context := ran.2 })
  | .publishing identity terminal generatedText =>
    -- a consumer that is gone misses the text
    let events :=
      match terminal, input with
      | .turnCompleted _, .closed => []
      | .turnCompleted _, _ => [.textCompleted identity.turnId generatedText]
      | _, _ => []
    (turn.publish events (.clearing identity terminal), board)
  | .clearing identity terminal =>
    ({ turn with stage := .sending identity terminal }, board.release identity)
  | .sending identity terminal =>
    ({ turn with terminals := turn.terminals ++ [terminal], stage := .ceased identity terminal },
      board)
  | .ceased _ _ => (turn, board)

end TextTurn

/-! ## Starts and interruptions of one runtime -/

inductive TextCall where
  | turn (started : TextTurn)
  | interrupt (turnId : TurnId)
  | interrupted (turnId : TurnId) (result : Except RuntimeError Unit)
deriving DecidableEq

def TextBoard.interrupt (board : TextBoard Persona) (turnId : TurnId) :
    Except RuntimeError Unit × TextBoard Persona :=
  match board.active with
  | none => (.error (runtimeError "there is no active text generation"), board)
  | some active =>
    if active.identity.turnId = turnId then
      if active.finalizing then (.ok (), board)
      else (.ok (), { board with interrupted := board.interrupted ++ [turnId] })
    else
      let other := active.identity.turnId
      (.error (runtimeError s!"turn {other} is active, not turn {turnId}"), board)

def TextCall.act (index : Nat) (input : TextInput) (call : TextCall) (board : TextBoard Persona) :
    TextCall × TextBoard Persona :=
  match call with
  | .turn started =>
    let ran := started.act index input board
    (.turn ran.1, ran.2)
  | .interrupt turnId =>
    let ran := board.interrupt turnId
    (.interrupted turnId ran.1, ran.2)
  | .interrupted turnId result => (.interrupted turnId result, board)

abbrev TextCalls (Persona : Type) : Type := Pool (TextBoard Persona) TextCall

inductive TextAction where
  | start (transcript : String) (remembers : Bool)
  | interrupt (turnId : TurnId)
  | advance (index : Nat) (input : TextInput)
deriving DecidableEq

namespace TextCalls

def new (persona : Persona) : TextCalls Persona := ⟨.new persona, []⟩

def step (calls : TextCalls Persona) : TextAction → TextCalls Persona
  | .start transcript remembers =>
    calls.spawn (.turn ⟨transcript, remembers, [], [], .beginning (.reserve transcript)⟩)
  | .interrupt turnId => calls.spawn (.interrupt turnId)
  | .advance index input => calls.advance (TextCall.act index input) index

end TextCalls

end ConversationRuntime
