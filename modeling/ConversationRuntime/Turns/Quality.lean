import ConversationRuntime.Foundation.Fallible
import ConversationRuntime.Foundation.Text
import ConversationRuntime.Voice.Events

/-! # The history of completed turns

The quality controller holds the turn that was resolved last and not yet ended, and
the exchanges of the turns that were completed. An exchange carries the turn that it
was completed by, which the program does not store.
-/

namespace ConversationRuntime

open Foundation Fallible List

def maxHistoryMessageCount : Nat := 32

def maxHistoryExchanges : Nat := maxHistoryMessageCount / 2

def maxHistoryBytes : Nat := 32 * 1024

def maxConversationMessageBytes : Nat := 16 * 1024

def qualityError (message : String) : RuntimeError := ⟨.configuration, .runtime, message⟩

/-- A message of a conversation; one that is blank or too long cannot be built. -/
@[ext] structure ConversationMessage where
  text : String
  notBlank : isBlank text = false
  bounded : text.utf8ByteSize ≤ maxConversationMessageBytes

instance : DecidableEq ConversationMessage :=
  fun left right => decidable_of_iff (left.text = right.text) ConversationMessage.ext_iff.symm

def ConversationMessage.new (text : String) : Except RuntimeError ConversationMessage :=
  if hblank : isBlank text = true then
    .error (qualityError "conversation message must not be empty")
  else if hlong : maxConversationMessageBytes < text.utf8ByteSize then
    .error (qualityError "conversation message exceeds 16 KiB")
  else .ok ⟨text, isBlank_eq_false hblank, Nat.le_of_not_lt hlong⟩

/-- A message that is neither blank nor too long can be built. -/
theorem ConversationMessage.new_of_fits {text : String} (hblank : isBlank text = false)
    (hbound : text.utf8ByteSize ≤ maxConversationMessageBytes) :
    ConversationMessage.new text = .ok ⟨text, hblank, hbound⟩ := by
  unfold ConversationMessage.new
  rw [dif_neg (by rw [hblank]; exact Bool.false_ne_true), dif_neg (Nat.not_lt.mpr hbound)]

structure ConversationContextExchange where
  user : String
  assistant : String
deriving DecidableEq

structure CompletedExchange where
  /-- The turn that was completed; none for an exchange put in from outside. -/
  turnId : Option TurnId
  user : ConversationMessage
  assistant : ConversationMessage
  bytes : Nat
deriving DecidableEq

structure PendingTurn where
  turnId : TurnId
  user : ConversationMessage
deriving DecidableEq

/-- The controller. A persona stands for the profile together with its mode. -/
structure ConversationQualityController (Persona : Type) where
  savedPersona : Persona
  history : List CompletedExchange
  historyBytes : Nat
  pendingTurn : Option PendingTurn
  interruptionPending : Bool
  /-- The turns whose exchange was appended, which the program does not keep. -/
  recorded : List TurnId
deriving DecidableEq

/-- What the transcript and the controls made of it decide about a turn: whether it
leaves the topic, and whether its decision could be made. -/
structure Resolution where
  topicChanged : Bool
  decision : Except RuntimeError Unit
deriving DecidableEq

namespace ConversationQualityController

variable {Persona : Type}

def new (persona : Persona) : ConversationQualityController Persona :=
  ⟨persona, [], 0, none, false, []⟩

/-- A program over the controller. -/
abbrev Quality (Persona α : Type) : Type :=
  Fallible (ConversationQualityController Persona) RuntimeError α

def clearHistory (controller : ConversationQualityController Persona) :
    ConversationQualityController Persona :=
  { controller with history := [], historyBytes := 0 }

def stillPending : RuntimeError := runtimeError "a quality-controlled turn is still pending"

/-- One exchange of a history that is put in from outside. -/
def seedExchange (exchange : ConversationContextExchange) : Except RuntimeError CompletedExchange :=
  match ConversationMessage.new exchange.user with
  | .error error => .error error
  | .ok user =>
    match ConversationMessage.new exchange.assistant with
    | .error error => .error error
    | .ok assistant =>
      .ok ⟨none, user, assistant, user.text.utf8ByteSize + assistant.text.utf8ByteSize⟩

/-- The loop that checks the exchanges and adds up their bytes. -/
def seedExchanges : List ConversationContextExchange → Nat →
    Except RuntimeError (List CompletedExchange × Nat)
  | [], bytes => .ok ([], bytes)
  | exchange :: rest, bytes =>
    match seedExchange exchange with
    | .error error => .error error
    | .ok completed =>
      if maxHistoryBytes < bytes + completed.bytes then
        .error (runtimeError "completed history exceeded 32768 UTF-8 bytes")
      else
        match seedExchanges rest (bytes + completed.bytes) with
        | .error error => .error error
        | .ok (seeded, total) => .ok (completed :: seeded, total)

def replaceCompletedHistory (exchanges : List ConversationContextExchange) :
    Quality Persona Unit := do
  let controller ← read
  require (controller.pendingTurn = none) stillPending
  require (exchanges ≠ [] ∧ exchanges.length ≤ maxHistoryExchanges)
    (runtimeError "completed history must contain between one and 16 exchanges")
  let (history, historyBytes) ← lift (seedExchanges exchanges 0)
  update fun controller => { controller with history, historyBytes }

/-- A change of the persona starts over; `controls` says whether it has valid ones. -/
def setPersona [DecidableEq Persona] (persona : Persona) (controls : Except RuntimeError Unit) :
    Quality Persona Unit := do
  let controller ← read
  require (controller.pendingTurn = none) stillPending
  lift controls
  update fun controller =>
    let changed := { controller with savedPersona := persona }
    if controller.savedPersona = persona then changed else changed.clearHistory

/-- Resolve a turn; the answer says whether there was anything to resolve. -/
def resolveTurn (turnId : TurnId) (transcript : String) (resolution : Resolution) :
    Quality Persona Bool := do
  let controller ← read
  require (controller.pendingTurn = none) stillPending
  if isBlank transcript then pure false
  else do
    let user ← lift (ConversationMessage.new transcript)
    update fun controller => { controller with interruptionPending := false }
    onlyIf resolution.topicChanged (update clearHistory)
    lift resolution.decision
    update fun controller => { controller with pendingTurn := some ⟨turnId, user⟩ }
    pure true

def takePending (turnId : TurnId) : Quality Persona PendingTurn := do
  let controller ← read
  match controller.pendingTurn with
  | none => fail (runtimeError "there is no pending quality-controlled turn")
  | some pending =>
    if pending.turnId = turnId then do
      update fun controller => { controller with pendingTurn := none }
      pure pending
    else
      let active := pending.turnId
      fail (runtimeError s!"quality turn {active} is pending, not turn {turnId}")

/-- Drop the oldest exchanges until the history keeps its bounds. -/
def enforceHistoryBounds : List CompletedExchange → Nat → List CompletedExchange × Nat
  | [], bytes => ([], bytes)
  | oldest :: rest, bytes =>
    if maxHistoryExchanges < (oldest :: rest).length ∨ maxHistoryBytes < bytes then
      enforceHistoryBounds rest (bytes - oldest.bytes)
    else (oldest :: rest, bytes)

/-- Append the exchange of a turn. -/
def append (pending : PendingTurn) (assistant : ConversationMessage)
    (controller : ConversationQualityController Persona) : ConversationQualityController Persona :=
  let bytes := pending.user.text.utf8ByteSize + assistant.text.utf8ByteSize
  let bounded := enforceHistoryBounds
    (controller.history ++ [⟨some pending.turnId, pending.user, assistant, bytes⟩])
    (controller.historyBytes + bytes)
  { controller with
    history := bounded.1, historyBytes := bounded.2
    recorded := controller.recorded ++ [pending.turnId] }

/-- Keep the exchange of a turn; one that is too long for the history is passed over. -/
def keepExchange (pending : PendingTurn) (assistantOutput : String) : Quality Persona Unit :=
  if maxHistoryBytes < assistantOutput.utf8ByteSize then pure ()
  else do
    let assistant ← lift (ConversationMessage.new assistantOutput)
    if maxHistoryBytes < pending.user.text.utf8ByteSize + assistant.text.utf8ByteSize then pure ()
    else update (append pending assistant)

def completeTurn (turnId : TurnId) (assistantOutput : String) : Quality Persona Unit := do
  let pending ← takePending turnId
  keepExchange pending assistantOutput

def discardTurn (turnId : TurnId) : Quality Persona Unit := do
  let _ ← takePending turnId
  pure ()

def interruptTurn (turnId : TurnId) : Quality Persona Unit := do
  let _ ← takePending turnId
  update fun controller => { controller with interruptionPending := true }

/-! ## What the operations do -/

/-- The pending turn is taken by its identifier only. -/
theorem takePending_cases (controller : ConversationQualityController Persona) (turnId : TurnId) :
    (∃ pending, controller.pendingTurn = some pending ∧ pending.turnId = turnId ∧
      takePending turnId controller = (.ok pending, { controller with pendingTurn := none })) ∨
    (∀ pending, controller.pendingTurn = some pending → pending.turnId ≠ turnId) ∧
      ∃ error, takePending turnId controller = (.error error, controller) := by
  cases hpending : controller.pendingTurn with
  | none =>
    right
    exact ⟨fun _ h => (Option.some_ne_none _ h.symm).elim, _, by
      simp only [takePending, read_bind, hpending]; rfl⟩
  | some pending =>
    by_cases hturn : pending.turnId = turnId
    · left
      exact ⟨pending, rfl, hturn, by
        simp only [takePending, read_bind, hpending, hturn, if_true]; rfl⟩
    · right
      refine ⟨?_, _, by simp only [takePending, read_bind, hpending, hturn, if_false]; rfl⟩
      intro other hother
      cases hother
      exact hturn

/-- A message that could be built is the text it was built from. -/
theorem new_eq_ok {text : String} {message : ConversationMessage}
    (h : ConversationMessage.new text = .ok message) : message.text = text := by
  unfold ConversationMessage.new at h
  split at h
  next => cases h
  next =>
    split at h
    next => cases h
    next =>
      cases h
      rfl

/-- Two messages always fit, so only an answer too long to be a message at all is passed
over in silence. -/
theorem keepExchange_cases (pending : PendingTurn) (assistantOutput : String)
    (controller : ConversationQualityController Persona) :
    (maxHistoryBytes < assistantOutput.utf8ByteSize ∧
      keepExchange pending assistantOutput controller = (.ok (), controller)) ∨
    (∃ assistant, ConversationMessage.new assistantOutput = .ok assistant ∧
      keepExchange pending assistantOutput controller =
        (.ok (), controller.append pending assistant)) ∨
    ∃ error, ConversationMessage.new assistantOutput = .error error ∧
      keepExchange pending assistantOutput controller = (.error error, controller) := by
  unfold keepExchange
  split
  next hlong => exact .inl ⟨hlong, rfl⟩
  next =>
    right
    cases hmessage : ConversationMessage.new assistantOutput with
    | error error => exact .inr ⟨error, rfl, rfl⟩
    | ok assistant =>
      left
      have hfits : ¬ maxHistoryBytes < pending.user.text.utf8ByteSize +
          assistant.text.utf8ByteSize := by
        have huser := pending.user.bounded
        have hassistant := assistant.bounded
        simp only [maxConversationMessageBytes] at huser hassistant
        simp only [maxHistoryBytes]
        omega
      refine ⟨assistant, rfl, ?_⟩
      rw [bind_of_ok (show lift (.ok assistant) controller = _ from rfl), if_neg hfits]
      rfl

/-- What is left of a history is part of it. -/
theorem mem_of_mem_enforceHistoryBounds {history : List CompletedExchange} {bytes : Nat}
    {exchange : CompletedExchange} (h : exchange ∈ (enforceHistoryBounds history bytes).1) :
    exchange ∈ history := by
  induction history generalizing bytes with
  | nil => exact h
  | cons oldest rest ih =>
    unfold enforceHistoryBounds at h
    split at h
    next => exact mem_cons_of_mem _ (ih h)
    next => exact h

/-- The turn is no longer pending, and its exchange was appended if it fits the history. -/
def CompletesWell (controller : ConversationQualityController Persona) (pending : PendingTurn)
    (assistantOutput : String) : Prop :=
  let taken := { controller with pendingTurn := none }
  let completed := completeTurn pending.turnId assistantOutput controller
  if pending.user.text.utf8ByteSize + assistantOutput.utf8ByteSize ≤ maxHistoryBytes then
    ∃ assistant : ConversationMessage, assistant.text = assistantOutput ∧
      completed = (.ok (), taken.append pending assistant)
  else completed = (.ok (), taken)

variable {controller : ConversationQualityController Persona} {pending : PendingTurn}

theorem not_completesWell {output : String} {error : RuntimeError}
    {after : ConversationQualityController Persona}
    (h : completeTurn pending.turnId output controller = (.error error, after)) :
    ¬ controller.CompletesWell pending output := by
  simp [CompletesWell, h]

section

variable (hpending : controller.pendingTurn = some pending)
include hpending

theorem completeTurn_of_pending (output : String) : completeTurn pending.turnId output controller =
      keepExchange pending output { controller with pendingTurn := none } := by
  rcases takePending_cases controller pending.turnId with ⟨taken, htaken, -, hrun⟩ | ⟨hother, -⟩
  · rw [hpending] at htaken
    cases htaken
    exact bind_of_ok hrun
  · exact absurd rfl (hother pending hpending)

/-- An answer too long for a message but not for the history is an error. -/
theorem completeTurn_of_long (output : String)
    (hlong : maxConversationMessageBytes < output.utf8ByteSize)
    (hfits : output.utf8ByteSize ≤ maxHistoryBytes) :
    ∃ error, completeTurn pending.turnId output controller =
      (.error error, { controller with pendingTurn := none }) := by
  rw [completeTurn_of_pending hpending]
  rcases keepExchange_cases pending output { controller with pendingTurn := none } with
    ⟨hover, -⟩ | ⟨assistant, hnew, -⟩ | ⟨error, -, hrun⟩
  · omega
  · have hbounded := assistant.bounded
    rw [new_eq_ok hnew] at hbounded
    omega
  · exact ⟨error, hrun⟩

/-- A pending turn is completed well exactly when its answer is short enough for a message,
or too long for the history altogether. -/
theorem completes_well_iff {output : String} (hspoken : isBlank output = false) :
    controller.CompletesWell pending output ↔
      output.utf8ByteSize ≤ maxConversationMessageBytes ∨
        maxHistoryBytes < output.utf8ByteSize := by
  have huser := pending.user.bounded
  simp only [maxConversationMessageBytes] at huser
  constructor
  · intro hwell
    by_contra hbetween
    rw [not_or, Nat.not_le, Nat.not_lt] at hbetween
    obtain ⟨error, hrun⟩ := completeTurn_of_long hpending output hbetween.1 hbetween.2
    exact not_completesWell hrun hwell
  · intro hlength
    unfold CompletesWell
    rw [completeTurn_of_pending hpending]
    rcases hlength with hshort | hlong
    · have hnew := ConversationMessage.new_of_fits hspoken hshort
      rcases keepExchange_cases pending output { controller with pendingTurn := none } with
        ⟨hover, -⟩ | ⟨assistant, hmessage, hrun⟩ | ⟨error, hmessage, -⟩
      · simp only [maxConversationMessageBytes, maxHistoryBytes] at hshort hover
        omega
      · simp only [maxConversationMessageBytes] at hshort
        rw [if_pos (by simp only [maxHistoryBytes]; omega)]
        exact ⟨assistant, new_eq_ok hmessage, hrun⟩
      · rw [hnew] at hmessage
        cases hmessage
    · rw [if_neg (by omega), keepExchange, if_pos hlong]
      rfl

end

/-- A turn that was resolved from a greeting. -/
def greeted : ConversationQualityController Unit :=
  (resolveTurn 1 "Hello." ⟨false, .ok ()⟩ (new ())).2

theorem completes_well_greeting :
    greeted.CompletesWell ⟨1, ⟨"Hello.", by decide, by decide⟩⟩ "Hello." :=
  (completes_well_iff rfl (by decide)).mpr (.inl (by decide))

/-- A long answer to a greeting is lost with its turn. -/
theorem long_answer_fails :
    ¬ greeted.CompletesWell ⟨1, ⟨"Hello.", by decide, by decide⟩⟩
      (String.ofList (List.replicate 16385 'a')) := by
  have hsize : ∀ count, (String.ofList (replicate count 'a')).utf8ByteSize = count := by
    intro count
    induction count with
    | zero => rfl
    | succ count ih =>
      rw [replicate_succ, String.ofList_cons, String.utf8ByteSize_append, ih, Nat.add_comm]
      rfl
  have hpending : greeted.pendingTurn = some ⟨1, ⟨"Hello.", by decide, by decide⟩⟩ := rfl
  obtain ⟨error, hrun⟩ := completeTurn_of_long hpending
    (String.ofList (replicate 16385 'a')) (by rw [hsize]; decide) (by rw [hsize]; decide)
  exact not_completesWell hrun

end ConversationQualityController

end ConversationRuntime
