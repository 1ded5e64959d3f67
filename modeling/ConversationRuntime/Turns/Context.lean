import ConversationRuntime.Turns.Quality

/-! # The conversation context

The context keeps two locked states, the lifecycle of the active turn and the quality
controller, and its calls take the locks one after another. A call is therefore the
chain of its sections, each run under one lock, and the places between two sections
are where other calls can come in.
-/

namespace ConversationRuntime

open Foundation Fallible

structure AppliedContextSeed where
  operationId : String
  exchanges : List ConversationContextExchange
deriving DecidableEq

structure ActiveConversationTurn where
  identity : TurnIdentity
  finalizing : Bool
deriving DecidableEq

structure ConversationLifecycle where
  sequence : Nat
  active : Option ActiveConversationTurn
  lastSeed : Option AppliedContextSeed
deriving DecidableEq

def stillActive (identity : TurnIdentity) : RuntimeError :=
  let turn := identity.turnId
  let generation := identity.generationId
  runtimeError s!"turn {turn} generation {generation} is still active"

def otherActive (active identity : TurnIdentity) : RuntimeError :=
  let turn := active.turnId
  let generation := active.generationId
  let otherTurn := identity.turnId
  let otherGeneration := identity.generationId
  runtimeError (s!"turn {turn} generation {generation} is active, " ++
    s!"not turn {otherTurn} generation {otherGeneration}")

namespace ConversationLifecycle

/-- A program over the lifecycle. -/
abbrev Lifecycle (α : Type) : Type := Fallible ConversationLifecycle RuntimeError α

/-- The active turn has this identity. -/
def Owns (lifecycle : ConversationLifecycle) (identity : TurnIdentity) : Prop :=
  lifecycle.active.map (·.identity) = some identity

instance (lifecycle : ConversationLifecycle) (identity : TurnIdentity) :
    Decidable (lifecycle.Owns identity) := inferInstanceAs (Decidable (_ = _))

def clear (lifecycle : ConversationLifecycle) : ConversationLifecycle :=
  { lifecycle with active := none }

def reserveTurn : Lifecycle TurnIdentity := do
  let lifecycle ← read
  match lifecycle.active with
  | some active => fail (stillActive active.identity)
  | none => do
    require (lifecycle.sequence + 1 < 2 ^ 64) (runtimeError "conversation turn sequence overflow")
    let sequence := lifecycle.sequence + 1
    let identity : TurnIdentity := ⟨sequence, sequence⟩
    update fun lifecycle => { lifecycle with sequence, active := some ⟨identity, false⟩ }
    pure identity

/-- Claim the active turn. The answer says that it was claimed before and is reclaimed. -/
def beginOutcome (identity : TurnIdentity) (reclaimInterrupted : Bool) : Lifecycle Bool := do
  let lifecycle ← read
  match lifecycle.active with
  | none => fail (runtimeError "there is no active conversation turn")
  | some active =>
    if active.identity = identity then
      if active.finalizing = false then do
        update fun lifecycle => { lifecycle with active := some ⟨active.identity, true⟩ }
        pure false
      else if reclaimInterrupted then pure true
      else fail (runtimeError "conversation turn outcome is already being finalized")
    else fail (otherActive active.identity identity)

/-- End the claimed turn with the result of its quality step. -/
def finishOutcome (identity : TurnIdentity) : Except RuntimeError Unit → Lifecycle Unit
  | .ok () => do
    let lifecycle ← read
    require (lifecycle.active = some ⟨identity, true⟩)
      (runtimeError "conversation turn ownership changed during finalization")
    update clear
  | .error error => do
    let lifecycle ← read
    onlyIf (lifecycle.Owns identity) (update clear)
    fail error

def releaseTurn (identity : TurnIdentity) (lifecycle : ConversationLifecycle) :
    ConversationLifecycle :=
  if lifecycle.Owns identity then lifecycle.clear else lifecycle

/-! ## What the operations do -/

variable (lifecycle : ConversationLifecycle)

/-- A turn is handed out when none is active, and has the next number. -/
theorem reserveTurn_cases : (∃ error, reserveTurn lifecycle = (.error error, lifecycle)) ∨
    lifecycle.active = none ∧
      let identity : TurnIdentity := ⟨lifecycle.sequence + 1, lifecycle.sequence + 1⟩
      reserveTurn lifecycle = (.ok identity,
        { lifecycle with
          sequence := lifecycle.sequence + 1, active := some ⟨identity, false⟩ }) := by
  cases hactive : lifecycle.active with
  | some active =>
    left
    exact ⟨_, by simp only [reserveTurn, read_bind, hactive]; rfl⟩
  | none =>
    by_cases hbound : lifecycle.sequence + 1 < 2 ^ 64
    · right
      refine ⟨rfl, ?_⟩
      simp only [reserveTurn, read_bind, hactive]
      rw [bind_of_ok (require_of_true hbound _)]
      rfl
    · left
      exact ⟨_, by
        simp only [reserveTurn, read_bind, hactive]
        exact bind_of_error (require_of_false hbound _)⟩

/-- A turn is claimed by its identity only, and reclaimed only where that is asked for. -/
theorem beginOutcome_cases (identity : TurnIdentity) (reclaim : Bool) :
    (∃ error, lifecycle.active ≠ some ⟨identity, false⟩ ∧
      beginOutcome identity reclaim lifecycle = (.error error, lifecycle)) ∨
    (lifecycle.active = some ⟨identity, false⟩ ∧ beginOutcome identity reclaim lifecycle =
      (.ok false, { lifecycle with active := some ⟨identity, true⟩ })) ∨
    (reclaim = true ∧ lifecycle.active = some ⟨identity, true⟩ ∧
      beginOutcome identity reclaim lifecycle = (.ok true, lifecycle)) := by
  unfold beginOutcome
  rw [read_bind]
  cases hactive : lifecycle.active with
  | none => exact .inl ⟨_, nofun, rfl⟩
  | some active =>
    obtain ⟨owner, finalizing⟩ := active
    by_cases howner : owner = identity
    · subst howner
      cases finalizing with
      | false =>
        right; left
        exact ⟨rfl, by simp only [if_true]; rfl⟩
      | true =>
        cases reclaim with
        | true =>
          right; right
          exact ⟨rfl, rfl, by simp only [if_true, Bool.true_eq_false, if_false]; rfl⟩
        | false =>
          left
          exact ⟨_, by simp, by
            simp only [if_true, Bool.true_eq_false, Bool.false_eq_true, if_false]; rfl⟩
    · left
      exact ⟨_, by simp [howner], by simp only [howner, if_false]; rfl⟩

/-- A turn that is not the active one cannot be claimed. -/
theorem beginOutcome_of_not_owns {lifecycle : ConversationLifecycle} {identity : TurnIdentity}
    (h : ¬ lifecycle.Owns identity) (reclaim : Bool) :
    ∃ error, beginOutcome identity reclaim lifecycle = (.error error, lifecycle) := by
  rcases beginOutcome_cases lifecycle identity reclaim with
    ⟨error, -, herror⟩ | ⟨hactive, -⟩ | ⟨-, hactive, -⟩
  · exact ⟨error, herror⟩
  · exact absurd (by rw [Owns, hactive]; rfl) h
  · exact absurd (by rw [Owns, hactive]; rfl) h

/-- The end of a turn clears it where it is still the active one. -/
theorem finishOutcome_cases (identity : TurnIdentity) (result : Except RuntimeError Unit) :
    (result = .ok () ∧ lifecycle.active = some ⟨identity, true⟩ ∧
      finishOutcome identity result lifecycle = (.ok (), lifecycle.clear)) ∨
    (∃ error, result = .error error ∧ lifecycle.Owns identity ∧
      finishOutcome identity result lifecycle = (.error error, lifecycle.clear)) ∨
    (∃ error, lifecycle.active ≠ some ⟨identity, true⟩ ∧
      finishOutcome identity result lifecycle = (.error error, lifecycle)) := by
  cases result with
  | ok _ =>
    by_cases hactive : lifecycle.active = some ⟨identity, true⟩
    · left
      refine ⟨rfl, hactive, ?_⟩
      rw [finishOutcome, read_bind, bind_of_ok (require_of_true hactive _)]
      rfl
    · right; right
      exact ⟨_, hactive, by
        rw [finishOutcome, read_bind, bind_of_error (require_of_false hactive _)]⟩
  | error error =>
    right
    by_cases howns : lifecycle.Owns identity
    · left
      refine ⟨error, rfl, howns, ?_⟩
      simp only [finishOutcome, read_bind, onlyIf, howns, decide_true, if_true, update_bind]
      rfl
    · right
      refine ⟨error, fun hactive => howns (by rw [Owns, hactive]; rfl), ?_⟩
      simp only [finishOutcome, read_bind, onlyIf, howns, decide_false, Bool.false_eq_true,
        if_false]
      rfl

end ConversationLifecycle

/-- The context: its two states, each behind a lock of its own. -/
structure ConversationContext (Persona : Type) where
  lifecycle : ConversationLifecycle
  quality : ConversationQualityController Persona
deriving DecidableEq

namespace ConversationContext

variable {Persona α : Type}

def new (persona : Persona) : ConversationContext Persona := ⟨⟨0, none, none⟩, .new persona⟩

/-- A section under the lifecycle lock. -/
def underLifecycle (program : Fallible ConversationLifecycle RuntimeError α)
    (context : ConversationContext Persona) : Except RuntimeError α × ConversationContext Persona :=
  let ran := program context.lifecycle
  (ran.1, { context with lifecycle := ran.2 })

/-- A section under the quality lock. -/
def underQuality (program : Fallible (ConversationQualityController Persona) RuntimeError α)
    (context : ConversationContext Persona) : Except RuntimeError α × ConversationContext Persona :=
  let ran := program context.quality
  (ran.1, { context with quality := ran.2 })

def seedActive : RuntimeError :=
  runtimeError "conversation history cannot be seeded while a turn is active"

def seedIdentifier : RuntimeError := runtimeError
  "context seed operation identifier must contain between 1 and 64 UTF-8 bytes"

def seedReused : RuntimeError :=
  runtimeError "context seed operation identifier was reused with different content"

/-- Seed the history. The lifecycle lock is held until the end, so that the checks made
under it still hold when the quality lock is there, and the call is one section. -/
def seedCompletedHistory (operationId : String) (exchanges : List ConversationContextExchange) :
    Fallible (ConversationContext Persona) RuntimeError Unit := do
  let context ← read
  require (context.lifecycle.active = none) seedActive
  require (1 ≤ operationId.utf8ByteSize ∧ operationId.utf8ByteSize ≤ 64) seedIdentifier
  match context.lifecycle.lastSeed.filter (·.operationId = operationId) with
  | some lastSeed => require (lastSeed.exchanges = exchanges) seedReused
  | none => do
    underQuality (ConversationQualityController.replaceCompletedHistory exchanges)
    update fun context => { context with
      lifecycle := { context.lifecycle with lastSeed := some ⟨operationId, exchanges⟩ } }

def applyPersona [DecidableEq Persona] (persona : Persona) (controls : Except RuntimeError Unit) :
    Fallible (ConversationContext Persona) RuntimeError Unit :=
  underQuality (ConversationQualityController.setPersona persona controls)

end ConversationContext

/-! ## The calls that begin and end a turn -/

/-- How far a call of `begin_turn` has come. -/
inductive Beginning where
  | reserve (transcript : String)
  | resolve (identity : TurnIdentity) (transcript : String)
  | release (identity : TurnIdentity) (error : RuntimeError)
  | done (result : Except RuntimeError TurnIdentity)
deriving DecidableEq

/-- What a call does with the turn it ends. -/
inductive Outcome where
  | complete (assistant : String)
  | discard (interrupted : Bool)
deriving DecidableEq

/-- How far a call of `complete_turn` or `discard_turn` has come. -/
inductive Ending where
  | claim (outcome : Outcome) (identity : TurnIdentity)
  | settle (outcome : Outcome) (identity : TurnIdentity) (reclaimed : Bool)
  | finish (outcome : Outcome) (identity : TurnIdentity) (result : Except RuntimeError Unit)
  | done (outcome : Outcome) (identity : TurnIdentity) (result : Except RuntimeError Unit)
deriving DecidableEq

namespace Outcome

def isDiscard : Outcome → Bool
  | complete _ => false
  | discard _ => true

/-- The quality step of the outcome. -/
def settle {Persona : Type} (outcome : Outcome) (turnId : TurnId) (reclaimed : Bool) :
    Fallible (ConversationQualityController Persona) RuntimeError Unit :=
  match outcome with
  | complete assistant => ConversationQualityController.completeTurn turnId assistant
  | discard interrupted => fun controller =>
    let ran :=
      if interrupted then ConversationQualityController.interruptTurn turnId controller
      else ConversationQualityController.discardTurn turnId controller
    -- a reclaimed claim may have consumed the pending turn already
    (if reclaimed then .ok () else ran.1, ran.2)

end Outcome

open ConversationLifecycle

variable {Persona : Type}

/-- The next section of `begin_turn`. -/
def Beginning.step (resolution : Resolution) (context : ConversationContext Persona) :
    Beginning → Beginning × ConversationContext Persona
  | .reserve transcript =>
    match context.underLifecycle reserveTurn with
    | (.ok identity, reached) => (.resolve identity transcript, reached)
    | (.error error, reached) => (.done (.error error), reached)
  | .resolve identity transcript =>
    match context.underQuality (ConversationQualityController.resolveTurn identity.turnId transcript
      resolution) with
    | (.ok true, reached) => (.done (.ok identity), reached)
    | (.ok false, reached) =>
      (.release identity (runtimeError "a conversation turn transcript cannot be empty"), reached)
    | (.error error, reached) => (.release identity error, reached)
  | .release identity error =>
    (.done (.error error), { context with lifecycle := releaseTurn identity context.lifecycle })
  | .done result => (.done result, context)

/-- The next section of `complete_turn` or `discard_turn`. -/
def Ending.step (context : ConversationContext Persona) :
    Ending → Ending × ConversationContext Persona
  | .claim outcome identity =>
    match context.underLifecycle (beginOutcome identity outcome.isDiscard) with
    | (.ok reclaimed, reached) => (.settle outcome identity reclaimed, reached)
    | (.error error, reached) => (.done outcome identity (.error error), reached)
  | .settle outcome identity reclaimed =>
    match context.underQuality (outcome.settle identity.turnId reclaimed) with
    | (result, reached) => (.finish outcome identity result, reached)
  | .finish outcome identity result =>
    match context.underLifecycle (finishOutcome identity result) with
    | (result, reached) => (.done outcome identity result, reached)
  | .done outcome identity result => (.done outcome identity result, context)

end ConversationRuntime
