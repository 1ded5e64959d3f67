import ConversationRuntime.Turns.Context

/-! # What one section of a call can do

The ways in which a section of `begin_turn`, `complete_turn` or `discard_turn` can go,
one constructor each. Whatever is shown of the calls is shown from these.
-/

namespace ConversationRuntime

open Foundation.Fallible ConversationLifecycle ConversationContext
open ConversationQualityController

variable {Persona : Type}

namespace ConversationQualityController

/-- No exchange of a turn comes into the history, and none is recorded. -/
structure Forgets (before after : ConversationQualityController Persona) : Prop where
  recorded : after.recorded = before.recorded
  history : ∀ exchange ∈ after.history, exchange.turnId = none ∨ exchange ∈ before.history

variable {before after : ConversationQualityController Persona}
  (controller : ConversationQualityController Persona)

theorem Forgets.refl : controller.Forgets controller :=
  ⟨rfl, fun _ hexchange => .inr hexchange⟩

/-- The same history, or none. -/
theorem Forgets.of_history (hrecorded : after.recorded = before.recorded)
    (hhistory : after.history = before.history ∨ after.history = []) : before.Forgets after := by
  refine ⟨hrecorded, ?_⟩
  intro exchange hexchange
  rcases hhistory with hsame | hempty
  · exact .inr (hsame ▸ hexchange)
  · rw [hempty] at hexchange
    exact absurd hexchange List.not_mem_nil

theorem seedExchanges_turnId {exchanges : List ConversationContextExchange} {bytes total : Nat}
    {history : List CompletedExchange} (h : seedExchanges exchanges bytes = .ok (history, total)) :
    ∀ exchange ∈ history, exchange.turnId = none := by
  fun_induction seedExchanges exchanges bytes generalizing history total with
  | case1 =>
    cases h
    exact List.forall_mem_nil _
  | case5 first rest bytes completed hcompleted _ seeded _ hseeded ih =>
    cases h
    refine List.forall_mem_cons.mpr ⟨?_, ih hseeded⟩
    unfold seedExchange at hcompleted
    split at hcompleted
    next => cases hcompleted
    next =>
      split at hcompleted <;> cases hcompleted
      rfl
  | _ => cases h

/-- No turn is touched. -/
abbrev Spares (before after : ConversationQualityController Persona) : Prop :=
  before.Forgets after ∧ after.pendingTurn = before.pendingTurn

theorem Spares.refl : controller.Spares controller := ⟨.refl _, rfl⟩

/-- A history put in from outside holds no exchange of a turn. -/
theorem replaceCompletedHistory_spares (exchanges : List ConversationContextExchange) :
    Meets (replaceCompletedHistory exchanges) controller fun _ => controller.Spares := by
  refine .of_read (.of_require (fun _ => .of_require (fun _ => .of_lift ?_ ?_) ?_) ?_)
  · intro seeded hseed
    refine ⟨⟨rfl, fun exchange hexchange => ?_⟩, rfl⟩
    exact .inl (seedExchanges_turnId hseed exchange hexchange)
  · exact fun _ _ => .refl _
  all_goals exact fun _ => .refl _

theorem setPersona_spares [DecidableEq Persona] (persona : Persona)
    (controls : Except RuntimeError Unit) :
    Meets (setPersona persona controls) controller fun _ => controller.Spares := by
  refine .of_read (.of_require (fun _ => .of_lift ?_ fun _ _ => .refl _) fun _ => .refl _)
  intro _ _
  simp only [Meets, update]
  split
  · exact ⟨.of_history rfl (.inl rfl), rfl⟩
  · exact ⟨.of_history rfl (.inr rfl), rfl⟩

/-- A turn is resolved when none is pending, and then it is the pending one. -/
theorem resolveTurn_cases (turnId : TurnId) (transcript : String) (resolution : Resolution) :
    Meets (resolveTurn turnId transcript resolution) controller fun result after =>
      (result = .ok true ∧ ∃ user, after.pendingTurn = some ⟨turnId, user⟩ ∧
        user.text = transcript ∧ controller.pendingTurn = none ∧ controller.Forgets after) ∨
      result ≠ .ok true ∧ controller.Spares after := by
  refine .of_read (.of_require (fun hfree => ?_) fun _ => .inr ⟨nofun, .refl _⟩)
  split
  next => exact .inr ⟨nofun, .refl _⟩
  next =>
    refine .of_lift (fun user huser => ?_) fun _ _ => .inr ⟨nofun, .refl _⟩
    obtain ⟨topicChanged, decision⟩ := resolution
    -- the history is cleared before the decision is made, and stays so if it fails
    cases topicChanged <;> cases decision
    · exact .inr ⟨nofun, .of_history rfl (.inl rfl), rfl⟩
    · exact .inl ⟨rfl, user, rfl, new_eq_ok huser, hfree, .of_history rfl (.inl rfl)⟩
    · exact .inr ⟨nofun, .of_history rfl (.inr rfl), rfl⟩
    · exact .inl ⟨rfl, user, rfl, new_eq_ok huser, hfree, .of_history rfl (.inr rfl)⟩

end ConversationQualityController

/-! ## Calls of one section -/

namespace ConversationContext

/-- No turn is touched: the active and the pending turn stay, and no exchange of a turn
comes into the history. -/
structure LeavesTurns (before after : ConversationContext Persona) : Prop where
  sequence : after.lifecycle.sequence = before.lifecycle.sequence
  active : after.lifecycle.active = before.lifecycle.active
  pending : after.quality.pendingTurn = before.quality.pendingTurn
  forgets : before.quality.Forgets after.quality

theorem LeavesTurns.refl (context : ConversationContext Persona) : context.LeavesTurns context :=
  ⟨rfl, rfl, rfl, .refl _⟩

theorem seedCompletedHistory_leavesTurns (operationId : String)
    (exchanges : List ConversationContextExchange) (context : ConversationContext Persona) :
    context.LeavesTurns (seedCompletedHistory operationId exchanges context).2 := by
  suffices h : Meets (seedCompletedHistory operationId exchanges) context
    fun _ => context.LeavesTurns from h
  refine .of_read (.of_require (fun _ => .of_require (fun _ => ?_) ?_) ?_)
  · split
    next => exact .of_last_require (fun _ => .refl _) fun _ => .refl _
    next =>
      have hspares := replaceCompletedHistory_spares context.quality exchanges
      have hseeds : Meets (underQuality (replaceCompletedHistory exchanges)) context
        fun _ => context.LeavesTurns := ⟨rfl, rfl, hspares.2, hspares.1⟩
      exact .of_bind hseeds (fun _ _ h => { h with }) fun _ _ h => h
  all_goals exact fun _ => .refl _

theorem applyPersona_leavesTurns [DecidableEq Persona] (persona : Persona)
    (controls : Except RuntimeError Unit) (context : ConversationContext Persona) :
    context.LeavesTurns (applyPersona persona controls context).2 := by
  have hspares := setPersona_spares context.quality persona controls
  exact ⟨rfl, rfl, hspares.2, hspares.1⟩

end ConversationContext

/-! ## Beginning a turn -/

/-- The ways a section of `begin_turn` can go. -/
inductive Beginning.Move (context : ConversationContext Persona) :
    Beginning → Beginning → ConversationContext Persona → Prop
  | refused (transcript : String) (error : RuntimeError) :
      Move context (.reserve transcript) (.done (.error error)) context
  | reserved (transcript : String) (identity : TurnIdentity)
      (hidentity : identity = ⟨context.lifecycle.sequence + 1, context.lifecycle.sequence + 1⟩)
      (hidle : context.lifecycle.active = none) :
      Move context (.reserve transcript) (.resolve identity transcript)
        { context with lifecycle := { context.lifecycle with
            sequence := context.lifecycle.sequence + 1, active := some ⟨identity, false⟩ } }
  | resolved (identity : TurnIdentity) (transcript : String) (user : ConversationMessage)
      (quality : ConversationQualityController Persona)
      (hpending : quality.pendingTurn = some ⟨identity.turnId, user⟩)
      (huser : user.text = transcript) (hfree : context.quality.pendingTurn = none)
      (hforgets : context.quality.Forgets quality) :
      Move context (.resolve identity transcript) (.done (.ok identity)) { context with quality }
  | unresolved (identity : TurnIdentity) (transcript : String) (error : RuntimeError)
      (quality : ConversationQualityController Persona)
      (hpending : quality.pendingTurn = context.quality.pendingTurn)
      (hforgets : context.quality.Forgets quality) :
      Move context (.resolve identity transcript) (.release identity error) { context with quality }
  | released (identity : TurnIdentity) (error : RuntimeError)
      (howns : context.lifecycle.Owns identity) :
      Move context (.release identity error) (.done (.error error))
        { context with lifecycle := context.lifecycle.clear }
  | disowned (identity : TurnIdentity) (error : RuntimeError)
      (howns : ¬ context.lifecycle.Owns identity) :
      Move context (.release identity error) (.done (.error error)) context
  | ceased (result : Except RuntimeError TurnIdentity) :
      Move context (.done result) (.done result) context

theorem Beginning.step_move (resolution : Resolution) (context : ConversationContext Persona)
    (beginning : Beginning) :
    Move context beginning (beginning.step resolution context).1
      (beginning.step resolution context).2 := by
  cases beginning with
  | reserve transcript =>
    rcases reserveTurn_cases context.lifecycle with ⟨error, hrun⟩ | ⟨hidle, hrun⟩
    · simp only [step, underLifecycle, hrun]
      exact .refused transcript error
    · simp only [step, underLifecycle, hrun]
      exact .reserved transcript _ rfl hidle
  | resolve identity transcript =>
    have hcases := resolveTurn_cases context.quality identity.turnId transcript resolution
    unfold Meets at hcases
    simp only [step, underQuality]
    generalize resolveTurn identity.turnId transcript resolution context.quality = ran at hcases
    obtain ⟨result, after⟩ := ran
    rcases hcases with ⟨rfl, user, hpending, huser, hfree, hforgets⟩ | ⟨hresult, hforgets, hpending⟩
    · exact .resolved identity transcript user after hpending huser hfree hforgets
    · rcases result with error | resolved
      · exact .unresolved identity transcript error after hpending hforgets
      · cases resolved with
        | true => exact absurd rfl hresult
        | false => exact .unresolved identity transcript _ after hpending hforgets
  | release identity error =>
    by_cases howns : context.lifecycle.Owns identity
    · simp only [step, releaseTurn, howns, if_true]
      exact .released identity error howns
    · simp only [step, releaseTurn, howns, if_false]
      exact .disowned identity error howns
  | done result => exact .ceased result

/-! ## Ending a turn -/

namespace ConversationQualityController

variable (controller : ConversationQualityController Persona) (turnId : TurnId)

/-- The controller without its pending turn. -/
def taken : ConversationQualityController Persona := { controller with pendingTurn := none }

/-- The pending turn is the one named. -/
def Awaits : Prop := controller.pendingTurn.map (·.turnId) = some turnId

instance : Decidable (controller.Awaits turnId) := inferInstanceAs (Decidable (_ = _))

theorem awaits_cases :
    (∃ pending, controller.pendingTurn = some pending ∧ pending.turnId = turnId ∧
      takePending turnId controller = (.ok pending, controller.taken)) ∨
    ¬ controller.Awaits turnId ∧
      ∃ error, takePending turnId controller = (.error error, controller) := by
  rcases takePending_cases controller turnId with hfound | ⟨hmissing, herror⟩
  · exact .inl hfound
  · refine .inr ⟨?_, herror⟩
    intro hawaits
    obtain ⟨pending, hpending, hturn⟩ := Option.map_eq_some_iff.mp hawaits
    exact hmissing pending hpending hturn

end ConversationQualityController

/-- The ways a section of `complete_turn` or `discard_turn` can go. -/
inductive Ending.Move (context : ConversationContext Persona) :
    Ending → Ending → ConversationContext Persona → Prop
  | rejected (outcome : Outcome) (identity : TurnIdentity) (error : RuntimeError)
      (hactive : context.lifecycle.active ≠ some ⟨identity, false⟩) :
      Move context (.claim outcome identity) (.done outcome identity (.error error)) context
  | claimed (outcome : Outcome) (identity : TurnIdentity)
      (hactive : context.lifecycle.active = some ⟨identity, false⟩) :
      Move context (.claim outcome identity) (.settle outcome identity false)
        { context with lifecycle := { context.lifecycle with active := some ⟨identity, true⟩ } }
  | reclaimed (interrupted : Bool) (identity : TurnIdentity)
      (hactive : context.lifecycle.active = some ⟨identity, true⟩) :
      Move context (.claim (.discard interrupted) identity)
        (.settle (.discard interrupted) identity true) context
  | appended (assistant : String) (identity : TurnIdentity) (reclaimed : Bool)
      (pending : PendingTurn) (message : ConversationMessage)
      (hpending : context.quality.pendingTurn = some pending)
      (hturn : pending.turnId = identity.turnId)
      (hmessage : ConversationMessage.new assistant = .ok message) :
      Move context (.settle (.complete assistant) identity reclaimed)
        (.finish (.complete assistant) identity (.ok ()))
        { context with quality := context.quality.taken.append pending message }
  | overlong (assistant : String) (identity : TurnIdentity) (reclaimed : Bool)
      (hawaits : context.quality.Awaits identity.turnId)
      (hlong : maxHistoryBytes < assistant.utf8ByteSize) :
      Move context (.settle (.complete assistant) identity reclaimed)
        (.finish (.complete assistant) identity (.ok ()))
        { context with quality := context.quality.taken }
  | unkept (assistant : String) (identity : TurnIdentity) (reclaimed : Bool) (error : RuntimeError)
      (hawaits : context.quality.Awaits identity.turnId)
      (hmessage : ConversationMessage.new assistant = .error error) :
      Move context (.settle (.complete assistant) identity reclaimed)
        (.finish (.complete assistant) identity (.error error))
        { context with quality := context.quality.taken }
  | dropped (interrupted : Bool) (identity : TurnIdentity) (reclaimed : Bool)
      (quality : ConversationQualityController Persona)
      (hawaits : context.quality.Awaits identity.turnId) (hpending : quality.pendingTurn = none)
      (hforgets : context.quality.Forgets quality) :
      Move context (.settle (.discard interrupted) identity reclaimed)
        (.finish (.discard interrupted) identity (.ok ())) { context with quality }
  | missed (outcome : Outcome) (identity : TurnIdentity) (reclaimed : Bool) (error : RuntimeError)
      (hmissing : ¬ context.quality.Awaits identity.turnId) :
      Move context (.settle outcome identity reclaimed) (.finish outcome identity (.error error))
        context
  | recovered (interrupted : Bool) (identity : TurnIdentity)
      (hmissing : ¬ context.quality.Awaits identity.turnId) :
      Move context (.settle (.discard interrupted) identity true)
        (.finish (.discard interrupted) identity (.ok ())) context
  | ended (outcome : Outcome) (identity : TurnIdentity)
      (hactive : context.lifecycle.active = some ⟨identity, true⟩) :
      Move context (.finish outcome identity (.ok ())) (.done outcome identity (.ok ()))
        { context with lifecycle := context.lifecycle.clear }
  | failed (outcome : Outcome) (identity : TurnIdentity) (error : RuntimeError)
      (howns : context.lifecycle.Owns identity) :
      Move context (.finish outcome identity (.error error)) (.done outcome identity (.error error))
        { context with lifecycle := context.lifecycle.clear }
  | lost (outcome : Outcome) (identity : TurnIdentity) (result : Except RuntimeError Unit)
      (error : RuntimeError) (hactive : context.lifecycle.active ≠ some ⟨identity, true⟩) :
      Move context (.finish outcome identity result) (.done outcome identity (.error error)) context
  | ceased (outcome : Outcome) (identity : TurnIdentity) (result : Except RuntimeError Unit) :
      Move context (.done outcome identity result) (.done outcome identity result) context

variable (context : ConversationContext Persona)

open ConversationQualityController in
/-- The quality step of a completion. -/
theorem Ending.settle_complete_move (assistant : String)
    (identity : TurnIdentity) (reclaimed : Bool) :
    Move context (.settle (.complete assistant) identity reclaimed)
      ((settle (.complete assistant) identity reclaimed).step context).1
      ((settle (.complete assistant) identity reclaimed).step context).2 := by
  simp only [step, underQuality, Outcome.settle, completeTurn]
  rcases awaits_cases context.quality identity.turnId with
    ⟨pending, hpending, hturn, hrun⟩ | ⟨hmissing, error, hrun⟩
  · have hawaits : context.quality.Awaits identity.turnId := by simp [Awaits, hpending, hturn]
    rw [bind_of_ok hrun]
    rcases keepExchange_cases pending assistant context.quality.taken with
      ⟨hlong, hkeep⟩ | ⟨message, hmessage, hkeep⟩ | ⟨error, hmessage, hkeep⟩
    · rw [hkeep]
      exact .overlong assistant identity reclaimed hawaits hlong
    · rw [hkeep]
      exact .appended assistant identity reclaimed pending message hpending hturn hmessage
    · rw [hkeep]
      exact .unkept assistant identity reclaimed error hawaits hmessage
  · rw [bind_of_error hrun]
    exact .missed (.complete assistant) identity reclaimed error hmissing

open ConversationQualityController in
/-- Both kinds of discard take the pending turn or change nothing. -/
theorem ConversationQualityController.discard_cases (interrupted : Bool) (turnId : TurnId)
    (controller : ConversationQualityController Persona) :
    let ran :=
      if interrupted then interruptTurn turnId controller else discardTurn turnId controller
    (ran.1 = .ok () ∧ controller.Awaits turnId ∧ ran.2.pendingTurn = none ∧
      controller.Forgets ran.2) ∨
    ((∃ error, ran.1 = .error error) ∧ ¬ controller.Awaits turnId ∧ ran.2 = controller) := by
  rcases awaits_cases controller turnId with
    ⟨pending, hpending, hturn, hrun⟩ | ⟨hmissing, error, hrun⟩
  · have hawaits : controller.Awaits turnId := by simp [Awaits, hpending, hturn]
    left
    cases interrupted
    · simp only [discardTurn, bind_of_ok hrun, Bool.false_eq_true, if_false]
      exact ⟨rfl, hawaits, rfl, .of_history rfl (.inl rfl)⟩
    · simp only [interruptTurn, bind_of_ok hrun, if_true]
      exact ⟨rfl, hawaits, rfl, .of_history rfl (.inl rfl)⟩
  · right
    cases interrupted
    · simp only [discardTurn, bind_of_error hrun, Bool.false_eq_true, if_false]
      exact ⟨⟨error, rfl⟩, hmissing, trivial⟩
    · simp only [interruptTurn, bind_of_error hrun, if_true]
      exact ⟨⟨error, rfl⟩, hmissing, trivial⟩

open ConversationQualityController in
/-- The quality step of a discard. -/
theorem Ending.settle_discard_move (interrupted : Bool)
    (identity : TurnIdentity) (reclaimed : Bool) :
    Move context (.settle (.discard interrupted) identity reclaimed)
      ((settle (.discard interrupted) identity reclaimed).step context).1
      ((settle (.discard interrupted) identity reclaimed).step context).2 := by
  simp only [step, underQuality, Outcome.settle]
  rcases discard_cases interrupted identity.turnId context.quality with
    ⟨hresult, hawaits, hpending, hforgets⟩ | ⟨⟨error, hresult⟩, hmissing, hsame⟩
  · rw [hresult, ite_self]
    exact .dropped interrupted identity reclaimed _ hawaits hpending hforgets
  · rw [hresult, hsame]
    cases reclaimed with
    | false => exact .missed (.discard interrupted) identity false error hmissing
    | true => exact .recovered interrupted identity hmissing

theorem Ending.step_move (ending : Ending) :
    Move context ending (ending.step context).1 (ending.step context).2 := by
  cases ending with
  | claim outcome identity =>
    rcases beginOutcome_cases context.lifecycle identity outcome.isDiscard with
      ⟨error, hactive, hrun⟩ | ⟨hactive, hrun⟩ | ⟨hdiscard, hactive, hrun⟩
    · simp only [step, underLifecycle, hrun]
      exact .rejected outcome identity error hactive
    · simp only [step, underLifecycle, hrun]
      exact .claimed outcome identity hactive
    · cases outcome with
      | complete assistant => cases hdiscard
      | discard interrupted =>
        simp only [step, underLifecycle, hrun]
        exact .reclaimed interrupted identity hactive
  | settle outcome identity reclaimed =>
    cases outcome with
    | complete assistant => exact settle_complete_move context assistant identity reclaimed
    | discard interrupted => exact settle_discard_move context interrupted identity reclaimed
  | finish outcome identity result =>
    rcases finishOutcome_cases context.lifecycle identity result with
      ⟨rfl, hactive, hrun⟩ | ⟨error, rfl, howns, hrun⟩ | ⟨error, hactive, hrun⟩
    · simp only [step, underLifecycle, hrun]
      exact .ended outcome identity hactive
    · simp only [step, underLifecycle, hrun]
      exact .failed outcome identity error howns
    · simp only [step, underLifecycle, hrun]
      exact .lost outcome identity result error hactive
  | done outcome identity result => exact .ceased outcome identity result

/-- What the call does with its turn. -/
def Ending.outcome : Ending → Outcome
  | .claim outcome _ | .settle outcome _ _ | .finish outcome _ _ | .done outcome _ _ => outcome

@[simp] theorem Ending.step_outcome (ending : Ending) :
    (ending.step context).1.outcome = ending.outcome := by
  have hmove := step_move context ending
  revert hmove
  generalize (ending.step context).1 = reached
  generalize (ending.step context).2 = after
  intro hmove
  cases hmove <;> rfl

theorem ConversationQualityController.Forgets.trans
    {first second third : ConversationQualityController Persona} (h : first.Forgets second)
    (hnext : second.Forgets third) : first.Forgets third := by
  refine ⟨hnext.recorded.trans h.recorded, ?_⟩
  intro exchange hexchange
  rcases hnext.history exchange hexchange with hnone | hold
  · exact .inl hnone
  · exact h.history exchange hold

/-- A discard brings no exchange into the history. -/
theorem Ending.step_forgets {ending : Ending} (hdiscard : ending.outcome.isDiscard = true) :
    context.quality.Forgets (ending.step context).2.quality := by
  have hmove := step_move context ending
  revert hmove
  generalize (ending.step context).1 = reached
  generalize (ending.step context).2 = after
  intro hmove
  cases hmove with
  | appended | overlong | unkept => cases hdiscard
  | dropped _ _ _ _ _ _ hforgets => exact hforgets
  | _ => exact .refl _

end ConversationRuntime
