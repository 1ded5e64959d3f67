import ConversationRuntime.Turns.TurnJournal

/-! # The history records the completed turns

The two locked states of a context stay consistent under every order of sections as
long as no completion is dropped after its exchange was appended, no discard has to
fall back on having reclaimed a turn that was consumed, and no answer is too long for
the history.
-/

namespace ConversationRuntime

open Foundation Fallible ConversationLifecycle ConversationContext List
open Option
open ContextBoard

variable {Persona : Type}

/-! ## What a call may rely on -/

/-- The answer is not too long to be looked at. -/
def Outcome.Short : Outcome → Prop
  | .complete assistant => assistant.utf8ByteSize ≤ maxHistoryBytes
  | .discard _ => True

/-- What is known of a call from how far it has come. -/
def Warranted (board : ContextBoard Persona) (index : Nat) : ContextCall Persona → Prop
  | .beginTurn (.resolve identity _) =>
    Did board.journal .reserved index identity.turnId ∧
    ¬ Done board.journal .resolved identity.turnId ∧ ¬ Done board.journal .refused identity.turnId
  | .beginTurn (.release identity _) => Did board.journal .refused index identity.turnId
  | .endTurn (.claim outcome _) => outcome.Short
  | .endTurn (.settle (.complete assistant) identity _) =>
    assistant.utf8ByteSize ≤ maxHistoryBytes ∧
    Did board.journal .claimed index identity.turnId ∧
    -- the turn can be lost only to a discard that took it or to its own refusal
    (board.context.lifecycle.active = some ⟨identity, true⟩ ∨
      Done board.journal .took identity.turnId ∨ Done board.journal .refused identity.turnId)
  | .endTurn (.settle (.discard _) identity reclaimed) =>
    reclaimed = true ∨ Did board.journal .claimed index identity.turnId
  | .endTurn (.finish (.complete _) identity (.ok _)) =>
    Did board.journal .claimed index identity.turnId ∧
    Did board.journal .took index identity.turnId ∧
    identity.turnId ∈ board.context.quality.recorded ∧
    board.context.lifecycle.active = some ⟨identity, true⟩
  | .endTurn (.finish (.discard _) identity (.ok _)) =>
    Did board.journal .took index identity.turnId ∧
    identity.turnId ∉ board.context.quality.recorded
  | .endTurn (.finish _ identity (.error _)) => Did board.journal .claimed index identity.turnId
  | .endTurn (.done (.complete _) identity (.ok _)) =>
    identity.turnId ∈ board.context.quality.recorded
  | .endTurn (.done (.discard _) identity (.ok _)) =>
    Done board.journal .took identity.turnId ∧ identity.turnId ∉ board.context.quality.recorded
  | _ => True

/-- What a section of the call at `index` leaves to the other calls. -/
structure Spares (index : Nat) (before after : ContextBoard Persona) : Prop where
  noted : ∀ {deed author turnId}, Did before.journal deed author turnId →
    Did after.journal deed author turnId
  unbegun : ∀ {deed author turnId}, deed = .resolved ∨ deed = .refused → author ≠ index →
    Did before.journal .reserved author turnId → ¬ Done before.journal deed turnId →
    ¬ Done after.journal deed turnId
  active : ∀ {identity}, before.context.lifecycle.active = some ⟨identity, true⟩ →
    after.context.lifecycle.active = some ⟨identity, true⟩ ∨
    ∃ deed, (deed = .refused ∨ deed = .claimed ∨ deed = .took) ∧
      Did before.journal deed index identity.turnId
  recorded : ∀ {turnId}, turnId ∈ before.context.quality.recorded →
    turnId ∈ after.context.quality.recorded
  unrecorded : ∀ {turnId}, turnId ∉ before.context.quality.recorded →
    Done before.journal .took turnId → turnId ∉ after.context.quality.recorded

variable {index : Nat} {after board : ContextBoard Persona}

theorem Spares.done {before : ContextBoard Persona} (h : Spares index before after)
    {deed : ContextDeed} {turnId : TurnId} (hdone : Done before.journal deed turnId) :
    Done after.journal deed turnId :=
  hdone.imp fun _ => h.noted

theorem BoardChange.spares (hchange : BoardChange index board after) (h : Consistent board) :
    Spares index board after where
  noted := by
    intro deed author turnId hdid
    cases hchange with
    | same | forgot => exact hdid
    | _ => exact did_snoc.mpr (.inl hdid)
  unbegun := by
    intro deed author turnId hbegins hauthor hreserved hnot
    cases hchange with
    | same | forgot => exact hnot
    | resolved _ _ _ _ _ hright | refused _ _ _ _ hright =>
      -- what begins a turn is done by the call that the turn was handed out to
      intro hdone
      rcases done_snoc.mp hdone with hdone | ⟨-, rfl⟩
      · exact hnot hdone
      · exact hauthor (h.tidy.once _ _ _ _ hreserved hright)
    | _ => rcases hbegins with rfl | rfl <;> simpa using hnot
  active := by
    intro identity hactive
    cases hchange with
    | forgot _ _ _ hsame => exact .inl (hsame.trans hactive)
    | reserved _ _ hother | claimed _ hother => cases hother.symm.trans hactive
    | cleared _ hmine hright =>
      cases hmine.symm.trans hactive
      exact .inr hright
    | _ => exact .inl hactive
  recorded := by
    intro turnId hrecorded
    cases hchange with
    | forgot _ _ _ _ _ hforgets | resolved _ _ _ _ hforgets | refused _ _ _ hforgets
    | took _ _ _ _ hforgets => exact hforgets.recorded ▸ hrecorded
    | appended => exact mem_append_left _ hrecorded
    | _ => exact hrecorded
  unrecorded := by
    intro turnId hnot htook
    cases hchange with
    | forgot _ _ _ _ _ hforgets | resolved _ _ _ _ hforgets | refused _ _ _ hforgets
    | took _ _ _ _ hforgets => exact hforgets.recorded ▸ hnot
    | appended pending _ hpending =>
      intro hmem
      rcases mem_append.mp hmem with hold | hnew
      · exact hnot hold
      · rw [mem_singleton.mp hnew] at htook
        exact (h.pending pending hpending).2 htook
    | _ => exact hnot

variable {call : ContextCall Persona}

/-- The sections of a call do not touch what the other calls rely on. -/
theorem Warranted.spared {other : Nat} (h : Warranted board other call) (hboard : Consistent board)
    (hspares : Spares index board after) (hother : other ≠ index) : Warranted after other call := by
  cases call with
  | beginTurn stage =>
    cases stage with
    | resolve identity transcript =>
      obtain ⟨hreserved, hresolved, hrefused⟩ := h
      exact ⟨hspares.noted hreserved, hspares.unbegun (.inl rfl) hother hreserved hresolved,
        hspares.unbegun (.inr rfl) hother hreserved hrefused⟩
    | release identity error => exact hspares.noted h
    | reserve | done => trivial
  | endTurn stage =>
    cases stage with
    | claim outcome identity => exact h
    | settle outcome identity reclaimed =>
      cases outcome with
      | discard _ => exact h.imp_right hspares.noted
      | complete assistant =>
        obtain ⟨hshort, hclaimed, hheld⟩ := h
        refine ⟨hshort, hspares.noted hclaimed, ?_⟩
        rcases hheld with hactive | hheld | hheld
        · rcases hspares.active hactive with hsame | ⟨deed, rfl | rfl | rfl, hdid⟩
          · exact .inl hsame
          · exact .inr (.inr (hspares.done hdid.done))
          · exact absurd (hboard.tidy.once _ _ _ _ hclaimed hdid) hother
          · exact .inr (.inl (hspares.done hdid.done))
        · exact .inr (.inl (hspares.done hheld))
        · exact .inr (.inr (hspares.done hheld))
    | finish outcome identity result =>
      cases outcome with
      | discard _ =>
        cases result with
        | error _ => exact hspares.noted h
        | ok _ => exact ⟨hspares.noted h.1, hspares.unrecorded h.2 h.1.done⟩
      | complete assistant =>
        cases result with
        | error _ => exact hspares.noted h
        | ok _ =>
          obtain ⟨hclaimed, htook, hrecorded, hactive⟩ := h
          refine ⟨hspares.noted hclaimed, hspares.noted htook, hspares.recorded hrecorded, ?_⟩
          -- the right to clear the turn would have to be this call's own
          rcases hspares.active hactive with hsame | ⟨deed, rfl | rfl | rfl, hdid⟩
          · exact hsame
          · exact absurd (hboard.took _ htook.done) (hboard.refused _ hdid.done)
          · exact absurd (hboard.tidy.once _ _ _ _ hclaimed hdid) hother
          · exact absurd (hboard.tidy.once _ _ _ _ htook hdid) hother
    | done outcome identity result =>
      cases outcome with
      | discard _ =>
        cases result with
        | error _ => trivial
        | ok _ => exact ⟨hspares.done h.1, hspares.unrecorded h.2 h.1⟩
      | complete _ =>
        cases result with
        | error _ => trivial
        | ok _ => exact hspares.recorded h
  | seedCompletedHistory | applyPersona | answered | aborted => trivial

/-! ## What a section does -/

/-- The call completes the turn: it has appended the exchange, and returned or is about to. -/
def ContextCall.Completes (turnId : TurnId) (call : ContextCall Persona) : Prop :=
  ∃ assistant identity, identity.turnId = turnId ∧
    (call = .endTurn (.finish (.complete assistant) identity (.ok ())) ∨
      call = .endTurn (.done (.complete assistant) identity (.ok ())))

/-- A discard that reclaimed a turn finds it still pending. -/
def ContextCall.FindsTurn (context : ConversationContext Persona) : ContextCall Persona → Prop
  | .endTurn (.settle (.discard _) identity true) => context.quality.Awaits identity.turnId
  | _ => True

/-- A section changes the board in one of the ways it has a right to, its call can rely on
what it needs next, and what it recorded the call completes. -/
structure ActsWell (index : Nat) (board : ContextBoard Persona) (call : ContextCall Persona)
    (after : ContextBoard Persona) : Prop where
  change : BoardChange index board after
  warranted : Warranted after index call
  recorded : ∀ turnId ∈ after.context.quality.recorded,
    turnId ∈ board.context.quality.recorded ∨ call.Completes turnId

theorem ActsWell.of_forgets (hchange : BoardChange index board after)
    (hwarranted : Warranted after index call)
    (hrecorded : after.context.quality.recorded = board.context.quality.recorded) :
    ActsWell index board call after :=
  ⟨hchange, hwarranted, fun _ hturn => .inl (hrecorded ▸ hturn)⟩

@[simp] theorem lifecycleNotes_of_active_eq {before after : ConversationLifecycle}
    (h : after.active = before.active) : lifecycleNotes index before after = [] := by
  unfold lifecycleNotes
  rw [h]
  rcases before.active with _ | ⟨_, _ | _⟩ <;> rfl

@[simp] theorem qualityNotes_of_pending_eq {before after : ConversationQualityController Persona}
    (h : after.pendingTurn = before.pendingTurn) : qualityNotes index before after = [] := by
  unfold qualityNotes
  rw [h]
  cases before.pendingTurn <;> rfl

theorem ConversationLifecycle.Owns.active {lifecycle : ConversationLifecycle}
    {identity : TurnIdentity} (h : lifecycle.Owns identity) :
    ∃ finalizing, lifecycle.active = some ⟨identity, finalizing⟩ := by
  obtain ⟨active, hactive, rfl⟩ := map_eq_some_iff.mp h
  exact ⟨active.finalizing, hactive⟩

section act

variable {board : ContextBoard Persona} {index : Nat}
  {call reached : ContextCall Persona} {context : ConversationContext Persona}

/-- A section that leaves the turns alone. -/
theorem ActsWell.of_leavesTurns (h : board.context.LeavesTurns context)
    (hrefusal : refusalNotes index call reached = [])
    (hwarranted : Warranted ⟨context, board.journal⟩ index reached) :
    ActsWell index board reached (board.noting index call reached context) := by
  have hnoting : board.noting index call reached context = ⟨context, board.journal⟩ := by
    simp [noting, hrefusal, h.active, h.pending]
  rw [hnoting]
  exact .of_forgets (.forgot _ _ h.sequence h.active h.pending h.forgets) hwarranted
    h.forgets.recorded

variable {notes : List ContextNote} {lifecycle : ConversationLifecycle}

/-- A section under the quality lock. -/
theorem ContextBoard.noting_quality {quality : ConversationQualityController Persona}
    (hnotes : qualityNotes index board.context.quality quality ++
      refusalNotes index call reached = notes) :
    board.noting index call reached { board.context with quality } =
      ⟨{ board.context with quality }, board.journal ++ notes⟩ := by
  simp [noting, ← hnotes]

/-- A section under the lifecycle lock. -/
theorem ContextBoard.noting_lifecycle
    (hnotes : lifecycleNotes index board.context.lifecycle lifecycle = notes)
    (hrefusal : refusalNotes index call reached = []) :
    board.noting index call reached { board.context with lifecycle } =
      ⟨{ board.context with lifecycle }, board.journal ++ notes⟩ := by
  simp [noting, hnotes, hrefusal]

theorem lifecycleNotes_clear {active : ActiveConversationTurn} (h : lifecycle.active = some active)
    (index : Nat) :
    lifecycleNotes index lifecycle lifecycle.clear =
      [⟨.cleared, index, active.identity.turnId⟩] := by
  simp [lifecycleNotes, h, clear]

theorem qualityNotes_taken {before after : ConversationQualityController Persona}
    {pending : PendingTurn} (hbefore : before.pendingTurn = some pending)
    (hafter : after.pendingTurn = none) (index : Nat) :
    qualityNotes index before after = [⟨.took, index, pending.turnId⟩] := by
  simp [qualityNotes, hbefore, hafter]

theorem Beginning.Move.actsWell {stage reached : Beginning}
    (hmove : Beginning.Move board.context stage reached context) (hboard : Consistent board)
    (h : Warranted board index (.beginTurn stage : ContextCall Persona)) :
    ActsWell index board (.beginTurn reached)
      (board.noting index (.beginTurn stage) (.beginTurn reached) context) := by
  cases hmove with
  | refused transcript error | disowned identity error howns | ceased result =>
    exact .of_leavesTurns (.refl _) rfl trivial
  | reserved transcript identity hidentity hidle =>
    have hturn : identity.turnId = board.context.lifecycle.sequence + 1 := by rw [hidentity]
    rw [noting_lifecycle (by simp only [lifecycleNotes, hidle]; rfl) rfl]
    refine .of_forgets (.reserved identity hturn hidle) ?_ rfl
    exact ⟨did_last _ _ _ _, by simpa using hboard.fresh hturn .resolved,
      by simpa using hboard.fresh hturn .refused⟩
  | resolved identity transcript user quality hpending huser hfree hforgets =>
    obtain ⟨hreserved, hresolved, hrefused⟩ := h
    rw [noting_quality (by simp only [qualityNotes, hfree, hpending]; rfl)]
    exact .of_forgets (.resolved identity.turnId user quality hpending hforgets hreserved
      hresolved hrefused) trivial hforgets.recorded
  | unresolved identity transcript error quality hpending hforgets =>
    obtain ⟨hreserved, hresolved, hrefused⟩ := h
    rw [noting_quality (by rw [qualityNotes_of_pending_eq hpending])]
    exact .of_forgets (.refused identity.turnId quality hpending hforgets hreserved hrefused
      hresolved) (did_last _ _ _ _) hforgets.recorded
  | released identity error howns =>
    obtain ⟨finalizing, hactive⟩ := howns.active
    rw [noting_lifecycle (lifecycleNotes_clear hactive index) rfl]
    exact .of_forgets (.cleared _ hactive ⟨.refused, .inl rfl, h⟩) trivial rfl

theorem Ending.Move.actsWell {stage reached : Ending}
    (hmove : Ending.Move board.context stage reached context) (hboard : Consistent board)
    (h : Warranted board index (.endTurn stage : ContextCall Persona))
    (hfinds : (.endTurn stage : ContextCall Persona).FindsTurn board.context) :
    ActsWell index board (.endTurn reached)
      (board.noting index (.endTurn stage) (.endTurn reached) context) := by
  cases hmove with
  | rejected outcome identity error _ | lost outcome identity result error hactive =>
    exact .of_leavesTurns (.refl _) rfl (by cases outcome <;> trivial)
  | claimed outcome identity hactive =>
    rw [noting_lifecycle (by simp only [lifecycleNotes, hactive]; rfl) rfl]
    refine .of_forgets (.claimed identity hactive) ?_ rfl
    have hdid := did_last board.journal .claimed index identity.turnId
    cases outcome with
    | complete assistant => exact ⟨h, hdid, .inl rfl⟩
    | discard interrupted => exact .inr hdid
  | reclaimed interrupted identity hactive =>
    exact .of_leavesTurns (.refl _) rfl (.inl rfl)
  | appended assistant identity reclaimed pending message hpending hturn hmessage =>
    rw [noting_quality (by rw [qualityNotes_taken hpending rfl])]
    obtain ⟨-, hclaimed, hheld⟩ := h
    obtain ⟨hresolved, hfresh⟩ := hboard.pending pending hpending
    have hactive : board.context.lifecycle.active = some ⟨identity, true⟩ := by
      rcases hheld with hactive | htook | hrefused
      · exact hactive
      · exact absurd (hturn ▸ htook) hfresh
      · exact absurd hresolved (hturn ▸ hboard.refused _ hrefused)
    refine ⟨.appended pending message hpending, ?_, ?_⟩
    · refine ⟨did_snoc.mpr (.inl hclaimed), did_snoc.mpr (.inr ⟨rfl, rfl, hturn.symm⟩), ?_, hactive⟩
      exact mem_append_right _ (mem_singleton.mpr hturn.symm)
    · intro turnId hmem
      rcases mem_append.mp hmem with hold | hnew
      · exact .inl hold
      · exact .inr ⟨assistant, identity, hturn.symm.trans (mem_singleton.mp hnew).symm, .inl rfl⟩
  | overlong assistant identity reclaimed hawaits hlong => exact absurd h.1 (Nat.not_le.mpr hlong)
  | unkept assistant identity reclaimed error hawaits _ =>
    obtain ⟨pending, hpending, hturn⟩ := map_eq_some_iff.mp hawaits
    rw [noting_quality (by rw [qualityNotes_taken hpending rfl])]
    exact .of_forgets (.took pending _ hpending rfl (.of_history rfl (.inl rfl)))
      (did_snoc.mpr (.inl h.2.1)) rfl
  | dropped interrupted identity reclaimed quality hawaits hgone hforgets =>
    obtain ⟨pending, hpending, hturn⟩ := map_eq_some_iff.mp hawaits
    rw [noting_quality (by rw [qualityNotes_taken hpending hgone])]
    refine .of_forgets (.took pending quality hpending hgone hforgets) ?_ hforgets.recorded
    refine ⟨did_snoc.mpr (.inr ⟨rfl, rfl, hturn.symm⟩), ?_⟩
    intro hrecorded
    rw [show quality.recorded = _ from hforgets.recorded] at hrecorded
    exact (hboard.pending pending hpending).2 (hturn ▸ hboard.recorded _ hrecorded)
  | missed outcome identity reclaimed error hmissing =>
    refine .of_leavesTurns (.refl _) rfl ?_
    cases outcome with
    | complete assistant => exact h.2.1
    | discard interrupted =>
      rcases h with rfl | hclaimed
      · exact absurd hfinds hmissing
      · exact hclaimed
  | recovered interrupted identity hmissing => exact absurd hfinds hmissing
  | ended outcome identity hactive =>
    rw [noting_lifecycle (lifecycleNotes_clear hactive index) rfl]
    cases outcome with
    | complete assistant =>
      exact .of_forgets (.cleared _ hactive ⟨.claimed, .inr (.inl rfl), h.1⟩) h.2.2.1 rfl
    | discard interrupted =>
      exact .of_forgets (.cleared _ hactive ⟨.took, .inr (.inr rfl), h.1⟩)
        ⟨(did_snoc.mpr (.inl h.1)).done, h.2⟩ rfl
  | failed outcome identity error howns =>
    obtain ⟨finalizing, hactive⟩ := howns.active
    rw [noting_lifecycle (lifecycleNotes_clear hactive index) rfl]
    have hclaimed : Did board.journal .claimed index identity.turnId := by
      cases outcome <;> exact h
    exact .of_forgets (.cleared _ hactive ⟨.claimed, .inr (.inl rfl), hclaimed⟩)
      (by cases outcome <;> trivial) rfl
  | ceased outcome identity result =>
    exact .of_leavesTurns (.refl _) rfl h

end act

/-! ## Whole runs -/

/-- The call has appended an exchange and not returned yet. -/
def ContextCall.isCommitted : ContextCall Persona → Bool
  | .endTurn (.finish (.complete _) _ (.ok _)) => true
  | _ => false

instance (context : ConversationContext Persona) (call : ContextCall Persona) :
    Decidable (call.FindsTurn context) := by
  unfold ContextCall.FindsTurn
  split
  · exact inferInstance
  · exact instDecidableTrue

/-- The answer that a request completes a turn with is not too long to be looked at. -/
def ContextRequest.Short : ContextRequest Persona → Prop
  | .completeTurn _ assistant => assistant.utf8ByteSize ≤ maxHistoryBytes
  | _ => True

instance (request : ContextRequest Persona) : Decidable request.Short := by
  unfold ContextRequest.Short
  split
  · exact inferInstance
  · exact instDecidableTrue

namespace ContextCalls

/-- No answer is too long for the history, no completion is dropped once its exchange was
appended, and no discard reclaims a turn that was consumed. -/
def Careful (calls : ContextCalls Persona) : ContextAction Persona → Prop
  | .invoke request => request.Short
  | .advance index _ => ∀ call ∈ calls.threads[index]?, call.FindsTurn calls.shared.context
  | .abort index => ∀ call ∈ calls.threads[index]?, call.isCommitted = false

instance (calls : ContextCalls Persona) (action : ContextAction Persona) :
    Decidable (calls.Careful action) :=
  match action with
  | .invoke request => inferInstanceAs (Decidable request.Short)
  | .advance index _ => inferInstanceAs
      (Decidable (∀ call ∈ calls.threads[index]?, call.FindsTurn calls.shared.context))
  | .abort index => inferInstanceAs
      (Decidable (∀ call ∈ calls.threads[index]?, call.isCommitted = false))

variable {calls : ContextCalls Persona}

/-- The board is consistent and every call can rely on what it needs. -/
abbrev Sound (calls : ContextCalls Persona) : Prop := calls.Holds Consistent Warranted

theorem sound_new (persona : Persona) : (new persona).Sound := by
  refine ⟨?_, fun index call hcall => by simp [new] at hcall⟩
  have hnone : ∀ deed turnId, ¬ Done [] deed turnId := fun deed turnId ⟨_, h⟩ => not_mem_nil h
  exact {
    tidy := ⟨fun deed turnId hdone => absurd hdone (hnone deed turnId), .nil,
      fun deed index other turnId hdid => absurd hdid not_mem_nil⟩
    active := fun turnId => ⟨fun h => absurd h.1 (hnone _ _), nofun⟩
    unclaimed := nofun
    pending := nofun
    took := fun turnId hdone => absurd hdone (hnone _ _)
    refused := fun turnId hdone => absurd hdone (hnone _ _)
    recorded := forall_mem_nil _
    once := nodup_nil
    history := forall_mem_nil _ }

section run

variable [DecidableEq Persona] {index : Nat}

/-- Every section of a call acts within its rights. -/
theorem act_actsWell {board : ContextBoard Persona} {call : ContextCall Persona}
    (resolution : Resolution) (hboard : Consistent board) (h : Warranted board index call)
    (hfinds : call.FindsTurn board.context) :
    ActsWell index board (call.act index resolution board).1
      (call.act index resolution board).2 := by
  cases call with
  | beginTurn stage => exact (Beginning.step_move resolution board.context stage).actsWell hboard h
  | endTurn stage => exact (Ending.step_move board.context stage).actsWell hboard h hfinds
  | seedCompletedHistory operationId exchanges =>
    exact .of_leavesTurns (seedCompletedHistory_leavesTurns operationId exchanges board.context) rfl
      trivial
  | applyPersona persona controls =>
    exact .of_leavesTurns (applyPersona_leavesTurns persona controls board.context) rfl trivial
  | answered result | aborted => exact .of_leavesTurns (.refl _) rfl trivial

variable {action : ContextAction Persona}

/-- One step keeps the calls sound. -/
theorem step_sound (hcareful : calls.Careful action) (h : calls.Sound) :
    (calls.step action).Sound := by
  cases action with
  | invoke request =>
    apply h.spawn
    cases request with
    | completeTurn identity assistant => exact hcareful
    | _ => trivial
  | advance index resolution =>
    apply h.advance index
    intro call hcall hwarranted
    have hacts := act_actsWell resolution h.whole hwarranted (hcareful call hcall)
    refine ⟨hacts.change.consistent h.whole, hacts.warranted, ?_⟩
    intro other mate hother _ hmate
    exact hmate.spared h.whole (hacts.change.spares h.whole) hother
  | abort index =>
    apply h.advance index
    intro call _ hwarranted
    refine ⟨h.whole, ?_, fun _ _ _ _ hmate => hmate⟩
    -- what is left of an aborted call has nothing to rely on
    cases call with
    | beginTurn stage => cases stage <;> trivial
    | endTurn stage =>
      cases stage with
      | done outcome identity result => exact hwarranted
      | _ => trivial
    | _ => trivial

/-- A call that is about to return that it completed the turn does return that. -/
theorem act_of_finish {board : ContextBoard Persona} {assistant : String} {identity : TurnIdentity}
    (resolution : Resolution) (h : Warranted board index
      (.endTurn (.finish (.complete assistant) identity (.ok ())) : ContextCall Persona)) :
    ((.endTurn (.finish (.complete assistant) identity (.ok ())) : ContextCall Persona).act index
      resolution board).1 = .endTurn (.done (.complete assistant) identity (.ok ())) := by
  have hactive := h.2.2.2
  simp only [ContextCall.act, ContextCall.step, Ending.step, underLifecycle, finishOutcome,
    read_bind]
  rw [bind_of_ok (require_of_true hactive _)]
  rfl

/-- Every recorded turn has a call that completes it. -/
def Attributed (calls : ContextCalls Persona) : Prop :=
  ∀ turnId ∈ calls.shared.context.quality.recorded, calls.Has (·.Completes turnId)

theorem step_attributed (hcareful : calls.Careful action) (hsound : calls.Sound)
    (h : calls.Attributed) : (calls.step action).Attributed := by
  intro turnId hturn
  cases action with
  | invoke request => exact (h turnId hturn).spawn _
  | advance index resolution =>
    have hkept : ∀ call, calls.threads[index]? = some call → call.Completes turnId →
        (call.act index resolution calls.shared).1.Completes turnId := by
      rintro _ hcall ⟨assistant, identity, hidentity, rfl | rfl⟩
      · have hwarranted := hsound.own index _ hcall
        exact ⟨assistant, identity, hidentity, .inr (act_of_finish resolution hwarranted)⟩
      · exact ⟨assistant, identity, hidentity, .inr rfl⟩
    cases hcall : calls.threads[index]? with
    | none =>
      simp only [step, Pool.advance, hcall] at hturn ⊢
      exact h turnId hturn
    | some call =>
      have hacts := act_actsWell resolution hsound.whole (hsound.own index call hcall)
        (hcareful call hcall)
      simp only [step, Pool.advance, hcall] at hturn
      rcases hacts.recorded turnId hturn with hold | hnew
      · exact (h turnId hold).advance hkept
      · exact .of_advance hcall hnew
  | abort index =>
    have hsame : (calls.step (.abort index)).shared = calls.shared := by
      simp only [step, Pool.advance]
      split <;> rfl
    rw [hsame] at hturn
    apply (h turnId hturn).advance
    rintro _ hcall ⟨assistant, identity, hidentity, rfl | rfl⟩
    · exact absurd (hcareful _ hcall) (by simp [ContextCall.isCommitted])
    · exact ⟨assistant, identity, hidentity, .inr rfl⟩

/-- The history records exactly the completed turns. -/
structure RecordsCompleted (calls : ContextCalls Persona) : Prop where
  /-- The active turn is the only one that was handed out and not taken back. -/
  active : ∀ turnId, Done calls.shared.journal .reserved turnId ∧
      ¬ Done calls.shared.journal .cleared turnId ↔
    calls.shared.context.lifecycle.active.map (·.identity.turnId) = some turnId
  increasing : (handedOut calls.shared.journal).Pairwise (· < ·)
  /-- A call that names another turn returns an error at once and changes nothing. -/
  foreign : ∀ index outcome identity resolution,
    calls.threads[index]? = some (.endTurn (.claim outcome identity)) →
    ¬ calls.shared.context.lifecycle.Owns identity →
    ∃ error, calls.step (.advance index resolution) =
      ⟨calls.shared, calls.threads.set index (.endTurn (.done outcome identity (.error error)))⟩
  completed : ∀ assistant identity,
    .endTurn (.done (.complete assistant) identity (.ok ())) ∈ calls.threads →
    identity.turnId ∈ calls.shared.context.quality.recorded
  /-- What is recorded has a completion that returned, or returns with its next section. -/
  recorded : ∀ turnId ∈ calls.shared.context.quality.recorded,
    ∃ index assistant identity, identity.turnId = turnId ∧ ∀ resolution,
      (calls.step (.advance index resolution)).threads[index]? =
        some (.endTurn (.done (.complete assistant) identity (.ok ())))
  once : calls.shared.context.quality.recorded.Nodup
  history : ∀ exchange ∈ calls.shared.context.quality.history, ∀ turnId,
    exchange.turnId = some turnId → turnId ∈ calls.shared.context.quality.recorded
  discarded : ∀ interrupted identity,
    .endTurn (.done (.discard interrupted) identity (.ok ())) ∈ calls.threads →
    identity.turnId ∉ calls.shared.context.quality.recorded

/-- Its completion returns, or has returned. -/
theorem Sound.completes (h : calls.Sound) {turnId : TurnId}
    (hhas : calls.Has (·.Completes turnId)) :
    ∃ index assistant identity, identity.turnId = turnId ∧ ∀ resolution,
      (calls.step (.advance index resolution)).threads[index]? =
        some (.endTurn (.done (.complete assistant) identity (.ok ()))) := by
  obtain ⟨index, call, hcall, assistant, identity, hidentity, hstage⟩ := hhas
  obtain ⟨hbound, -⟩ := List.getElem?_eq_some_iff.mp hcall
  refine ⟨index, assistant, identity, hidentity, ?_⟩
  intro resolution
  simp only [step, Pool.advance, hcall, getElem?_set_self hbound, some.injEq]
  rcases hstage with rfl | rfl
  · exact act_of_finish resolution (h.own index _ hcall)
  · rfl

/-- In every run in which no answer is too long for the history, no completion is dropped
between the append and its return, and no discard reclaims a turn that was consumed. -/
theorem history_records_completed_turns (persona : Persona) (actions : List (ContextAction Persona))
    (hcareful : Along step Careful (new persona) actions) :
    RecordsCompleted (actions.foldl step (new persona)) := by
  obtain ⟨hsound, hattributed⟩ := hcareful.kept
    (fun calls action haction (h : calls.Sound ∧ calls.Attributed) =>
      ⟨step_sound haction h.1, step_attributed haction h.1 h.2⟩)
    ⟨sound_new persona, forall_mem_nil _⟩
  have hown : ∀ call ∈ (actions.foldl step (new persona)).threads, ∃ index,
      Warranted (actions.foldl step (new persona)).shared index call := by
    intro call hcall
    obtain ⟨index, hindex⟩ := mem_iff_getElem?.mp hcall
    exact ⟨index, hsound.own index call hindex⟩
  exact {
    active := hsound.whole.active
    increasing := hsound.whole.tidy.increasing
    foreign := by
      intro index outcome identity resolution hcall howns
      obtain ⟨error, hrun⟩ := beginOutcome_of_not_owns howns outcome.isDiscard
      refine ⟨error, ?_⟩
      simp only [step, Pool.advance, hcall, ContextCall.act, ContextCall.step, Ending.step,
        underLifecycle, hrun]
      simp [ContextBoard.noting, refusalNotes]
    completed := fun assistant identity hcall => (hown _ hcall).elim fun _ h => h
    recorded := fun turnId hturn => hsound.completes (hattributed turnId hturn)
    once := hsound.whole.once
    history := hsound.whole.history
    discarded := fun interrupted identity hcall => (hown _ hcall).elim fun _ h => h.2 }

end run

/-! ## Two runs -/

/-- A call that is made and runs three sections. -/
def calling (index : Nat) (request : ContextRequest Unit) : List (ContextAction Unit) :=
  [.invoke request, .advance index ⟨false, .ok ()⟩, .advance index ⟨false, .ok ()⟩,
    .advance index ⟨false, .ok ()⟩]

/-- A turn is completed, a second one is discarded, and a third request names an ended turn. -/
theorem history_records_completed_turns_twice :
    RecordsCompleted ((calling 0 (.beginTurn "hello") ++ calling 1 (.completeTurn ⟨1, 1⟩ "hi") ++
      calling 2 (.beginTurn "more") ++ calling 3 (.discardTurn ⟨2, 2⟩ true) ++
      calling 4 (.completeTurn ⟨1, 1⟩ "again")).foldl step (new ())) :=
  history_records_completed_turns () _ (by decide +kernel)

/-- A discard comes in between the append of a completion and its return. -/
def reclaimRace : List (ContextAction Unit) :=
  calling 0 (.beginTurn "hello") ++
    [.invoke (.completeTurn ⟨1, 1⟩ "hi"), .advance 1 ⟨false, .ok ()⟩, .advance 1 ⟨false, .ok ()⟩] ++
    calling 2 (.discardTurn ⟨1, 1⟩ true) ++ [.advance 1 ⟨false, .ok ()⟩]

/-- A completion appends its exchange; before it returns, a discard reclaims the turn, finds it
consumed and returns that it was discarded. The completion fails and the exchange stays. -/
theorem discarded_turn_stays_in_history :
    let calls := reclaimRace.foldl step (new ())
    calls.threads[2]? = some (.endTurn (.done (.discard true) ⟨1, 1⟩ (.ok ()))) ∧
    calls.threads[1]? = some (.endTurn (.done (.complete "hi") ⟨1, 1⟩
      (.error (runtimeError "conversation turn ownership changed during finalization")))) ∧
    calls.shared.context.quality.history.map (fun exchange : CompletedExchange =>
      (exchange.turnId, exchange.user.text, exchange.assistant.text)) =
      [(some 1, "hello", "hi")] := by
  decide +kernel

end ContextCalls

end ConversationRuntime
