import ConversationRuntime.Foundation.Runs
import ConversationRuntime.Foundation.Threads
import ConversationRuntime.Turns.Sections

/-! # Calls of one context

Any number of clients call one context. A call is a thread that runs its sections one
at a time, and the sections of different calls come in any order; a call may be
aborted between two of them. A journal, which the program does not keep, notes what
each section did to the two locked states.
-/

namespace ConversationRuntime

open Foundation ConversationLifecycle

variable {Persona : Type}

/-- A call and how far it has come. -/
inductive ContextCall (Persona : Type) where
  | beginTurn (stage : Beginning)
  | endTurn (stage : Ending)
  | seedCompletedHistory (operationId : String) (exchanges : List ConversationContextExchange)
  | applyPersona (persona : Persona) (controls : Except RuntimeError Unit)
  | answered (result : Except RuntimeError Unit)
  | aborted
deriving DecidableEq

namespace ContextCall

/-- The next section of a call; a call that returned or was aborted has none. -/
def step [DecidableEq Persona] (resolution : Resolution) (context : ConversationContext Persona) :
    ContextCall Persona → ContextCall Persona × ConversationContext Persona
  | beginTurn stage =>
    let ran := stage.step resolution context
    (beginTurn ran.1, ran.2)
  | endTurn stage =>
    let ran := stage.step context
    (endTurn ran.1, ran.2)
  | seedCompletedHistory operationId exchanges =>
    let ran := ConversationContext.seedCompletedHistory operationId exchanges context
    (answered ran.1, ran.2)
  | applyPersona persona controls =>
    let ran := ConversationContext.applyPersona persona controls context
    (answered ran.1, ran.2)
  | answered result => (answered result, context)
  | aborted => (aborted, context)

/-- Drop a call that has not returned. -/
def abort : ContextCall Persona → ContextCall Persona
  | beginTurn (.done result) => beginTurn (.done result)
  | endTurn (.done outcome identity result) => endTurn (.done outcome identity result)
  | answered result => answered result
  | _ => aborted

end ContextCall

/-- What a section did. -/
inductive ContextDeed where
  | reserved
  | resolved
  | refused
  | claimed
  | took
  | cleared
deriving DecidableEq

/-- A deed, the call that did it and the turn it was done to. -/
structure ContextNote where
  deed : ContextDeed
  index : Nat
  turnId : TurnId
deriving DecidableEq

def lifecycleNotes (index : Nat) (before after : ConversationLifecycle) : List ContextNote :=
  match before.active, after.active with
  | none, some active => [⟨.reserved, index, active.identity.turnId⟩]
  | some active, none => [⟨.cleared, index, active.identity.turnId⟩]
  | some ⟨identity, false⟩, some ⟨_, true⟩ => [⟨.claimed, index, identity.turnId⟩]
  | _, _ => []

def qualityNotes (index : Nat) (before after : ConversationQualityController Persona) :
    List ContextNote :=
  match before.pendingTurn, after.pendingTurn with
  | none, some pending => [⟨.resolved, index, pending.turnId⟩]
  | some pending, none => [⟨.took, index, pending.turnId⟩]
  | _, _ => []

def refusalNotes (index : Nat) : ContextCall Persona → ContextCall Persona → List ContextNote
  | .beginTurn (.resolve identity _), .beginTurn (.release _ _) =>
    [⟨.refused, index, identity.turnId⟩]
  | _, _ => []

/-- The context and what was done to it. -/
structure ContextBoard (Persona : Type) where
  context : ConversationContext Persona
  journal : List ContextNote
deriving DecidableEq

/-- The board after the section of a call that reached `context`. -/
def ContextBoard.noting (board : ContextBoard Persona) (index : Nat)
    (call reached : ContextCall Persona) (context : ConversationContext Persona) :
    ContextBoard Persona :=
  ⟨context, board.journal ++ lifecycleNotes index board.context.lifecycle context.lifecycle ++
    qualityNotes index board.context.quality context.quality ++ refusalNotes index call reached⟩

/-- One section of the call at `index`, noted down. -/
def ContextCall.act [DecidableEq Persona] (index : Nat) (resolution : Resolution)
    (call : ContextCall Persona) (board : ContextBoard Persona) :
    ContextCall Persona × ContextBoard Persona :=
  let ran := call.step resolution board.context
  (ran.1, board.noting index call ran.1 ran.2)

/-- The calls of a context and the context. -/
abbrev ContextCalls (Persona : Type) : Type := Pool (ContextBoard Persona) (ContextCall Persona)

inductive ContextRequest (Persona : Type) where
  | beginTurn (transcript : String)
  | completeTurn (identity : TurnIdentity) (assistant : String)
  | discardTurn (identity : TurnIdentity) (interrupted : Bool)
  | seedCompletedHistory (operationId : String) (exchanges : List ConversationContextExchange)
  | applyPersona (persona : Persona) (controls : Except RuntimeError Unit)

def ContextRequest.call : ContextRequest Persona → ContextCall Persona
  | beginTurn transcript => .beginTurn (.reserve transcript)
  | completeTurn identity assistant => .endTurn (.claim (.complete assistant) identity)
  | discardTurn identity interrupted => .endTurn (.claim (.discard interrupted) identity)
  | seedCompletedHistory operationId exchanges => .seedCompletedHistory operationId exchanges
  | applyPersona persona controls => .applyPersona persona controls

/-- What can happen next: a client calls, a call runs its next section, or one is
aborted. -/
inductive ContextAction (Persona : Type) where
  | invoke (request : ContextRequest Persona)
  | advance (index : Nat) (resolution : Resolution)
  | abort (index : Nat)

namespace ContextCalls

def new (persona : Persona) : ContextCalls Persona := ⟨⟨.new persona, []⟩, []⟩

def step [DecidableEq Persona] (calls : ContextCalls Persona) :
    ContextAction Persona → ContextCalls Persona
  | .invoke request => calls.spawn request.call
  | .advance index resolution => calls.advance (ContextCall.act index resolution) index
  | .abort index => calls.advance (fun call board => (call.abort, board)) index

/-- The turns that were handed out, in order. -/
def handedOut (journal : List ContextNote) : List TurnId :=
  (journal.filter (·.deed = .reserved)).map (·.turnId)

end ContextCalls

/-! ## The journal of a context

The journal says who did what to a turn: every deed is done to a turn at most once, and
the right to do it comes from an earlier one. The two locked states of the context
agree with it, and every change that a section can make keeps them so.
-/

open ContextCalls List Option

/-- The call at `index` did this to the turn. -/
def Did (journal : List ContextNote) (deed : ContextDeed) (index : Nat) (turnId : TurnId) : Prop :=
  ⟨deed, index, turnId⟩ ∈ journal

/-- Some call did this to the turn. -/
def Done (journal : List ContextNote) (deed : ContextDeed) (turnId : TurnId) : Prop :=
  ∃ index, Did journal deed index turnId

variable {journal : List ContextNote} {deed : ContextDeed} {index : Nat} {turnId : TurnId}

theorem Did.done (h : Did journal deed index turnId) : Done journal deed turnId := ⟨index, h⟩

variable {noted : ContextDeed} {turn : TurnId} {author : Nat}

@[simp] theorem did_snoc :
    Did (journal ++ [⟨noted, author, turn⟩]) deed index turnId ↔
      Did journal deed index turnId ∨ deed = noted ∧ index = author ∧ turnId = turn := by
  simp [Did]

theorem did_last (journal : List ContextNote) (deed : ContextDeed) (index : Nat) (turnId : TurnId) :
    Did (journal ++ [⟨deed, index, turnId⟩]) deed index turnId :=
  did_snoc.mpr (.inr ⟨rfl, rfl, rfl⟩)

@[simp] theorem done_snoc :
    Done (journal ++ [⟨noted, author, turn⟩]) deed turnId ↔
      Done journal deed turnId ∨ deed = noted ∧ turnId = turn := by
  constructor
  · rintro ⟨index, h⟩
    rcases did_snoc.mp h with hdid | ⟨hdeed, -, hturn⟩
    · exact .inl hdid.done
    · exact .inr ⟨hdeed, hturn⟩
  · rintro (⟨index, hdid⟩ | ⟨hdeed, hturn⟩)
    · exact ⟨index, did_snoc.mpr (.inl hdid)⟩
    · exact ⟨author, did_snoc.mpr (.inr ⟨hdeed, rfl, hturn⟩)⟩

/-- Nothing is done to a turn twice. -/
def AtMostOnce (journal : List ContextNote) : Prop :=
  ∀ deed index other turnId, Did journal deed index turnId → Did journal deed other turnId →
    index = other

theorem AtMostOnce.snoc (h : AtMostOnce journal) (hfresh : ¬ Done journal deed turnId)
    (index : Nat) :
    AtMostOnce (journal ++ [⟨deed, index, turnId⟩]) := by
  intro other first second turn hfirst hsecond
  rcases did_snoc.mp hfirst with hold | ⟨rfl, rfl, rfl⟩
  · rcases did_snoc.mp hsecond with hsecond | ⟨rfl, rfl, rfl⟩
    · exact h other first second turn hold hsecond
    · exact absurd hold.done hfresh
  · rcases did_snoc.mp hsecond with hold | ⟨-, hsame, -⟩
    · exact absurd hold.done hfresh
    · exact hsame.symm

/-- The journal: turns are handed out in increasing order, and nothing is done to a
turn twice. -/
structure Tidy (sequence : Nat) (journal : List ContextNote) : Prop where
  bounded : ∀ deed turnId, Done journal deed turnId → turnId ≤ sequence
  increasing : (handedOut journal).Pairwise (· < ·)
  once : AtMostOnce journal

/-- A deed that was not done before can be noted. -/
theorem Tidy.snoc {sequence : Nat} (h : Tidy sequence journal) (hfresh : ¬ Done journal deed turnId)
    (hbound : turnId ≤ sequence) (hdeed : deed ≠ .reserved) (index : Nat) :
    Tidy sequence (journal ++ [⟨deed, index, turnId⟩]) where
  bounded := by
    intro other turn hdone
    rcases done_snoc.mp hdone with hdone | ⟨-, rfl⟩
    · exact h.bounded other turn hdone
    · exact hbound
  increasing := by
    have hsame : handedOut (journal ++ [⟨deed, index, turnId⟩]) = handedOut journal := by
      simp [handedOut, filter_append, hdeed]
    rw [hsame]
    exact h.increasing
  once := h.once.snoc hfresh index

/-- The next turn can be handed out. -/
theorem Tidy.reserve {sequence : Nat} (h : Tidy sequence journal) (index : Nat) :
    Tidy (sequence + 1) (journal ++ [⟨.reserved, index, sequence + 1⟩]) where
  bounded := by
    intro deed turn hdone
    rcases done_snoc.mp hdone with hdone | ⟨-, rfl⟩
    · exact Nat.le_succ_of_le (h.bounded deed turn hdone)
    · exact Nat.le_refl _
  increasing := by
    have hnext : handedOut (journal ++ [⟨.reserved, index, sequence + 1⟩]) =
        handedOut journal ++ [sequence + 1] := by
      simp [handedOut, filter_append]
    rw [hnext]
    refine pairwise_snoc h.increasing fun earlier hearlier => ?_
    obtain ⟨note, hnote, rfl⟩ := mem_map.mp hearlier
    have hdone : Done journal note.deed note.turnId := ⟨note.index, (mem_filter.mp hnote).1⟩
    exact Nat.lt_succ_of_le (h.bounded _ _ hdone)
  once := h.once.snoc (fun hdone => Nat.not_succ_le_self _ (h.bounded _ _ hdone)) index

/-- The two locked states agree with the journal. -/
structure Consistent (board : ContextBoard Persona) : Prop where
  tidy : Tidy board.context.lifecycle.sequence board.journal
  active : ∀ turnId, Done board.journal .reserved turnId ∧ ¬ Done board.journal .cleared turnId ↔
    board.context.lifecycle.active.map (·.identity.turnId) = some turnId
  unclaimed : ∀ identity, board.context.lifecycle.active = some ⟨identity, false⟩ →
    ¬ Done board.journal .claimed identity.turnId
  pending : ∀ pending, board.context.quality.pendingTurn = some pending →
    Done board.journal .resolved pending.turnId ∧ ¬ Done board.journal .took pending.turnId
  took : ∀ turnId, Done board.journal .took turnId → Done board.journal .resolved turnId
  refused : ∀ turnId, Done board.journal .refused turnId → ¬ Done board.journal .resolved turnId
  recorded : ∀ turnId ∈ board.context.quality.recorded, Done board.journal .took turnId
  once : board.context.quality.recorded.Nodup
  history : ∀ exchange ∈ board.context.quality.history, ∀ turnId, exchange.turnId = some turnId →
    turnId ∈ board.context.quality.recorded

/-- The ways a section can change the board, with the right it has to. -/
inductive BoardChange (index : Nat) (board : ContextBoard Persona) : ContextBoard Persona → Prop
  | same : BoardChange index board board
  | forgot (lifecycle : ConversationLifecycle) (quality : ConversationQualityController Persona)
      (hsequence : lifecycle.sequence = board.context.lifecycle.sequence)
      (hactive : lifecycle.active = board.context.lifecycle.active)
      (hpending : quality.pendingTurn = board.context.quality.pendingTurn)
      (hforgets : board.context.quality.Forgets quality) :
      BoardChange index board ⟨⟨lifecycle, quality⟩, board.journal⟩
  | reserved (identity : TurnIdentity)
      (hidentity : identity.turnId = board.context.lifecycle.sequence + 1)
      (hidle : board.context.lifecycle.active = none) :
      BoardChange index board
        ⟨{ board.context with lifecycle := { board.context.lifecycle with
            sequence := board.context.lifecycle.sequence + 1, active := some ⟨identity, false⟩ } },
          board.journal ++ [⟨.reserved, index, identity.turnId⟩]⟩
  | resolved (turnId : TurnId) (user : ConversationMessage)
      (quality : ConversationQualityController Persona)
      (hpending : quality.pendingTurn = some ⟨turnId, user⟩)
      (hforgets : board.context.quality.Forgets quality)
      (hright : Did board.journal .reserved index turnId)
      (hfresh : ¬ Done board.journal .resolved turnId)
      (hopen : ¬ Done board.journal .refused turnId) :
      BoardChange index board
        ⟨{ board.context with quality }, board.journal ++ [⟨.resolved, index, turnId⟩]⟩
  | refused (turnId : TurnId) (quality : ConversationQualityController Persona)
      (hpending : quality.pendingTurn = board.context.quality.pendingTurn)
      (hforgets : board.context.quality.Forgets quality)
      (hright : Did board.journal .reserved index turnId)
      (hfresh : ¬ Done board.journal .refused turnId)
      (hopen : ¬ Done board.journal .resolved turnId) :
      BoardChange index board
        ⟨{ board.context with quality }, board.journal ++ [⟨.refused, index, turnId⟩]⟩
  | claimed (identity : TurnIdentity)
      (hactive : board.context.lifecycle.active = some ⟨identity, false⟩) :
      BoardChange index board
        ⟨{ board.context with lifecycle := { board.context.lifecycle with
            active := some ⟨identity, true⟩ } },
          board.journal ++ [⟨.claimed, index, identity.turnId⟩]⟩
  | cleared (active : ActiveConversationTurn)
      (hactive : board.context.lifecycle.active = some active)
      (hright : ∃ deed, (deed = .refused ∨ deed = .claimed ∨ deed = .took) ∧
        Did board.journal deed index active.identity.turnId) :
      BoardChange index board
        ⟨{ board.context with lifecycle := board.context.lifecycle.clear },
          board.journal ++ [⟨.cleared, index, active.identity.turnId⟩]⟩
  | took (pending : PendingTurn) (quality : ConversationQualityController Persona)
      (hpending : board.context.quality.pendingTurn = some pending)
      (hgone : quality.pendingTurn = none) (hforgets : board.context.quality.Forgets quality) :
      BoardChange index board
        ⟨{ board.context with quality }, board.journal ++ [⟨.took, index, pending.turnId⟩]⟩
  | appended (pending : PendingTurn) (message : ConversationMessage)
      (hpending : board.context.quality.pendingTurn = some pending) :
      BoardChange index board
        ⟨{ board.context with quality := board.context.quality.taken.append pending message },
          board.journal ++ [⟨.took, index, pending.turnId⟩]⟩

namespace Consistent

variable {board : ContextBoard Persona} (h : Consistent board)

include h

/-- Nothing was ever done to the turn handed out next. -/
theorem fresh (hturn : turnId = board.context.lifecycle.sequence + 1) (deed : ContextDeed) :
    ¬ Done board.journal deed turnId := by
  intro hdone
  have hbound := h.tidy.bounded deed turnId hdone
  rw [hturn] at hbound
  exact Nat.not_succ_le_self _ hbound

/-- The number of the active turn was handed out and not taken back. -/
theorem open_of_active {active : ActiveConversationTurn}
    (hactive : board.context.lifecycle.active = some active) :
    Done board.journal .reserved active.identity.turnId ∧
      ¬ Done board.journal .cleared active.identity.turnId := by
  apply (h.active _).mpr
  rw [hactive]
  rfl

/-- Forgetting leaves no exchange without its record. -/
theorem history_of_forgets {quality : ConversationQualityController Persona}
    (hforgets : board.context.quality.Forgets quality) :
    ∀ exchange ∈ quality.history, ∀ turnId, exchange.turnId = some turnId →
      turnId ∈ quality.recorded := by
  intro exchange hexchange turnId hturn
  rw [hforgets.recorded]
  rcases hforgets.history exchange hexchange with hnone | hold
  · rw [hnone] at hturn
    cases hturn
  · exact h.history exchange hold turnId hturn

end Consistent

/-! ## What every change keeps -/

namespace BoardChange

variable {board after : ContextBoard Persona} (hchange : BoardChange index board after)
  (h : Consistent board)

include hchange h

theorem tidy : Tidy after.context.lifecycle.sequence after.journal := by
  cases hchange with
  | same => exact h.tidy
  | forgot _ _ hsequence => exact hsequence ▸ h.tidy
  | reserved _ hidentity =>
    rw [hidentity]
    exact h.tidy.reserve index
  | resolved _ _ _ _ _ hright hfresh | refused _ _ _ _ hright hfresh =>
    exact h.tidy.snoc hfresh (h.tidy.bounded _ _ hright.done) nofun index
  | claimed identity hactive =>
    have hreserved := (h.open_of_active hactive).1
    exact h.tidy.snoc (h.unclaimed identity hactive) (h.tidy.bounded _ _ hreserved) nofun index
  | cleared _ hactive =>
    obtain ⟨hreserved, hopen⟩ := h.open_of_active hactive
    exact h.tidy.snoc hopen (h.tidy.bounded _ _ hreserved) nofun index
  | took _ _ hpending | appended _ _ hpending =>
    obtain ⟨hresolved, hfresh⟩ := h.pending _ hpending
    exact h.tidy.snoc hfresh (h.tidy.bounded _ _ hresolved) nofun index

variable (turnId : TurnId)

theorem active : Done after.journal .reserved turnId ∧ ¬ Done after.journal .cleared turnId ↔
      after.context.lifecycle.active.map (·.identity.turnId) = some turnId := by
  have hsame := h.active turnId
  cases hchange with
  | forgot _ _ _ hactive => exact hactive ▸ hsame
  | reserved identity hidentity hidle =>
    -- whatever was handed out before was taken back
    rw [hidle] at hsame
    simp only [done_snoc, map_some, some.injEq, reduceCtorEq, false_and, or_false, true_and]
    constructor
    · rintro ⟨hreserved | rfl, hopen⟩
      · cases hsame.mp ⟨hreserved, hopen⟩
      · rfl
    · rintro rfl
      exact ⟨.inr rfl, h.fresh hidentity .cleared⟩
  | claimed _ hactive =>
    rw [hactive] at hsame
    simpa using hsame
  | cleared _ hactive =>
    -- it was the only turn handed out and not taken back
    rw [hactive] at hsame
    simp only [done_snoc, reduceCtorEq, false_and, or_false, true_and, not_or, clear,
      map_none, iff_false, not_and, not_not]
    intro hreserved hcleared
    exact (some.inj (hsame.mp ⟨hreserved, hcleared⟩)).symm
  | _ => simpa using hsame

theorem unclaimed {identity : TurnIdentity}
    (hactive : after.context.lifecycle.active = some ⟨identity, false⟩) :
    ¬ Done after.journal .claimed identity.turnId := by
  cases hchange with
  | forgot _ _ _ hsame => exact h.unclaimed identity (hsame.symm.trans hactive)
  | reserved _ hidentity =>
    cases hactive
    simpa using h.fresh hidentity .claimed
  | claimed | cleared => cases hactive
  | _ => simpa using h.unclaimed identity hactive

theorem pending {pending : PendingTurn}
    (hpending : after.context.quality.pendingTurn = some pending) :
    Done after.journal .resolved pending.turnId ∧ ¬ Done after.journal .took pending.turnId := by
  cases hchange with
  | forgot _ _ _ _ hsame => exact h.pending pending (hsame.symm.trans hpending)
  | resolved turnId _ _ hmine _ _ hfresh =>
    cases hmine.symm.trans hpending
    -- a turn that was not resolved was not taken either
    simpa using fun htook => hfresh (h.took turnId htook)
  | refused _ _ hsame => simpa using h.pending pending (hsame.symm.trans hpending)
  | took _ _ _ hgone => cases hgone.symm.trans hpending
  | appended => cases hpending
  | _ => simpa using h.pending pending hpending

theorem resolved_of_took (hdone : Done after.journal .took turnId) :
    Done after.journal .resolved turnId := by
  cases hchange with
  | resolved =>
    simp only [done_snoc, reduceCtorEq, false_and, or_false] at hdone ⊢
    exact .inl (h.took turnId hdone)
  | took _ _ hpending | appended _ _ hpending =>
    simp only [done_snoc, reduceCtorEq, false_and, or_false, true_and] at hdone ⊢
    rcases hdone with hdone | rfl
    · exact h.took turnId hdone
    · exact (h.pending _ hpending).1
  | _ => simpa using h.took turnId (by simpa using hdone)

theorem unresolved_of_refused (hdone : Done after.journal .refused turnId) :
    ¬ Done after.journal .resolved turnId := by
  cases hchange with
  | resolved _ _ _ _ _ _ _ hopen =>
    simp only [done_snoc, reduceCtorEq, false_and, or_false, true_and, not_or] at hdone ⊢
    refine ⟨h.refused turnId hdone, ?_⟩
    rintro rfl
    exact hopen hdone
  | refused _ _ _ _ _ _ hopen =>
    simp only [done_snoc, reduceCtorEq, false_and, or_false, true_and] at hdone ⊢
    rcases hdone with hdone | rfl
    · exact h.refused turnId hdone
    · exact hopen
  | _ => simpa using h.refused turnId (by simpa using hdone)

theorem recorded (hrecorded : turnId ∈ after.context.quality.recorded) :
    Done after.journal .took turnId := by
  cases hchange with
  | forgot _ _ _ _ _ hforgets => exact h.recorded turnId (hforgets.recorded ▸ hrecorded)
  | resolved _ _ _ _ hforgets | refused _ _ _ hforgets | took _ _ _ _ hforgets =>
    exact done_snoc.mpr (.inl (h.recorded turnId (hforgets.recorded ▸ hrecorded)))
  | appended =>
    rw [done_snoc]
    rcases mem_append.mp hrecorded with hold | hnew
    · exact .inl (h.recorded turnId hold)
    · exact .inr ⟨rfl, mem_singleton.mp hnew⟩
  | _ => simpa using h.recorded turnId hrecorded

theorem once : after.context.quality.recorded.Nodup := by
  cases hchange with
  | forgot _ _ _ _ _ hforgets | resolved _ _ _ _ hforgets | refused _ _ _ hforgets
  | took _ _ _ _ hforgets =>
    rw [show _ = _ from hforgets.recorded]
    exact h.once
  | appended pending _ hpending =>
    -- it was not recorded, for what is recorded was taken
    have hfresh : pending.turnId ∉ board.context.quality.recorded := fun hold =>
      (h.pending pending hpending).2 (h.recorded _ hold)
    refine nodup_append.mpr ⟨h.once, nodup_singleton _, ?_⟩
    intro first hfirst second hsecond
    rw [mem_singleton.mp hsecond]
    exact fun hsame => hfresh (hsame ▸ hfirst)
  | _ => exact h.once

theorem history : ∀ exchange ∈ after.context.quality.history, ∀ turnId,
    exchange.turnId = some turnId → turnId ∈ after.context.quality.recorded := by
  cases hchange with
  | forgot _ _ _ _ _ hforgets | resolved _ _ _ _ hforgets | refused _ _ _ hforgets
  | took _ _ _ _ hforgets => exact h.history_of_forgets hforgets
  | appended =>
    intro exchange hexchange turnId hturn
    rcases mem_append.mp (ConversationQualityController.mem_of_mem_enforceHistoryBounds
      hexchange) with hold | hnew
    · exact mem_append_left _ (h.history exchange hold turnId hturn)
    · rw [mem_singleton.mp hnew] at hturn
      cases hturn
      exact mem_append_right _ (mem_singleton_self _)
  | _ => exact h.history

/-- Every change keeps the two states consistent. -/
theorem consistent : Consistent after where
  tidy := hchange.tidy h
  active := hchange.active h
  unclaimed _ := hchange.unclaimed h
  pending _ := hchange.pending h
  took := hchange.resolved_of_took h
  refused := hchange.unresolved_of_refused h
  recorded := hchange.recorded h
  once := hchange.once h
  history := hchange.history h

end BoardChange

end ConversationRuntime
