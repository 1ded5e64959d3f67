import Mathlib.Data.List.Nodup
import ConversationRuntime.Foundation.Checked
import ConversationRuntime.Foundation.Runs

/-! # Identities of text processing

Every call that processes a text names a turn of its own, taken from a band at the top
of the identifiers. The calls share one atomic counter. A call takes the counter down
first; a call that finds it below the band puts it back in a second step, and any
number of other calls may come between the two.
-/

namespace ConversationRuntime.TextProcessing

open Foundation List Nat

def minTextProcessingTurnId : Nat := u64Max - 2 ^ 32

/-- The counter, and what has become of the calls. -/
structure Identities where
  syntheticSequence : Nat
  /-- What was returned, in the order in which the counter was taken down. -/
  issued : List Nat
  /-- Calls that found the band exhausted and have not put the counter back. -/
  failing : Nat
deriving DecidableEq

/-- The atomic steps of the calls. -/
inductive IdentityStep where
  | fetchSub
  | fetchAdd
deriving DecidableEq

namespace Identities

def start : Identities := ⟨u64Max, [], 0⟩

/-- One step of some call; the counter wraps around. -/
def step (state : Identities) : IdentityStep → Identities
  | .fetchSub =>
    let value := state.syntheticSequence
    let lowered := { state with syntheticSequence := (value + u64Max) % (u64Max + 1) }
    if value < minTextProcessingTurnId then { lowered with failing := state.failing + 1 }
    else { lowered with issued := state.issued ++ [value] }
  | .fetchAdd =>
    if state.failing = 0 then state
    else { state with
      syntheticSequence := (state.syntheticSequence + 1) % (u64Max + 1)
      failing := state.failing - 1 }

/-- A call that starts is one of fewer than the band's floor in flight. -/
def Uncrowded (state : Identities) (action : IdentityStep) : Prop :=
  action = .fetchSub → state.failing + 1 < minTextProcessingTurnId

/-- The whole band was given out. -/
def Exhausted (state : Identities) : Prop :=
  ∀ value, minTextProcessingTurnId ≤ value → value ≤ u64Max → value ∈ state.issued

/-- The identities given out are the topmost ones, the counter lies below them by the
calls that still have to put it back, and there are such calls only when the band is
exhausted. -/
structure Counted (state : Identities) : Prop where
  issued_eq : state.issued = (List.range state.issued.length).map (u64Max - ·)
  counter : state.syntheticSequence + state.issued.length + state.failing = u64Max
  within : minTextProcessingTurnId + state.issued.length ≤ u64Max + 1
  full : state.failing ≠ 0 → minTextProcessingTurnId + state.issued.length = u64Max + 1

theorem lowered_eq {value : Nat} (hpositive : 0 < value) (hbound : value ≤ u64Max) :
    (value + u64Max) % (u64Max + 1) = value - 1 := by
  have hsum : value + u64Max = value - 1 + (u64Max + 1) := by omega
  rw [hsum, add_mod_right, mod_eq_of_lt (by omega)]

variable {state : Identities}

theorem Counted.step (h : state.Counted) {action : IdentityStep}
    (huncrowded : state.Uncrowded action) : (state.step action).Counted := by
  have hcounter := h.counter
  have hwithin := h.within
  have hfull := h.full
  cases action with
  | fetchSub =>
    have hroom : state.failing + 1 < minTextProcessingTurnId := huncrowded rfl
    simp only [Identities.step]
    rw [lowered_eq (by omega) (by omega)]
    split
    next hlow =>
      refine ⟨h.issued_eq, ?_, hwithin, fun _ => ?_⟩
      all_goals dsimp only; omega
    next hhigh =>
      have hvalue : state.syntheticSequence = u64Max - state.issued.length := by omega
      refine ⟨?_, ?_, ?_, ?_⟩
      · simp only [length_append, length_singleton, range_succ, map_append,
          map_singleton, ← h.issued_eq, hvalue]
      all_goals simp only [length_append, length_singleton]; omega
  | fetchAdd =>
    simp only [Identities.step]
    split
    next => exact h
    next hsome =>
      have hdone := hfull hsome
      rw [mod_eq_of_lt (by omega)]
      refine ⟨h.issued_eq, ?_, hwithin, fun _ => hdone⟩
      dsimp only
      omega

theorem Counted.run {actions : List IdentityStep}
    (halong : Along Identities.step Uncrowded state actions) (h : state.Counted) :
    (actions.foldl Identities.step state).Counted :=
  halong.kept (fun _ _ huncrowded hcounted => hcounted.step huncrowded) h

/-- An exhausted band stays exhausted, whatever is put back. -/
theorem Counted.issued_step (h : state.Counted) (hexhausted : state.Exhausted)
    (action : IdentityStep) : (state.step action).issued = state.issued := by
  have hband : minTextProcessingTurnId ≤ u64Max := sub_le _ _
  have hfloor := hexhausted minTextProcessingTurnId (Nat.le_refl _) hband
  rw [h.issued_eq, mem_map] at hfloor
  obtain ⟨index, hindex, hvalue⟩ := hfloor
  have hcounter := h.counter
  rw [mem_range] at hindex
  cases action with
  | fetchSub =>
    have hlow : state.syntheticSequence < minTextProcessingTurnId := by omega
    simp [Identities.step, hlow]
  | fetchAdd =>
    simp only [Identities.step]
    split <;> rfl

/-- The identities that concurrent calls are given differ from one another and lie in
the band. Once the band is exhausted, no call is given another. -/
theorem identities_distinct {actions : List IdentityStep}
    (halong : Along Identities.step Uncrowded start actions) :
    let state := actions.foldl Identities.step start
    state.issued.Nodup ∧
      (∀ value ∈ state.issued, minTextProcessingTurnId ≤ value ∧ value ≤ u64Max) ∧
      ∀ later, state.Exhausted → Along Identities.step Uncrowded state later →
        (later.foldl Identities.step state).issued = state.issued := by
  intro state
  have hcounted : state.Counted := .run halong
    ⟨rfl, rfl, le_succ_of_le (sub_le _ _), nofun⟩
  have hwithin := hcounted.within
  refine ⟨?_, ?_, ?_⟩
  · rw [hcounted.issued_eq]
    refine nodup_range.map_on fun first hfirst second hsecond hsame => ?_
    rw [mem_range] at hfirst hsecond
    omega
  · intro value hvalue
    rw [hcounted.issued_eq] at hvalue
    obtain ⟨index, hindex, rfl⟩ := mem_map.mp hvalue
    rw [mem_range] at hindex
    omega
  · intro later hexhausted hlater
    have hstep : ∀ (reached : Identities) (action : IdentityStep), reached.Uncrowded action →
        reached.Counted ∧ reached.issued = state.issued →
        (reached.step action).Counted ∧ (reached.step action).issued = state.issued := by
      rintro reached action huncrowded ⟨hreached, hsame⟩
      have hfull : reached.Exhausted := fun value => hsame ▸ hexhausted value
      exact ⟨hreached.step huncrowded, (hreached.issued_step hfull action).trans hsame⟩
    exact (hlater.kept hstep ⟨hcounted, rfl⟩).2

theorem identities_distinct_two :
    ([.fetchSub, .fetchSub].foldl step start).issued.Nodup := by
  have halong : Along step Uncrowded start [.fetchSub, .fetchSub] :=
    ⟨fun _ => by decide, fun _ => by decide, trivial⟩
  exact (identities_distinct halong).1

end Identities

end ConversationRuntime.TextProcessing
