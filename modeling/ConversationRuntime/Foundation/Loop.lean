import Mathlib.Data.List.Basic

/-! # Loops that may not end

A loop runs its body until the body leaves it. It is run for a number of turns;
no result means that the turns did not suffice. A loop whose body lowers a
measure ends within as many turns as the measure says.
-/

namespace Foundation

/-- What one turn of a loop decides. -/
inductive Turn (σ α : Type) where
  | again (state : σ)
  | done (value : α)

variable {σ α : Type}

/-- The value the loop leaves with, if it leaves within `turns` turns. -/
def loop (body : σ → Turn σ α) : Nat → σ → Option α
  | 0, _ => none
  | turns + 1, state =>
    match body state with
    | .again next => loop body turns next
    | .done value => some value

variable {body : σ → Turn σ α} {turns : Nat} {state next : σ} {value : α}

theorem loop_of_again (h : body state = .again next) :
    loop body (turns + 1) state = loop body turns next := by
  rw [loop, h]

theorem loop_of_done (h : body state = .done value) : loop body (turns + 1) state = some value := by
  rw [loop, h]

/-- A loop that keeps an invariant and lowers a measure leaves with a value that
meets its postcondition. -/
theorem exists_loop_eq {invariant : σ → Prop} {after : α → Prop} (measure : σ → Nat)
    (hagain : ∀ state next, invariant state → body state = .again next →
      invariant next ∧ measure next < measure state)
    (hdone : ∀ state value, invariant state → body state = .done value → after value)
    (hstate : invariant state) (hturns : measure state < turns) :
    ∃ value, loop body turns state = some value ∧ after value := by
  induction turns generalizing state with
  | zero => exact absurd hturns (Nat.not_lt_zero _)
  | succ turns ih =>
    cases hbody : body state with
    | again next =>
      obtain ⟨hnext, hless⟩ := hagain state next hstate hbody
      rw [loop_of_again hbody]
      exact ih hnext (by omega)
    | done value => exact ⟨value, loop_of_done hbody, hdone state value hstate hbody⟩

end Foundation
