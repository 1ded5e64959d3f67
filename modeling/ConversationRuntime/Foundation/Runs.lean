import Mathlib.Data.List.Basic

/-! # Runs of a machine

A machine takes one action after another. A property that every action keeps,
given what is assumed of the actions, holds at the end of every run; it may
speak about the actions taken so far.
-/

namespace Foundation

open List

variable {σ α : Type}

/-- Every action of a run, with the state it is taken in, satisfies `holds`. -/
def Along (step : σ → α → σ) (holds : σ → α → Prop) : σ → List α → Prop
  | _, [] => True
  | state, action :: rest => holds state action ∧ Along step holds (step state action) rest

variable {step : σ → α → σ} {holds : σ → α → Prop}

instance Along.decidable [∀ state action, Decidable (holds state action)] :
    ∀ state actions, Decidable (Along step holds state actions)
  | _, [] => inferInstanceAs (Decidable True)
  | state, action :: rest =>
    let _ := Along.decidable (step state action) rest
    inferInstanceAs (Decidable (holds state action ∧ Along step holds (step state action) rest))

/-- What every such action keeps of the state, the run keeps. -/
theorem Along.kept {kept : σ → Prop}
    (hstep : ∀ state action, holds state action → kept state → kept (step state action))
    {actions : List α} {state : σ} (halong : Along step holds state actions) (h : kept state) :
    kept (actions.foldl step state) := by
  induction actions generalizing state with
  | nil => exact h
  | cons action rest ih => exact ih halong.2 (hstep state action halong.1 h)

variable {state : σ} {before after : List α}

/-- What is known of every action can be assumed where it is taken. -/
theorem Along.knowing {known : α → Prop} {actions : List α} (h : Along step holds state actions)
    (hknown : ∀ action ∈ actions, known action) :
    Along step (fun state action => holds state action ∧ known action) state actions := by
  induction actions generalizing state with
  | nil => trivial
  | cons action rest ih =>
    refine ⟨⟨h.1, hknown action mem_cons_self⟩, ih h.2 ?_⟩
    exact fun other hother => hknown other (mem_cons_of_mem action hother)

section Idle

variable {actions : List α} {state : σ} (hidle : ∀ action ∈ actions, step state action = state)

include hidle

theorem foldl_idle : actions.foldl step state = state := by
  induction actions with
  | nil => rfl
  | cons action rest ih =>
    rw [foldl_cons, hidle action mem_cons_self]
    exact ih (forall_mem_cons.mp hidle).2

theorem Along.of_idle (h : ∀ action ∈ actions, holds state action) :
    Along step holds state actions := by
  induction actions with
  | nil => trivial
  | cons action rest ih =>
    refine ⟨h action mem_cons_self, ?_⟩
    rw [hidle action mem_cons_self]
    exact ih (forall_mem_cons.mp hidle).2 (forall_mem_cons.mp h).2

end Idle

theorem Along.left (h : Along step holds state (before ++ after)) :
    Along step holds state before := by
  induction before generalizing state with
  | nil => trivial
  | cons action rest ih => exact ⟨h.1, ih h.2⟩

theorem Along.right (h : Along step holds state (before ++ after)) :
    Along step holds (before.foldl step state) after := by
  induction before generalizing state with
  | nil => exact h
  | cons action rest ih => exact ih h.2

theorem Along.append (h : Along step holds state before)
    (hafter : Along step holds (before.foldl step state) after) :
    Along step holds state (before ++ after) := by
  induction before generalizing state with
  | nil => exact hafter
  | cons action rest ih => exact ⟨h.1, ih h.2 hafter⟩

end Foundation
