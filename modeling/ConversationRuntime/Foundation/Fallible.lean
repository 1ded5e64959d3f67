import Mathlib.Data.List.Basic

/-! # Failing computations that keep their state

A `Fallible` computation may stop with an error, and the changes it had made to
its state stay made. This is what a method that borrows its receiver mutably
and returns early with `?` does. Its triples therefore carry two
postconditions, one for the value returned and one for the error.
-/

namespace Foundation

/-- A computation over a state that ends in a value or an error and returns the
state it reached in either case. -/
def Fallible (σ ε α : Type) : Type := σ → Except ε α × σ

namespace Fallible

variable {σ ε α β : Type}

/-- Continue after a value; an error skips the rest. -/
def andThen (first : Fallible σ ε α) (next : α → Fallible σ ε β) : Fallible σ ε β := fun state =>
  match first state with
  | (.ok value, reached) => next value reached
  | (.error error, reached) => (.error error, reached)

instance : Monad (Fallible σ ε) where
  pure value := fun state => (.ok value, state)
  bind := andThen

/-- What is found by evaluating a result and a test of it. -/
theorem exists_ok (result : Except ε α) (test : α → Bool) (h : result.toOption.any test = true) :
    ∃ value, result = .ok value ∧ test value = true := by
  cases result with
  | error error => cases h
  | ok value => exact ⟨value, rfl, h⟩

theorem exists_run (outcome : Except ε α × σ) (test : α → Bool)
    (h : outcome.1.toOption.any test = true) :
    ∃ value reached, outcome = (.ok value, reached) ∧ test value = true := by
  obtain ⟨value, hvalue, htest⟩ := exists_ok outcome.1 test h
  exact ⟨value, outcome.2, Prod.ext hvalue rfl, htest⟩

def read : Fallible σ ε σ := fun state => (.ok state, state)

def update (change : σ → σ) : Fallible σ ε Unit := fun state => (.ok (), change state)

def fail (error : ε) : Fallible σ ε α := fun state => (.error error, state)

/-- A value already computed, or the error it was computed to. -/
def lift (result : Except ε α) : Fallible σ ε α := fun state => (result, state)

/-- Stop with `error` unless the condition holds. -/
def require (condition : Prop) [Decidable condition] (error : ε) : Fallible σ ε Unit := fun state =>
  if condition then (.ok (), state) else (.error error, state)

/-- Run a program under a condition, and do nothing otherwise. -/
def onlyIf (condition : Bool) (program : Fallible σ ε Unit) : Fallible σ ε Unit :=
  if condition then program else pure ()

/-- Run a program as one transaction: an error takes back what the program changed. -/
def atomically (program : Fallible σ ε α) : Fallible σ ε α := fun state =>
  match program state with
  | (.ok value, reached) => (.ok value, reached)
  | (.error error, _) => (.error error, state)

theorem pure_apply (value : α) (state : σ) :
    (pure value : Fallible σ ε α) state = (.ok value, state) := rfl

theorem bind_apply (first : Fallible σ ε α) (next : α → Fallible σ ε β) (state : σ) :
    (first >>= next) state = match first state with
      | (.ok value, reached) => next value reached
      | (.error error, reached) => (.error error, reached) := rfl

variable {condition : Prop} [Decidable condition] {result : Except ε α}
  {rest : Unit → Fallible σ ε β}

section

variable {first program : Fallible σ ε α} {next : α → Fallible σ ε β} {state reached : σ}
  {value : α} {error : ε}

theorem bind_of_ok (h : first state = (.ok value, reached)) :
    (first >>= next) state = next value reached := by
  rw [bind_apply, h]

theorem bind_of_error (h : first state = (.error error, reached)) :
    (first >>= next) state = (.error error, reached) := by
  rw [bind_apply, h]

theorem require_of_true (h : condition) (state : σ) :
    require condition error state = (.ok (), state) := if_pos h

theorem require_of_false (h : ¬ condition) (state : σ) :
    require condition error state = (.error error, state) := if_neg h

theorem read_bind (next : σ → Fallible σ ε β) (state : σ) :
    ((read : Fallible σ ε σ) >>= next) state = next state state := rfl

theorem update_bind (change : σ → σ) (next : Unit → Fallible σ ε β) (state : σ) :
    ((update change : Fallible σ ε Unit) >>= next) state = next () (change state) := rfl

theorem atomically_of_ok (h : program state = (.ok value, reached)) :
    atomically program state = (.ok value, reached) := by
  rw [atomically, h]

theorem atomically_of_error (h : program state = (.error error, reached)) :
    atomically program state = (.error error, state) := by
  rw [atomically, h]

/-! What is known of a program that returned. -/

theorem returned_bind {value : β} (h : (first >>= next) state = (.ok value, reached)) :
    ∃ middle between, first state = (.ok middle, between) ∧
      next middle between = (.ok value, reached) := by
  rw [bind_apply] at h
  split at h
  next middle between hfirst => exact ⟨middle, between, hfirst, h⟩
  next => cases h

theorem returned_require {value : Unit}
    (h : (require condition error : Fallible σ ε Unit) state = (.ok value, reached)) :
    condition ∧ reached = state := by
  by_cases hcondition : condition
  · rw [require_of_true hcondition] at h
    cases h
    exact ⟨hcondition, rfl⟩
  · rw [require_of_false hcondition] at h
    cases h

theorem returned_require_bind {value : β}
    (h : (require condition error >>= rest) state = (.ok value, reached)) :
    condition ∧ rest () state = (.ok value, reached) := by
  obtain ⟨_, between, hfirst, hnext⟩ := returned_bind h
  obtain ⟨hcondition, rfl⟩ := returned_require hfirst
  exact ⟨hcondition, hnext⟩

theorem returned_lift_bind {value : β} (h : (lift result >>= next) state = (.ok value, reached)) :
    ∃ middle, result = .ok middle ∧ next middle state = (.ok value, reached) := by
  obtain ⟨middle, between, hfirst, hnext⟩ := returned_bind h
  cases hfirst
  exact ⟨middle, rfl, hnext⟩

theorem returned_atomically (h : atomically program state = (.ok value, reached)) :
    program state = (.ok value, reached) := by
  unfold atomically at h
  split at h
  next found between hprogram =>
    cases h
    exact hprogram
  next => cases h

theorem stopped_atomically (h : atomically program state = (.error error, reached)) :
    reached = state := by
  unfold atomically at h
  split at h
  next => cases h
  next =>
    cases h
    rfl

end

/-- What the program ends with from `state`, value or error, meets `post` together
with the state it reached. -/
def Meets (program : Fallible σ ε α) (state : σ) (post : Except ε α → σ → Prop) : Prop :=
  post (program state).1 (program state).2

namespace Meets

variable {state : σ} {post : Except ε β → σ → Prop} {first : Fallible σ ε α}
  {next : α → Fallible σ ε β} {error : ε}

theorem of_ok_bind {value : α} {reached : σ} (hrun : first state = (.ok value, reached))
    (h : Meets (next value) reached post) : Meets (first >>= next) state post := by
  rw [Meets, bind_of_ok hrun]
  exact h

theorem of_error_bind {reached : σ} (hrun : first state = (.error error, reached))
    (h : post (.error error) reached) : Meets (first >>= next) state post := by
  rw [Meets, bind_of_error hrun]
  exact h

/-- Only what the first program does from here counts. -/
theorem of_same_bind {same : Fallible σ ε α} (hsame : first state = same state)
    (h : Meets (same >>= next) state post) : Meets (first >>= next) state post := by
  rw [Meets, bind_apply] at h ⊢
  rw [hsame]
  exact h

/-- What follows a program is met from wherever the program ends. -/
theorem of_bind {middle : Except ε α → σ → Prop} (hfirst : Meets first state middle)
    (hok : ∀ value reached, middle (.ok value) reached → Meets (next value) reached post)
    (herror : ∀ error reached, middle (.error error) reached → post (.error error) reached) :
    Meets (first >>= next) state post := by
  rw [Meets] at hfirst
  cases hrun : first state with
  | mk result reached =>
    rw [hrun] at hfirst
    cases result with
    | ok value => exact of_ok_bind hrun (hok value reached hfirst)
    | error error => exact of_error_bind hrun (herror error reached hfirst)

/-- Where a program has to end for what follows it to meet `post`. -/
def Before (next : α → Fallible σ ε β) (post : Except ε β → σ → Prop) : Except ε α → σ → Prop
  | .ok value, reached => Meets (next value) reached post
  | .error error, reached => post (.error error) reached

theorem bind (h : Meets first state (Before next post)) : Meets (first >>= next) state post :=
  of_bind h (fun _ _ hnext => hnext) fun _ _ hstop => hstop

theorem of_read {next : σ → Fallible σ ε β} (h : Meets (next state) state post) :
    Meets (read >>= next) state post := h

theorem of_update {change : σ → σ} (h : Meets (rest ()) (change state) post) :
    Meets (update change >>= rest) state post := h

theorem of_require (hok : condition → Meets (rest ()) state post)
    (herror : ¬ condition → post (.error error) state) :
    Meets (require condition error >>= rest) state post := by
  by_cases h : condition
  · exact of_ok_bind (require_of_true h state) (hok h)
  · exact of_error_bind (require_of_false h state) (herror h)

theorem of_last_require {last : Except ε Unit → σ → Prop}
    (hok : condition → last (.ok ()) state) (herror : ¬ condition → last (.error error) state) :
    Meets (require condition error) state last := by
  by_cases h : condition
  · rw [Meets, require_of_true h]
    exact hok h
  · rw [Meets, require_of_false h]
    exact herror h

variable {program : Fallible σ ε β}

/-- A failed transaction leaves the state it found. -/
theorem of_atomically (h : Meets program state fun result reached => match result with
      | .ok value => post (.ok value) reached
      | .error error => post (.error error) state) : Meets (atomically program) state post := by
  rw [Meets] at h ⊢
  cases hrun : program state with
  | mk result reached =>
    rw [hrun] at h
    cases result with
    | ok value =>
      rw [atomically_of_ok hrun]
      exact h
    | error error =>
      rw [atomically_of_error hrun]
      exact h

theorem of_lift (hok : ∀ value, result = .ok value → Meets (next value) state post)
    (herror : ∀ error, result = .error error → post (.error error) state) :
    Meets (lift result >>= next) state post := by
  cases result with
  | ok value => exact hok value rfl
  | error error => exact herror error rfl

theorem mono {weaker : Except ε β → σ → Prop} (h : Meets program state post)
    (hpost : ∀ result reached, post result reached → weaker result reached) :
    Meets program state weaker := hpost _ _ h

end Meets

/-- From states satisfying `before`, a returned value meets `after` and an error
meets `failed`, each at the state then reached. -/
structure Triple (before : σ → Prop) (program : Fallible σ ε α) (after : α → σ → Prop)
    (failed : ε → σ → Prop) : Prop where
  returned : ∀ {state value reached}, before state → program state = (.ok value, reached) →
    after value reached
  stopped : ∀ {state error reached}, before state → program state = (.error error, reached) →
    failed error reached

/-- The two postconditions as one. -/
def Ends (after : α → σ → Prop) (failed : ε → σ → Prop) : Except ε α → σ → Prop
  | .ok value => after value
  | .error error => failed error

namespace Triple

variable {before : σ → Prop} {failed : ε → σ → Prop} {after : α → σ → Prop}
  {next : α → Fallible σ ε β} {program : Fallible σ ε α}

theorem meets (h : Triple before program after failed) {state : σ} (hstate : before state) :
    Meets program state (Ends after failed) := by
  unfold Meets
  cases hrun : program state with
  | mk result reached =>
    cases result with
    | ok value => exact h.returned hstate hrun
    | error error => exact h.stopped hstate hrun

theorem of_meets (h : ∀ state, before state → Meets program state (Ends after failed)) :
    Triple before program after failed where
  returned := by
    intro state value reached hstate hrun
    simpa only [Meets, hrun, Ends] using h state hstate
  stopped := by
    intro state error reached hstate hrun
    simpa only [Meets, hrun, Ends] using h state hstate

theorem of_pure {value : α} (h : ∀ state, before state → after value state) :
    Triple before (pure value : Fallible σ ε α) after failed := of_meets h

theorem of_update {change : σ → σ} {after : Unit → σ → Prop}
    (h : ∀ state, before state → after () (change state)) :
    Triple before (update change : Fallible σ ε Unit) after failed := of_meets h

theorem of_require {error : ε} {after : Unit → σ → Prop}
    (hok : ∀ state, condition → before state → after () state)
    (herror : ∀ state, ¬ condition → before state → failed error state) :
    Triple before (require condition error) after failed :=
  of_meets fun state hstate =>
    .of_last_require (fun h => hok state h hstate) fun h => herror state h hstate

theorem of_bind {first : Fallible σ ε α} {middle : α → σ → Prop} {after : β → σ → Prop}
    (hfirst : Triple before first middle failed)
    (hnext : ∀ value, Triple (middle value) (next value) after failed) :
    Triple before (first >>= next) after failed := by
  refine of_meets fun state hstate => .of_bind (hfirst.meets hstate) ?_ fun _ _ h => h
  exact fun value reached hmiddle => (hnext value).meets hmiddle

theorem of_pure_bind {value : α} {after : β → σ → Prop}
    (h : Triple before (next value) after failed) :
    Triple before ((pure value : Fallible σ ε α) >>= next) after failed :=
  of_meets fun _ hstate => h.meets hstate

theorem of_update_bind {change : σ → σ} {middle : σ → Prop} {after : β → σ → Prop}
    (hrest : Triple middle (rest ()) after failed)
    (h : ∀ state, before state → middle (change state)) :
    Triple before (update change >>= rest) after failed :=
  of_meets fun state hstate => hrest.meets (h state hstate)

/-- What follows a requirement may rely on it. -/
theorem of_require_bind {error : ε} {after : β → σ → Prop}
    (hrest : condition → Triple before (rest ()) after failed)
    (herror : ¬ condition → ∀ state, before state → failed error state) :
    Triple before (require condition error >>= rest) after failed :=
  of_meets fun state hstate =>
    .of_require (fun h => (hrest h).meets hstate) fun h => herror h state hstate

/-- What follows a computed value may rely on how it was computed. -/
theorem of_lift_bind {after : β → σ → Prop}
    (hnext : ∀ value, result = .ok value → Triple before (next value) after failed)
    (herror : ∀ error, result = .error error → ∀ state, before state → failed error state) :
    Triple before (lift result >>= next) after failed :=
  of_meets fun state hstate => .of_lift (fun value h => (hnext value h).meets hstate)
    fun error h => herror error h state hstate

/-- A fact about values may be moved out of the precondition. -/
theorem of_fact {fact : Prop} (h : fact → Triple before program after failed) :
    Triple (fun state => before state ∧ fact) program after failed :=
  of_meets fun _ hstate => (h hstate.2).meets hstate.1

/-- An unknown value of the precondition may be fixed. -/
theorem of_exists {ι : Type} {known : ι → σ → Prop}
    (h : ∀ index, Triple (known index) program after failed) :
    Triple (fun state => ∃ index, known index state) program after failed :=
  of_meets fun _ ⟨index, hstate⟩ => (h index).meets hstate

theorem of_read {next : σ → Fallible σ ε β} {after : β → σ → Prop}
    (h : ∀ seen, before seen → Triple (fun state => before state ∧ state = seen) (next seen) after
      failed) :
    Triple before (read >>= next) after failed :=
  of_meets fun state hstate => (h state hstate).meets ⟨hstate, rfl⟩

theorem of_onlyIf {condition : Bool} {program : Fallible σ ε Unit} {after : Unit → σ → Prop}
    (hrun : condition = true → Triple before program after failed)
    (hskip : condition = false → ∀ state, before state → after () state) :
    Triple before (onlyIf condition program) after failed := by
  cases hcondition : condition with
  | true => simpa [onlyIf] using hrun hcondition
  | false => simpa [onlyIf] using of_pure (hskip hcondition)

/-- A program may be entered in any state that meets its precondition. -/
theorem entered {stronger : σ → Prop} (hbefore : ∀ state, stronger state → before state)
    (h : Triple before program after failed) : Triple stronger program after failed :=
  of_meets fun state hstate => h.meets (hbefore state hstate)

/-- What is known of the state that was read is known where it was read. -/
theorem entered_at (before : σ → Prop) {known : σ → Prop} {seen : σ} (hseen : before seen)
    (h : Triple before program after failed) :
    Triple (fun state => known state ∧ state = seen) program after failed :=
  entered (fun _ hstate => hstate.2 ▸ hseen) h

theorem weaken {after' : α → σ → Prop} {failed' : ε → σ → Prop}
    (h : Triple before program after failed)
    (hafter : ∀ value state, after value state → after' value state)
    (hfailed : ∀ error state, failed error state → failed' error state) :
    Triple before program after' failed' where
  returned := fun hstate hrun => hafter _ _ (h.returned hstate hrun)
  stopped := fun hstate hrun => hfailed _ _ (h.stopped hstate hrun)

/-- What holds in either case holds of the state reached. -/
theorem reached {after : σ → Prop} (h : Triple before program (fun _ => after) (fun _ => after))
    {state : σ} (hstate : before state) : after (program state).2 := by
  have hends := h.meets hstate
  unfold Meets at hends
  cases hresult : (program state).1 <;> rwa [hresult] at hends

end Triple

/-- The program returns from `state`, and what it returns meets `after` together
with the state it reached. -/
def Yields (program : Fallible σ ε α) (state : σ) (after : α → σ → Prop) : Prop :=
  ∃ value reached, program state = (.ok value, reached) ∧ after value reached

namespace Yields

variable {state : σ} {value : α} {after : β → σ → Prop} {next : α → Fallible σ ε β}

theorem of_pure {after : α → σ → Prop} (h : after value state) :
    Yields (pure value : Fallible σ ε α) state after := ⟨value, state, rfl, h⟩

variable {first : Fallible σ ε α}

theorem of_ok_bind {reached : σ} (hrun : first state = (.ok value, reached))
    (h : Yields (next value) reached after) : Yields (first >>= next) state after := by
  obtain ⟨result, last, hlast, hafter⟩ := h
  exact ⟨result, last, (bind_of_ok hrun).trans hlast, hafter⟩

theorem of_bind {middle : α → σ → Prop} (hfirst : Yields first state middle)
    (hnext : ∀ value reached, middle value reached → Yields (next value) reached after) :
    Yields (first >>= next) state after := by
  obtain ⟨value, reached, hrun, hmiddle⟩ := hfirst
  exact of_ok_bind hrun (hnext value reached hmiddle)

theorem of_read_bind {next : σ → Fallible σ ε β} (h : Yields (next state) state after) :
    Yields (read >>= next) state after := h

theorem of_update_bind {change : σ → σ} (h : Yields (rest ()) (change state) after) :
    Yields (update change >>= rest) state after := h

theorem of_lift_bind (hvalue : result = .ok value)
    (h : Yields (next value) state after) : Yields (lift result >>= next) state after := by
  rw [hvalue]
  exact h

theorem of_require_bind {error : ε} (hcondition : condition) (h : Yields (rest ()) state after) :
    Yields (require condition error >>= rest) state after :=
  of_ok_bind (require_of_true hcondition state) h

theorem weaken {program : Fallible σ ε α} {after after' : α → σ → Prop}
    (h : Yields program state after) (hafter : ∀ value reached, after value reached →
      after' value reached) : Yields program state after' := by
  obtain ⟨value, reached, hrun, hreached⟩ := h
  exact ⟨value, reached, hrun, hafter value reached hreached⟩

end Yields

/-- The program keeps `invariant`, whether it returns or fails. -/
abbrev Keeps (invariant : σ → Prop) (program : Fallible σ ε α) : Prop :=
  Triple invariant program (fun _ => invariant) (fun _ => invariant)

namespace Keeps

variable {invariant : σ → Prop}

theorem of_reached {program : Fallible σ ε α}
    (h : ∀ state, invariant state → invariant (program state).2) : Keeps invariant program := by
  refine Triple.of_meets fun state hstate => ?_
  unfold Meets
  cases (program state).1 <;> exact h state hstate

theorem of_pure (value : α) : Keeps invariant (pure value : Fallible σ ε α) :=
  Triple.of_pure fun _ hstate => hstate

theorem of_lift (result : Except ε α) : Keeps invariant (lift result : Fallible σ ε α) :=
  of_reached fun _ hstate => hstate

theorem of_require (condition : Prop) [Decidable condition] (error : ε) :
    Keeps invariant (require condition error : Fallible σ ε Unit) :=
  Triple.of_require (fun _ _ hstate => hstate) (fun _ _ hstate => hstate)

theorem of_bind {first : Fallible σ ε α} {next : α → Fallible σ ε β}
    (hfirst : Keeps invariant first) (hnext : ∀ value, Keeps invariant (next value)) :
    Keeps invariant (first >>= next) := Triple.of_bind hfirst hnext

/-- What follows a look at the state may rely on the invariant of what was seen. -/
theorem of_read {next : σ → Fallible σ ε β}
    (hnext : ∀ seen, invariant seen → Keeps invariant (next seen)) :
    Keeps invariant (read >>= next) :=
  of_reached fun state hstate => (hnext state hstate).reached hstate

theorem of_onlyIf {condition : Bool} {program : Fallible σ ε Unit}
    (hrun : condition = true → Keeps invariant program) :
    Keeps invariant (onlyIf condition program) :=
  Triple.of_onlyIf hrun fun _ _ hstate => hstate

end Keeps

end Fallible

end Foundation
