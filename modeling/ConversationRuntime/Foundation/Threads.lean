import ConversationRuntime.Foundation.Lists

/-! # Threads over shared state

Threads take turns on a shared state, one atomic section at a time; a section sees
the whole shared state and its own thread only. What is claimed of the shared state
and of every thread holds throughout when the section of one thread keeps it for the
shared state and for itself and does not interfere with what is claimed of the others.
-/

namespace Foundation

/-- Some threads, by index, and the state they share. -/
structure Pool (σ τ : Type) where
  shared : σ
  threads : List τ

namespace Pool

variable {σ τ : Type}

def spawn (thread : τ) (pool : Pool σ τ) : Pool σ τ :=
  { pool with threads := pool.threads ++ [thread] }

/-- One section of one thread. A thread that is not there does nothing. -/
def advance (act : τ → σ → τ × σ) (index : Nat) (pool : Pool σ τ) : Pool σ τ :=
  match pool.threads[index]? with
  | none => pool
  | some thread =>
    ⟨(act thread pool.shared).2, pool.threads.set index (act thread pool.shared).1⟩

/-- A thread after a spawn is one of before, or the new one. -/
theorem spawn_cases {pool : Pool σ τ} {thread found : τ} {index : Nat}
    (h : (pool.spawn thread).threads[index]? = some found) :
    pool.threads[index]? = some found ∨ index = pool.threads.length ∧ found = thread :=
  getElem?_snoc_cases h

/-- A thread after another one moved is the one that moved, or it stayed. -/
theorem set_cases {threads : List τ} {index other : Nat} {moved found : τ}
    (h : (threads.set index moved)[other]? = some found) :
    other = index ∧ found = moved ∨ other ≠ index ∧ threads[other]? = some found := by
  simp only [List.getElem?_set] at h
  split at h
  next hsame =>
    split at h
    next =>
      cases h
      exact .inl ⟨hsame.symm, rfl⟩
    next => cases h
  next hother => exact .inr ⟨.symm hother, h⟩

/-- What holds of the shared state, and of every thread beside it. -/
structure Holds (whole : σ → Prop) (own : σ → Nat → τ → Prop) (pool : Pool σ τ) : Prop where
  whole : whole pool.shared
  own : ∀ index thread, pool.threads[index]? = some thread → own pool.shared index thread

namespace Holds

variable {whole : σ → Prop} {own : σ → Nat → τ → Prop} {pool : Pool σ τ}

theorem spawn (h : pool.Holds whole own) {thread : τ}
    (hown : own pool.shared pool.threads.length thread) : (pool.spawn thread).Holds whole own := by
  refine ⟨h.whole, ?_⟩
  intro index found hfound
  rcases spawn_cases hfound with hfound | ⟨rfl, rfl⟩
  · exact h.own index found hfound
  · exact hown

theorem advance (h : pool.Holds whole own) {act : τ → σ → τ × σ} (index : Nat)
    (hstep : ∀ thread, pool.threads[index]? = some thread → own pool.shared index thread →
      whole (act thread pool.shared).2 ∧
      own (act thread pool.shared).2 index (act thread pool.shared).1 ∧
      ∀ other mate, other ≠ index → pool.threads[other]? = some mate →
        own pool.shared other mate → own (act thread pool.shared).2 other mate) :
    (pool.advance act index).Holds whole own := by
  unfold Pool.advance
  split
  next => exact h
  next thread hthread =>
    obtain ⟨hwhole, hown, hothers⟩ := hstep thread hthread (h.own index thread hthread)
    refine ⟨hwhole, ?_⟩
    intro other mate hmate
    rcases set_cases hmate with ⟨rfl, rfl⟩ | ⟨hother, hmate⟩
    · exact hown
    · exact hothers other mate hother hmate (h.own other mate hmate)

end Holds

/-- Any two threads stand in a relation. -/
def Apart (apart : τ → τ → Prop) (pool : Pool σ τ) : Prop :=
  ∀ (first second : Nat) (one two : τ), first ≠ second → pool.threads[first]? = some one →
    pool.threads[second]? = some two → apart one two

namespace Apart

variable {apart : τ → τ → Prop} {pool : Pool σ τ}
  (h : pool.Apart apart) (hsymm : ∀ one two, apart one two → apart two one)
include h hsymm

theorem spawn {thread : τ}
    (hnew : ∀ (index : Nat) (other : τ), pool.threads[index]? = some other → apart thread other) :
    (pool.spawn thread).Apart apart := by
  intro first second one two hne hone htwo
  rcases spawn_cases hone with hfirst | ⟨rfl, rfl⟩
  · rcases spawn_cases htwo with hsecond | ⟨-, rfl⟩
    · exact h first second one two hne hfirst hsecond
    · exact hsymm _ _ (hnew first one hfirst)
  · rcases spawn_cases htwo with hsecond | ⟨hsame, -⟩
    · exact hnew second two hsecond
    · exact absurd hsame.symm hne

theorem advance {act : τ → σ → τ × σ} {index : Nat}
    (hstep : ∀ thread, pool.threads[index]? = some thread → ∀ other mate, other ≠ index →
      pool.threads[other]? = some mate → apart thread mate →
        apart (act thread pool.shared).1 mate) :
    (pool.advance act index).Apart apart := by
  unfold Pool.advance
  split
  next => exact h
  next thread hthread =>
    intro first second one two hne hone htwo
    rcases set_cases hone with ⟨rfl, rfl⟩ | ⟨hother, hfirst⟩
    · rcases set_cases htwo with ⟨hsame, -⟩ | ⟨hother, hsecond⟩
      · exact absurd hsame.symm hne
      · exact hstep thread hthread second two hother hsecond
          (h _ second thread two hne hthread hsecond)
    · rcases set_cases htwo with ⟨rfl, rfl⟩ | ⟨-, hsecond⟩
      · exact hsymm _ _ (hstep thread hthread first one hother hfirst
          (h _ first thread one (.symm hne) hthread hfirst))
      · exact h first second one two hne hfirst hsecond

end Apart

/-- Some thread is as described. -/
def Has (described : τ → Prop) (pool : Pool σ τ) : Prop :=
  ∃ (index : Nat) (thread : τ), pool.threads[index]? = some thread ∧ described thread

namespace Has

variable {described : τ → Prop} {pool : Pool σ τ}

theorem spawn (h : pool.Has described) (thread : τ) : (pool.spawn thread).Has described := by
  obtain ⟨index, found, hfound, hdescribed⟩ := h
  obtain ⟨hbound, -⟩ := List.getElem?_eq_some_iff.mp hfound
  exact ⟨index, found, by rw [Pool.spawn, List.getElem?_append_left hbound, hfound], hdescribed⟩

variable {act : τ → σ → τ × σ}

/-- The thread that moves, as it is then. -/
theorem of_advance {index : Nat} {thread : τ} (hthread : pool.threads[index]? = some thread)
    (h : described (act thread pool.shared).1) : (pool.advance act index).Has described := by
  obtain ⟨hbound, -⟩ := List.getElem?_eq_some_iff.mp hthread
  refine ⟨index, (act thread pool.shared).1, ?_, h⟩
  simp only [Pool.advance, hthread]
  rw [List.getElem?_set_self hbound]

theorem advance (h : pool.Has described) {index : Nat}
    (hkept : ∀ thread, pool.threads[index]? = some thread → described thread →
      described (act thread pool.shared).1) : (pool.advance act index).Has described := by
  obtain ⟨other, found, hfound, hdescribed⟩ := h
  by_cases hother : other = index
  · subst hother
    exact of_advance hfound (hkept found hfound hdescribed)
  · refine ⟨other, found, ?_, hdescribed⟩
    unfold Pool.advance
    split
    next => exact hfound
    next => rw [List.getElem?_set_ne (.symm hother), hfound]

end Has

end Pool

end Foundation
