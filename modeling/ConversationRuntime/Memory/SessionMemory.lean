import ConversationRuntime.Memory.ClientRuns

/-! # Memories of a session

A memory that is kept for a session expires when the session is expired, and stays so.
Pinning puts the retention of a memory aside, out of sight of the session's end, and
unpinning brings it back: a memory that is pinned while its session is expired outlives
it.
-/

namespace ConversationRuntime

open Foundation Fallible List

/-- The columns of a memory that is kept for a session. -/
def sessionColumns (sessionId : SessionId) : RetentionColumns := .ofRetention (.session sessionId)

namespace MemoryClients

section Runs

variable {hash : ContentHash} {relevance : String → String → Relevance} {clients : MemoryClients}

/-- While a record is pinned, what a pin put aside stays aside. -/
theorem prior_while_pinned (h : clients.Holds (MemoryShared.Consistent hash) MemoryCall.Sure)
    {row : MemoryRow} (hrow : row ∈ clients.shared.store.memories) (hunpinned : row.pinned = false)
    (pinning : MemoryAction) (between : List MemoryAction)
    (hpinned : ∀ earlier, earlier <+: between → ∀ held ∈ (earlier.foldl (step hash relevance)
        (clients.step hash relevance pinning)).shared.store.memories,
        held.id = row.id → held.pinned = true)
    {held : MemoryRow}
    (hheld : held ∈ (between.foldl (step hash relevance)
      (clients.step hash relevance pinning)).shared.store.memories)
    (hid : held.id = row.id) : held.prior = some row.retention := by
  have hnext := holds_step relevance h pinning
  induction between using reverseRecOn generalizing held with
  | nil =>
    exact (step_origin h pinning hrow hheld hid).pins hunpinned
      (hpinned [] (prefix_refl _) held hheld hid)
  | append_singleton earlier action ih =>
    have hbefore := holds_run relevance hnext earlier
    have hknown : held.id ≤ (earlier.foldl (.step hash relevance)
        (clients.step hash relevance pinning)).shared.store.lastMemoryId := by
      rw [hid]
      apply (h.whole.sound.bounded row hrow).trans
      exact run_lastMemoryId_le relevance h (pinning :: earlier)
    have hmember := hheld
    rw [foldl_append] at hheld
    obtain ⟨old, hold, hmoves⟩ := step_source hbefore action hheld hknown
    have holdId := hmoves.id.symm.trans hid
    have hprefix := prefix_append earlier [action]
    rw [hmoves.pinned (hpinned earlier hprefix old hold holdId)
      (hpinned _ (prefix_refl _) held hmember hid)]
    exact ih (fun shorter hshorter => hpinned shorter (hshorter.trans hprefix)) hold holdId

/-- Every memory of the session is expired by its end. -/
theorem expireSession_expires {store reached : MemoryStore} {sessionId : SessionId}
    {expiredAt : UnixTimestampMillis} {count : Nat}
    (h : expireSession sessionId expiredAt store = (.ok count, reached))
    (hids : (store.memories.map MemoryRow.id).Nodup) {row moved : MemoryRow}
    (hrow : row ∈ store.memories) (hsession : row.retention = sessionColumns sessionId)
    (hmoved : moved ∈ reached.memories) (hid : moved.id = row.id) : moved.state = .expired := by
  obtain ⟨_, -, hupdate⟩ := returned_lift_bind (returned_atomically h)
  obtain ⟨-, rfl, -⟩ := updateMemories_returned hupdate
  obtain ⟨old, hold, rfl⟩ := mem_map.mp hmoved
  have hsame : old = row := by
    apply inj_on_of_nodup_map hids hold hrow
    split at hid <;> exact hid
  subst hsame
  split
  next => rfl
  next hkept =>
    by_contra hstate
    exact hkept
      (by simp [MemoryRow.endsWith, hsession, sessionColumns, RetentionColumns.ofRetention,
      hstate])

end Runs

/-- When a session is expired while no pin holds back a memory of it, none of its
memories is active for the session again; and a record that is pinned and then unpinned
has the retention it had before. -/
theorem session_memory_ends (hash : ContentHash) (relevance : String → String → Relevance)
    (actions : List MemoryAction) :
    let clients := actions.foldl (step hash relevance) .start
    (∀ call made sessionId expiredAt count,
      clients.threads[call]? = some ⟨.requested (.expireSession sessionId expiredAt), made⟩ →
      (expireSession sessionId expiredAt clients.shared.store).1 = .ok count →
      (∀ row ∈ clients.shared.store.memories, row.prior ≠ some (sessionColumns sessionId)) →
      ∀ later : List MemoryAction, ∀ row ∈ clients.shared.store.memories,
      row.retention = sessionColumns sessionId ∨ row.prior = some (sessionColumns sessionId) →
      ∀ moved ∈ (later.foldl (step hash relevance)
        (clients.step hash relevance (.run call))).shared.store.memories, moved.id = row.id →
        ¬ (moved.state = .active ∧ moved.retention = sessionColumns sessionId)) ∧
    ∀ (pinning : MemoryAction) (between : List MemoryAction) (unpinning : MemoryAction),
      ∀ row ∈ clients.shared.store.memories, row.pinned = false →
      (∀ earlier, earlier <+: between →
        ∀ held ∈ (earlier.foldl (step hash relevance)
          (clients.step hash relevance pinning)).shared.store.memories,
          held.id = row.id → held.pinned = true) →
      ∀ restored ∈ ((between.foldl (step hash relevance)
        (clients.step hash relevance pinning)).step hash relevance unpinning).shared.store.memories,
        restored.id = row.id → restored.pinned = false → restored.retention = row.retention := by
  intro clients
  have hholds := holds_run relevance (holds_start hash) actions
  refine ⟨?_, ?_⟩
  · rintro call made sessionId expiredAt count hcall hreturned hunpinned later row hrow hkept
      moved hmoved hid ⟨hactive, -⟩
    have hsession : row.retention = sessionColumns sessionId :=
      hkept.resolve_right (hunpinned row hrow)
    have hexpired : expireSession sessionId expiredAt clients.shared.store =
        (.ok count, (expireSession sessionId expiredAt clients.shared.store).2) :=
      Prod.ext hreturned rfl
    have hstore : (clients.step hash relevance (.run call)).shared.store =
        (expireSession sessionId expiredAt clients.shared.store).2 := by
      simp only [step, Pool.advance, clients, hcall, MemoryCall.step, MemoryStage.step,
        performOperation, MemorySection.ofResult]
      rw [hexpired]
    have hended : moved.state = .expired := by
      apply run_kept (holds_step relevance hholds (.run call)) (fun _ _ hmoves => hmoves.expired) ?_
        ?_ later
        hmoved hid
      · exact (hholds.whole.sound.bounded row hrow).trans
          (run_lastMemoryId_le relevance hholds [.run call])
      · intro other hother hsame
        rw [hstore] at hother
        exact expireSession_expires hexpired hholds.whole.sound.ids hrow hsession hother hsame
    rw [hended] at hactive
    cases hactive
  · intro pinning between unpinning row hrow hrowUnpinned hpinned restored hrestored hid hagain
    have hbefore := holds_run relevance hholds (pinning :: between)
    have hknown := (hholds.whole.sound.bounded row hrow).trans
      (run_lastMemoryId_le relevance hholds (pinning :: between))
    rw [← hid] at hknown
    obtain ⟨held, hheld, hmoves⟩ := step_source hbefore unpinning hrestored hknown
    have hheldId := hmoves.id.symm.trans hid
    rw [hmoves.unpins (hpinned between (prefix_refl _) held hheld hheldId) hagain,
      prior_while_pinned hholds hrow hrowUnpinned pinning between hpinned hheld hheldId]
    rfl

/-! ## One memory and its session -/

def neverRelated : String → String → Relevance := fun _ _ => .unrelated

/-- The note is created, and its session is about to be expired. -/
def inSession : List MemoryAction :=
  [.perform (.create sessionNote), .run 0, .perform (.expireSession 7 3)]

/-- The note is pinned before its session is expired. -/
def pinnedInSession : List MemoryAction :=
  [.perform (.create sessionNote), .run 0, .setPinned 1 ⟨1, true, 2⟩, .run 1, .run 1, .run 1,
    .perform (.expireSession 7 3)]

/-- The session is expired, and the note is unpinned after that. -/
def unpinnedLater : List MemoryAction :=
  [.run 2, .setPinned 1 ⟨2, false, 4⟩, .run 3, .run 3, .run 3]

theorem session_memory_ends_unpinned :
    let clients := inSession.foldl (step .padded neverRelated) .start
    clients.shared.store.memories.map (·.retention) = [sessionColumns 7] ∧
      ∀ later : List MemoryAction, ∀ row ∈ clients.shared.store.memories,
        row.retention = sessionColumns 7 ∨ row.prior = some (sessionColumns 7) →
        ∀ moved ∈ (later.foldl (step .padded neverRelated)
          (clients.step .padded neverRelated (.run 1))).shared.store.memories, moved.id = row.id →
          ¬ (moved.state = .active ∧ moved.retention = sessionColumns 7) :=
  ⟨by decide +kernel,
    (session_memory_ends .padded neverRelated inSession).1 1 [] 7 3 1 rfl rfl (by decide +kernel)⟩

/-- The session of a pinned note is expired; once the note is unpinned, it is active for
that session again. -/
theorem pinned_memory_outlives_session :
    let clients := pinnedInSession.foldl (step .padded neverRelated) .start
    let later := unpinnedLater.foldl (step .padded neverRelated) clients
    clients.threads[2]? = some ⟨.requested (.expireSession 7 3), []⟩ ∧
      (expireSession 7 3 clients.shared.store).1 = .ok 0 ∧
      (∃ row ∈ clients.shared.store.memories, row.id = 1 ∧ row.prior = some (sessionColumns 7)) ∧
      ∃ row ∈ later.shared.store.memories, row.id = 1 ∧ row.state = .active ∧
        row.retention = sessionColumns 7 := by
  refine ⟨rfl, rfl, ?_, ?_⟩ <;> decide +kernel

end MemoryClients

end ConversationRuntime
