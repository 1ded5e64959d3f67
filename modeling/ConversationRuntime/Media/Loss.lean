import ConversationRuntime.Media.Holders

/-! # Deciding that media is lost

Whoever waits for the loss of a reservation looks at its lease. Once a connection
has ended unplanned, the lease can be resumed for as long as its credential and
its reconnect window last; the decision is compared with what renewals and
authentications can still achieve.
-/

namespace ConversationRuntime

open Foundation List Nat

/-- A call on a lease that nobody holds. -/
inductive LeaseCall where
  | renew (expiresAtMs : Except AdapterError UInt64)
  | authenticate (presented : BridgeCredentials)

namespace MediaSession

variable (config : MediaServerConfig)

/-- Some time passes and a call is made; one that is refused changes nothing. -/
def attempt (state : MediaSession × Instant) (next : Nat × LeaseCall) : MediaSession × Instant :=
  let now := state.2 + next.1
  match next.2 with
  | .renew expiresAtMs =>
    (((state.1.renew config.credentialLifetime now expiresAtMs).toOption.map Prod.snd).getD
      state.1, now)
  | .authenticate presented =>
    (((state.1.authenticate now presented).toOption.map Prod.snd).getD state.1, now)

/-- The lease and the time after some attempts. -/
def attempts (lease : MediaSession) (now : Instant) (calls : List (Nat × LeaseCall)) :
    MediaSession × Instant :=
  calls.foldl (attempt config) (lease, now)

/-- After some renewals the bridge of the lease can authenticate, now or later. -/
def Resumable (lease : MediaSession) (now : Instant) : Prop :=
  ∃ (renewals : List (Nat × Except AdapterError UInt64)) (elapsed : Nat)
    (admitted : MediaConnection × MediaSession),
    let reached := lease.attempts config now (renewals.map fun next => (next.1, .renew next.2))
    reached.1.authenticate (reached.2 + elapsed) lease.credentials = .ok admitted

/-- Loss is decided as soon as nothing can resume the lease, and for good. -/
structure DecidedExactly (lease : MediaSession) (now : Instant) : Prop where
  complete : ¬ lease.Resumable config now → lease.mediaLost now = .lost
  final : lease.mediaLost now = .lost → ∀ calls,
    (lease.attempts config now calls).1.mediaLost (lease.attempts config now calls).2 = .lost

variable {config} {lease : MediaSession} {now : Instant}

theorem mediaLost_eq_lost :
    lease.mediaLost now = .lost ↔ (lease.active = false ∧ lease.released = true ∧
      lease.captureFinished = false) ∧ min lease.expiresAt lease.reconnectDeadline < now := by
  unfold mediaLost
  generalize min lease.expiresAt lease.reconnectDeadline = deadline
  cases lease.active <;> cases lease.released <;> cases lease.captureFinished <;> simp

variable {expiresAtMs : Except AdapterError UInt64}

theorem renew_of_refused {lifetime : Nat}
    (h : lease.captureFinished = true ∨ lease.expiresAt < now ∨
      (lease.active = false ∧ lease.reconnectDeadline < now)) :
    lease.renew lifetime now expiresAtMs = .error ⟨"media lease can no longer be renewed"⟩ := by
  simp only [renew, h, if_true]
  rfl

theorem renew_eq_ok {lifetime : Nat} {answer : UInt64} {renewed : MediaSession}
    (h : lease.renew lifetime now expiresAtMs = .ok (answer, renewed)) :
    renewed = { lease with expiresAt := now + lifetime } := by
  simp only [renew] at h
  split at h
  · cases h
  · obtain ⟨_, _, h⟩ := bind_eq_ok h
    cases h
    rfl

/-- A lost lease refuses everything, so time is all that changes. -/
theorem attempt_of_lost (h : lease.mediaLost now = .lost) (next : Nat × LeaseCall) :
    attempt config (lease, now) next = (lease, now + next.1) := by
  obtain ⟨⟨hidle, -, -⟩, hdeadline⟩ := mediaLost_eq_lost.mp h
  have hlapsed : lease.expiresAt < now + next.1 ∨ lease.reconnectDeadline < now + next.1 := by
    rcases min_lt_iff.mp hdeadline with hexpired | hwindow
    · exact .inl (lt_of_lt_of_le hexpired (le_add_right _ _))
    · exact .inr (lt_of_lt_of_le hwindow (le_add_right _ _))
  obtain ⟨elapsed, call⟩ := next
  cases call with
  | renew expiresAtMs =>
    simp [attempt, renew_of_refused (.inr (hlapsed.imp_right fun hwindow => ⟨hidle, hwindow⟩)),
      Except.toOption]
  | authenticate presented =>
    cases hanswer : lease.authenticate (now + elapsed) presented with
    | error error => simp [attempt, hanswer, Except.toOption]
    | ok answer =>
      obtain ⟨⟨-, hexpires, hwindow, -⟩, -⟩ := MediaTasks.authenticate_eq_ok hanswer
      rcases hlapsed with hlapsed | hlapsed
      · exact absurd hlapsed (not_lt.mpr hexpires)
      · exact absurd hlapsed (not_lt.mpr hwindow)

/-- Once lost, always lost. -/
theorem mediaLost_attempts (h : lease.mediaLost now = .lost) (calls : List (Nat × LeaseCall)) :
    (lease.attempts config now calls).1.mediaLost (lease.attempts config now calls).2 = .lost := by
  induction calls generalizing now with
  | nil => exact h
  | cons next calls ih =>
    have hlater : lease.mediaLost (now + next.1) = .lost := by
      rw [mediaLost_eq_lost] at h ⊢
      exact ⟨h.1, lt_of_lt_of_le h.2 (le_add_right _ _)⟩
    rw [attempts, foldl_cons, attempt_of_lost h]
    exact ih hlater

variable (config lease now) in
/-- Renewals only move the expiry. -/
theorem attempts_renewals (renewals : List (Nat × Except AdapterError UInt64)) :
    ∃ expiresAt, (lease.attempts config now (renewals.map fun next => (next.1, .renew next.2))).1 =
      { lease with expiresAt := expiresAt } := by
  induction renewals generalizing lease now with
  | nil => exact ⟨lease.expiresAt, rfl⟩
  | cons next renewals ih =>
    simp only [attempts, map_cons, foldl_cons, attempt]
    cases hanswer : lease.renew config.credentialLifetime (now + next.1) next.2 with
    | error error => exact ih _ _
    | ok answer =>
      obtain ⟨answer, renewed⟩ := answer
      rw [renew_eq_ok hanswer]
      exact ih _ _

/-- Only an unfinished lease that has a connection number left can be resumed. -/
theorem Resumable.unfinished (h : lease.Resumable config now) :
    lease.captureFinished = false ∧ lease.nextConnectionId < u64Max := by
  obtain ⟨renewals, elapsed, admitted, hadmitted⟩ := h
  obtain ⟨expiresAt, hreached⟩ := attempts_renewals config lease now renewals
  dsimp only at hadmitted
  rw [hreached] at hadmitted
  obtain ⟨⟨-, -, -, -, hunfinished, hnumber⟩, -⟩ := MediaTasks.authenticate_eq_ok hadmitted
  exact ⟨hunfinished, hnumber⟩

/-- Within both deadlines the bridge can authenticate at once. -/
theorem resumable_of_live (hidle : lease.active = false)
    (hunfinished : lease.captureFinished = false)
    (hnumber : lease.nextConnectionId < u64Max)
    (hlive : ¬ min lease.expiresAt lease.reconnectDeadline < now) : lease.Resumable config now := by
  obtain ⟨hexpires, hwindow⟩ := le_min_iff.mp (not_lt.mp hlive)
  have hnext : checkedAdd lease.nextConnectionId 1 = some (lease.nextConnectionId + 1) :=
    checkedAdd_eq_some.mpr ⟨rfl, hnumber⟩
  refine ⟨[], 0, (⟨lease.reservationEpoch, lease.nextConnectionId⟩, { lease with
    nextConnectionId := lease.nextConnectionId + 1
    active := true
    activeConnectionId := some lease.nextConnectionId }), ?_⟩
  simp only [attempts, map_nil, foldl_nil, add_zero, authenticate, credentials]
  rw [if_neg (by simp [hidle, hunfinished, not_lt.mpr hexpires, not_lt.mpr hwindow]), hnext]
  rfl

/-- The decision of a lease that was lost is exact unless its capture is finished
or its connection numbers have run out. -/
theorem decidedExactly_iff (hidle : lease.active = false) (hreleased : lease.released = true) :
    lease.DecidedExactly config now ↔ lease.captureFinished = false ∧
      (lease.nextConnectionId < u64Max ∨ min lease.expiresAt lease.reconnectDeadline < now) := by
  constructor
  · intro h
    by_cases hresumable : lease.Resumable config now
    · exact ⟨hresumable.unfinished.1, .inl hresumable.unfinished.2⟩
    · obtain ⟨⟨-, -, hunfinished⟩, hdeadline⟩ := mediaLost_eq_lost.mp (h.complete hresumable)
      exact ⟨hunfinished, .inr hdeadline⟩
  · rintro ⟨hunfinished, hnumber⟩
    refine ⟨fun hresumable => ?_, fun hlost calls => mediaLost_attempts hlost calls⟩
    by_cases hdeadline : min lease.expiresAt lease.reconnectDeadline < now
    · exact mediaLost_eq_lost.mpr ⟨⟨hidle, hreleased, hunfinished⟩, hdeadline⟩
    · -- Before both deadlines the lease could still be resumed.
      refine absurd (resumable_of_live hidle hunfinished ?_ hdeadline) hresumable
      exact hnumber.resolve_right hdeadline

end MediaSession

namespace MediaTasks

/-- In every run, after a connection of the reservation ended without a planned
finish and while none is active, loss is decided exactly if and only if no finish
was admitted and either a connection number is left or a deadline has passed. -/
theorem loss_decided_exactly_iff {config : MediaServerConfig} {moves : List MediaMove} {index : Nat}
    {bridge : Bridge} {lease : MediaSession}
    (hbridge : (run config start moves).threads[index]? = some (.bridge bridge))
    (hended : bridge.stage = .ended) (hunplanned : bridge.planned = false)
    (hlease : (run config start moves).shared.sessions bridge.sessionId = some lease)
    (hown : lease.reservationEpoch = bridge.connection.reservationEpoch)
    (hidle : lease.active = false) :
    lease.DecidedExactly config (run config start moves).shared.now ↔
      lease.captureFinished = false ∧ (lease.nextConnectionId < u64Max ∨
        min lease.expiresAt lease.reconnectDeadline < (run config start moves).shared.now) := by
  apply MediaSession.decidedExactly_iff hidle
  -- A connection that ended unplanned has left its mark on the lease.
  obtain ⟨-, -, htends⟩ := (kept_run _ moves).holds.own index _ hbridge
  exact (htends lease hlease hown).lost (by simp [Bridge.isHolding, hended]) hunplanned

/-- A legacy bridge connects, hangs up and does not come back in time. -/
def abandonedReservation : List MediaMove :=
  let advance : MediaMove := .proceed 1 (.advance ⟨true, 16⟩)
  let control : MediaMove := .proceed 0 (.hangUp false)
  [.reserve 7 .legacy "first", control, control, control, .connect 7 ⟨"first", none, .legacy⟩,
    advance, advance, advance, .proceed 1 (.hangUp false), advance, advance, advance, advance,
    advance, advance, advance, advance, advance, .hub (.tick (11 * oneSecond))]

/-- Its loss is decided. -/
theorem loss_decided_exactly_abandoned :
    ∃ lease, (run .sample start abandonedReservation).shared.sessions 7 = some lease ∧
      lease.DecidedExactly .sample (run .sample start abandonedReservation).shared.now ∧
      lease.mediaLost (run .sample start abandonedReservation).shared.now = .lost := by
  have hbridge : (run .sample start abandonedReservation).threads[1]? = some (.bridge _) := rfl
  refine ⟨_, rfl, ?_, by decide +kernel⟩
  apply (loss_decided_exactly_iff hbridge (by decide +kernel) (by decide +kernel) rfl
    (by decide +kernel) (by decide +kernel)).mpr
  decide +kernel

/-- A drainable bridge sends an epoch and a clock pair, has its finish admitted, and
is gone before the finish is acknowledged. -/
def unansweredFinish : List MediaMove :=
  let advance : MediaMove := .proceed 1 (.advance ⟨true, 16⟩)
  let control : MediaMove := .proceed 0 (.hangUp false)
  let send (record : TimedMediaRecord) : MediaMove := .proceed 1 (.receive (.timed 7 record))
  [.reserve 7 (.drainableTimed "bridge") "first", control, control, control,
    .hub (.attachVoice 7), .hub (.attachRecognition 7),
    .connect 7 ⟨"first", some "bridge", .drainableTimed⟩, advance, advance, advance, advance,
    send (.metadata (.epoch ⟨"bridge", "clock", 1⟩)), advance, advance, advance, advance, advance,
    advance,
    send (.metadata (.clockPair ⟨"clock", 1, 1, 1, 1, 2, 1, none⟩)), advance, advance, advance,
    advance, advance, advance,
    send (.finish ⟨7, 1, none, 1⟩), advance, advance, advance,
    .proceed 1 (.hangUp false), advance, advance, advance, advance, advance, advance, advance,
    advance, .hub (.tick (61 * oneSecond))]

/-- Nobody can resume its reservation and no loss is ever decided. -/
theorem unanswered_finish_never_lost :
    ∃ bridge lease, (run .sample start unansweredFinish).threads[1]? = some (.bridge bridge) ∧
      bridge.stage = .ended ∧ bridge.acked = false ∧
      (run .sample start unansweredFinish).shared.sessions bridge.sessionId = some lease ∧
      lease.reservationEpoch = bridge.connection.reservationEpoch ∧ lease.active = false ∧
      ¬ lease.DecidedExactly .sample (run .sample start unansweredFinish).shared.now := by
  refine ⟨_, _, rfl, by decide +kernel, by decide +kernel, rfl, by decide +kernel,
    by decide +kernel, ?_⟩
  rw [MediaSession.decidedExactly_iff (by decide +kernel) (by decide +kernel)]
  decide +kernel

end MediaTasks

end ConversationRuntime
