import ConversationRuntime.Media.Custody

/-! # Who holds a lease

In every run the lease of a reservation is held by at most one connection, and a
connection that ended without a planned finish has marked its lease as released.
-/

namespace ConversationRuntime

open Foundation Bridge MediaCall MediaServer MediaSession Function Nat Option

/-- The reservation a call has claimed and not yet entered. -/
def MediaCall.claim : MediaCall → Option Nat
  | .control ⟨_, .reserveHub _ _ epoch⟩ | .control ⟨_, .insertLease _ _ epoch⟩ => some epoch
  | _ => none

/-- The reservation a task works for, if it has one. -/
def MediaCall.epoch : MediaCall → Option Nat
  | .bridge task => some task.own
  | call => call.claim

/-- No two tasks share a claim or a connection. -/
structure MediaCall.Distinct (one two : MediaCall) : Prop where
  claims : ∀ epoch, one.claim = some epoch → two.epoch ≠ some epoch
  claimed : ∀ epoch, two.claim = some epoch → one.epoch ≠ some epoch
  bridges : ∀ first second, one = .bridge first → two = .bridge second →
    first.sessionId = second.sessionId → first.connection ≠ second.connection

variable {two : MediaCall}

theorem MediaCall.Distinct.symm {one : MediaCall} (h : one.Distinct two) : two.Distinct one :=
  ⟨h.claimed, h.claims, fun first second hfirst hsecond hsession hsame =>
    h.bridges second first hsecond hfirst hsession.symm hsame.symm⟩

/-- A task without claim and connection is distinct from every other. -/
theorem MediaCall.distinct_of_idle {one : MediaCall} (hone : one.epoch = none)
    (hclaim : one.claim = none) : one.Distinct two where
  claims epoch h := by rw [hclaim] at h; cases h
  claimed epoch _ h := by rw [hone] at h; cases h
  bridges first second h := by
    subst h
    cases hone

/-- A connection stays distinct from the others. -/
theorem MediaCall.Distinct.of_continues {bridge reached : Bridge}
    (h : (MediaCall.bridge bridge).Distinct two) (hcontinues : bridge.Continues reached) :
    (MediaCall.bridge reached).Distinct two where
  claims epoch hclaim := by cases hclaim
  claimed epoch hclaim hsame := by
    refine h.claimed epoch hclaim ?_
    rw [MediaCall.epoch, Bridge.own, hcontinues.1] at hsame
    exact hsame
  bridges first second hfirst hsecond hsession := by
    cases hfirst
    rw [hcontinues.1]
    exact h.bridges bridge second rfl hsecond (hcontinues.2.symm.trans hsession)

namespace Bridge

/-- What the lease of a connection's reservation says about it. -/
structure Tends (bridge : Bridge) (lease : MediaSession) : Prop where
  number : bridge.connection.connectionId < lease.nextConnectionId
  held : bridge.isHolding = true → lease.isHeldBy bridge.connection = true ∧ lease.active = true
  lost : bridge.isHolding = false → bridge.planned = false → lease.released = true

/-- The same lease as far as its custody goes. -/
theorem Tends.of_custody {bridge reached : Bridge} {before after : MediaSession}
    (h : bridge.Tends before) (hcustody : after.custody = before.custody)
    (hcontinues : bridge.Continues reached) (hholding : reached.isHolding = bridge.isHolding)
    (hplanned : bridge.isHolding = false → reached.planned = bridge.planned) :
    reached.Tends after := by
  obtain ⟨hepoch, hactive, hconnection, hnumber, hreleased⟩ := custody_eq hcustody
  refine ⟨?_, ?_, ?_⟩
  · rw [hnumber, hcontinues.1]
    exact h.number
  · intro hholds
    rw [hactive, hcontinues.1, isHeldBy, hepoch, hconnection]
    exact h.held (hholding ▸ hholds)
  · intro hholds hunplanned
    rw [hreleased]
    exact h.lost (hholding ▸ hholds) (hplanned (hholding ▸ hholds) ▸ hunplanned)

end Bridge

namespace MediaServer

/-- Leases are of reservations that were claimed, and one that is not active has
no connection. -/
def Sound (server : MediaServer) : Prop :=
  ∀ sessionId lease, server.sessions sessionId = some lease →
    lease.reservationEpoch < server.nextReservationEpoch ∧
    (lease.active = false → lease.activeConnectionId = none)

end MediaServer

namespace MediaTasks

variable {config : MediaServerConfig}

/-- What a task may rely on. -/
def Custodian (server : MediaServer) (_ : Nat) : MediaCall → Prop
  | .bridge task => task.Shaped ∧ task.own < server.nextReservationEpoch ∧
      ∀ lease, server.sessions task.sessionId = some lease → lease.reservationEpoch = task.own →
        task.Tends lease
  | call => ∀ epoch, call.claim = some epoch → epoch < server.nextReservationEpoch ∧
      ∀ sessionId lease, server.sessions sessionId = some lease → lease.reservationEpoch ≠ epoch

/-- The whole invariant: tasks are told apart, and each may rely on its lease. -/
structure Kept (tasks : MediaTasks) : Prop where
  holds : tasks.Holds MediaServer.Sound Custodian
  apart : tasks.Apart MediaCall.Distinct

variable {server after : MediaServer} {call : MediaCall} {sessionId : SessionId} {bridge : Bridge}

/-- What a task may rely on, by its reservation, its claim and its connection. -/
theorem custodian_iff {index : Nat} : Custodian server index call ↔
    (∀ epoch, call.epoch = some epoch → epoch < server.nextReservationEpoch) ∧
    (∀ epoch, call.claim = some epoch → ∀ sessionId lease,
      server.sessions sessionId = some lease → lease.reservationEpoch ≠ epoch) ∧
    ∀ task, call = .bridge task → task.Shaped ∧ ∀ lease,
      server.sessions task.sessionId = some lease → lease.reservationEpoch = task.own →
        task.Tends lease := by
  cases call with
  | bridge task =>
    constructor
    · rintro ⟨hshaped, hepoch, htends⟩
      refine ⟨?_, nofun, ?_⟩
      · rintro _ ⟨⟩
        exact hepoch
      · rintro _ ⟨⟩
        exact ⟨hshaped, htends⟩
    · rintro ⟨hepoch, -, htask⟩
      exact ⟨(htask task rfl).1, hepoch _ rfl, (htask task rfl).2⟩
  | _ =>
    constructor
    · intro h
      refine ⟨fun epoch hepoch => (h epoch hepoch).1, fun epoch hepoch => (h epoch hepoch).2, ?_⟩
      rintro _ ⟨⟩
    · rintro ⟨hepoch, hclaim, -⟩ epoch hfound
      exact ⟨hepoch epoch hfound, hclaim epoch hfound⟩

section SameHands

variable {before : MediaServer} (hands : before.KeepsHands after)
include hands

theorem keepsHands_prior {lease : MediaSession} (hlease : after.sessions sessionId = some lease) :
    ∃ prior, before.sessions sessionId = some prior ∧ lease.custody = prior.custody := by
  have hsame := hands.custody sessionId
  rw [hlease] at hsame
  obtain ⟨prior, hprior, hcustody⟩ := map_eq_some_iff.mp hsame.symm
  exact ⟨prior, hprior, hcustody.symm⟩

/-- Leases that stay in the same hands change nothing for a task. -/
theorem custodian_of_keepsHands {index : Nat} (h : Custodian before index call) :
    Custodian after index call := by
  obtain ⟨hepoch, hclaim, htask⟩ := custodian_iff.mp h
  rw [custodian_iff, hands.nextReservationEpoch]
  refine ⟨hepoch, ?_, ?_⟩
  · intro epoch hclaimed sessionId lease hfound
    obtain ⟨prior, hprior, hcustody⟩ := keepsHands_prior hands hfound
    rw [(custody_eq hcustody).1]
    exact hclaim epoch hclaimed sessionId prior hprior
  · intro task hcall
    obtain ⟨hshaped, htends⟩ := htask task hcall
    refine ⟨hshaped, fun lease hfound hown => ?_⟩
    obtain ⟨prior, hprior, hcustody⟩ := keepsHands_prior hands hfound
    have hsame := (custody_eq hcustody).1
    exact (htends prior hprior (hsame ▸ hown)).of_custody hcustody ⟨rfl, rfl⟩ rfl fun _ => rfl

theorem sound_of_keepsHands (h : before.Sound) : after.Sound := by
  intro sessionId lease hlease
  obtain ⟨prior, hprior, hcustody⟩ := keepsHands_prior hands hlease
  obtain ⟨hlt, hidle⟩ := h sessionId prior hprior
  obtain ⟨hepoch, hactive, hconnection, -⟩ := custody_eq hcustody
  rw [hands.nextReservationEpoch, hepoch, hactive, hconnection]
  exact ⟨hlt, hidle⟩

end SameHands

/-- No other task is in the way of this one. -/
def Clear (tasks : MediaTasks) (index : Nat) (call : MediaCall) : Prop :=
  ∀ other mate, other ≠ index → tasks.threads[other]? = some mate → call.Distinct mate

/-- What a section of one task owes to the invariant. -/
structure Safe (tasks : MediaTasks) (index : Nat) (reached : MediaCall × MediaServer) : Prop where
  sound : reached.2.Sound
  own : Custodian reached.2 index reached.1
  others : ∀ other mate, other ≠ index → tasks.threads[other]? = some mate →
    Custodian reached.2 other mate
  distinct : Clear tasks index reached.1

variable {tasks : MediaTasks} {index : Nat}

theorem Kept.clear (h : Kept tasks) (hcall : tasks.threads[index]? = some call) :
    Clear tasks index call :=
  fun other mate hother hmate => h.apart index other _ mate (.symm hother) hcall hmate

/-- A section that keeps the leases in their hands. -/
theorem safe_of_keepsHands (h : Kept tasks) {reached : MediaCall}
    (hands : tasks.shared.KeepsHands after) (hreached : Custodian tasks.shared index reached)
    (hdistinct : Clear tasks index reached) : Safe tasks index (reached, after) where
  sound := sound_of_keepsHands hands h.holds.whole
  own := custodian_of_keepsHands hands hreached
  others other mate _ hmate := custodian_of_keepsHands hands (h.holds.own other mate hmate)
  distinct := hdistinct

/-- A section after which the task has neither claim nor connection. -/
theorem safe_of_idle (h : Kept tasks) {reached : MediaCall} {after : MediaServer}
    (hepoch : reached.epoch = none) (hclaim : reached.claim = none)
    (hands : tasks.shared.KeepsHands after) : Safe tasks index (reached, after) := by
  refine safe_of_keepsHands h hands ?_ fun _ _ _ _ => distinct_of_idle hepoch hclaim
  rw [custodian_iff, hepoch, hclaim]
  refine ⟨nofun, nofun, ?_⟩
  rintro task rfl
  cases hepoch

variable {lease : Option MediaSession} {presented : BridgeCredentials}

/-- A lease that is found is the one that was set, or that of another session. -/
theorem setLease_cases {name : SessionId} {found : MediaSession}
    (h : update server.sessions sessionId lease name = some found) :
    name = sessionId ∧ lease = some found ∨ server.sessions name = some found := by
  by_cases hsession : name = sessionId
  · subst hsession
    exact .inl ⟨rfl, by simpa using h⟩
  · exact .inr (by simpa [hsession] using h)

/-- A lease that appears, or takes the place of another one. -/
theorem custodian_setLease {other : Nat} {mate : MediaCall} (h : Custodian server other mate)
    (hclaim : ∀ epoch, mate.claim = some epoch → ∀ found, lease = some found →
      found.reservationEpoch ≠ epoch)
    (htends : ∀ task, mate = .bridge task → task.sessionId = sessionId → ∀ found,
      lease = some found →
      found.reservationEpoch = task.own → task.Tends found) :
    Custodian { server with sessions := update server.sessions sessionId lease } other mate := by
  obtain ⟨hepoch, hfresh, htask⟩ := custodian_iff.mp h
  refine custodian_iff.mpr ⟨hepoch, ?_, ?_⟩
  · intro epoch hclaimed name found hfound
    rcases setLease_cases hfound with ⟨-, hset⟩ | hother
    · exact hclaim epoch hclaimed found hset
    · exact hfresh epoch hclaimed name found hother
  · intro task hmate
    obtain ⟨hshaped, hprior⟩ := htask task hmate
    refine ⟨hshaped, fun found hfound hown => ?_⟩
    rcases setLease_cases hfound with ⟨hsession, hset⟩ | hother
    · exact htends task hmate hsession found hset hown
    · exact hprior found hother hown

theorem sound_setLease (h : server.Sound) (hlease : ∀ found, lease = some found →
      found.reservationEpoch < server.nextReservationEpoch ∧
      (found.active = false → found.activeConnectionId = none)) :
    ({ server with sessions := update server.sessions sessionId lease } : MediaServer).Sound := by
  intro name found hfound
  rcases setLease_cases hfound with ⟨-, hset⟩ | hother
  · exact hlease found hset
  · exact h name found hother

/-! ## Control calls -/

theorem renew_keepsCustody (lifetime : Nat) (now : Instant)
    (expiresAtMs : Except AdapterError UInt64) :
    KeepsCustody fun session =>
      (session.renew lifetime now expiresAtMs).map Prod.snd := by
  intro session renewed h
  dsimp only at h
  cases hrenew : session.renew lifetime now expiresAtMs with
  | error error =>
    rw [hrenew] at h
    cases h
  | ok result =>
    rw [hrenew] at h
    cases h
    simp only [renew] at hrenew
    split at hrenew
    · cases hrenew
    · obtain ⟨_, _, hresult⟩ := bind_eq_ok hrenew
      cases hresult
      rfl

theorem safe_control (h : Kept tasks) {call : ControlCall}
    (hcall : tasks.threads[index]? = some (.control call)) :
    Safe tasks index (.control (call.act config tasks.shared).1,
      (call.act config tasks.shared).2) := by
  have hown := h.holds.own index _ hcall
  have hapart := h.clear hcall
  obtain ⟨sessionId, stage⟩ := call
  cases stage with
  | claimEpoch kind credential =>
    simp only [ControlCall.act]
    split
    · -- The claimed reservation is larger than every other.
      refine ⟨?_, ?_, ?_, ?_⟩
      · intro name lease hlease
        obtain ⟨hlt, hidle⟩ := h.holds.whole name lease hlease
        exact ⟨lt_succ_of_lt hlt, hidle⟩
      · intro epoch hepoch
        cases hepoch
        refine ⟨lt_succ_self _, ?_⟩
        intro name lease hlease
        exact Nat.ne_of_lt (h.holds.whole name lease hlease).1
      · intro other mate _ hmate
        obtain ⟨hepoch, hrest⟩ := custodian_iff.mp (h.holds.own other mate hmate)
        exact custodian_iff.mpr ⟨fun epoch hfound => lt_succ_of_lt (hepoch epoch hfound), hrest⟩
      · intro other mate _ hmate
        have hbelow : ∀ epoch, mate.epoch = some epoch →
            epoch < tasks.shared.nextReservationEpoch :=
          (custodian_iff.mp (h.holds.own other mate hmate)).1
        refine ⟨?_, ?_, fun first second hfirst => by cases hfirst⟩
        · intro epoch hepoch hsame
          cases hepoch
          exact lt_irrefl _ (hbelow _ hsame)
        · intro epoch hepoch hsame
          cases hsame
          have hlt : tasks.shared.nextReservationEpoch < tasks.shared.nextReservationEpoch := by
            apply hbelow
            cases mate with
            | bridge task => cases hepoch
            | control call => exact hepoch
            | handshake | refused => cases hepoch
          exact lt_irrefl _ hlt
    · exact safe_of_idle h rfl rfl .rfl
  | reserveHub kind credential epoch =>
    simp only [ControlCall.act]
    split
    · exact safe_of_idle h rfl rfl .rfl
    · refine safe_of_keepsHands h (keepsHands_of_same rfl rfl) hown ?_
      intro other mate hother hmate
      have hdistinct := hapart other mate hother hmate
      exact ⟨hdistinct.claims, hdistinct.claimed, fun first second hfirst => by cases hfirst⟩
  | insertLease kind credential epoch =>
    obtain ⟨hlt, -⟩ := hown epoch rfl
    simp only [ControlCall.act]
    refine ⟨?_, ?_, ?_, ?_⟩
    · apply sound_setLease h.holds.whole
      intro found hfound
      cases hfound
      exact ⟨hlt, fun _ => rfl⟩
    · split <;> exact nofun
    · intro other mate hother hmate
      have hdistinct := hapart other mate hother hmate
      refine custodian_setLease (h.holds.own other mate hmate) ?_ ?_
      · intro claimed hclaimed found hfound hsame
        cases hfound
        exact hdistinct.claimed claimed hclaimed (congrArg some hsame)
      · rintro task rfl - found hfound hsame
        cases hfound
        exact absurd (congrArg some hsame.symm) (hdistinct.claims epoch rfl)
    · intro other mate _ _
      split <;> exact distinct_of_idle rfl rfl
  | removeLease =>
    refine ⟨?_, nofun, ?_, fun _ _ _ _ => distinct_of_idle rfl rfl⟩
    · exact sound_setLease h.holds.whole fun found hfound => by cases hfound
    · intro other mate _ hmate
      exact custodian_setLease (h.holds.own other mate hmate)
        (fun _ _ _ hfound => by cases hfound) fun _ _ _ _ hfound => by cases hfound
  | revokeHub => exact safe_of_idle h rfl rfl (keepsHands_of_same rfl rfl)
  | renew expiresAtMs =>
    simp only [ControlCall.act]
    apply safe_of_idle h rfl rfl
    cases hrenewed : tasks.shared.onLease sessionId fun session =>
        (session.renew config.credentialLifetime tasks.shared.now expiresAtMs).map Prod.snd with
    | none => exact .rfl
    | some renewed =>
      exact onLease_keepsHands hrenewed (renew_keepsCustody _ _ expiresAtMs)
  | finished => exact safe_of_idle h rfl rfl .rfl

/-! ## Connections -/

theorem authenticate_eq_ok {lease admitted : MediaSession} {now : Instant}
    {connection : MediaConnection}
    (h : lease.authenticate now presented = .ok (connection, admitted)) :
    (presented = lease.credentials ∧ now ≤ lease.expiresAt ∧ now ≤ lease.reconnectDeadline ∧
      lease.active = false ∧ lease.captureFinished = false ∧ lease.nextConnectionId + 1 ≤ u64Max) ∧
    connection = ⟨lease.reservationEpoch, lease.nextConnectionId⟩ ∧
    admitted = { lease with
      nextConnectionId := lease.nextConnectionId + 1
      active := true
      activeConnectionId := some lease.nextConnectionId } := by
  simp only [authenticate] at h
  split at h
  · cases h
  next hrefused =>
    obtain ⟨next, hnext, h⟩ := bind_eq_ok h
    cases h
    obtain ⟨rfl, hbound⟩ := checkedAdd_eq_some.mp (orError_eq_ok.mp hnext)
    simp only [not_or, not_lt, Bool.not_eq_true, ne_eq, not_not] at hrefused
    obtain ⟨hcredential, hversion, hbridge, hexpires, hdeadline, hactive, hfinished⟩ := hrefused
    refine ⟨⟨?_, hexpires, hdeadline, hactive, hfinished, hbound⟩, rfl, rfl⟩
    cases presented
    simp_all [credentials]

theorem safe_handshake (h : Kept tasks) {input : BridgeMove}
    (hcall : tasks.threads[index]? = some (.handshake sessionId presented)) :
    Safe tasks index (act config input (.handshake sessionId presented) tasks.shared) := by
  simp only [MediaCall.act]
  split
  next connection admitted hadmitted =>
    obtain ⟨lease, hlease, hresult⟩ := bind_eq_some_iff.mp hadmitted
    have hauthenticated : lease.authenticate tasks.shared.now presented =
        .ok (connection, admitted) := by
      cases hanswer : lease.authenticate tasks.shared.now presented with
      | error error => simp [hanswer, Except.toOption] at hresult
      | ok answer =>
        simp only [hanswer, Except.toOption, some.injEq] at hresult
        rw [hresult]
    obtain ⟨⟨-, -, -, hidle, -, -⟩, rfl, rfl⟩ := authenticate_eq_ok hauthenticated
    obtain ⟨hepoch, -⟩ := h.holds.whole sessionId lease hlease
    refine ⟨?_, ?_, ?_, ?_⟩
    · apply sound_setLease h.holds.whole
      intro found hfound
      cases hfound
      exact ⟨hepoch, by rintro ⟨⟩⟩
    · refine ⟨?_, hepoch, ?_⟩
      · refine ⟨fun _ => ⟨?_, by rintro _ ⟨⟩⟩, by rintro ⟨⟩, by rintro ⟨⟩, by rintro ⟨⟩⟩
        cases hbridge : presented.bridgeSessionId <;>
          simp [admitted, pendingRelease, Section.anyRelease, Section.isRelease, hbridge]
      · intro found hfound _
        simp only [admitted, update_self, some.injEq] at hfound
        subst hfound
        exact ⟨lt_succ_self _, fun _ => ⟨by simp [isHeldBy, admitted], rfl⟩, (by rintro ⟨⟩)⟩
    · intro other mate hother hmate
      have hcustodian := h.holds.own other mate hmate
      refine custodian_setLease hcustodian ?_ ?_
      · intro claimed hclaimed found hfound
        cases hfound
        exact (custodian_iff.mp hcustodian).2.1 _ hclaimed sessionId lease hlease
      · rintro task rfl rfl found hfound hsame
        cases hfound
        have htends := hcustodian.2.2 lease hlease hsame
        refine ⟨lt_succ_of_lt htends.number, ?_, htends.lost⟩
        -- Whoever held the lease would have kept it active.
        intro hholding
        have hactive := (htends.held hholding).2
        rw [hidle] at hactive
        cases hactive
    · intro other mate hother hmate
      have hcustodian := h.holds.own other mate hmate
      refine ⟨by rintro _ ⟨⟩, ?_, ?_⟩
      · intro claimed hclaimed hsame
        cases hsame
        exact (custodian_iff.mp hcustodian).2.1 _ hclaimed sessionId lease hlease rfl
      · rintro first second hfirst rfl hsession hsame
        cases hfirst
        cases hsession
        have hown : lease.reservationEpoch = second.own :=
          congrArg MediaConnection.reservationEpoch hsame
        have hnumber := (hcustodian.2.2 lease hlease hown).number
        rw [← hsame] at hnumber
        exact lt_irrefl _ hnumber
  next => exact safe_of_idle h rfl rfl .rfl

theorem isHeldBy_unique {lease : MediaSession} {one two : MediaConnection}
    (hone : lease.isHeldBy one = true) (htwo : lease.isHeldBy two = true) : one = two := by
  cases one
  cases two
  simp_all [isHeldBy]

/-- A connection that holds the lease of its reservation is alone in that. -/
theorem Custodian.not_holding {other : Nat} {mate : Bridge} {lease : MediaSession}
    (h : Custodian server other (.bridge mate))
    (hdistinct : bridge.sessionId = mate.sessionId → bridge.connection ≠ mate.connection)
    (hlease : server.sessions bridge.sessionId = some lease)
    (hheld : lease.isHeldBy bridge.connection = true) (hsession : mate.sessionId = bridge.sessionId)
    (hown : lease.reservationEpoch = mate.own) : mate.isHolding = false := by
  cases hholding : mate.isHolding with
  | false => rfl
  | true =>
    rw [← hsession] at hlease
    have hmate := ((h.2.2 lease hlease hown).held hholding).1
    exact absurd (isHeldBy_unique hheld hmate) (hdistinct hsession.symm)

section

variable (h : Kept tasks) (hcall : tasks.threads[index]? = some (.bridge bridge))
include h hcall

/-- A connection gives up its lease: it no longer holds it, and the lease records the
loss unless the end was planned. -/
theorem safe_giveUp {reached : Bridge} (hcontinues : bridge.Continues reached)
    (hshaped : reached.Shaped) (hheld : bridge.isHolding = true)
    (hholding : reached.isHolding = false) {release : MediaSession → MediaSession}
    (hafter : after = (tasks.shared.onLease bridge.sessionId fun lease => .ok (release lease)).getD
      tasks.shared) (hrelease : ∀ lease, tasks.shared.sessions bridge.sessionId = some lease →
      lease.GivenUp bridge.connection reached.planned (release lease)) :
    Safe tasks index (.bridge reached, after) := by
  obtain ⟨-, hepoch, htends⟩ := h.holds.own index _ hcall
  have hmates := h.clear hcall
  have hdistinct : Clear tasks index (.bridge reached) :=
    fun other mate hother hmate => (hmates other mate hother hmate).of_continues hcontinues
  have hreached : reached.own = bridge.own := congrArg MediaConnection.reservationEpoch hcontinues.1
  -- Nothing changes unless the lease is there and held by this connection.
  have hnothing : (∀ lease, tasks.shared.sessions bridge.sessionId = some lease →
      lease.isHeldBy bridge.connection = false) →
        Safe tasks index (.bridge reached, tasks.shared) := by
    intro hlost
    refine safe_of_keepsHands h .rfl ⟨hshaped, hreached ▸ hepoch, ?_⟩ hdistinct
    intro lease hlease hown
    rw [hcontinues.2] at hlease
    have hstill := ((htends lease hlease (hown.trans hreached)).held hheld).1
    rw [hlost lease hlease] at hstill
    cases hstill
  cases hlease : tasks.shared.sessions bridge.sessionId with
  | none =>
    have hsame : after = tasks.shared := by simp [hafter, onLease, hlease]
    rw [hsame]
    exact hnothing fun lease hfound => by rw [hlease] at hfound; cases hfound
  | some lease =>
    have hset : after = { tasks.shared with
        sessions := update tasks.shared.sessions bridge.sessionId (some (release lease)) } := by
      simp [hafter, onLease, hlease, Except.toOption]
    cases hholds : lease.isHeldBy bridge.connection with
    | false =>
      have hsame : after = tasks.shared := by
        rw [hset, (hrelease lease hlease).other hholds, ← hlease, update_eq_self]
      rw [hsame]
      exact hnothing fun found hfound => by
        rw [hlease] at hfound
        cases hfound
        exact hholds
    | true =>
      obtain ⟨hsameEpoch, hnumber, hnobody, hmonotone, hlost⟩ := (hrelease lease hlease).held hholds
      rw [hset]
      refine ⟨?_, ⟨hshaped, hreached ▸ hepoch, ?_⟩, ?_, hdistinct⟩
      · apply sound_setLease h.holds.whole
        intro found hfound
        cases hfound
        exact ⟨hsameEpoch ▸ (h.holds.whole _ lease hlease).1, fun _ => hnobody⟩
      · intro found hfound hown
        rw [hcontinues.2] at hfound
        simp only [update_self, some.injEq] at hfound
        subst hfound
        have hprior := htends lease hlease (hsameEpoch.symm.trans (hown.trans hreached))
        refine ⟨?_, fun hstill => ?_, fun _ => hlost⟩
        · rw [hnumber, hcontinues.1]
          exact hprior.number
        · rw [hholding] at hstill
          cases hstill
      · intro other mate hne hmate
        have hcustodian := h.holds.own other mate hmate
        refine custodian_setLease hcustodian ?_ ?_
        · intro claimed hclaimed found hfound
          cases hfound
          rw [hsameEpoch]
          exact (custodian_iff.mp hcustodian).2.1 _ hclaimed _ lease hlease
        · rintro task rfl hsession found hfound hown
          cases hfound
          rw [hsameEpoch] at hown
          have hidle := hcustodian.not_holding
            ((hmates other _ hne hmate).bridges bridge task rfl rfl) hlease hholds hsession hown
          have hprior := hcustodian.2.2 lease (hsession ▸ hlease) hown
          refine ⟨hnumber ▸ hprior.number, fun hstill => ?_, fun _ hplanned =>
            hmonotone (hprior.lost hidle hplanned)⟩
          rw [hidle] at hstill
          cases hstill

theorem safe_bridge {input : BridgeMove} :
    Safe tasks index (act config input (.bridge bridge) tasks.shared) := by
  obtain ⟨hshaped, hepoch, htends⟩ := h.holds.own index _ hcall
  have hmoved := move_moved config bridge tasks.shared input
  change Safe tasks index (.bridge (bridge.move config tasks.shared input).1,
    (bridge.move config tasks.shared input).2)
  obtain ⟨hstep, hreached⟩ := hmoved.lease hshaped
  have hcontinues := hmoved.continues
  generalize bridge.move config tasks.shared input = result at hstep hcontinues hreached
  cases hstep with
  | kept hands hholding hplanned =>
    refine safe_of_keepsHands h hands ⟨hreached, ?_, ?_⟩ ?_
    · rw [own, hcontinues.1]
      exact hepoch
    · intro lease hlease hown
      rw [own, hcontinues.1] at hown
      rw [hcontinues.2] at hlease
      exact (htends lease hlease hown).of_custody rfl hcontinues hholding hplanned
    · intro other mate hother hmate
      exact (h.clear hcall other mate hother hmate).of_continues hcontinues
  | gaveUp release hheld hholding hafter hrelease =>
    exact safe_giveUp h hcall hcontinues hreached hheld hholding hafter hrelease

end

/-! ## Every run -/

variable (config) in
theorem keepsHands_hubMove (server : MediaServer) (move : HubMove) :
    server.KeepsHands (server.hubMove config move) := by
  apply keepsHands_of_same <;> cases move <;> simp only [hubMove, onPlayback, onHub, onPlaying] <;>
    (repeat' split) <;> rfl

theorem kept_spawn (h : Kept tasks) (hepoch : call.epoch = none) (hclaim : call.claim = none) :
    Kept (tasks.spawn call) := by
  have hidle : Safe tasks tasks.threads.length (call, tasks.shared) :=
    safe_of_idle h hepoch hclaim .rfl
  exact ⟨h.holds.spawn hidle.own, h.apart.spawn (fun _ _ => .symm)
    fun _ _ _ => distinct_of_idle hepoch hclaim⟩

theorem kept_step (tasks : MediaTasks) (move : MediaMove) (h : Kept tasks) :
    Kept (step config tasks move) := by
  cases move with
  | reserve sessionId kind credential | revoke sessionId | renew sessionId expiresAtMs =>
    exact kept_spawn h rfl rfl
  | connect sessionId presented => exact kept_spawn h rfl rfl
  | hub move =>
    have hands := keepsHands_hubMove config tasks.shared move
    refine ⟨⟨sound_of_keepsHands hands h.holds.whole, ?_⟩, h.apart⟩
    intro index call hcall
    exact custodian_of_keepsHands hands (h.holds.own index call hcall)
  | proceed index input =>
    have hsafe : ∀ call, tasks.threads[index]? = some call →
        Safe tasks index (act config input call tasks.shared) := by
      intro call hcall
      cases call with
      | control call => exact safe_control h hcall
      | handshake sessionId presented => exact safe_handshake h hcall
      | bridge bridge => exact safe_bridge h hcall
      | refused => exact safe_of_idle h rfl rfl .rfl
    refine ⟨h.holds.advance index ?_, h.apart.advance (fun _ _ => .symm) ?_⟩
    · intro call hcall _
      have hsafe := hsafe call hcall
      exact ⟨hsafe.sound, hsafe.own, fun other mate hother hmate _ =>
        hsafe.others other mate hother hmate⟩
    · intro call hcall other mate hother hmate _
      exact (hsafe call hcall).distinct other mate hother hmate

theorem kept_start : Kept start := by
  refine ⟨⟨fun _ _ h => (by cases h), fun index call h => ?_⟩, fun first second one two _ h => ?_⟩
  · simp [start] at h
  · simp [start] at h

variable (config) in
theorem kept_run (moves : List MediaMove) : Kept (run config start moves) :=
  List.foldlRecOn moves _ kept_start fun tasks h move _ => kept_step tasks move h

/-- In every run a lease is of a reservation that was given out, at most one connection
holds it, and one that let go of it without a planned finish has released it. -/
theorem lease_held_once (moves : List MediaMove) :
    let tasks := run config start moves
    (∀ sessionId, ∀ lease ∈ tasks.shared.sessions sessionId,
      lease.reservationEpoch < tasks.shared.nextReservationEpoch) ∧
    ∀ (index : Nat) bridge, tasks.threads[index]? = some (.bridge bridge) →
      ∀ lease ∈ tasks.shared.sessions bridge.sessionId, lease.reservationEpoch = bridge.own →
        (bridge.isHolding = false → bridge.planned = false → lease.released = true) ∧
        (bridge.isHolding = true → lease.active = true ∧
          ∀ (other : Nat) mate, tasks.threads[other]? = some (.bridge mate) →
            mate.sessionId = bridge.sessionId → mate.own = bridge.own →
              mate.isHolding = true → other = index) := by
  intro tasks
  have hkept := kept_run config moves
  refine ⟨fun sessionId lease hlease => (hkept.holds.whole sessionId lease hlease).1, ?_⟩
  intro index bridge hbridge lease hlease hown
  have htends := (hkept.holds.own index _ hbridge).2.2 lease hlease hown
  refine ⟨htends.lost, fun hholds => ⟨(htends.held hholds).2, ?_⟩⟩
  intro other mate hmate hsession hsame hholding
  have hmated := (hkept.holds.own other _ hmate).2.2 lease (hsession ▸ hlease)
    (hown.trans hsame.symm)
  by_contra hne
  exact (hkept.apart other index _ _ hne hmate hbridge).bridges mate bridge rfl rfl hsession
    (isHeldBy_unique (hmated.held hholding).1 (htends.held hholds).1)

end MediaTasks

end ConversationRuntime
