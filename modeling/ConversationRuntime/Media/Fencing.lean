import ConversationRuntime.Foundation.Runs
import ConversationRuntime.Media.Machine

/-! # Fencing of reservations

What belongs to one reservation, and which sections of a connection compare the
reservation they find with their own. A connection whose other sections only meet
its own reservation never touches another one.
-/

namespace ConversationRuntime

open Foundation MediaServer MediaSession List NetworkPlayback Function Option

/-- The part of the server that belongs to one reservation. -/
@[ext] structure Reservation where
  lease : SessionId → Option MediaSession
  session : SessionId → Option NetworkSession
  voices : List VoiceSink
  lanes : List RecognitionLane

namespace MediaServer

def reservation (server : MediaServer) (epoch : Nat) : Reservation where
  lease sessionId := (server.sessions sessionId).filter fun lease => lease.reservationEpoch == epoch
  session sessionId :=
    (server.hub sessionId).filter fun session => session.reservationEpoch == epoch
  voices := server.voiceSinks.filter fun sink => sink.owner == epoch
  lanes := server.lanes.filter fun lane => lane.owner == epoch

/-- Only the reservation `own` may differ. -/
def Spares (own : Nat) (before after : MediaServer) : Prop :=
  ∀ epoch, epoch ≠ own → after.reservation epoch = before.reservation epoch

def voiceOwners (server : MediaServer) : List Nat := server.voiceSinks.map VoiceSink.owner

def laneOwners (server : MediaServer) : List Nat := server.lanes.map RecognitionLane.owner

/-- Every session of the hub is of the reservation `own`, and so is the lease. -/
def Within (server : MediaServer) (own : Nat) (sessionId : SessionId) : Prop :=
  (∀ lease ∈ server.sessions sessionId, lease.reservationEpoch = own) ∧
    ∀ session ∈ server.hub sessionId, session.reservationEpoch = own

instance (server : MediaServer) (own : Nat) (sessionId : SessionId) :
    Decidable (server.Within own sessionId) :=
  inferInstanceAs (Decidable (_ ∧ _))

variable {server : MediaServer} {own : Nat} {sessionId : SessionId}

theorem Spares.rfl : Spares own server server := by
  intro epoch _
  exact .refl _

theorem Spares.trans {first second third : MediaServer} (hfirst : Spares own first second)
    (hsecond : Spares own second third) : Spares own first third := by
  intro epoch hepoch
  rw [hsecond epoch hepoch, hfirst epoch hepoch]

/-- Replacing a lease of one's own by another one of one's own. -/
theorem spares_setLease {before after : MediaSession}
    (hbefore : server.sessions sessionId = some before) (hown : before.reservationEpoch = own)
    (hafter : after.reservationEpoch = own) :
    Spares own server
      { server with sessions := Function.update server.sessions sessionId (some after) } := by
  intro epoch hepoch
  apply Reservation.ext
  · funext other
    by_cases hother : other = sessionId
    · subst hother
      simp [reservation, hbefore, hown, hafter, Option.filter, Ne.symm hepoch]
    · simp [reservation, Function.update_of_ne hother]
  all_goals simp [reservation]

theorem spares_setSession {before after : NetworkSession}
    (hbefore : server.hub sessionId = some before) (hown : before.reservationEpoch = own)
    (hafter : after.reservationEpoch = own) :
    Spares own server { server with hub := Function.update server.hub sessionId (some after) } := by
  intro epoch hepoch
  apply Reservation.ext
  · simp [reservation]
  · funext other
    by_cases hother : other = sessionId
    · subst hother
      simp [reservation, hbefore, hown, hafter, Option.filter, Ne.symm hepoch]
    · simp [reservation, Function.update_of_ne hother]
  all_goals simp [reservation]

variable (origin : MediaConnection)

theorem spares_deliver {sink : Nat} (hsink : server.voiceOwners[sink]? = some own)
    (event : MediaInputEvent) : Spares own server (server.deliver sink origin event) := by
  intro epoch hepoch
  apply Reservation.ext
  case voices =>
    apply filter_modify
    intro target htarget
    have howner : target.owner = own := by simpa [voiceOwners, htarget] using hsink
    simp [howner, Ne.symm hepoch]
  all_goals simp [reservation, deliver]

theorem spares_offer {lane : Nat} (hlane : server.laneOwners[lane]? = some own) (room : Nat)
    (event : CaptureEvent) : Spares own server (server.offer lane room origin event) := by
  intro epoch hepoch
  apply Reservation.ext
  case lanes =>
    apply filter_modify
    intro target htarget
    have howner : target.owner = own := by simpa [laneOwners, htarget] using hlane
    simp [RecognitionLane.owner_offer, howner, Ne.symm hepoch]
  all_goals simp [reservation, offer]

@[simp] theorem voiceOwners_deliver (sink : Nat) (event : MediaInputEvent) :
    (server.deliver sink origin event).voiceOwners = server.voiceOwners :=
  map_modify (fun _ => by simp) server.voiceSinks sink

@[simp] theorem laneOwners_deliver (sink : Nat) (event : MediaInputEvent) :
    (server.deliver sink origin event).laneOwners = server.laneOwners :=
  .refl _

@[simp] theorem voiceOwners_offer (lane room : Nat) (event : CaptureEvent) :
    (server.offer lane room origin event).voiceOwners = server.voiceOwners :=
  .refl _

@[simp] theorem laneOwners_offer (lane room : Nat) (event : CaptureEvent) :
    (server.offer lane room origin event).laneOwners = server.laneOwners :=
  map_modify (fun _ => RecognitionLane.owner_offer ..) server.lanes lane

end MediaServer

/-! ## Leases keep their custody -/

namespace MediaSession

/-- What a lease says about who holds it, without its expiry and its capture. -/
def custody (session : MediaSession) : MediaSession :=
  { session with
    expiresAt := 0
    expectedSequence := none
    lastCaptureTimestampMs := none
    rateWindowStarted := 0
    framesInWindow := 0
    timed := none
    captureFinished := false }

/-- What two leases in the same custody share. -/
theorem custody_eq {one two : MediaSession} (h : one.custody = two.custody) :
    one.reservationEpoch = two.reservationEpoch ∧ one.active = two.active ∧
      one.activeConnectionId = two.activeConnectionId ∧
      one.nextConnectionId = two.nextConnectionId ∧ one.released = two.released := by
  simp only [custody, mk.injEq] at h
  tauto

/-- An admission leaves the lease in the same hands. -/
def KeepsCustody (admission : MediaSession → Except AdapterError MediaSession) : Prop :=
  ∀ session admitted, admission session = .ok admitted → admitted.custody = session.custody

/-- An admission leaves the lease in the same hands and of the same kind. -/
def KeepsKind (admission : MediaSession → Except AdapterError MediaSession) : Prop :=
  ∀ lease admitted, admission lease = .ok admitted →
    admitted.custody = lease.custody ∧ admitted.timed.isSome = lease.timed.isSome

theorem KeepsKind.keepsCustody {admission : MediaSession → Except AdapterError MediaSession}
    (h : KeepsKind admission) : KeepsCustody admission :=
  fun lease admitted hadmitted => (h lease admitted hadmitted).1

theorem keepsKind_onTimed (admission : TimedMediaState → Except AdapterError TimedMediaState) :
    KeepsKind (·.onTimed admission) := by
  intro lease admitted h
  obtain ⟨state, hstate, h⟩ := bind_eq_ok h
  obtain ⟨reached, -, h⟩ := bind_eq_ok h
  cases h
  rw [orError_eq_ok.mp hstate]
  exact ⟨rfl, rfl⟩

theorem keepsKind_admitEpoch (epoch : CaptureEpoch) (reconnect : Bool) :
    KeepsKind (·.admitEpoch epoch reconnect) := by
  intro lease admitted h
  obtain ⟨-, -, h⟩ := bind_eq_ok h
  exact keepsKind_onTimed _ lease admitted h

theorem keepsKind_admitTimedRate (maxFramesPerSecond : Nat) (now : Instant) (isMetadata : Bool) :
    KeepsKind (·.admitTimedRate maxFramesPerSecond now isMetadata) := by
  intro lease admitted h
  simp only [admitTimedRate] at h
  split at h
  · cases h
  · split at h
    · obtain ⟨state, hstate, h⟩ := bind_eq_ok h
      obtain ⟨window, -, h⟩ := bind_eq_ok h
      cases h
      rw [orError_eq_ok.mp hstate]
      exact ⟨rfl, rfl⟩
    · obtain ⟨window, -, h⟩ := bind_eq_ok h
      cases h
      exact ⟨rfl, rfl⟩

theorem keepsCustody_commitCaptureMetadata (maxFramesPerSecond : Nat) (now : Instant)
    (sequence capturedAtMs : UInt64) :
    KeepsCustody fun session =>
      .ok (commitCaptureMetadata maxFramesPerSecond now sequence capturedAtMs session).2 := by
  intro session admitted h
  cases h
  have hrenewed : (session.renewRateWindow now).custody = session.custody := by
    obtain ⟨started, hrenewed⟩ := session.renewRateWindow_eq now
    rw [hrenewed]
    rfl
  suffices hmeets : Fallible.Meets
      (commitCaptureMetadata maxFramesPerSecond now sequence capturedAtMs)
      session fun _ reached => reached.custody = session.custody from hmeets
  refine .of_read (.of_require (fun _ => .of_lift (fun _ _ => .of_update (.of_read
    (.of_require (fun _ => .of_require (fun _ => ?_) ?_) ?_))) ?_) ?_)
  · exact hrenewed
  · exact fun _ => hrenewed
  · exact fun _ => hrenewed
  · exact fun _ _ => rfl
  · exact fun _ => rfl

variable {session : MediaSession} {connection : MediaConnection}

/-- A finish is only admitted for the connection that holds the lease. -/
theorem admitCaptureFinish_eq_ok {admitted : MediaSession} {boundary : CaptureFinishBoundary}
    (h : session.admitCaptureFinish connection boundary = .ok admitted) :
    session.isHeldBy connection = true ∧ admitted = { session with captureFinished := true } := by
  simp only [admitCaptureFinish] at h
  split at h
  · cases h
  next hheld =>
    split at h
    · cases h
    split at h
    · cases h
    · obtain ⟨state, -, h⟩ := bind_eq_ok h
      obtain ⟨_, -, h⟩ := bind_eq_ok h
      cases h
      exact ⟨by simpa using hheld, rfl⟩

theorem keepsKind_admitCaptureFinish (connection : MediaConnection)
    (boundary : CaptureFinishBoundary) : KeepsKind (·.admitCaptureFinish connection boundary) := by
  intro lease admitted h
  obtain ⟨-, rfl⟩ := admitCaptureFinish_eq_ok h
  exact ⟨rfl, rfl⟩

theorem reservationEpoch_of_isHeldBy (h : session.isHeldBy connection = true) :
    session.reservationEpoch = connection.reservationEpoch := by
  simp only [isHeldBy, Bool.and_eq_true, beq_iff_eq] at h
  exact h.1

end MediaSession

/-! ## Fenced and unfenced sections -/

namespace Section

/-- Whether a section changes the session it finds, or chooses its sinks, without
comparing the reservation with its own. -/
def isUnfenced : Section → Bool
  | .admitTimedRate _ | .admitEpoch _ | .admitTimedMetadata _ | .commitTimedFrame _
  | .commitCaptureMetadata _ _ | .deliverCapture _ | .deliverDiscontinuity _
  | .deliverCaptureMetadata _ | .acknowledgePlayback _ _ | .acknowledgeFlush _
  | .markPlaybackWritten _ => true
  | _ => false

/-- Whether the section gives up the lease. -/
def isRelease : Section → Bool
  | .releaseConnection _ => true
  | _ => false

/-- Whether a section neither sends to a sink it was given nor gives up the lease. -/
def isPlain : Section → Bool
  | .sendFrame .. | .sendDiscontinuity .. | .sendMetadata .. | .sendFinish .. | .sendReceipt ..
  | .releaseConnection _ => false
  | _ => true

/-- The sinks a section sends to belong to the reservation `own`. -/
def SendsWithin (own : Nat) (server : MediaServer) : Section → Prop
  | .sendFrame voice lane _ | .sendDiscontinuity voice lane _ =>
    server.voiceOwners[voice]? = some own ∧ server.laneOwners[lane]? = some own
  | .sendMetadata voice _ | .sendFinish voice _ | .sendReceipt voice _ =>
    server.voiceOwners[voice]? = some own
  | _ => True

end Section

/-- What the hub remembers of a session beside playback. -/
def NetworkSession.attachments (session : NetworkSession) : Nat × Option Nat × Option Nat :=
  (session.reservationEpoch, session.voice, session.recognition)

namespace MediaServer

/-- The sinks of a session belong to its reservation. -/
def SinksOwned (server : MediaServer) : Prop :=
  ∀ sessionId session, server.hub sessionId = some session →
    (∀ voice, session.voice = some voice →
      server.voiceOwners[voice]? = some session.reservationEpoch) ∧
    ∀ lane, session.recognition = some lane →
      server.laneOwners[lane]? = some session.reservationEpoch

/-- A step within one reservation: no other one is touched, no sink changes its
owner and the hub's sessions keep their sinks. -/
structure StepsWithin (own : Nat) (before after : MediaServer) : Prop where
  spares : Spares own before after
  voiceOwners : after.voiceOwners = before.voiceOwners
  laneOwners : after.laneOwners = before.laneOwners
  attachments : ∀ sessionId, (after.hub sessionId).map NetworkSession.attachments =
    (before.hub sessionId).map NetworkSession.attachments

variable {server : MediaServer} {own : Nat} {sessionId : SessionId}

theorem StepsWithin.rfl : StepsWithin own server server :=
  ⟨.rfl, .refl _, .refl _, fun _ => .refl _⟩

theorem StepsWithin.sinksOwned {before after : MediaServer} (h : StepsWithin own before after)
    (howned : before.SinksOwned) : after.SinksOwned := by
  intro sessionId session hsession
  have hsame := h.attachments sessionId
  rw [hsession] at hsame
  obtain ⟨prior, hprior, hattached⟩ := map_eq_some_iff.mp hsame.symm
  simp only [NetworkSession.attachments, Prod.mk.injEq] at hattached
  obtain ⟨hepoch, hvoice, hlane⟩ := hattached
  rw [h.voiceOwners, h.laneOwners, ← hepoch, ← hvoice, ← hlane]
  exact howned sessionId prior hprior

/-- The hub has the session of no other reservation. -/
def HubWithin (server : MediaServer) (own : Nat) (sessionId : SessionId) : Prop :=
  ∀ session, server.hub sessionId = some session → session.reservationEpoch = own

variable {admission : MediaSession → Except AdapterError MediaSession} {admitted : MediaServer}

theorem onLease_eq_some (h : server.onLease sessionId admission = some admitted) :
    ∃ before after, server.sessions sessionId = some before ∧ admission before = .ok after ∧
      admitted = { server with
        sessions := update server.sessions sessionId (some after) } := by
  simp only [onLease, Option.bind_eq_bind, Option.bind_eq_some_iff, Option.pure_def,
    some.injEq] at h
  obtain ⟨before, hbefore, after, hafter, hadmitted⟩ := h
  cases hresult : admission before with
  | error error => simp [hresult, Except.toOption] at hafter
  | ok value =>
    simp only [hresult, Except.toOption, some.injEq] at hafter
    exact ⟨before, after, hbefore, hafter ▸ hresult, hadmitted.symm⟩

/-- An admission on a lease of one's own. -/
theorem onLease_within (h : server.onLease sessionId admission = some admitted)
    (hown : ∀ before after, server.sessions sessionId = some before → admission before = .ok after →
      before = after ∨ before.reservationEpoch = own ∧ after.reservationEpoch = own) :
    StepsWithin own server admitted := by
  obtain ⟨before, after, hsession, hadmission, rfl⟩ := onLease_eq_some h
  rcases hown before after hsession hadmission with hsame | ⟨hbefore, hafter⟩
  · subst hsame
    have hunchanged : update server.sessions sessionId (some before) = server.sessions :=
      update_eq_self_iff.mpr hsession.symm
    rw [hunchanged]
    exact .rfl
  · exact ⟨spares_setLease hsession hbefore hafter, .refl _, .refl _, fun _ => .refl _⟩

/-- A program on the playback state of a session of one's own. -/
theorem onPlaying_within {α : Type} (program : Playing α) (hown : server.HubWithin own sessionId) :
    StepsWithin own server (server.onPlaying sessionId program).2 := by
  unfold onPlaying
  cases hsession : server.hub sessionId with
  | none => exact .rfl
  | some session =>
    refine ⟨spares_setSession hsession (hown session hsession) (hown session hsession),
      Eq.refl _, Eq.refl _, ?_⟩
    intro other
    by_cases hother : other = sessionId
    · subst hother
      simp [hsession, NetworkSession.attachments]
    · simp [update_of_ne hother]

theorem deliver_within {sink : Nat} (hsink : server.voiceOwners[sink]? = some own)
    (origin : MediaConnection) (event : MediaInputEvent) :
    StepsWithin own server (server.deliver sink origin event) :=
  ⟨spares_deliver origin hsink event, by simp, by simp, fun _ => .refl _⟩

theorem StepsWithin.trans {first second third : MediaServer} (hfirst : StepsWithin own first second)
    (hsecond : StepsWithin own second third) : StepsWithin own first third where
  spares := hfirst.spares.trans hsecond.spares
  voiceOwners := hsecond.voiceOwners.trans hfirst.voiceOwners
  laneOwners := hsecond.laneOwners.trans hfirst.laneOwners
  attachments sessionId := (hsecond.attachments sessionId).trans (hfirst.attachments sessionId)

/-- The sinks chosen for a session of one's own are one's own. -/
theorem SinksOwned.openSinks (howned : server.SinksOwned) {session : NetworkSession}
    (hsession : server.hub sessionId = some session) {voice lane : Nat}
    (hsinks : server.openSinks session = some (voice, lane)) :
    server.voiceOwners[voice]? = some session.reservationEpoch ∧
      server.laneOwners[lane]? = some session.reservationEpoch := by
  simp only [MediaServer.openSinks, filter_eq_some_iff, NetworkSession.sinks,
    Option.bind_eq_bind, Option.bind_eq_some_iff, Option.pure_def, Option.some.injEq,
    Prod.mk.injEq] at hsinks
  obtain ⟨⟨_, hvoice, _, hlane, rfl, rfl⟩, -⟩ := hsinks
  have hsession := howned sessionId session hsession
  exact ⟨hsession.1 _ hvoice, hsession.2 _ hlane⟩

/-- Every lease stays in the same hands, and no reservation is claimed. -/
structure KeepsHands (before after : MediaServer) : Prop where
  custody : ∀ sessionId, (after.sessions sessionId).map MediaSession.custody =
    (before.sessions sessionId).map MediaSession.custody
  nextReservationEpoch : after.nextReservationEpoch = before.nextReservationEpoch

theorem KeepsHands.rfl : KeepsHands server server := ⟨fun _ => .refl _, .refl _⟩

/-- A step that leaves the leases alone. -/
theorem keepsHands_of_same {after : MediaServer} (hsessions : after.sessions = server.sessions)
    (hepoch : after.nextReservationEpoch = server.nextReservationEpoch) : KeepsHands server after :=
  ⟨fun sessionId => by rw [hsessions], hepoch⟩

theorem onLease_keepsHands (h : server.onLease sessionId admission = some admitted)
    (hkeeps : KeepsCustody admission) : KeepsHands server admitted := by
  obtain ⟨before, after, hbefore, hadmitted, rfl⟩ := onLease_eq_some h
  refine ⟨?_, .refl _⟩
  intro other
  by_cases hother : other = sessionId
  · subst hother
    simp [hbefore, hkeeps before after hadmitted]
  · simp [update_of_ne hother]

theorem onPlaying_keepsHands {α : Type} (program : Playing α) :
    KeepsHands server (server.onPlaying sessionId program).2 := by
  unfold onPlaying
  split <;> exact keepsHands_of_same (.refl _) (.refl _)

end MediaServer

/-! ## What one section does -/

namespace Bridge

/-- The reservation a connection was admitted to. -/
abbrev own (bridge : Bridge) : Nat := bridge.connection.reservationEpoch

/-- What a pending finish still sends goes to the connection's own reservation. -/
def FinishWithin (server : MediaServer) (bridge : Bridge) : Prop :=
  ∀ pending, bridge.finish = some pending →
    ∀ step ∈ pending.sections, step.SendsWithin bridge.own server

/-- A bridge goes on as the same connection. -/
def Continues (bridge reached : Bridge) : Prop :=
  reached.connection = bridge.connection ∧ reached.sessionId = bridge.sessionId

end Bridge

namespace Section

variable {config : MediaServerConfig} {conditions : SendConditions} {bridge : Bridge}
  {server : MediaServer}

/-- What a section may rely on that has to stay within the connection's reservation. -/
structure Permitted (bridge : Bridge) (server : MediaServer) (step : Section) : Prop where
  owned : server.SinksOwned
  sends : step.SendsWithin bridge.own server
  within : step.isUnfenced = true → server.Within bridge.own bridge.sessionId

/-- A section that another one may put in front: it keeps the lease, and it sends
within the reservation if the other one stays there. -/
def IsNext (bridge : Bridge) (server : MediaServer) (step other : Section) : Prop :=
  other.isRelease = false ∧
    (step.Permitted bridge server → other.SendsWithin bridge.own server)

/-- How a section leaves its connection. -/
structure Leads (bridge reached : Bridge) : Prop where
  progresses : Progresses bridge reached
  finish : ∀ pending, reached.finish = some pending →
    bridge.finish = some pending ∨ pending.sections.all isPlain = true

/-- What a section does: only the release moves the lease to other hands, and a
section that meets no other reservation stays within its own. -/
structure Effect (bridge : Bridge) (server : MediaServer) (step : Section) (answer : Answer) :
    Prop where
  hands : step.isRelease = false → server.KeepsHands answer.2
  steps : step.Permitted bridge server → MediaServer.StepsWithin bridge.own server answer.2
  resumes : ∀ reached more, answer.1 = some (reached, more) → Leads bridge reached ∧
    ∀ other ∈ more, IsNext bridge server step other

variable {step : Section}

theorem SendsWithin.of_plain {own : Nat} (h : step.isPlain = true) :
    step.SendsWithin own server := by
  cases step <;> trivial

theorem isRelease_of_plain (h : step.isPlain = true) : step.isRelease = false := by
  cases step <;> first | rfl | cases h

variable {more : List Section}

theorem isNext_of_plain (h : more.all isPlain = true) :
    ∀ other ∈ more, IsNext bridge server step other := by
  intro other hother
  have hplain := all_eq_true.mp h other hother
  exact ⟨isRelease_of_plain hplain, fun _ => .of_plain hplain⟩

theorem SendsWithin.mono {own : Nat} {before after : MediaServer} (h : step.SendsWithin own before)
    (hvoices : ∀ (index owner : Nat), before.voiceOwners[index]? = some owner →
      after.voiceOwners[index]? = some owner)
    (hlanes : ∀ (index owner : Nat), before.laneOwners[index]? = some owner →
      after.laneOwners[index]? = some owner) : step.SendsWithin own after := by
  cases step
  case sendFrame => exact ⟨hvoices _ _ h.1, hlanes _ _ h.2⟩
  case sendDiscontinuity => exact ⟨hvoices _ _ h.1, hlanes _ _ h.2⟩
  case sendMetadata => exact hvoices _ _ h
  case sendFinish => exact hvoices _ _ h
  case sendReceipt => exact hvoices _ _ h
  all_goals trivial

theorem Leads.rfl : Leads bridge bridge := ⟨.rfl, fun _ h => .inl h⟩

variable {reached : Bridge}

/-- A change of the server, after which the connection fails or goes on. -/
theorem effect_of {after : MediaServer} (answer : Option (List Section))
    (hands : step.isRelease = false → server.KeepsHands after)
    (hsteps : step.Permitted bridge server → StepsWithin bridge.own server after)
    (hleads : Leads bridge reached)
    (hmore : ∀ more, answer = some more → ∀ other ∈ more, IsNext bridge server step other) :
    Effect bridge server step (answer.map fun more => (reached, more), after) := by
  refine ⟨hands, hsteps, ?_⟩
  intro found sections h
  obtain ⟨more, hanswer, hpair⟩ := map_eq_some_iff.mp h
  cases hpair
  exact ⟨hleads, hmore _ hanswer⟩

/-- A look that changes nothing. -/
theorem effect_look (hleads : Leads bridge reached) (answer : Option (List Section))
    (hmore : ∀ more, answer = some more → ∀ other ∈ more, IsNext bridge server step other) :
    Effect bridge server step (answer.map fun more => (reached, more), server) :=
  effect_of answer (fun _ => .rfl) (fun _ => .rfl) hleads hmore

theorem effect_failed : Effect bridge server step (none, server) :=
  effect_look .rfl none nofun

theorem effect_plain (hleads : Leads bridge reached)
    (hmore : more.all isPlain = true) : Effect bridge server step (some (reached, more), server) :=
  effect_look hleads (some more) fun _ h => by
    cases h
    exact isNext_of_plain hmore

variable {α : Type} {admission : MediaSession → Except AdapterError MediaSession}

theorem effect_choosing {choice : Option α} {next : α → List Section}
    (hnext : ∀ chosen, choice = some chosen →
      ∀ other ∈ next chosen, IsNext bridge server step other) :
    Effect bridge server step (choosing bridge server choice next) := by
  unfold choosing
  split
  next chosen =>
    refine effect_look .rfl (some (next chosen)) ?_
    intro more hmore
    cases hmore
    exact hnext chosen rfl
  next => exact effect_failed

theorem effect_consulting {question : MediaSession → Except AdapterError α}
    {next : α → List Section} (hnext : ∀ answer, (next answer).all isPlain = true) :
    Effect bridge server step (consulting bridge server question next) := by
  unfold consulting
  split
  next answer _ => exact effect_plain .rfl (hnext answer)
  next => exact effect_failed

theorem effect_admitting (hleads : Leads bridge reached)
    (hkeeps : step.isRelease = false → KeepsCustody admission)
    (hown : step.Permitted bridge server → ∀ before after,
      server.sessions bridge.sessionId = some before → admission before = .ok after →
      before = after ∨ before.reservationEpoch = bridge.own ∧ after.reservationEpoch = bridge.own) :
    Effect bridge server step (admitting bridge server admission reached) := by
  unfold admitting
  split
  next admitted hadmitted =>
    exact effect_of (some [])
      (fun hkeep => onLease_keepsHands hadmitted (hkeeps hkeep))
      (fun hpermitted => onLease_within hadmitted (hown hpermitted)) hleads
      fun _ h => by cases h; simp
  next => exact effect_failed

/-- An admission that does not look at the reservation. -/
theorem effect_unfenced (hunfenced : step.isUnfenced = true) (hkeeps : KeepsCustody admission) :
    Effect bridge server step (admitting bridge server admission bridge) := by
  refine effect_admitting .rfl (fun _ => hkeeps) ?_
  intro hpermitted before after hbefore hafter
  have hown := (hpermitted.within hunfenced).1 before hbefore
  have hepoch := congrArg MediaSession.reservationEpoch (hkeeps before after hafter)
  exact .inr ⟨hown, hepoch.trans hown⟩

/-- A commit that does not look at the reservation. -/
theorem effect_committing {commit : Fallible MediaSession AdapterError Unit}
    (hunfenced : step.isUnfenced = true)
    (hkeeps : KeepsCustody fun session => .ok (commit session).2) :
    Effect bridge server step (committing bridge server commit) := by
  have hadmitting : Effect bridge server step (admitting bridge server _ bridge) :=
    effect_unfenced hunfenced hkeeps
  unfold committing
  unfold admitting onLease at hadmitting
  split
  next => exact effect_failed
  next session hsession =>
    rw [hsession] at hadmitting
    refine ⟨hadmitting.hands, hadmitting.steps, ?_⟩
    intro reached more h
    obtain ⟨-, -, hpair⟩ := map_eq_some_iff.mp h
    cases hpair
    exact ⟨.rfl, nofun⟩

variable {next : α → Option (List Section)} {program : Playing α} {acting : Bridge}

theorem effect_playing (hleads : Leads bridge acting)
    (hown : step.Permitted bridge server → server.HubWithin bridge.own bridge.sessionId)
    (hnext : ∀ answer more, next answer = some more →
      ∀ other ∈ more, IsNext bridge server step other) :
    Effect bridge server step (playing acting server program next) := by
  have hsession : acting.sessionId = bridge.sessionId := by
    obtain ⟨_, _, _, _, rfl⟩ := hleads.progresses
    rfl
  unfold playing
  rw [hsession]
  refine effect_of _ (fun _ => onPlaying_keepsHands program)
    (fun hpermitted => onPlaying_within program (hown hpermitted)) hleads ?_
  intro more hmore
  obtain ⟨answer, -, hanswer⟩ := bind_eq_some_iff.mp hmore
  exact hnext answer more hanswer

/-- The session of one's own reservation is all the hub has under the session's name. -/
theorem own_of_ofReservation (h : (server.ofReservation bridge.sessionId bridge.own).isSome = true)
    : server.HubWithin bridge.own bridge.sessionId := by
  intro session hsession
  simp only [ofReservation, hsession] at h
  by_contra hne
  simp [hne] at h

theorem effect_playingOwn (hleads : Leads bridge acting)
    (hnext : server.HubWithin bridge.own bridge.sessionId →
      ∀ answer more, next answer = some more → ∀ other ∈ more, IsNext bridge server step other) :
    Effect bridge server step (playingOwn acting server program next) := by
  unfold playingOwn
  split
  next hfound =>
    have hown := own_of_ofReservation hfound
    obtain ⟨_, _, _, _, rfl⟩ := hleads.progresses
    exact effect_playing hleads (fun _ => hown) (hnext hown)
  next => exact effect_failed

/-- The voice sink of a session of one's own is one's own. -/
theorem owner_voice (howned : server.SinksOwned)
    (hown : server.HubWithin bridge.own bridge.sessionId) {sink : Nat}
    (h : voice bridge server = some sink) : server.voiceOwners[sink]? = some bridge.own := by
  obtain ⟨session, hsession, hvoice⟩ := bind_eq_some_iff.mp h
  rw [(howned bridge.sessionId session hsession).1 sink hvoice, hown session hsession]

theorem isNext_flushedReceipts (hown : server.HubWithin bridge.own bridge.sessionId)
    {generations : List GenerationId}
    (h : flushedReceipts (voice bridge server) generations = some more) :
    ∀ other ∈ more, IsNext bridge server step other := by
  intro other hother
  unfold flushedReceipts at h
  split at h
  · cases h
    cases hother
  · obtain ⟨sink, hsink, rfl⟩ := map_eq_some_iff.mp h
    obtain ⟨generation, -, rfl⟩ := mem_map.mp hother
    exact ⟨rfl, fun hpermitted => owner_voice hpermitted.owned hown hsink⟩

/-- A single send to the voice sink of the session. -/
theorem isNext_voice {sink : Nat} {send : Section} (hrelease : send.isRelease = false)
    (hsends : ∀ own, server.voiceOwners[sink]? = some own → send.SendsWithin own server)
    (hown : step.Permitted bridge server → server.HubWithin bridge.own bridge.sessionId)
    (hsink : voice bridge server = some sink) :
    ∀ other ∈ [send], IsNext bridge server step other := by
  intro other hother
  rw [mem_singleton.mp hother]
  exact ⟨hrelease, fun hpermitted =>
    hsends _ (owner_voice hpermitted.owned (hown hpermitted) hsink)⟩

/-- A single send to both sinks of the session. -/
theorem isNext_sinks {voice lane : Nat} {send : Section} (hrelease : send.isRelease = false)
    (hsends : ∀ own, server.voiceOwners[voice]? = some own ∧ server.laneOwners[lane]? = some own →
      send.SendsWithin own server) (hunfenced : step.isUnfenced = true)
    (hchosen : (server.hub bridge.sessionId).bind server.openSinks = some (voice, lane)) :
    ∀ other ∈ [send], IsNext bridge server step other := by
  intro other hother
  rw [mem_singleton.mp hother]
  refine ⟨hrelease, fun hpermitted => hsends _ ?_⟩
  obtain ⟨session, hsession, hopen⟩ := bind_eq_some_iff.mp hchosen
  rw [← (hpermitted.within hunfenced).2 session hsession]
  exact hpermitted.owned.openSinks hsession hopen

theorem effect_sending {voice lane : Nat} {event : CaptureEvent}
    (hsends : step.SendsWithin bridge.own server → server.voiceOwners[voice]? = some bridge.own ∧
      server.laneOwners[lane]? = some bridge.own) :
    Effect bridge server step (sending conditions bridge server voice lane event) := by
  unfold sending
  split
  · refine effect_of (some []) (fun _ => keepsHands_of_same rfl rfl) ?_ .rfl
      fun _ h => (by cases h; simp)
    intro hpermitted
    obtain ⟨hvoice, hlane⟩ := hsends hpermitted.sends
    exact (deliver_within hvoice bridge.connection (.capture event)).trans
      ⟨spares_offer bridge.connection (by simpa using hlane) conditions.room event,
        by simp, by simp, fun _ => .refl _⟩
  · exact effect_failed

theorem effect_sendingVoice {voice : Nat} {event : MediaInputEvent}
    (hsends : step.SendsWithin bridge.own server → server.voiceOwners[voice]? = some bridge.own) :
    Effect bridge server step (sendingVoice conditions bridge server voice event) := by
  unfold sendingVoice
  split
  · exact effect_of (some []) (fun _ => keepsHands_of_same rfl rfl)
      (fun hpermitted => deliver_within (hsends hpermitted.sends) bridge.connection event)
      .rfl fun _ h => (by cases h; simp)
  · exact effect_failed

variable (config conditions bridge server step) in
/-- What every section does. -/
theorem perform_effect :
    Effect bridge server step (step.perform config conditions bridge server) := by
  cases step with
  | confirmAuthentication | requireEpoch =>
    simp only [perform]
    split
    · exact effect_plain .rfl rfl
    · exact effect_failed
  | attachPlayback =>
    simp only [perform]
    split
    · exact effect_failed
    · apply effect_playingOwn ⟨⟨_, _, _, _, rfl⟩, fun _ h => .inl h⟩
      intro _ _ more hmore
      cases hmore
      simp
  | startEpoch => exact effect_plain ⟨⟨_, _, _, _, rfl⟩, fun _ h => .inl h⟩ rfl
  | admitTimedRate isMetadata =>
    exact effect_unfenced rfl (keepsKind_admitTimedRate _ _ isMetadata).keepsCustody
  | admitEpoch epoch => exact effect_unfenced rfl (keepsKind_admitEpoch epoch _).keepsCustody
  | admitTimedMetadata metadata | commitTimedFrame timing =>
    exact effect_unfenced rfl (keepsKind_onTimed _).keepsCustody
  | commitCaptureMetadata sequence capturedAtMs =>
    exact effect_committing rfl (keepsCustody_commitCaptureMetadata _ _ _ _)
  | validateTimedFrame format timing payload =>
    apply effect_consulting
    rintro ⟨epoch, hole⟩
    cases hole <;> rfl
  | validateCaptureMetadata sequence capturedAtMs format payload =>
    apply effect_consulting
    intro gap
    cases gap <;> rfl
  | buildTimedFrame epoch format timing payload
  | buildFrame sequence capturedAtMs format payload =>
    exact effect_choosing fun _ _ => isNext_of_plain rfl
  | deliverCapture frame | deliverDiscontinuity atMs =>
    exact effect_choosing fun _ hchosen => isNext_sinks rfl (fun _ h => h) rfl hchosen
  | deliverCaptureMetadata metadata =>
    exact effect_choosing fun _ hchosen =>
      isNext_voice rfl (fun _ h => h) (fun hpermitted => (hpermitted.within rfl).2) hchosen
  | deliverDisconnect atMs captureEpoch =>
    apply effect_choosing
    rintro ⟨voice, lane⟩ hchosen other hother
    have howners : server.SinksOwned → server.voiceOwners[voice]? = some bridge.own ∧
        server.laneOwners[lane]? = some bridge.own := by
      intro howned
      obtain ⟨session, hsession, hopen⟩ := bind_eq_some_iff.mp hchosen
      obtain ⟨hhub, hepoch⟩ := filter_eq_some_iff.mp hsession
      rw [← show session.reservationEpoch = bridge.own by simpa using hepoch]
      exact howned.openSinks hhub hopen
    rcases mem_cons.mp hother with rfl | hrest
    · exact ⟨rfl, fun hpermitted => howners hpermitted.owned⟩
    · cases captureEpoch with
      | none => simp at hrest
      | some epoch =>
        rw [show other = _ by simpa using hrest]
        exact ⟨rfl, fun hpermitted => (howners hpermitted.owned).1⟩
  | deliverCaptureFinish boundary =>
    simp only [perform]
    split
    · exact effect_failed
    · apply effect_playingOwn .rfl
      intro hown _ more hmore
      obtain ⟨sink, hsink, rfl⟩ := map_eq_some_iff.mp hmore
      exact isNext_voice rfl (fun _ h => h) (fun _ => hown) hsink
  | sendFrame voice lane frame | sendDiscontinuity voice lane atMs =>
    exact effect_sending fun h => h
  | sendMetadata voice metadata | sendFinish voice boundary | sendReceipt voice receipt =>
    exact effect_sendingVoice fun h => h
  | admitCaptureFinish boundary =>
    refine effect_admitting ⟨⟨_, _, _, _, rfl⟩, ?_⟩
      (fun _ => (keepsKind_admitCaptureFinish _ boundary).keepsCustody) ?_
    · intro pending hpending
      cases hpending
      exact .inr rfl
    · intro _ before after _ hafter
      obtain ⟨hheld, rfl⟩ := admitCaptureFinish_eq_ok hafter
      have hepoch := reservationEpoch_of_isHeldBy hheld
      exact .inr ⟨hepoch, hepoch⟩
  | acknowledgePlayback sequence acknowledgement =>
    apply effect_playing .rfl fun hpermitted => (hpermitted.within rfl).2
    intro receipt more hmore
    cases receipt with
    | none =>
      cases hmore
      simp
    | some receipt =>
      obtain ⟨sink, hsink, rfl⟩ := map_eq_some_iff.mp hmore
      exact isNext_voice rfl (fun _ h => h) (fun hpermitted => (hpermitted.within rfl).2) hsink
  | acknowledgeFlush generationId | markPlaybackWritten sequence =>
    apply effect_playing .rfl fun hpermitted => (hpermitted.within rfl).2
    intro _ more hmore
    cases hmore
    simp
  | plannedDetach | disconnectPlayback reconnectDeadline =>
    exact effect_playingOwn .rfl fun hown _ _ hmore => isNext_flushedReceipts hown hmore
  | awaitCompletion =>
    simp only [perform]
    split
    · exact effect_plain .rfl rfl
    · exact effect_failed
    · exact effect_plain .rfl rfl
  | writeFinishAck boundary =>
    have heffect : ∀ answer : Option (List Section), (∀ more, answer = some more → more = []) →
        Effect bridge server (.writeFinishAck boundary) (answer.map fun more =>
          ({ bridge with finish := none, acked := true }, more),
          { server with finishAcks := server.finishAcks ++ [(bridge.connection, boundary)] }) := by
      intro answer hanswer
      refine effect_of answer (fun _ => keepsHands_of_same rfl rfl)
        (fun _ => ⟨fun _ _ => rfl, rfl, rfl, fun _ => rfl⟩)
        ⟨⟨_, _, _, _, rfl⟩, nofun⟩ ?_
      intro more hmore
      rw [hanswer more hmore]
      simp
    simp only [perform]
    split
    · exact heffect (some []) fun _ h => (by cases h; rfl)
    · exact heffect none nofun
  | releaseConnection reconnectDeadline =>
    refine effect_admitting .rfl nofun ?_
    intro _ before after _ hafter
    cases hafter
    unfold MediaSession.releaseConnection
    split
    next hheld =>
      have hepoch := reservationEpoch_of_isHeldBy hheld
      exact .inr ⟨hepoch, hepoch⟩
    next => exact .inl rfl

end Section

end ConversationRuntime
