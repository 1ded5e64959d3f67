import ConversationRuntime.Media.Custody

/-! # Isolation of reservations

A connection that outlives its reservation goes on running its sections. Those
that compare reservations do nothing to a later one. The others are safe only as
long as they find no later reservation under their session's name.
-/

namespace ConversationRuntime

open Foundation MediaServer List Function

/-! ## Runs -/

namespace MediaServer

variable {config : MediaServerConfig} {server : MediaServer}

/-- Sinks keep their owners; there may be more of them, and the hub's sessions
still have sinks of their own. -/
structure Extends (before after : MediaServer) : Prop where
  voices : ∀ (index owner : Nat), before.voiceOwners[index]? = some owner →
    after.voiceOwners[index]? = some owner
  lanes : ∀ (index owner : Nat), before.laneOwners[index]? = some owner →
    after.laneOwners[index]? = some owner
  owned : before.SinksOwned → after.SinksOwned

variable {after : MediaServer} {sessionId : SessionId}

theorem StepsWithin.extends {own : Nat} {before : MediaServer} (h : StepsWithin own before after) :
    Extends before after where
  voices index owner howner := by rw [h.voiceOwners, howner]
  lanes index owner howner := by rw [h.laneOwners, howner]
  owned := h.sinksOwned

/-- A change that leaves the hub and all sinks alone. -/
theorem extends_of_same (hhub : after.hub = server.hub)
    (hvoices : after.voiceOwners = server.voiceOwners)
    (hlanes : after.laneOwners = server.laneOwners) : Extends server after where
  voices index owner howner := by rw [hvoices, howner]
  lanes index owner howner := by rw [hlanes, howner]
  owned howned := by
    intro sessionId session hsession
    rw [hhub] at hsession
    rw [hvoices, hlanes]
    exact howned sessionId session hsession

/-- Replacing one session of the hub. -/
theorem extends_setHub {replaced : Option NetworkSession}
    (hhub : after.hub = update server.hub sessionId replaced)
    (hvoices : ∀ (index owner : Nat), server.voiceOwners[index]? = some owner →
      after.voiceOwners[index]? = some owner)
    (hlanes : ∀ (index owner : Nat), server.laneOwners[index]? = some owner →
      after.laneOwners[index]? = some owner)
    (hsession : server.SinksOwned → ∀ session, replaced = some session →
      (∀ voice, session.voice = some voice →
        after.voiceOwners[voice]? = some session.reservationEpoch) ∧
      ∀ lane, session.recognition = some lane →
        after.laneOwners[lane]? = some session.reservationEpoch) : Extends server after where
  voices := hvoices
  lanes := hlanes
  owned howned := by
    intro other session hother
    rw [hhub] at hother
    by_cases hsame : other = sessionId
    · subst hsame
      rw [update_self] at hother
      exact hsession howned session hother
    · rw [update_of_ne hsame] at hother
      obtain ⟨hvoice, hlane⟩ := howned other session hother
      exact ⟨fun voice h => hvoices _ _ (hvoice voice h), fun lane h => hlanes _ _ (hlane lane h)⟩

/-- A change of a session that keeps its reservation and its sinks. -/
theorem extends_onHub {change : NetworkSession → NetworkSession}
    (hchange : ∀ session, (change session).attachments = session.attachments) :
    Extends server (server.onHub sessionId change) := by
  unfold onHub
  split
  next => exact extends_of_same rfl rfl rfl
  next session hsession =>
    refine extends_setHub (.refl _) (fun _ _ h => h) (fun _ _ h => h) ?_
    intro howned replaced hreplaced
    cases hreplaced
    have hsame := hchange session
    simp only [NetworkSession.attachments, Prod.mk.injEq] at hsame
    obtain ⟨hepoch, hvoice, hlane⟩ := hsame
    rw [hepoch, hvoice, hlane]
    exact howned sessionId session hsession

theorem extends_onPlaying {α : Type} (program : NetworkPlayback.Playing α) :
    Extends server (server.onPlaying sessionId program).2 := by
  unfold onPlaying
  split
  next => exact extends_of_same rfl rfl rfl
  next session hsession =>
    refine extends_setHub (.refl _) (fun _ _ h => h) (fun _ _ h => h) ?_
    intro howned replaced hreplaced
    cases hreplaced
    exact howned sessionId session hsession

theorem getElem?_concat_of_eq_some {owners : List Nat} (last : Nat) {index owner : Nat}
    (h : owners[index]? = some owner) : (owners ++ [last])[index]? = some owner := by
  obtain ⟨hbound, -⟩ := List.getElem?_eq_some_iff.mp h
  rw [getElem?_append_left hbound, h]

variable (config server) in
theorem extends_hubMove (move : HubMove) : Extends server (server.hubMove config move) := by
  cases move with
  | attachVoice sessionId =>
    simp only [hubMove]
    split
    next => exact extends_of_same rfl rfl rfl
    next session hsession =>
      simp only [onHub, hsession]
      refine extends_setHub (.refl _) ?_ ?_ ?_
      · intro index owner howner
        simpa [voiceOwners] using getElem?_concat_of_eq_some session.reservationEpoch howner
      · exact fun _ _ h => h
      · intro howned replaced hreplaced
        cases hreplaced
        refine ⟨?_, (howned sessionId session hsession).2⟩
        intro voice hvoice
        cases hvoice
        simp [voiceOwners]
  | attachRecognition sessionId =>
    simp only [hubMove]
    split
    next => exact extends_of_same rfl rfl rfl
    next session hsession =>
      simp only [onHub, hsession]
      refine extends_setHub (.refl _) ?_ ?_ ?_
      · exact fun _ _ h => h
      · intro index owner howner
        simpa [laneOwners] using getElem?_concat_of_eq_some session.reservationEpoch howner
      · intro howned replaced hreplaced
        cases hreplaced
        refine ⟨(howned sessionId session hsession).1, ?_⟩
        intro lane hlane
        cases hlane
        simp [laneOwners]
  | closeLane lane =>
    exact extends_of_same (.refl _) (.refl _) (map_modify (fun _ => by rfl) server.lanes lane)
  | enqueuePlayback sessionId generationId length | requestFlush sessionId generationId =>
    exact extends_onPlaying _
  | cancelPlayback sessionId sequence | cancelFlush sessionId generationId
  | expireAccepted sessionId | expireWaiting sessionId reconnectDeadline =>
    exact extends_onHub fun _ => .refl _
  | answerFinish reservationEpoch confirmed =>
    simp only [hubMove]
    split <;> exact extends_of_same (.refl _) (.refl _) (.refl _)
  | tick elapsed | shutDown => exact extends_of_same (.refl _) (.refl _) (.refl _)

variable (config server) in
theorem extends_control (call : ControlCall) : Extends server (call.act config server).2 := by
  unfold ControlCall.act
  split
  · split <;> exact extends_of_same rfl rfl rfl
  · split
    · exact extends_of_same rfl rfl rfl
    · refine extends_setHub (.refl _) (fun _ _ h => h) (fun _ _ h => h) ?_
      intro _ session hsession
      cases hsession
      exact ⟨nofun, nofun⟩
  · exact extends_of_same rfl rfl rfl
  · exact extends_of_same rfl rfl rfl
  · exact extends_setHub (.refl _) (fun _ _ h => h) (fun _ _ h => h) nofun
  · cases hrenewed : server.onLease call.sessionId _ with
    | none => exact extends_of_same rfl rfl rfl
    | some renewed =>
      obtain ⟨_, _, _, _, rfl⟩ := onLease_eq_some hrenewed
      exact extends_of_same rfl rfl rfl
  · exact extends_of_same rfl rfl rfl

end MediaServer

/-- If the section a task runs next is unfenced, it meets no other reservation. -/
def MediaCall.Fenced (input : BridgeMove) (server : MediaServer) : MediaCall → Prop
  | .bridge task => ∀ step ∈ task.next input, step.isUnfenced = true →
      server.Within task.own task.sessionId
  | _ => True

instance (input : BridgeMove) (server : MediaServer) (call : MediaCall) :
    Decidable (call.Fenced input server) :=
  match call with
  | .bridge task => inferInstanceAs (Decidable (∀ step ∈ task.next input, step.isUnfenced = true →
      server.Within task.own task.sessionId))
  | .control _ | .handshake .. | .refused => isTrue trivial

namespace MediaTasks

variable {config : MediaServerConfig}

/-- An unfenced section of a connection only runs while neither the lease nor the
hub's session under its name is of another reservation. -/
def Fenced (tasks : MediaTasks) : MediaMove → Prop
  | .proceed index input => ∀ call ∈ tasks.threads[index]?, call.Fenced input tasks.shared
  | _ => True

instance (tasks : MediaTasks) (move : MediaMove) : Decidable (Fenced tasks move) :=
  match move with
  | .proceed index input =>
    inferInstanceAs (Decidable (∀ call ∈ tasks.threads[index]?, call.Fenced input tasks.shared))
  | .reserve .. | .revoke _ | .renew .. | .connect .. | .hub _ => isTrue trivial

/-- What a task is about to send. -/
def Confined (server : MediaServer) (_ : Nat) : MediaCall → Prop
  | .bridge bridge => bridge.Confined server
  | _ => True

abbrev Isolated (tasks : MediaTasks) : Prop := tasks.Holds MediaServer.SinksOwned Confined

theorem Confined.extends {before after : MediaServer} (hextends : before.Extends after)
    {index : Nat} {call : MediaCall} (h : Confined before index call) :
    Confined after index call := by
  cases call with
  | bridge bridge => exact .mono h hextends.voices hextends.lanes
  | control | handshake | refused => trivial

theorem isolated_step (tasks : MediaTasks) (move : MediaMove) (hfenced : Fenced tasks move)
    (h : Isolated tasks) : Isolated (step config tasks move) := by
  cases move with
  | reserve | revoke | renew | connect => exact h.spawn trivial
  | hub move =>
    have hextends := extends_hubMove config tasks.shared move
    exact ⟨hextends.owned h.whole,
      fun index call hcall => (h.own index call hcall).extends hextends⟩
  | proceed index input =>
    apply h.advance index
    intro call hcall hown
    -- Whatever a task does, it only has to extend the sinks for the other tasks.
    have hothers : ∀ {after : MediaServer}, tasks.shared.Extends after →
        ∀ other mate, other ≠ index → tasks.threads[other]? = some mate →
          Confined tasks.shared other mate → Confined after other mate :=
      fun hextends _ _ _ _ hmate => hmate.extends hextends
    cases call with
    | control call =>
      have hextends := extends_control config tasks.shared call
      exact ⟨hextends.owned h.whole, trivial, hothers hextends⟩
    | handshake sessionId presented =>
      simp only [MediaCall.act]
      split
      next connection session _ =>
        have hextends : tasks.shared.Extends { tasks.shared with
            sessions := update tasks.shared.sessions sessionId (some session) } :=
          extends_of_same rfl rfl rfl
        refine ⟨hextends.owned h.whole, ⟨?_, nofun⟩, hothers hextends⟩
        intro block hblock step hstep
        rw [mem_singleton.mp hblock] at hstep
        split at hstep
        · simp only [mem_cons, not_mem_nil, or_false] at hstep
          rcases hstep with rfl | rfl <;> trivial
        · rw [mem_singleton.mp hstep]
          trivial
      next =>
        exact ⟨h.whole, trivial, hothers (extends_of_same rfl rfl rfl)⟩
    | bridge bridge =>
      have hwithin := (bridge.move_moved config tasks.shared input).within
        ⟨h.whole, hown, hfenced (.bridge bridge) hcall⟩
      exact ⟨hwithin.steps.sinksOwned h.whole, hwithin.confined, hothers hwithin.steps.extends⟩
    | refused => exact ⟨h.whole, trivial, hothers (extends_of_same rfl rfl rfl)⟩

theorem isolated_run {moves : List MediaMove} (hfenced : Along (step config) Fenced start moves) :
    Isolated (run config start moves) := by
  apply hfenced.kept
  · exact isolated_step
  · refine ⟨nofun, fun index call h => ?_⟩
    simp [start] at h

/-- In a run whose unfenced sections meet no other reservation, a connection
leaves everything of a later reservation as it is: its lease with every sequence,
rate and timing watermark, its playback state, and what has reached its sinks. -/
theorem later_reservation_untouched {earlier later : List MediaMove} {index : Nat}
    {input : BridgeMove} {bridge : Bridge} {epoch : Nat}
    (hfenced : Along (step config) Fenced start (earlier ++ .proceed index input :: later))
    (hbridge : (run config start earlier).threads[index]? = some (.bridge bridge))
    (hlater : bridge.connection.reservationEpoch < epoch) :
    (run config start (earlier ++ [.proceed index input])).shared.reservation epoch =
      (run config start earlier).shared.reservation epoch := by
  have hisolated := isolated_run hfenced.left
  have hnext : Fenced (run config start earlier) (.proceed index input) :=
    (Along.right hfenced).1
  have hwithin := (bridge.move_moved config (run config start earlier).shared input).within
    ⟨hisolated.whole, hisolated.own index _ hbridge, hnext (.bridge bridge) hbridge⟩
  have hstep : (run config start (earlier ++ [.proceed index input])).shared =
      (bridge.move config (run config start earlier).shared input).2 := by
    rw [run, foldl_append]
    change (Pool.advance _ index (run config start earlier)).shared = _
    rw [Pool.advance, hbridge]
    rfl
  rw [hstep]
  exact hwithin.steps.spares epoch (Nat.ne_of_gt hlater)

/-! A bridge connects to a first legacy reservation of session 7, which is then
revoked and made anew with its consumers attached. -/

/-- Everything up to the first message of the bridge. -/
def firstReservation : List MediaMove :=
  let advance : MediaMove := .proceed 1 (.advance ⟨true, 16⟩)
  let control : MediaMove := .proceed 0 (.hangUp false)
  [.reserve 7 .legacy "first", control, control, control,
    .hub (.attachVoice 7), .hub (.attachRecognition 7),
    .connect 7 ⟨"first", none, .legacy⟩, advance, advance, advance]

def secondReservation : List MediaMove :=
  let control (index : Nat) : MediaMove := .proceed index (.hangUp false)
  [.revoke 7, control 2, control 2,
    .reserve 7 .legacy "second", control 3, control 3, control 3,
    .hub (.attachVoice 7), .hub (.attachRecognition 7)]

/-- A frame of the bridge's first reservation, up to the send. -/
def staleFrame : List MediaMove :=
  let advance : MediaMove := .proceed 1 (.advance ⟨true, 16⟩)
  [.proceed 1 (.receive (.frame true 7 1 1000 .sample [1, 0])), advance, advance, advance]

/-- The frame of a connection whose reservation was revoked reaches the voice
input of the next reservation. -/
theorem stale_frame_reaches_later_reservation :
    ∃ earlier index input bridge epoch,
      (run .sample start earlier).threads[index]? = some (.bridge bridge) ∧
      bridge.connection.reservationEpoch < epoch ∧
      (run .sample start (earlier ++ [.proceed index input])).shared.reservation epoch ≠
        (run .sample start earlier).shared.reservation epoch := by
  refine ⟨firstReservation ++ secondReservation ++ staleFrame, 1, .advance ⟨true, 16⟩, _, 2, rfl,
    by decide +kernel, ?_⟩
  intro hsame
  have hdelivered := congrArg
    (fun reservation => reservation.voices.map fun sink => sink.deliveries.length) hsame
  exact absurd hdelivered (by decide +kernel)

/-- The bridge is lost and has begun to report it before the second reservation. -/
def lostBridge : List MediaMove :=
  firstReservation ++ List.replicate 2 (.proceed 1 (.hangUp false)) ++ secondReservation

/-- Disconnecting its playback then touches nothing of the second reservation. -/
theorem later_reservation_untouched_disconnect :
    ∃ bridge, (run .sample start lostBridge).threads[1]? = some (.bridge bridge) ∧
      bridge.next (.advance ⟨true, 16⟩) = some (.disconnectPlayback 10000000000) ∧
      (run .sample start (lostBridge ++ [.proceed 1 (.advance ⟨true, 16⟩)])).shared.reservation 2 =
        (run .sample start lostBridge).shared.reservation 2 := by
  have hfenced : Along (step .sample) Fenced start
      (lostBridge ++ [.proceed 1 (.advance ⟨true, 16⟩)]) := by
    decide +kernel
  exact ⟨_, rfl, rfl, later_reservation_untouched hfenced rfl (by decide +kernel)⟩

end MediaTasks

end ConversationRuntime
