import ConversationRuntime.Gateway.Lanes
import ConversationRuntime.Media.Machine

/-! # Starting a voice session

A start acquires its resources one after the other: the recording file, the media
reservation with its hub entry and its lease, the recognition capture, the voice
runtime. Every step may refuse, and each refusal undoes what its branch undoes.
-/

namespace ConversationRuntime

open Foundation Fallible

/-! ## Reservations of the media server -/

namespace MediaServer

abbrev Reserving := Fallible MediaServer AdapterError

variable (config : MediaServerConfig) (sessionId : SessionId) (kind : ReservationKind)
  (credential : Except AdapterError String) (expiresAtMs : Except AdapterError UInt64)

def alreadyReserved : AdapterError := ⟨"network media session is already reserved"⟩

/-- The hub entry comes first; a credential that cannot be minted or has no expiry
leaves it behind. -/
def reserveVersion : Reserving Unit := do
  let server ← read
  let next ← lift (orError ⟨"media reservation identity overflowed"⟩
    (checkedAdd server.nextReservationEpoch 1))
  update fun server => { server with nextReservationEpoch := next }
  require (server.hub sessionId = none) alreadyReserved
  update fun current => { current with
    hub := Function.update current.hub sessionId (some (.new server.nextReservationEpoch)) }
  let credential ← lift credential
  let _ ← lift expiresAtMs
  update fun current => { current with
    sessions := Function.update current.sessions sessionId (some (.reserve config kind.version
      kind.bridgeSessionId server.nextReservationEpoch credential current.now)) }
  if (server.sessions sessionId).isSome then do
    update fun current => { current with hub := Function.update current.hub sessionId none }
    fail alreadyReserved

/-- A timed reservation checks the identity of its bridge and that there is a format. -/
def reserve : Reserving Unit := do
  lift (match kind.bridgeSessionId with
    | some bridge => validateCaptureIdentifier bridge
    | none => .ok ())
  require (kind.bridgeSessionId.isSome = true → config.captureFormat.isSome = true)
    ⟨"timed capture format is not configured"⟩
  reserveVersion config sessionId kind credential expiresAtMs

def attachRecognition : Reserving Unit := do
  let server ← read
  let session ← lift (orError ⟨"network media session is not reserved"⟩ (server.hub sessionId))
  update (·.hubMove config (.attachRecognition sessionId))
  require (session.recognition = none) ⟨"network media recognition input is already attached"⟩

def revoke (server : MediaServer) : MediaServer :=
  { server with
    sessions := Function.update server.sessions sessionId none
    hub := Function.update server.hub sessionId none }

/-- Whether a reservation gets its hub entry and is refused with it, or finds a lease. -/
def strands (server : MediaServer) : Bool :=
  kind.valid config && (checkedAdd server.nextReservationEpoch 1).isSome &&
    (server.hub sessionId).isNone &&
    (!credential.isOk || !expiresAtMs.isOk || (server.sessions sessionId).isSome)

/-- The reservation of the session is as it was. -/
def SameReservation (before after : MediaServer) : Prop :=
  after.hub sessionId = before.hub sessionId ∧ after.sessions sessionId = before.sessions sessionId

end MediaServer

/-! ## The steps of a start -/

/-- A file in the recording directory. -/
structure RecordingFile where
  finalized : Bool
deriving DecidableEq

/-- What a gateway session was set up with. -/
structure VoiceGatewayConfig where
  sessionId : SessionId
  voice : Bool
  recording : Bool
  media : Option MediaServerConfig
  captureHandoff : Bool
  onlineProfile : Bool
  /-- Whether the voice adapters have an online recognizer. -/
  onlineRecognition : Bool

structure VoiceGateway where
  turnActive : Bool
  voiceActive : Bool
  terminalPending : Bool
  providerFailed : Bool
  media : MediaServer
  /-- How many captures can be handed off. -/
  handoffRoom : Nat
  /-- How many voice runtimes run. -/
  runtimes : Nat
  lanes : WriterLanes
  files : List RecordingFile
  /-- The recording of the last voice session. -/
  activeRecording : Option Nat

/-- A start of any kind; a plain one reserves legacy media. -/
structure VoiceStartRequest where
  kind : ReservationKind
  protocolVersion : Nat
  profileAvailable : Bool

def VoiceStartRequest.timed (request : VoiceStartRequest) : Bool :=
  request.kind.bridgeSessionId.isSome

/-- What the system answers to the creation of a recorder, call by call. -/
structure RecorderAnswers where
  key : Except String Unit
  randomness : Bool
  directory : Bool
  creation : Bool
  header : Bool
  policyRecord : Except String Unit

/-- What is answered by the parts that a start only asks. -/
structure VoiceStartAnswers where
  policy : Except String Unit
  recorder : RecorderAnswers
  credential : Except AdapterError String
  expiresAtMs : Except AdapterError UInt64
  describes : Bool
  starts : Except String Unit
  firstEvent : Bool

/-- A start that is not accepted is answered with a rejection or ends the
gateway session. -/
inductive VoiceStartFailure where
  | rejected (message : String)
  | ended
deriving DecidableEq

namespace VoiceGateway

abbrev Starting := Fallible VoiceGateway VoiceStartFailure

variable (config : VoiceGatewayConfig) (request : VoiceStartRequest) (answers : VoiceStartAnswers)
  (session : VoiceGateway)

def previousFinalized : Bool :=
  (session.activeRecording.bind (session.files[·]?)).all RecordingFile.finalized

/-- The checks before anything is acquired. -/
def admitStart : Except VoiceStartFailure Unit := do
  if request.timed && !(config.recording &&
      (config.media.bind MediaServerConfig.captureFormat).isSome) then
    throw (.rejected
      "timed capture requires network media, recording and explicit capture format")
  if !config.voice then throw (.rejected "voice is unavailable")
  if session.turnActive then throw (.rejected "a text turn is active")
  if session.voiceActive then throw (.rejected "a voice session is already active")
  if session.terminalPending then
    throw (.rejected "the previous voice session is still finishing")
  if session.providerFailed then throw (.rejected "a gateway-owned provider process exited")
  if !session.previousFinalized then
    throw (.rejected "the previous recording has not been finalized")
  if !request.profileAvailable then throw (.rejected "requested profile is unavailable")
  answers.policy.mapError .rejected

def createFile : VoiceGateway :=
  { session with files := session.files ++ [⟨false⟩] }

/-- What has to go well before the file of a recorder is created. -/
def prepareRecorder (answers : RecorderAnswers) : Except VoiceStartFailure Unit := do
  answers.key.mapError .rejected
  if !answers.randomness then throw (.rejected "recording randomness was unavailable")
  if !answers.directory then throw (.rejected "recording directory could not be created")
  if !answers.creation then throw (.rejected "recording file could not be created")

/-- Write the header and, for a timed recording, the policy record. -/
def writeHeader (answers : RecorderAnswers) : Except VoiceStartFailure Unit := do
  if !answers.header then throw (.rejected "recording header could not be written")
  if request.timed then answers.policyRecord.mapError .rejected

def startRecorder : Starting Unit :=
  onlyIf config.recording (do
    lift (prepareRecorder answers.recorder)
    update createFile
    lift (writeHeader request answers.recorder))

def revokeMedia : VoiceGateway :=
  { session with media := session.media.revoke config.sessionId }

/-- Ask the media server, and refuse if it does. -/
def onMedia (program : MediaServer.Reserving Unit) (refusal : VoiceStartFailure) : Starting Unit :=
  fun session => ((program session.media).1.mapError fun _ => refusal,
    { session with media := (program session.media).2 })

/-- Refuse with the reservation revoked unless the step succeeds. -/
def orRevoke (step : Starting Unit) : Starting Unit := fun session =>
  match step session with
  | (.ok (), reached) => (.ok (), reached)
  | (.error error, reached) => (.error error, reached.revokeMedia config)

def handOff : Starting Unit := do
  let session ← read
  require (0 < session.handoffRoom)
    (.rejected "media recognition capture could not be handed off")
  update fun session => { session with handoffRoom := session.handoffRoom - 1 }

/-- What follows the reservation, each step undoing it if it refuses. -/
def prepareMedia (media : MediaServerConfig) : Starting Unit := do
  orRevoke config (require (answers.describes = true)
    (.rejected "media lease could not be prepared"))
  orRevoke config (onMedia (MediaServer.attachRecognition media config.sessionId)
    (.rejected "media recognition capture could not be attached"))
  orRevoke config (onlyIf config.captureHandoff handOff)
  orRevoke config (require (config.onlineProfile = true → config.onlineRecognition = true)
    (.rejected "online speech recognition could not be configured"))

def reserveMedia (media : MediaServerConfig) : Starting Unit := do
  require (3 ≤ request.protocolVersion) (.rejected "configured media requires protocol version 3")
  onMedia (MediaServer.reserve media config.sessionId request.kind answers.credential
    answers.expiresAtMs) (.rejected "media session could not be reserved")
  prepareMedia config answers media

def revokeMediaLease : VoiceGateway :=
  if config.media.isSome then session.revokeMedia config else session

/-- Shut the started runtime down and revoke the lease. -/
def shutdown : VoiceGateway :=
  revokeMediaLease config { session with runtimes := session.runtimes - 1 }

def startRuntime : Starting Unit :=
  match answers.starts with
  | .error message => do
    update (revokeMediaLease config)
    fail (.rejected message)
  | .ok () => do
    update fun session => { session with runtimes := session.runtimes + 1 }
    if config.media.isSome && !answers.firstEvent then do
      update (shutdown config)
      fail (.rejected "media voice session could not be started")

/-- The lanes need room for the terminal of the session and for its acceptance. -/
def accept : Starting Unit := do
  let session ← read
  let sent := [.normal, .urgent] ++ if request.timed then [.normal] else []
  match sent.foldlM WriterLanes.sendBounded session.lanes with
  | .error _ => do
    update (shutdown config)
    fail .ended
  | .ok lanes =>
    update fun session => { session with
      voiceActive := true
      lanes := lanes
      activeRecording :=
        if config.recording then some (session.files.length - 1) else session.activeRecording }

def startMedia : Starting Unit :=
  match config.media with
  | some media => reserveMedia config request answers media
  | none => pure ()

/-- What follows the recorder. -/
def startSession : Starting Unit := do
  startMedia config request answers
  startRuntime config answers
  accept config request

def startVoiceSession : Starting Unit := do
  let session ← read
  lift (admitStart config request answers session)
  startRecorder config request answers
  startSession config request answers

/-! ## What a refusal leaves behind -/

/-- Nothing of a start is left: no voice session, no reservation or hub entry, no change
of the active recording, and no new file that is not closed. -/
structure LeavesNothing (before after : VoiceGateway) : Prop where
  voiceActive : after.voiceActive = before.voiceActive
  runtimes : after.runtimes = before.runtimes
  media : MediaServer.SameReservation config.sessionId before.media after.media
  activeRecording : after.activeRecording = before.activeRecording
  files : ∀ file ∈ after.files.drop before.files.length, file.finalized = true

/-- Whether a start comes as far as the creation of a recording file. -/
def createsFile : Bool :=
  config.recording && (admitStart config request answers session).isOk &&
    (prepareRecorder answers.recorder).isOk

/-- Whether the reservation of the session is stranded, if the start comes to it. -/
def stranding : Bool :=
  decide (3 ≤ request.protocolVersion) && config.media.any fun media =>
    session.media.strands media config.sessionId request.kind answers.credential
      answers.expiresAtMs

/-- Whether a start that records nothing strands what it reserves. -/
def strandsMedia : Bool :=
  !config.recording && (admitStart config request answers session).isOk &&
    stranding config request answers session

end VoiceGateway

namespace MediaServer

variable {config : MediaServerConfig} {sessionId : SessionId} {kind : ReservationKind}
  {credential : Except AdapterError String} {expiresAtMs : Except AdapterError UInt64}
  {server : MediaServer}

/-- A refused reservation leaves the session as it was unless it is stranded. -/
def Reserves (config : MediaServerConfig) (sessionId : SessionId) (kind : ReservationKind)
    (credential : Except AdapterError String) (expiresAtMs : Except AdapterError UInt64)
    (server : MediaServer) (result : Except AdapterError Unit) (reached : MediaServer) : Prop :=
  let stranded := server.strands config sessionId kind credential expiresAtMs
  match result with
  | .ok () => server.hub sessionId = none ∧ server.sessions sessionId = none ∧ stranded = false
  | .error _ => SameReservation sessionId server reached ↔ stranded = false

variable (hfresh : ∀ lease ∈ server.sessions sessionId,
  lease.reservationEpoch < server.nextReservationEpoch)

include hfresh

theorem reserveVersion_meets (hvalid : kind.valid config = true) :
    Meets (reserveVersion config sessionId kind credential expiresAtMs) server
      (Reserves config sessionId kind credential expiresAtMs server) := by
  have hsome : ∀ {next}, orError (⟨"media reservation identity overflowed"⟩ : AdapterError)
      (checkedAdd server.nextReservationEpoch 1) = .ok next →
      (checkedAdd server.nextReservationEpoch 1).isSome = true := by
    intro next hnext
    rw [orError_eq_ok.mp hnext]
    rfl
  refine .of_read (.of_lift (fun next hnext => .of_update (.of_require (fun hhub => .of_update
    (.of_lift (fun minted hminted => .of_lift (fun expiry hexpiry => .of_update ?_) ?_) ?_)) ?_))
      ?_)
  · have hstranded : server.strands config sessionId kind credential expiresAtMs =
        (server.sessions sessionId).isSome := by
      simp [strands, hvalid, hsome hnext, hhub, hminted, hexpiry, Except.isOk, Except.toBool]
    dsimp only
    split
    next hlease =>
      refine .of_update (iff_of_false (fun hsame => ?_) (by simp [hstranded, hlease]))
      -- The new lease is under an epoch of its own.
      obtain ⟨lease, hfound⟩ := Option.isSome_iff_exists.mp hlease
      have hnew : Function.update server.sessions sessionId _ sessionId = _ := hsame.2
      rw [Function.update_self] at hnew
      exact Nat.lt_irrefl _ (hfresh _ hnew.symm)
    next hlease =>
      rw [Bool.not_eq_true] at hlease
      exact ⟨hhub, by simpa using hlease, hstranded.trans hlease⟩
  iterate 2
    · intro error herror
      refine iff_of_false (fun hsame => ?_) (by
        simp [strands, hvalid, hsome hnext, hhub, herror, Except.isOk, Except.toBool])
      simpa [hhub] using hsame.1
  · exact fun hreserved => iff_of_true ⟨rfl, rfl⟩ (by simp [strands, hreserved])
  · intro error herror
    refine iff_of_true ⟨rfl, rfl⟩ ?_
    cases hnext : checkedAdd server.nextReservationEpoch 1 with
    | some next => simp [hnext] at herror
    | none => simp [strands, hnext]

theorem reserve_meets : Meets (reserve config sessionId kind credential expiresAtMs) server
      (Reserves config sessionId kind credential expiresAtMs server) := by
  have hinvalid : kind.valid config = false →
      server.strands config sessionId kind credential expiresAtMs = false := by
    intro h
    simp [strands, h]
  refine .of_lift (fun _ hbridge => .of_require (fun hformat => reserveVersion_meets hfresh ?_)
    fun hformat => iff_of_true ⟨rfl, rfl⟩ (hinvalid ?_))
    fun error hbridge => iff_of_true ⟨rfl, rfl⟩ (hinvalid ?_)
  all_goals
    cases kind <;>
      grind [ReservationKind.valid, ReservationKind.bridgeSessionId, validateCaptureIdentifier]

end MediaServer

namespace VoiceGateway

variable {config : VoiceGatewayConfig} {request : VoiceStartRequest} {answers : VoiceStartAnswers}
  {session reached : VoiceGateway}

/-- What a start may leave behind beside its reservation. -/
def holdings (session : VoiceGateway) : Bool × Nat × Option Nat × List RecordingFile :=
  (session.voiceActive, session.runtimes, session.activeRecording, session.files)

/-- A rejection has taken back everything, the reservation of the session included. -/
def Undone (config : VoiceGatewayConfig) (session : VoiceGateway)
    (result : Except VoiceStartFailure Unit) (reached : VoiceGateway) : Prop :=
  ∀ message, result = .error (.rejected message) → reached.holdings = session.holdings ∧
    reached.media.hub config.sessionId = none ∧ reached.media.sessions config.sessionId = none

theorem revokeMedia_none (reached : VoiceGateway) :
    (reached.revokeMedia config).media.hub config.sessionId = none ∧
      (reached.revokeMedia config).media.sessions config.sessionId = none := by
  simp [revokeMedia, MediaServer.revoke]

theorem orRevoke_meets {step : Starting Unit}
    (hstep : Meets step reached fun _ next => next.holdings = session.holdings) :
    Meets (orRevoke config step) reached fun result next =>
      next.holdings = session.holdings ∧ Undone config session result next := by
  unfold Meets orRevoke at *
  split
  next next hrun =>
    rw [hrun] at hstep
    exact ⟨hstep, nofun⟩
  next error next hrun =>
    rw [hrun] at hstep
    exact ⟨hstep, fun _ _ => ⟨hstep, revokeMedia_none next⟩⟩

theorem prepareMedia_meets (media : MediaServerConfig)
    (hreached : reached.holdings = session.holdings) :
    Meets (prepareMedia config answers media) reached fun result next =>
      next.holdings = session.holdings ∧ Undone config session result next := by
  have hstep : ∀ {step next : Starting Unit} {reached : VoiceGateway},
      Meets step reached (fun _ next => next.holdings = session.holdings) →
      (∀ reached : VoiceGateway, reached.holdings = session.holdings →
        Meets next reached fun result last =>
          last.holdings = session.holdings ∧ Undone config session result last) →
      Meets (do orRevoke config step; next) reached fun result last =>
        last.holdings = session.holdings ∧ Undone config session result last :=
    fun hfirst hnext => (orRevoke_meets hfirst).of_bind (fun _ next h => hnext next h.1)
      fun _ _ h => h
  refine hstep (.of_last_require (fun _ => hreached) fun _ => hreached) fun attaching hattaching =>
    ?_
  refine hstep hattaching fun handing hhanding => hstep ?_ fun last hlast => ?_
  · unfold onlyIf
    split
    · exact .of_read (.of_require (fun _ => hhanding) fun _ => hhanding)
    · exact hhanding
  · exact orRevoke_meets (.of_last_require (fun _ => hlast) fun _ => hlast)

/-- A refused start of the runtime takes back the reservation it finds. -/
theorem startRuntime_meets (hreached : reached.holdings = session.holdings) :
    Meets (do startRuntime config answers; accept config request) reached fun result next =>
      ∀ message, result = .error (.rejected message) → next.holdings = session.holdings ∧
        next.media = (revokeMediaLease config reached).media := by
  have hlease : ∀ seen : VoiceGateway, (revokeMediaLease config seen).holdings = seen.holdings := by
    intro seen
    unfold revokeMediaLease
    split <;> rfl
  unfold startRuntime
  split
  · exact .of_error_bind rfl fun _ _ => ⟨(hlease reached).trans hreached, rfl⟩
  split
  · refine .of_error_bind rfl fun _ _ => ⟨(hlease _).trans hreached, ?_⟩
    unfold shutdown revokeMediaLease
    split <;> rfl
  · refine .of_ok_bind rfl (.of_read ?_)
    dsimp only
    split
    · exact .of_update nofun
    · exact nofun

/-- What follows the recorder takes back all of its own but a stranded reservation. -/
def Settled (config : VoiceGatewayConfig) (request : VoiceStartRequest)
    (answers : VoiceStartAnswers) (session : VoiceGateway) (result : Except VoiceStartFailure Unit)
    (reached : VoiceGateway) : Prop :=
  ∀ message, result = .error (.rejected message) → reached.holdings = session.holdings ∧
    (MediaServer.SameReservation config.sessionId session.media reached.media ↔
      stranding config request answers session = false)

theorem onMedia_meets {program : MediaServer.Reserving Unit}
    {post : Except AdapterError Unit → MediaServer → Prop} (h : Meets program session.media post)
    (refusal : VoiceStartFailure) :
    Meets (onMedia program refusal) session fun result reached =>
      ∃ server, reached = { session with media := server } ∧
        match result with
        | .ok () => post (.ok ()) server
        | .error _ => ∃ error, post (.error error) server := by
  refine ⟨_, rfl, ?_⟩
  unfold Meets at h
  cases hresult : (program session.media).1 with
  | ok value =>
    simp only [onMedia, hresult, Except.mapError]
    exact hresult ▸ h
  | error error =>
    simp only [onMedia, hresult, Except.mapError]
    exact ⟨error, hresult ▸ h⟩

section

variable (hfresh : ∀ lease ∈ session.media.sessions config.sessionId,
  lease.reservationEpoch < session.media.nextReservationEpoch)

include hfresh

theorem reserveMedia_meets {media : MediaServerConfig} (hmedia : config.media = some media) :
    Meets (do
      reserveMedia config request answers media
      startRuntime config answers
      accept config request) session (Settled config request answers session) := by
  refine .bind (.of_require (fun hversion => ?_) fun hversion _ _ => ⟨rfl, ?_⟩)
  · have hstranding : stranding config request answers session = session.media.strands media
        config.sessionId request.kind answers.credential answers.expiresAtMs := by
      simp [stranding, hversion, hmedia]
    refine (onMedia_meets (MediaServer.reserve_meets hfresh) _).of_bind ?_ ?_
    · rintro _ _ ⟨server, rfl, hhub, hlease, hstranded⟩
      -- From here on a revocation brings back the state before the start.
      have hsettled : ∀ {result reached}, Undone config session result reached →
          Settled config request answers session result reached := by
        intro result reached hundone message hresult
        obtain ⟨hholdings, hnone⟩ := hundone message hresult
        refine ⟨hholdings, iff_of_true ⟨?_, ?_⟩ (hstranding.trans hstranded)⟩
        · rw [hnone.1, hhub]
        · rw [hnone.2, hlease]
      refine (prepareMedia_meets media rfl).mono fun result prepared hprepared => ?_
      cases result with
      | error error => exact hsettled hprepared.2
      | ok value =>
        show Meets (do startRuntime config answers; accept config request) prepared
          (Settled config request answers session)
        refine (startRuntime_meets hprepared.1).mono fun result last h => hsettled ?_
        intro message hresult
        obtain ⟨hholdings, hlast⟩ := h message hresult
        refine ⟨hholdings, ?_⟩
        rw [hlast, revokeMediaLease, hmedia]
        exact revokeMedia_none prepared
    · rintro _ _ ⟨server, rfl, _, hsame⟩ _ _
      exact ⟨rfl, hstranding ▸ hsame⟩
  · exact iff_of_true ⟨rfl, rfl⟩ (by simp [stranding, hversion])

variable (session) in
theorem startSession_meets : Meets (startSession config request answers) session
      (Settled config request answers session) := by
  unfold startSession startMedia
  cases hmedia : config.media with
  | some media => exact reserveMedia_meets hfresh hmedia
  | none =>
    refine (startRuntime_meets rfl).mono fun result reached h message hresult => ?_
    obtain ⟨hholdings, hreached⟩ := h message hresult
    refine ⟨hholdings, iff_of_true ?_ (by simp [stranding, hmedia])⟩
    rw [hreached, revokeMediaLease, hmedia]
    exact ⟨rfl, rfl⟩

end

/-- With all it holds beside its reservation as before, a start has left nothing exactly
if the reservation is as before. -/
theorem leavesNothing_iff (h : reached.holdings = session.holdings) :
    LeavesNothing config session reached ↔
      MediaServer.SameReservation config.sessionId session.media reached.media := by
  simp only [holdings, Prod.mk.injEq] at h
  obtain ⟨hactive, hruntimes, hrecording, hfiles⟩ := h
  exact ⟨LeavesNothing.media, fun hmedia =>
    ⟨hactive, hruntimes, hmedia, hrecording, by simp [hfiles]⟩⟩

/-- The file of a start stays open if nothing but the reservation changes after it. -/
theorem created_left (h : reached.holdings = session.createFile.holdings) :
    ¬ LeavesNothing config session reached := by
  intro hnothing
  have hfiles : reached.files = session.files ++ [⟨false⟩] := congrArg (fun held => held.2.2.2) h
  exact absurd (hnothing.files ⟨false⟩ (by simp [hfiles])) Bool.false_ne_true

/-- A refused start leaves nothing behind exactly if it came to no recording file and
stranded no reservation: whatever refuses it later leaves the file open, and a reservation
that fails for its credential leaves the hub entry. -/
theorem refused_start_leaves_nothing_iff (config : VoiceGatewayConfig) (request : VoiceStartRequest)
    (answers : VoiceStartAnswers) (session : VoiceGateway) (message : String)
    (hfresh : ∀ lease ∈ session.media.sessions config.sessionId,
      lease.reservationEpoch < session.media.nextReservationEpoch)
    (h : (startVoiceSession config request answers session).1 = .error (.rejected message)) :
    LeavesNothing config session (startVoiceSession config request answers session).2 ↔
      createsFile config request answers session = false ∧
        strandsMedia config request answers session = false := by
  have hnothing : LeavesNothing config session session := (leavesNothing_iff rfl).mpr ⟨rfl, rfl⟩
  have hmeets : Meets (startVoiceSession config request answers) session fun result reached =>
      result = .error (.rejected message) → (LeavesNothing config session reached ↔
        createsFile config request answers session = false ∧
          strandsMedia config request answers session = false) := by
    refine .of_read (.of_lift ?_ ?_)
    · intro _ hadmitted
      by_cases hrecording : config.recording = true
      · rw [startRecorder, onlyIf, if_pos hrecording]
        refine .bind (.of_lift ?_ ?_)
        · intro _ hprepared
          have hcreates : createsFile config request answers session = true := by
            simp [createsFile, hrecording, hadmitted, hprepared, Except.isOk, Except.toBool]
          have hleft : ∀ {reached : VoiceGateway}, reached.holdings = session.createFile.holdings →
              (LeavesNothing config session reached ↔
                createsFile config request answers session = false ∧
                  strandsMedia config request answers session = false) :=
            fun hholdings => iff_of_false (created_left hholdings) (by simp [hcreates])
          refine .of_update ?_
          unfold Meets lift
          cases writeHeader request answers.recorder with
          | ok value =>
            exact (startSession_meets session.createFile hfresh).mono
              fun _ _ h hresult => hleft (h message hresult).1
          | error error => exact fun _ => hleft rfl
        · exact fun _ hrefused _ => iff_of_true hnothing
            ⟨by simp [createsFile, hrefused, Except.isOk, Except.toBool],
              by simp [strandsMedia, hrecording]⟩
      · rw [startRecorder, onlyIf, if_neg hrecording]
        refine Meets.mono (startSession_meets session hfresh) fun result reached h hresult => ?_
        obtain ⟨hholdings, hsame⟩ := h message hresult
        rw [leavesNothing_iff hholdings, hsame]
        simp [createsFile, strandsMedia, hrecording, hadmitted, Except.isOk, Except.toBool]
    · exact fun _ hrefused _ => iff_of_true hnothing
        ⟨by simp [createsFile, hrefused, Except.isOk, Except.toBool],
          by simp [strandsMedia, hrefused, Except.isOk, Except.toBool]⟩
  exact hmeets h

/-- A gateway with network media, and perhaps a recording directory. -/
def exampleConfig (recording : Bool) : VoiceGatewayConfig :=
  ⟨7, true, recording, some .sample, false, false, false⟩

def exampleSession : VoiceGateway :=
  ⟨false, false, false, false, .start, 0, 0, GatewayTraffic.exampleLanes, [], none⟩

def exampleAnswers (key : Except String Unit) : VoiceStartAnswers where
  policy := .ok ()
  recorder := ⟨key, true, true, true, true, .ok ()⟩
  credential := .ok "token"
  expiresAtMs := .ok 1
  describes := true
  starts := .ok ()
  firstEvent := true

theorem refused_start_leaves_nothing_without_key :
    let answers := exampleAnswers (.error "recording key environment variable KEY is not set")
    LeavesNothing (exampleConfig true) exampleSession
      (startVoiceSession (exampleConfig true) ⟨.legacy, 3, true⟩ answers exampleSession).2 := by
  intro answers
  have hrefused : (startVoiceSession (exampleConfig true) ⟨.legacy, 3, true⟩ answers
      exampleSession).1 =
        .error (.rejected "recording key environment variable KEY is not set") := by
    decide +kernel
  exact (refused_start_leaves_nothing_iff _ _ _ _ _ (fun _ hlease => by cases hlease)
    hrefused).mpr (by decide +kernel)

/-- A client of protocol version 2 is refused after its recording was created. -/
theorem refused_version_leaves_file :
    let reached := startVoiceSession (exampleConfig true) ⟨.legacy, 2, true⟩
      (exampleAnswers (.ok ())) exampleSession
    reached.1 = .error (.rejected "configured media requires protocol version 3") ∧
    reached.2.files = [⟨false⟩] ∧ ¬ LeavesNothing (exampleConfig true) exampleSession
      reached.2 := by
  refine ⟨by decide +kernel, by decide +kernel, fun h => ?_⟩
  have hfiles := h.files
  revert hfiles
  decide +kernel

/-- Without a recording, a credential that cannot be minted leaves the hub entry. -/
example :
    let answers :=
      { exampleAnswers (.ok ()) with credential := .error ⟨"media credential could not be minted"⟩ }
    let reached := startVoiceSession (exampleConfig false) ⟨.legacy, 3, true⟩ answers exampleSession
    reached.1 = .error (.rejected "media session could not be reserved") ∧
    (reached.2.media.hub 7).isSome = true ∧ (reached.2.media.sessions 7).isNone = true := by
  decide +kernel

end VoiceGateway

end ConversationRuntime
