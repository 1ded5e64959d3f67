import ConversationRuntime.Media.Server

/-! # Runs of the media server

The calls of the control plane, the connections of bridges and the runtime on the
other side of the hub, interleaved section by section.
-/

namespace ConversationRuntime

open Foundation

/-! ## Connections -/

/-- What happens next on a connection. -/
inductive BridgeMove where
  /-- The next section of what it is doing. -/
  | advance (conditions : SendConditions)
  /-- The next section of its pending finish. -/
  | settle (conditions : SendConditions)
  | receive (message : MediaMessage)
  /-- The input ends, cleanly or not, or the loop stops for any other reason. -/
  | hangUp (clean : Bool)
  /-- A frame or a flush for the bridge to play, and whether it could be written. -/
  | play (sequence : Option Nat) (written : Bool)

namespace Bridge

variable (config : MediaServerConfig)

/-- Run the first section of a block. -/
def runBlock (conditions : SendConditions) (bridge : Bridge) (block : Block) (rest : List Block)
    (server : MediaServer) : Bridge × MediaServer :=
  match block.sections with
  | [] => ({ bridge with program := rest }, server)
  | next :: sections =>
    match next.perform config conditions bridge server with
    | (some (reached, more), changed) =>
      ({ reached with program := ⟨more ++ sections, block.tolerant⟩ :: rest }, changed)
    | (none, changed) =>
      (if block.tolerant then { bridge with program := rest } else bridge.lose, changed)

/-- Run the next section of a pending finish, which has failed if it fails. -/
def runFinish (conditions : SendConditions) (bridge : Bridge) (pending : PendingFinish)
    (server : MediaServer) : Bridge × MediaServer :=
  match pending.sections with
  | [] => (bridge, server)
  | next :: sections =>
    match next.perform config conditions
        { bridge with finish := some { pending with sections := sections } } server with
    | (some (reached, more), changed) =>
      ({ reached with
        finish := reached.finish.map fun left =>
          { left with sections := more ++ left.sections } }, changed)
    | (none, changed) => (bridge.lose, changed)

/-- The connection while a section of its pending finish runs. -/
def popFinish (bridge : Bridge) (pending : PendingFinish) (sections : List Section) : Bridge :=
  { bridge with finish := some { pending with sections := sections } }

/-- The message loop between two messages. Shutting down has priority. -/
def serve (bridge : Bridge) (server : MediaServer) : BridgeMove → Bridge × MediaServer
  | .advance _ => (bridge, server)
  | .settle conditions =>
    match bridge.finish with
    | some pending =>
      if server.cancelled then (bridge.lose, server)
      else bridge.runFinish config conditions pending server
    | none => (bridge, server)
  | .receive message =>
    if server.cancelled then (bridge.lose, server)
    else
      match bridge.respond message with
      | some blocks => ({ bridge with program := blocks }, server)
      | none => (bridge.lose, server)
  | .hangUp clean =>
    if clean && bridge.acked && !server.cancelled then
      ({ bridge with planned := true, stage := .completing }, server)
    else (bridge.lose, server)
  | .play sequence written =>
    if bridge.isFinishing then (bridge, server)
    else if server.cancelled || !written then (bridge.lose, server)
    else
      match sequence with
      | some sequence =>
        ({ bridge with program := [⟨[.markPlaybackWritten sequence], false⟩] }, server)
      | none => (bridge, server)

/-- Whether the next section waits for something that shutting down interrupts. -/
def isInterruptible (bridge : Bridge) : Bool :=
  match bridge.program with
  | ⟨.confirmAuthentication :: _, _⟩ :: _ => true
  | ⟨.attachPlayback :: _, _⟩ :: _ => true
  | _ => false

/-- One step of a connection. -/
def move (bridge : Bridge) (server : MediaServer) (input : BridgeMove) : Bridge × MediaServer :=
  match bridge.stage with
  | .serving =>
    match bridge.program, input with
    | [], input => bridge.serve config server input
    | block :: rest, .advance conditions => bridge.runBlock config conditions block rest server
    | _ :: _, .hangUp _ =>
      if bridge.isInterruptible then (bridge.lose, server) else (bridge, server)
    | _ :: _, _ => (bridge, server)
  | .losing =>
    match (server.sessions bridge.sessionId).bind fun session => session.disconnectSnapshot
        (min config.reconnectWindow config.maxPlaybackQueueDuration) server.now
        bridge.connection with
    | some disconnect => (bridge.closeAfter disconnect, server)
    | none => ({ bridge with stage := .ended }, server)
  | .closing =>
    match bridge.program, input with
    | [], _ => ({ bridge with stage := .ended }, server)
    | block :: rest, .advance conditions => bridge.runBlock config conditions block rest server
    -- Shutting down cuts the report short, but not the release.
    | program, _ =>
      if server.cancelled then ({ bridge with program := program.drop (program.length - 1) },
        server)
      else (bridge, server)
  | .completing =>
    ({ bridge with stage := .ended },
      (server.onLease bridge.sessionId fun session =>
        .ok (session.releasePlannedConnection bridge.connection)).getD server)
  | .ended => (bridge, server)

end Bridge

/-! ## Calls of the control plane -/

inductive ReservationKind where
  | legacy
  | timed (bridgeSessionId : String)
  | drainableTimed (bridgeSessionId : String)
deriving DecidableEq

namespace ReservationKind

def version : ReservationKind → MediaVersion
  | legacy => .legacy
  | timed _ => .timed
  | drainableTimed _ => .drainableTimed

def bridgeSessionId : ReservationKind → Option String
  | legacy => none
  | timed bridge | drainableTimed bridge => some bridge

/-- What is checked before a timed reservation is made. -/
def valid (config : MediaServerConfig) : ReservationKind → Bool
  | legacy => true
  | timed bridge | drainableTimed bridge =>
    isCaptureIdentifier bridge && config.captureFormat.isSome

end ReservationKind

inductive ControlStage where
  | claimEpoch (kind : ReservationKind) (credential : String)
  | reserveHub (kind : ReservationKind) (credential : String) (reservationEpoch : Nat)
  | insertLease (kind : ReservationKind) (credential : String) (reservationEpoch : Nat)
  | removeLease
  | revokeHub
  | renew (expiresAtMs : Except AdapterError UInt64)
  | finished

structure ControlCall where
  sessionId : SessionId
  stage : ControlStage

namespace ControlCall

variable (config : MediaServerConfig)

/-- One section of a control call. -/
def act (call : ControlCall) (server : MediaServer) : ControlCall × MediaServer :=
  match call.stage with
  | .claimEpoch kind credential =>
    if kind.valid config && (checkedAdd server.nextReservationEpoch 1).isSome then
      ({ call with stage := .reserveHub kind credential server.nextReservationEpoch },
        { server with nextReservationEpoch := server.nextReservationEpoch + 1 })
    else ({ call with stage := .finished }, server)
  | .reserveHub kind credential reservationEpoch =>
    if (server.hub call.sessionId).isSome then ({ call with stage := .finished }, server)
    else
      ({ call with stage := .insertLease kind credential reservationEpoch },
        { server with
          hub := Function.update server.hub call.sessionId (some (.new reservationEpoch)) })
  | .insertLease kind credential reservationEpoch =>
    ({ call with
        -- A lease that was still there means the reservation is refused.
        stage := if (server.sessions call.sessionId).isSome then .revokeHub else .finished },
      { server with
        sessions := Function.update server.sessions call.sessionId (some
          (.reserve config kind.version kind.bridgeSessionId reservationEpoch credential
            server.now)) })
  | .removeLease =>
    ({ call with stage := .revokeHub },
      { server with sessions := Function.update server.sessions call.sessionId none })
  | .revokeHub =>
    ({ call with stage := .finished },
      { server with hub := Function.update server.hub call.sessionId none })
  | .renew expiresAtMs =>
    ({ call with stage := .finished },
      (server.onLease call.sessionId fun session =>
        (session.renew config.credentialLifetime server.now expiresAtMs).map Prod.snd).getD server)
  | .finished => (call, server)

end ControlCall

/-! ## The machine -/

/-- A task of the media server. -/
inductive MediaCall where
  | control (call : ControlCall)
  /-- A bridge that has presented its credentials. -/
  | handshake (sessionId : SessionId) (presented : BridgeCredentials)
  | bridge (bridge : Bridge)
  | refused

/-- One section of a task. -/
def MediaCall.act (config : MediaServerConfig) (input : BridgeMove) (call : MediaCall)
    (server : MediaServer) : MediaCall × MediaServer :=
  match call with
  | .control call => (.control (call.act config server).1, (call.act config server).2)
  | .handshake sessionId presented =>
    match (server.sessions sessionId).bind fun session =>
        (session.authenticate server.now presented).toOption with
    | some (connection, session) =>
      (.bridge (.admitted sessionId presented connection),
        { server with sessions := Function.update server.sessions sessionId (some session) })
    | none => (.refused, server)
  | .bridge task => (.bridge (task.move config server input).1, (task.move config server input).2)
  | .refused => (.refused, server)

/-- What the runtime, the clock and the recognizer do at the hub. -/
inductive HubMove where
  | attachVoice (sessionId : SessionId)
  | attachRecognition (sessionId : SessionId)
  | closeLane (lane : Nat)
  | enqueuePlayback (sessionId : SessionId) (generationId : GenerationId) (length : Nat)
  | requestFlush (sessionId : SessionId) (generationId : GenerationId)
  | cancelPlayback (sessionId : SessionId) (sequence : Nat)
  | cancelFlush (sessionId : SessionId) (generationId : GenerationId)
  | expireAccepted (sessionId : SessionId)
  | expireWaiting (sessionId : SessionId) (reconnectDeadline : Instant)
  | answerFinish (reservationEpoch : Nat) (confirmed : Bool)
  | tick (elapsed : Nat)
  | shutDown

namespace MediaServer

variable (config : MediaServerConfig) (server : MediaServer)

/-- Change a session of the hub, if there is one. -/
def onHub (sessionId : SessionId) (change : NetworkSession → NetworkSession) : MediaServer :=
  match server.hub sessionId with
  | none => server
  | some session =>
    { server with hub := Function.update server.hub sessionId (some (change session)) }

/-- Change the playback state of a session, if there is one. -/
def onPlayback (sessionId : SessionId) (change : NetworkPlayback → NetworkPlayback) :
    MediaServer :=
  server.onHub sessionId fun session => { session with playing := change session.playing }

def hubMove : HubMove → MediaServer
  | .attachVoice sessionId =>
    match server.hub sessionId with
    | none => server
    | some session =>
      let attached : MediaServer :=
        { server with voiceSinks := server.voiceSinks ++ [⟨session.reservationEpoch, []⟩] }
      attached.onHub sessionId fun session =>
        { session with voice := some server.voiceSinks.length }
  | .attachRecognition sessionId =>
    match server.hub sessionId with
    | none => server
    | some session =>
      -- A second attachment fails and leaves a lane that nobody reads.
      let attached : MediaServer := { server with
        lanes := server.lanes ++
          [⟨session.reservationEpoch, [], none, session.recognition.isSome⟩] }
      attached.onHub sessionId fun session =>
        { session with recognition := some server.lanes.length }
  | .closeLane lane =>
    { server with lanes := server.lanes.modify lane fun target => { target with closed := true } }
  | .enqueuePlayback sessionId generationId length =>
    (server.onPlaying sessionId (NetworkPlayback.enqueuePlayback config.maxPlaybackQueueBytes
      server.now generationId length)).2
  | .requestFlush sessionId generationId =>
    (server.onPlaying sessionId (NetworkPlayback.requestFlush generationId)).2
  | .cancelPlayback sessionId sequence =>
    server.onPlayback sessionId (NetworkPlayback.cancelPendingPlayback sequence)
  | .cancelFlush sessionId generationId =>
    server.onPlayback sessionId (NetworkPlayback.cancelPendingFlush generationId)
  | .expireAccepted sessionId =>
    server.onPlayback sessionId (NetworkPlayback.expireAccepted server.now)
  | .expireWaiting sessionId reconnectDeadline =>
    server.onPlayback sessionId (NetworkPlayback.expireWaiting reconnectDeadline)
  | .answerFinish reservationEpoch confirmed =>
    if (server.completions reservationEpoch).isSome then server
    else { server with
      completions := Function.update server.completions reservationEpoch (some confirmed) }
  | .tick elapsed => { server with now := server.now + elapsed }
  | .shutDown => { server with cancelled := true }

end MediaServer

/-- A step of the whole. -/
inductive MediaMove where
  | reserve (sessionId : SessionId) (kind : ReservationKind) (credential : String)
  | revoke (sessionId : SessionId)
  | renew (sessionId : SessionId) (expiresAtMs : Except AdapterError UInt64)
  | connect (sessionId : SessionId) (presented : BridgeCredentials)
  /-- The next section of a task. -/
  | proceed (index : Nat) (input : BridgeMove)
  | hub (move : HubMove)

/-- The media server with its tasks. -/
abbrev MediaTasks := Pool MediaServer MediaCall

namespace MediaTasks

variable (config : MediaServerConfig)

def start : MediaTasks := ⟨.start, []⟩

def step (tasks : MediaTasks) : MediaMove → MediaTasks
  | .reserve sessionId kind credential =>
    tasks.spawn (.control ⟨sessionId, .claimEpoch kind credential⟩)
  | .revoke sessionId => tasks.spawn (.control ⟨sessionId, .removeLease⟩)
  | .renew sessionId expiresAtMs => tasks.spawn (.control ⟨sessionId, .renew expiresAtMs⟩)
  | .connect sessionId presented => tasks.spawn (.handshake sessionId presented)
  | .proceed index input => tasks.advance (MediaCall.act config input) index
  | .hub move => ⟨tasks.shared.hubMove config move, tasks.threads⟩

def run (tasks : MediaTasks) (moves : List MediaMove) : MediaTasks :=
  moves.foldl (step config) tasks

end MediaTasks

end ConversationRuntime
