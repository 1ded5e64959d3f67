import ConversationRuntime.Foundation.Threads
import ConversationRuntime.Media.Hub

/-! # The media server

Reservations and the tasks that work on them. A task runs one section after the
other: a section is what the source does under one lock, or one send, and
everything may happen between two of them. What a connection still has to do is
a program of sections; a section that chooses sinks puts the sends to them in
front of the rest.
-/

namespace ConversationRuntime

open Foundation

/-! ## Messages -/

inductive TimedMediaRecord where
  | frame (format : PcmFormat) (timing : FrameProvenance) (payload : Bytes)
  | metadata (metadata : CaptureMetadata)
  | finish (boundary : CaptureFinishBoundary)

inductive MediaMessage where
  | timed (sessionId : SessionId) (record : TimedMediaRecord)
  | frame (isCapture : Bool) (sessionId : SessionId) (sequence capturedAtMs : UInt64)
      (format : PcmFormat) (payload : Bytes)
  | playbackAck (sessionId : SessionId) (sequence : Nat) (acknowledgement : NetworkPlaybackAck)
  | flushAck (sessionId : SessionId) (generationId : GenerationId)

/-! ## State -/

structure MediaServer where
  sessions : SessionId → Option MediaSession
  hub : SessionId → Option NetworkSession
  /-- Every voice input that was ever attached, by number. -/
  voiceSinks : List VoiceSink
  /-- Every recognizer input that was ever attached, by number. -/
  lanes : List RecognitionLane
  nextReservationEpoch : Nat
  /-- What became of the finish barrier of a reservation, once its consumer answered. -/
  completions : Nat → Option Bool
  /-- Every finish acknowledgement that was put on the wire. -/
  finishAcks : List (MediaConnection × CaptureFinishBoundary)
  /-- Whether the server is shutting down. -/
  cancelled : Bool
  now : Instant

namespace MediaServer

def start : MediaServer where
  sessions := fun _ => none
  hub := fun _ => none
  voiceSinks := []
  lanes := []
  nextReservationEpoch := 1
  completions := fun _ => none
  finishAcks := []
  cancelled := false
  now := 0

variable (server : MediaServer)

/-- Run a section on a lease; a missing lease or a refusal is an error. -/
def onLease (sessionId : SessionId) (admission : MediaSession → Except AdapterError MediaSession) :
    Option MediaServer := do
  let session ← server.sessions sessionId
  let admitted ← (admission session).toOption
  return { server with sessions := Function.update server.sessions sessionId (some admitted) }

/-- Run a section on the playback state of a session, whatever its reservation. -/
def onPlaying {α : Type} (sessionId : SessionId) (program : NetworkPlayback.Playing α) :
    Option α × MediaServer :=
  match server.hub sessionId with
  | none => (none, server)
  | some session =>
    ((program session.playing).1.toOption, { server with
      hub := Function.update server.hub sessionId
        (some { session with playing := (program session.playing).2 }) })

/-- The session of the hub, if it is of this reservation. -/
def ofReservation (sessionId : SessionId) (reservationEpoch : Nat) : Option NetworkSession :=
  (server.hub sessionId).filter fun session => session.reservationEpoch == reservationEpoch

/-- The sinks a session's capture goes to, if both are attached and the
recognizer still listens. -/
def openSinks (session : NetworkSession) : Option (Nat × Nat) :=
  session.sinks.filter fun sinks => (server.lanes[sinks.2]?).any fun lane => !lane.closed

/-- Put an event into a voice sink. -/
def deliver (sink : Nat) (origin : MediaConnection) (event : MediaInputEvent) : MediaServer :=
  { server with
    voiceSinks := server.voiceSinks.modify sink fun target =>
      { target with deliveries := target.deliveries ++ [⟨origin, event⟩] } }

/-- Offer an event to a recognition lane. -/
def offer (lane room : Nat) (origin : MediaConnection) (event : CaptureEvent) : MediaServer :=
  { server with
    lanes := server.lanes.modify lane fun target =>
      target.offer (if target.closed then 0 else room) origin event }

end MediaServer

/-! ## Sections of a connection -/

inductive Section where
  | confirmAuthentication
  | attachPlayback
  | admitTimedRate (isMetadata : Bool)
  | requireEpoch
  | admitEpoch (epoch : CaptureEpoch)
  | startEpoch
  | admitTimedMetadata (metadata : CaptureMetadata)
  | validateTimedFrame (format : PcmFormat) (timing : FrameProvenance) (payload : Bytes)
  | buildTimedFrame (epoch : CaptureEpoch) (format : PcmFormat) (timing : FrameProvenance)
      (payload : Bytes)
  | commitTimedFrame (timing : FrameProvenance)
  | validateCaptureMetadata (sequence capturedAtMs : UInt64) (format : PcmFormat) (payload : Bytes)
  | buildFrame (sequence capturedAtMs : UInt64) (format : PcmFormat) (payload : Bytes)
  | commitCaptureMetadata (sequence capturedAtMs : UInt64)
  | deliverCapture (frame : AudioFrame)
  | deliverDiscontinuity (atMs : UInt64)
  | deliverCaptureMetadata (metadata : CaptureMetadata)
  | deliverDisconnect (atMs : UInt64) (captureEpoch : Option UInt64)
  | deliverCaptureFinish (boundary : CaptureFinishBoundary)
  | sendFrame (voice lane : Nat) (frame : AudioFrame)
  | sendDiscontinuity (voice lane : Nat) (atMs : UInt64)
  | sendMetadata (voice : Nat) (metadata : CaptureMetadata)
  | sendFinish (voice : Nat) (boundary : CaptureFinishBoundary)
  | sendReceipt (voice : Nat) (receipt : PlaybackReceipt)
  | admitCaptureFinish (boundary : CaptureFinishBoundary)
  | acknowledgePlayback (sequence : Nat) (acknowledgement : NetworkPlaybackAck)
  | acknowledgeFlush (generationId : GenerationId)
  | markPlaybackWritten (sequence : Nat)
  | plannedDetach
  | awaitCompletion
  | writeFinishAck (boundary : CaptureFinishBoundary)
  | disconnectPlayback (reconnectDeadline : Instant)
  | releaseConnection (reconnectDeadline : Instant)

/-- Sections one after the other. When one fails the rest is skipped; in a
tolerant block that is all, otherwise the connection is lost. -/
structure Block where
  sections : List Section
  tolerant : Bool

/-- A capture finish that was admitted, with what is left of its operation. -/
structure PendingFinish where
  boundary : CaptureFinishBoundary
  sections : List Section

inductive BridgeStage where
  /-- Confirmation, attachment and the message loop. -/
  | serving
  /-- The connection has failed; the snapshot of the loss is due. -/
  | losing
  /-- The loss is being reported, up to the release of the lease. -/
  | closing
  /-- The bridge closed after its acknowledged finish. -/
  | completing
  | ended
deriving DecidableEq

/-- A connection after its authentication. -/
structure Bridge where
  sessionId : SessionId
  bridgeSessionId : Option String
  version : MediaVersion
  connection : MediaConnection
  epochStarted : Bool
  mediaPhase : Bool
  planned : Bool
  finish : Option PendingFinish
  acked : Bool
  stage : BridgeStage
  program : List Block

namespace Bridge

/-- A bridge right after its authentication: a timed one is told so first. -/
def admitted (sessionId : SessionId) (presented : BridgeCredentials)
    (connection : MediaConnection) : Bridge where
  sessionId := sessionId
  bridgeSessionId := presented.bridgeSessionId
  version := presented.version
  connection := connection
  epochStarted := false
  mediaPhase := false
  planned := false
  finish := none
  acked := false
  stage := .serving
  program := [⟨if presented.bridgeSessionId.isSome then [.confirmAuthentication, .attachPlayback]
    else [.attachPlayback], false⟩]

def timed (bridge : Bridge) : Bool := bridge.bridgeSessionId.isSome

/-- Whether capture is finished on this connection, acknowledged or not. -/
def isFinishing (bridge : Bridge) : Bool := bridge.finish.isSome || bridge.acked

/-- The discontinuities that also break the recognizer's audio. -/
def breaksAudio : CaptureMetadata → Bool
  | .discontinuity _ reason =>
    reason == .sourceDrop || reason == .sequenceHole || reason == .reconnect ||
      reason == .pause || reason == .sourceDiscontinuity
  | _ => false

/-- What a timed record makes the connection do. -/
def timedProgram : TimedMediaRecord → List Section
  | .finish boundary => [.requireEpoch, .admitCaptureFinish boundary]
  | .metadata (.epoch epoch) =>
    [.admitTimedRate true, .admitEpoch epoch, .deliverCaptureMetadata (.epoch epoch), .startEpoch]
  | .metadata metadata =>
    [.admitTimedRate true, .requireEpoch, .admitTimedMetadata metadata] ++
      (if breaksAudio metadata then [.deliverDiscontinuity 0] else []) ++
      [.deliverCaptureMetadata metadata]
  | .frame format timing payload =>
    [.admitTimedRate false, .requireEpoch, .validateTimedFrame format timing payload]

/-- What a message makes the connection do; a message it must not get at all is
an error. -/
def respond (bridge : Bridge) : MediaMessage → Option (List Block)
  | .timed sessionId record =>
    if !bridge.timed || sessionId != bridge.sessionId || bridge.isFinishing then none
    else some [⟨timedProgram record, false⟩]
  | .frame isCapture sessionId sequence capturedAtMs format payload =>
    if bridge.timed || sessionId != bridge.sessionId || !isCapture then none
    else some [⟨[.validateCaptureMetadata sequence capturedAtMs format payload], false⟩]
  | .playbackAck sessionId sequence acknowledgement =>
    if sessionId != bridge.sessionId then some []
    else some [⟨[.acknowledgePlayback sequence acknowledgement], true⟩]
  | .flushAck sessionId generationId =>
    if sessionId != bridge.sessionId then some []
    else some [⟨[.acknowledgeFlush generationId], true⟩]

/-- The connection has failed. -/
def lose (bridge : Bridge) : Bridge :=
  { bridge with stage := .losing, program := [], finish := none }

/-- The report of a loss: playback first, then capture if any was delivered on a
connection in its media phase, and last the release. -/
def closeAfter (bridge : Bridge) (disconnect : MediaDisconnect) : Bridge :=
  { bridge with
    stage := .closing
    program := [⟨[.disconnectPlayback disconnect.reconnectDeadline], true⟩,
      ⟨match disconnect.captureAtMs with
        | some atMs =>
          if bridge.mediaPhase then [.deliverDisconnect atMs disconnect.captureEpoch] else []
        | none => [], true⟩,
      ⟨[.releaseConnection disconnect.reconnectDeadline], true⟩] }

end Bridge

/-- How a section meets its surroundings: whether a send or a write gets through
in time, and how many more events the recognizer's queue takes. -/
structure SendConditions where
  delivered : Bool
  room : Nat

namespace Section

variable (config : MediaServerConfig) (conditions : SendConditions) (bridge : Bridge)
  (server : MediaServer)

/-- The answer of a section: the bridge with the sections to do next, or a failure. -/
abbrev Answer := Option (Bridge × List Section) × MediaServer

/-- An admission on the lease. -/
def admitting (admission : MediaSession → Except AdapterError MediaSession) (next : Bridge) :
    Answer :=
  match server.onLease bridge.sessionId admission with
  | some admitted => (some (next, []), admitted)
  | none => (none, server)

/-- A commit on the lease, which a refusal may leave changed. -/
def committing (commit : Fallible MediaSession AdapterError Unit) : Answer :=
  match server.sessions bridge.sessionId with
  | none => (none, server)
  | some session =>
    let (result, reached) := commit session
    (result.toOption.map fun _ => (bridge, []),
      { server with sessions := Function.update server.sessions bridge.sessionId (some reached) })

/-- A look at the lease that decides what to do next. -/
def consulting {α : Type} (question : MediaSession → Except AdapterError α)
    (next : α → List Section) : Answer :=
  match (server.sessions bridge.sessionId).bind fun session => (question session).toOption with
  | some answer => (some (bridge, next answer), server)
  | none => (none, server)

/-- A choice of sinks under the hub's lock. -/
def choosing {α : Type} (choice : Option α) (next : α → List Section) : Answer :=
  match choice with
  | some chosen => (some (bridge, next chosen), server)
  | none => (none, server)

/-- A program on the playback state; what it answers decides what to do next. -/
def playing {α : Type} (program : NetworkPlayback.Playing α) (next : α → Option (List Section)) :
    Answer :=
  let (answer, reached) := server.onPlaying bridge.sessionId program
  ((answer.bind next).map fun sections => (bridge, sections), reached)

/-- A program on the playback state of this connection's own reservation. -/
def playingOwn {α : Type} (program : NetworkPlayback.Playing α)
    (next : α → Option (List Section)) : Answer :=
  if (server.ofReservation bridge.sessionId bridge.connection.reservationEpoch).isSome then
    playing bridge server program next
  else (none, server)

/-- An event of capture, sent to the recorder and then offered to the recognizer. -/
def sending (voice lane : Nat) (event : CaptureEvent) : Answer :=
  if conditions.delivered then
    (some (bridge, []),
      (server.deliver voice bridge.connection (.capture event)).offer lane conditions.room
        bridge.connection event)
  else (none, server)

/-- An event for the voice input alone. -/
def sendingVoice (voice : Nat) (event : MediaInputEvent) : Answer :=
  if conditions.delivered then (some (bridge, []), server.deliver voice bridge.connection event)
  else (none, server)

/-- The voice sink of the session under the hub's lock. -/
def voice : Option Nat := (server.hub bridge.sessionId).bind NetworkSession.voice

/-- The receipts for flushed generations, which need a voice sink if there are any. -/
def flushedReceipts (voice : Option Nat) (generations : List GenerationId) :
    Option (List Section) :=
  if generations = [] then some []
  else voice.map fun sink =>
    generations.map fun generation => .sendReceipt sink ⟨generation, .flushed⟩

/-- One section of a connection. -/
def perform : Section → Answer
  | .confirmAuthentication =>
    if conditions.delivered then (some (bridge, []), server) else (none, server)
  | .attachPlayback =>
    if server.cancelled then (none, server)
    else playingOwn { bridge with mediaPhase := true } server
      (NetworkPlayback.attachTransport bridge.connection.connectionId) fun _ => some []
  | .admitTimedRate isMetadata => admitting bridge server
      (·.admitTimedRate config.maxFramesPerSecond server.now isMetadata) bridge
  | .requireEpoch => if bridge.epochStarted then (some (bridge, []), server) else (none, server)
  | .admitEpoch epoch => admitting bridge server (·.admitEpoch epoch !bridge.epochStarted) bridge
  | .startEpoch => (some ({ bridge with epochStarted := true }, []), server)
  | .admitTimedMetadata metadata => admitting bridge server (·.admitTimedMetadata metadata) bridge
  | .validateTimedFrame format timing payload => consulting bridge server
      (·.validateTimedFrame config.captureFormat timing format payload.length) fun (epoch, hole) =>
        (if hole then [.deliverDiscontinuity 0,
            .deliverCaptureMetadata (.discontinuity epoch.captureEpoch .sequenceHole)]
          else []) ++ [.buildTimedFrame epoch format timing payload]
  | .buildTimedFrame epoch format timing payload => choosing bridge server
      ((AudioFrame.new timing.sequence format payload).toOption.bind fun frame =>
        (frame.withCaptureTiming ⟨epoch, timing⟩).toOption) fun frame =>
          [.deliverCapture frame, .commitTimedFrame timing]
  | .commitTimedFrame timing => admitting bridge server (·.commitTimedFrame timing) bridge
  | .validateCaptureMetadata sequence capturedAtMs format payload => consulting bridge server
      (·.validateCaptureMetadata config.maxFramesPerSecond server.now sequence capturedAtMs)
      fun gap => (gap.map Section.deliverDiscontinuity).toList ++
        [.buildFrame sequence capturedAtMs format payload]
  | .buildFrame sequence capturedAtMs format payload => choosing bridge server
      (AudioFrame.new sequence format payload).toOption fun frame =>
        [.deliverCapture frame, .commitCaptureMetadata sequence capturedAtMs]
  | .commitCaptureMetadata sequence capturedAtMs => committing bridge server
      (MediaSession.commitCaptureMetadata config.maxFramesPerSecond server.now sequence
        capturedAtMs)
  | .deliverCapture frame => choosing bridge server
      ((server.hub bridge.sessionId).bind server.openSinks) fun (voice, lane) =>
        [.sendFrame voice lane frame]
  | .deliverDiscontinuity atMs => choosing bridge server
      ((server.hub bridge.sessionId).bind server.openSinks) fun (voice, lane) =>
        [.sendDiscontinuity voice lane atMs]
  | .deliverCaptureMetadata metadata => choosing bridge server (voice bridge server) fun sink =>
    [.sendMetadata sink metadata]
  | .deliverDisconnect atMs captureEpoch => choosing bridge server
      ((server.ofReservation bridge.sessionId bridge.connection.reservationEpoch).bind
        server.openSinks) fun (voice, lane) =>
          .sendDiscontinuity voice lane atMs :: (captureEpoch.map fun epoch =>
            Section.sendMetadata voice (.discontinuity epoch .reconnect)).toList
  | .deliverCaptureFinish boundary =>
    if boundary.sessionId ≠ bridge.sessionId then (none, server)
    else
      playingOwn bridge server (NetworkPlayback.claimFinish bridge.connection.connectionId)
        fun _ => (voice bridge server).map fun sink => [.sendFinish sink boundary]
  | .sendFrame voice lane frame => sending conditions bridge server voice lane (.frame frame)
  | .sendDiscontinuity voice lane atMs =>
    sending conditions bridge server voice lane (.discontinuity atMs)
  | .sendMetadata voice metadata =>
    sendingVoice conditions bridge server voice (.captureMetadata metadata)
  | .sendFinish voice boundary =>
    sendingVoice conditions bridge server voice (.captureFinish boundary)
  | .sendReceipt voice receipt =>
    sendingVoice conditions bridge server voice (.playback receipt)
  | .admitCaptureFinish boundary => admitting bridge server
      (·.admitCaptureFinish bridge.connection boundary) { bridge with
        finish := some ⟨boundary, [.plannedDetach, .deliverCaptureFinish boundary,
          .awaitCompletion, .writeFinishAck boundary]⟩ }
  | .acknowledgePlayback sequence acknowledgement =>
    playing bridge server
      (NetworkPlayback.acknowledgePlayback (server.now + config.maxPlaybackQueueDuration)
        bridge.connection.connectionId sequence acknowledgement) fun receipt =>
      match receipt with
      | some receipt => (voice bridge server).map fun sink => [.sendReceipt sink receipt]
      | none => some []
  | .acknowledgeFlush generationId => playing bridge server
      (NetworkPlayback.acknowledgeFlush bridge.connection.connectionId generationId) fun _ =>
        some []
  | .markPlaybackWritten sequence => playing bridge server
      (NetworkPlayback.markPlaybackWritten bridge.connection.connectionId sequence) fun _ => some []
  | .plannedDetach => playingOwn bridge server
      (NetworkPlayback.plannedDetach bridge.connection.connectionId)
      (flushedReceipts (voice bridge server))
  | .awaitCompletion =>
    match server.completions bridge.connection.reservationEpoch with
    | some true => (some (bridge, []), server)
    | some false => (none, server)
    -- The barrier is not answered yet.
    | none => (some (bridge, [.awaitCompletion]), server)
  | .writeFinishAck boundary =>
    -- A write that fails may still have put the whole record on the wire.
    let written :=
      { server with finishAcks := server.finishAcks ++ [(bridge.connection, boundary)] }
    if conditions.delivered then (some ({ bridge with finish := none, acked := true }, []), written)
    else (none, written)
  | .disconnectPlayback reconnectDeadline => playingOwn bridge server
      (NetworkPlayback.disconnectTransport bridge.connection.connectionId reconnectDeadline)
      (flushedReceipts (voice bridge server))
  | .releaseConnection reconnectDeadline => admitting bridge server
      (fun session => .ok (session.releaseConnection bridge.connection reconnectDeadline)) bridge

/-- A section changes of its bridge at most how far capture has come. -/
def Progresses (bridge reached : Bridge) : Prop :=
  ∃ epochStarted mediaPhase finish acked, reached = { bridge with
    epochStarted := epochStarted, mediaPhase := mediaPhase, finish := finish, acked := acked }

variable {bridge}

theorem Progresses.rfl : Progresses bridge bridge := ⟨_, _, _, _, .refl _⟩

end Section

end ConversationRuntime
