import ConversationRuntime.Media.Fencing

/-! # The capture of one reservation

A reservation has at most one connection at a time, so what its capture comes to
is a sequence of connections and of the records each of them sends. A record is
handled from its admission to its last delivery; a refused record, a failed
delivery or a closed socket ends the connection, which reports its loss and
releases the lease.
-/

namespace ConversationRuntime

open Foundation Fallible

/-- The connection that holds the lease. -/
structure MediaLink where
  connection : MediaConnection
  timed : Bool
  mediaPhase : Bool
  epochStarted : Bool
  /-- A finish was admitted. -/
  closing : Bool
deriving DecidableEq

structure MediaFeed where
  sessionId : SessionId
  lease : MediaSession
  link : Option MediaLink
  /-- Everything the voice input was given. -/
  delivered : List (Delivery MediaInputEvent)
  /-- The recognizer has closed its input, which ends all audio. -/
  deaf : Bool
  now : Instant

/-- Whether an event goes to the recognizer as well. -/
def MediaInputEvent.isCapture : MediaInputEvent → Bool
  | .capture _ => true
  | _ => false

namespace MediaFeed

abbrev Feeding := Fallible MediaFeed AdapterError

def reserved (config : MediaServerConfig) (sessionId : SessionId) (kind : ReservationKind)
    (credential : String) (epoch : Nat) (now : Instant) : MediaFeed where
  sessionId := sessionId
  lease := .reserve config kind.version kind.bridgeSessionId epoch credential now
  link := none
  delivered := []
  deaf := false
  now := now

section Records

variable (config : MediaServerConfig) (delivers : Nat → Bool) (link : MediaLink)

/-- Put an event into the voice input. Audio needs the recognizer as well, and
whether an event gets through in time depends on the consumer. -/
def deliver (event : MediaInputEvent) : Feeding Unit := do
  let feed ← read
  require (event.isCapture = true → feed.deaf = false)
    ⟨"network media capture input closed"⟩
  require (delivers feed.delivered.length = true) ⟨"network media capture fan-out timed out"⟩
  update fun feed => { feed with delivered := feed.delivered ++ [⟨link.connection, event⟩] }

def deliverDiscontinuity (atMs : UInt64) : Feeding Unit :=
  deliver delivers link (.capture (.discontinuity atMs))

/-- An admission on the lease. -/
def onLease (admission : MediaSession → Except AdapterError MediaSession) : Feeding Unit := do
  let feed ← read
  let lease ← lift (admission feed.lease)
  update fun feed => { feed with lease := lease }

/-- A commit on the lease, which a refusal may leave changed. -/
def commitLease (commit : Fallible MediaSession AdapterError Unit) : Feeding Unit := fun feed =>
  ((commit feed.lease).1, { feed with lease := (commit feed.lease).2 })

def admitTimedRate (isMetadata : Bool) : Feeding Unit := do
  let feed ← read
  onLease (·.admitTimedRate config.maxFramesPerSecond feed.now isMetadata)

def requireEpoch : Feeding Unit := require (link.epochStarted = true) timedEpochMissing

def receiveTimed : TimedMediaRecord → Feeding MediaLink
  | .finish boundary => do
    requireEpoch link
    onLease (·.admitCaptureFinish link.connection boundary)
    return { link with closing := true }
  | .metadata (.epoch epoch) => do
    admitTimedRate config true
    onLease (·.admitEpoch epoch !link.epochStarted)
    deliver delivers link (.captureMetadata (.epoch epoch))
    return { link with epochStarted := true }
  | .metadata metadata => do
    admitTimedRate config true
    requireEpoch link
    onLease (·.admitTimedMetadata metadata)
    onlyIf (Bridge.breaksAudio metadata) (deliverDiscontinuity delivers link 0)
    deliver delivers link (.captureMetadata metadata)
    return link
  | .frame format timing payload => do
    admitTimedRate config false
    requireEpoch link
    let feed ← read
    let answer ← lift (feed.lease.validateTimedFrame config.captureFormat timing format
      payload.length)
    onlyIf answer.2 (do
      deliverDiscontinuity delivers link 0
      deliver delivers link
        (.captureMetadata (.discontinuity answer.1.captureEpoch .sequenceHole)))
    let frame ← lift (do
      let frame ← AudioFrame.new timing.sequence format payload
      frame.withCaptureTiming ⟨answer.1, timing⟩)
    deliver delivers link (.capture (.frame frame))
    onLease (·.commitTimedFrame timing)
    return link

def receiveFrame (sequence capturedAtMs : UInt64) (format : PcmFormat) (payload : Bytes) :
    Feeding MediaLink := do
  let feed ← read
  let gap ← lift (feed.lease.validateCaptureMetadata config.maxFramesPerSecond feed.now sequence
    capturedAtMs)
  onlyIf gap.isSome (deliverDiscontinuity delivers link (gap.getD 0))
  let frame ← lift (AudioFrame.new sequence format payload)
  deliver delivers link (.capture (.frame frame))
  commitLease (MediaSession.commitCaptureMetadata config.maxFramesPerSecond feed.now sequence
    capturedAtMs)
  return link

/-- Handle one message. Acknowledgements of playback have no part in capture. -/
def receive : MediaMessage → Feeding MediaLink
  | .timed sessionId record => do
    let feed ← read
    require (link.timed = true ∧ sessionId = feed.sessionId)
      ⟨"timed media identity did not match"⟩
    require (link.closing = false) ⟨"timed capture is finished"⟩
    receiveTimed config delivers link record
  | .frame isCapture sessionId sequence capturedAtMs format payload => do
    let feed ← read
    require (link.timed = false) ⟨"legacy capture is not permitted for timed media"⟩
    require (sessionId = feed.sessionId) ⟨"media frame session identity did not match"⟩
    require (isCapture = true) ⟨"media bridge direction is not capture"⟩
    receiveFrame config delivers link sequence capturedAtMs format payload
  | .playbackAck .. | .flushAck .. => pure link

/-- The discontinuity of a lost connection, and its reason in the epoch in force. -/
def reportLoss (disconnect : MediaDisconnect) : Feeding Unit :=
  match disconnect.captureAtMs with
  | none => pure ()
  | some atMs => do
    deliverDiscontinuity delivers link atMs
    match disconnect.captureEpoch with
    | none => pure ()
    | some epoch => deliver delivers link (.captureMetadata (.discontinuity epoch .reconnect))

/-- The connection is lost: a failed report changes nothing else. -/
def lose (feed : MediaFeed) : MediaFeed :=
  match feed.lease.disconnectSnapshot
      (min config.reconnectWindow config.maxPlaybackQueueDuration) feed.now link.connection with
  | none => { feed with link := none }
  | some disconnect =>
    let reported := if link.mediaPhase then (reportLoss delivers link disconnect feed).2 else feed
    { reported with
      lease := reported.lease.releaseConnection link.connection disconnect.reconnectDeadline
      link := none }

end Records

/-- What happens to a reservation that is not revoked. -/
inductive Event where
  | tick (elapsed : Nat)
  | renew (expiresAtMs : Except AdapterError UInt64)
  | deafen
  | connect (presented : BridgeCredentials)
  /-- The connection is confirmed and its playback attached. -/
  | attach
  | receive (message : MediaMessage) (delivers : Nat → Bool)
  /-- The voice input is told what became of played audio. -/
  | receipt (receipt : PlaybackReceipt)
  /-- The connection ends, for whatever reason outside its records. -/
  | hangUp (delivers : Nat → Bool)
  /-- The bridge closes after its finish was acknowledged. -/
  | complete

def Event.delivers : Event → Nat → Bool
  | .receive _ delivers | .hangUp delivers => delivers
  | _ => fun _ => true

variable (config : MediaServerConfig)

/-- Where an event finds the connection lost, if it does. -/
def lossAt (feed : MediaFeed) (link : MediaLink) : Event → Option MediaFeed
  | .hangUp _ => some feed
  | .receive message delivers =>
    if link.mediaPhase then
      match receive config delivers link message feed with
      | (.error _, reached) => some reached
      | _ => none
    else none
  | _ => none

/-- An event that leaves the connection, or there is none. -/
def proceed (feed : MediaFeed) : Event → MediaFeed
  | .tick elapsed => { feed with now := feed.now + elapsed }
  | .renew expiresAtMs =>
    { feed with
      lease := ((feed.lease.renew config.credentialLifetime feed.now expiresAtMs).toOption.map
        Prod.snd).getD feed.lease }
  | .deafen => { feed with deaf := true }
  | .connect presented =>
    match feed.lease.authenticate feed.now presented with
    | .ok (connection, lease) =>
      { feed with
        lease := lease
        link := some ⟨connection, presented.bridgeSessionId.isSome, false, false, false⟩ }
    | .error _ => feed
  | .attach => { feed with link := feed.link.map fun link => { link with mediaPhase := true } }
  | .receive message delivers =>
    match feed.link with
    | none => feed
    | some link =>
      match link.mediaPhase, receive config delivers link message feed with
      | true, (.ok link, reached) => { reached with link := some link }
      | _, _ => feed
  | .receipt receipt =>
    match feed.link with
    | none => feed
    | some link =>
      if link.mediaPhase then
        { feed with delivered := feed.delivered ++ [⟨link.connection, .playback receipt⟩] }
      else feed
  | .complete =>
    match feed.link with
    | none => feed
    | some link =>
      if link.closing then
        { feed with lease := feed.lease.releasePlannedConnection link.connection, link := none }
      else feed
  | .hangUp _ => feed

def step (feed : MediaFeed) (event : Event) : MediaFeed :=
  match feed.link.bind fun link => (feed.lossAt config link event).map (link, ·) with
  | some (link, reached) => reached.lose config event.delivers link
  | none => feed.proceed config event

def run (feed : MediaFeed) (events : List Event) : MediaFeed := events.foldl (step config) feed

end MediaFeed

end ConversationRuntime
