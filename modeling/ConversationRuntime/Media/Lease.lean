import ConversationRuntime.Capture.Frame
import ConversationRuntime.Foundation.Fallible

/-! # Media leases

The gateway's side of one media reservation: who may connect, which capture
records it admits, and when the lease can no longer be resumed. Each function is
what one lock-holding section of the media server does to one reservation.
-/

namespace ConversationRuntime

open Foundation

/-- An instant of the monotonic clock, in nanoseconds. -/
abbrev Instant := Nat

def oneSecond : Nat := 1000000000

def maxTimedMetadataPerSecond : Nat := 128

inductive MediaVersion where
  | legacy
  | timed
  | drainableTimed
deriving DecidableEq

/-- What a reservation knows about timed capture. -/
structure TimedMediaState where
  bridgeSessionId : String
  epoch : Option CaptureEpoch
  domains : CaptureDomainHistory
  sequence : UInt64
  outputEnd : Option Nat
  pair : Option CaptureClockPair
  metadataWindowStarted : Instant
  metadataInWindow : Nat
deriving DecidableEq

structure MediaSession where
  version : MediaVersion
  reservationEpoch : Nat
  credential : String
  expiresAt : Instant
  reconnectDeadline : Instant
  active : Bool
  activeConnectionId : Option Nat
  nextConnectionId : Nat
  expectedSequence : Option Nat
  lastCaptureTimestampMs : Option UInt64
  rateWindowStarted : Instant
  framesInWindow : Nat
  timed : Option TimedMediaState
  captureFinished : Bool
  /-- An admitted connection ended without a planned capture finish. -/
  released : Bool
deriving DecidableEq

/-- The identity of one admitted connection. -/
structure MediaConnection where
  reservationEpoch : Nat
  connectionId : Nat
deriving DecidableEq

/-- What a bridge presents when it connects. -/
structure BridgeCredentials where
  credential : String
  bridgeSessionId : Option String
  version : MediaVersion
deriving DecidableEq

structure MediaDisconnect where
  captureAtMs : Option UInt64
  captureEpoch : Option UInt64
  reconnectDeadline : Instant
deriving DecidableEq

/-- The limits of a media server. Its validation keeps the frame rate positive,
and timed leases need a capture format. -/
structure MediaServerConfig where
  credentialLifetime : Nat
  reconnectWindow : Nat
  maxFramesPerSecond : Nat
  maxPlaybackQueueBytes : Nat
  maxPlaybackQueueDuration : Nat
  captureFormat : Option PcmFormat
  maxFramesPerSecond_pos : 0 < maxFramesPerSecond

/-- A configuration to evaluate the model with. -/
def MediaServerConfig.sample : MediaServerConfig where
  credentialLifetime := 60 * oneSecond
  reconnectWindow := 10 * oneSecond
  maxFramesPerSecond := 100
  maxPlaybackQueueBytes := 16 * maxPcmFrameBytes
  maxPlaybackQueueDuration := 10 * oneSecond
  captureFormat := some .sample
  maxFramesPerSecond_pos := by decide

def timedSessionRevoked : AdapterError := ⟨"timed media session was revoked"⟩

def timedEpochMissing : AdapterError := ⟨"timed media epoch is missing"⟩

def credentialNotAccepted : AdapterError := ⟨"media credential was not accepted"⟩

/-- Count one record in a window of one second. -/
def admitRateWindow (started : Instant) (count limit : Nat) (now : Instant) :
    Except AdapterError (Instant × Nat) :=
  let (started, count) := if oneSecond ≤ now - started then (now, 0) else (started, count)
  if limit ≤ count then .error ⟨"timed media record rate exceeded its bound"⟩
  else .ok (started, count + 1)

namespace TimedMediaState

def start (bridgeSessionId : String) (now : Instant) : TimedMediaState :=
  ⟨bridgeSessionId, none, .empty, 0, none, none, now, 0⟩

/-- Whether an epoch goes back behind the one in force, or repeats it on the
same connection. -/
def replays (state : TimedMediaState) (epoch : CaptureEpoch) (reconnect : Bool) : Bool :=
  state.epoch.any fun prior => prior.clockDomainId == epoch.clockDomainId &&
    (epoch.captureEpoch < prior.captureEpoch ||
      (!reconnect && epoch.captureEpoch == prior.captureEpoch))

/-- The watermarks under a new epoch: a later epoch restarts the frames, and a
new clock domain the pairs as well. -/
def enter (state : TimedMediaState) (epoch : CaptureEpoch) : TimedMediaState :=
  match state.epoch with
  | none => { state with epoch := some epoch }
  | some prior =>
    if prior.clockDomainId = epoch.clockDomainId then
      if prior.captureEpoch < epoch.captureEpoch then
        { state with sequence := 0, outputEnd := none, epoch := some epoch }
      else { state with epoch := some epoch }
    else { state with sequence := 0, outputEnd := none, pair := none, epoch := some epoch }

def admitEpoch (state : TimedMediaState) (epoch : CaptureEpoch) (reconnect : Bool) :
    Except AdapterError TimedMediaState := do
  if state.bridgeSessionId ≠ epoch.bridgeSessionId then
    throw ⟨"timed bridge identity did not match"⟩
  if state.replays epoch reconnect then throw ⟨"timed capture epoch was replayed"⟩
  let domains ← state.domains.admitDomain epoch.clockDomainId
  return { state with domains := domains }.enter epoch

def admitClockPair (state : TimedMediaState) (epoch : CaptureEpoch) (pair : CaptureClockPair) :
    Except AdapterError TimedMediaState := do
  pair.validate
  if pair.clockDomainId ≠ epoch.clockDomainId ∨
      state.pair.any (fun prior => pair.sequence ≤ prior.sequence ∨
        pair.midpointTwice ≤ prior.midpointTwice ∨ pair.wallEpoch < prior.wallEpoch) then
    throw ⟨"timed clock pair identity or ordering was invalid"⟩
  return { state with pair := some pair }

def admitTimedMetadata (state : TimedMediaState) (metadata : CaptureMetadata) :
    Except AdapterError TimedMediaState := do
  let epoch ← orError timedEpochMissing state.epoch
  match metadata with
  | .clockPair pair => state.admitClockPair epoch pair
  | .discontinuity captureEpoch reason =>
    if captureEpoch ≠ epoch.captureEpoch ∨ reason = .alignmentLimitExceeded then
      throw ⟨"timed discontinuity was invalid"⟩
    return state
  | .epoch _ => throw ⟨"timed epoch admission was invalid"⟩

/-- The epoch a frame belongs to and whether frames are missing before it. -/
def validateFrame (state : TimedMediaState) (timing : FrameProvenance) :
    Except AdapterError (CaptureEpoch × Bool) := do
  let epoch ← orError timedEpochMissing state.epoch
  if timing.captureEpoch ≠ epoch.captureEpoch ∨ timing.sequence ≤ state.sequence ∨
      state.outputEnd.any (timing.outputStartSample.toNat < ·) then
    throw ⟨"timed capture sequence or epoch was replayed"⟩
  return (epoch, decide (0 < state.sequence) &&
    (state.sequence.toNat + 1 != timing.sequence.toNat ||
      state.outputEnd != some timing.outputStartSample.toNat))

/-- The watermarks once a frame was delivered. Validation has checked that the
end does not overflow. -/
def commitFrame (state : TimedMediaState) (timing : FrameProvenance) : TimedMediaState :=
  { state with
    sequence := timing.sequence
    outputEnd := some (timing.outputStartSample.toNat + timing.sampleCount.toNat) }

/-- The last frame's sequence and end, if the watermarks agree on whether there
is one. -/
def frameWatermark (state : TimedMediaState) : Except AdapterError (Option (UInt64 × Nat)) :=
  match state.outputEnd with
  | none =>
    if state.sequence = 0 then .ok none
    else .error ⟨"timed capture watermark was inconsistent"⟩
  | some outputEnd =>
    if 0 < state.sequence then .ok (some (state.sequence, outputEnd))
    else .error ⟨"timed capture watermark was inconsistent"⟩

def matchesBoundary (state : TimedMediaState) (boundary : CaptureFinishBoundary) :
    Except AdapterError Unit := do
  let epoch ← orError timedEpochMissing state.epoch
  let pair ← orError ⟨"timed clock pair is missing"⟩ state.pair
  let frame ← state.frameWatermark
  if boundary.captureEpoch ≠ epoch.captureEpoch ∨
      boundary.finalClockPairSequence ≠ pair.sequence ∨
      boundary.frame.map (fun frame => (frame.1, frame.2.toNat)) ≠ frame then
    throw ⟨"capture finish boundary did not match"⟩

end TimedMediaState

namespace MediaSession

/-- A fresh reservation. -/
def reserve (config : MediaServerConfig) (version : MediaVersion)
    (bridgeSessionId : Option String) (reservationEpoch : Nat) (credential : String)
    (now : Instant) : MediaSession where
  version := version
  reservationEpoch := reservationEpoch
  credential := credential
  expiresAt := now + config.credentialLifetime
  reconnectDeadline := now + config.reconnectWindow
  active := false
  activeConnectionId := none
  nextConnectionId := 1
  expectedSequence := none
  lastCaptureTimestampMs := none
  rateWindowStarted := now
  framesInWindow := 0
  timed := bridgeSessionId.map fun bridge => TimedMediaState.start bridge now
  captureFinished := false
  released := false

variable (session : MediaSession)

/-! ## Admission of connections -/

/-- What a bridge must present for this lease. -/
def credentials : BridgeCredentials where
  credential := session.credential
  bridgeSessionId := session.timed.map TimedMediaState.bridgeSessionId
  version := session.version

/-- Authenticate a bridge, as `authenticate_observed` decides it. -/
def authenticate (now : Instant) (presented : BridgeCredentials) :
    Except AdapterError (MediaConnection × MediaSession) := do
  if presented.credential ≠ session.credential ∨ session.version ≠ presented.version ∨
      session.timed.map TimedMediaState.bridgeSessionId ≠ presented.bridgeSessionId ∨
      session.expiresAt < now ∨ session.reconnectDeadline < now ∨ session.active = true ∨
      session.captureFinished = true then
    throw credentialNotAccepted
  let next ← orError ⟨"media connection identity overflowed"⟩
    (checkedAdd session.nextConnectionId 1)
  return (⟨session.reservationEpoch, session.nextConnectionId⟩, { session with
    nextConnectionId := next
    active := true
    activeConnectionId := some session.nextConnectionId })

/-- Extend a live credential to one lifetime from now. `expiresAtMs` is the
wall-clock expiry, which the system clock may fail to give. -/
def renew (lifetime : Nat) (now : Instant) (expiresAtMs : Except AdapterError UInt64) :
    Except AdapterError (UInt64 × MediaSession) := do
  if session.captureFinished = true ∨ session.expiresAt < now ∨
      (session.active = false ∧ session.reconnectDeadline < now) then
    throw ⟨"media lease can no longer be renewed"⟩
  let expiresAtMs ← expiresAtMs
  return (expiresAtMs, { session with expiresAt := now + lifetime })

/-- Whether the section belongs to the connection that is admitted now. -/
def isHeldBy (connection : MediaConnection) : Bool :=
  session.reservationEpoch == connection.reservationEpoch &&
    session.activeConnectionId == some connection.connectionId

/-- A lost connection gives up the lease until it reconnects. -/
def releaseConnection (connection : MediaConnection) (reconnectDeadline : Instant) :
    MediaSession :=
  if session.isHeldBy connection then
    { session with
      active := false
      activeConnectionId := none
      reconnectDeadline := reconnectDeadline
      released := true }
  else session

/-- Planned completion only frees the connection. -/
def releasePlannedConnection (connection : MediaConnection) : MediaSession :=
  if session.isHeldBy connection then
    { session with active := false, activeConnectionId := none }
  else session

/-- What one look at the lease tells the one who waits for its loss. -/
inductive LossDecision where
  | lost
  | waitUntil (deadline : Instant)
  | waitForChange
deriving DecidableEq

def mediaLost (now : Instant) : LossDecision :=
  if session.active || !session.released || session.captureFinished then .waitForChange
  else
    let deadline := min session.expiresAt session.reconnectDeadline
    if deadline < now then .lost else .waitUntil deadline

/-! ## Admission of timed capture -/

def admitTimedRate (maxFramesPerSecond : Nat) (now : Instant) (isMetadata : Bool) :
    Except AdapterError MediaSession := do
  if session.captureFinished then throw ⟨"timed capture is finished"⟩
  if isMetadata then
    let state ← orError timedSessionRevoked session.timed
    let (started, count) ← admitRateWindow state.metadataWindowStarted state.metadataInWindow
      maxTimedMetadataPerSecond now
    return { session with
      timed := some { state with metadataWindowStarted := started, metadataInWindow := count } }
  else
    let (started, count) ← admitRateWindow session.rateWindowStarted session.framesInWindow
      maxFramesPerSecond now
    return { session with rateWindowStarted := started, framesInWindow := count }

/-- Run an admission on the timed state. -/
def onTimed (admission : TimedMediaState → Except AdapterError TimedMediaState) :
    Except AdapterError MediaSession := do
  let state ← orError timedSessionRevoked session.timed
  let state ← admission state
  return { session with timed := some state }

def admitEpoch (epoch : CaptureEpoch) (reconnect : Bool) : Except AdapterError MediaSession := do
  epoch.validate
  session.onTimed fun state => state.admitEpoch epoch reconnect

def admitTimedMetadata (metadata : CaptureMetadata) : Except AdapterError MediaSession :=
  session.onTimed fun state => state.admitTimedMetadata metadata

/-- A frame must have the lease's format and continue the epoch in force. -/
def validateTimedFrame (captureFormat : Option PcmFormat) (timing : FrameProvenance)
    (format : PcmFormat) (length : Nat) : Except AdapterError (CaptureEpoch × Bool) := do
  timing.validatePcm format length
  let expected ← orError ⟨"timed capture format is not configured"⟩ captureFormat
  if format ≠ expected then throw ⟨"timed capture format did not match lease"⟩
  let state ← orError timedSessionRevoked session.timed
  state.validateFrame timing

def commitTimedFrame (timing : FrameProvenance) : Except AdapterError MediaSession :=
  session.onTimed fun state => .ok (state.commitFrame timing)

/-- Admit the one capture finish of a drainable lease. -/
def admitCaptureFinish (connection : MediaConnection) (boundary : CaptureFinishBoundary) :
    Except AdapterError MediaSession := do
  if ¬ session.isHeldBy connection then throw ⟨"capture finish connection did not match"⟩
  if session.version ≠ .drainableTimed then throw ⟨"capture finish requires a drainable lease"⟩
  if session.captureFinished then throw ⟨"capture finish was duplicated"⟩
  let state ← orError timedSessionRevoked session.timed
  state.matchesBoundary boundary
  return { session with captureFinished := true }

/-! ## Admission of legacy capture -/

/-- The frames counted in the window in force. -/
def framesCounted (now : Instant) : Nat :=
  if oneSecond ≤ now - session.rateWindowStarted then 0 else session.framesInWindow

def frameRateExceeded : AdapterError := ⟨"media frame rate exceeded its configured bound"⟩

def notMonotonic : AdapterError := ⟨"media capture timestamp was not monotonic"⟩

def sequenceReplayed : AdapterError := ⟨"media sequence was replayed"⟩

/-- Where the capture broke off before this frame, if it did. -/
def validateCaptureMetadata (maxFramesPerSecond : Nat) (now : Instant)
    (sequence capturedAtMs : UInt64) : Except AdapterError (Option UInt64) := do
  if session.expectedSequence.any (sequence.toNat < ·) then throw sequenceReplayed
  let gap := if session.expectedSequence.any (· < sequence.toNat) then some capturedAtMs else none
  let _ ← orError ⟨"media sequence overflowed"⟩ (checkedAdd sequence.toNat 1)
  if maxFramesPerSecond ≤ session.framesCounted now then throw frameRateExceeded
  if session.lastCaptureTimestampMs.any (capturedAtMs ≤ ·) then throw notMonotonic
  return gap

def renewRateWindow (now : Instant) : MediaSession :=
  if oneSecond ≤ now - session.rateWindowStarted then
    { session with rateWindowStarted := now, framesInWindow := 0 }
  else session

theorem renewRateWindow_eq (now : Instant) :
    ∃ started, session.renewRateWindow now =
      { session with
        rateWindowStarted := started, framesInWindow := session.framesCounted now } := by
  unfold renewRateWindow framesCounted
  split
  · exact ⟨now, rfl⟩
  · exact ⟨session.rateWindowStarted, rfl⟩

open Fallible in
/-- A refusal of the rate or the timestamp leaves the window renewed. -/
def commitCaptureMetadata (maxFramesPerSecond : Nat) (now : Instant)
    (sequence capturedAtMs : UInt64) : Fallible MediaSession AdapterError Unit := do
  let session ← read
  require (session.expectedSequence.any (sequence.toNat < ·) = false) sequenceReplayed
  let next ← lift (orError ⟨"media sequence overflowed"⟩ (checkedAdd sequence.toNat 1))
  update (·.renewRateWindow now)
  let session ← read
  require (session.framesInWindow < maxFramesPerSecond) frameRateExceeded
  require (session.lastCaptureTimestampMs.any (capturedAtMs ≤ ·) = false) notMonotonic
  update fun session => { session with
    framesInWindow := session.framesInWindow + 1
    expectedSequence := some next
    lastCaptureTimestampMs := some capturedAtMs }

/-! ## Losing a connection -/

/-- What the loss of a connection means for capture: whether audio is cut off,
at which time and in which epoch. -/
def disconnectSnapshot (window : Nat) (now : Instant) (connection : MediaConnection) :
    Option MediaDisconnect :=
  if session.isHeldBy connection then
    some {
      captureAtMs := session.lastCaptureTimestampMs.or
        ((session.timed.filter fun state => decide (0 < state.sequence)).map fun _ => 0)
      captureEpoch := (session.timed.bind TimedMediaState.epoch).map CaptureEpoch.captureEpoch
      reconnectDeadline := now + window }
  else none

end MediaSession

end ConversationRuntime
