import ConversationRuntime.Foundation.Fallible
import ConversationRuntime.Media.Lease
import ConversationRuntime.Voice.Events

/-! # The network media hub

The in-process half of the media bridge. For each reservation it keeps the two
sinks that consume capture and the state of playback towards the bridge. Its
lock-holding sections are functions on the playback state; the sections that only
choose sinks read the session and keep what they chose.
-/

namespace ConversationRuntime

open Foundation Fallible

def mediaQueueCapacity : Nat := 16

inductive NetworkPlaybackAck where
  | accepted
  | rendered
deriving DecidableEq

structure PendingPlayback where
  connectionId : Option Nat
  generationId : GenerationId
  /-- Whether the one who enqueued the frame still waits for its acceptance. -/
  awaited : Bool
  accepted : Bool
  acceptedDeadline : Option Instant
  written : Bool
deriving DecidableEq

/-- A frame that waits for a bridge, with the length of its samples. -/
structure WaitingPlayback where
  generationId : GenerationId
  sequence : Nat
  length : Nat
deriving DecidableEq

/-- The playback side of a reservation. Maps are lists with one entry a key. -/
structure NetworkPlayback where
  /-- The connection whose transport is attached. -/
  playback : Option Nat
  nextPlaybackSequence : Nat
  pendingPlayback : List (Nat × PendingPlayback)
  /-- The connection each pending flush was sent to, by generation. -/
  pendingFlush : List (GenerationId × Nat)
  reconnectDeadline : Option Instant
  playbackFinished : Bool
  finishConnectionId : Option Nat
  finishDelivered : Bool
  waitingPlayback : List WaitingPlayback
  waitingPlaybackBytes : Nat
deriving DecidableEq

structure NetworkSession where
  reservationEpoch : Nat
  /-- The voice sink in use, by its number. -/
  voice : Option Nat
  /-- The recognition lane in use, by its number. -/
  recognition : Option Nat
  playing : NetworkPlayback
deriving DecidableEq

namespace NetworkPlayback

abbrev Playing (α : Type) : Type := Fallible NetworkPlayback AdapterError α

def new : NetworkPlayback := ⟨none, 1, [], [], none, false, none, false, [], 0⟩

def playbackFinishing : AdapterError := ⟨"network media playback is finishing"⟩

def playbackQueueFull : AdapterError :=
  ⟨"network media playback queue exceeded its configured bound"⟩

/-- Give every waiting frame to the connection. -/
def assign (connectionId : Nat) (waiting : List WaitingPlayback)
    (entry : Nat × PendingPlayback) : Nat × PendingPlayback :=
  if waiting.any (·.sequence == entry.1) then
    (entry.1, { entry.2 with connectionId := some connectionId })
  else entry

/-- Install a connection's transport and move the waiting frames to it. The
queue holds as many frames as may wait, so none of them is refused. -/
def attachTransport (connectionId : Nat) : Playing Unit := do
  let state ← read
  require (state.playbackFinished = false) playbackFinishing
  require (state.playback = none) ⟨"network media playback transport is already attached"⟩
  update fun state => { state with
    playback := some connectionId
    reconnectDeadline := none
    pendingPlayback := state.pendingPlayback.map (assign connectionId state.waitingPlayback)
    waitingPlayback := []
    waitingPlaybackBytes :=
      state.waitingPlayback.foldl (fun bytes waiting => bytes - waiting.length)
        state.waitingPlaybackBytes }

/-- The generations of written frames among some pending ones. -/
def writtenGenerations (entries : List (Nat × PendingPlayback)) : List GenerationId :=
  ((entries.filter (·.2.written)).map (·.2.generationId)).eraseDups

/-- Whether some playback belongs to another connection than the finishing one. -/
def ownedElsewhere (connectionId : Nat) (state : NetworkPlayback) : Bool :=
  !state.waitingPlayback.isEmpty || state.waitingPlaybackBytes != 0 ||
    state.pendingPlayback.any (fun entry => entry.2.connectionId != some connectionId) ||
    state.pendingFlush.any (fun entry => entry.2 != connectionId)

/-- Detach the finishing connection for good. Answers the generations whose
frames were written, in order. -/
def plannedDetach (connectionId : Nat) : Playing (List GenerationId) := do
  let state ← read
  require (state.playbackFinished = false ∧ state.playback = some connectionId)
    ⟨"network media finish connection no longer matches"⟩
  require (ownedElsewhere connectionId state = false)
    ⟨"network media finish found playback owned elsewhere"⟩
  update fun state => { state with
    playback := none
    reconnectDeadline := none
    playbackFinished := true
    finishConnectionId := some connectionId
    finishDelivered := false
    pendingPlayback := []
    pendingFlush := [] }
  return (writtenGenerations state.pendingPlayback).insertionSort (· ≤ ·)

/-- Claim the one delivery of the finish barrier. -/
def claimFinish (connectionId : Nat) : Playing Unit := do
  let state ← read
  require (state.playbackFinished = true ∧ state.finishConnectionId = some connectionId ∧
    state.finishDelivered = false) ⟨"network media finish ownership did not match"⟩
  update fun state => { state with finishDelivered := true }

def markPlaybackWritten (connectionId sequence : Nat) : Playing Unit := do
  let state ← read
  let pending ← lift (orError ⟨"network media playback write was unknown"⟩
    (state.pendingPlayback.lookup sequence))
  require (pending.connectionId = some connectionId)
    ⟨"network media playback write connection did not match"⟩
  update fun state => { state with
    pendingPlayback := state.pendingPlayback.map fun entry =>
      if entry.1 = sequence then (entry.1, { entry.2 with written := true }) else entry }

/-- Detach a lost connection. Answers the generations whose frames were written,
or nothing when the transport is not this connection's. -/
def disconnectTransport (connectionId : Nat) (reconnectDeadline : Instant) :
    Playing (List GenerationId) := do
  let state ← read
  if state.playback ≠ some connectionId then return []
  update fun state => { state with
    playback := none
    reconnectDeadline := some reconnectDeadline
    pendingPlayback := state.pendingPlayback.filter (·.2.connectionId != some connectionId)
    pendingFlush := state.pendingFlush.filter (·.2 != connectionId) }
  return writtenGenerations
    (state.pendingPlayback.filter (·.2.connectionId == some connectionId))

def playbackAckMismatch : AdapterError :=
  ⟨"network media playback acknowledgement connection did not match"⟩

/-- Apply a bridge's acknowledgement. A rendered frame answers the receipt the
voice input is told. -/
def acknowledgePlayback (deadline : Instant) (connectionId sequence : Nat)
    (acknowledgement : NetworkPlaybackAck) : Playing (Option PlaybackReceipt) := do
  let state ← read
  require (state.playback = some connectionId) playbackAckMismatch
  let pending ← lift (orError ⟨"network media playback acknowledgement was unknown"⟩
    (state.pendingPlayback.lookup sequence))
  require (pending.connectionId = some connectionId) playbackAckMismatch
  match acknowledgement with
  | .accepted => do
    require (pending.accepted = false)
      ⟨"network media playback acknowledgement was duplicated"⟩
    update fun state => { state with
      pendingPlayback := state.pendingPlayback.map fun entry =>
        if entry.1 = sequence then (entry.1, { entry.2 with
          accepted := true
          acceptedDeadline := some deadline
          awaited := false })
        else entry }
    return none
  | .rendered => do
    require (pending.accepted = true) ⟨"network media playback rendered before acceptance"⟩
    update fun state => { state with
      pendingPlayback := state.pendingPlayback.filter (·.1 != sequence) }
    return some ⟨pending.generationId, .rendered⟩

def flushAckMismatch : AdapterError :=
  ⟨"network media flush acknowledgement connection did not match"⟩

/-- Settle a flush. One that another connection owns is dropped all the same. -/
def acknowledgeFlush (connectionId : Nat) (generationId : GenerationId) : Playing Unit := do
  let state ← read
  require (state.playback = some connectionId) flushAckMismatch
  let owner ← lift (orError ⟨"network media flush acknowledgement was unknown"⟩
    (state.pendingFlush.lookup generationId))
  update fun state => { state with
    pendingFlush := state.pendingFlush.filter (·.1 != generationId) }
  require (owner = connectionId) flushAckMismatch

/-! ## The runtime's side of playback -/

/-- Queue one frame of `length` bytes for the bridge, or for the bridge that
reconnects in time. -/
def enqueuePlayback (maxQueueBytes : Nat) (now : Instant) (generationId : GenerationId)
    (length : Nat) : Playing Unit := do
  let state ← read
  require (state.playbackFinished = false) playbackFinishing
  require (state.pendingPlayback.length < mediaQueueCapacity) playbackQueueFull
  require (state.playback.isSome ∨ state.reconnectDeadline.any (now ≤ ·))
    ⟨"network media bridge is not connected within its reconnect window"⟩
  require (state.playback.isSome ∨
      (length ≤ maxQueueBytes ∧ saturatingAdd state.waitingPlaybackBytes length ≤ maxQueueBytes))
    ⟨"network media playback queue exceeded its byte bound"⟩
  let next ← lift (orError ⟨"network media playback sequence overflowed"⟩
    (checkedAdd state.nextPlaybackSequence 1))
  update fun state => { state with
    nextPlaybackSequence := next
    pendingPlayback := state.pendingPlayback ++
      [(state.nextPlaybackSequence, ⟨state.playback, generationId, true, false, none, false⟩)] }
  if state.playback.isNone then
    update fun state => { state with
      waitingPlayback := state.waitingPlayback ++ [⟨generationId, next - 1, length⟩]
      waitingPlaybackBytes := saturatingAdd state.waitingPlaybackBytes length }

def requestFlush (generationId : GenerationId) : Playing Unit := do
  let state ← read
  require (state.playbackFinished = false) playbackFinishing
  let connectionId ← lift (orError ⟨"network media bridge is not connected"⟩ state.playback)
  require (state.pendingFlush.length < mediaQueueCapacity)
    ⟨"network media flush queue exceeded its configured bound"⟩
  require ((state.pendingFlush.lookup generationId).isNone)
    ⟨"network media flush was already pending"⟩
  update fun state => { state with
    pendingFlush := state.pendingFlush ++ [(generationId, connectionId)] }

def cancelPendingPlayback (sequence : Nat) (state : NetworkPlayback) : NetworkPlayback :=
  { state with
    pendingPlayback := state.pendingPlayback.filter (·.1 != sequence)
    waitingPlayback := state.waitingPlayback.filter (·.sequence != sequence)
    waitingPlaybackBytes :=
      (state.waitingPlayback.filter (·.sequence == sequence)).foldl
        (fun bytes waiting => bytes - waiting.length) state.waitingPlaybackBytes }

def cancelPendingFlush (generationId : GenerationId) (state : NetworkPlayback) : NetworkPlayback :=
  { state with pendingFlush := state.pendingFlush.filter (·.1 != generationId) }

/-- The generations of accepted frames whose rendering is overdue. -/
def overdueGenerations (now : Instant) (state : NetworkPlayback) : List GenerationId :=
  ((state.pendingPlayback.filter fun entry => entry.2.acceptedDeadline.any (· ≤ now)).map
    (·.2.generationId)).eraseDups

def expireAccepted (now : Instant) (state : NetworkPlayback) : NetworkPlayback :=
  { state with
    pendingPlayback := state.pendingPlayback.filter fun entry =>
      !(state.overdueGenerations now).contains entry.2.generationId }

def expireWaiting (reconnectDeadline : Instant) (state : NetworkPlayback) : NetworkPlayback :=
  if state.reconnectDeadline = some reconnectDeadline then
    { state with
      reconnectDeadline := none
      waitingPlaybackBytes := 0
      waitingPlayback := []
      pendingPlayback := state.pendingPlayback.filter fun entry =>
        !state.waitingPlayback.any (·.sequence == entry.1) }
  else state

end NetworkPlayback

namespace NetworkSession

def new (reservationEpoch : Nat) : NetworkSession := ⟨reservationEpoch, none, none, .new⟩

/-- The two sinks that consume capture; both must be attached. -/
def sinks (session : NetworkSession) : Option (Nat × Nat) := do
  let voice ← session.voice
  let recognition ← session.recognition
  return (voice, recognition)

end NetworkSession

/-! ## Sinks -/

inductive CaptureEvent where
  | frame (frame : AudioFrame)
  | discontinuity (atMs : UInt64)

/-- What the hub sends to the voice input, with its content. -/
inductive MediaInputEvent where
  | capture (event : CaptureEvent)
  | captureMetadata (metadata : CaptureMetadata)
  | captureFinish (boundary : CaptureFinishBoundary)
  | playback (receipt : PlaybackReceipt)

/-- An event in a sink, with the connection it came from. -/
structure Delivery (α : Type) where
  origin : MediaConnection
  event : α

/-- The voice input of one reservation, with everything that was sent to it. -/
structure VoiceSink where
  owner : Nat
  deliveries : List (Delivery MediaInputEvent)

/-- The recognizer's input. It never waits: what does not fit is dropped, and one
discontinuity is owed for it. -/
structure RecognitionLane where
  owner : Nat
  deliveries : List (Delivery CaptureEvent)
  owedGapMs : Option UInt64
  closed : Bool

namespace RecognitionLane

def lostAtMs : CaptureEvent → UInt64
  | .frame _ => 0
  | .discontinuity atMs => atMs

def send (lane : RecognitionLane) (origin : MediaConnection) (events : List CaptureEvent)
    (owedGapMs : Option UInt64) : RecognitionLane :=
  { lane with
    deliveries := lane.deliveries ++ events.map (⟨origin, ·⟩)
    owedGapMs := owedGapMs }

/-- Offer an event to a lane with room for `room` more. -/
def offer (lane : RecognitionLane) (room : Nat) (origin : MediaConnection)
    (event : CaptureEvent) : RecognitionLane :=
  match lane.owedGapMs, event with
  | none, event =>
    if 1 ≤ room then lane.send origin [event] none
    else lane.send origin [] (some (lostAtMs event))
  | some atMs, .discontinuity _ =>
    if 1 ≤ room then lane.send origin [.discontinuity atMs] none else lane
  | some atMs, .frame frame =>
    if 2 ≤ room then lane.send origin [.discontinuity atMs, .frame frame] none else lane

theorem owner_offer (lane : RecognitionLane) (room : Nat) (origin : MediaConnection)
    (event : CaptureEvent) : (lane.offer room origin event).owner = lane.owner := by
  unfold offer
  split <;> split <;> rfl

end RecognitionLane

end ConversationRuntime
