import Mathlib.Data.List.AList
import ConversationRuntime.Foundation.Channel
import ConversationRuntime.Foundation.Lists
import ConversationRuntime.Voice.Events

/-! # Delivery of voice events

The voice loop hands its events to a bounded channel. Reliable events that find
no room wait in a queue, texts that are not final wait in a map that keeps the
latest of each segment, and everything else is dropped rather than waited for.

Every event carries, for the specification only, the lane it took and the number
of reliable events passed before it was passed or, for a text, observed. No
function reads these stamps.
-/

namespace ConversationRuntime

open Foundation

def sessionEventBufferSize : Nat := 32

def reliableEventReserve : Nat := 4

def maxPendingReliableEvents : Nat := 32

def maxPendingPartialSegments : Nat := 32

/-- How an event came into the channel. -/
inductive Lane where
  | opening
  | reliable
  | bestEffort
  | coalesced
deriving DecidableEq

structure Dispatch where
  event : VoiceSessionEvent
  lane : Lane
  stamp : Nat
deriving DecidableEq

/-- The latest text of a segment that could not be sent yet. -/
structure StoredPartial where
  text : String
  stamp : Nat
deriving DecidableEq

structure Outbox where
  sessionId : SessionId
  events : Channel Dispatch
  reliableEvents : List Dispatch
  partials : AList fun _ : Nat => StoredPartial
  /-- The events passed to `publishReliable` while the channel was open. -/
  published : List VoiceSessionEvent

namespace Outbox

/-- The outbox when the loop starts: the session's first event was sent. -/
def start (sessionId : SessionId) : Outbox where
  sessionId := sessionId
  events := .new sessionEventBufferSize [⟨.sessionStarted sessionId, .opening, 0⟩]
  reliableEvents := []
  partials := ∅
  published := []

def isClosed (outbox : Outbox) : Bool := outbox.events.closed

/-- Whether best-effort events and texts must leave the rest of the channel to
reliable events. -/
def isReserved (outbox : Outbox) : Bool := outbox.events.free ≤ reliableEventReserve

def reliably (outbox : Outbox) (event : VoiceSessionEvent) : Dispatch :=
  ⟨event, .reliable, outbox.published.length⟩

/-- Note that `event` was passed, if the channel is open. -/
def pass (event : VoiceSessionEvent) (outbox : Outbox) : Outbox :=
  if outbox.isClosed then outbox else { outbox with published := outbox.published ++ [event] }

/-- The queue is full: send its oldest event, waiting for room, to make place. -/
def publishBehindOldest (dispatch oldest : Dispatch) (rest : List Dispatch) (awaited : Awaited)
    (outbox : Outbox) : Option Bool × Outbox :=
  let popped := { outbox with reliableEvents := rest }
  match outbox.events.send oldest awaited with
  | (some .sent, events) =>
    (some !events.closed, { popped with events, reliableEvents := rest ++ [dispatch] })
  | (some _, events) => (some false, { popped with events })
  | (none, events) => (none, { popped with events })

/-- Publish an event that must not be lost. The answer says whether the channel
is still open; there is none when the caller is dropped while it waits. -/
def publishReliable (event : VoiceSessionEvent) (awaited : Awaited) (outbox : Outbox) :
    Option Bool × Outbox :=
  let dispatch := outbox.reliably event
  let passed := outbox.pass event
  match passed.reliableEvents with
  | oldest :: rest =>
    if maxPendingReliableEvents ≤ passed.reliableEvents.length then
      passed.publishBehindOldest dispatch oldest rest awaited
    else
      (some !passed.isClosed,
        { passed with reliableEvents := passed.reliableEvents ++ [dispatch] })
  | [] =>
    match passed.events.trySend dispatch with
    | (.sent, events) => (some true, { passed with events })
    | (.full, _) => (some true, { passed with reliableEvents := [dispatch] })
    | (.closed, _) => (some false, passed)

def publishBestEffort (event : VoiceSessionEvent) (outbox : Outbox) : Bool × Outbox :=
  if !outbox.reliableEvents.isEmpty || outbox.isReserved then (!outbox.isClosed, outbox)
  else
    match outbox.events.trySend ⟨event, .bestEffort, outbox.published.length⟩ with
    | (.closed, _) => (false, outbox)
    | (_, events) => (true, { outbox with events })

/-- The stored text of the least segment. -/
def firstPartial (outbox : Outbox) : Option (Nat × StoredPartial) :=
  outbox.partials.keys.min?.bind fun segmentId =>
    (outbox.partials.lookup segmentId).map fun stored => (segmentId, stored)

def storePartial (segmentId : Nat) (text : String) (outbox : Outbox) : Outbox :=
  let stored : StoredPartial := ⟨text, outbox.published.length⟩
  if outbox.partials.lookup segmentId = none ∧
      maxPendingPartialSegments ≤ outbox.partials.keys.length then
    match outbox.firstPartial with
    | some (first, _) =>
      { outbox with partials := (outbox.partials.erase first).insert segmentId stored }
    | none => { outbox with partials := outbox.partials.insert segmentId stored }
  else { outbox with partials := outbox.partials.insert segmentId stored }

def partialDispatch (outbox : Outbox) (segmentId : Nat) (stored : StoredPartial) : Dispatch :=
  ⟨.transcriptPartial outbox.sessionId segmentId stored.text, .coalesced, stored.stamp⟩

def publishPartial (segmentId : Nat) (text : String) (outbox : Outbox) : Bool × Outbox :=
  if !outbox.reliableEvents.isEmpty || outbox.isReserved then
    (!outbox.isClosed, outbox.storePartial segmentId text)
  else
    match outbox.events.trySend
        (outbox.partialDispatch segmentId ⟨text, outbox.published.length⟩) with
    | (.sent, events) => (true, { outbox with events })
    | (.full, _) => (true, outbox.storePartial segmentId text)
    | (.closed, _) => (false, outbox)

/-- One turn of the loop that sends waiting reliable events; no answer when none
waits. -/
def flushReliable (outbox : Outbox) : Option Sending × Outbox :=
  match outbox.reliableEvents with
  | [] => (none, outbox)
  | oldest :: rest =>
    match outbox.events.trySend oldest with
    | (.sent, events) => (some .sent, { outbox with events, reliableEvents := rest })
    | (answer, _) => (some answer, outbox)

/-- One turn of the loop that sends stored texts; no answer when none may be
sent. -/
def flushPartial (outbox : Outbox) : Option Sending × Outbox :=
  if outbox.isReserved then (none, outbox)
  else match outbox.firstPartial with
    | none => (none, outbox)
    | some (segmentId, stored) =>
      match outbox.events.trySend (outbox.partialDispatch segmentId stored) with
      | (.sent, events) =>
        (some .sent, { outbox with events, partials := outbox.partials.erase segmentId })
      | (answer, _) => (some answer, outbox)

def hasPendingDelivery (outbox : Outbox) : Bool :=
  !outbox.reliableEvents.isEmpty || outbox.firstPartial.isSome

/-- Wait for room for the oldest reliable event or, when there is none, for the
first stored text, then send it. `waiting` says how many events the consumer
takes meanwhile, or that it closes the channel. -/
def deliver (waiting : Option Nat) (outbox : Outbox) : Bool × Outbox :=
  if outbox.isClosed then (false, outbox)
  else match waiting with
    | none => (false, { outbox with events := outbox.events.close })
    | some takes =>
      match outbox.reliableEvents with
      | oldest :: rest =>
        (true, { outbox with
          events := (outbox.events.awaitFree 1 takes).push oldest
          reliableEvents := rest })
      | [] =>
        match outbox.firstPartial with
        | none => (true, outbox)
        | some (segmentId, stored) =>
          (true, { outbox with
            events := (outbox.events.awaitFree (reliableEventReserve + 1) takes).push
              (outbox.partialDispatch segmentId stored)
            partials := outbox.partials.erase segmentId })

/-- One access to the outbox, with what the consumer does meanwhile. -/
inductive Call where
  | attend (receiving : Receiving)
  | publishReliable (event : VoiceSessionEvent) (awaited : Awaited)
  | publishBestEffort (event : VoiceSessionEvent)
  | publishPartial (segmentId : Nat) (text : String)
  | flushReliable
  | flushPartial
  | deliver (waiting : Option Nat)
  | clearPartials
deriving DecidableEq

@[reducible] def Call.Result : Call → Type
  | .attend _ | .clearPartials => Unit
  | .publishReliable _ _ => Option Bool
  | .publishBestEffort _ | .publishPartial _ _ | .deliver _ => Bool
  | .flushReliable | .flushPartial => Option Sending

def serve (outbox : Outbox) : (call : Call) → call.Result × Outbox
  | .attend receiving => ((), { outbox with events := outbox.events.attend receiving })
  | .publishReliable event awaited => outbox.publishReliable event awaited
  | .publishBestEffort event => outbox.publishBestEffort event
  | .publishPartial segmentId text => outbox.publishPartial segmentId text
  | .flushReliable => outbox.flushReliable
  | .flushPartial => outbox.flushPartial
  | .deliver waiting => outbox.deliver waiting
  | .clearPartials => ((), { outbox with partials := ∅ })

def step (outbox : Outbox) (call : Call) : Outbox := (outbox.serve call).2

end Outbox

end ConversationRuntime
