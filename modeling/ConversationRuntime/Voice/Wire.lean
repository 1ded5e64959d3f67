import ConversationRuntime.Foundation.Fallible
import ConversationRuntime.Voice.Delivery

/-! # How the voice loop reaches the world

The loop runs against a consumer, a clock, a turn runtime and the adapters of the
session. What they do at each point of a run is given by an environment that is
asked once for every access. Futures that a cleanup timeout drops stop where they
wait; what they had changed stays changed.

The wire holds the outbox and the clock. It also keeps two records that no
function of the loop reads: the calls made of the outbox, and a journal of what
the loop did.
-/

namespace ConversationRuntime

open Foundation Fallible

inductive LoopExit where
  | shutdown
  | consumerDropped
  | fatal (error : RuntimeError)
deriving DecidableEq

/-- Why a function of the loop stops before its end. -/
inductive Stop where
  /-- The future was dropped by a cleanup timeout. -/
  | dropped
  | failed (error : RuntimeError)
  | exit (exit : LoopExit)
deriving DecidableEq

/-- What the world answers at one point of a run. -/
structure Answers where
  /-- What the consumer does before the access. -/
  consumer : Receiving
  /-- How waiting for room in the channel ends. -/
  sending : Awaited
  /-- What the consumer takes while a delivery waits, unless it closes the channel. -/
  delivering : Option Nat
  elapsedMs : Nat
  /-- Whether a turn starts, and how many identities other turns took meanwhile. -/
  started : Except RuntimeError Nat
  /-- The result of an interruption; none when it is not acknowledged in time. -/
  interrupted : Option (Except RuntimeError Unit)
  /-- What an interrupted turn still reports, and whether its stream then ends
  rather than stays silent until the timeout. -/
  drained : List RuntimeEvent × Bool
  /-- The result of an abort; none when it does not return in time. -/
  aborted : Option (Except RuntimeError Unit)
  seeded : Except RuntimeError Unit
  /-- Whether input and recording are still alive. -/
  mediaAlive : Bool
  /-- Whether a task ends within the cleanup timeout. -/
  cleaned : Bool

/-- A world in which everything works, nothing takes time and the consumer does not read. -/
def Answers.calm : Answers where
  consumer := ⟨0, false⟩
  sending := .room 0 false
  delivering := some 0
  elapsedMs := 0
  started := .ok 0
  interrupted := some (.ok ())
  drained := ([.turnCancelled 1], false)
  aborted := some (.ok ())
  seeded := .ok ()
  mediaAlive := false
  cleaned := true

structure VoiceEnvironment where
  answers : Nat → Answers
  /-- What is left of a recognised text after cleanup. -/
  cleanFinal : String → Option String

/-- An error of the loop that its own state should rule out. -/
inductive Fault where
  | turnEventWithoutGeneration
  | transcriptWithoutSegment
deriving DecidableEq

/-- What the journal records. -/
inductive Deed where
  /-- An event was passed to `publishReliable`, and whether the channel was open. -/
  | passed (event : VoiceSessionEvent) (isOpen : Bool)
  | registered (segmentId : Nat)
  /-- A turn was started for a segment that waited for its response. -/
  | responded (segmentId : Nat) (turnId : TurnId)
  | authorized (segmentId : Nat) (result : Except RuntimeError TurnId)
  | began (identity : TurnIdentity)
  | interrupted (identity : TurnIdentity)
  | reaped (identity : TurnIdentity)
  | faulted (fault : Fault)
deriving DecidableEq

structure Wire where
  outbox : Outbox
  clockMs : Nat
  tick : Nat
  calls : List Outbox.Call
  journal : List Deed

namespace Wire

def start (sessionId : SessionId) : Wire := ⟨.start sessionId, 0, 0, [], []⟩

variable (env : VoiceEnvironment)

def answers : Fallible Wire Stop Answers := fun wire =>
  (.ok (env.answers wire.tick), { wire with tick := wire.tick + 1 })

def make (call : Outbox.Call) : Fallible Wire Stop call.Result := fun wire =>
  (.ok (wire.outbox.serve call).1,
    { wire with outbox := (wire.outbox.serve call).2, calls := wire.calls ++ [call] })

def note (deed : Deed) : Fallible Wire Stop Unit :=
  update fun wire => { wire with journal := wire.journal ++ [deed] }

/-- The consumer acts on its own between two accesses. -/
def attend : Fallible Wire Stop Unit := do
  let answer ← answers env
  make (.attend answer.consumer)

def nowMs : Fallible Wire Stop Nat := do
  let answer ← answers env
  update fun wire => { wire with clockMs := wire.clockMs + answer.elapsedMs }
  let wire ← read
  pure wire.clockMs

/-- The answer of a publication that may have been dropped. -/
def unlessDropped : Option Bool → Fallible Wire Stop Bool
  | some isOpen => pure isOpen
  | none => fail .dropped

def publishReliable (cancellable : Bool) (event : VoiceSessionEvent) : Fallible Wire Stop Bool := do
  attend env
  let answer ← answers env
  let wire ← read
  note (.passed event !wire.outbox.isClosed)
  let result ← make (.publishReliable event (answer.sending.within cancellable))
  unlessDropped result

def publishBestEffort (event : VoiceSessionEvent) : Fallible Wire Stop Bool := do
  attend env
  make (.publishBestEffort event)

def publishPartial (segmentId : Nat) (text : String) : Fallible Wire Stop Bool := do
  attend env
  make (.publishPartial segmentId text)

/-- Send waiting reliable events until none is left or the channel has no room.
An answer ends the flush. -/
def flushReliables : Nat → Fallible Wire Stop (Option Bool)
  | 0 => pure none
  | count + 1 => do
    attend env
    match ← make .flushReliable with
    | some .sent => flushReliables count
    | some .full => pure (some true)
    | some .closed => pure (some false)
    | none => pure none

def flushPartials : Nat → Fallible Wire Stop Bool
  | 0 => pure true
  | count + 1 => do
    attend env
    match ← make .flushPartial with
    | some .sent => flushPartials count
    | some .closed => pure false
    | some .full | none => pure true

def flushPendingEvents : Fallible Wire Stop Bool := do
  let wire ← read
  match ← flushReliables env wire.outbox.reliableEvents.length with
  | some isOpen => pure isOpen
  | none => flushPartials env wire.outbox.partials.keys.length

def deliverPendingEvent : Fallible Wire Stop Bool := do
  let answer ← answers env
  make (.deliver answer.delivering)

end Wire

end ConversationRuntime
