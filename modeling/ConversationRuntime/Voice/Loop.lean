import ConversationRuntime.Voice.Finalizer
import ConversationRuntime.Voice.Wire

/-! # The voice loop

One task owns the state of a voice session. It waits for the next signal, handles
it to the end and waits again; while it handles one, only the consumer, the clock
and the turn runtime move on.
-/

namespace ConversationRuntime

open Foundation Fallible

inductive VoiceResponseMode where
  | automatic
  | externalGate
deriving DecidableEq

inductive VoiceLoopState where
  | listening
  | responding (identity : TurnIdentity)
  | ending
deriving DecidableEq

inductive CaptureState where
  | active
  | pausing
  | paused
  | resuming
deriving DecidableEq

inductive CaptureOperationKind where
  | pause
  | resume
deriving DecidableEq

inductive PlaybackLifecycle where
  | awaitingAcceptance (generationId : GenerationId) (pendingRendered : Option PlaybackReceipt)
  | accepted (generationId : GenerationId)
  | rendered (generationId : GenerationId)
  | flushed (generationId : GenerationId)
deriving DecidableEq

inductive PendingSegment where
  | pending (text : String)
  | authorized (turnId : TurnId)
  | skipped
deriving DecidableEq

/-- Where the session is: in its loop, keeping only its recording, or over. -/
inductive Course where
  | running
  | recording (error : RuntimeError)
  | ended (event : VoiceSessionEvent)
deriving DecidableEq

structure VoiceLoop where
  sessionId : SessionId
  finalSilenceMs : Nat
  responseMode : VoiceResponseMode
  captureState : CaptureState
  captureOperation : Option CaptureOperationKind
  /-- The I/O session has not reported its end. -/
  completion : Bool
  captureRecorder : Bool
  /-- The turn whose events the loop reads. -/
  turnEvents : Option TurnIdentity
  /-- When the armed deadline fires. -/
  deadline : Option Nat
  finalizer : TurnFinalizer
  state : VoiceLoopState
  activeSegmentId : Option Nat
  finalizationDue : Bool
  playback : Option PlaybackLifecycle
  firstAudioReceived : Bool
  pendingSegments : AList fun _ : Nat => PendingSegment
  pendingOrder : List Nat
  automaticResponses : List (Nat × String)
  lastFinalizedSegment : Nat
  /-- The last turn identity the conversation handed out. -/
  sequence : Nat
  course : Course
  wire : Wire

abbrev Voice (α : Type) : Type := Fallible VoiceLoop Stop α

def lateRecognitionSettleMs : Nat := 120

def maxPendingSegments : Nat := 32

namespace VoiceLoop

/-- The loop of a new session, in a conversation that has had `sequence` turns. -/
def new (sessionId : SessionId) (finalSilenceMs : Nat) (responseMode : VoiceResponseMode)
    (captureRecorder : Bool) (sequence : Nat) : VoiceLoop where
  sessionId := sessionId
  finalSilenceMs := finalSilenceMs
  responseMode := responseMode
  captureState := .active
  captureOperation := none
  completion := true
  captureRecorder := captureRecorder
  turnEvents := none
  deadline := none
  finalizer := .new finalSilenceMs
  state := .listening
  activeSegmentId := none
  finalizationDue := false
  playback := none
  firstAudioReceived := false
  pendingSegments := ∅
  pendingOrder := []
  automaticResponses := []
  lastFinalizedSegment := 0
  sequence := sequence
  course := .running
  wire := .start sessionId

def onto (wire : Wire) (loop : VoiceLoop) : VoiceLoop := { loop with wire }

/-- Run a program on the wire; nothing else changes. -/
def onWire {α : Type} (program : Fallible Wire Stop α) : Voice α := fun loop =>
  ((program loop.wire).1, loop.onto (program loop.wire).2)

/-- The result of a function that may fail, as a value. -/
def caught {α : Type} (program : Voice α) : Voice (Except RuntimeError α) := fun loop =>
  match program loop with
  | (.ok value, reached) => (.ok (.ok value), reached)
  | (.error (.failed error), reached) => (.ok (.error error), reached)
  | (.error stop, reached) => (.error stop, reached)

/-- A failure ends the loop. -/
def asFatal (program : Voice Unit) : Voice Unit := fun loop =>
  match program loop with
  | (.error (.failed error), reached) => (.error (.exit (.fatal error)), reached)
  | other => other

def failWith {α : Type} (message : String) : Voice α := fail (.failed (runtimeError message))

def cleanupTimeoutError (operation : String) : RuntimeError :=
  runtimeError ("voice session cleanup timed out during " ++ operation)

/-- Run a future under the cleanup timeout: none of its results if it is dropped. -/
def cleanupWithTimeout {α : Type} (program : Voice α) : Voice (Option (Except RuntimeError α)) :=
  fun loop =>
    match program loop with
    | (.ok value, reached) => (.ok (some (.ok value)), reached)
    | (.error (.failed error), reached) => (.ok (some (.error error)), reached)
    | (.error .dropped, reached) => (.ok none, reached)
    | (.error (.exit exit), reached) => (.error (.exit exit), reached)

variable (env : VoiceEnvironment)

def note (deed : Deed) : Voice Unit := onWire (Wire.note deed)

def nowMs : Voice Nat := onWire (Wire.nowMs env)

def publishReliable (cancellable : Bool) (event : VoiceSessionEvent) : Voice Bool :=
  onWire (Wire.publishReliable env cancellable event)

def publishBestEffort (event : VoiceSessionEvent) : Voice Bool :=
  onWire (Wire.publishBestEffort env event)

/-- Publish how long the session took to a milestone. -/
def publishTiming (turnId : Option TurnId) (milestone : VoiceTimingMilestone) : Voice Bool := do
  let loop ← read
  let elapsedMs ← nowMs env
  publishBestEffort env (.timing loop.sessionId turnId milestone elapsedMs)

/-- Publish an event without which the session cannot go on. -/
def publishOrLeave (event : VoiceSessionEvent) : Voice Unit := do
  let isOpen ← publishReliable env false event
  require isOpen (.exit .consumerDropped)

/-! ## Starting responses -/

def startTurn : Voice TurnIdentity := do
  let answer ← onWire (Wire.answers env)
  let passedOver ← lift (answer.started.mapError .failed)
  let loop ← read
  let identity : TurnIdentity :=
    ⟨loop.sequence + passedOver + 1, loop.sequence + passedOver + 1⟩
  update fun loop => { loop with sequence := identity.turnId }
  note (.began identity)
  pure identity

/-- Abort a turn the loop has not taken over; the result is ignored. -/
def abortTurn (identity : TurnIdentity) : Voice Unit := note (.reaped identity)

/-- Take over a started turn. -/
def own (identity : TurnIdentity) : Voice Unit :=
  update fun loop => { loop with
    turnEvents := some identity
    state := .responding identity
    playback := some (.awaitingAcceptance identity.generationId none) }

def setSegment (segmentId : Nat) (segment : PendingSegment) : Voice Unit :=
  update fun loop => { loop with pendingSegments := loop.pendingSegments.insert segmentId segment }

/-- The segment's response is the turn just started. -/
def markAuthorized (segmentId : Nat) (turnId : TurnId) : Voice Unit := do
  setSegment segmentId (.authorized turnId)
  note (.responded segmentId turnId)

/-- No response is being spoken. -/
def IsIdle (loop : VoiceLoop) : Prop := loop.state = .listening ∧ loop.turnEvents = none

instance (loop : VoiceLoop) : Decidable loop.IsIdle := inferInstanceAs (Decidable (_ ∧ _))

def startSegmentResponse (segmentId : Nat) (text : String) (externalGate : Bool) :
    Voice TurnId := do
  let loop ← read
  require loop.IsIdle (.failed (runtimeError "voice response cannot replace an active response"))
  let identity ← startTurn env
  onlyIf externalGate (markAuthorized segmentId identity.turnId)
  let published ← publishReliable env false
    (.responseAuthorized loop.sessionId segmentId identity.turnId)
  if published then do
    own identity
    let isOpen ← publishTiming env (some identity.turnId) .responseAuthorized
    require isOpen (.failed
      (runtimeError "voice session event stream closed during authorization timing"))
    pure identity.turnId
  else do
    abortTurn identity
    onlyIf externalGate (setSegment segmentId (.pending text))
    failWith "voice session event stream closed during authorization"

/-- Start the response to a segment that waits for it. -/
def authorizePending (segmentId : Nat) : Option PendingSegment → Voice TurnId
  | some (.pending text) => do
    let answer ← onWire (Wire.answers env)
    lift (answer.seeded.mapError .failed)
    startSegmentResponse env segmentId text true
  | _ => failWith "voice response segment is not pending"

def authorizeSegment (sessionId : SessionId) (segmentId : Nat) : Voice TurnId := do
  let loop ← read
  require (loop.responseMode = .externalGate ∧ sessionId = loop.sessionId)
    (.failed (runtimeError "voice response authorization is not available for this session"))
  match loop.pendingSegments.lookup segmentId with
  | some (.authorized turnId) => pure turnId
  | entry => do
    require loop.IsIdle (.failed
      (runtimeError "voice response authorization cannot replace an active response"))
    authorizePending env segmentId entry

def skipSegment (sessionId : SessionId) (segmentId : Nat) (reason : String) : Voice Unit := do
  let loop ← read
  require (loop.responseMode = .externalGate ∧ sessionId = loop.sessionId)
    (.failed (runtimeError "voice response authorization is not available for this session"))
  match loop.pendingSegments.lookup segmentId with
  | some (.pending _) => do
    setSegment segmentId .skipped
    let isOpen ← publishReliable env false (.responseSkipped loop.sessionId segmentId reason)
    require isOpen (.failed (runtimeError "voice session event stream closed during skip"))
  | _ => failWith "voice response segment is not pending"

/-- Make room for one more segment, answering those that waited in vain. -/
def expireSegments : Nat → Voice Unit
  | 0 => pure ()
  | count + 1 => do
    let loop ← read
    match loop.pendingOrder with
    | [] => pure ()
    | expired :: rest =>
      if maxPendingSegments ≤ loop.pendingOrder.length then do
        update fun loop => { loop with
          pendingOrder := rest
          pendingSegments := loop.pendingSegments.erase expired }
        match loop.pendingSegments.lookup expired with
        | some (.pending _) => do
          let isOpen ← publishReliable env false
            (.responseSkipped loop.sessionId expired "pending_segment_expired")
          require isOpen (.failed
            (runtimeError "voice session event stream closed during segment expiry"))
          expireSegments count
        | _ => expireSegments count
      else pure ()

def registerPendingSegment (segmentId : Nat) (text : String)
    (captureEvidence : Option UtteranceCaptureEvidence) : Voice Unit := do
  let loop ← read
  expireSegments env loop.pendingOrder.length
  update fun loop => { loop with
    pendingOrder := loop.pendingOrder ++ [segmentId]
    pendingSegments := loop.pendingSegments.insert segmentId (.pending text) }
  note (.registered segmentId)
  let isOpen ← publishReliable env false
    (.transcriptFinal loop.sessionId segmentId none text captureEvidence)
  require isOpen (.failed (runtimeError "voice session event stream closed during finalization"))
  let isOpen ← publishTiming env none .transcriptFinal
  require isOpen (.failed
    (runtimeError "voice session event stream closed during finalization timing"))

/-- Time the final text of a turn, unless its publication found the channel closed. -/
def timeFinal (isOpen : Bool) (identity : TurnIdentity) : Voice Bool :=
  if isOpen then publishTiming env (some identity.turnId) .transcriptFinal else pure false

/-- Start the response to what the finalizer released. -/
def startFinalizedTurn (segmentId : Nat) (text : String) : Voice Unit := do
  let loop ← read
  let identity ← startTurn env
  let isOpen ← publishReliable env false
    (.transcriptFinal loop.sessionId segmentId (some identity.turnId) text none)
  let published ← timeFinal env isOpen identity
  if published then own identity
  else do
    abortTurn identity
    failWith "voice session event stream closed during finalization"

/-- Respond to a final text, or wait to be told to. -/
def admitTranscript (segmentId : Nat) (text : String) : Voice Unit := do
  let loop ← read
  match loop.responseMode with
  | .externalGate => registerPendingSegment env segmentId text none
  | .automatic => startFinalizedTurn env segmentId text

/-- The segment of what the finalizer released. -/
def takeActiveSegment : Voice Nat := do
  let loop ← read
  update fun loop => { loop with activeSegmentId := none }
  match loop.activeSegmentId with
  | some segmentId => pure segmentId
  | none => do
    note (.faulted .transcriptWithoutSegment)
    failWith "finalized voice transcript has no segment identifier"

def startReadyTurn : Voice Unit := do
  update fun loop => { loop with finalizationDue := false }
  let now ← nowMs env
  let loop ← read
  match (loop.finalizer.finalizeReady now).1 with
  | none => pure ()
  | some finalized => do
    update fun loop => { loop with finalizer := (loop.finalizer.finalizeReady now).2 }
    let segmentId ← takeActiveSegment
    match env.cleanFinal finalized.text with
    | none => pure ()
    | some text => admitTranscript env segmentId text

/-- Start the response that has waited longest, if none is being spoken. -/
def startQueuedAutomaticResponse : Voice Unit := do
  let loop ← read
  match loop.automaticResponses with
  | [] => pure ()
  | (segmentId, text) :: rest =>
    if loop.IsIdle then do
      update fun loop => { loop with automaticResponses := rest }
      match ← caught (startSegmentResponse env segmentId text false) with
      | .ok _ => pure ()
      | .error error => do
        let _ ← publishReliable env false
          (.responseSkipped loop.sessionId segmentId "automatic_response_start_failed")
        fail (.failed error)
    else pure ()

/-- Queue the response to an utterance whose final text was published. -/
def queueAutomaticResponse (segmentId : Nat) (text : String) : Voice Unit := do
  let loop ← read
  if maxPendingSegments ≤ loop.automaticResponses.length then do
    let _ ← publishReliable env false
      (.responseSkipped loop.sessionId segmentId "automatic_response_queue_full")
    failWith "automatic response queue exceeded its bounded capacity"
  else do
    update fun loop => { loop with
      automaticResponses := loop.automaticResponses ++ [(segmentId, text)] }
    startQueuedAutomaticResponse env

/-- Publish an utterance the recogniser finalized, and see to its response. -/
def admitCleanUtterance (utterance : FinalizedUtterance) (text : String) : Voice Unit := do
  let loop ← read
  match loop.responseMode with
  | .externalGate =>
    registerPendingSegment env utterance.segmentId text utterance.captureEvidence
  | .automatic => do
    let isOpen ← publishReliable env false
      (.transcriptFinal loop.sessionId utterance.segmentId none text utterance.captureEvidence)
    require isOpen
      (.failed (runtimeError "voice session event stream closed during finalization"))
    let _ ← publishTiming env none .transcriptFinal
    queueAutomaticResponse env utterance.segmentId text

def admitFinalizedUtterance (utterance : FinalizedUtterance) : Voice Unit := do
  let loop ← read
  require (loop.lastFinalizedSegment < utterance.segmentId)
    (.failed (runtimeError "finalized utterance identity was repeated or out of order"))
  update fun loop => { loop with lastFinalizedSegment := utterance.segmentId }
  match env.cleanFinal utterance.text with
  | none => pure ()
  | some text => admitCleanUtterance env utterance text

/-! ## Playback -/

def setPlayback (lifecycle : PlaybackLifecycle) : Voice Unit :=
  update fun loop => { loop with playback := some lifecycle }

/-- Report where playback of a generation is, and keep it in step. -/
def reportPlayback (cancellable : Bool) (generationId : GenerationId) (state : PlaybackState)
    (lifecycle : PlaybackLifecycle) : Voice Bool := do
  let loop ← read
  let isOpen ← publishReliable env cancellable (.playback loop.sessionId generationId state)
  if isOpen then do
    setPlayback lifecycle
    pure true
  else pure false

def handleRenderedPlayback (receipt : PlaybackReceipt) : Voice Unit := do
  let loop ← read
  match loop.playback with
  | some (.awaitingAcceptance generationId pendingRendered) =>
    if generationId = receipt.generationId then
      setPlayback (.awaitingAcceptance generationId (some (pendingRendered.getD receipt)))
    else pure ()
  | some (.accepted generationId) =>
    if generationId = receipt.generationId then do
      let isOpen ← reportPlayback env false generationId .rendered (.rendered generationId)
      require isOpen (.exit .consumerDropped)
    else pure ()
  | _ => pure ()

/-- The generation whose playback is not settled yet. -/
def unsettledGeneration (loop : VoiceLoop) : Option GenerationId :=
  match loop.playback with
  | some (.awaitingAcceptance generationId _) | some (.accepted generationId) => some generationId
  | _ => none

def handleFlushedPlayback (receipt : PlaybackReceipt) : Voice Unit := do
  let loop ← read
  if loop.unsettledGeneration = some receipt.generationId then do
    let isOpen ← reportPlayback env false receipt.generationId .flushed
      (.flushed receipt.generationId)
    require isOpen (.exit .consumerDropped)
  else pure ()

/-- Report the rendering that had arrived before its acceptance. -/
def reportParked (cancellable : Bool) (generationId : GenerationId) :
    Option PlaybackReceipt → Voice Bool
  | some _ => reportPlayback env cancellable generationId .rendered (.rendered generationId)
  | none => pure true

def acceptPlayback (cancellable : Bool) (generationId accepted : GenerationId) : Voice Bool := do
  let loop ← read
  match loop.playback with
  | some (.awaitingAcceptance active pendingRendered) =>
    if accepted = generationId ∧ active = generationId then do
      let isOpen ← reportPlayback env cancellable generationId .accepted (.accepted generationId)
      if isOpen then reportParked env cancellable generationId pendingRendered else pure false
    else pure true
  | _ => pure true

def publishTurnEvent (cancellable : Bool) (generationId : GenerationId) (event : RuntimeEvent) :
    Voice Bool := do
  let loop ← read
  match event with
  | .playback _ accepted .accepted => acceptPlayback env cancellable generationId accepted
  | _ =>
    if event.isReliable then
      publishReliable env cancellable (.turn loop.sessionId generationId event)
    else publishBestEffort env (.turn loop.sessionId generationId event)

def voiceMilestone : RuntimeTimingMilestone → VoiceTimingMilestone
  | .firstTextDelta => .firstTextDelta
  | .firstSynthesisRequest => .firstSynthesisRequest
  | .firstPlayableAudio => .firstPlayableAudio

def publishRuntimeTiming : RuntimeEvent → Voice Unit
  | .timing turnId milestone _ => do
    let _ ← publishTiming env (some turnId) (voiceMilestone milestone)
  | _ => pure ()

/-! ## Interrupting a response -/

/-- Let go of the turn's event stream. -/
def releaseTurn : Voice Unit := do
  let loop ← read
  update fun loop => { loop with turnEvents := none }
  match loop.turnEvents with
  | some identity => note (.reaped identity)
  | none => pure ()

def setListening : Voice Unit := update fun loop => { loop with state := .listening }

def clearPartials : Voice Unit := onWire (Wire.make .clearPartials)

/-- What an interrupted turn reports besides acceptance is passed on. -/
def publishDrained (generationId : GenerationId) (event : RuntimeEvent) : Voice Bool :=
  if event.isAcceptance then pure true else publishTurnEvent env true generationId event

/-- An interrupted turn has reported its end. -/
def endDrain (identity : TurnIdentity) (event : RuntimeEvent) (deliveryOpen : Bool) :
    Voice Unit := do
  releaseTurn
  require (event = .turnCancelled identity.turnId)
    (.failed
      (runtimeError s!"interrupted turn {identity.turnId} ended without its matching cancellation"))
  require deliveryOpen
    (.failed (runtimeError "voice session event stream closed during turn cancellation"))

/-- Read the rest of an interrupted turn. `ends` says whether the stream ends after
`events`, rather than stays silent until the timeout. -/
def drainEvents (identity : TurnIdentity) (ends : Bool) : List RuntimeEvent → Bool → Voice Unit
  | [], _ =>
    if ends then do
      releaseTurn
      failWith "interrupted turn ended without a terminal event"
    else fail .dropped
  | event :: rest, deliveryOpen => do
    onlyIf event.isTerminal clearPartials
    publishRuntimeTiming env event
    let published ← publishDrained env identity.generationId event
    if event.isTerminal then endDrain identity event (deliveryOpen && published)
    else drainEvents identity ends rest (deliveryOpen && published)

def drainInterruptedTurn (identity : TurnIdentity) : Voice Unit := do
  let loop ← read
  require loop.turnEvents.isSome
    (.failed (runtimeError "interrupted turn ended without an event stream"))
  let answer ← onWire (Wire.answers env)
  drainEvents env identity answer.drained.2 answer.drained.1 true

/-- The result of a call under the cleanup timeout. -/
def orTimeout (operation : String) : Option (Except RuntimeError Unit) → Voice Unit
  | some result => lift (result.mapError .failed)
  | none => fail (.failed (cleanupTimeoutError operation))

def abortInterruptedTurn : Voice Unit := do
  let loop ← read
  require loop.turnEvents.isSome
    (.failed (runtimeError "interrupted turn ended without an abortable task"))
  let answer ← onWire (Wire.answers env)
  releaseTurn
  orTimeout "streaming turn abort and reap" answer.aborted

/-- Why playback could not be flushed. -/
def flushError : Option (Except RuntimeError Unit) → Option RuntimeError
  | some (.ok ()) => none
  | some (.error error) => some error
  | none => some ⟨.adapter, .continuousAudioOutput, "playback flush was not acknowledged in time"⟩

/-- End an interruption whose playback flush failed. -/
def endUnflushed (error : RuntimeError) : Option (Except RuntimeError Unit) → Voice Unit
  | none => do
    abortInterruptedTurn env
    fail (.failed (cleanupTimeoutError "streaming turn drain"))
  | some (.error drainError) => fail (.failed drainError)
  | some (.ok ()) => fail (.failed error)

/-- End an interruption whose playback was flushed. -/
def endFlushed : Option (Except RuntimeError Unit) → Voice Unit
  | none => do
    let aborted ← caught (abortInterruptedTurn env)
    setListening
    lift (aborted.mapError .failed)
    fail (.failed (cleanupTimeoutError "streaming turn drain"))
  | some result => do
    setListening
    lift (result.mapError .failed)

/-- Stop the turn being spoken, after its playback was told to stop. -/
def stopTurn (identity : TurnIdentity) : Option RuntimeError → Voice Unit
  | some error => do
    let drained ← cleanupWithTimeout (drainInterruptedTurn env identity)
    setListening
    endUnflushed env error drained
  | none => do
    let isOpen ← publishTiming env (some identity.turnId) .playbackFlushAcknowledged
    require isOpen (.failed
      (runtimeError "voice session event stream closed during playback flush timing"))
    let drained ← cleanupWithTimeout (drainInterruptedTurn env identity)
    endFlushed env drained

def interruptCurrentTurn : Voice Unit := do
  let loop ← read
  match loop.state with
  | .responding identity => do
    update fun loop => { loop with playback := none }
    note (.interrupted identity)
    let answer ← onWire (Wire.answers env)
    stopTurn env identity (flushError answer.interrupted)
  | _ => pure ()

/-- Abort the turn if the failed interruption left it behind. -/
def abortLeftover : Voice Unit := do
  let loop ← read
  if loop.turnEvents.isSome then do
    let _ ← caught (abortInterruptedTurn env)
    pure ()
  else pure ()

/-- A failed interruption costs the response, not the session. -/
def recoverInterruption (error : RuntimeError) : Voice Unit := do
  abortLeftover env
  update fun loop => { loop with state := .listening, playback := none }
  let loop ← read
  require (loop.wire.outbox.isClosed = false) (.exit .consumerDropped)
  publishOrLeave env (.sessionFailed loop.sessionId error .continueSession)

def interruptOrStopSpeaking : Voice Unit := do
  let loop ← read
  match loop.state with
  | .responding _ => do
    match ← caught (interruptCurrentTurn env) with
    | .ok () => pure ()
    | .error error => recoverInterruption env error
  | _ => pure ()

def handleBargeIn (identity : TurnIdentity) : Voice Unit := do
  let loop ← read
  if loop.state = .responding identity then do
    publishOrLeave env (.bargeIn loop.sessionId identity.turnId identity.generationId)
    interruptOrStopSpeaking env
  else pure ()

def cleanupActiveTurn : Voice Unit := interruptCurrentTurn env

/-! ## Input -/

def armAfter (delayMs : Nat) : Voice Unit := do
  let now ← nowMs env
  update fun loop => { loop with deadline := some (now + delayMs) }

/-- Nothing waits to be finalized any more. -/
def disarm : Voice Unit :=
  update fun loop => { loop with deadline := none, finalizationDue := false }

/-- An engine-final text while listening only waits for the rest of the silence. -/
def armForFinal (now : Nat) : Voice Unit := do
  let loop ← read
  match loop.state, loop.finalizer.remainingSilenceMs now with
  | .listening, some remainingMs =>
    armAfter env (if remainingMs = 0 then lateRecognitionSettleMs else remainingMs)
  | _, _ => pure ()

def handleHypothesis (hypothesis : RecognitionHypothesis) : Voice Unit := do
  let now ← nowMs env
  let loop ← read
  if (loop.finalizer.observeHypothesis hypothesis).1 then do
    update fun loop => { loop with
      finalizer := (loop.finalizer.observeHypothesis hypothesis).2
      activeSegmentId := some hypothesis.segmentId }
    if hypothesis.engineFinal then armForFinal env now
    else do
      let isOpen ← onWire (Wire.publishPartial env hypothesis.segmentId hypothesis.text)
      require isOpen (.exit .consumerDropped)
  else pure ()

/-- The activity with the loop's own time. -/
def stampActivity (now : Nat) : VoiceActivity → VoiceActivity
  | .speechStarted _ => .speechStarted now
  | .speechContinued _ => .speechContinued now
  | .speechEnded _ => .speechEnded now
  | activity => activity

def activeTurnId : VoiceLoopState → Option TurnId
  | .responding identity => some identity.turnId
  | _ => none

/-- Speech over a response interrupts it. -/
def handleSpeech : Voice Unit := do
  disarm
  let loop ← read
  match loop.state with
  | .responding identity => handleBargeIn env identity
  | _ => pure ()

def handleSpeechEnd : Voice Unit := do
  let loop ← read
  armAfter env loop.finalSilenceMs
  let isOpen ← publishTiming env (activeTurnId loop.state) .speechEnd
  require isOpen (.exit .consumerDropped)

def handleActivity (activity : VoiceActivity) : Voice Unit := do
  let now ← nowMs env
  let loop ← read
  update fun loop => { loop with
    finalizer := loop.finalizer.observeActivity (stampActivity now activity) }
  let isOpen ← publishBestEffort env (.voiceActivity loop.sessionId activity)
  require isOpen (.exit .consumerDropped)
  match activity with
  | .speechStarted _ | .speechContinued _ => handleSpeech env
  | .speechEnded _ => handleSpeechEnd env
  | .captureDiscontinuity _ => pure ()

def handleDiscontinuity : Voice Unit :=
  update fun loop => { loop with
    deadline := none
    finalizationDue := false
    activeSegmentId := none
    finalizer := loop.finalizer.observeDiscontinuity }

def voiceIoError (error : VoiceIoFailure) : RuntimeError :=
  ⟨.adapter, error.stage.getD .voiceSidecar, error.message⟩

/-- A failed recogniser costs the response and the utterance, not the session. -/
def handleRecognitionFailure (error : VoiceIoFailure) : Voice Unit := do
  interruptOrStopSpeaking env
  disarm
  update fun loop => { loop with
    finalizer := .new loop.finalSilenceMs
    activeSegmentId := none }
  let loop ← read
  publishOrLeave env (.sessionFailed loop.sessionId (voiceIoError error) .continueSession)

def observeAudio : Voice Unit := do
  let loop ← read
  if loop.firstAudioReceived then pure ()
  else do
    update fun loop => { loop with firstAudioReceived := true }
    let isOpen ← publishTiming env none .audioReceived
    require isOpen (.exit .consumerDropped)

def leaveFatally (error : RuntimeError) : Voice Unit := fail (.exit (.fatal error))

def handleRecognition : RecognitionEvent → Voice Unit
  | .finalizedUtterance utterance => asFatal (admitFinalizedUtterance env utterance)
  | .hypothesis hypothesis => handleHypothesis env hypothesis
  | .speechStarted | .speechEnded =>
    leaveFatally (adapterMessage .voiceSidecar "voice input event type is unsupported")

def handlePlayback (receipt : PlaybackReceipt) : Voice Unit :=
  match receipt.state with
  | .rendered => handleRenderedPlayback env receipt
  | .flushed => handleFlushedPlayback env receipt
  | .accepted =>
    leaveFatally (adapterMessage .voiceSidecar "voice input playback state is unsupported")

def handleInputEvent : VoiceInputEvent → Voice Unit
  | .deviceStatus inputLabel outputLabel => do
    let loop ← read
    publishOrLeave env (.deviceStatus loop.sessionId inputLabel outputLabel)
  | .activity activity => handleActivity env activity
  | .recognition event => handleRecognition env event
  | .playback receipt => handlePlayback env receipt
  | .captureDiscontinuity => handleDiscontinuity
  | .captureFrame => observeAudio env
  | .captureMetadata | .captureFinish => pure ()

def handleInput : Option (Except VoiceIoFailure VoiceInputEvent) → Voice Unit
  | some (.ok event) => handleInputEvent env event
  | some (.error error) =>
    if error.stage = some .speechRecognizer then handleRecognitionFailure env error
    else leaveFatally (voiceIoError error)
  | none =>
    leaveFatally (adapterMessage .voiceSidecar "voice input event stream ended unexpectedly")

/-! ## Deadline and turn events -/

def handleDeadline : Voice Unit := do
  update fun loop => { loop with deadline := none }
  let loop ← read
  match loop.state with
  | .listening => asFatal (startReadyTurn env)
  | .responding _ => update fun loop => { loop with finalizationDue := true }
  | .ending => pure ()

def finalizeIfDue : Voice Unit := do
  let loop ← read
  if loop.finalizationDue then asFatal (startReadyTurn env) else pure ()

/-- Report why a turn failed. -/
def reportFailure : Option RuntimeError → Voice Unit
  | some error => do
    let loop ← read
    publishOrLeave env (.sessionFailed loop.sessionId error .continueSession)
  | none => pure ()

def endTurn (event : RuntimeEvent) : Voice Unit := do
  releaseTurn
  clearPartials
  update fun loop => { loop with state := .listening, playback := none }
  reportFailure env event.failure
  finalizeIfDue env

/-- Pass on an event of the turn being spoken. -/
def passTurnEvent (identity : TurnIdentity) (event : RuntimeEvent) : Voice Unit := do
  publishRuntimeTiming env event
  let isOpen ← publishTurnEvent env false identity.generationId event
  require isOpen (.exit .consumerDropped)
  if event.isTerminal then endTurn env event else pure ()

def handleTurnEvent : Option RuntimeEvent → Voice Unit
  | none => do
    releaseTurn
    leaveFatally (runtimeError "streaming turn ended without a terminal event")
  | some event => do
    let loop ← read
    match loop.state with
    | .responding identity => passTurnEvent env identity event
    | _ => do
      note (.faulted .turnEventWithoutGeneration)
      leaveFatally (runtimeError "streaming turn event arrived without an active generation")

/-! ## Commands and capture control -/

inductive SessionCommand where
  | bargeIn (identity : TurnIdentity)
  | pauseCapture
  | resumeCapture
  | authorizeResponse (sessionId : SessionId) (segmentId : Nat)
  | skipResponse (sessionId : SessionId) (segmentId : Nat) (reason : String)
  | shutdown
deriving DecidableEq

def startCaptureOperation (kind : CaptureOperationKind) : Voice Unit :=
  update fun loop =>
    match loop.captureState, kind, loop.captureOperation with
    | .active, .pause, none =>
      { loop with captureState := .pausing, captureOperation := some .pause }
    | .paused, .resume, none =>
      { loop with captureState := .resuming, captureOperation := some .resume }
    | _, _, _ => loop

def captureDone : CaptureOperationKind → CaptureState
  | .pause => .paused
  | .resume => .active

def captureRestored : CaptureOperationKind → CaptureState
  | .pause => .active
  | .resume => .paused

def captureEvent (sessionId : SessionId) : CaptureOperationKind → VoiceSessionEvent
  | .pause => .capturePaused sessionId
  | .resume => .captureResumed sessionId

/-- The end of the capture operation under way; `succeeded` says how it ended. -/
def handleCaptureCompletion (succeeded : Bool) : Voice Unit := do
  let loop ← read
  match loop.captureOperation with
  | none => pure ()
  | some kind => do
    update fun loop => { loop with
      captureOperation := none
      captureState := if succeeded then captureDone kind else captureRestored kind }
    if succeeded then publishOrLeave env (captureEvent loop.sessionId kind) else pure ()

def handleCommand : Option SessionCommand → Voice Unit
  | some (.bargeIn identity) => handleBargeIn env identity
  | some .pauseCapture => startCaptureOperation .pause
  | some .resumeCapture => startCaptureOperation .resume
  | some (.authorizeResponse sessionId segmentId) => do
    let result ← caught (authorizeSegment env sessionId segmentId)
    note (.authorized segmentId result)
  | some (.skipResponse sessionId segmentId reason) => do
    let _ ← caught (skipSegment env sessionId segmentId reason)
    pure ()
  | some .shutdown | none => fail (.exit .shutdown)

/-! ## The loop -/

/-- What the capture recorder tells the loop besides the input it forwards. -/
inductive Notice where
  | failure (error : RuntimeError)
  | limit (limit : RecordingLimit) (state : RecordingLimitState)
  | health (mostlyZero : Bool) (longestGapMs : Nat)
deriving DecidableEq

def noticeEvent (sessionId : SessionId) : Notice → VoiceSessionEvent
  | .failure error => .sessionFailed sessionId error .continueSession
  | .limit limit state => .recordingLimit sessionId limit state
  | .health mostlyZero longestGapMs => .captureHealth sessionId mostlyZero longestGapMs

def reportRecorderNotice (notice : Notice) : Voice Unit := do
  let loop ← read
  publishOrLeave env (noticeEvent loop.sessionId notice)

inductive LoopSignal where
  | consumerDropped
  | command (command : Option SessionCommand)
  | capture (succeeded : Bool)
  | completion (failure : RuntimeError)
  | recorder (notice : Notice)
  | automaticResponse
  | input (input : Option (Except VoiceIoFailure VoiceInputEvent))
  | turn (event : Option RuntimeEvent)
  | deadline
  | delivery
deriving DecidableEq

/-- Producers are polled only while the queue of reliable events has room to spare. -/
def pollsProducers (loop : VoiceLoop) : Bool :=
  loop.wire.outbox.reliableEvents.length < maxPendingReliableEvents - reliableEventReserve

/-- A queued response can be started; this is then preferred to what comes later. -/
def startsQueued (loop : VoiceLoop) : Bool :=
  loop.pollsProducers && loop.IsIdle && !loop.automaticResponses.isEmpty

/-- Whether the loop, waiting for signals in this state, can be woken by one. -/
def offers (loop : VoiceLoop) : LoopSignal → Bool
  | .consumerDropped | .command _ => true
  | .capture _ => loop.captureOperation.isSome
  | .completion _ => loop.completion
  | .recorder _ => loop.pollsProducers && loop.captureRecorder
  | .automaticResponse => loop.startsQueued
  | .input _ => loop.pollsProducers && !loop.startsQueued
  | .turn _ => loop.pollsProducers && !loop.startsQueued && loop.turnEvents.isSome
  | .deadline => loop.pollsProducers && !loop.startsQueued &&
      loop.deadline.any (· ≤ loop.wire.clockMs)
  | .delivery => !loop.startsQueued && loop.wire.outbox.hasPendingDelivery

/-- The consumer let go of its stream, which closes the channel. -/
def consumerDropped : Voice Unit := do
  onWire (Wire.make (.attend ⟨0, true⟩))
  fail (.exit .consumerDropped)

def deliver : Voice Unit := do
  let isOpen ← onWire (Wire.deliverPendingEvent env)
  require isOpen (.exit .consumerDropped)

def handle : LoopSignal → Voice Unit
  | .consumerDropped => consumerDropped
  | .command command => handleCommand env command
  | .capture succeeded => handleCaptureCompletion env succeeded
  | .completion failure => do
    update fun loop => { loop with completion := false }
    leaveFatally failure
  | .recorder notice => reportRecorderNotice env notice
  | .automaticResponse => asFatal (startQueuedAutomaticResponse env)
  | .input input => handleInput env input
  | .turn event => handleTurnEvent env event
  | .deadline => handleDeadline env
  | .delivery => deliver env

/-- Up to the point where the loop waits for a signal. A closed channel wakes it
before anything else. -/
def awaitSignal : Voice Unit := do
  let isOpen ← onWire (Wire.flushPendingEvents env)
  require isOpen (.exit .consumerDropped)
  onWire (Wire.attend env)
  let _ ← nowMs env
  let loop ← read
  require (loop.wire.outbox.isClosed = false) (.exit .consumerDropped)

/-- One turn of `run_until_exit`. -/
def runTurn (signal : LoopSignal) : Voice Unit := do
  awaitSignal env
  let loop ← read
  if loop.offers signal then handle env signal else pure ()

/-! ## Recording on after a failure, and the end -/

def offersRecording (loop : VoiceLoop) : LoopSignal → Bool
  | .consumerDropped | .command _ | .input _ => true
  | .capture _ => loop.captureOperation.isSome
  | .completion _ => loop.completion
  | .recorder _ => loop.captureRecorder
  | .delivery => loop.wire.outbox.hasPendingDelivery
  | .automaticResponse | .turn _ | .deadline => false

/-- Responses are refused while only the recording goes on. -/
def handleRecording (error : RuntimeError) : LoopSignal → Voice Unit
  | .consumerDropped => consumerDropped
  | .command (some (.bargeIn _)) | .command (some (.authorizeResponse _ _))
  | .command (some (.skipResponse _ _ _)) => pure ()
  | .command command => handleCommand env command
  | .capture succeeded => handleCaptureCompletion env succeeded
  | .completion _ => do
    update fun loop => { loop with completion := false }
    leaveFatally error
  | .input none => leaveFatally error
  | .input (some _) => pure ()
  | .recorder notice => reportRecorderNotice env notice
  | .delivery => deliver env
  | .automaticResponse | .turn _ | .deadline => pure ()

/-- One turn of the loop of `record_until_stopped`. -/
def recordTurn (error : RuntimeError) (signal : LoopSignal) : Voice Unit := do
  awaitSignal env
  let loop ← read
  if loop.offersRecording signal then handleRecording env error signal else pure ()

def sessionFailure (sessionId : SessionId) (error : RuntimeError) : VoiceSessionEvent :=
  .sessionFailed sessionId error .newSession

/-- The event a session ends with, given what went wrong in cleaning up. -/
def terminalEvent (sessionId : SessionId) (deferred cleanupError : Option RuntimeError) :
    LoopExit → VoiceSessionEvent
  | .shutdown =>
    match cleanupError.or deferred with
    | some error => sessionFailure sessionId error
    | none => .sessionEnded sessionId
  | .consumerDropped =>
    match cleanupError with
    | some error => sessionFailure sessionId error
    | none => .sessionEnded sessionId
  | .fatal error => sessionFailure sessionId (cleanupError.getD error)

def errorOf {α : Type} : Except RuntimeError α → Option RuntimeError
  | .ok _ => none
  | .error error => some error

def cleanupCaptureOperation : Voice (Option RuntimeError) := do
  let loop ← read
  let answer ← onWire (Wire.answers env)
  match loop.captureOperation with
  | none => pure none
  | some kind => do
    update fun loop => { loop with
      captureOperation := none
      captureState := captureRestored kind }
    pure (if answer.cleaned then none else some (cleanupTimeoutError "voice capture control"))

def awaitCompletionCleanup : Voice (Option RuntimeError) := do
  let loop ← read
  let answer ← onWire (Wire.answers env)
  update fun loop => { loop with completion := false, captureRecorder := false }
  pure (if loop.completion && !answer.cleaned then
    some (cleanupTimeoutError "voice sidecar completion") else none)

/-- The error of responses nobody will start. -/
def unadmitted (loop : VoiceLoop) : Option RuntimeError :=
  if loop.automaticResponses.isEmpty then none
  else some (runtimeError "voice session ended with unadmitted automatic responses")

/-- The end of `run`. -/
def conclude (exit : LoopExit) (deferred : Option RuntimeError) : Voice Unit := do
  let captureError ← cleanupCaptureOperation env
  let loop ← read
  let turnResult ← caught (cleanupActiveTurn env)
  update fun loop => { loop with state := .ending }
  let completionError ← awaitCompletionCleanup env
  let cleanupError := ((captureError.or loop.unadmitted).or (errorOf turnResult)).or completionError
  update fun reached => { reached with
    course := .ended (terminalEvent loop.sessionId deferred cleanupError exit) }

def recordsAfterFailure : Voice Bool := do
  let answer ← onWire (Wire.answers env)
  let loop ← read
  pure (loop.completion && loop.captureRecorder && answer.mediaAlive)

def voiceLoopStopped : RuntimeError :=
  ⟨.invalidState, .voiceSidecar,
    "voice loop stopped; transcripts and responses ended, recording continues until stop"⟩

/-- Stop speaking and keep the session up for its recording. -/
def recordUntilStopped (error : RuntimeError) : Voice Unit := do
  let _ ← caught (cleanupActiveTurn env)
  update fun loop => { loop with
    automaticResponses := []
    turnEvents := none
    state := .listening }
  let loop ← read
  let isOpen ← publishReliable env false
    (.sessionFailed loop.sessionId voiceLoopStopped .continueSession)
  if isOpen then update fun loop => { loop with course := .recording error }
  else conclude env .consumerDropped (some error)

/-- What `run` does once its first loop is over. -/
def leave : LoopExit → Voice Unit
  | .fatal error => do
    let records ← recordsAfterFailure env
    if records then recordUntilStopped env error else conclude env (.fatal error) none
  | exit => conclude env exit none

def Stop.asExit : Stop → LoopExit
  | .exit exit => exit
  | .failed error => .fatal error
  | .dropped => .consumerDropped

/-- One more signal in the life of a session. -/
def step (loop : VoiceLoop) (signal : LoopSignal) : VoiceLoop :=
  match loop.course with
  | .ended _ => loop
  | .running =>
    match runTurn env signal loop with
    | (.ok (), reached) => reached
    | (.error stop, reached) => (leave env (Stop.asExit stop) reached).2
  | .recording error =>
    match recordTurn env error signal loop with
    | (.ok (), reached) => reached
    | (.error stop, reached) => (conclude env (Stop.asExit stop) (some error) reached).2

/-- The session after a sequence of signals. -/
def run (loop : VoiceLoop) (signals : List LoopSignal) : VoiceLoop := signals.foldl (step env) loop

/-! ## A session to try runs on -/

/-- A session in which everything works and every look at the clock takes ten
milliseconds. -/
def unhurried : VoiceEnvironment where
  answers _ := { Answers.calm with elapsedMs := 10 }
  cleanFinal := some

/-- One whole utterance, with its engine-final text before its end. -/
def utter (segmentId : Nat) (text : String) : List LoopSignal :=
  [.input (some (.ok (.activity (.speechStarted 0)))),
    .input (some (.ok (.recognition (.hypothesis ⟨segmentId, text, true⟩)))),
    .input (some (.ok (.activity (.speechEnded 0))))]

end VoiceLoop

end ConversationRuntime
