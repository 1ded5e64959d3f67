import ConversationRuntime.Protocol.Error

/-! # Events of a voice session

What a turn reports while it runs, what the voice loop hears, and what it tells
its client.
-/

namespace ConversationRuntime

abbrev TurnId := Nat

abbrev GenerationId := Nat

/-- The identity of one turn. -/
structure TurnIdentity where
  turnId : TurnId
  generationId : GenerationId
deriving DecidableEq

/-! ## Turn events -/

inductive RuntimeTimingMilestone where
  | firstTextDelta
  | firstSynthesisRequest
  | firstPlayableAudio
deriving DecidableEq

inductive PlaybackState where
  | accepted
  | rendered
  | flushed
deriving DecidableEq

inductive RuntimeEvent where
  | turnStarted (turnId : TurnId)
  | transcriptFinal (turnId : TurnId) (text : String)
  | textDelta (turnId : TurnId) (delta : String)
  | textCompleted (turnId : TurnId) (text : String)
  | timing (turnId : TurnId) (milestone : RuntimeTimingMilestone) (elapsedMs : Nat)
  | speechStarted (turnId : TurnId)
  | speechCompleted (turnId : TurnId)
  | playback (turnId : TurnId) (generationId : GenerationId) (state : PlaybackState)
  | qualityResolved (turnId : TurnId)
  | memoryRetrieved (turnId : TurnId)
  | turnCompleted (turnId : TurnId)
  | turnCancelled (turnId : TurnId)
  | turnFailed (turnId : TurnId) (error : RuntimeError)
deriving DecidableEq

namespace RuntimeEvent

def isTerminal : RuntimeEvent → Bool
  | turnCompleted _ | turnCancelled _ | turnFailed _ _ => true
  | _ => false

def isCompletion : RuntimeEvent → Bool
  | turnCompleted _ => true
  | _ => false

/-- The error a turn failed with. -/
def failure : RuntimeEvent → Option RuntimeError
  | turnFailed _ error => some error
  | _ => none

/-- Whether the event says that playback accepted its audio. -/
def isAcceptance : RuntimeEvent → Bool
  | playback _ _ .accepted => true
  | _ => false

/-- Whether the voice loop must not lose the event. -/
def isReliable : RuntimeEvent → Bool
  | transcriptFinal _ _ | textCompleted _ _ => true
  | event => event.isTerminal

end RuntimeEvent

/-! ## What the loop hears -/

inductive VoiceActivity where
  | speechStarted (atMs : Nat)
  | speechContinued (atMs : Nat)
  | speechEnded (atMs : Nat)
  | captureDiscontinuity (atMs : Nat)
deriving DecidableEq

structure RecognitionHypothesis where
  segmentId : Nat
  text : String
  engineFinal : Bool
deriving DecidableEq

structure SourceSampleRange where
  clockDomainId : String
  captureEpoch : Nat
  firstFrameSequence : Nat
  lastFrameSequence : Nat
  sourceStartSample : Nat
  sourceEndSample : Nat
  sampleRateHz : Nat
deriving DecidableEq

structure WholeFrameNominalEnvelope where
  hostStartNs : Nat
  hostEndNs : Nat
  firstFrameHostEndNs : Nat
  captureUncertaintyNs : Option Nat
  knownRoundingAllowanceNs : Nat
deriving DecidableEq

inductive CaptureUnavailableReason where
  | providerOffsetsUnavailable
  | providerOffsetsOutOfRange
  | captureBoundaryEvicted
  | captureTimingMissing
  | captureTimingInconsistent
  | captureEpochChanged
  | captureNotContiguous
  | captureEvidenceLimit
deriving DecidableEq

structure UtteranceCaptureEvidence where
  capture : Option SourceSampleRange
  liveCoverage : Option WholeFrameNominalEnvelope
  captureUnavailableReason : Option CaptureUnavailableReason
deriving DecidableEq

structure FinalizedUtterance where
  segmentId : Nat
  text : String
  captureEvidence : Option UtteranceCaptureEvidence
deriving DecidableEq

inductive RecognitionEvent where
  | hypothesis (hypothesis : RecognitionHypothesis)
  | finalizedUtterance (utterance : FinalizedUtterance)
  | speechStarted
  | speechEnded
deriving DecidableEq

structure PlaybackReceipt where
  generationId : GenerationId
  state : PlaybackState
deriving DecidableEq

/-- An input event of a voice session. A capture event carries no samples here:
the loop only notes that audio arrived. -/
inductive VoiceInputEvent where
  | deviceStatus (inputLabel outputLabel : String)
  | activity (activity : VoiceActivity)
  | captureFrame
  | captureDiscontinuity
  | captureMetadata
  | captureFinish
  | recognition (event : RecognitionEvent)
  | playback (receipt : PlaybackReceipt)
deriving DecidableEq

/-- The failure of an adapter of the voice session, with the stage it names. -/
structure VoiceIoFailure where
  stage : Option RuntimeStage
  message : String
deriving DecidableEq

/-! ## What the loop tells its client -/

inductive VoiceTimingMilestone where
  | audioReceived
  | speechEnd
  | transcriptFinal
  | responseAuthorized
  | firstTextDelta
  | firstSynthesisRequest
  | firstPlayableAudio
  | firstSidecarAccept
  | playbackRenderAcknowledged
  | bargeInOnset
  | bargeInThreshold
  | playbackFlushAcknowledged
  | cleanup
deriving DecidableEq

inductive RecoveryDisposition where
  | continueSession
  | newSession
deriving DecidableEq

inductive VoiceSessionEvent where
  | sessionStarted (sessionId : SessionId)
  | deviceStatus (sessionId : SessionId) (inputLabel outputLabel : String)
  | capturePaused (sessionId : SessionId)
  | captureResumed (sessionId : SessionId)
  | voiceActivity (sessionId : SessionId) (activity : VoiceActivity)
  | transcriptPartial (sessionId : SessionId) (segmentId : Nat) (text : String)
  | transcriptFinal (sessionId : SessionId) (segmentId : Nat) (turnId : Option TurnId)
      (text : String) (captureEvidence : Option UtteranceCaptureEvidence)
  | responseAuthorized (sessionId : SessionId) (segmentId : Nat) (turnId : TurnId)
  | responseSkipped (sessionId : SessionId) (segmentId : Nat) (reason : String)
  | bargeIn (sessionId : SessionId) (turnId : TurnId) (generationId : GenerationId)
  | turn (sessionId : SessionId) (generationId : GenerationId) (event : RuntimeEvent)
  | timing (sessionId : SessionId) (turnId : Option TurnId) (milestone : VoiceTimingMilestone)
      (elapsedMs : Nat)
  | playback (sessionId : SessionId) (generationId : GenerationId) (state : PlaybackState)
  | sessionFailed (sessionId : SessionId) (error : RuntimeError) (recovery : RecoveryDisposition)
  | sessionEnded (sessionId : SessionId)
  | recordingLimit (sessionId : SessionId) (limit : RecordingLimit) (state : RecordingLimitState)
  | captureHealth (sessionId : SessionId) (mostlyZero : Bool) (longestGapMs : Nat)
deriving DecidableEq

namespace VoiceSessionEvent

/-- The segment whose final text the event brings. -/
def finalSegment : VoiceSessionEvent → Option Nat
  | transcriptFinal _ segmentId _ _ _ => some segmentId
  | _ => none

/-- The segment of which the event brings a text not yet final. -/
def partialSegment : VoiceSessionEvent → Option Nat
  | transcriptPartial _ segmentId _ => some segmentId
  | _ => none

end VoiceSessionEvent

/-- The error of a component of the runtime used out of order. -/
def runtimeError (message : String) : RuntimeError := ⟨.invalidState, .runtime, message⟩

def adapterMessage (stage : RuntimeStage) (message : String) : RuntimeError :=
  ⟨.adapter, stage, message⟩

end ConversationRuntime
