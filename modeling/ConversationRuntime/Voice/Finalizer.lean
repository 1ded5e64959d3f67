import ConversationRuntime.Foundation.Checked
import ConversationRuntime.Foundation.Text
import ConversationRuntime.Voice.Events

/-! # Turn finalization

A finalizer gathers what a recogniser says about one utterance and releases it
once the speaker has been silent for long enough after an engine-final text.
-/

namespace ConversationRuntime

open Foundation

structure FinalizedTranscript where
  segmentId : Nat
  text : String
deriving DecidableEq

structure TurnFinalizer where
  finalSilenceMs : Nat
  segmentId : Option Nat
  committed : List String
  displayCandidate : Option String
  engineFinalCandidate : Option String
  speechEndedAtMs : Option Nat
  finalized : Bool
deriving DecidableEq

namespace TurnFinalizer

/-- A finalizer that has heard nothing. Its silence is checked to be non-zero
where the session's policy is made. -/
def new (finalSilenceMs : Nat) : TurnFinalizer where
  finalSilenceMs := finalSilenceMs
  segmentId := none
  committed := []
  displayCandidate := none
  engineFinalCandidate := none
  speechEndedAtMs := none
  finalized := false

/-- Move to the segment of a hypothesis; what the engine finished before is kept. -/
def enterSegment (segmentId : Nat) (finalizer : TurnFinalizer) : TurnFinalizer :=
  if finalizer.segmentId = some segmentId then finalizer
  else { finalizer with
    segmentId := some segmentId
    committed := finalizer.committed ++ finalizer.engineFinalCandidate.toList
    engineFinalCandidate := none }

/-- Take in a hypothesis; the answer says whether it was accepted. -/
def observeHypothesis (value : RecognitionHypothesis) (finalizer : TurnFinalizer) :
    Bool × TurnFinalizer :=
  if finalizer.finalized || isBlank value.text then (false, finalizer)
  else
    let entered := finalizer.enterSegment value.segmentId
    (true, { entered with
      displayCandidate := some value.text
      engineFinalCandidate :=
        if value.engineFinal then some value.text else entered.engineFinalCandidate })

/-- Forget the utterance, but not when the speech ended. -/
def restart (finalizer : TurnFinalizer) : TurnFinalizer :=
  { finalizer with
    segmentId := none
    committed := []
    displayCandidate := none
    engineFinalCandidate := none
    finalized := false }

/-- When the silence after the speech is long enough. -/
def readyAtMs (finalizer : TurnFinalizer) (endedAtMs : Nat) : Nat :=
  saturatingAdd endedAtMs finalizer.finalSilenceMs

def observeActivity (value : VoiceActivity) (finalizer : TurnFinalizer) : TurnFinalizer :=
  match value with
  | .speechStarted atMs =>
    let previousUtteranceExpired := finalizer.speechEndedAtMs.any
      fun endedAtMs => finalizer.readyAtMs endedAtMs ≤ atMs
    let kept := if finalizer.finalized || previousUtteranceExpired then finalizer.restart
      else finalizer
    { kept with speechEndedAtMs := none }
  | .speechContinued _ => { finalizer with speechEndedAtMs := none }
  | .speechEnded atMs => { finalizer with speechEndedAtMs := some atMs }
  | .captureDiscontinuity _ => finalizer

def observeDiscontinuity (finalizer : TurnFinalizer) : TurnFinalizer :=
  { finalizer.restart with speechEndedAtMs := none }

def remainingSilenceMs (nowMs : Nat) (finalizer : TurnFinalizer) : Option Nat :=
  if finalizer.finalized then none
  else finalizer.speechEndedAtMs.map fun endedAtMs => finalizer.readyAtMs endedAtMs - nowMs

/-- The text of the utterance, if its engine-final part is there. -/
def gathered (finalizer : TurnFinalizer) : Option String :=
  finalizer.engineFinalCandidate.map fun candidate => String.join finalizer.committed ++ candidate

/-- Release the utterance if it is complete and the silence has been long enough. -/
def finalizeReady (nowMs : Nat) (finalizer : TurnFinalizer) :
    Option FinalizedTranscript × TurnFinalizer :=
  match finalizer.segmentId, finalizer.speechEndedAtMs, finalizer.gathered with
  | some segmentId, some endedAtMs, some text =>
    if finalizer.finalized || nowMs < finalizer.readyAtMs endedAtMs || isBlank text then
      (none, finalizer)
    else (some ⟨segmentId, text⟩, { finalizer with finalized := true })
  | _, _, _ => (none, finalizer)

/-- Hearing speech again: the end of the speech is taken back, and nothing is added to
what the engine finished. -/
structure Resumes (before after : TurnFinalizer) : Prop where
  ended : after.speechEndedAtMs = none
  silence : after.finalSilenceMs = before.finalSilenceMs
  candidate : ∀ text, after.engineFinalCandidate = some text →
    before.engineFinalCandidate = some text
  segment : after.segmentId.isSome → after.finalized = false →
    before.segmentId.isSome ∧ before.finalized = false

variable (finalizer : TurnFinalizer)

theorem resumes_of_started (atMs : Nat) :
    Resumes finalizer (finalizer.observeActivity (.speechStarted atMs)) := by
  simp only [observeActivity]
  split
  next => exact ⟨rfl, rfl, nofun, nofun⟩
  next => exact ⟨rfl, rfl, fun _ h => h, fun hsome hfinalized => ⟨hsome, hfinalized⟩⟩

theorem resumes_of_continued (atMs : Nat) :
    Resumes finalizer (finalizer.observeActivity (.speechContinued atMs)) :=
  ⟨rfl, rfl, fun _ h => h, fun hsome hfinalized => ⟨hsome, hfinalized⟩⟩

/-- A hypothesis that is taken in changes neither when the speech ended nor how long
the silence has to be. -/
theorem observeHypothesis_timing (value : RecognitionHypothesis) :
    (finalizer.observeHypothesis value).2.speechEndedAtMs = finalizer.speechEndedAtMs ∧
      (finalizer.observeHypothesis value).2.finalSilenceMs = finalizer.finalSilenceMs ∧
      (finalizer.observeHypothesis value).2.finalized = finalizer.finalized := by
  simp only [observeHypothesis, enterSegment]
  split
  next => exact ⟨rfl, rfl, rfl⟩
  next => split <;> exact ⟨rfl, rfl, rfl⟩

/-- Asking the finalizer changes nothing, or releases the utterance. -/
theorem finalizeReady_cases (now : Nat) :
    ((finalizer.finalizeReady now).1 = none ∧ (finalizer.finalizeReady now).2 = finalizer) ∨
      (finalizer.finalizeReady now).2 = { finalizer with finalized := true } := by
  unfold finalizeReady
  split
  next =>
    split
    next => exact .inl ⟨rfl, rfl⟩
    next => exact .inr rfl
  next => exact .inl ⟨rfl, rfl⟩

variable {finalizer}

theorem unfinalized_of_accepted {value : RecognitionHypothesis}
    (h : (finalizer.observeHypothesis value).1 = true) : finalizer.finalized = false := by
  cases hfinalized : finalizer.finalized with
  | false => rfl
  | true => simp [observeHypothesis, hfinalized] at h

/-- A finalizer that releases nothing does not change. -/
theorem finalizeReady_of_none {nowMs : Nat} (h : (finalizer.finalizeReady nowMs).1 = none) :
    (finalizer.finalizeReady nowMs).2 = finalizer := by
  unfold finalizeReady at h ⊢
  split
  · split
    · rfl
    next hready => simp_all
  · rfl

/-- What is released was gathered for a segment that was not finalized yet, and the
silence is over. -/
theorem finalizeReady_eq_some {nowMs : Nat} {released : FinalizedTranscript}
    (h : (finalizer.finalizeReady nowMs).1 = some released) :
    finalizer.finalized = false ∧ finalizer.segmentId = some released.segmentId ∧
      finalizer.gathered = some released.text ∧ ∃ endedAtMs,
        finalizer.speechEndedAtMs = some endedAtMs ∧ finalizer.readyAtMs endedAtMs ≤ nowMs := by
  unfold finalizeReady at h
  split at h
  next segmentId endedAtMs text hsegment hended htext =>
    split at h
    · cases h
    next hready =>
      cases h
      simp only [Bool.or_eq_true, not_or, Bool.not_eq_true, decide_eq_false_iff_not, not_lt]
        at hready
      exact ⟨hready.1.1, hsegment, htext, endedAtMs, hended, hready.1.2⟩
  · cases h

/-- The utterance only waits for time. -/
def IsWaiting (finalizer : TurnFinalizer) : Prop :=
  finalizer.segmentId.isSome ∧ finalizer.engineFinalCandidate.isSome ∧
    finalizer.speechEndedAtMs.isSome ∧ finalizer.finalized = false

instance (finalizer : TurnFinalizer) : Decidable finalizer.IsWaiting :=
  inferInstanceAs (Decidable (_ ∧ _))

end TurnFinalizer

end ConversationRuntime
