import ConversationRuntime.Foundation.Runs
import ConversationRuntime.Voice.Finalizer

/-! # What a finalizer releases

A finalizer is told of hypotheses, of speech and of gaps, and asked for the utterance.
Beside it stands what an observer of the same inputs takes down of the utterance; the
transcript that is released is the one that the observer would write.
-/

namespace ConversationRuntime

open Foundation TurnFinalizer List

inductive FinalizerInput where
  | hypothesis (value : RecognitionHypothesis)
  | activity (value : VoiceActivity)
  | discontinuity
  | finalize (nowMs : Nat)
deriving DecidableEq

/-- A finalizer, and the inputs since its utterance began. -/
structure ObservedFinalizer where
  finalizer : TurnFinalizer
  /-- The hypotheses that are not blank. -/
  heard : List RecognitionHypothesis
  /-- The last end of the speech, unless speech was heard since. -/
  endedAtMs : Option Nat
  released : Bool
deriving DecidableEq

/-- The segments in the order of their first appearance. -/
def segmentsOf (heard : List RecognitionHypothesis) : List Nat :=
  (heard.map (·.segmentId)).eraseDups

/-- The last engine-final text of a segment. -/
def lastFinal (heard : List RecognitionHypothesis) (segmentId : Nat) : Option String :=
  heard.foldl (fun last value =>
    if value.segmentId = segmentId ∧ value.engineFinal = true then some value.text else last) none

@[simp] theorem lastFinal_snoc (heard : List RecognitionHypothesis) (value : RecognitionHypothesis)
    (segmentId : Nat) : lastFinal (heard ++ [value]) segmentId =
      if value.segmentId = segmentId ∧ value.engineFinal = true then some value.text
      else lastFinal heard segmentId := by
  simp [lastFinal]

theorem segmentsOf_snoc (heard : List RecognitionHypothesis) (value : RecognitionHypothesis) :
    segmentsOf (heard ++ [value]) = segmentsOf heard ++
      if value.segmentId ∈ segmentsOf heard then [] else [value.segmentId] := by
  by_cases hknown : ∃ other ∈ heard, other.segmentId = value.segmentId
  · simp [segmentsOf, eraseDups_append, removeAll, hknown]
  · simp [segmentsOf, eraseDups_append, removeAll, hknown, eraseDups_cons]

variable {heard : List RecognitionHypothesis}

theorem lastFinal_of_not_mem {segmentId : Nat} (h : segmentId ∉ segmentsOf heard) :
    lastFinal heard segmentId = none := by
  induction heard using reverseRecOn with
  | nil => rfl
  | append_singleton heard value ih =>
    rw [segmentsOf_snoc, mem_append, not_or] at h
    have hother : value.segmentId ≠ segmentId := by
      rintro rfl
      by_cases hknown : value.segmentId ∈ segmentsOf heard
      · exact h.1 hknown
      · simp [hknown] at h
    rw [lastFinal_snoc, if_neg fun hboth => hother hboth.1, ih h.1]

/-- A hypothesis says nothing about other segments. -/
theorem filterMap_lastFinal_snoc {value : RecognitionHypothesis} {segments : List Nat}
    (h : value.segmentId ∉ segments) :
    segments.filterMap (lastFinal (heard ++ [value])) = segments.filterMap (lastFinal heard) := by
  apply filterMap_congr
  intro segmentId hsegment
  rw [lastFinal_snoc, if_neg]
  rintro ⟨rfl, -⟩
  exact h hsegment

def transcriptOf (heard : List RecognitionHypothesis) : String :=
  String.join ((segmentsOf heard).filterMap (lastFinal heard))

namespace ObservedFinalizer

def new (finalSilenceMs : Nat) : ObservedFinalizer := ⟨.new finalSilenceMs, [], none, false⟩

/-- Speech starts a new utterance if the last one was released or its silence is over. -/
def isOver (observed : ObservedFinalizer) (atMs : Nat) : Bool :=
  observed.released || observed.endedAtMs.any fun endedAtMs =>
    saturatingAdd endedAtMs observed.finalizer.finalSilenceMs ≤ atMs

def step (observed : ObservedFinalizer) : FinalizerInput → ObservedFinalizer
  | .hypothesis value =>
    { observed with
      finalizer := (observed.finalizer.observeHypothesis value).2
      heard := if isBlank value.text then observed.heard else observed.heard ++ [value] }
  | .activity value =>
    let finalizer := observed.finalizer.observeActivity value
    match value with
    | .speechStarted atMs =>
      if observed.isOver atMs then ⟨finalizer, [], none, false⟩
      else { observed with finalizer, endedAtMs := none }
    | .speechContinued _ => { observed with finalizer, endedAtMs := none }
    | .speechEnded atMs => { observed with finalizer, endedAtMs := some atMs }
    | .captureDiscontinuity _ => { observed with finalizer }
  | .discontinuity => ⟨observed.finalizer.observeDiscontinuity, [], none, false⟩
  | .finalize nowMs =>
    let ran := observed.finalizer.finalizeReady nowMs
    { observed with finalizer := ran.2, released := observed.released || ran.1.isSome }

/-- No segment comes back after another one replaced it. -/
def Orderly (observed : ObservedFinalizer) : FinalizerInput → Prop
  | .hypothesis value => isBlank value.text = false → value.segmentId ∈ segmentsOf observed.heard →
    observed.heard.getLast?.map (·.segmentId) = some value.segmentId
  | _ => True

/-- The finalizer has gathered what was heard of the utterance. -/
structure Gathers (finalizer : TurnFinalizer) (heard : List RecognitionHypothesis) : Prop where
  segment : finalizer.segmentId = heard.getLast?.map (·.segmentId)
  earlier : ∃ earlier, segmentsOf heard = earlier ++ finalizer.segmentId.toList ∧
    (∀ segmentId ∈ finalizer.segmentId, segmentId ∉ earlier) ∧
    finalizer.committed = earlier.filterMap (lastFinal heard)
  candidate : finalizer.engineFinalCandidate = finalizer.segmentId.bind (lastFinal heard)

structure Agrees (finalSilenceMs : Nat) (observed : ObservedFinalizer) : Prop where
  silence : observed.finalizer.finalSilenceMs = finalSilenceMs
  ended : observed.finalizer.speechEndedAtMs = observed.endedAtMs
  finalized : observed.finalizer.finalized = observed.released
  gathers : observed.released = false → Gathers observed.finalizer observed.heard

theorem Gathers.hypothesis {finalizer : TurnFinalizer} {heard : List RecognitionHypothesis}
    (h : Gathers finalizer heard) {value : RecognitionHypothesis}
    (hopen : finalizer.finalized = false) (hspoken : isBlank value.text = false)
    (horderly : value.segmentId ∈ segmentsOf heard →
      heard.getLast?.map (·.segmentId) = some value.segmentId) :
    Gathers (finalizer.observeHypothesis value).2 (heard ++ [value]) := by
  obtain ⟨earlier, hsegments, hapart, hcommitted⟩ := h.earlier
  rw [← h.segment] at horderly
  simp only [observeHypothesis, hopen, hspoken, Bool.or_self, Bool.false_eq_true,
    if_false, enterSegment]
  by_cases hsame : finalizer.segmentId = some value.segmentId
  · -- another hypothesis about the segment replaces its text
    have hknown : value.segmentId ∈ segmentsOf heard := by simp [hsegments, hsame]
    rw [if_pos hsame]
    refine ⟨by simp [hsame], ⟨earlier, ?_, hapart, ?_⟩, ?_⟩
    · rw [segmentsOf_snoc, if_pos hknown, append_nil, hsegments]
    · rw [filterMap_lastFinal_snoc (hapart _ hsame), hcommitted]
    · simp [h.candidate, hsame]
  · -- a new segment, and what was there is committed
    have hnew : value.segmentId ∉ segmentsOf heard := fun hknown => hsame (horderly hknown)
    rw [if_neg hsame]
    refine ⟨by simp, ⟨segmentsOf heard, ?_, ?_, ?_⟩, ?_⟩
    · rw [segmentsOf_snoc, if_neg hnew]
      rfl
    · rintro _ ⟨⟩
      exact hnew
    · rw [filterMap_lastFinal_snoc hnew, hsegments, filterMap_append, ← hcommitted]
      cases hsegment : finalizer.segmentId with
      | none => simp [h.candidate, hsegment]
      | some segmentId =>
        cases htext : lastFinal heard segmentId <;> simp [h.candidate, hsegment, htext]
    · simp [lastFinal_of_not_mem hnew]

variable {finalSilenceMs : Nat} {observed : ObservedFinalizer}

theorem Agrees.fresh (finalizer : TurnFinalizer)
    (hsilence : finalizer.finalSilenceMs = finalSilenceMs) :
    Agrees finalSilenceMs ⟨finalizer.observeDiscontinuity, [], none, false⟩ :=
  ⟨hsilence, rfl, rfl, fun _ => ⟨rfl, ⟨[], rfl, nofun, rfl⟩, rfl⟩⟩

theorem Agrees.step (h : Agrees finalSilenceMs observed) {input : FinalizerInput}
    (horderly : observed.Orderly input) : Agrees finalSilenceMs (observed.step input) := by
  cases input with
  | discontinuity => exact .fresh _ h.silence
  | hypothesis value =>
    obtain ⟨hended, hsilence, hfinalized⟩ := observed.finalizer.observeHypothesis_timing value
    refine ⟨hsilence.trans h.silence, hended.trans h.ended, hfinalized.trans h.finalized, ?_⟩
    intro hopen
    simp only [ObservedFinalizer.step]
    cases hspoken : isBlank value.text with
    | true => simpa [observeHypothesis, hspoken] using h.gathers hopen
    | false =>
      exact (h.gathers hopen).hypothesis (h.finalized.trans hopen) hspoken (horderly hspoken)
  | activity value =>
    cases value with
    | speechStarted atMs =>
      have hover : observed.isOver atMs = (observed.finalizer.finalized ||
          observed.finalizer.speechEndedAtMs.any fun endedAtMs =>
            observed.finalizer.readyAtMs endedAtMs ≤ atMs) := by
        rw [h.finalized, h.ended]
        rfl
      simp only [ObservedFinalizer.step, observeActivity, ← hover]
      split
      next => exact .fresh _ h.silence
      next => exact ⟨h.silence, rfl, h.finalized, fun hopen => { h.gathers hopen with }⟩
    | speechContinued _ | speechEnded _ =>
      exact ⟨h.silence, rfl, h.finalized, fun hopen => { h.gathers hopen with }⟩
    | captureDiscontinuity _ => exact { h with }
  | finalize nowMs =>
    simp only [ObservedFinalizer.step]
    cases hready : (observed.finalizer.finalizeReady nowMs).1 with
    | none =>
      rw [finalizeReady_of_none hready]
      simpa using h
    | some transcript =>
      rcases observed.finalizer.finalizeReady_cases nowMs with ⟨hnone, -⟩ | hreleased
      · rw [hready] at hnone
        cases hnone
      · rw [hreleased]
        exact ⟨h.silence, h.ended, by simp, by simp⟩

/-- A finalizer releases an utterance at most once, after the silence that follows the last
end of the speech as far as the clock goes, with the last engine-final text of each
segment and under the last segment, which has such a text. -/
theorem released_transcript {inputs : List FinalizerInput}
    (horderly : Along ObservedFinalizer.step Orderly (new finalSilenceMs) inputs) {nowMs : Nat}
    {transcript : FinalizedTranscript} :
    let observed := inputs.foldl ObservedFinalizer.step (new finalSilenceMs)
    (observed.finalizer.finalizeReady nowMs).1 = some transcript →
      observed.released = false ∧
      (∃ endedAtMs ∈ observed.endedAtMs, saturatingAdd endedAtMs finalSilenceMs ≤ nowMs) ∧
      transcript.text = transcriptOf observed.heard ∧
      observed.heard.getLast?.map (·.segmentId) = some transcript.segmentId ∧
      (lastFinal observed.heard transcript.segmentId).isSome := by
  intro observed hready
  have hagrees : Agrees finalSilenceMs observed :=
    horderly.kept (fun _ _ horderly h => h.step horderly)
      (.fresh (.new finalSilenceMs) rfl)
  obtain ⟨hopen, hsegment, htext, endedAtMs, hended, hover⟩ := finalizeReady_eq_some hready
  rw [hagrees.finalized] at hopen
  obtain ⟨hlast, ⟨earlier, hsegments, -, hcommitted⟩, hcandidate⟩ := hagrees.gathers hopen
  obtain ⟨candidate, hfinal, hjoined⟩ := Option.map_eq_some_iff.mp htext
  rw [hcandidate, hsegment, Option.bind_some] at hfinal
  refine ⟨hopen, ⟨endedAtMs, hagrees.ended ▸ hended, ?_⟩, ?_, hlast.symm.trans hsegment, ?_⟩
  · rw [← hagrees.silence]
    exact hover
  · rw [← hjoined, transcriptOf, hsegments, hsegment, hcommitted]
    simp [hfinal]
  · rw [hfinal]
    rfl

/-- One word, corrected by the engine, and the silence after it. -/
def corrected (endedAtMs : Nat) : List FinalizerInput :=
  [.hypothesis ⟨1, "helo", false⟩, .hypothesis ⟨1, "hello", true⟩,
    .activity (.speechEnded endedAtMs)]

theorem released_transcript_corrected :
    let observed := (corrected 10).foldl ObservedFinalizer.step (new 600)
    (observed.finalizer.finalizeReady 610).1 = some ⟨1, "hello"⟩ ∧
      "hello" = transcriptOf observed.heard := by
  have hready : (((corrected 10).foldl ObservedFinalizer.step (new 600)).finalizer.finalizeReady
      610).1 = some ⟨1, "hello"⟩ := by decide +kernel
  have horderly : Along ObservedFinalizer.step Orderly (new 600) (corrected 10) :=
    ⟨nofun, fun _ _ => rfl, trivial, trivial⟩
  exact ⟨hready, (released_transcript horderly hready).2.2.1⟩

/-- Close to the end of the clock the silence is cut short. -/
theorem silence_cut_short :
    let observed := (corrected (u64Max - 1)).foldl ObservedFinalizer.step (new 600)
    observed.endedAtMs = some (u64Max - 1) ∧ u64Max < u64Max - 1 + 600 ∧
      (observed.finalizer.finalizeReady u64Max).1 = some ⟨1, "hello"⟩ := by
  decide +kernel

end ObservedFinalizer

end ConversationRuntime
