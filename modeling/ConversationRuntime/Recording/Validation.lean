import ConversationRuntime.Recording.Chunk

/-! # Validation of timed recordings

A timed recording opens with its timing policy. After it, timing records and
timed frames must stay within one budget and agree with the epoch in force.
The recorder validates every record before it is sealed, and a reader validates
the same records again.
-/

namespace ConversationRuntime

open Foundation

structure TimedValidation where
  policy : Bool
  exhausted : Bool
  records : Nat
  bytes : Nat
  epoch : Option CaptureEpoch
  domains : CaptureDomainHistory
  sequence : UInt64
  outputEnd : Option Nat
  pair : Option CaptureClockPair
deriving DecidableEq

namespace TimedValidation

def empty : TimedValidation := ⟨false, false, 0, 0, none, .empty, 0, none, none⟩

/-- The last frame's sequence and end, once a frame with timing was accepted. -/
def frameBoundary (state : TimedValidation) : Option (UInt64 × Nat) :=
  state.outputEnd.map fun outputEnd => (state.sequence, outputEnd)

def acceptFrame (state : TimedValidation) (timing : FrameProvenance) :
    Except RuntimeError TimedValidation := do
  let epoch ← orError recoveryError state.epoch
  if timing.captureEpoch ≠ epoch.captureEpoch ∨ timing.sequence ≤ state.sequence ∨
      state.outputEnd.any (timing.outputStartSample.toNat < ·) then
    throw recoveryError
  let outputEnd ← orError recoveryError
    (checkedAdd timing.outputStartSample.toNat timing.sampleCount.toNat)
  return { state with sequence := timing.sequence, outputEnd := some outputEnd }

/-- A new epoch restarts the frame sequence, and a new clock domain the pairs. -/
def acceptEpoch (state : TimedValidation) (epoch : CaptureEpoch) :
    Except RuntimeError TimedValidation := do
  let domains ← orElse recoveryError (state.domains.admitDomain epoch.clockDomainId)
  match state.epoch with
  | none => return { state with domains := domains, epoch := some epoch }
  | some prior =>
    if prior.bridgeSessionId ≠ epoch.bridgeSessionId then throw recoveryError
    else if prior.clockDomainId = epoch.clockDomainId then
      if epoch.captureEpoch < prior.captureEpoch then throw recoveryError
      else if prior.captureEpoch < epoch.captureEpoch then
        return { state with
          domains := domains, sequence := 0, outputEnd := none, epoch := some epoch }
      else return { state with domains := domains, epoch := some epoch }
    else
      return { state with
        domains := domains, sequence := 0, outputEnd := none, pair := none, epoch := some epoch }

def acceptClockPair (state : TimedValidation) (pair : CaptureClockPair) :
    Except RuntimeError TimedValidation :=
  if ¬ state.epoch.any (fun epoch => epoch.clockDomainId = pair.clockDomainId) then
    .error recoveryError
  else if state.pair.any fun prior => pair.sequence ≤ prior.sequence ∨
      pair.midpointTwice ≤ prior.midpointTwice ∨ pair.wallEpoch < prior.wallEpoch then
    .error recoveryError
  else .ok { state with pair := some pair }

def acceptMetadata (state : TimedValidation) :
    CaptureMetadata → Except RuntimeError TimedValidation
  | .epoch epoch => state.acceptEpoch epoch
  | .clockPair pair => state.acceptClockPair pair
  | .discontinuity captureEpoch _ =>
    if ¬ state.epoch.any (fun epoch => epoch.captureEpoch = captureEpoch) then
      .error recoveryError
    else .ok state

/-- Charge one timing record of `length` bytes to the budget. -/
def charge (state : TimedValidation) (length : Nat) : Except RuntimeError TimedValidation := do
  if state.exhausted then throw recoveryError
  let records ← orError recoveryError (checkedAdd state.records 1)
  let bytes ← orError recoveryError (checkedAdd state.bytes length)
  if maxRecordingTimingRecords < records ∨ maxRecordingTimingBytes < bytes then throw recoveryError
  return { state with records := records, bytes := bytes }

def accept (state : TimedValidation) (chunk : RecordedChunk) :
    Except RuntimeError TimedValidation :=
  if state.policy = false then
    if chunk = .timingPolicy then .ok { state with policy := true } else .error recoveryError
  else
    match chunk with
    | .timingPolicy => .error recoveryError
    | .frame .. => .error recoveryError
    | .alignmentLimit =>
      if state.exhausted then .error recoveryError else .ok { state with exhausted := true }
    | .timedFrame _ _ (some timing) _ => do
      let next ← state.acceptFrame timing
      next.charge captureTimingBytes
    | .captureMetadata metadata => do
      let next ← state.acceptMetadata metadata
      let record ← metadataRecord metadata
      next.charge (record.length - 1)
    | .timedFrame _ _ none _ => .ok state
    | .gapStarted .. => .ok state
    | .gapEnded _ => .ok state
    | .ended _ => .ok state

/-! ## What accepting does to the policy and to the last clock pair -/

variable {state next : TimedValidation}

theorem charge_keeps {length : Nat} (h : state.charge length = .ok next) :
    next.policy = state.policy ∧ next.pair = state.pair := by
  unfold charge at h
  split at h
  · cases h
  · obtain ⟨records, -, h⟩ := bind_eq_ok h
    obtain ⟨bytes, -, h⟩ := bind_eq_ok h
    split at h
    · cases h
    · cases h
      exact ⟨rfl, rfl⟩

theorem acceptFrame_keeps {timing : FrameProvenance} (h : state.acceptFrame timing = .ok next) :
    next.policy = state.policy ∧ next.pair = state.pair := by
  obtain ⟨epoch, -, h⟩ := bind_eq_ok h
  split at h
  · cases h
  · obtain ⟨outputEnd, -, h⟩ := bind_eq_ok h
    cases h
    exact ⟨rfl, rfl⟩

theorem policy_of_acceptEpoch {epoch : CaptureEpoch} (h : state.acceptEpoch epoch = .ok next) :
    next.policy = state.policy := by
  obtain ⟨domains, -, h⟩ := bind_eq_ok h
  -- Whatever is accepted, only the fields of the epoch are written.
  repeat' split at h
  all_goals cases h
  all_goals rfl

/-- What a chunk may do to the last clock pair: only a later pair replaces it, and an epoch
may drop it. -/
inductive PairStep (state next : TimedValidation) : RecordedChunk → Prop
  | epoch (epoch : CaptureEpoch) : PairStep state next (.captureMetadata (.epoch epoch))
  | clockPair {pair} (hpair : next.pair = some pair)
      (hlater : ∀ prior ∈ state.pair, prior.midpointTwice < pair.midpointTwice) :
      PairStep state next (.captureMetadata (.clockPair pair))
  | other {chunk} (hother : ∀ pair, chunk ≠ .captureMetadata (.clockPair pair))
      (hpair : next.pair = state.pair) : PairStep state next chunk

theorem acceptMetadata_keeps {metadata : CaptureMetadata}
    (h : state.acceptMetadata metadata = .ok next) :
    next.policy = state.policy ∧
      ∀ after, after.pair = next.pair → PairStep state after (.captureMetadata metadata) := by
  cases metadata with
  | epoch epoch => exact ⟨policy_of_acceptEpoch h, fun _ _ => .epoch epoch⟩
  | clockPair pair =>
    change state.acceptClockPair pair = .ok next at h
    unfold acceptClockPair at h
    split at h
    · cases h
    split at h
    · cases h
    next horder =>
      cases h
      refine ⟨rfl, fun after hafter => .clockPair hafter fun prior hprior => ?_⟩
      rw [hprior] at horder
      simp only [Option.any_some, decide_eq_true_eq, not_or, not_le] at horder
      exact horder.2.1
  | discontinuity captureEpoch reason =>
    simp only [acceptMetadata] at h
    split at h
    · cases h
    · cases h
      exact ⟨rfl, fun after hafter => .other (by simp) hafter⟩

/-- Only a file that opened with its policy accepts anything. -/
theorem accept_keeps {chunk : RecordedChunk} (h : state.accept chunk = .ok next) :
    next.policy = true ∧ PairStep state next chunk := by
  unfold accept at h
  split at h
  · split at h
    next hchunk =>
      cases h
      exact ⟨rfl, .other (by simp [hchunk]) rfl⟩
    · cases h
  next hpolicy =>
    have htrue : state.policy = true := by simpa using hpolicy
    split at h
    · cases h
    · cases h
    · split at h
      · cases h
      · cases h
        exact ⟨htrue, .other (by simp) rfl⟩
    · obtain ⟨middle, hframe, h⟩ := bind_eq_ok h
      obtain ⟨hkept, hpair⟩ := charge_keeps h
      obtain ⟨hframed, hsame⟩ := acceptFrame_keeps hframe
      exact ⟨hkept.trans (hframed.trans htrue), .other (by simp) (hpair.trans hsame)⟩
    · obtain ⟨middle, hmetadata, h⟩ := bind_eq_ok h
      obtain ⟨record, -, h⟩ := bind_eq_ok h
      obtain ⟨hkept, hpair⟩ := charge_keeps h
      obtain ⟨hsame, hstep⟩ := acceptMetadata_keeps hmetadata
      exact ⟨hkept.trans (hsame.trans htrue), hstep next hpair⟩
    all_goals
      cases h
      exact ⟨htrue, .other (by simp) rfl⟩

/-- The closing record is accepted whenever the policy was stated. -/
theorem accept_ended (hpolicy : state.policy = true) (atMs : UInt64) :
    state.accept (.ended atMs) = .ok state := by
  rw [accept, if_neg (by rw [hpolicy]; decide)]

end TimedValidation

end ConversationRuntime
