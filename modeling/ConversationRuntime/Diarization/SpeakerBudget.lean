import ConversationRuntime.Foundation.Lists
import ConversationRuntime.Recording.Reconciliation

/-! # The speaker budget of an online diarization

The adapter uploads each window of a recording as a request of its own. A
provider's label means something in its own answer only, so the label is
scoped to the window before it is given an anonymous cluster, and the clusters
of all windows share one table.
-/

namespace ConversationRuntime.OpenAiDiarization

open Foundation List

def maxDiarizedSegments : Nat := 1024
def maxDiarizedSegmentTextBytes : Nat := 2048
def maxDiarizedTextBytes : Nat := 128 * 1024
def maxSpeakerClusters : Nat := 64
def maxDiarizedSegmentIdBytes : Nat := 64
def maxProviderIdBytes : Nat := 256
def maxProviderLabelBytes : Nat := 256

def unsupportedAnswer : AdapterError := ⟨"online diarization returned an unsupported answer"⟩
def unusableTimings : AdapterError :=
  ⟨"online diarization returned a segment with unusable timings"⟩
def segmentLimit : AdapterError := ⟨"diarization exceeded its segment limit"⟩
def textLimit : AdapterError := ⟨"diarization exceeded its text limit"⟩
def speakerClusterLimit : AdapterError := ⟨"diarization exceeded its speaker cluster limit"⟩

/-! ## Segments -/

/-- An outward enclosure of a segment in recorded samples. -/
structure DiarizedMediaSampleRange where
  startSampleInclusive : Nat
  endSampleExclusive : Nat
  sampleRateHz : UInt32
  gapOffsetMs : Nat
deriving DecidableEq

namespace DiarizedMediaSampleRange

def projectMs (range : DiarizedMediaSampleRange) (sample : Nat) : Option Nat :=
  let millis := sample * 1000 / range.sampleRateHz.toNat
  if u64Max < millis then none else checkedAdd millis range.gapOffsetMs

def new (start finish : Nat) (sampleRateHz : UInt32) (gapOffsetMs : Nat) :
    Option DiarizedMediaSampleRange := do
  let range := ⟨start, finish, sampleRateHz, gapOffsetMs⟩
  if finish ≤ start ∨ sampleRateHz = 0 then none
  else
    let _ ← range.projectMs finish
    return range

/-- The end in milliseconds is floored, so it may be one sample behind. -/
def validateLegacyProjection (range : DiarizedMediaSampleRange) (startedAtMs endedAtMs : Nat) :
    Bool :=
  range.projectMs range.startSampleInclusive = some startedAtMs ∧ startedAtMs ≤ endedAtMs ∧
    (range.projectMs range.endSampleExclusive = some endedAtMs ∨
      range.projectMs (range.endSampleExclusive - 1) = some endedAtMs)

end DiarizedMediaSampleRange

structure DiarizedSegment where
  segmentId : String
  startedAtMs : Nat
  endedAtMs : Nat
  text : String
  speakerCluster : Option String
  mediaSampleRange : Option DiarizedMediaSampleRange
deriving DecidableEq

/-- A positive decimal after `cluster-`. -/
def isAnonymousClusterLabel (label : String) : Bool :=
  let index := label.toList.drop 8
  "cluster-".toList.isPrefixOf label.toList ∧ index ≠ [] ∧ index.length ≤ 4 ∧
    index.all Char.isDigit ∧ index.head? ≠ some '0'

def isControl (char : Char) : Bool :=
  char.toNat < 0x20 ∨ 0x7F ≤ char.toNat ∧ char.toNat < 0xA0

namespace DiarizedSegment

def new (segmentId : String) (startedAtMs endedAtMs : Nat) (text : String)
    (speakerCluster : Option String) : Except AdapterError DiarizedSegment :=
  if segmentId = "" ∨ maxDiarizedSegmentIdBytes < segmentId.utf8ByteSize ∨
      ¬ segmentId.toList.all fun char => char.isLower ∨ char.isDigit ∨ char = '-' then
    .error ⟨"diarized segment identifier is not a bounded lowercase label"⟩
  else if endedAtMs < startedAtMs then .error ⟨"diarized segment ends before it starts"⟩
  else if maxDiarizedSegmentTextBytes < text.utf8ByteSize then
    .error ⟨"diarized segment text exceeded its size limit"⟩
  else if text.toList.any isControl then
    .error ⟨"diarized segment text carries a control character"⟩
  else if speakerCluster.any (! isAnonymousClusterLabel ·) then
    .error ⟨"diarized segment speaker cluster is not an anonymous label"⟩
  else .ok ⟨segmentId, startedAtMs, endedAtMs, text, speakerCluster, none⟩

def withMediaSampleRange (segment : DiarizedSegment) (range : DiarizedMediaSampleRange) :
    Except AdapterError DiarizedSegment :=
  if range.validateLegacyProjection segment.startedAtMs segment.endedAtMs then
    .ok { segment with mediaSampleRange := some range }
  else .error ⟨"diarized sample range differs from media timings"⟩

end DiarizedSegment

/-! ## Clusters -/

/-- The label of the cluster at a place of the table. -/
def clusterLabel (index : Nat) : String := "cluster-" ++ toString (index + 1)

/-- The cluster of a provider's label, and the table with it. -/
def labelFor (clusters : List String) (providerLabel : String) :
    Except AdapterError (String × List String) :=
  if providerLabel ∈ clusters then .ok (clusterLabel (clusters.idxOf providerLabel), clusters)
  else if maxSpeakerClusters ≤ clusters.length then .error speakerClusterLimit
  else .ok (clusterLabel clusters.length, clusters ++ [providerLabel])

inductive DiarizationWarning where
  | noSpeechDetected
  | providerReportedWarnings
  | recordingTruncated
deriving DecidableEq

structure DiarizationResult where
  segments : List DiarizedSegment
  warnings : List DiarizationWarning
deriving DecidableEq

/-- An entry of a list without repetitions, behind the others. -/
def pushNew {α : Type} [DecidableEq α] (known : List α) (value : α) : List α :=
  if value ∈ known then known else known ++ [value]

/-- The bytes used so far, the identifiers and the clusters of the segments before. -/
def tally (counted : Nat × List String × List String) (segment : DiarizedSegment) :
    Except AdapterError (Nat × List String × List String) :=
  let (usedBytes, identifiers, clusters) := counted
  if maxDiarizedTextBytes < usedBytes + segment.text.utf8ByteSize then .error textLimit
  else if segment.segmentId ∈ identifiers then
    .error ⟨"diarization repeated a segment identifier"⟩
  else .ok (usedBytes + segment.text.utf8ByteSize, identifiers ++ [segment.segmentId],
    segment.speakerCluster.elim clusters (pushNew clusters))

def DiarizationResult.new (segments : List DiarizedSegment) (warnings : List DiarizationWarning) :
    Except AdapterError DiarizationResult := do
  if maxDiarizedSegments < segments.length then .error segmentLimit
  else
    let (_, _, clusters) ← segments.foldlM tally (0, [], [])
    if maxSpeakerClusters < clusters.length then .error speakerClusterLimit
    else .ok ⟨segments, warnings.foldl pushNew []⟩

/-! ## Answers -/

/-- A segment of an answer; a number that is not finite is none. -/
structure ProviderSegment where
  kind : String
  id : String
  start : Option ℚ
  finish : Option ℚ
  text : String
  speaker : String

structure ProviderAnswer where
  task : String
  duration : Option ℚ
  text : String
  segments : List ProviderSegment

structure Reconciliation where
  segments : List DiarizedSegment
  clusters : List String
  textBytes : Nat
  windows : Nat

def Reconciliation.start : Reconciliation := ⟨[], [], 0, 0⟩

-- The f64 nearest to a number, unless it overflows.
variable (nearest : ℚ → Option ℚ)

def floorSample (window : MeetingAudioWindow) (seconds : ℚ) : Except AdapterError Nat :=
  match nearest (seconds * window.format.sampleRateHz.toNat) with
  | none => .error unusableTimings
  | some product =>
    if (window.samples : ℤ) < product.floor then .error unusableTimings
    else .ok product.floor.toNat

/-- A sample of a window on the media timeline. -/
def project (window : MeetingAudioWindow) (sample : Nat) : Except AdapterError Nat :=
  match window.sampleOrigin with
  | some origin => do
    let absolute ← orError unusableTimings (checkedAdd origin.mediaStartSample sample)
    origin.projectSample absolute
  | none =>
    let relativeMs := sample * 1000 / window.format.sampleRateHz.toNat
    if u64Max < relativeMs then .error unusableTimings
    else orError unusableTimings (checkedAdd window.startedAtMs relativeMs)

/-- A segment whose timings lie in its window, with its cluster. -/
def parse (window : MeetingAudioWindow) (position : Nat) (segment : ProviderSegment)
    (start finish : ℚ) (cluster : String) : Except AdapterError DiarizedSegment := do
  let rate := window.format.sampleRateHz
  let startSample ← floorSample nearest window start
  let endSample ← floorSample nearest window finish
  let startedAtMs ← project window startSample
  let endedAtMs ← project window endSample
  let parsed ← DiarizedSegment.new ("seg-" ++ toString (position + 1)) startedAtMs endedAtMs
    segment.text (some cluster)
  match window.sampleOrigin with
  | none => return parsed
  | some origin =>
    let outwardEnd := match nearest (finish * rate.toNat) with
      | none => window.samples
      | some product => min product.ceil.toNat window.samples
    let first ← orError unusableTimings (checkedAdd origin.mediaStartSample startSample)
    let last ← orError unusableTimings (checkedAdd origin.mediaStartSample outwardEnd)
    let range ← orError unusableTimings
      (DiarizedMediaSampleRange.new first last rate origin.gapOffsetMs)
    parsed.withMediaSampleRange range

/-- The finite timings of a segment, if they lie in its window. -/
def timings (window : MeetingAudioWindow) (segment : ProviderSegment) :
    Except AdapterError (ℚ × ℚ) :=
  let extent := nearest (window.samples / window.format.sampleRateHz.toNat)
  match segment.start, segment.finish with
  | some start, some finish =>
    if 0 ≤ start ∧ start < finish ∧ extent.all (fun extent => start ≤ extent ∧ finish ≤ extent) then
      .ok (start, finish)
    else .error unusableTimings
  | _, _ => .error unusableTimings

/-- What is checked before a segment is given a cluster. -/
def precheck (window : MeetingAudioWindow) (state : Reconciliation) (identifiers : List String)
    (segment : ProviderSegment) : Except AdapterError (ℚ × ℚ) := do
  if segment.kind ≠ "transcript.text.segment" ∨ segment.id = "" ∨
      maxProviderIdBytes < segment.id.utf8ByteSize ∨ segment.speaker = "" ∨
      maxProviderLabelBytes < segment.speaker.utf8ByteSize ∨ segment.id ∈ identifiers then
    .error unsupportedAnswer
  else
    let (start, finish) ← timings nearest window segment
    if maxDiarizedSegments ≤ state.segments.length then .error segmentLimit
    else if maxDiarizedTextBytes < state.textBytes + segment.text.utf8ByteSize then
      .error textLimit
    else .ok (start, finish)

/-- A provider's label, scoped to its window. -/
def scopedLabel (window : Nat) (speaker : String) : String :=
  "window-" ++ toString window ++ ":" ++ speaker

def acceptSegment (window : MeetingAudioWindow) (index : Nat) (taken : Reconciliation × List String)
    (segment : ProviderSegment) : Except AdapterError (Reconciliation × List String) := do
  let (state, identifiers) := taken
  let (start, finish) ← precheck nearest window state identifiers segment
  let (cluster, clusters) ← labelFor state.clusters (scopedLabel index segment.speaker)
  let parsed ← parse nearest window state.segments.length segment start finish cluster
  return ({ state with
    segments := state.segments ++ [parsed]
    clusters := clusters
    textBytes := state.textBytes + segment.text.utf8ByteSize }, identifiers ++ [segment.id])

/-- Take up an answer, before its segments are looked at. -/
def opened (state : Reconciliation) (answer : ProviderAnswer) :
    Except AdapterError Reconciliation :=
  -- A duration that is not finite is none, and fails every condition.
  if u64Max ≤ state.windows then .error unsupportedAnswer
  else if answer.task ≠ "transcribe" ∨ answer.duration.all (· < 0) ∨
      maxDiarizedTextBytes < answer.text.utf8ByteSize ∨
      answer.segments.length = 0 ∧ answer.text ≠ "" then .error unsupportedAnswer
  else if maxDiarizedSegments < answer.segments.length then .error segmentLimit
  else .ok { state with windows := state.windows + 1 }

def accept (state : Reconciliation) (round : MeetingAudioWindow × ProviderAnswer) :
    Except AdapterError Reconciliation := do
  let begun ← opened state round.2
  let (reached, _) ← round.2.segments.foldlM (acceptSegment nearest round.1 state.windows)
    (begun, [])
  return reached

def finish (state : Reconciliation) : Except AdapterError DiarizationResult :=
  DiarizationResult.new state.segments
    (if state.segments.length = 0 then [.noSpeechDetected] else [])

/-- A recording whose windows were all answered. -/
def run (rounds : List (MeetingAudioWindow × ProviderAnswer)) :
    Except AdapterError DiarizationResult := do
  let state ← rounds.foldlM (accept nearest) .start
  finish state

/-! ## Which errors are the limit -/

section errors

variable {nearest}

/-- How a check ends: with a value that is good or an error that is. -/
def Ends {ε α : Type} (result : Except ε α) (good : α → Prop) (bad : ε → Prop) : Prop :=
  result.casesOn bad good

variable {ε α : Type} {bad : ε → Prop}

theorem Ends.of_error {found : ε} {good : α → Prop} (h : bad found) :
    Ends (.error found) good bad := h

theorem Ends.of_bind {β : Type} {first : Except ε α} {next : α → Except ε β} {good : β → Prop}
    (hfirst : Ends first (fun _ => True) bad)
    (hnext : ∀ value, Ends (next value) good bad) : Ends (first >>= next) good bad := by
  cases first with
  | error found => exact hfirst
  | ok value => exact hnext value

theorem Ends.of_orError {found : ε} (h : bad found) (value : Option α) :
    Ends (orError found value) (fun _ => True) bad := by
  cases value with
  | none => exact h
  | some value => trivial

theorem Ends.ne {result : Except ε α} {good : α → Prop} {error : ε}
    (h : Ends result good (· ≠ error)) : result ≠ .error error := by
  rintro rfl
  exact h rfl

theorem Ends.good {result : Except ε α} {good : α → Prop} {value : α}
    (h : Ends result good bad) (hrun : result = .ok value) : good value := by
  cases hrun
  exact h

theorem labelFor_error {clusters : List String} {label : String} {error : AdapterError} :
    labelFor clusters label = .error error ↔
      error = speakerClusterLimit ∧ label ∉ clusters ∧ maxSpeakerClusters ≤ clusters.length := by
  unfold labelFor
  split
  · simp_all
  · split
    · simp_all [eq_comm]
    · simp_all

variable (window : MeetingAudioWindow)

theorem project_ends (sample : Nat) :
    Ends (project window sample) (fun _ => True) (· ≠ speakerClusterLimit) := by
  unfold project
  split
  · refine .of_bind (.of_orError (by decide) _) fun absolute => ?_
    simp only [MediaSampleOrigin.projectSample]
    repeat' split
    all_goals first | exact .of_orError (by decide) _ | exact .of_error (by decide)
  · dsimp only
    split
    · exact .of_error (by decide)
    · exact .of_orError (by decide) _

theorem floorSample_ends (seconds : ℚ) :
    Ends (floorSample nearest window seconds) (fun _ => True) (· ≠ speakerClusterLimit) := by
  unfold floorSample
  repeat' split
  all_goals first | trivial | exact .of_error (by decide)

/-- Once a segment has its cluster, it keeps it, and the limit is not what stops it. -/
theorem parse_ends (position : Nat) (segment : ProviderSegment)
    (start finish : ℚ) (cluster : String) :
    Ends (parse nearest window position segment start finish cluster)
      (·.speakerCluster = some cluster) (· ≠ speakerClusterLimit) := by
  refine .of_bind (floorSample_ends window start) fun startSample => ?_
  refine .of_bind (floorSample_ends window finish) fun endSample => ?_
  refine .of_bind (project_ends window startSample) fun startedAtMs => ?_
  refine .of_bind (project_ends window endSample) fun endedAtMs => ?_
  unfold DiarizedSegment.new
  iterate 5
    split
    · exact .of_error (by decide)
  dsimp only [Bind.bind, Except.bind]
  split
  · exact Eq.refl (some cluster)
  · refine .of_bind (.of_orError (by decide) _) fun first => ?_
    refine .of_bind (.of_orError (by decide) _) fun last => ?_
    refine .of_bind (.of_orError (by decide) _) fun range => ?_
    unfold DiarizedSegment.withMediaSampleRange
    split
    · exact Eq.refl (some cluster)
    · exact .of_error (by decide)

theorem precheck_ends (state : Reconciliation)
    (identifiers : List String) (segment : ProviderSegment) :
    Ends (precheck nearest window state identifiers segment) (fun _ => True)
      (· ≠ speakerClusterLimit) := by
  unfold precheck
  split
  · exact .of_error (by decide)
  · apply Ends.of_bind
    · simp only [timings]
      repeat' split
      all_goals first | trivial | exact .of_error (by decide)
    · intro found
      repeat' split
      all_goals first | trivial | exact .of_error (by decide)

theorem opened_ends (state : Reconciliation) (answer : ProviderAnswer) :
    Ends (opened state answer) (· = { state with windows := state.windows + 1 })
      (· ≠ speakerClusterLimit) := by
  unfold opened
  repeat' split
  all_goals first | exact .refl _ | exact .of_error (by decide)

theorem acceptSegment_error {window : MeetingAudioWindow} {index : Nat}
    {taken : Reconciliation × List String} {segment : ProviderSegment} :
    acceptSegment nearest window index taken segment = .error speakerClusterLimit ↔
      (∃ timing, precheck nearest window taken.1 taken.2 segment = .ok timing) ∧
        scopedLabel index segment.speaker ∉ taken.1.clusters ∧
        maxSpeakerClusters ≤ taken.1.clusters.length := by
  constructor
  · intro h
    rcases bind_eq_error.mp h with hchecked | ⟨timing, hchecked, h⟩
    · exact absurd hchecked (precheck_ends _ _ _ _).ne
    rcases bind_eq_error.mp h with hlabel | ⟨labelled, -, h⟩
    · exact ⟨⟨timing, hchecked⟩, (labelFor_error.mp hlabel).2⟩
    rcases bind_eq_error.mp h with hparsed | ⟨parsed, -, h⟩
    · exact absurd hparsed (parse_ends _ _ _ _ _ _).ne
    · cases h
  · rintro ⟨⟨timing, hchecked⟩, hlimit⟩
    simp only [acceptSegment, hchecked, labelFor_error.mpr ⟨rfl, hlimit⟩]
    rfl

end errors

/-! ## Whole recordings -/

/-- The first error of a chain, with what came before it. -/
theorem foldlM_eq_error {ε σ ι : Type} {step : σ → ι → Except ε σ} {items : List ι} {state : σ}
    {error : ε} : items.foldlM step state = .error error ↔
      ∃ before item after reached, items = before ++ item :: after ∧
        before.foldlM step state = .ok reached ∧ step reached item = .error error := by
  induction items generalizing state with
  | nil => simp [pure, Except.pure]
  | cons first rest ih =>
    rw [foldlM_cons]
    constructor
    · intro h
      rcases bind_eq_error.mp h with hfirst | ⟨next, hfirst, h⟩
      · exact ⟨[], first, rest, state, rfl, rfl, hfirst⟩
      · obtain ⟨before, item, after, reached, rfl, hbefore, hitem⟩ := ih.mp h
        refine ⟨first :: before, item, after, reached, rfl, ?_, hitem⟩
        rw [foldlM_cons, hfirst]
        exact hbefore
    · rintro ⟨before, item, after, reached, hitems, hbefore, hitem⟩
      cases before with
      | nil =>
        cases hitems
        cases hbefore
        exact bind_eq_error.mpr (.inl hitem)
      | cons head before =>
        cases hitems
        obtain ⟨next, hnext, hbefore⟩ := bind_eq_ok hbefore
        exact bind_eq_error.mpr (.inr ⟨next, hnext,
          ih.mpr ⟨before, item, after, reached, rfl, hbefore, hitem⟩⟩)

/-- The scoped labels of an answer's segments. -/
def labelsOf (index : Nat) (segments : List ProviderSegment) : List String :=
  segments.map (scopedLabel index ·.speaker)

/-- The scoped labels of all answers, the first of which is at `index`. -/
def allLabels : Nat → List (MeetingAudioWindow × ProviderAnswer) → List String
  | _, [] => []
  | index, round :: rounds => labelsOf index round.2.segments ++ allLabels (index + 1) rounds

/-- The table holds the labels named so far, and every segment has one of its clusters. -/
structure Names (state : Reconciliation) (labels : List String) : Prop where
  nodup : state.clusters.Nodup
  mem : ∀ label, label ∈ state.clusters ↔ label ∈ labels
  length_le : state.clusters.length ≤ maxSpeakerClusters
  segments : ∀ segment ∈ state.segments, ∃ index < maxSpeakerClusters,
    segment.speakerCluster = some (clusterLabel index)

variable {nearest} {state reached : Reconciliation} {labels : List String}

theorem Names.length_eq (h : Names state labels) : state.clusters.length = labels.dedup.length :=
  ((perm_ext_iff_of_nodup h.nodup labels.nodup_dedup).mpr fun label =>
    (h.mem label).trans mem_dedup.symm).length_eq

theorem mem_pushNew {known : List String} {value found : String} :
    found ∈ pushNew known value ↔ found ∈ known ∨ found = value := by
  unfold pushNew
  split
  next hmem =>
    constructor
    · exact .inl
    · rintro (hold | rfl)
      · exact hold
      · exact hmem
  · simp

theorem pushNew_nodup {known : List String} (h : known.Nodup) (value : String) :
    (pushNew known value).Nodup := by
  unfold pushNew
  split
  · exact h
  next hfresh =>
    exact nodup_append.mpr ⟨h, nodup_singleton _, by
      rintro first hfirst second hsecond rfl
      exact hfresh (mem_singleton.mp hsecond ▸ hfirst)⟩

/-- A table with room is the only one that grows. -/
theorem labelFor_eq_ok {clusters next : List String} {label cluster : String}
    (h : labelFor clusters label = .ok (cluster, next))
    (hlength : clusters.length ≤ maxSpeakerClusters) :
    next = pushNew clusters label ∧ next.length ≤ maxSpeakerClusters ∧
      ∃ index < maxSpeakerClusters, cluster = clusterLabel index := by
  unfold labelFor at h
  split at h
  next hmem =>
    cases h
    exact ⟨(if_pos hmem).symm, hlength, _, (idxOf_lt_length_of_mem hmem).trans_le hlength, rfl⟩
  next hfresh =>
    split at h
    · cases h
    · cases h
      exact ⟨(if_neg hfresh).symm, by simp; omega, _, by omega, rfl⟩

variable {window : MeetingAudioWindow} {next : Reconciliation × List String}

theorem Names.acceptSegment {index : Nat} {identifiers : List String} {segment : ProviderSegment}
    (h : Names state labels)
    (hrun : acceptSegment nearest window index (state, identifiers) segment = .ok next) :
    Names next.1 (labels ++ [scopedLabel index segment.speaker]) ∧
      next.1.windows = state.windows := by
  obtain ⟨timing, -, hrun⟩ := bind_eq_ok hrun
  obtain ⟨⟨cluster, clusters⟩, hlabel, hrun⟩ := bind_eq_ok hrun
  obtain ⟨parsed, hparsed, hrun⟩ := bind_eq_ok hrun
  cases hrun
  obtain ⟨rfl, hlength, place, hplace, rfl⟩ := labelFor_eq_ok hlabel h.length_le
  refine ⟨⟨pushNew_nodup h.nodup _, ?_, hlength, ?_⟩, rfl⟩
  · intro label
    rw [mem_pushNew, h.mem, mem_append, mem_singleton]
  · exact forall_mem_snoc h.segments ⟨place, hplace, (parse_ends _ _ _ _ _ _).good hparsed⟩

theorem Names.segments_run {index : Nat} {segments : List ProviderSegment}
    {taken : Reconciliation × List String} (h : Names taken.1 labels)
    (hrun : segments.foldlM (OpenAiDiarization.acceptSegment nearest window index) taken =
      .ok next) :
    Names next.1 (labels ++ labelsOf index segments) ∧ next.1.windows = taken.1.windows := by
  induction segments generalizing taken labels with
  | nil =>
    cases hrun
    simpa [labelsOf] using h
  | cons segment segments ih =>
    obtain ⟨middle, hfirst, hrest⟩ := bind_eq_ok hrun
    obtain ⟨hmiddle, hwindows⟩ := h.acceptSegment hfirst
    obtain ⟨hnext, hkept⟩ := ih hmiddle hrest
    rw [append_assoc] at hnext
    exact ⟨hnext, hkept.trans hwindows⟩

theorem Names.rounds_run {rounds : List (MeetingAudioWindow × ProviderAnswer)}
    (h : Names state labels) (hrun : rounds.foldlM (accept nearest) state = .ok reached) :
    Names reached (labels ++ allLabels state.windows rounds) ∧
      reached.windows = state.windows + rounds.length := by
  induction rounds generalizing state labels with
  | nil =>
    cases hrun
    simpa [allLabels] using h
  | cons round rounds ih =>
    obtain ⟨middle, hfirst, hrest⟩ := bind_eq_ok hrun
    obtain ⟨begun, hbegun, hfirst⟩ := bind_eq_ok hfirst
    obtain ⟨taken, hsegments, hfirst⟩ := bind_eq_ok hfirst
    cases hfirst
    rw [(opened_ends _ _).good hbegun] at hsegments
    have hopened : Names { state with windows := state.windows + 1 } labels := { h with }
    obtain ⟨hmiddle, hwindows⟩ := hopened.segments_run hsegments
    obtain ⟨hnext, hkept⟩ := ih hmiddle hrest
    rw [hwindows, append_assoc] at hnext
    refine ⟨hnext, hkept.trans ?_⟩
    rw [hwindows]
    exact Nat.add_right_comm _ _ _

theorem names_start : Names .start [] := ⟨nodup_nil, by simp [Reconciliation.start],
  Nat.zero_le _, by simp [Reconciliation.start]⟩

theorem tally_ends {segments : List DiarizedSegment} (counted : Nat × List String × List String)
    (hnodup : counted.2.2.Nodup)
    (hmem : ∀ cluster ∈ counted.2.2, ∃ index < maxSpeakerClusters, cluster = clusterLabel index)
    (hsegments : ∀ segment ∈ segments, ∃ index < maxSpeakerClusters,
      segment.speakerCluster = some (clusterLabel index)) :
    Ends (segments.foldlM tally counted) (fun next => next.2.2.Nodup ∧
        ∀ cluster ∈ next.2.2, ∃ index < maxSpeakerClusters, cluster = clusterLabel index)
      (· ≠ speakerClusterLimit) := by
  induction segments generalizing counted with
  | nil => exact ⟨hnodup, hmem⟩
  | cons segment segments ih =>
    obtain ⟨place, hplace, hcluster⟩ := hsegments segment mem_cons_self
    rw [foldlM_cons, tally, hcluster]
    split
    · exact .of_error (by decide)
    split
    · exact .of_error (by decide)
    refine ih _ (pushNew_nodup hnodup _) ?_ fun other hother =>
      hsegments other (mem_cons_of_mem _ hother)
    intro cluster hfound
    rcases mem_pushNew.mp hfound with hold | rfl
    · exact hmem cluster hold
    · exact ⟨place, hplace, rfl⟩

/-- The result has no more clusters than the table. -/
theorem finish_ne (h : Names state labels) : finish state ≠ .error speakerClusterLimit := by
  suffices hends : Ends (finish state) (fun _ => True) (· ≠ speakerClusterLimit) from hends.ne
  unfold finish DiarizationResult.new
  split
  · exact .of_error (by decide)
  have htally := tally_ends (0, [], []) nodup_nil (by simp) h.segments
  cases hrun : state.segments.foldlM tally (0, [], []) with
  | error error => exact .of_error fun heq => htally.ne (heq ▸ hrun)
  | ok counted =>
    obtain ⟨hnodup, hmem⟩ := htally.good hrun
    have hsubset : counted.2.2 ⊆ (range maxSpeakerClusters).map clusterLabel := by
      intro cluster hcluster
      obtain ⟨index, hindex, rfl⟩ := hmem cluster hcluster
      exact mem_map_of_mem (mem_range.mpr hindex)
    have hlength := (hnodup.subperm hsubset).length_le
    rw [length_map, length_range] at hlength
    change Ends (if _ then _ else _) (fun _ => True) _
    rw [if_neg (Nat.not_lt.mpr hlength)]
    trivial

/-- The run reaches a segment and finds nothing else wrong with it. -/
def Reaches (nearest : ℚ → Option ℚ) (earlier : List (MeetingAudioWindow × ProviderAnswer))
    (window : MeetingAudioWindow) (answer : ProviderAnswer) (before : List ProviderSegment)
    (segment : ProviderSegment) : Prop :=
  ∃ state begun taken timing, earlier.foldlM (accept nearest) .start = .ok state ∧
    opened state answer = .ok begun ∧
    before.foldlM (acceptSegment nearest window state.windows) (begun, []) = .ok taken ∧
    precheck nearest window taken.1 taken.2 segment = .ok timing

/-- Reconciliation fails with the cluster limit exactly if it reaches a segment whose speaker,
taken with its window, is the sixty-fifth. -/
theorem speaker_budget_iff (nearest : ℚ → Option ℚ)
    (rounds : List (MeetingAudioWindow × ProviderAnswer)) :
    run nearest rounds = .error speakerClusterLimit ↔
      ∃ earlier window answer later before segment after,
        rounds = earlier ++ (window, answer) :: later ∧
          answer.segments = before ++ segment :: after ∧
        Reaches nearest earlier window answer before segment ∧
        let named := allLabels 0 earlier ++ labelsOf earlier.length before
        named.dedup.length = maxSpeakerClusters ∧
          scopedLabel earlier.length segment.speaker ∉ named := by
  have hnames : ∀ {earlier state begun window answer before taken},
      earlier.foldlM (accept nearest) .start = .ok state → opened state answer = .ok begun →
      before.foldlM (acceptSegment nearest window state.windows) (begun, []) = .ok taken →
      state.windows = earlier.length ∧
        Names taken.1 (allLabels 0 earlier ++ labelsOf earlier.length before) := by
    intro earlier state begun window answer before taken hearlier hbegun hbefore
    obtain ⟨hstate, hwindows⟩ := names_start.rounds_run hearlier
    have hindex : state.windows = earlier.length := hwindows.trans (Nat.zero_add _)
    rw [(opened_ends _ _).good hbegun, hindex] at hbefore
    have hopened : Names { state with windows := earlier.length + 1 } (allLabels 0 earlier) :=
      { hstate with }
    exact ⟨hindex, (hopened.segments_run hbefore).1⟩
  constructor
  · intro h
    rcases bind_eq_error.mp h with hrun | ⟨state, hrun, h⟩
    swap
    · exact absurd h (finish_ne (names_start.rounds_run hrun).1)
    obtain ⟨earlier, ⟨window, answer⟩, later, state, rfl, hearlier, hround⟩ :=
      foldlM_eq_error.mp hrun
    rcases bind_eq_error.mp hround with hbegun | ⟨begun, hbegun, hround⟩
    · exact absurd hbegun (opened_ends _ _).ne
    rcases bind_eq_error.mp hround with hsegments | ⟨taken, -, hround⟩
    swap
    · cases hround
    obtain ⟨before, segment, after, taken, hsplit, hbefore, hfailed⟩ := foldlM_eq_error.mp hsegments
    obtain ⟨⟨timing, hchecked⟩, hfresh, hfull⟩ := acceptSegment_error.mp hfailed
    obtain ⟨hindex, htaken⟩ := hnames hearlier hbegun hbefore
    rw [hindex, htaken.mem] at hfresh
    exact ⟨earlier, window, answer, later, before, segment, after, rfl, hsplit,
      ⟨state, begun, taken, timing, hearlier, hbegun, hbefore, hchecked⟩,
      htaken.length_eq ▸ le_antisymm htaken.length_le hfull, hfresh⟩
  · rintro ⟨earlier, window, answer, later, before, segment, after, rfl, hsplit,
      ⟨state, begun, taken, timing, hearlier, hbegun, hbefore, hchecked⟩, hfull, hfresh⟩
    obtain ⟨hindex, htaken⟩ := hnames hearlier hbegun hbefore
    have hfailed : acceptSegment nearest window state.windows taken segment =
        .error speakerClusterLimit := by
      refine acceptSegment_error.mpr ⟨⟨timing, hchecked⟩, ?_, ?_⟩
      · rw [hindex, htaken.mem]
        exact hfresh
      · rw [htaken.length_eq, hfull]
    have hsegments := foldlM_eq_error.mpr ⟨before, segment, after, taken, hsplit, hbefore, hfailed⟩
    have hround : accept nearest state (window, answer) = .error speakerClusterLimit :=
      bind_eq_error.mpr (.inr ⟨begun, hbegun, bind_eq_error.mpr (.inl hsegments)⟩)
    exact bind_eq_error.mpr (.inl (foldlM_eq_error.mpr
      ⟨earlier, (window, answer), later, state, rfl, hearlier, hround⟩))

/-- A meeting of some stretches with gaps between them, one sample each. -/
def gappedMeeting (stretches : Nat) : List RecordedChunk :=
  (List.replicate stretches [.frame 0 0 16000 1 .signed16LittleEndian [0, 0],
    .gapStarted 0 "capture interrupted", .gapEnded 0]).flatten

/-- The windows a meeting is read in, one for each stretch. -/
def gappedWindows (stretches : Nat) : List MeetingAudioWindow :=
  (Windows.deliverAll (fun _ => true) (fun _ => false) 0 (gappedMeeting stretches)
    (Windows.start false)).2.sent

/-- An answer that names one speaker. -/
def briefAnswer : ProviderAnswer :=
  ⟨"transcribe", some 0, "", [⟨"transcript.text.segment", "1", some 0, some (1 / 16000), "", "A"⟩]⟩

/-- Sixty-five windows with one speaker each exhaust the budget, sixty-four do not. -/
theorem long_meeting_exhausts :
    (gappedWindows 65).length = 65 ∧
      run some ((gappedWindows 65).map (·, briefAnswer)) = .error speakerClusterLimit ∧
      (run some ((gappedWindows 64).map (·, briefAnswer))).isOk = true := by
  decide +kernel

end ConversationRuntime.OpenAiDiarization
