import ConversationRuntime.Diarization.SpeakerBudget

/-! # The local diarization sidecar

A session takes a recording window by window, cuts it into frames and answers with the
turns it found. Its module binds `_contains_speech` twice. The later binding takes one
argument while the frames are tested with three, so the first frame that is cut ends the
session, and every exception leaves it as one code.
-/

namespace ConversationRuntime.LocalDiarization

open Foundation Fallible OpenAiDiarization List

def defaultFrameMs : Nat := 1500
def minFrameMs : Nat := 500
def maxEmbeddingFrames : Nat := 2048
def maxResponseBytes : Nat := 512 * 1024
def maxWarnings : Nat := 8
def maxInt64 : Nat := 2 ^ 63 - 1
def timingToleranceMs : Nat := 1000

inductive FailureCode where
  | requestInvalid
  | audioUnsupported
  | resultTooLarge
  | internalError
deriving DecidableEq

/-- What a call raises: a refusal, or an exception of the interpreter. -/
inductive Raised where
  | protocolError (code : FailureCode)
  | typeError
  | nameError
deriving DecidableEq

def Raised.code : Raised → FailureCode
  | .protocolError code => code
  | _ => .internalError

/-! ## Requests -/

structure StartRequest where
  maxSpeakers : Nat
  sampleRateHz : Nat
  channels : Nat
  maxSpeakers_bounds : 2 ≤ maxSpeakers ∧ maxSpeakers ≤ maxSpeakerClusters
  sampleRateHz_bounds : 8000 ≤ sampleRateHz ∧ sampleRateHz ≤ 48000
  channels_eq : channels = 1

structure AudioRequest where
  startedAtMs : Nat
  audio : Bytes
  startedAtMs_le : startedAtMs ≤ maxInt64
  audio_ne_nil : audio ≠ []

inductive Request where
  | start (request : StartRequest)
  | audio (request : AudioRequest)
  | finish

/-! ## The pipeline -/

/-- The encoder and the linear algebra over its vectors. -/
structure Numerics (Embedding : Type) where
  embed : List Bytes → List Embedding
  average : Embedding → Embedding → Embedding
  /-- The clusters of at least two vectors. -/
  spectral : List Embedding → Nat → Except Raised (List (Option Nat))

/-- A frame has its start, its end and its vector. -/
structure Pipeline (Embedding : Type) where
  buffer : Bytes
  bufferStartedAtMs : Nat
  frames : List (Nat × Nat × Embedding)
  reduced : Bool

structure Segment where
  startedAtMs : Nat
  endedAtMs : Nat
  speaker : Option String
deriving DecidableEq

/-- The definitions of `_contains_speech` in their order, by their number of parameters. -/
def containsSpeechParameters : List Nat := [3, 1]

/-- A call of `_contains_speech`, which is the definition that came last. With its one
argument it compares a mean with a name that the module does not define. -/
def containsSpeech (arguments : Nat) : Except Raised Bool :=
  if containsSpeechParameters.getLast? = some arguments then .error .nameError
  else .error .typeError

section

variable {Embedding : Type} (numerics : Numerics Embedding) (start : StartRequest)

abbrev Piping (Embedding : Type) := Fallible (Pipeline Embedding) Raised

def sampleBytes : Nat := 2 * start.channels

def frameBytes : Nat := sampleBytes start * start.sampleRateHz * defaultFrameMs / 1000

def durationMs (byteCount : Nat) : Nat :=
  byteCount / sampleBytes start * 1000 / start.sampleRateHz

def append (startedAtMs : Nat) (frames : List Bytes) (frameMs : Nat) : Piping Embedding Unit := do
  let speechFrames ← lift (frames.zipIdx.filterM fun _ => containsSpeech 3)
  if speechFrames.isEmpty then return ()
  else
    let embeddings := numerics.embed (speechFrames.map (·.1))
    require (embeddings.length = speechFrames.length) (.protocolError .internalError)
    update fun pipeline => { pipeline with
      frames := pipeline.frames ++ (speechFrames.zip embeddings).map fun found =>
        let first := startedAtMs + found.1.2 * frameMs
        (first, first + frameMs, found.2) }

def cutWholeFrames : Piping Embedding Unit := do
  let pipeline ← read
  let cut := pipeline.buffer.length / frameBytes start
  if cut = 0 then return ()
  else
    let frames := (List.range cut).map fun index =>
      (pipeline.buffer.drop (index * frameBytes start)).take (frameBytes start)
    update fun pipeline => { pipeline with
      buffer := pipeline.buffer.drop (cut * frameBytes start)
      bufferStartedAtMs := pipeline.bufferStartedAtMs + cut * defaultFrameMs }
    append numerics pipeline.bufferStartedAtMs frames defaultFrameMs

def flushRemainder : Piping Embedding Unit := do
  let pipeline ← read
  let remainderMs := durationMs start pipeline.buffer.length
  update fun pipeline => { pipeline with buffer := [] }
  onlyIf (minFrameMs ≤ remainderMs)
    (append numerics pipeline.bufferStartedAtMs [pipeline.buffer] remainderMs)

def Pipeline.bufferEndMs (pipeline : Pipeline Embedding) : Nat :=
  pipeline.bufferStartedAtMs + durationMs start pipeline.buffer.length

/-- A window that does not continue the buffer closes it off first. -/
def addWindow (request : AudioRequest) : Piping Embedding Unit := do
  require (request.audio ≠ [] ∧ sampleBytes start ∣ request.audio.length)
    (.protocolError .audioUnsupported)
  let pipeline ← read
  onlyIf (pipeline.buffer ≠ [] ∧ request.startedAtMs ≠ pipeline.bufferEndMs start)
    (flushRemainder numerics start)
  update fun pipeline => { pipeline with
    buffer := pipeline.buffer ++ request.audio
    bufferStartedAtMs :=
      if pipeline.buffer = [] then request.startedAtMs else pipeline.bufferStartedAtMs }
  cutWholeFrames numerics start

def mergeContiguous : List (Nat × Nat × Embedding) → List (Nat × Nat × Embedding)
  | current :: following :: rest =>
    if following.1 = current.2.1 then
      (current.1, following.2.1, numerics.average current.2.2 following.2.2) :: mergeContiguous rest
    else current :: mergeContiguous (following :: rest)
  | frames => frames

/-- Halve the resolution until the frames fit. A turn that merges nothing raises, so there
are no more turns than frames. -/
def reduceToBudget : Nat → Piping Embedding Unit
  | 0 => return ()
  | turns + 1 => do
    let pipeline ← read
    let merged := mergeContiguous numerics pipeline.frames
    if pipeline.frames.length ≤ maxEmbeddingFrames then return ()
    else
      require (merged.length ≠ pipeline.frames.length) (.protocolError .audioUnsupported)
      update fun pipeline => { pipeline with frames := merged, reduced := true }
      reduceToBudget turns

def clusterEmbeddings (maxSpeakers : Nat) : List Embedding → Except Raised (List (Option Nat))
  | [] => .ok []
  | [_] => .ok [some 0]
  | embeddings => numerics.spectral embeddings maxSpeakers

/-- The names given so far and the turns, with another frame. -/
def pushTurn (taken : List Nat × List Segment) (turn : (Nat × Nat) × Option Nat) :
    List Nat × List Segment :=
  let names := turn.2.elim taken.1 (pushNew taken.1)
  let speaker := turn.2.map fun label => "spk-" ++ toString (names.idxOf label + 1)
  let apart := taken.2 ++ [⟨turn.1.1, turn.1.2, speaker⟩]
  match taken.2.getLast? with
  | none => (names, apart)
  | some last =>
    if last.endedAtMs = turn.1.1 ∧ last.speaker = speaker then
      (names, taken.2.dropLast ++ [⟨last.startedAtMs, turn.1.2, speaker⟩])
    else (names, apart)

def finish : Piping Embedding (List Segment) := do
  flushRemainder numerics start
  let pipeline ← read
  reduceToBudget numerics pipeline.frames.length
  let pipeline ← read
  let labels ← lift (clusterEmbeddings numerics start.maxSpeakers (pipeline.frames.map (·.2.2)))
  let spans := pipeline.frames.map fun frame => (frame.1, frame.2.1)
  return ((spans.zip labels).foldl pushTurn ([], [])).2

def Pipeline.warnings (pipeline : Pipeline Embedding) : List String :=
  if pipeline.reduced then ["frames_reduced"] else []

/-! ## The session -/

inductive Line where
  | ready
  | result (segments : List Segment) (warnings : List String)
  | failure (code : FailureCode)
deriving DecidableEq

def isSpeakerLabel (label : String) : Bool :=
  let index := label.toList.drop 4
  "spk-".toList.isPrefixOf label.toList ∧ index ≠ [] ∧ index.length ≤ 4 ∧
    index.all Char.isDigit ∧ index.head? ≠ some '0'

def resultText (segments : List Segment) (warnings : List String) : String :=
  let quoted := fun text => "\"" ++ text ++ "\""
  let texts := segments.map fun segment => "\x7b\"start_ms\":" ++ toString segment.startedAtMs ++
    ",\"end_ms\":" ++ toString segment.endedAtMs ++ ",\"speaker\":" ++
    segment.speaker.elim "null" quoted ++ "\x7d"
  "\x7b\"type\":\"result\",\"segments\":[" ++ ",".intercalate texts ++ "],\"warnings\":[" ++
    ",".intercalate (warnings.map quoted) ++ "]\x7d\n"

def encodeResult (segments : List Segment) (warnings : List String) : Except Raised Line :=
  let ends := 0 :: segments.map (·.endedAtMs)
  if maxDiarizedSegments < segments.length ∨ maxWarnings < warnings.length then
    .error (.protocolError .resultTooLarge)
  else if ¬ (ends.zip segments).all fun (previousEnd, segment) =>
      previousEnd ≤ segment.startedAtMs ∧ segment.startedAtMs ≤ segment.endedAtMs ∧
        segment.endedAtMs ≤ maxInt64 ∧ segment.speaker.all isSpeakerLabel then
    .error (.protocolError .internalError)
  else if maxSpeakerClusters < (segments.filterMap (·.speaker)).dedup.length ∨
      maxResponseBytes < (resultText segments warnings).utf8ByteSize then
    .error (.protocolError .resultTooLarge)
  else .ok (.result segments warnings)

def failed (raised : Raised) : List Line × Nat := ([.failure raised.code], 1)

/-- The lines that are written and the exit status; the requests end where the pipe is closed. -/
def run : Option (StartRequest × Pipeline Embedding) → List Request → List Line × Nat
  | _, [] => ([], 0)
  | none, .start start :: rest =>
    let (lines, status) := run (some (start, ⟨[], 0, [], false⟩)) rest
    (.ready :: lines, status)
  | some _, .start _ :: _ | none, _ :: _ => failed (.protocolError .requestInvalid)
  | some (start, pipeline), .audio request :: rest =>
    if ¬ 2 * start.channels ∣ request.audio.length then failed (.protocolError .audioUnsupported)
    else match addWindow numerics start request pipeline with
      | (.ok (), reached) => run (some (start, reached)) rest
      | (.error raised, _) => failed raised
  | some (start, pipeline), .finish :: _ =>
    match finish numerics start pipeline with
    | (.error raised, _) => failed raised
    | (.ok segments, reached) =>
      match encodeResult segments reached.warnings with
      | .ok line => ([line], 0)
      | .error raised => failed raised

end

/-! ## The runtime's side -/

structure Reconciliation where
  mediaEndMs : Nat

namespace Reconciliation

def observe (state : Reconciliation) (window : MeetingAudioWindow) : Reconciliation :=
  let audioMs := min (window.samples * 1000 / window.format.sampleRateHz.toNat) u64Max
  ⟨max state.mediaEndMs (saturatingAdd window.startedAtMs audioMs)⟩

/-- The segments, the end of the last one and the clusters so far. -/
def acceptSegment (limit : Nat) (taken : List DiarizedSegment × Nat × List String)
    (segment : Segment) : Except AdapterError (List DiarizedSegment × Nat × List String) := do
  let (segments, previousEndMs, clusters) := taken
  if segment.endedAtMs < segment.startedAtMs ∨ limit < segment.endedAtMs ∨
      segment.startedAtMs < previousEndMs then
    .error ⟨"local diarization sidecar returned a segment with unusable timings"⟩
  else
    let (cluster, clusters) ← match segment.speaker with
      | none => .ok (none, clusters)
      | some label => (labelFor clusters label).map fun found => (some found.1, found.2)
    let parsed ← DiarizedSegment.new ("seg-" ++ toString (segments.length + 1))
      segment.startedAtMs segment.endedAtMs "" cluster
    return (segments ++ [parsed], segment.endedAtMs, clusters)

def accept (state : Reconciliation) (answered : List Segment) (warnings : List String) :
    Except AdapterError DiarizationResult := do
  if maxDiarizedSegments < answered.length then .error segmentLimit
  else
    let limit := saturatingAdd state.mediaEndMs timingToleranceMs
    let (segments, _) ← answered.foldlM (acceptSegment limit) ([], 0, [])
    DiarizationResult.new segments
      ((if segments.isEmpty then [.noSpeechDetected] else []) ++
        if warnings.isEmpty then [] else [.providerReportedWarnings])

end Reconciliation

/-! ## Which recordings are answered -/

/-- The audio of each stretch of windows that adjoin, the first of which goes on from what was
gathered. -/
def stretches (start : StartRequest) : Nat → Bytes → List AudioRequest → List Bytes
  | _, gathered, [] => [gathered]
  | startedAtMs, gathered, request :: rest =>
    if gathered = [] then stretches start request.startedAtMs request.audio rest
    else if request.startedAtMs = startedAtMs + durationMs start gathered.length then
      stretches start startedAtMs (gathered ++ request.audio) rest
    else gathered :: stretches start request.startedAtMs request.audio rest

/-- No stretch has the length of a frame. -/
def Brief (start : StartRequest) (startedAtMs : Nat) (gathered : Bytes)
    (requests : List AudioRequest) : Prop :=
  ∀ stretch ∈ stretches start startedAtMs gathered requests,
    durationMs start stretch.length < minFrameMs

section

variable {Embedding : Type} {numerics : Numerics Embedding} {start : StartRequest}
  {pipeline : Pipeline Embedding}

theorem durationMs_mono {first second : Nat} (h : first ≤ second) :
    durationMs start first ≤ durationMs start second :=
  Nat.div_le_div_right (Nat.mul_le_mul_right _ (Nat.div_le_div_right h))

variable (start) in
theorem frameBytes_eq : frameBytes start = 3 * start.sampleRateHz := by
  simp only [frameBytes, sampleBytes, start.channels_eq, defaultFrameMs]
  omega

/-- A whole frame is longer than the least remainder that counts. -/
theorem minFrameMs_le_durationMs {count : Nat} (h : frameBytes start ≤ count) :
    minFrameMs ≤ durationMs start count := by
  have hrate := start.sampleRateHz_bounds.1
  rw [frameBytes_eq] at h
  rw [durationMs, sampleBytes, start.channels_eq, Nat.le_div_iff_mul_le (by omega), minFrameMs]
  omega

/-- A stretch that goes on from what was gathered is at least as long. -/
theorem exists_stretch (startedAtMs : Nat) (gathered : Bytes) (requests : List AudioRequest) :
    ∃ stretch ∈ stretches start startedAtMs gathered requests,
      gathered.length ≤ stretch.length := by
  induction requests generalizing startedAtMs gathered with
  | nil => exact ⟨gathered, mem_singleton_self _, le_rfl⟩
  | cons request rest ih =>
    unfold stretches
    split
    next hempty =>
      obtain ⟨stretch, hmem, -⟩ := ih request.startedAtMs request.audio
      exact ⟨stretch, hmem, by simp [hempty]⟩
    · split
      · obtain ⟨stretch, hmem, hlength⟩ := ih startedAtMs (gathered ++ request.audio)
        rw [length_append] at hlength
        exact ⟨stretch, hmem, by omega⟩
      · exact ⟨gathered, mem_cons_self, le_rfl⟩

variable (requests : List AudioRequest)

theorem not_brief_of_le {startedAtMs : Nat} {gathered : Bytes}
    (h : minFrameMs ≤ durationMs start gathered.length) :
    ¬ Brief start startedAtMs gathered requests := by
  intro hbrief
  obtain ⟨stretch, hmem, hlength⟩ := exists_stretch startedAtMs gathered requests
  exact absurd (hbrief stretch hmem) (Nat.not_lt.mpr (h.trans (durationMs_mono hlength)))

/-- Testing a frame raises. -/
theorem append_raises (startedAtMs frameMs : Nat) (frame : Bytes) (frames : List Bytes) :
    append numerics startedAtMs (frame :: frames) frameMs pipeline =
      (.error .typeError, pipeline) :=
  rfl

theorem flushRemainder_eq : flushRemainder numerics start pipeline =
    (if minFrameMs ≤ durationMs start pipeline.buffer.length then .error .typeError else .ok (),
      { pipeline with buffer := [] }) := by
  unfold flushRemainder
  rw [read_bind, update_bind]
  by_cases hlong : minFrameMs ≤ durationMs start pipeline.buffer.length
  · simp only [onlyIf, hlong, decide_true, if_true]
    exact append_raises _ _ _ _
  · simp only [onlyIf, hlong, decide_false, Bool.false_eq_true, if_false]
    rfl

variable (numerics start pipeline) in
/-- Cutting changes nothing until the buffer holds a frame, and then raises. -/
theorem cutWholeFrames_eq : if frameBytes start ≤ pipeline.buffer.length then
      (cutWholeFrames numerics start pipeline).1 = .error .typeError
    else cutWholeFrames numerics start pipeline = (.ok (), pipeline) := by
  have hrate := start.sampleRateHz_bounds.1
  have hframe := frameBytes_eq start
  split
  next hlong =>
    have hcut : ¬ pipeline.buffer.length / frameBytes start = 0 := by
      rw [Nat.div_eq_zero_iff]
      omega
    obtain ⟨count, hcount⟩ := Nat.exists_eq_succ_of_ne_zero hcut
    unfold cutWholeFrames
    rw [read_bind]
    simp only [hcut, if_false, update_bind]
    rw [hcount, range_succ_eq_map, map_cons, append_raises]
  next hshort =>
    have hcut : pipeline.buffer.length / frameBytes start = 0 :=
      Nat.div_eq_of_lt (Nat.lt_of_not_le hshort)
    unfold cutWholeFrames
    rw [read_bind]
    simp only [hcut, if_true]
    rfl

/-- How a window is taken in: it is gathered and leaves the same stretches, or a frame raised
and some stretch is not brief. -/
inductive Takes (start : StartRequest) (pipeline : Pipeline Embedding) (request : AudioRequest)
    (requests : List AudioRequest) : Except Raised Unit × Pipeline Embedding → Prop
  | gathered {reached} (hframes : reached.frames = pipeline.frames)
      (hreduced : reached.reduced = pipeline.reduced)
      (hbrief : Brief start reached.bufferStartedAtMs reached.buffer requests ↔
        Brief start pipeline.bufferStartedAtMs pipeline.buffer (request :: requests)) :
      Takes start pipeline request requests (.ok (), reached)
  | raised {reached}
      (hlong : ¬ Brief start pipeline.bufferStartedAtMs pipeline.buffer (request :: requests)) :
      Takes start pipeline request requests (.error .typeError, reached)

/-- What is gathered is cut. -/
theorem cutWholeFrames_takes {request : AudioRequest} (buffer : Bytes) (startedAtMs : Nat)
    (hbrief : Brief start startedAtMs buffer requests ↔
      Brief start pipeline.bufferStartedAtMs pipeline.buffer (request :: requests)) :
    Takes start pipeline request requests (cutWholeFrames numerics start
      { pipeline with buffer := buffer, bufferStartedAtMs := startedAtMs }) := by
  have hcut := cutWholeFrames_eq numerics start
    { pipeline with buffer := buffer, bufferStartedAtMs := startedAtMs }
  split at hcut
  next hlong =>
    rw [← Prod.eta (cutWholeFrames _ _ _), hcut]
    exact .raised fun h => not_brief_of_le requests (minFrameMs_le_durationMs hlong) (hbrief.mpr h)
  next =>
    rw [hcut]
    exact .gathered rfl rfl hbrief

variable (numerics pipeline) in
/-- A window first closes off what it does not continue, and then is gathered. -/
theorem addWindow_takes {request : AudioRequest}
    (hwhole : 2 * start.channels ∣ request.audio.length) :
    Takes start pipeline request requests (addWindow numerics start request pipeline) := by
  have hadmitted : request.audio ≠ [] ∧ sampleBytes start ∣ request.audio.length :=
    ⟨request.audio_ne_nil, hwhole⟩
  rw [addWindow, bind_of_ok (require_of_true hadmitted _), read_bind]
  by_cases hempty : pipeline.buffer = []
  · simp only [hempty, onlyIf, ne_eq, not_true_eq_false, false_and, decide_false,
      Bool.false_eq_true, if_false]
    refine cutWholeFrames_takes _ _ _ ?_
    simp [Brief, stretches, hempty]
  by_cases hnext : request.startedAtMs = pipeline.bufferEndMs start
  · simp only [hnext, onlyIf, ne_eq, not_true_eq_false, and_false, decide_false,
      Bool.false_eq_true, if_false]
    refine cutWholeFrames_takes _ _ _ ?_
    rw [Pipeline.bufferEndMs] at hnext
    simp [Brief, stretches, hempty, hnext]
  · simp only [hempty, hnext, onlyIf, ne_eq, not_false_eq_true, and_self, decide_true, if_true]
    rw [bind_apply, flushRemainder_eq]
    by_cases hlong : minFrameMs ≤ durationMs start pipeline.buffer.length
    · rw [if_pos hlong]
      exact .raised (not_brief_of_le _ hlong)
    · rw [if_neg hlong]
      refine cutWholeFrames_takes _ _ _ ?_
      have hapart : ¬ request.startedAtMs =
          pipeline.bufferStartedAtMs + durationMs start pipeline.buffer.length := hnext
      simp [Brief, stretches, hempty, hapart, Nat.lt_of_not_le hlong]

variable (numerics start) in
/-- Without frames there is nothing to cluster. -/
theorem finish_eq (hframes : pipeline.frames = []) : finish numerics start pipeline =
    (if minFrameMs ≤ durationMs start pipeline.buffer.length then .error .typeError else .ok [],
      { pipeline with buffer := [] }) := by
  rw [finish, bind_apply, flushRemainder_eq]
  by_cases hlong : minFrameMs ≤ durationMs start pipeline.buffer.length
  · rw [if_pos hlong, if_pos hlong]
  · rw [if_neg hlong, if_neg hlong]
    obtain ⟨buffer, startedAtMs, frames, reduced⟩ := pipeline
    cases hframes
    rfl

variable (numerics start pipeline) in
/-- A session without frames answers that there are no turns, or with the exception of the
first frame. -/
theorem run_windows (hframes : pipeline.frames = [])
    (hreduced : pipeline.reduced = false)
    (hwhole : ∀ request ∈ requests, 2 * start.channels ∣ request.audio.length) :
    (Brief start pipeline.bufferStartedAtMs pipeline.buffer requests →
      (run numerics (some (start, pipeline)) (requests.map .audio ++ [.finish])).1 =
        [.result [] []]) ∧
    (¬ Brief start pipeline.bufferStartedAtMs pipeline.buffer requests →
      (run numerics (some (start, pipeline)) (requests.map .audio ++ [.finish])).1 =
        [.failure .internalError]) := by
  induction requests generalizing pipeline with
  | nil =>
    have hfinish := finish_eq numerics start hframes
    have hbrief : Brief start pipeline.bufferStartedAtMs pipeline.buffer [] ↔
        durationMs start pipeline.buffer.length < minFrameMs := by
      simp [Brief, stretches]
    rw [hbrief, map_nil]
    constructor
    · intro hshort
      rw [if_neg (Nat.not_le.mpr hshort)] at hfinish
      have hencode : encodeResult [] [] = .ok (.result [] []) := rfl
      simp [run, hfinish, Pipeline.warnings, hreduced, hencode]
    · intro hlong
      rw [if_pos (Nat.le_of_not_lt hlong)] at hfinish
      simp [run, hfinish, failed, Raised.code]
  | cons request requests ih =>
    have hfirst := hwhole request mem_cons_self
    have htakes := addWindow_takes numerics pipeline requests hfirst
    simp only [map_cons, cons_append, run, hfirst, not_true_eq_false, if_false]
    revert htakes
    generalize addWindow numerics start request pipeline = taken
    rintro (⟨hsame, hkept, hbrief⟩ | hlong)
    · rw [← hbrief]
      exact ih _ (hsame.trans hframes) (hkept.trans hreduced) fun other hother =>
        hwhole other (mem_cons_of_mem _ hother)
    · exact ⟨fun h => absurd h hlong, fun _ => rfl⟩

/-- A recording in whole samples gets its answer, which the runtime accepts, exactly if no
stretch of adjoining windows has the length of a frame. Any other ends in an internal error. -/
theorem sidecar_answers_iff (numerics : Numerics Embedding) (start : StartRequest)
    (requests : List AudioRequest)
    (hwhole : ∀ request ∈ requests, 2 * start.channels ∣ request.audio.length) :
    let lines := (run numerics none (.start start :: (requests.map .audio ++ [.finish]))).1
    (Brief start 0 [] requests ↔ ∃ segments warnings, lines = [.ready, .result segments warnings] ∧
      ∀ observed : List MeetingAudioWindow, ∃ result,
        (observed.foldl .observe ⟨0⟩ : Reconciliation).accept segments warnings = .ok result) ∧
    (¬ Brief start 0 [] requests → lines = [.ready, .failure .internalError]) := by
  obtain ⟨hbrief, hlong⟩ :=
    run_windows numerics start ⟨[], 0, [], false⟩ requests rfl rfl hwhole
  refine ⟨⟨fun h => ?_, fun ⟨segments, warnings, hlines, _⟩ => ?_⟩, fun h => ?_⟩
  · exact ⟨[], [], congrArg (Line.ready :: ·) (hbrief h), fun observed => ⟨_, rfl⟩⟩
  · by_contra h
    have hsecond := congrArg tail hlines
    simp only [run, tail_cons] at hsecond
    rw [hlong h] at hsecond
    cases hsecond
  · exact congrArg (.ready :: ·) (hlong h)

end

def plainNumerics : Numerics Unit :=
  ⟨fun frames => frames.map fun _ => (), fun _ _ => (),
    fun found _ => .ok (found.map fun _ => some 0)⟩

def plainStart : StartRequest := ⟨2, 8000, 1, by decide, by decide, rfl⟩

/-- Two windows that adjoin and, after a gap, a third. -/
def threeWindows : List AudioRequest :=
  [⟨0, replicate 16 0, by decide, nofun⟩, ⟨1, replicate 16 1, by decide, nofun⟩,
    ⟨400, replicate 32 2, by decide, nofun⟩]

theorem sidecar_answers_three_windows :
    stretches plainStart 0 [] threeWindows =
      [replicate 16 0 ++ replicate 16 1, replicate 32 2] ∧
    ∃ segments warnings, (run plainNumerics none
      (.start plainStart :: (threeWindows.map .audio ++ [.finish]))).1 =
        [.ready, .result segments warnings] := by
  have hbrief : Brief plainStart 0 [] threeWindows := by
    unfold Brief
    decide
  obtain ⟨segments, warnings, hlines, -⟩ :=
    (sidecar_answers_iff plainNumerics plainStart _ (by decide)).1.mp hbrief
  exact ⟨by decide, segments, warnings, hlines⟩

/-- Half a second of audio ends the session. -/
theorem half_second_fails :
    (run plainNumerics none [.start plainStart,
      .audio ⟨0, List.replicate 8000 0, by decide, nofun⟩, .finish]).1 =
        [.ready, .failure .internalError] := by
  decide +kernel

end ConversationRuntime.LocalDiarization
