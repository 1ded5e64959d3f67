import ConversationRuntime.Foundation.Lists
import ConversationRuntime.Foundation.Loop
import ConversationRuntime.Recording.Chunk

/-! # Alignment of a timed recording

Each frame of a timed recording is placed on the local wall clock by clock pairs
that were recorded around it. Two cursors walk the chunks: one assesses the
frames, the other reads ahead for clock pairs and keeps only the last few. Both
number the runs of consistent capture by the same rules.
-/

namespace ConversationRuntime

open Foundation

/-! ## Runs of consistent capture -/

structure CaptureAssessment where
  mapped : Bool
  reasons : List String
deriving DecidableEq

structure CaptureTracker where
  epoch : Option CaptureEpoch
  sequence : UInt64
  outputEnd : Option Nat
  hostEnd : Option UInt64
  run : Nat
deriving DecidableEq

def pushReason (reasons : List String) (reason : String) : List String :=
  if reason ∈ reasons then reasons else reasons ++ [reason]

namespace CaptureTracker

def start : CaptureTracker := ⟨none, 0, none, none, 0⟩

def barrier (tracker : CaptureTracker) : CaptureTracker := { tracker with run := tracker.run + 1 }

/-- A new clock domain forgets the watermark, a new domain or epoch the frames. -/
def observeEpoch (tracker : CaptureTracker) (epoch : CaptureEpoch) : CaptureTracker :=
  let sameDomain := tracker.epoch.any fun prior => prior.clockDomainId = epoch.clockDomainId
  let sameEpoch := tracker.epoch.any fun prior =>
    prior.clockDomainId = epoch.clockDomainId ∧ prior.captureEpoch = epoch.captureEpoch
  barrier { tracker with
    hostEnd := if sameDomain then tracker.hostEnd else none
    sequence := if sameEpoch then tracker.sequence else 0
    outputEnd := if sameEpoch then tracker.outputEnd else none
    epoch := some epoch }

def observe (tracker : CaptureTracker) : RecordedChunk → CaptureTracker
  | .captureMetadata (.epoch epoch) => tracker.observeEpoch epoch
  | .captureMetadata (.discontinuity _ _) => tracker.barrier
  | .gapStarted _ _ => tracker.barrier
  | .alignmentLimit => tracker.barrier
  | _ => tracker

/-- The frame does not continue the one before it. -/
def isHole (tracker : CaptureTracker) (frame : FrameProvenance) : Bool :=
  tracker.sequence ≠ 0 ∧
    (checkedAdd tracker.sequence.toNat 1 ≠ some frame.sequence.toNat ∨
      tracker.outputEnd ≠ some frame.outputStartSample.toNat)

/-- The tracker at a frame, whatever its span. -/
def enter (tracker : CaptureTracker) (frame : FrameProvenance) : CaptureTracker :=
  { (if tracker.isHole frame then tracker.barrier else tracker) with
    sequence := frame.sequence
    outputEnd := checkedAdd frame.outputStartSample.toNat frame.sampleCount.toNat }

/-- A span may overlap the watermark by one nanosecond and must end past it. -/
def isInconsistent (tracker : CaptureTracker) (span : NominalCaptureSpan) : Bool :=
  tracker.hostEnd.any fun finish =>
    span.hostStartNs.toNat < finish.toNat - 1 ∨ span.hostEndNs ≤ finish

def frame (tracker : CaptureTracker) : Option FrameProvenance → CaptureAssessment × CaptureTracker
  | none => (⟨false, ["missing_timing"]⟩, tracker.barrier)
  | some frame =>
    let reasons := if tracker.isHole frame then ["sequence_hole"] else []
    let entered := tracker.enter frame
    match frame.span with
    | none => (⟨false, pushReason reasons "missing_timing"⟩, entered.barrier)
    | some span =>
      if entered.isInconsistent span then
        (⟨false, pushReason reasons "inconsistent_coordinates"⟩, entered.barrier)
      else (⟨entered.epoch.isSome, reasons⟩, { entered with hostEnd := some span.hostEndNs })

/-- One chunk, as both cursors see it. -/
def take (tracker : CaptureTracker) : RecordedChunk → CaptureTracker
  | .timedFrame _ _ timing _ => (tracker.frame timing).2
  | chunk => tracker.observe chunk

end CaptureTracker

/-! ## Intervals between clock pairs -/

/-- Why the interval between two clock pairs is not used. -/
def intervalReason (first second : CaptureClockPair) : Option String :=
  if first.clockDomainId ≠ second.clockDomainId then some "clock_domain_mismatch"
  else if first.wallEpoch ≠ second.wallEpoch then some "wall_clock_discontinuity"
  else if maxClockBracketNs < first.hostAfterNs - first.hostBeforeNs ∨
      maxClockBracketNs < second.hostAfterNs - second.hostBeforeNs then
    some "clock_bracket_exceeded"
  else if second.midpointTwice ≤ first.midpointTwice then some "inconsistent_coordinates"
  else
    let host := second.midpointTwice - first.midpointTwice
    if maxClockPairGapNs.toNat * 2 < host then some "clock_pair_gap"
    else
      let wall := second.localUnixNs.toInt - first.localUnixNs.toInt
      if wall < 0 ∨ maxClockResidualNs.toNat * 2 < (wall * 2 - host).natAbs then
        some "wall_clock_discontinuity"
      else none

/-- Why a frame was not placed on the wall clock. -/
inductive MappingError where
  | missing (reason : String)
deriving DecidableEq

/-- The wall time at twice a host time between two pairs, rounded as asked. -/
def interpolate (first second : CaptureClockPair) (host2 : Nat) (ceil : Bool) :
    Except MappingError Int :=
  let overflowed : Except MappingError Int := .error (.missing "arithmetic_overflow")
  let denominator := second.midpointTwice - first.midpointTwice
  let relative := host2 - first.midpointTwice
  if second.midpointTwice ≤ first.midpointTwice then overflowed
  else if host2 < first.midpointTwice ∨ denominator < relative then overflowed
  else
    let product := (second.localUnixNs.toInt - first.localUnixNs.toInt) * relative
    if product < -2 ^ 127 ∨ 2 ^ 127 ≤ product then overflowed
    else
      let rounded := product / denominator +
        if ceil ∧ product % denominator ≠ 0 then 1 else 0
      let wall := first.localUnixNs.toInt + rounded
      if wall < -2 ^ 63 ∨ 2 ^ 63 ≤ wall then overflowed else .ok wall

/-! ## Mapping a span piece by piece -/

structure StampedPair where
  pair : CaptureClockPair
  run : Nat
  wallRun : Nat
deriving DecidableEq

structure ClientWallEstimate where
  quality : String
  policyId : String
  localStartNs : String
  localEndNs : String
  wallEpoch : String
  wallRun : String
  maximumBracketNs : String
  maximumResolutionNs : String
  modelAllowanceNs : String
  interpolationRoundingNs : String
  captureRoundingNs : String
  captureUncertaintyNs : Option String
  externalUtcAccuracyNs : Option String
  overallPhysicalAccuracyNs : Option String
deriving DecidableEq

abbrev Mapping := Except MappingError ClientWallEstimate

/-- How far a span has been mapped, and what its estimate states so far. -/
structure Progress where
  point : Nat
  mappedStart : Option Int
  mappedEnd : Option Int
  maximumBracket : UInt64
  maximumResolution : UInt64
  external : Option UInt64
  wallEpoch : Option UInt64
  wallRun : Option Nat
deriving DecidableEq

def missingClockPair : MappingError := .missing "missing_clock_pair"

namespace Progress

def start (point : Nat) : Progress := ⟨point, none, none, 0, 0, some 0, none, none⟩

/-- Take in what one pair says about its own accuracy. -/
def widen (progress : Progress) (pair : CaptureClockPair) : Progress :=
  { progress with
    maximumBracket := max progress.maximumBracket (pair.hostAfterNs - pair.hostBeforeNs)
    maximumResolution := max progress.maximumResolution pair.wallResolutionNs
    external := match progress.external, pair.externalUtcAccuracyNs with
      | some first, some second => some (max first second)
      | _, _ => none }

/-- The start of the span, which its first interval maps. -/
def startIn (progress : Progress) (left right : StampedPair) : Except MappingError Int :=
  match progress.mappedStart with
  | some mapped => .ok mapped
  | none => interpolate left.pair right.pair progress.point false

/-- Map on to the end of an interval, or of the span. -/
def cross (progress : Progress) (end2 : Nat) (left right : StampedPair) :
    Except MappingError Progress :=
  match intervalReason left.pair right.pair with
  | some reason => .error (.missing reason)
  | none =>
    if left.wallRun ≠ right.wallRun ∨ progress.wallRun.any (· ≠ left.wallRun) then
      .error (.missing "wall_clock_discontinuity")
    else do
      let mappedStart ← progress.startIn left right
      let nextPoint := min end2 right.pair.midpointTwice
      let mappedEnd ← interpolate left.pair right.pair nextPoint true
      return widen (widen { progress with
        point := nextPoint
        mappedStart := some mappedStart
        mappedEnd := some mappedEnd
        wallEpoch := some left.pair.wallEpoch
        wallRun := some left.wallRun } left.pair) right.pair

def estimate (progress : Progress) : Mapping :=
  match progress.mappedStart, progress.mappedEnd with
  | some mappedStart, some mappedEnd => .ok {
      quality := "local_wall_estimate"
      policyId := "local-wall-estimate/v1"
      localStartNs := toString mappedStart
      localEndNs := toString mappedEnd
      wallEpoch := toString (progress.wallEpoch.getD 0)
      wallRun := toString (progress.wallRun.getD 0)
      maximumBracketNs := toString progress.maximumBracket
      maximumResolutionNs := toString progress.maximumResolution
      modelAllowanceNs := toString maxClockResidualNs
      interpolationRoundingNs := "2"
      captureRoundingNs := "0"
      captureUncertaintyNs := none
      externalUtcAccuracyNs := progress.external.map toString
      overallPhysicalAccuracyNs := none }
  | _, _ => .error missingClockPair

end Progress

/-- The interval of a run that holds a point. -/
def StampedPair.holds (run point : Nat) (interval : StampedPair × StampedPair) : Bool :=
  interval.1.run = run ∧ interval.2.run = run ∧ interval.1.pair.midpointTwice ≤ point ∧
    point < interval.2.pair.midpointTwice

/-- The first interval of the run around a point. -/
def findInterval (pairs : List StampedPair) (run point : Nat) :
    Option (StampedPair × StampedPair) :=
  (adjacent pairs).find? (StampedPair.holds run point)

/-! ## The cursor that reads ahead -/

/-- `chunks` are the chunks its positioned reader still yields. -/
structure PairCursor where
  chunks : List RecordedChunk
  tracker : CaptureTracker
  pairs : List StampedPair
  wallRun : Nat
  ended : Bool

/-- How many clock pairs the cursor keeps. -/
def maxKeptPairs : Nat := 6

/-- The wall run that a pair belongs to, behind the last one seen. -/
def nextWallRun (last : Option StampedPair) (run wallRun : Nat) (pair : CaptureClockPair) : Nat :=
  if last.any fun prior => prior.run ≠ run ∨ (intervalReason prior.pair pair).isSome then
    wallRun + 1
  else wallRun

namespace PairCursor

def new (chunks : List RecordedChunk) : PairCursor := ⟨chunks, .start, [], 1, false⟩

/-- Keep a pair, and let the oldest go. -/
def push (cursor : PairCursor) (pair : CaptureClockPair) (rest : List RecordedChunk) : PairCursor :=
  let wallRun := nextWallRun cursor.pairs.getLast? cursor.tracker.run cursor.wallRun pair
  let pairs := cursor.pairs ++ [⟨pair, cursor.tracker.run, wallRun⟩]
  { cursor with
    chunks := rest
    wallRun := wallRun
    pairs := if maxKeptPairs < pairs.length then pairs.tail else pairs }

/-- Read on to the next clock pair. -/
def scan : List RecordedChunk → PairCursor → Bool × PairCursor
  | [], cursor => (false, { cursor with chunks := [], ended := true })
  | .captureMetadata (.clockPair pair) :: rest, cursor => (true, cursor.push pair rest)
  | chunk :: rest, cursor => scan rest { cursor with tracker := cursor.tracker.take chunk }

/-- Answers whether another pair was read. -/
def advance (cursor : PairCursor) : Bool × PairCursor :=
  if cursor.ended then (false, cursor) else scan cursor.chunks cursor

/-- The pairs kept reach the start of the span. -/
def reaches (cursor : PairCursor) (run start2 : Nat) : Bool :=
  2 ≤ cursor.pairs.length ∧ cursor.pairs.getLast?.any fun last =>
    run < last.run ∨ (last.run = run ∧ start2 ≤ last.pair.midpointTwice)

/-- One turn of the loop that reads up to the start of the span. -/
def readAheadTurn (run start2 : Nat) (cursor : PairCursor) : Turn PairCursor PairCursor :=
  if cursor.reaches run start2 then .done cursor
  else
    match cursor.advance with
    | (true, next) => .again next
    | (false, next) => .done next

/-- The next pair may still belong to the interval of the point. -/
def awaits (cursor : PairCursor) (run point : Nat) : Bool :=
  cursor.pairs.getLast?.any fun last =>
    last.run < run ∨ (last.run = run ∧ last.pair.midpointTwice ≤ point)

/-- One turn of the loop that maps the span. -/
def mapTurn (run end2 : Nat) (state : PairCursor × Progress) :
    Turn (PairCursor × Progress) (Mapping × PairCursor) :=
  let (cursor, progress) := state
  if progress.point < end2 then
    match findInterval cursor.pairs run progress.point with
    | some (left, right) =>
      match progress.cross end2 left right with
      | .ok next => .again (cursor, next)
      | .error error => .done (.error error, cursor)
    | none =>
      if cursor.awaits run progress.point then
        match cursor.advance with
        | (true, next) => .again (next, progress)
        | (false, next) => .done (.error missingClockPair, next)
      else .done (.error missingClockPair, cursor)
  else .done (progress.estimate, cursor)

/-- Place a span of a run on the wall clock. Each turn reads a chunk or moves
the point, which bounds the turns; no result means that they did not suffice. -/
def map (cursor : PairCursor) (run : Nat) (start finish : UInt64) :
    Option (Mapping × PairCursor) := do
  let start2 := start.toNat * 2
  let end2 := finish.toNat * 2
  let ahead ← loop (readAheadTurn run start2) (cursor.chunks.length + 1) cursor
  loop (mapTurn run end2) (ahead.chunks.length + (end2 - start2) + 1) (ahead, .start start2)

end PairCursor

/-! ## Both cursors over one recording -/

/-- The frame cursor's tracker, and the cursor that reads ahead. -/
structure Alignment where
  tracker : CaptureTracker
  pairs : PairCursor

namespace Alignment

def start (chunks : List RecordedChunk) : Alignment := ⟨.start, .new chunks⟩

/-- One chunk of the frame cursor: a frame that is mapped asks for its place. -/
def take (alignment : Alignment) (chunk : RecordedChunk) : Alignment :=
  let tracker := alignment.tracker.take chunk
  match chunk with
  | .timedFrame _ _ timing _ =>
    if (alignment.tracker.frame timing).1.mapped then
      match timing.bind FrameProvenance.span with
      | some span =>
        match alignment.pairs.map tracker.run span.hostStartNs span.hostEndNs with
        | some (_, pairs) => ⟨tracker, pairs⟩
        | none => ⟨tracker, alignment.pairs⟩
      | none => ⟨tracker, alignment.pairs⟩
    else ⟨tracker, alignment.pairs⟩
  | _ => ⟨tracker, alignment.pairs⟩

end Alignment

/-! ## The search over all pairs -/

/-- Every clock pair of some chunks, stamped as the cursor stamps them. -/
structure Stamping where
  tracker : CaptureTracker
  pairs : List StampedPair
  wallRun : Nat

namespace Stamping

def start : Stamping := ⟨.start, [], 1⟩

def push (stamping : Stamping) (pair : CaptureClockPair) : Stamping :=
  let wallRun := nextWallRun stamping.pairs.getLast? stamping.tracker.run stamping.wallRun pair
  { stamping with
    pairs := stamping.pairs ++ [⟨pair, stamping.tracker.run, wallRun⟩]
    wallRun := wallRun }

def take (stamping : Stamping) : RecordedChunk → Stamping
  | .captureMetadata (.clockPair pair) => stamping.push pair
  | chunk => { stamping with tracker := stamping.tracker.take chunk }

end Stamping

/-- All clock pairs of a recording. -/
def stampedPairs (chunks : List RecordedChunk) : List StampedPair :=
  (chunks.foldl Stamping.take .start).pairs

/-- One turn of the search over a complete list of pairs. -/
def searchTurn (pairs : List StampedPair) (run end2 : Nat) (progress : Progress) :
    Turn Progress Mapping :=
  if progress.point < end2 then
    match findInterval pairs run progress.point with
    | some (left, right) =>
      match progress.cross end2 left right with
      | .ok next => .again next
      | .error error => .done (.error error)
    | none => .done (.error missingClockPair)
  else .done progress.estimate

/-- The same piecewise search over a complete list of pairs. -/
def search (pairs : List StampedPair) (run : Nat) (start finish : UInt64) : Option Mapping :=
  loop (searchTurn pairs run (finish.toNat * 2)) (finish.toNat * 2 - start.toNat * 2 + 1)
    (.start (start.toNat * 2))

end ConversationRuntime
