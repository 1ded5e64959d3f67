import ConversationRuntime.Recording.Alignment
import ConversationRuntime.Recording.Layout
import ConversationRuntime.Recording.Operations
import ConversationRuntime.Recording.Recovery

/-! # Six clock pairs are enough

The cursor that reads ahead keeps the last six clock pairs. On a recording the
walk accepts it nevertheless finds what a search over all pairs finds: pairs of
one run are ordered by their midpoints, frames may overlap the watermark by one
nanosecond only, and the cursor never reads more than one pair past the point
it has to map.
-/

namespace ConversationRuntime

open Foundation IdealAead PairCursor StampedPair List CaptureTracker Stamping

/-! ## The watermark -/

namespace CaptureTracker

variable {tracker : CaptureTracker}

variable (tracker) in
theorem run_le_enter (frame : FrameProvenance) : tracker.run ≤ (tracker.enter frame).run := by
  unfold enter
  cases tracker.isHole frame
  · exact le_rfl
  · exact Nat.le_succ _

theorem hostEnd_enter (frame : FrameProvenance) :
    (tracker.enter frame).hostEnd = tracker.hostEnd := by
  unfold enter
  cases tracker.isHole frame <;> rfl

variable (tracker) in
/-- A frame breaks the run off and is not mapped, or moves the watermark to the
end of its span. -/
theorem frame_cases (timing : Option FrameProvenance) :
    tracker.run < (tracker.frame timing).2.run ∧ (tracker.frame timing).1.mapped = false ∨
      ∃ frame span, timing = some frame ∧ frame.span = some span ∧
        (tracker.frame timing).2.hostEnd = some span.hostEndNs ∧
        tracker.run ≤ (tracker.frame timing).2.run ∧ ∀ finish ∈ tracker.hostEnd,
          finish.toNat - 1 ≤ span.hostStartNs.toNat ∧ finish < span.hostEndNs := by
  cases timing with
  | none => exact .inl ⟨Nat.lt_succ_self _, rfl⟩
  | some frame =>
    have hrun := run_le_enter tracker frame
    simp only [CaptureTracker.frame]
    cases hspan : frame.span with
    | none => exact .inl ⟨Nat.lt_succ_of_le hrun, rfl⟩
    | some span =>
      dsimp only
      cases hbad : (tracker.enter frame).isInconsistent span with
      | true => exact .inl ⟨Nat.lt_succ_of_le hrun, rfl⟩
      | false =>
        refine .inr ⟨frame, span, rfl, hspan, rfl, hrun, fun finish hfinish => ?_⟩
        rw [isInconsistent, hostEnd_enter, hfinish] at hbad
        simpa [UInt64.not_le] using hbad

variable (tracker) in
theorem run_le_take (chunk : RecordedChunk) : tracker.run ≤ (tracker.take chunk).run := by
  have hgrows : tracker.run ≤ tracker.run + 1 := Nat.le_succ _
  cases chunk with
  | timedFrame atMs format timing bytes =>
    rcases frame_cases tracker timing with ⟨hrun, -⟩ | ⟨-, -, -, -, -, hrun, -⟩
    · exact hrun.le
    · exact hrun
  | captureMetadata metadata => cases metadata <;> first | exact hgrows | exact le_refl _
  | alignmentLimit | gapStarted => exact hgrows
  | _ => exact le_refl _

/-- The tracker has left the run, or its watermark in it lies past the point. -/
def IsPast (tracker : CaptureTracker) (run point : Nat) : Prop :=
  run < tracker.run ∨ run = tracker.run ∧ ∃ finish ∈ tracker.hostEnd, point < finish.toNat * 2

theorem IsPast.take {run point : Nat} (h : tracker.IsPast run point) (chunk : RecordedChunk) :
    (tracker.take chunk).IsPast run point := by
  have hrun : run ≤ tracker.run := by
    rcases h with hrun | ⟨hrun, -⟩ <;> exact hrun.le
  have hbehind : run < tracker.run + 1 := Nat.lt_succ_of_le hrun
  cases chunk with
  | timedFrame atMs format timing bytes =>
    rcases frame_cases tracker timing with ⟨hnew, -⟩ | ⟨-, span, -, -, hend, hgrows, hmoves⟩
    · exact .inl (lt_of_le_of_lt hrun hnew)
    · rcases h with hbefore | ⟨hsame, finish, hfinish, hpoint⟩
      · exact .inl (hbefore.trans_le hgrows)
      · rcases (hsame.trans_le hgrows).lt_or_eq with hnew | hkept
        · exact .inl hnew
        · refine .inr ⟨hkept, span.hostEndNs, hend, ?_⟩
          have hless := UInt64.lt_iff_toNat_lt.mp (hmoves finish hfinish).2
          omega
  | captureMetadata metadata =>
    cases metadata with
    | clockPair pair => exact h
    | epoch | discontinuity => exact .inl hbehind
  | alignmentLimit | gapStarted => exact .inl hbehind
  | _ => exact h

/-- Where a point that was passed lies for the next frame that is mapped. -/
theorem IsPast.before_span {run point later : Nat} (h : tracker.IsPast run point)
    (hrun : tracker.run ≤ later) {span : NominalCaptureSpan}
    (hspan : ∀ finish ∈ tracker.hostEnd, finish.toNat - 1 ≤ span.hostStartNs.toNat ∧
      finish < span.hostEndNs) :
    run < later ∨ run = later ∧ point ≤ span.hostStartNs.toNat * 2 + 1 := by
  rcases h with hbefore | ⟨hsame, finish, hfinish, hpoint⟩
  · exact .inl (lt_of_lt_of_le hbefore hrun)
  · have hoverlap := (hspan finish hfinish).1
    rcases hrun.lt_or_eq with hlater | hcurrent
    · exact .inl (hsame.trans_lt hlater)
    · refine .inr ⟨hsame.trans hcurrent, ?_⟩
      omega

end CaptureTracker

/-- A chunk is a clock pair or another one. -/
theorem RecordedChunk.pair_or_other (chunk : RecordedChunk) :
    (∃ pair, chunk = .captureMetadata (.clockPair pair)) ∨
      ∀ pair, chunk ≠ .captureMetadata (.clockPair pair) := by
  rw [← not_exists]
  exact Classical.em _

/-! ## The order of all pairs -/

namespace Stamping

/-- The order in which pairs are found: by run, and by midpoint within a run. -/
def Precedes (first second : StampedPair) : Prop :=
  first.run < second.run ∨
    first.run = second.run ∧ first.pair.midpointTwice < second.pair.midpointTwice

/-- All pairs so far are in order, and the current run's are not past the last
one that was validated. -/
structure Ordered (stamping : Stamping) (state : TimedValidation) : Prop where
  sorted : stamping.pairs.Pairwise Precedes
  last : ∀ stamped ∈ stamping.pairs, stamped.run < stamping.tracker.run ∨
    stamped.run = stamping.tracker.run ∧
      ∃ prior ∈ state.pair, stamped.pair.midpointTwice ≤ prior.midpointTwice

variable {chunk : RecordedChunk}

theorem take_of_other {stamping : Stamping} (h : ∀ pair, chunk ≠ .captureMetadata (.clockPair pair))
    : stamping.take chunk = { stamping with tracker := stamping.tracker.take chunk } := by
  cases chunk with
  | captureMetadata metadata =>
    cases metadata with
    | clockPair pair => exact absurd rfl (h pair)
    | _ => rfl
  | _ => rfl

theorem Ordered.take {state next : TimedValidation} {stamping : Stamping}
    (h : stamping.Ordered state) (haccept : state.accept chunk = .ok next) :
    (stamping.take chunk).Ordered next := by
  rcases (TimedValidation.accept_keeps haccept).2 with epoch | ⟨hpair, hlater⟩ | ⟨hother, hpair⟩
  · -- An epoch starts a new run.
    refine ⟨h.sorted, fun stamped hstamped => .inl ?_⟩
    change stamped.run < stamping.tracker.run + 1
    rcases h.last stamped hstamped with hrun | ⟨hrun, -⟩ <;> omega
  · constructor
    · refine pairwise_snoc h.sorted fun stamped hstamped => ?_
      rcases h.last stamped hstamped with hrun | ⟨hrun, prior, hprior, hle⟩
      · exact .inl hrun
      · exact .inr ⟨hrun, hle.trans_lt (hlater prior hprior)⟩
    · refine forall_mem_snoc (fun stamped hstamped => ?_) (.inr ⟨rfl, _, hpair, le_refl _⟩)
      rcases h.last stamped hstamped with hrun | ⟨hrun, prior, hprior, hle⟩
      · exact .inl hrun
      · exact .inr ⟨hrun, _, hpair, (hle.trans_lt (hlater prior hprior)).le⟩
  · rw [take_of_other hother]
    refine ⟨h.sorted, fun stamped hstamped => ?_⟩
    have hgrows := run_le_take stamping.tracker chunk
    rcases h.last stamped hstamped with hrun | ⟨hrun, hprior⟩
    · exact .inl (lt_of_lt_of_le hrun hgrows)
    · rcases hgrows.lt_or_eq with hlater | hsame
      · exact .inl (hrun.trans_lt hlater)
      · rw [hpair]
        exact .inr ⟨hrun.trans hsame, hprior⟩

end Stamping

namespace Walk

theorem validation_of_accept {walk next : Walk} {chunk : RecordedChunk}
    (h : walk.accept true chunk = .ok next) :
    walk.validation.accept chunk = .ok next.validation := by
  obtain ⟨-, validation, hvalidation, hplaced⟩ := accept_eq_ok h
  rw [(place_flags hplaced).1]
  exact hvalidation rfl

/-- The clock pairs of an accepted recording are in order. -/
theorem ordered_of_acceptAll {walk last : Walk} {chunks : List RecordedChunk} {stamping : Stamping}
    (h : walk.acceptAll true chunks = .ok last) (hgoing : last.incomplete = false)
    (hordered : stamping.Ordered walk.validation) :
    (chunks.foldl Stamping.take stamping).Ordered last.validation := by
  induction chunks generalizing walk stamping with
  | nil =>
    cases h
    exact hordered
  | cons chunk chunks ih =>
    obtain ⟨next, hnext, -, hrest⟩ := acceptAll_cons h hgoing
    exact ih hrest (hordered.take (validation_of_accept hnext))

end Walk

/-! ## What the cursor has read -/

/-- The cursor stands behind the chunks it has read, and keeps the last of the
pairs stamped on the way. -/
structure PairCursor.Reads (whole : List RecordedChunk) (cursor : PairCursor)
    (stamping : Stamping) : Prop where
  read : ∃ before, whole = before ++ cursor.chunks ∧ before.foldl Stamping.take .start = stamping
  tracker_eq : cursor.tracker = stamping.tracker
  wallRun_eq : cursor.wallRun = stamping.wallRun
  pairs_eq : cursor.pairs = lastItems maxKeptPairs stamping.pairs
  ended : cursor.ended = true → cursor.chunks = []

namespace PairCursor

variable {whole : List RecordedChunk} {cursor : PairCursor} {stamping : Stamping}

theorem Reads.getLast?_eq (h : Reads whole cursor stamping) :
    cursor.pairs.getLast? = stamping.pairs.getLast? := by
  rw [h.pairs_eq, getLast?_lastItems (by decide)]

/-- Pairs are only ever added. -/
theorem pairs_prefix (chunks : List RecordedChunk) (stamping : Stamping) :
    stamping.pairs <+: (chunks.foldl Stamping.take stamping).pairs := by
  induction chunks generalizing stamping with
  | nil => exact prefix_refl _
  | cons chunk chunks ih =>
    refine .trans ?_ (ih (stamping.take chunk))
    rcases chunk.pair_or_other with ⟨pair, rfl⟩ | hother
    · exact prefix_append _ _
    · rw [take_of_other hother]

section

variable (h : Reads whole cursor stamping)

include h

theorem Reads.pairs_prefix : stamping.pairs <+: stampedPairs whole := by
  obtain ⟨before, hwhole, rfl⟩ := h.read
  rw [stampedPairs, hwhole, foldl_append]
  exact pairs_prefix _ _

/-- A cursor at the end has stamped everything. -/
theorem Reads.pairs_of_nil (hnil : cursor.chunks = []) : stamping.pairs = stampedPairs whole := by
  obtain ⟨before, hwhole, rfl⟩ := h.read
  rw [hnil, append_nil] at hwhole
  rw [stampedPairs, hwhole]

variable {chunk : RecordedChunk} {rest : List RecordedChunk}

/-- The next chunk is read. -/
theorem Reads.next (hchunks : cursor.chunks = chunk :: rest) : (∃ before, whole = before ++ rest ∧
      before.foldl Stamping.take .start = stamping.take chunk) ∧
      (cursor.ended = true → rest = []) := by
  obtain ⟨before, hwhole, hstamping⟩ := h.read
  refine ⟨⟨before ++ [chunk], ?_, ?_⟩, fun hended => ?_⟩
  · rw [hwhole, hchunks]
    exact append_cons _ _ _
  · rw [foldl_append, hstamping]
    rfl
  · rw [h.ended hended] at hchunks
    cases hchunks

theorem Reads.push {pair : CaptureClockPair}
    (hchunks : cursor.chunks = .captureMetadata (.clockPair pair) :: rest) :
    Reads whole (cursor.push pair rest) (stamping.push pair) := by
  obtain ⟨hread, hended⟩ := h.next hchunks
  have hrun : nextWallRun cursor.pairs.getLast? cursor.tracker.run cursor.wallRun pair =
      nextWallRun stamping.pairs.getLast? stamping.tracker.run stamping.wallRun pair := by
    rw [h.getLast?_eq, h.tracker_eq, h.wallRun_eq]
  refine ⟨hread, h.tracker_eq, hrun, ?_, hended⟩
  simp only [PairCursor.push, Stamping.push, hrun]
  rw [lastItems_snoc (by decide), h.pairs_eq, h.tracker_eq]

/-- A chunk that is no clock pair only moves the tracker. -/
theorem Reads.skip (hchunks : cursor.chunks = chunk :: rest)
    (hother : ∀ pair, chunk ≠ .captureMetadata (.clockPair pair)) :
    Reads whole { cursor with chunks := rest, tracker := cursor.tracker.take chunk }
      (stamping.take chunk) := by
  obtain ⟨hread, hended⟩ := h.next hchunks
  rw [take_of_other hother] at hread ⊢
  exact ⟨hread, congrArg (CaptureTracker.take · chunk) h.tracker_eq, h.wallRun_eq, h.pairs_eq,
    hended⟩

end

/-- What advancing does: another pair is stamped, or the recording is read. -/
inductive Advanced (whole : List RecordedChunk) (cursor : PairCursor) (stamping : Stamping) :
    Bool × PairCursor → Prop
  | found {next after stamped} (hreads : Reads whole next after)
      (hpairs : after.pairs = stamping.pairs ++ [stamped])
      (hless : next.chunks.length < cursor.chunks.length) :
      Advanced whole cursor stamping (true, next)
  | ended {next after} (hreads : Reads whole next after) (hpairs : after.pairs = stamping.pairs)
      (hnil : next.chunks = []) : Advanced whole cursor stamping (false, next)

theorem scan_nonpair {chunk : RecordedChunk} (rest : List RecordedChunk) (cursor : PairCursor)
    (hother : ∀ pair, chunk ≠ .captureMetadata (.clockPair pair)) :
    scan (chunk :: rest) cursor =
      scan rest { cursor with tracker := cursor.tracker.take chunk } := by
  cases chunk with
  | captureMetadata metadata =>
    cases metadata with
    | clockPair pair => exact absurd rfl (hother pair)
    | _ => rfl
  | _ => rfl

/-- Scanning does not look at the chunks the cursor still carries. -/
theorem scan_chunks (chunks other : List RecordedChunk) (cursor : PairCursor) :
    scan chunks { cursor with chunks := other } = scan chunks cursor := by
  induction chunks generalizing cursor with
  | nil => rfl
  | cons chunk chunks ih =>
    rcases chunk.pair_or_other with ⟨pair, rfl⟩ | hother
    · rfl
    · rw [scan_nonpair _ _ hother, scan_nonpair _ _ hother]
      exact ih { cursor with tracker := cursor.tracker.take chunk }

theorem Reads.scan {chunks : List RecordedChunk} (h : Reads whole cursor stamping)
    (hchunks : cursor.chunks = chunks) : Advanced whole cursor stamping (scan chunks cursor) := by
  induction chunks generalizing cursor stamping with
  | nil =>
    have hdone : Reads whole { cursor with chunks := [], ended := true } stamping :=
      ⟨hchunks ▸ h.read, h.tracker_eq, h.wallRun_eq, h.pairs_eq, fun _ => rfl⟩
    exact .ended hdone rfl rfl
  | cons chunk rest ih =>
    have hless : rest.length < cursor.chunks.length := by
      rw [hchunks]
      exact Nat.lt_succ_self _
    rcases chunk.pair_or_other with ⟨pair, rfl⟩ | hother
    · exact .found (h.push hchunks) rfl hless
    · have hpairs : (stamping.take chunk).pairs = stamping.pairs := by
        rw [take_of_other hother]
      have hlater := ih (h.skip hchunks hother) rfl
      rw [scan_nonpair _ _ hother, ← scan_chunks rest rest]
      generalize scan rest _ = result at hlater
      cases hlater with
      | found hreads hafter hfewer =>
        rw [hpairs] at hafter
        exact .found hreads hafter (hfewer.trans hless)
      | ended hreads hafter hnil => exact .ended hreads (hafter.trans hpairs) hnil

theorem Reads.advance (h : Reads whole cursor stamping) :
    Advanced whole cursor stamping cursor.advance := by
  unfold PairCursor.advance
  cases hended : cursor.ended with
  | true => exact .ended h rfl (h.ended hended)
  | false => exact h.scan rfl

end PairCursor

/-! ## Intervals among the pairs kept -/

section Intervals

variable {all read : List StampedPair} {run point : Nat} {interval : StampedPair × StampedPair}

theorem precedes_of_lt (hsorted : all.Pairwise Precedes) {first second : Nat}
    {left right : StampedPair} (hlt : first < second) (hleft : all[first]? = some left)
    (hright : all[second]? = some right) : Precedes left right := by
  obtain ⟨hfirst, rfl⟩ := List.getElem?_eq_some_iff.mp hleft
  obtain ⟨hsecond, rfl⟩ := List.getElem?_eq_some_iff.mp hright
  exact pairwise_iff_getElem.mp hsorted first second hfirst hsecond hlt

theorem holds_iff : holds run point interval = true ↔
    interval.1.run = run ∧ interval.2.run = run ∧ interval.1.pair.midpointTwice ≤ point ∧
      point < interval.2.pair.midpointTwice := by
  simp [holds]

/-- A point lies in at most one interval of a run. -/
theorem interval_unique (hsorted : all.Pairwise Precedes)
    (hmem : interval ∈ adjacent all) (hholds : holds run point interval = true)
    {other : StampedPair × StampedPair} (hother : other ∈ adjacent all)
    (hthere : holds run point other = true) : other = interval := by
  -- Of two such intervals the earlier would end before the point.
  have hnot : ∀ {first second : Nat} {early late : StampedPair × StampedPair}, first < second →
      all[first + 1]? = some early.2 → all[second]? = some late.1 →
      holds run point early = true → holds run point late = true →
      False := by
    intro first second early late hlt hearly hlate hholds hthere
    obtain ⟨-, hrun, -, hafter⟩ := holds_iff.mp hholds
    obtain ⟨hlater, -, hbefore, -⟩ := holds_iff.mp hthere
    rcases Nat.lt_or_eq_of_le (Nat.succ_le_of_lt hlt) with hless | heq
    · rcases precedes_of_lt hsorted hless hearly hlate with hruns | ⟨-, hmidpoint⟩ <;> omega
    · rw [← Nat.succ_eq_add_one, heq, hlate] at hearly
      rw [Option.some.inj hearly] at hbefore
      omega
  obtain ⟨first, hleft, hright⟩ := mem_adjacent.mp hmem
  obtain ⟨second, hotherLeft, hotherRight⟩ := mem_adjacent.mp hother
  rcases lt_trichotomy first second with hlt | rfl | hlt
  · exact (hnot hlt hright hotherLeft hholds hthere).elim
  · rw [hleft] at hotherLeft
    rw [hright] at hotherRight
    exact Prod.ext (Option.some.inj hotherLeft).symm (Option.some.inj hotherRight).symm
  · exact (hnot hlt hotherRight hleft hthere hholds).elim

/-- The last pair but one, once something may have been dropped. -/
def SecondLast (read : List StampedPair) (stamped : StampedPair) : Prop :=
  3 ≤ read.length ∧ read[read.length - 2]? = some stamped

/-- The last pair but one does not lie past the point. -/
def Behind (run point : Nat) (read : List StampedPair) : Prop :=
  ∀ stamped, SecondLast read stamped →
    stamped.run < run ∨ stamped.run = run ∧ stamped.pair.midpointTwice ≤ point + 1

/-- The interval of a point is among the pairs kept, if both its ends were read. -/
theorem mem_kept_of_read (hsorted : read.Pairwise Precedes) (hbehind : Behind run point read)
    (hmem : interval ∈ adjacent read) (hholds : holds run point interval = true) :
    interval ∈ adjacent (lastItems maxKeptPairs read) := by
  obtain ⟨index, hleft, hright⟩ := mem_adjacent.mp hmem
  obtain ⟨-, hrun, -, hafter⟩ := holds_iff.mp hholds
  have hkept : read.length - maxKeptPairs ≤ index := by
    by_contra hdropped
    have hmany : index + 7 ≤ read.length := by
      unfold maxKeptPairs at hdropped
      omega
    -- Two pairs lie between the interval and the last one.
    have hthird := getElem?_eq_getElem (show read.length - 3 < read.length by omega)
    have hsecond := getElem?_eq_getElem (show read.length - 2 < read.length by omega)
    have hfirst := precedes_of_lt hsorted (show index + 1 < read.length - 3 by omega) hright hthird
    have hnext := precedes_of_lt hsorted (show read.length - 3 < read.length - 2 by omega) hthird
      hsecond
    unfold Precedes at hfirst hnext
    have hpassed := hbehind _ ⟨by omega, hsecond⟩
    omega
  refine mem_adjacent.mpr ⟨index - (read.length - maxKeptPairs), ?_, ?_⟩
  · rwa [getElem?_lastItems, Nat.add_sub_cancel' hkept]
  · rw [getElem?_lastItems, ← Nat.add_assoc, Nat.add_sub_cancel' hkept]
    exact hright

/-- An interval that ends past what was read lies behind the last pair read. -/
theorem last_before_unread (hsorted : all.Pairwise Precedes) (hread : read <+: all) {index : Nat}
    (hleft : all[index]? = some interval.1) (hholds : holds run point interval = true)
    (hunread : read.length ≤ index + 1) {last : StampedPair} (hlast : read.getLast? = some last) :
    last.run < run ∨ last.run = run ∧ last.pair.midpointTwice ≤ point := by
  obtain ⟨hrun, -, hbefore, -⟩ := holds_iff.mp hholds
  rw [getLast?_eq_getElem?] at hlast
  have hposition : all[read.length - 1]? = some last := by
    obtain ⟨more, rfl⟩ := hread
    rw [List.getElem?_append_left (List.getElem?_eq_some_iff.mp hlast).1, hlast]
  rcases Nat.lt_or_eq_of_le (show read.length - 1 ≤ index by omega) with hlt | heq
  · rcases precedes_of_lt hsorted hlt hposition hleft with hruns | ⟨hruns, hmidpoint⟩ <;> omega
  · rw [heq, hleft] at hposition
    cases hposition
    exact .inr ⟨hrun, hbefore⟩

end Intervals

/-! ## One call -/

namespace PairCursor

variable {whole : List RecordedChunk} {run point end2 : Nat} {cursor : PairCursor}

/-- Where the last pair but one lies while a span that ends at `end2` is mapped. -/
def Bounded (run point end2 : Nat) (read : List StampedPair) : Prop :=
  ∀ stamped, SecondLast read stamped → stamped.run < run ∨ stamped.run = run ∧
    stamped.pair.midpointTwice ≤ point + 1 ∧ stamped.pair.midpointTwice < end2

variable {read : List StampedPair}

theorem Bounded.behind (h : Bounded run point end2 read) :
    Behind run point read := fun stamped hsecond => by
  rcases h stamped hsecond with hrun | ⟨hrun, hpoint, -⟩
  · exact .inl hrun
  · exact .inr ⟨hrun, hpoint⟩

theorem Bounded.mono (h : Bounded run point end2 read) {later : Nat} (hle : point ≤ later) :
    Bounded run later end2 read := fun stamped hsecond => by
  rcases h stamped hsecond with hrun | ⟨hrun, hpoint, hend⟩
  · exact .inl hrun
  · exact .inr ⟨hrun, by omega, hend⟩

/-- Reading on is bounded by the pair that was last before. -/
theorem Bounded.snoc {stamped : StampedPair}
    (hlast : ∀ last, 2 ≤ read.length → read.getLast? = some last → last.run < run ∨
      last.run = run ∧ last.pair.midpointTwice ≤ point + 1 ∧ last.pair.midpointTwice < end2) :
    Bounded run point end2 (read ++ [stamped]) := by
  rintro second ⟨hmany, hsecond⟩
  rw [length_append, length_singleton] at hmany hsecond
  apply hlast second (by omega)
  rw [getElem?_append_left (by omega)] at hsecond
  rw [getLast?_eq_getElem?, ← hsecond]
  rfl

/-- The state of the cursor while a span is mapped. -/
structure Searching (whole : List RecordedChunk) (run point end2 : Nat) (cursor : PairCursor)
    (stamping : Stamping) : Prop where
  reads : Reads whole cursor stamping
  known : stamping.pairs ≠ [] ∨ cursor.chunks = []
  bounded : Bounded run point end2 stamping.pairs

variable {stamping : Stamping}

section

variable (hsorted : (stampedPairs whole).Pairwise Stamping.Precedes)

include hsorted

variable {interval : StampedPair × StampedPair}

/-- Where the pairs kept have an interval, all pairs have the same. -/
theorem findInterval_of_kept (h : Reads whole cursor stamping)
    (hfound : findInterval cursor.pairs run point = some interval) :
    findInterval (stampedPairs whole) run point = some interval := by
  have hholds : holds run point interval = true := find?_some hfound
  have hmem : interval ∈ adjacent (stampedPairs whole) := by
    have hkept := mem_of_find?_eq_some hfound
    rw [h.pairs_eq] at hkept
    obtain ⟨more, hall⟩ := h.pairs_prefix
    rw [← hall]
    exact mem_adjacent_of_append (mem_adjacent_of_lastItems hkept)
  exact find?_eq_some_of_unique hmem hholds fun other hother hthere =>
    interval_unique hsorted hmem hholds hother hthere

variable (h : Searching whole run point end2 cursor stamping)
  (hnone : findInterval cursor.pairs run point = none)
include h hnone

/-- Where the pairs kept have no interval, none of the pairs read has. -/
theorem unread_of_none {index : Nat} (hleft : (stampedPairs whole)[index]? = some interval.1)
    (hright : (stampedPairs whole)[index + 1]? = some interval.2)
    (hholds : holds run point interval = true) : stamping.pairs.length ≤ index + 1 := by
  by_contra hread
  obtain ⟨more, hall⟩ := h.reads.pairs_prefix
  rw [← hall, getElem?_append_left (by omega)] at hleft hright
  have hordered : stamping.pairs.Pairwise Precedes := by
    rw [← hall] at hsorted
    exact (pairwise_append.mp hsorted).1
  have hkept := mem_kept_of_read hordered h.bounded.behind
    (mem_adjacent.mpr ⟨index, hleft, hright⟩) hholds
  rw [← h.reads.pairs_eq] at hkept
  exact find?_eq_none.mp hnone interval hkept hholds

/-- Without an interval, and with nothing worth waiting for, there is none. -/
theorem findInterval_of_none
    (hstop : cursor.awaits run point = false ∨ stamping.pairs = stampedPairs whole) :
    findInterval (stampedPairs whole) run point = none := by
  rw [findInterval, find?_eq_none]
  intro interval hmem hholds
  obtain ⟨index, hleft, hright⟩ := mem_adjacent.mp hmem
  have hunread := unread_of_none hsorted h hnone hleft hright hholds
  have hlength : index + 1 < (stampedPairs whole).length := (List.getElem?_eq_some_iff.mp hright).1
  have hmore : stamping.pairs ≠ stampedPairs whole := by
    intro hsame
    rw [hsame] at hunread
    omega
  rcases hstop with hidle | hsame
  · rcases h.known with hsome | hnil
    · obtain ⟨last, hlast⟩ := Option.isSome_iff_exists.mp (getLast?_isSome.mpr hsome)
      have hwait := last_before_unread hsorted h.reads.pairs_prefix hleft hholds hunread hlast
      rw [awaits, h.reads.getLast?_eq, hlast, Option.any_some, decide_eq_false_iff_not] at hidle
      exact hidle hwait
    · exact hmore (h.reads.pairs_of_nil hnil)
  · exact hmore hsame

end

/-! ### Reading up to the start of the span -/

theorem readAhead_ends {start2 : Nat} (hspan : start2 ≤ end2) (h : Reads whole cursor stamping)
    (hbounded : Bounded run start2 end2 stamping.pairs) :
    ∃ ahead, loop (readAheadTurn run start2) (cursor.chunks.length + 1) cursor = some ahead ∧
      ∃ after, Searching whole run start2 end2 ahead after := by
  let invariant : PairCursor → Prop := fun cursor =>
    ∃ stamping, Reads whole cursor stamping ∧ Bounded run start2 end2 stamping.pairs
  have hagain : ∀ cursor next, invariant cursor → readAheadTurn run start2 cursor = .again next →
      invariant next ∧ next.chunks.length < cursor.chunks.length := by
    rintro cursor next ⟨stamping, hreads, hbounded⟩ hturn
    unfold readAheadTurn at hturn
    split at hturn
    · cases hturn
    next hshort =>
      have hadvanced := hreads.advance
      split at hturn
      next found hadvance =>
        cases hturn
        rw [hadvance] at hadvanced
        cases hadvanced with
        | found hnext hpairs hless =>
          refine ⟨⟨_, hnext, ?_⟩, hless⟩
          rw [hpairs]
          apply Bounded.snoc
          intro last hmany hlast
          -- The last pair does not reach the span yet.
          have hkept : 2 ≤ cursor.pairs.length := by
            rw [hreads.pairs_eq, length_lastItems, maxKeptPairs]
            omega
          simp only [reaches, hreads.getLast?_eq, hlast, Option.any_some, decide_eq_true_eq,
            hkept, true_and] at hshort
          omega
      next => cases hturn
  have hdone : ∀ cursor ahead, invariant cursor → readAheadTurn run start2 cursor = .done ahead →
      ∃ after, Searching whole run start2 end2 ahead after := by
    rintro cursor ahead ⟨stamping, hreads, hbounded⟩ hturn
    unfold readAheadTurn at hturn
    split at hturn
    next hreaches =>
      cases hturn
      refine ⟨stamping, hreads, .inl ?_, hbounded⟩
      intro hnone
      have hkept : cursor.pairs = [] := by
        rw [hreads.pairs_eq, hnone]
        rfl
      simp [reaches, hkept] at hreaches
    next =>
      have hadvanced := hreads.advance
      split at hturn
      next => cases hturn
      next found hadvance =>
        cases hturn
        rw [hadvance] at hadvanced
        cases hadvanced with
        | ended hnext hpairs hnil => exact ⟨_, hnext, .inr hnil, hpairs ▸ hbounded⟩
  exact exists_loop_eq (fun cursor => cursor.chunks.length) hagain hdone ⟨stamping, h, hbounded⟩
    (Nat.lt_succ_self _)

/-! ### Mapping the span -/

variable {progress next : Progress} {left right : StampedPair}

theorem point_of_cross (h : progress.cross end2 left right = .ok next) :
    next.point = min end2 right.pair.midpointTwice := by
  unfold Progress.cross at h
  split at h
  · cases h
  · split at h
    · cases h
    · obtain ⟨mappedStart, -, h⟩ := bind_eq_ok h
      obtain ⟨mappedEnd, -, h⟩ := bind_eq_ok h
      cases h
      rfl

/-- Crossing an interval moves the point, but not past the span. -/
theorem point_lt_of_cross {pairs : List StampedPair} (hpoint : progress.point < end2)
    (hfound : findInterval pairs run progress.point = some (left, right))
    (h : progress.cross end2 left right = .ok next) :
    progress.point < next.point ∧ next.point ≤ end2 := by
  obtain ⟨-, -, -, hafter⟩ := holds_iff.mp (find?_some hfound)
  dsimp only at hafter
  rw [point_of_cross h]
  omega

/-- The search over a complete list of pairs ends. -/
theorem search_ends (pairs : List StampedPair) (run : Nat) (start finish : UInt64) :
    ∃ mapping, search pairs run start finish = some mapping := by
  have hagain : ∀ progress next : Progress, True →
      searchTurn pairs run (finish.toNat * 2) progress = .again next →
      True ∧ finish.toNat * 2 - next.point < finish.toNat * 2 - progress.point := by
    intro progress next _ hturn
    unfold searchTurn at hturn
    split at hturn
    next hpoint =>
      split at hturn
      next left right hfound =>
        split at hturn
        next crossed hcross =>
          cases hturn
          have hmoves := point_lt_of_cross hpoint hfound hcross
          exact ⟨trivial, by omega⟩
        next => cases hturn
      next => cases hturn
    next => cases hturn
  have hdone : ∀ (progress : Progress) (mapping : Mapping), True →
      searchTurn pairs run (finish.toNat * 2) progress = .done mapping → True :=
    fun _ _ _ _ => trivial
  obtain ⟨mapping, hmapping, -⟩ := exists_loop_eq (fun progress : Progress =>
    finish.toNat * 2 - progress.point) hagain hdone trivial (Nat.lt_succ_self _)
  exact ⟨mapping, hmapping⟩

/-- A turn of the cursor against the search over all pairs: it reads on while
the search stands still, moves with it, or leaves with it. -/
inductive Follows (whole : List RecordedChunk) (run end2 : Nat) (cursor : PairCursor)
    (progress : Progress) : Turn (PairCursor × Progress) (Mapping × PairCursor) → Prop
  | reads {next after} (hsearching : Searching whole run progress.point end2 next after)
      (hless : next.chunks.length < cursor.chunks.length) :
      Follows whole run end2 cursor progress (.again (next, progress))
  | moves {later}
      (hsearch : searchTurn (stampedPairs whole) run end2 progress = .again later)
      (hless : progress.point < later.point) (hend : later.point ≤ end2) :
      Follows whole run end2 cursor progress (.again (cursor, later))
  | leaves {mapping next after}
      (hsearch : searchTurn (stampedPairs whole) run end2 progress = .done mapping)
      (hsearching : Searching whole run progress.point end2 next after) :
      Follows whole run end2 cursor progress (.done (mapping, next))

variable (hsorted : (stampedPairs whole).Pairwise Stamping.Precedes)

include hsorted

theorem Searching.follows {progress : Progress}
    (h : Searching whole run progress.point end2 cursor stamping) :
    Follows whole run end2 cursor progress (mapTurn run end2 (cursor, progress)) := by
  by_cases hpoint : progress.point < end2
  · cases hfound : findInterval cursor.pairs run progress.point with
    | some interval =>
      obtain ⟨left, right⟩ := interval
      have hsame := findInterval_of_kept hsorted h.reads hfound
      cases hcross : progress.cross end2 left right with
      | ok later =>
        have hmoves := point_lt_of_cross hpoint hfound hcross
        have hsearch : searchTurn (stampedPairs whole) run end2 progress = .again later := by
          simp [searchTurn, hpoint, hsame, hcross]
        simp only [mapTurn, if_pos hpoint, hfound, hcross]
        exact .moves hsearch hmoves.1 hmoves.2
      | error error =>
        have hsearch : searchTurn (stampedPairs whole) run end2 progress =
            .done (.error error) := by
          simp [searchTurn, hpoint, hsame, hcross]
        simp only [mapTurn, if_pos hpoint, hfound, hcross]
        exact .leaves hsearch h
    | none =>
      have hmissing : findInterval (stampedPairs whole) run progress.point = none →
          searchTurn (stampedPairs whole) run end2 progress = .done (.error missingClockPair) := by
        intro hnone
        simp [searchTurn, hpoint, hnone]
      cases hawaits : cursor.awaits run progress.point with
      | false =>
        simp only [mapTurn, if_pos hpoint, hfound, hawaits]
        exact .leaves (hmissing (findInterval_of_none hsorted h hfound (.inl hawaits))) h
      | true =>
        have hadvanced := h.reads.advance
        cases hadvance : cursor.advance with
        | mk found next =>
          rw [hadvance] at hadvanced
          simp only [mapTurn, if_pos hpoint, hfound, hawaits, hadvance]
          cases hadvanced with
          | @found _ after stamped hreads hpairs hless =>
            have hbounded : Bounded run progress.point end2 after.pairs := by
              rw [hpairs]
              apply Bounded.snoc
              intro last _ hlast
              rw [awaits, h.reads.getLast?_eq, hlast, Option.any_some, decide_eq_true_eq] at hawaits
              omega
            have hknown : after.pairs ≠ [] := by simp [hpairs]
            exact .reads ⟨hreads, .inl hknown, hbounded⟩ hless
          | @ended _ after hreads hpairs hnil =>
            have hall : stamping.pairs = stampedPairs whole :=
              hpairs.symm.trans (hreads.pairs_of_nil hnil)
            exact .leaves (hmissing (findInterval_of_none hsorted h hfound (.inr hall)))
              ⟨hreads, .inr hnil, hpairs ▸ h.bounded⟩
  · have hsearch : searchTurn (stampedPairs whole) run end2 progress = .done progress.estimate := by
      simp [searchTurn, hpoint]
    simp only [mapTurn, if_neg hpoint]
    exact .leaves hsearch h

/-- The cursor's search leaves with what the search over all pairs leaves with. -/
theorem mapTurn_ends {progress : Progress}
    (h : Searching whole run progress.point end2 cursor stamping) {mapping : Mapping} {turns : Nat}
    (hmapping : loop (searchTurn (stampedPairs whole) run end2) turns progress = some mapping) :
    ∃ result, loop (mapTurn run end2) (cursor.chunks.length + (end2 - progress.point) + 1)
        (cursor, progress) = some result ∧
      result.1 = mapping ∧ ∃ point after, Searching whole run point end2 result.2 after := by
  let invariant : PairCursor × Progress → Prop := fun state =>
    (∃ stamping, Searching whole run state.2.point end2 state.1 stamping) ∧
      ∃ turns, loop (searchTurn (stampedPairs whole) run end2) turns state.2 = some mapping
  have hagain : ∀ state next, invariant state → mapTurn run end2 state = .again next →
      invariant next ∧ next.1.chunks.length + (end2 - next.2.point) <
        state.1.chunks.length + (end2 - state.2.point) := by
    rintro ⟨cursor, progress⟩ next ⟨⟨stamping, hsearching⟩, turns, hturns⟩ hturn
    have hfollows := hsearching.follows hsorted
    rw [hturn] at hfollows
    cases hfollows with
    | reads hnext hless =>
      dsimp only at hless ⊢
      exact ⟨⟨⟨_, hnext⟩, turns, hturns⟩, by omega⟩
    | moves hsearch hless hend =>
      cases turns with
      | zero => cases hturns
      | succ turns =>
        rw [loop_of_again hsearch] at hturns
        dsimp only at hless ⊢
        refine ⟨⟨⟨stamping, hsearching.reads, hsearching.known, ?_⟩, turns, hturns⟩, by omega⟩
        exact hsearching.bounded.mono hless.le
  have hdone : ∀ state result, invariant state → mapTurn run end2 state = .done result →
      result.1 = mapping ∧ ∃ point after, Searching whole run point end2 result.2 after := by
    rintro ⟨cursor, progress⟩ result ⟨⟨stamping, hsearching⟩, turns, hturns⟩ hturn
    have hfollows := hsearching.follows hsorted
    rw [hturn] at hfollows
    cases hfollows with
    | leaves hsearch hnext =>
      cases turns with
      | zero => cases hturns
      | succ turns =>
        rw [loop_of_done hsearch] at hturns
        exact ⟨Option.some.inj hturns, _, _, hnext⟩
  exact exists_loop_eq (fun state : PairCursor × Progress =>
    state.1.chunks.length + (end2 - state.2.point)) hagain hdone ⟨⟨stamping, h⟩, turns, hmapping⟩
    (Nat.lt_succ_self _)

/-- A call returns what the search over all pairs finds, and leaves the cursor
bounded by the span it mapped. -/
theorem map_ends (h : Reads whole cursor stamping) {start finish : UInt64} (hspan : start ≤ finish)
    (hbounded : Bounded run (start.toNat * 2) (finish.toNat * 2) stamping.pairs) :
    ∃ mapping next, cursor.map run start finish = some (mapping, next) ∧
      search (stampedPairs whole) run start finish = some mapping ∧
      ∃ point after, Searching whole run point (finish.toNat * 2) next after := by
  have hle : start.toNat * 2 ≤ finish.toNat * 2 :=
    Nat.mul_le_mul_right 2 (UInt64.le_iff_toNat_le.mp hspan)
  obtain ⟨mapping, hmapping⟩ := search_ends (stampedPairs whole) run start finish
  obtain ⟨ahead, hahead, after, hsearching⟩ := readAhead_ends hle h hbounded
  obtain ⟨⟨found, next⟩, hrun, rfl, hlast⟩ := mapTurn_ends hsorted hsearching hmapping
  refine ⟨found, next, ?_, hmapping, hlast⟩
  change (loop (readAheadTurn run (start.toNat * 2)) (cursor.chunks.length + 1) cursor >>= _) = _
  rw [hahead]
  exact hrun

end PairCursor

/-! ## Whole recordings -/

/-- A valid frame's span is not empty. -/
theorem FrameProvenance.start_lt_of_validate {frame : FrameProvenance}
    (h : frame.validate = .ok ()) {span : NominalCaptureSpan} (hspan : frame.span = some span) :
    span.hostStartNs < span.hostEndNs := by
  obtain ⟨finish, -, h⟩ := bind_eq_ok h
  rw [hspan] at h
  change (if _ then _ else _ : Except AdapterError Unit) = _ at h
  split at h
  · cases h
  · change (if span.hostStartNs = 0 ∨ span.hostEndNs ≤ span.hostStartNs then _ else _ :
      Except AdapterError Unit) = _ at h
    split at h
    · cases h
    next hordered => exact UInt64.not_le.mp (not_or.mp hordered).2

namespace Alignment

variable {whole : List RecordedChunk} {alignment : Alignment}

/-- Both cursors between two chunks of the frame cursor. -/
def Aligned (whole : List RecordedChunk) (alignment : Alignment) : Prop :=
  ∃ stamping, alignment.pairs.Reads whole stamping ∧
    ∀ stamped, SecondLast stamping.pairs stamped →
      alignment.tracker.IsPast stamped.run stamped.pair.midpointTwice

theorem aligned_start (whole : List RecordedChunk) : Aligned whole (start whole) := by
  refine ⟨.start, ⟨⟨[], rfl, rfl⟩, rfl, rfl, rfl, by simp [start, new]⟩, ?_⟩
  rintro stamped ⟨hmany, -⟩
  exact absurd hmany (by decide)

section

variable (h : Aligned whole alignment)
include h

/-- A frame that is mapped is mapped as a search over all pairs maps it. -/
theorem Aligned.map (hsorted : (stampedPairs whole).Pairwise Precedes)
    {atMs : UInt64} {format : PcmFormat} {timing : Option FrameProvenance} {bytes : Bytes}
    (hfits : (RecordedChunk.timedFrame atMs format timing bytes).Fits true)
    (hmapped : (alignment.tracker.frame timing).1.mapped = true) :
    ∃ frame span mapping next, timing = some frame ∧ frame.span = some span ∧
      alignment.pairs.map (alignment.tracker.frame timing).2.run span.hostStartNs span.hostEndNs =
        some (mapping, next) ∧
      search (stampedPairs whole) (alignment.tracker.frame timing).2.run span.hostStartNs
        span.hostEndNs = some mapping ∧
      Aligned whole ⟨(alignment.tracker.frame timing).2, next⟩ := by
  obtain ⟨stamping, hreads, hpassed⟩ := h
  obtain ⟨-, hbroken⟩ | ⟨frame, span, rfl, hspan, hend, hrun, hmoves⟩ :=
    CaptureTracker.frame_cases alignment.tracker timing
  · cases hmapped.symm.trans hbroken
  have hordered := FrameProvenance.start_lt_of_validate
    (FrameProvenance.validate_of_validatePcm (hfits.2.2.2 frame rfl)) hspan
  have hless := UInt64.lt_iff_toNat_lt.mp hordered
  -- What was passed before lies at most half a nanosecond past the span's start.
  have hbounded : Bounded (alignment.tracker.frame (some frame)).2.run
      (span.hostStartNs.toNat * 2) (span.hostEndNs.toNat * 2) stamping.pairs := by
    intro stamped hsecond
    rcases (hpassed stamped hsecond).before_span hrun hmoves with hbefore | ⟨hsame, hmidpoint⟩
    · exact .inl hbefore
    · exact .inr ⟨hsame, hmidpoint, by omega⟩
  obtain ⟨mapping, next, hmap, hsearch, point, after, hsearching⟩ :=
    map_ends hsorted hreads (UInt64.le_of_lt hordered) hbounded
  refine ⟨frame, span, mapping, next, rfl, hspan, hmap, hsearch, after, hsearching.reads, ?_⟩
  intro stamped hsecond
  rcases hsearching.bounded stamped hsecond with hbefore | ⟨hsame, -, hmidpoint⟩
  · exact .inl hbefore
  · exact .inr ⟨hsame, span.hostEndNs, hend, hmidpoint⟩

/-- A chunk that maps nothing only moves the frame cursor. -/
theorem Aligned.observe (chunk : RecordedChunk) :
    Aligned whole ⟨alignment.tracker.take chunk, alignment.pairs⟩ := by
  obtain ⟨stamping, hreads, hpassed⟩ := h
  exact ⟨stamping, hreads, fun stamped hsecond => (hpassed stamped hsecond).take chunk⟩

theorem Aligned.take (hsorted : (stampedPairs whole).Pairwise Precedes) {chunk : RecordedChunk}
    (hfits : chunk.Fits true) : Aligned whole (alignment.take chunk) := by
  cases chunk with
  | timedFrame atMs format timing bytes =>
    by_cases hmapped : (alignment.tracker.frame timing).1.mapped = true
    · obtain ⟨frame, span, mapping, next, rfl, hspan, hmap, -, hnext⟩ := h.map hsorted hfits hmapped
      have htaken : alignment.take (.timedFrame atMs format (some frame) bytes) =
          ⟨(alignment.tracker.frame (some frame)).2, next⟩ := by
        simp [Alignment.take, CaptureTracker.take, hmapped, hspan, hmap]
      rw [htaken]
      exact hnext
    · have htaken : alignment.take (.timedFrame atMs format timing bytes) =
          ⟨(alignment.tracker.frame timing).2, alignment.pairs⟩ := by
        simp [Alignment.take, CaptureTracker.take, hmapped]
      rw [htaken]
      exact h.observe (.timedFrame atMs format timing bytes)
  | _ => exact h.observe _

end

theorem Aligned.foldl (hsorted : (stampedPairs whole).Pairwise Precedes)
    {chunks : List RecordedChunk} (h : Aligned whole alignment)
    (hfits : ∀ chunk ∈ chunks, chunk.Fits true) :
    Aligned whole (chunks.foldl Alignment.take alignment) := by
  induction chunks generalizing alignment with
  | nil => exact h
  | cons chunk chunks ih =>
    exact ih (h.take hsorted (hfits chunk mem_cons_self))
      fun other hother => hfits other (mem_cons_of_mem _ hother)

section

variable {key : RecordingKey} {calls : List SealCall}
  (hsealed : SealedUnder key calls) {content : Bytes}
  (htimed : isTimedHeader (content.take headerLen) = true) {completed : CompletedWalk}
  (hwalk : walkCompletedChunks calls (.start content true) = .ok completed)
  (hcomplete : completed.incomplete = false)
include hsealed htimed hwalk hcomplete

/-- The clock pairs of a timed recording the walk accepts are in order, and its
chunks fit its layout. -/
theorem ordered_of_walk
    (hchunks : ((RecordedChunks.start content true).readout calls).chunks = whole) :
    (stampedPairs whole).Pairwise Precedes ∧ ∀ chunk ∈ whole, chunk.Fits true := by
  obtain ⟨walk, haccepted, hrest⟩ := bind_eq_ok hwalk
  split at hrest
  · cases hrest
    cases hcomplete
  next hgoing =>
    have hlayout : isTimedHeader (RecordedChunks.start content true).header = true := htimed
    rw [hlayout, hchunks] at haccepted
    have hbegun : Stamping.start.Ordered Walk.empty.validation := ⟨.nil, by simp [Stamping.start]⟩
    have hordered := Walk.ordered_of_acceptAll haccepted (Bool.eq_false_iff.mpr hgoing) hbegun
    refine ⟨hordered.sorted, ?_⟩
    intro chunk hchunk
    rw [← htimed]
    apply RecordedChunks.fits_of_readout hsealed
    change chunk ∈ ((RecordedChunks.start content true).readout calls).chunks
    rwa [hchunks]

/-- On every timed recording the walk accepts, each frame that is assessed as
mapped gets from the cursor, which keeps six pairs, exactly what the search over
all pairs of the recording yields; and the call ends. -/
theorem six_pairs_suffice {before after : List RecordedChunk} {atMs : UInt64} {format : PcmFormat}
    {timing : Option FrameProvenance} {bytes : Bytes}
    (hchunks : ((RecordedChunks.start content true).readout calls).chunks =
      before ++ .timedFrame atMs format timing bytes :: after) :
    let whole := before ++ .timedFrame atMs format timing bytes :: after
    let alignment := before.foldl take (start whole)
    let run := (alignment.tracker.frame timing).2.run
    (alignment.tracker.frame timing).1.mapped = true →
      ∃ frame span mapping next, timing = some frame ∧ frame.span = some span ∧
        alignment.pairs.map run span.hostStartNs span.hostEndNs = some (mapping, next) ∧
        search (stampedPairs whole) run span.hostStartNs span.hostEndNs = some mapping := by
  intro whole alignment run hmapped
  obtain ⟨hsorted, hfits⟩ := ordered_of_walk hsealed htimed hwalk hcomplete hchunks
  have haligned := Aligned.foldl hsorted (aligned_start whole) fun chunk hchunk =>
    hfits chunk (mem_append_left _ hchunk)
  obtain ⟨frame, span, mapping, next, hsome, hspan, hmap, hsearch, -⟩ :=
    haligned.map hsorted (hfits (.timedFrame atMs format timing bytes) (by simp)) hmapped
  exact ⟨frame, span, mapping, next, hsome, hspan, hmap, hsearch⟩

end

/-- The timing of a frame from one to two microseconds of host time. -/
def spannedTiming : TimedCapture := ⟨⟨"bridge", "clock", 1⟩, ⟨1, 1, 0, 1, 0, 16000, 16000,
  16000, .nominalFrameEndpointInterpolation, some ⟨1000, 2000, 1, none⟩⟩⟩

def spannedFrame : AudioFrame where
  __ := AudioFrame.sample false
  captureTiming := some spannedTiming
  epoch_valid := by decide +kernel
  timing_valid := by decide +kernel
  epoch_eq := by decide +kernel
  sequence_eq := by decide +kernel

def recordPair (sequence hostNs : Nat) : SessionRecorder.Operation :=
  .recordCaptureMetadata (.clockPair ⟨"clock", 1, .ofNat sequence, .ofNat hostNs, .ofNat hostNs,
    .ofNat hostNs, 1, none⟩)

/-- A frame after seven clock pairs and before an eighth. -/
def spannedOperations : List SessionRecorder.Operation :=
  .recordCaptureMetadata (.epoch ⟨"bridge", "clock", 1⟩) ::
    (range 7).map (fun index => recordPair (index + 1) (100 * (index + 1))) ++
    [.recordFrame spannedFrame, recordPair 8 3000, .finalize]

open SessionRecorder Fallible in
theorem six_pairs_suffice_between : ∃ started before after mapping next,
    SessionRecorder.start .calm (.sample true) .default = .ok started ∧
    let file := (run .calm started spannedOperations).file
    let whole := before ++ .timedFrame 36 spannedFrame.format (some spannedTiming.frame)
      spannedFrame.bytes :: after
    (stampedPairs before).length = 7 ∧
    ((RecordedChunks.start file.content true).readout file.seals).chunks = whole ∧
    (before.foldl take (start whole)).pairs.map 1 1000 2000 = some (mapping, next) ∧
    search (stampedPairs whole) 1 1000 2000 = some mapping := by
  obtain ⟨started, hstart, hfacts⟩ :=
    exists_ok (SessionRecorder.start .calm (.sample true) .default)
    (fun started =>
      let file := (run .calm started spannedOperations).file
      let chunks := ((RecordedChunks.start file.content true).readout file.seals).chunks
      let whole := chunks.take 9 ++ .timedFrame 36 spannedFrame.format
        (some spannedTiming.frame) spannedFrame.bytes :: chunks.drop 10
      let assessed := ((chunks.take 9).foldl take (start whole)).tracker.frame
        (some spannedTiming.frame)
      isTimedHeader (file.content.take headerLen) &&
        decide ((stampedPairs (chunks.take 9)).length = 7) && decide (chunks = whole) &&
        assessed.1.mapped && decide (assessed.2.run = 1) &&
        file.seals.all (fun call => call.ciphertext.all
          (· = Environment.calm.key.sealed call.nonce call.aad call.plaintext)) &&
        (walkCompletedChunks file.seals (.start file.content true)).toOption.any
          fun completed => !completed.incomplete) (by decide +kernel)
  simp only [Bool.and_eq_true, decide_eq_true_eq, all_eq_true] at hfacts
  obtain ⟨⟨⟨⟨⟨⟨htimed, hpairs⟩, hchunks⟩, hmapped⟩, hrun⟩, hcalls⟩, hclosed⟩ := hfacts
  obtain ⟨completed, hwalk, hclosed⟩ := exists_ok _ _ hclosed
  rw [Bool.not_eq_true'] at hclosed
  have hsealed : SealedUnder Environment.calm.key
      (run .calm started spannedOperations).file.seals := by
    intro call hcall ciphertext hciphertext
    have hall := hcalls call hcall
    rw [hciphertext] at hall
    simpa using hall
  obtain ⟨frame, span, mapping, next, hframe, hspan, hmap, hsearch⟩ :=
    six_pairs_suffice hsealed htimed hwalk hclosed hchunks hmapped
  cases hframe
  cases hspan
  rw [hrun] at hmap hsearch
  exact ⟨started, _, _, mapping, next, hstart, hpairs, hchunks, hmap, hsearch⟩

end Alignment

end ConversationRuntime
