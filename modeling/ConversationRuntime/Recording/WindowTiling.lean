import ConversationRuntime.Recording.Adoption
import ConversationRuntime.Recording.Reconciliation

/-! # The windows tile a recording

On a recording the walk accepts, the windows that are sent hold every frame's
audio once and in order. A window never crosses the start of a gap, and it
stands where the walk's own timeline stood when its first frame came.
-/

namespace ConversationRuntime

open Foundation IdealAead Fallible List Nat
open MediaTimeline (chargedGapMs frame timedFrame_eq_ok)
open MeetingAudioWindow (new newWithSampleOrigin)
open Yields (of_bind of_lift_bind of_ok_bind of_pure of_update_bind)

/-! ## What a tiling is -/

/-- The audio of a run of chunks. -/
def media (chunks : List RecordedChunk) : Bytes := (chunks.filterMap RecordedChunk.payload).flatten

theorem media_append (first second : List RecordedChunk) :
    media (first ++ second) = media first ++ media second := by
  simp [media]

/-- The samples of some windows together. -/
def sampleCount (windows : List MeetingAudioWindow) : Nat :=
  (windows.map MeetingAudioWindow.samples).sum

theorem sampleCount_snoc (windows : List MeetingAudioWindow) (window : MeetingAudioWindow) :
    sampleCount (windows ++ [window]) = sampleCount windows + window.samples := by
  simp [sampleCount]

/-- Where a window belongs whose first frame follows the chunks `before`. -/
def PlacedAt (timed : Bool) (before : List RecordedChunk) (earlier : List MeetingAudioWindow)
    (window : MeetingAudioWindow) : Prop :=
  ∃ walk, Walk.empty.acceptAll timed before = .ok walk ∧
    window.startedAtMs = walk.timeline.mediaMs ∧
    window.sampleOrigin = if timed then
      some ⟨sampleCount earlier, window.format.sampleRateHz, walk.timeline.timedGapMs⟩ else none

/-- A run of chunks that one window may cover. -/
structure Covers (run : List RecordedChunk) (bytes : Bytes) : Prop where
  starts : ∃ first rest, run = first :: rest ∧ first.payload.isSome = true
  bytes_eq : bytes = media run
  ungapped : ∀ atMs reason, .gapStarted atMs reason ∉ run
  bounded : bytes.length ≤ maxReconciliationWindowBytes

variable {chunk : RecordedChunk}

/-- The run a window covers may take in a chunk that starts no gap and has room for its
audio. -/
theorem Covers.snoc {run : List RecordedChunk} {gathered : Bytes} (h : Covers run gathered)
    (hstarted : ∀ atMs reason, chunk ≠ .gapStarted atMs reason)
    (hroom : gathered.length + (media [chunk]).length ≤ maxReconciliationWindowBytes) :
    Covers (run ++ [chunk]) (gathered ++ media [chunk]) := by
  obtain ⟨first, rest, rfl, hfirst⟩ := h.starts
  refine ⟨⟨first, rest ++ [chunk], rfl, hfirst⟩, ?_, ?_, by rwa [length_append]⟩
  · rw [media_append, ← h.bytes_eq]
  · intro atMs reason hmem
    rcases mem_append.mp hmem with hrun | hlast
    · exact h.ungapped atMs reason hrun
    · exact hstarted atMs reason (mem_singleton.mp hlast).symm

theorem Covers.single {bytes : Bytes} (hpayload : chunk.payload = some bytes)
    (hlength : bytes.length ≤ maxReconciliationWindowBytes) : Covers [chunk] bytes := by
  refine ⟨⟨chunk, [], rfl, by rw [hpayload]; rfl⟩, by simp [media, hpayload], ?_, hlength⟩
  intro atMs reason hmem
  rw [← mem_singleton.mp hmem] at hpayload
  cases hpayload

/-- The windows cover the chunks: each covers a run of them without the start
of a gap, and what lies between two windows carries no audio. -/
inductive Tiles (timed : Bool) : List MeetingAudioWindow → List RecordedChunk → Prop
  | start : Tiles timed [] []
  | between {windows chunks chunk} (htiles : Tiles timed windows chunks)
      (hpayload : chunk.payload = none) : Tiles timed windows (chunks ++ [chunk])
  | window {earlier before window run} (htiles : Tiles timed earlier before)
      (hplaced : PlacedAt timed before earlier window) (hcovers : Covers run window.bytes) :
      Tiles timed (earlier ++ [window]) (before ++ run)

namespace Tiles

variable {timed : Bool} {windows : List MeetingAudioWindow} {chunks : List RecordedChunk}

/-- Nothing is lost and nothing is sent twice. -/
theorem flatMap_bytes (h : Tiles timed windows chunks) :
    windows.flatMap MeetingAudioWindow.bytes = media chunks := by
  induction h with
  | start => rfl
  | between _ hpayload ih => simp [ih, media, hpayload]
  | window _ _ hcovers ih => simp [media_append, ih, hcovers.bytes_eq]

theorem length_bytes_le (h : Tiles timed windows chunks) {window : MeetingAudioWindow}
    (hwindow : window ∈ windows) : window.bytes.length ≤ maxReconciliationWindowBytes := by
  induction h with
  | start => cases hwindow
  | between _ _ ih => exact ih hwindow
  | window _ _ hcovers ih =>
    rcases mem_append.mp hwindow with hearlier | hlast
    · exact ih hearlier
    · rw [mem_singleton.mp hlast]
      exact hcovers.bounded

end Tiles

/-! ## The exact timeline -/

/-- Before any audio the timeline is at its start; a timed one then stands at
the exact length of its samples and gaps. -/
def MediaTimeline.Exact (timed : Bool) (timeline : MediaTimeline) : Prop :=
  match timeline.format with
  | none => timeline.mediaMs = 0 ∧ timeline.timedSamples = 0 ∧ timeline.timedGapMs = 0
  | some format => timed = true → timeline.mediaMs = min
      (timeline.timedSamples * 1000 / format.sampleRateHz.toNat + timeline.timedGapMs) u64Max

namespace MediaTimeline

variable {timed : Bool} {timeline next : MediaTimeline} {chunk : RecordedChunk}
  (h : timeline.Exact timed)

include h

theorem Exact.of_none (hformat : timeline.format = none) :
    timeline.mediaMs = 0 ∧ timeline.timedSamples = 0 ∧ timeline.timedGapMs = 0 := by
  rwa [Exact, hformat] at h

theorem Exact.of_some {format : PcmFormat} (hformat : timeline.format = some format)
    (htimed : timed = true) : timeline.mediaMs = min
      (timeline.timedSamples * 1000 / format.sampleRateHz.toNat + timeline.timedGapMs) u64Max := by
  rw [Exact, hformat] at h
  exact h htimed

theorem Exact.durationMs_eq : timeline.durationMs = timeline.mediaMs := by
  unfold durationMs
  cases hformat : timeline.format with
  | none => exact (h.of_none hformat).1.symm
  | some format => rfl

theorem Exact.step (hfits : chunk.Fits timed) (hstep : timeline.Step timed chunk next) :
    next.Exact timed := by
  cases hstep with
  | timedFrame hgap hformat hbytes hnext =>
    obtain ⟨total, mediaMs, htotal, hmedia, rfl⟩ := timedFrame_eq_ok hnext
    obtain ⟨hlength, hbound⟩ := exactMediaMs_eq_ok hmedia
    intro _
    rw [min_eq_left (hlength ▸ hbound)]
    exact hlength
  | frame =>
    intro htimed
    cases htimed.symm.trans hfits.1
  | gapStarted => exact h
  | @gapEnded atMs _ _ hgap hnext =>
    obtain ⟨opened, timedGapMs, -, hcharged, rfl⟩ := gapEnded_eq_ok hnext
    unfold Exact
    cases hformat : timeline.format with
    | none =>
      have hkept : timedGapMs = timeline.timedGapMs := by
        simpa [chargedGapMs, hformat, eq_comm] using hcharged
      rw [hkept]
      simpa using h.of_none hformat
    | some format =>
      intro htimed
      have hadded : timedGapMs = timeline.timedGapMs + (atMs.toNat - opened.toNat) := by
        rw [chargedGapMs, hformat, htimed, if_pos ⟨rfl, rfl⟩, orError_eq_ok,
          checkedAdd_eq_some] at hcharged
        exact hcharged.1
      simp only [Option.isSome_some, if_true]
      rw [h.of_some hformat htimed, saturatingAdd_min, hadded, add_assoc]
  | other => exact h

end MediaTimeline

/-! ## The window being filled -/

theorem MediaSampleOrigin.projectSample_of_le (origin : MediaSampleOrigin) (sample : Nat)
    (hrate : origin.sampleRateHz ≠ 0)
    (hfits : sample * 1000 / origin.sampleRateHz.toNat + origin.gapOffsetMs ≤ u64Max) :
    origin.projectSample sample =
      .ok (sample * 1000 / origin.sampleRateHz.toNat + origin.gapOffsetMs) := by
  have hmillis : ¬ u64Max < sample * 1000 / origin.sampleRateHz.toNat := by omega
  unfold projectSample
  rw [if_neg hrate]
  rw [if_neg hmillis, checkedAdd_of_le hfits, orError_some]

namespace Windows

variable {timed : Bool} {windows : Windows} {format : PcmFormat}

/-- In a timed recording the window being filled starts at the samples sent
before it, and its last sample is still on the timeline. -/
structure Places (windows : Windows) (format : PcmFormat) (timeline : MediaTimeline) : Prop where
  samples_eq : windows.samples =
    sampleCount windows.sent + windows.bytes.length / format.frameAlignmentBytes
  gapMs_eq : timeline.timedGapMs = windows.gapMs
  start_eq : timeline.mediaMs =
    sampleCount windows.sent * 1000 / format.sampleRateHz.toNat + windows.gapMs
  samples_le : windows.samples ≤ u64Max
  end_le : windows.samples * 1000 / format.sampleRateHz.toNat + windows.gapMs ≤ u64Max

variable {timeline : MediaTimeline}

/-- The window that a timed recording's bytes make. -/
theorem Places.window (h : windows.Places format timeline) (htimed : windows.timed = true)
    (hbytes : windows.bytes ≠ []) (haligned : format.frameAlignmentBytes ∣ windows.bytes.length) :
    windows.window format = .ok ⟨format, timeline.mediaMs,
      some ⟨sampleCount windows.sent, format.sampleRateHz, timeline.timedGapMs⟩,
      windows.bytes, hbytes, haligned⟩ := by
  let origin : MediaSampleOrigin := ⟨sampleCount windows.sent, format.sampleRateHz, windows.gapMs⟩
  have hcount : ¬ windows.samples < windows.bytes.length / format.frameAlignmentBytes := by
    rw [h.samples_eq]
    omega
  have hfirst : windows.samples - windows.bytes.length / format.frameAlignmentBytes =
      sampleCount windows.sent := by
    rw [h.samples_eq, Nat.add_sub_cancel]
  have hsum : checkedAdd (sampleCount windows.sent)
      (windows.bytes.length / format.frameAlignmentBytes) = some windows.samples := by
    rw [checkedAdd_eq_some, ← h.samples_eq]
    exact ⟨rfl, h.samples_le⟩
  have hlast := origin.projectSample_of_le windows.samples
    format.sampleRateHz_pos h.end_le
  have hstart : origin.projectSample (sampleCount windows.sent) = .ok timeline.mediaMs := by
    rw [h.start_eq]
    apply MediaSampleOrigin.projectSample_of_le _ _ format.sampleRateHz_pos
    have hmono : sampleCount windows.sent * 1000 / format.sampleRateHz.toNat ≤
        windows.samples * 1000 / format.sampleRateHz.toNat := by
      apply Nat.div_le_div_right
      rw [h.samples_eq]
      exact mul_le_mul_right _ (le_add_right _ _)
    exact (Nat.add_le_add_right hmono _).trans h.end_le
  have horigin : MediaSampleOrigin.new (sampleCount windows.sent) format.sampleRateHz
      windows.gapMs = .ok origin := by
    change (origin.projectSample (sampleCount windows.sent) >>= _) = _
    rw [hstart]
    rfl
  have hnew : new format timeline.mediaMs windows.bytes =
      .ok ⟨format, timeline.mediaMs, none, windows.bytes, hbytes, haligned⟩ := by
    unfold new
    rw [dif_neg hbytes, dif_pos haligned]
  have hplaced : newWithSampleOrigin format origin windows.bytes =
      .ok ⟨format, timeline.mediaMs, some origin, windows.bytes, hbytes, haligned⟩ := by
    unfold newWithSampleOrigin
    rw [if_neg (not_not.mpr rfl), hstart]
    change (new format timeline.mediaMs windows.bytes >>= _) = _
    rw [hnew]
    change (orError _ (checkedAdd (sampleCount windows.sent)
      (windows.bytes.length / format.frameAlignmentBytes)) >>= _) = _
    rw [hsum]
    change (origin.projectSample windows.samples >>= _) = _
    rw [hlast]
    rfl
  unfold Windows.window
  rw [if_pos htimed]
  rw [if_neg hcount, hfirst, horigin, h.gapMs_eq]
  change reported (newWithSampleOrigin format origin windows.bytes) = _
  rw [hplaced]
  rfl

/-- What the builder holds after the chunks `taken`: no bytes, or the bytes of
a run that no window covers yet. -/
inductive Filling (timed : Bool) (taken : List RecordedChunk) (windows : Windows) : Prop
  | empty (hbytes : windows.bytes = []) (htiles : Tiles timed windows.sent taken)
      (hsamples : timed = true → windows.samples = sampleCount windows.sent) :
      Filling timed taken windows
  | gathering {before run walk format} (htaken : taken = before ++ run)
      (htiles : Tiles timed windows.sent before) (hcovers : Covers run windows.bytes)
      (hbytes : windows.bytes ≠ []) (hformat : windows.format = some format)
      (haligned : format.frameAlignmentBytes ∣ windows.bytes.length)
      (hwalk : Walk.empty.acceptAll timed before = .ok walk)
      (hstarted : windows.startedAtMs = walk.timeline.mediaMs)
      (hplaces : timed = true → windows.Places format walk.timeline)
      (hclosed : windows.gapOpenedAtMs = none) : Filling timed taken windows

/-- A receiver that stays open. -/
def stayingOpen : Nat → Bool := fun _ => true

/-- Sending the window being filled completes the tiling. -/
theorem Filling.flush {taken : List RecordedChunk} (h : Filling timed taken windows)
    (htimed : windows.timed = timed) : ∃ sent,
      flush stayingOpen windows = (.ok true, { windows with bytes := [], sent := sent }) ∧
      Tiles timed sent taken ∧ (timed = true → windows.samples = sampleCount sent) := by
  cases h with
  | empty hbytes htiles hsamples =>
    refine ⟨windows.sent, ?_, htiles, hsamples⟩
    change (if windows.bytes = [] then (pure true : Building Bool) else _) windows = _
    rw [if_pos hbytes]
    change (Except.ok true, windows) = _
    rw [← hbytes]
  | @gathering before run walk format htaken htiles hcovers hbytes hformat haligned hwalk hstarted
      hplaces hclosed =>
      have hwindow : ∃ window, windows.window format = .ok window ∧
          window.bytes = windows.bytes ∧ window.format = format ∧
          PlacedAt timed before windows.sent window := by
        cases timed with
        | true =>
          have hmade := (hplaces rfl).window htimed hbytes haligned
          exact ⟨_, hmade, rfl, rfl, walk, hwalk, rfl, rfl⟩
        | false =>
          have hmade : windows.window format =
              .ok ⟨format, windows.startedAtMs, none, windows.bytes, hbytes, haligned⟩ := by
            unfold Windows.window
            rw [htimed, if_neg Bool.false_ne_true, new, dif_neg hbytes, dif_pos haligned]
            rfl
          exact ⟨_, hmade, rfl, rfl, walk, hwalk, hstarted, rfl⟩
      obtain ⟨window, hmade, hsame, hunder, hplaced⟩ := hwindow
      refine ⟨windows.sent ++ [window], ?_, ?_, fun hexact => ?_⟩
      · change (if windows.bytes = [] then (pure true : Building Bool) else _) windows = _
        have hstated : orError (adapterError "recording window has no format") windows.format =
            .ok format := by rw [hformat, orError_some]
        rw [if_neg hbytes]
        rw [hstated]
        change (lift (windows.window format) >>= _ : Building Bool) windows = _
        rw [hmade]
        rfl
      · rw [htaken]
        exact htiles.window hplaced (hsame ▸ hcovers)
      · rw [sampleCount_snoc, (hplaces hexact).samples_eq, MeetingAudioWindow.samples, hsame,
          hunder]

/-! ## One frame -/

/-- The timeline after a frame of `length` bytes, in either layout. -/
def AdvancesTo (timed : Bool) (timeline : MediaTimeline) (format : PcmFormat) (length : Nat)
    (next : MediaTimeline) : Prop :=
  if timed then timeline.timedFrame format length = .ok next
  else next = timeline.frame format length

/-- What is exact about the timeline after a frame. -/
structure Advanced (timed : Bool) (timeline : MediaTimeline) (format : PcmFormat) (length : Nat)
    (next : MediaTimeline) : Prop where
  format_eq : next.format = some format
  gap_eq : next.openGapAtMs = timeline.openGapAtMs
  gapMs_eq : next.timedGapMs = timeline.timedGapMs
  samples_eq : timed = true →
    next.timedSamples = timeline.timedSamples + length / format.frameAlignmentBytes
  samples_le : timed = true → next.timedSamples ≤ u64Max
  end_le : timed = true →
    next.timedSamples * 1000 / format.sampleRateHz.toNat + next.timedGapMs ≤ u64Max

theorem AdvancesTo.advanced {next : MediaTimeline} {length : Nat}
    (h : AdvancesTo timed timeline format length next) :
    Advanced timed timeline format length next := by
  cases timed with
  | true =>
    obtain ⟨total, mediaMs, htotal, hmedia, rfl⟩ := timedFrame_eq_ok h
    obtain ⟨hsum, hfits⟩ := checkedAdd_eq_some.mp htotal
    obtain ⟨hexact, hbound⟩ := exactMediaMs_eq_ok hmedia
    exact ⟨rfl, rfl, rfl, fun _ => hsum, fun _ => hsum ▸ hfits, fun _ => hexact ▸ hbound⟩
  | false =>
    cases h
    exact ⟨rfl, rfl, rfl, by simp, by simp, by simp⟩

/-- The builder's own timeline follows the walk's. -/
structure Follows (timed : Bool) (timeline : MediaTimeline) (windows : Windows) : Prop where
  timed_eq : windows.timed = timed
  mediaMs_eq : windows.mediaMs = timeline.mediaMs
  gap_eq : windows.gapOpenedAtMs = timeline.openGapAtMs
  samples_eq : windows.samples = timeline.timedSamples
  gapMs_eq : windows.gapMs = timeline.timedGapMs

theorem Follows.advance {next : MediaTimeline} {bytes : Bytes} (h : Follows timed timeline windows)
    (hnext : AdvancesTo timed timeline format bytes.length next) :
    advance format bytes windows = (.ok (), { windows with
      samples := next.timedSamples, mediaMs := next.mediaMs }) := by
  cases timed with
  | true =>
    obtain ⟨total, mediaMs, htotal, hmedia, rfl⟩ := timedFrame_eq_ok hnext
    rw [← h.samples_eq] at htotal
    rw [← h.gapMs_eq] at hmedia
    change (if windows.timed then _ else _ : Building Unit) windows = _
    rw [if_pos h.timed_eq]
    rw [htotal]
    change (lift (exactMediaMs total format.sampleRateHz windows.gapMs) >>= _ : Building Unit)
      { windows with samples := total } = _
    rw [hmedia]
    rfl
  | false =>
    cases hnext
    have hlegacy : ¬ windows.timed = true := by simp [h.timed_eq]
    change (if windows.timed then _ else _ : Building Unit) windows = _
    rw [if_neg hlegacy, frame, ← h.mediaMs_eq, ← h.samples_eq]
    rfl

/-- The builder after the chunks `taken`. -/
structure Builds (timed : Bool) (taken : List RecordedChunk) (timeline : MediaTimeline)
    (windows : Windows) : Prop where
  format_eq : windows.format = timeline.format
  follows : Follows timed timeline windows
  filling : Filling timed taken windows

section

variable {taken : List RecordedChunk} {timeline next : MediaTimeline} {bytes : Bytes}
  {chunk : RecordedChunk} {walk : Walk}

theorem adoptFormat_yields (h : Builds timed taken timeline windows)
    (hformat : ∀ prior ∈ timeline.format, prior = format) :
    adoptFormat format windows = (.ok (), { windows with format := some format }) ∧
      Filling timed taken { windows with format := some format } := by
  cases hprior : timeline.format with
  | none =>
    have hnone : windows.format = none := h.format_eq.trans hprior
    constructor
    · simp only [adoptFormat, read_bind, hnone]
      rfl
    · cases h.filling with
      | empty hbytes htiles hsamples => exact .empty hbytes htiles hsamples
      | gathering _ _ _ _ hsome =>
        rw [hnone] at hsome
        cases hsome
  | some prior =>
    have hsome : windows.format = some format := by
      rw [h.format_eq, hprior, hformat prior hprior]
    have hsame : { windows with format := some format } = windows := by rw [← hsome]
    rw [hsame]
    refine ⟨?_, h.filling⟩
    simp only [adoptFormat, read_bind, hsome]
    exact require_of_true trivial windows

theorem makeRoom_yields (h : Filling timed taken windows) (htimed : windows.timed = timed)
    (hlength : bytes.length ≤ maxReconciliationWindowBytes) :
    Yields (makeRoom stayingOpen bytes) windows fun room reached => room = true ∧
      (∃ gathered sent, reached = { windows with bytes := gathered, sent := sent }) ∧
      reached.bytes.length + bytes.length ≤ maxReconciliationWindowBytes ∧
      Filling timed taken reached := by
  apply Yields.of_read_bind
  by_cases hfull : maxReconciliationWindowBytes < windows.bytes.length + bytes.length
  · rw [if_pos hfull]
    obtain ⟨sent, hrun, htiles, hsamples⟩ := h.flush htimed
    refine ⟨true, _, hrun, rfl, ⟨[], sent, rfl⟩, ?_, .empty rfl htiles hsamples⟩
    simpa using hlength
  · rw [if_neg hfull]
    exact .of_pure ⟨rfl, ⟨_, _, rfl⟩, Nat.le_of_not_lt hfull, h⟩

/-- Where a timed window starts: at the end of the samples already sent. -/
theorem start_of_exact (hexact : timeline.Exact timed) (htimed : timed = true)
    (hformat : ∀ prior ∈ timeline.format, prior = format)
    (hadvanced : Advanced timed timeline format bytes.length next) :
    timeline.mediaMs =
      timeline.timedSamples * 1000 / format.sampleRateHz.toNat + timeline.timedGapMs := by
  cases hprior : timeline.format with
  | none =>
    obtain ⟨hmedia, hsamples, hgap⟩ := hexact.of_none hprior
    rw [hmedia, hsamples, hgap]
    simp
  | some prior =>
    have hend := hadvanced.end_le htimed
    rw [hadvanced.gapMs_eq, hadvanced.samples_eq htimed] at hend
    rw [hformat prior hprior] at hprior
    rw [hexact.of_some hprior htimed]
    apply min_eq_left
    refine le_trans (Nat.add_le_add_right (Nat.div_le_div_right ?_) _) hend
    exact mul_le_mul_right _ (le_add_right _ _)

section

variable (hwalk : Walk.empty.acceptAll timed taken = .ok walk)
  (htimeline : walk.timeline = timeline) (hexact : timeline.Exact timed)
  (hgap : timeline.openGapAtMs = none) (hformat : ∀ prior ∈ timeline.format, prior = format)
  (hpayload : chunk.payload = some bytes) (hbytes : bytes ≠ [])
  (haligned : format.frameAlignmentBytes ∣ bytes.length)

include hwalk htimeline hexact hgap hformat hpayload hbytes haligned

/-- The window being filled after another frame. -/
theorem Filling.push (h : Filling timed taken windows) (hfollows : Follows timed timeline windows)
    (hstated : windows.format = some format)
    (hadvanced : Advanced timed timeline format bytes.length next)
    (hroom : windows.bytes.length + bytes.length ≤ maxReconciliationWindowBytes) :
    Filling timed (taken ++ [chunk]) { windows with
      startedAtMs := if windows.bytes = [] then windows.mediaMs else windows.startedAtMs
      samples := next.timedSamples
      mediaMs := next.mediaMs
      bytes := windows.bytes ++ bytes } := by
  have hclosed : windows.gapOpenedAtMs = none := hfollows.gap_eq.trans hgap
  have hgapMs : next.timedGapMs = windows.gapMs := hadvanced.gapMs_eq.trans hfollows.gapMs_eq.symm
  cases h with
  | empty hempty htiles hsamples =>
    rw [hempty, length_nil, zero_add] at hroom
    rw [hempty, nil_append]
    have hstarted : windows.mediaMs = walk.timeline.mediaMs :=
      hfollows.mediaMs_eq.trans (congrArg _ htimeline.symm)
    refine .gathering rfl htiles (.single hpayload hroom) hbytes hstated haligned hwalk
      hstarted (fun htimed => ?_) hclosed
    have hsent : timeline.timedSamples = sampleCount windows.sent :=
      hfollows.samples_eq.symm.trans (hsamples htimed)
    have hstart := start_of_exact hexact htimed hformat hadvanced
    refine ⟨?_, ?_, ?_, hadvanced.samples_le htimed, ?_⟩
    · rw [hadvanced.samples_eq htimed, hsent]
    · rw [htimeline, hfollows.gapMs_eq]
    · rw [htimeline, hstart, hsent, hfollows.gapMs_eq]
    · rw [← hgapMs]
      exact hadvanced.end_le htimed
  | @gathering before run begun stated htaken htiles hcovers hnonempty hunder hwhole hbegun hstarted
      hplaces _ =>
      cases hstated.symm.trans hunder
      rw [if_neg hnonempty]
      have hmedia : media [chunk] = bytes := by simp [media, hpayload]
      have hframe : ∀ atMs reason, chunk ≠ .gapStarted atMs reason := by
        rintro atMs reason rfl
        cases hpayload
      rw [← hmedia] at hroom
      refine .gathering ?_ htiles (hmedia ▸ hcovers.snoc hframe hroom) (by simp [hbytes]) hstated
        ?_ hbegun hstarted (fun htimed => ?_) hclosed
      · rw [htaken, append_assoc]
      · rw [length_append]
        exact dvd_add hwhole haligned
      have hprior := hplaces htimed
      refine ⟨?_, hprior.gapMs_eq, hprior.start_eq, hadvanced.samples_le htimed, ?_⟩
      · rw [hadvanced.samples_eq htimed, ← hfollows.samples_eq, hprior.samples_eq,
          length_append, Nat.add_div_of_dvd_right hwhole, Nat.add_assoc]
      · rw [← hgapMs]
        exact hadvanced.end_le htimed

/-- A frame the walk accepts is taken in, and both timelines move alike. -/
theorem accept_yields (h : Builds timed taken timeline windows)
    (hnext : AdvancesTo timed timeline format bytes.length next)
    (hlength : bytes.length ≤ maxReconciliationWindowBytes) :
    Yields (accept stayingOpen format bytes) windows fun room reached =>
      room = true ∧ Builds timed (taken ++ [chunk]) next reached := by
  obtain ⟨hadopted, hfilling⟩ := adoptFormat_yields h hformat
  have hadvanced := hnext.advanced
  apply of_ok_bind hadopted
  apply Yields.of_require_bind hlength
  apply of_bind (makeRoom_yields hfilling h.follows.timed_eq hlength)
  rintro _ roomy ⟨rfl, ⟨gathered, sent, rfl⟩, hroom, hfilled⟩
  have hfollows : Follows timed timeline
      { windows with format := some format, bytes := gathered, sent := sent } :=
    { h.follows with }
  apply of_update_bind
  have hstarted : Follows timed timeline { windows with
      format := some format
      bytes := gathered
      sent := sent
      startedAtMs := if gathered = [] then windows.mediaMs else windows.startedAtMs } :=
    { hfollows with }
  apply of_ok_bind (hstarted.advance hnext)
  apply of_update_bind
  apply of_pure
  refine ⟨rfl, hadvanced.format_eq.symm, ?_, ?_⟩
  · exact ⟨hfollows.timed_eq, rfl, hfollows.gap_eq.trans hadvanced.gap_eq.symm, rfl,
      hfollows.gapMs_eq.trans hadvanced.gapMs_eq.symm⟩
  · exact hfilled.push hwalk htimeline hexact hgap hformat hpayload hbytes haligned hfollows rfl
      hadvanced hroom

end

/-! ## One chunk -/

variable (h : Builds timed taken timeline windows)

include h

theorem Builds.flush (hpayload : chunk.payload = none) :
    Yields (flush stayingOpen) windows fun room reached => room = true ∧ reached.bytes = [] ∧
      Builds timed (taken ++ [chunk]) timeline reached := by
  obtain ⟨sent, hrun, htiles, hsamples⟩ := h.filling.flush h.follows.timed_eq
  refine ⟨true, _, hrun, rfl, rfl, h.format_eq, ?_, .empty rfl (htiles.between hpayload) hsamples⟩
  exact { h.follows with }

theorem Builds.quiet (hpayload : chunk.payload = none)
    (hstarted : ∀ atMs reason, chunk ≠ .gapStarted atMs reason) :
    Builds timed (taken ++ [chunk]) timeline windows := by
  refine ⟨h.format_eq, h.follows, ?_⟩
  cases h.filling with
  | empty hbytes htiles hsamples => exact .empty hbytes (htiles.between hpayload) hsamples
  | @gathering before run walk format htaken htiles hcovers hbytes hformat haligned hwalk hbegun
      hplaces hclosed =>
      have hmedia : media [chunk] = [] := by simp [media, hpayload]
      have hgrown := hcovers.snoc hstarted (by simpa [hmedia] using hcovers.bounded)
      rw [hmedia, append_nil] at hgrown
      refine .gathering ?_ htiles hgrown hbytes hformat haligned hwalk hbegun hplaces hclosed
      rw [htaken, append_assoc]

/-- The end of a gap moves both timelines alike. -/
theorem Builds.closeGap {atMs opened : UInt64} (hgap : timeline.openGapAtMs = some opened)
    (hnext : timeline.gapEnded atMs timed = .ok next) :
    Builds timed (taken ++ [.gapEnded atMs]) next (windows.closeGap atMs) := by
  have hopened : windows.gapOpenedAtMs = some opened := h.follows.gap_eq.trans hgap
  -- Nothing is being filled while a gap is open.
  have hempty : windows.bytes = [] ∧ Tiles timed windows.sent taken ∧
      (timed = true → windows.samples = sampleCount windows.sent) := by
    cases h.filling with
    | empty hbytes htiles hsamples => exact ⟨hbytes, htiles, hsamples⟩
    | gathering _ _ _ _ _ _ _ _ _ hclosed =>
      rw [hclosed] at hopened
      cases hopened
  obtain ⟨hbytes, htiles, hsamples⟩ := hempty
  have hsent : Tiles timed windows.sent (taken ++ [.gapEnded atMs]) := htiles.between rfl
  obtain ⟨started, timedGapMs, hstarted, hcharged, rfl⟩ := MediaTimeline.gapEnded_eq_ok hnext
  cases hgap.symm.trans hstarted
  unfold Windows.closeGap
  rw [hopened]
  rw [h.format_eq]
  cases hformat : timeline.format with
  | none =>
    have hkept : timedGapMs = timeline.timedGapMs := by
      simpa [chargedGapMs, hformat, eq_comm] using hcharged
    refine ⟨rfl, ⟨h.follows.timed_eq, h.follows.mediaMs_eq, rfl,
      h.follows.samples_eq, ?_⟩, .empty hbytes hsent hsamples⟩
    exact h.follows.gapMs_eq.trans hkept.symm
  | some format =>
    refine ⟨rfl, ⟨h.follows.timed_eq, ?_, rfl, h.follows.samples_eq, ?_⟩,
      .empty hbytes hsent hsamples⟩
    · exact congrArg (saturatingAdd · _) h.follows.mediaMs_eq
    · cases timed with
      | false =>
        have hkept : timedGapMs = timeline.timedGapMs := by
          simpa [chargedGapMs, hformat, eq_comm] using hcharged
        simp [h.follows.timed_eq, h.follows.gapMs_eq, hkept]
      | true =>
        rw [chargedGapMs, hformat, if_pos ⟨rfl, rfl⟩, orError_eq_ok, checkedAdd_eq_some] at hcharged
        obtain ⟨rfl, hfits⟩ := hcharged
        simp [h.follows.timed_eq, h.follows.gapMs_eq, saturatingAdd, hfits]

/-- A chunk that moves the walk's timeline moves the builder along. -/
theorem deliver_yields (hwalk : Walk.empty.acceptAll timed taken = .ok walk)
    (htimeline : walk.timeline = timeline) (hexact : timeline.Exact timed)
    (hfits : chunk.Fits timed) (hstep : timeline.Step timed chunk next) :
    Yields (deliver stayingOpen chunk) windows fun room reached =>
      room = true ∧ Builds timed (taken ++ [chunk]) next reached := by
  have hsmall : maxChunkCiphertextBytes ≤ maxReconciliationWindowBytes := by decide
  cases hstep with
  | timedFrame hgap hformat hbytes hnext =>
    obtain ⟨htimed, haligned, hlength, -⟩ := hfits
    apply accept_yields hwalk htimeline hexact hgap hformat rfl hbytes haligned h _
      (hlength.trans hsmall)
    rwa [AdvancesTo, if_pos htimed]
  | frame hnew hgap hformat hbytes haligned =>
    obtain ⟨hlegacy, hlength⟩ := hfits
    apply of_lift_bind (orElse_eq_ok.mpr hnew)
    apply accept_yields hwalk htimeline hexact hgap hformat rfl hbytes haligned h _
      (hlength.trans hsmall)
    rw [AdvancesTo, hlegacy, if_neg Bool.false_ne_true]
  | @gapStarted atMs reason hgap =>
    apply of_bind (h.flush (show (RecordedChunk.gapStarted atMs reason).payload = none from rfl))
    rintro _ flushed ⟨rfl, hempty, hbuilds⟩
    apply of_update_bind
    apply of_pure
    refine ⟨rfl, hbuilds.format_eq, ?_, ?_⟩
    · exact ⟨hbuilds.follows.timed_eq, hbuilds.follows.mediaMs_eq, rfl,
        hbuilds.follows.samples_eq, hbuilds.follows.gapMs_eq⟩
    · cases hbuilds.filling with
      | empty hbytes htiles hsamples => exact .empty hbytes htiles hsamples
      | gathering _ _ _ hbytes => exact absurd hempty hbytes
  | gapEnded hgap hnext =>
    apply of_update_bind
    exact .of_pure ⟨rfl, h.closeGap hgap hnext⟩
  | other hpayload hstarted hended =>
    have hkept := h.quiet hpayload hstarted
    cases chunk with
    | ended atMs =>
      apply (h.flush hpayload).weaken
      rintro _ reached ⟨hroom, -, hbuilds⟩
      exact ⟨hroom, hbuilds⟩
    | timedFrame | frame => cases hpayload
    | gapStarted atMs reason => exact absurd rfl (hstarted atMs reason)
    | gapEnded atMs => exact absurd rfl (hended atMs)
    | timingPolicy | captureMetadata metadata | alignmentLimit => exact .of_pure ⟨rfl, hkept⟩

end

/-! ## Whole recordings -/

/-- A reader that is not cancelled. -/
def undisturbed : Nat → Bool := fun _ => false

/-- The builder keeps up with the walk over all chunks. -/
theorem deliverAll_yields {taken chunks : List RecordedChunk} {walk last : Walk} (position : Nat)
    (h : Builds timed taken walk.timeline windows)
    (hwalk : Walk.empty.acceptAll timed taken = .ok walk) (hconsistent : walk.Consistent)
    (hexact : walk.timeline.Exact timed) (hfits : ∀ chunk ∈ chunks, chunk.Fits timed)
    (hlast : walk.acceptAll timed chunks = .ok last) (hgoing : last.incomplete = false) :
    Yields (deliverAll stayingOpen undisturbed position chunks) windows fun finished reached =>
      finished = true ∧ last.timeline.Exact timed ∧
        Builds timed (taken ++ chunks) last.timeline reached := by
  induction chunks generalizing taken walk windows position with
  | nil =>
    cases hlast
    rw [append_nil]
    exact .of_pure ⟨rfl, hexact, h⟩
  | cons chunk chunks ih =>
    obtain ⟨next, hnext, hopen, hrest⟩ := Walk.acceptAll_cons hlast hgoing
    obtain ⟨hagain, hstep⟩ := Walk.step_of_accept hconsistent hnext hopen
    have hfirst : chunk.Fits timed := hfits chunk mem_cons_self
    have hthere := Walk.acceptAll_snoc hwalk hconsistent.going hnext
    apply of_bind (deliver_yields h hwalk rfl hexact hfirst hstep)
    rintro _ reached ⟨rfl, hbuilds⟩
    rw [show taken ++ chunk :: chunks = (taken ++ [chunk]) ++ chunks by simp]
    exact ih (position + 1) hbuilds hthere hagain (hexact.step hfirst hstep)
      (fun other hother => hfits other (mem_cons_of_mem _ hother)) hrest

/-- The last window is sent when the recording ends. -/
theorem readChunkWindows_yields {readout : RecordedChunks.Readout} {walk : Walk} {truncated : Bool}
    (hfits : ∀ chunk ∈ readout.chunks, chunk.Fits timed)
    (hwalk : Walk.empty.acceptAll timed readout.chunks = .ok walk)
    (hgoing : walk.incomplete = false) (hending : readout.ending = .ok truncated) :
    Yields (readChunkWindows stayingOpen undisturbed readout) (Windows.start timed)
      fun torn reached => torn = truncated ∧ Tiles timed reached.sent readout.chunks ∧
        reached.mediaMs = walk.timeline.durationMs := by
  have hbegun : Builds timed [] Walk.empty.timeline (.start timed) :=
    ⟨rfl, ⟨rfl, rfl, rfl, rfl, rfl⟩, .empty rfl .start fun _ => rfl⟩
  have hexact : Walk.empty.timeline.Exact timed := ⟨rfl, rfl, rfl⟩
  apply of_bind (deliverAll_yields 0 hbegun rfl Walk.consistent_empty hexact hfits hwalk hgoing)
  rintro _ reached ⟨rfl, hlast, hbuilds⟩
  apply of_lift_bind hending
  obtain ⟨sent, hrun, htiles, -⟩ := hbuilds.filling.flush hbuilds.follows.timed_eq
  apply of_ok_bind hrun
  apply of_pure
  exact ⟨rfl, htiles, hbuilds.follows.mediaMs_eq.trans hlast.durationMs_eq.symm⟩

end Windows

/-! ## Against the reported summaries -/

open SessionRecorder in
/-- The summaries that are reported for a file: the one adoption rebuilds, and
the one a complete recorder stated itself, if it never refused a first frame. -/
inductive Reported (calls : List SealCall) (content : Bytes) (summary : RecordingSummary) : Prop
  | adopted {settings cancelled sessionId handle capability} (hcalls : settings.calls = calls)
      (hstored : settings.stored handle = some content)
      (hadopted : adoptClosedRecording settings cancelled sessionId handle =
        .ok (summary, capability)) : Reported calls content summary
  | finalized {env identity limits started operations recorder} (hclock : env.MonotoneClock)
      (hstart : start env identity limits = .ok started)
      (haccepted : Along (step env) (FirstFrameAccepted env) started operations)
      (hrun : run env started operations = recorder) (hcomplete : recorder.isIncomplete = false)
      (hsummary : recorder.summary = some summary) (hcontent : recorder.file.content = content)
      (hkey : KeyLog recorder.identity recorder.file calls) : Reported calls content summary

open SessionRecorder in
/-- A reported summary states the length of the timeline the walk rebuilds. -/
theorem Reported.durationMs_eq {calls : List SealCall} {content : Bytes}
    {summary : RecordingSummary} (h : Reported calls content summary) {completed : CompletedWalk}
    (hwalk : walkCompletedChunks calls (.start content true) = .ok completed) :
    summary.durationMs = completed.timeline.durationMs := by
  cases h with
  | adopted hcalls hstored hadopted =>
    obtain ⟨found, timeline, hfound, -, hagain, hduration⟩ := walk_of_adoptClosedRecording hadopted
    cases hstored.symm.trans hfound
    rw [hcalls, hwalk] at hagain
    cases hagain
    exact hduration
  | @finalized env identity limits started operations recorder hclock hstart haccepted hrun
      hcomplete
      hsummary hcontent hkey =>
      obtain ⟨-, hwritten⟩ := writtenLog_of_run hstart operations hrun
      have hended : recorder.ended = true :=
        (finished_of_run hstart operations hrun).ended (by rw [hsummary]; rfl)
      have hagreed : Agreed env (run env started operations) :=
        haccepted.kept (Agreed.step hclock) (.inr (Mirrors.start hclock hstart))
      rw [hrun] at hagreed
      rcases hagreed with hincomplete | ⟨now, chunks, walk, hmirrors, hagrees⟩
      · cases hcomplete.symm.trans hincomplete
      · let settings : RecoverySettings := { restart env recorder with calls := calls }
        have hsettings : Restarted env recorder settings := ⟨rfl, rfl, rfl, if_pos rfl, hkey⟩
        have hagain := walk_of_mirrors hwritten hcomplete hsettings hmirrors hended
        rw [hcontent] at hagain
        rw [hwalk] at hagain
        cases hagain
        rw [hagrees.summary summary hsummary]
        rfl

namespace Windows

/-- On every recording the walk accepts, the windows sent to a receiver that
stays open hold all audio once and in order, none is longer than allowed or
crosses the start of a gap, each stands where the walk's timeline stood at its
first frame, and the reader's timeline ends at the reported length. -/
theorem windows_tile_recording {key : RecordingKey} {calls : List SealCall}
    (hsealed : SealedUnder key calls) {content : Bytes} {completed : CompletedWalk}
    (hwalk : walkCompletedChunks calls (.start content true) = .ok completed)
    (hcomplete : completed.incomplete = false) (strict : Bool) :
    let readout := (RecordedChunks.start content strict).readout calls
    let timed := isTimedHeader (content.take headerLen)
    ∃ windows, readChunkWindows stayingOpen undisturbed readout (Windows.start timed) =
        (.ok completed.truncated, windows) ∧
      windows.sent.flatMap MeetingAudioWindow.bytes = media readout.chunks ∧
      (∀ window ∈ windows.sent, window.bytes ≠ [] ∧
        window.format.frameAlignmentBytes ∣ window.bytes.length ∧
        window.bytes.length ≤ maxReconciliationWindowBytes) ∧
      Tiles timed windows.sent readout.chunks ∧
      windows.mediaMs = completed.timeline.durationMs ∧
      ∀ summary, Reported calls content summary → summary.durationMs = windows.mediaMs := by
  intro readout timed
  obtain ⟨walk, haccepted, hrest⟩ := bind_eq_ok hwalk
  split at hrest
  · cases hrest
    cases hcomplete
  next hgoing =>
    obtain ⟨truncated, hending, hdone⟩ := bind_eq_ok hrest
    cases hdone
    have hsame : readout = (RecordedChunks.start content true).readout calls :=
      RecordedChunks.readout_lenient hending strict
    have hfits : ∀ chunk ∈ readout.chunks, chunk.Fits timed := fun _ hchunk =>
      RecordedChunks.fits_of_readout hsealed hchunk
    rw [← hsame] at haccepted hending
    obtain ⟨torn, windows, hrun, rfl, htiles, hduration⟩ := readChunkWindows_yields hfits
      haccepted (Bool.eq_false_iff.mpr hgoing) hending
    refine ⟨windows, hrun, htiles.flatMap_bytes, ?_, htiles, hduration, ?_⟩
    · intro window hwindow
      exact ⟨window.bytes_ne_nil, window.aligned, htiles.length_bytes_le hwindow⟩
    · intro summary hreported
      rw [hduration]
      exact hreported.durationMs_eq hwalk

open SessionRecorder in
theorem windows_tile_recording_gap :
    let started := startFormat (.sample false) .default
    let operations : List Operation :=
      [.recordFrame (.sample false), .recordCaptureGap, .recordFrame (.sample false), .finalize]
    let recorder := run .calm started operations
    let readout := (RecordedChunks.start recorder.file.content false).readout recorder.file.seals
    ∃ windows, readChunkWindows stayingOpen undisturbed readout (Windows.start false) =
        (.ok false, windows) ∧
      windows.sent.flatMap MeetingAudioWindow.bytes = [1, 0, 1, 0] ∧
      Tiles false windows.sent readout.chunks ∧
      ∀ summary, recorder.summary = some summary → summary.durationMs = windows.mediaMs := by
  intro started operations recorder readout
  have hclock : Environment.calm.MonotoneClock := fun _ _ hle => hle
  have hstart : SessionRecorder.start .calm (.sample false) .default = .ok started := rfl
  have haccepted : Along (step .calm) (FirstFrameAccepted .calm) started operations :=
    ⟨by decide +kernel, by decide +kernel, by decide +kernel, by decide +kernel, trivial⟩
  have hsealed : SealedUnder Environment.calm.key recorder.file.seals := by
    unfold SealedUnder
    decide +kernel
  have hlayout : isTimedHeader (recorder.file.content.take headerLen) = false := by decide +kernel
  have hmedia : media readout.chunks = [1, 0, 1, 0] := by decide +kernel
  have hcomplete : recorder.isIncomplete = false := by decide +kernel
  obtain ⟨completed, hwalk, hclosed⟩ := exists_ok (walkCompletedChunks recorder.file.seals
    (.start recorder.file.content true))
    (fun completed => !completed.incomplete && !completed.truncated) (by decide +kernel)
  rw [Bool.and_eq_true, Bool.not_eq_true', Bool.not_eq_true'] at hclosed
  obtain ⟨windows, hrun, hbytes, -, htiles, -, hreported⟩ :=
    windows_tile_recording hsealed hwalk hclosed.1 false
  rw [hlayout, hclosed.2] at hrun
  rw [hlayout] at htiles
  refine ⟨windows, hrun, hbytes.trans hmedia, htiles, fun summary hsummary => ?_⟩
  have hkey : KeyLog recorder.identity recorder.file recorder.file.seals := .alone _ _
  have hrun : run .calm started operations = recorder := rfl
  exact hreported summary (.finalized hclock hstart haccepted hrun hcomplete hsummary rfl hkey)

open SessionRecorder in
/-- A timed recorder that has refused its first frame charges a gap that the
chunks do not: it reports five milliseconds more than the reader finds. -/
theorem refused_frame_shifts_duration :
    Environment.calm.MonotoneClock ∧ (∀ tick, Environment.calm.faultAt tick = false) ∧
    ∃ started recorder summary windows,
      SessionRecorder.start .calm (.sample true) .default = .ok started ∧
      run .calm started [.recordFrame (.sample true), .recordCaptureGap,
        .recordFrame (.sample false), .finalize] = recorder ∧
      recorder.isIncomplete = false ∧ recorder.summary = some summary ∧
      (walkCompletedChunks recorder.file.seals (.start recorder.file.content true)).isOk = true ∧
      readChunkWindows stayingOpen undisturbed
          ((RecordedChunks.start recorder.file.content true).readout recorder.file.seals)
          (Windows.start true) = (.ok false, windows) ∧
      windows.mediaMs = 0 ∧ summary.durationMs = 5 := by
  refine ⟨fun _ _ hle => hle, fun _ => rfl, ?_⟩
  obtain ⟨started, hstart, hdiffer⟩ :=
    exists_ok (SessionRecorder.start .calm (.sample true) .default)
    (fun started =>
      let recorder := run .calm started [.recordFrame (.sample true), .recordCaptureGap,
        .recordFrame (.sample false), .finalize]
      let reading := readChunkWindows stayingOpen undisturbed
        ((RecordedChunks.start recorder.file.content true).readout recorder.file.seals)
        (.start true)
      recorder.summary.any fun summary => reading.1 = .ok false ∧ recorder.isIncomplete = false ∧
        (walkCompletedChunks recorder.file.seals
          (.start recorder.file.content true)).isOk = true ∧
        reading.2.mediaMs = 0 ∧ summary.durationMs = 5) (by decide +kernel)
  obtain ⟨summary, hsummary, hdiffer⟩ := (Option.any_eq_true _ _).mp hdiffer
  obtain ⟨hread, hcomplete, hwalk, hmedia, hduration⟩ := of_decide_eq_true hdiffer
  exact ⟨started, _, summary, _, hstart, rfl, hcomplete, hsummary, hwalk, Prod.ext hread rfl,
    hmedia,
    hduration⟩

end Windows

end ConversationRuntime
