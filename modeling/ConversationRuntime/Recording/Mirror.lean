import ConversationRuntime.Recording.Readback
import ConversationRuntime.Recording.Recovery

/-! # The recorder and the walk over its file

A recorder keeps its own account of what it has written; a recovery walk builds
an account from the chunks alone. As long as the recorder is complete and its
clock does not run backwards, the walk accepts every chunk and its account
mirrors the recorder's.
-/

namespace ConversationRuntime

open Foundation MediaTimeline Walk Nat
open UInt64 (le_iff_toNat_le le_refl le_trans toNat_ofNat')

/-- The clock never runs backwards. -/
def Environment.MonotoneClock (env : Environment) : Prop :=
  ∀ first second, first ≤ second → env.millis first ≤ env.millis second

theorem Environment.MonotoneClock.clockMs_le {env : Environment} (h : env.MonotoneClock)
    {first second : Nat} (hle : first ≤ second) : env.clockMs first ≤ env.clockMs second := by
  have hmillis := h first second hle
  rw [le_iff_toNat_le, Environment.clockMs, Environment.clockMs, toNat_ofNat', toNat_ofNat']
  simp only [u64Max]
  omega

theorem toNat_le_u64Max (value : UInt64) : value.toNat ≤ u64Max := by
  have hlt := value.toNat_lt
  simp only [u64Max]
  omega

/-- A shorter gap never makes a media length too long. -/
theorem exactMediaMs_of_le {samples gapMs shorter duration : Nat} {rate : UInt32}
    (h : exactMediaMs samples rate gapMs = .ok duration) (hle : shorter ≤ gapMs) :
    ∃ length, exactMediaMs samples rate shorter = .ok length := by
  obtain ⟨hduration, hmax⟩ := exactMediaMs_eq_ok h
  unfold exactMediaMs at h ⊢
  split at h
  · cases h
  next hrate =>
    dsimp only at h ⊢
    split at h
    · cases h
    next haudio =>
      have hsum : samples * 1000 / rate.toNat + shorter ≤ u64Max := by omega
      exact ⟨_, by rw [if_neg hrate, if_neg haudio, checkedAdd_of_le hsum, orError_some]⟩

namespace SessionRecorder

variable (env : Environment)

/-- What a walk over the chunks written so far knows, against the recorder. -/
structure Mirrors (recorder : SessionRecorder) (now : UInt64) (settling : Bool)
    (chunks : List RecordedChunk) (walk : Walk) : Prop where
  decodes : Decodes recorder.file.records chunks
  walked : Walk.empty.acceptAll recorder.identity.timed chunks = .ok walk
  going : walk.incomplete = false
  ended : walk.ended = recorder.ended
  gap : walk.gap = recorder.openGapAtMs
  timelineGap : walk.timeline.openGapAtMs = recorder.openGapAtMs
  timelineFormat : walk.timeline.format = walk.format
  formatOf : ∀ format ∈ walk.format, recorder.format = some format
  unsettled : settling = true → walk.format = none
  validation : recorder.timedValidation =
    if recorder.identity.timed then some walk.validation else none
  samples : walk.timeline.timedSamples = recorder.timedSamples
  gapMs_le : walk.timeline.timedGapMs ≤ recorder.timedGapMs
  gapMs_bound : recorder.timedGapMs ≤ (recorder.openGapAtMs.getD walk.lastAtMs).toNat
  gapAt_le : ∀ openedAtMs ∈ recorder.openGapAtMs, openedAtMs ≤ walk.lastAtMs
  last_le : walk.lastAtMs ≤ now
  now_le : now ≤ env.clockMs recorder.file.tick
  budget : recorder.timingBudget.isSome = recorder.identity.timed
  unfinished : recorder.fileOpen = true → recorder.summary = none

/-- The two accounts agree in everything a summary states. Between taking a
format and writing its first frame only the recorder has the format. -/
structure Agrees (recorder : SessionRecorder) (settling : Bool) (walk : Walk) : Prop where
  format : settling = false → recorder.summary = none → walk.format = recorder.format
  mediaMs : walk.timeline.mediaMs = recorder.mediaMs
  gaps : walk.timeline.gaps = recorder.gaps
  timedGapMs : walk.timeline.timedGapMs = recorder.timedGapMs
  summary : ∀ summary ∈ recorder.summary, summary = walk.timeline.summary env.directory
    recorder.identity.handle (digestHex env recorder.file.content) env.key.keyId

/-- The accounts after a change: the walk still mirrors the recorder, and still
agrees with it if it did. -/
def Carries (walk : Walk) (settling : Bool) (recorder : SessionRecorder) (next : Moment) : Prop :=
  ∃ chunks reached, Mirrors env next.recorder next.now next.settling chunks reached ∧
    (Agrees env recorder settling walk → Agrees env next.recorder next.settling reached)

variable {env} {recorder : SessionRecorder} {now : UInt64} {settling : Bool}
  {chunks : List RecordedChunk} {walk : Walk} {record : Bytes} {timing : Option TimedValidation}
  {chunk : RecordedChunk}

/-- A record the recorder accepts passes the walk's timing check as well, and
then only has to be placed. -/
theorem Mirrors.push (h : Mirrors env recorder now settling chunks walk)
    (happends : recorder.Appends record timing) (hdecode : decodeChunk record = .ok chunk) :
    ∃ validation, timing = (if recorder.identity.timed then some validation else none) ∧
      ∀ next, place recorder.identity.timed { walk with validation := validation } chunk =
        .ok next →
        Decodes (recorder.afterAppend env record timing).file.records (chunks ++ [chunk]) ∧
        empty.acceptAll recorder.identity.timed (chunks ++ [chunk]) = .ok next := by
  have hopen : ¬ walk.ended = true := by rw [h.ended, happends.notEnded]; decide
  have hrecords : (recorder.afterAppend env record timing).file.records =
      recorder.file.records ++ [record] := List.map_append
  have hvalid := happends.valid
  unfold SessionRecorder.validation at hvalid
  rw [h.validation] at hvalid
  have hplaced : ∀ next, walk.accept recorder.identity.timed chunk = .ok next →
      Decodes (recorder.afterAppend env record timing).file.records (chunks ++ [chunk]) ∧
        empty.acceptAll recorder.identity.timed (chunks ++ [chunk]) = .ok next :=
    fun next haccept => ⟨hrecords ▸ h.decodes.push hdecode, acceptAll_snoc h.walked h.going haccept⟩
  unfold accept validate at hplaced
  rw [if_neg hopen] at hplaced
  cases htimed : recorder.identity.timed with
  | false =>
    rw [htimed] at hvalid hplaced
    cases hvalid
    exact ⟨walk.validation, rfl, hplaced⟩
  | true =>
    rw [htimed] at hvalid
    obtain ⟨decoded, hdecoded, hvalid⟩ := bind_eq_ok hvalid
    obtain ⟨validation, haccept, hdone⟩ := bind_eq_ok hvalid
    cases hdone
    cases hdecode.symm.trans hdecoded
    refine ⟨validation, rfl, fun next hplace => ?_⟩
    rw [htimed, haccept] at hplaced
    exact hplaced next hplace

/-! ## Changes that append a chunk -/

section Appended

variable (hclock : env.MonotoneClock) (h : Mirrors env recorder now settling chunks walk)
  (written : List AudioFrame)

include hclock h

namespace Mirrors

theorem now_le_later {tick : Nat} (htick : recorder.file.tick ≤ tick) :
    now ≤ env.clockMs tick := le_trans h.now_le (hclock.clockMs_le htick)

omit hclock in
/-- No summary exists while records are appended. -/
theorem no_summary (happends : recorder.Appends record timing)
    {statement : RecordingSummary → Prop} :
    ∀ summary ∈ recorder.summary, statement summary := by
  rw [h.unfinished happends.fileOpen]
  simp

/-- A chunk without a place on the timeline leaves both accounts alone. -/
theorem unplaced (happends : recorder.Appends record timing)
    (hdecode : decodeChunk record = .ok chunk)
    (hplace : ∀ reached : Walk, reached.place recorder.identity.timed chunk = .ok reached) :
    Carries env walk settling recorder
      ⟨recorder.afterAppend env record timing, now, settling, written⟩ := by
  obtain ⟨validation, rfl, hwalk⟩ := h.push happends hdecode
  obtain ⟨hdecodes, hwalked⟩ := hwalk _ (hplace _)
  refine ⟨chunks ++ [chunk], _, { h with
    decodes := hdecodes, walked := hwalked, validation := rfl
    now_le := h.now_le_later hclock (le_add_right _ _) }, fun hagrees => ?_⟩
  exact { hagrees with summary := h.no_summary happends }

/-- The closing chunk ends the walk. -/
theorem closed (happends : recorder.Appends (endedRecord now) timing) {next : SessionRecorder}
    (hnext : next = { recorder.afterAppend env (endedRecord now) timing with
      ended := true, limitNotices := next.limitNotices, produced := next.produced }) :
    Carries env walk settling recorder ⟨next, now, settling, written⟩ := by
  obtain ⟨validation, rfl, hwalk⟩ := h.push happends (decodeChunk_endedRecord now)
  obtain ⟨hdecodes, hwalked⟩ := hwalk _ (moveTo_of_le h.last_le)
  rw [hnext]
  have hbound : recorder.timedGapMs ≤ (recorder.openGapAtMs.getD now).toNat := by
    have hlast := h.gapMs_bound
    cases hgap : recorder.openGapAtMs with
    | none =>
      rw [hgap] at hlast
      exact le_trans hlast (le_iff_toNat_le.mp h.last_le)
    | some openedAtMs => rwa [hgap] at hlast
  refine ⟨_, _, { h with
    decodes := hdecodes, walked := hwalked, ended := rfl, validation := rfl, gapMs_bound := hbound
    gapAt_le := fun opened hopened => le_trans (h.gapAt_le opened hopened) h.last_le
    last_le := le_refl now
    now_le := h.now_le_later hclock (le_add_right _ _) }, fun hagrees => ?_⟩
  exact { hagrees with summary := h.no_summary happends }

omit hclock in
theorem gapMs_le_now (hgap : recorder.openGapAtMs = none) :
    recorder.timedGapMs ≤ (recorder.openGapAtMs.getD now).toNat := by
  have hlast := h.gapMs_bound
  rw [hgap] at hlast ⊢
  exact le_trans hlast (le_iff_toNat_le.mp h.last_le)

theorem gapStarted (hgap : recorder.openGapAtMs = none)
    (happends : recorder.Appends (gapStartedRecord now captureDiscontinuityReason) timing) :
    Carries env walk settling recorder
      ⟨(recorder.afterAppend env (gapStartedRecord now captureDiscontinuityReason)
        timing).gapOpened now, now, settling, written⟩ := by
  obtain ⟨validation, rfl, hwalk⟩ := h.push happends
    (decodeChunk_gapStartedRecord now (length_gapReason (.inl rfl)))
  have hplace : gapStarted { walk with validation := validation } now
      captureDiscontinuityReason = .ok { walk with
        validation := validation
        gap := some now
        lastAtMs := now
        timeline := walk.timeline.gapStarted now } := by
    rw [Walk.gapStarted, if_neg (by decide), if_neg (by simp [h.gap, hgap])]
    exact moveTo_of_le h.last_le
  obtain ⟨hdecodes, hwalked⟩ := hwalk _ hplace
  have hbound := h.gapMs_le_now hgap
  rw [hgap] at hbound
  refine ⟨_, _, { h with
    decodes := hdecodes, walked := hwalked, gap := rfl, timelineGap := rfl, validation := rfl
    gapMs_bound := hbound, gapAt_le := ?_, last_le := le_refl now
    now_le := h.now_le_later hclock (le_add_right _ _) }, fun hagrees => ?_⟩
  · rintro _ ⟨⟩
    exact le_refl now
  · refine { hagrees with gaps := ?_, summary := h.no_summary happends }
    change openGap walk.timeline.gaps walk.timeline.mediaMs captureDiscontinuityReason = _
    rw [hagrees.gaps, hagrees.mediaMs]
    rfl

omit hclock in
/-- The length of a gap that is being closed keeps the sum of gaps within the
clock. -/
theorem gapMs_add_le {openedAtMs : UInt64} (hgap : recorder.openGapAtMs = some openedAtMs) :
    recorder.timedGapMs + gapLength now openedAtMs ≤ now.toNat := by
  have hbound := h.gapMs_bound
  rw [hgap] at hbound
  have hopened := le_iff_toNat_le.mp
    (le_trans (h.gapAt_le openedAtMs (by rw [hgap]; rfl)) h.last_le)
  simp only [Option.getD_some] at hbound
  unfold gapLength
  omega

theorem gapEnded {openedAtMs : UInt64} (hgap : recorder.openGapAtMs = some openedAtMs)
    (hformat : recorder.format.isSome = true)
    (happends : recorder.Appends (gapEndedRecord now) timing) :
    Carries env walk settling recorder
      ⟨(recorder.afterAppend env (gapEndedRecord now) timing).gapClosed now openedAtMs (!settling),
        now, settling, written⟩ := by
  obtain ⟨validation, rfl, hwalk⟩ := h.push happends (decodeChunk_gapEndedRecord now)
  have hadd := h.gapMs_add_le hgap
  have hle := h.gapMs_le
  have hfits : walk.timeline.timedGapMs + (now.toNat - openedAtMs.toNat) ≤ u64Max := by
    have hnow := toNat_le_u64Max now
    unfold gapLength at hadd
    omega
  have hplace : gapEnded { walk with validation := validation } now recorder.identity.timed =
      .ok { walk with
        validation := validation
        gap := none
        lastAtMs := now
        timeline := walk.timeline.afterGap (gapLength now openedAtMs)
          recorder.identity.timed } := by
    rw [Walk.gapEnded, if_neg (by simp [h.gap, hgap]),
      gapEnded_of_le (h.timelineGap.trans hgap) hfits]
    exact moveTo_of_le h.last_le
  obtain ⟨hdecodes, hwalked⟩ := hwalk _ hplace
  have hsum : ∀ charged : Bool, recorder.timedGapMs ≤ (if charged then
      recorder.timedGapMs + gapLength now openedAtMs else recorder.timedGapMs) ∧
      (if charged then recorder.timedGapMs + gapLength now openedAtMs else recorder.timedGapMs) ≤
        now.toNat := by
    intro charged
    cases charged <;> simp <;> omega
  have hcharged : (walk.timeline.afterGap (gapLength now openedAtMs)
      recorder.identity.timed).timedGapMs ≤ ((recorder.afterAppend env (gapEndedRecord now)
        (if recorder.identity.timed then some validation else none)).gapClosed now openedAtMs
          (!settling)).timedGapMs := by
    simp only [afterGap, gapClosed, afterAppend, h.budget, h.timelineFormat]
    cases hseen : walk.format with
    | none => exact le_trans hle (hsum _).1
    | some format =>
      -- A format the walk has seen is settled, so the recorder charges the gap as well.
      have hsettled : settling = false := by
        by_contra hsettling
        have hnone := h.unsettled (by simpa using hsettling)
        rw [hnone] at hseen
        cases hseen
      rw [hsettled]
      cases recorder.identity.timed <;> simp <;> omega
  refine ⟨_, _, { h with
    decodes := hdecodes, walked := hwalked, gap := rfl, timelineGap := rfl, validation := rfl
    gapMs_le := hcharged, gapMs_bound := (hsum _).2, gapAt_le := by simp [gapClosed]
    last_le := le_refl now
    now_le := h.now_le_later hclock (le_add_right _ _) }, fun hagrees => ?_⟩
  have hmedia : walk.format.isSome = !settling := by
    cases hsettling : settling with
    | true => rw [h.unsettled hsettling]; rfl
    | false =>
      rw [hagrees.format hsettling (h.unfinished happends.fileOpen), hformat]
      rfl
  refine ⟨hagrees.format, ?_, ?_, ?_, h.no_summary happends⟩
  · simp only [afterGap, gapClosed, afterAppend, h.timelineFormat, hmedia, hagrees.mediaMs]
  · simp only [afterGap, gapClosed, afterAppend, h.timelineFormat, hmedia,
      hagrees.mediaMs, hagrees.gaps]
  · simp only [afterGap, gapClosed, afterAppend, h.timelineFormat, hmedia,
      hagrees.timedGapMs, h.budget]

end Mirrors

variable {frame : AudioFrame} (hgap : recorder.openGapAtMs = none)
  (hformat : recorder.format = some frame.format)
include hgap hformat

omit hclock in
/-- The walk admits a frame of the recorder's format outside a gap. -/
theorem Mirrors.admitsFrame (validation : TimedValidation) :
    admitsFrame { walk with validation := validation } frame.format frame.bytes := by
  refine ⟨h.gap.trans hgap, fun prior hprior => ?_, frame.bytes_ne_nil⟩
  have hsame := (h.formatOf prior hprior).symm.trans hformat
  exact Option.some.inj hsame

theorem Mirrors.timedFrame {admitted : Bool} {total duration : Nat}
    (htotal : checkedAdd recorder.timedSamples
      (frame.bytes.length / frame.format.frameAlignmentBytes) = some total)
    (hduration : exactMediaMs total frame.format.sampleRateHz recorder.timedGapMs = .ok duration)
    (happends : recorder.Appends (admittedRecord frame admitted now) timing) :
    Carries env walk settling recorder
      ⟨{ recorder.afterAppend env (admittedRecord frame admitted now) timing with
        timedSamples := total, mediaMs := duration }, now, false, written⟩ := by
  obtain ⟨validation, rfl, hwalk⟩ :=
    h.push happends (decodeChunk_timedFrameRecord now frame.format _
    frame.bytes_ne_nil frame.length_bytes_le frame.aligned (frame.provenanceIf_valid admitted))
  obtain ⟨length, hlength⟩ := exactMediaMs_of_le hduration h.gapMs_le
  rw [← h.samples] at htotal
  have hplace : timedFrame { walk with validation := validation } now frame.format
      frame.bytes = .ok { walk with
        validation := validation
        format := some frame.format
        lastAtMs := now
        timeline := { walk.timeline with
          mediaMs := length, timedSamples := total, format := some frame.format } } := by
    rw [Walk.timedFrame, if_pos (h.admitsFrame hgap hformat validation),
      timedFrame_of_ok htotal hlength]
    exact moveTo_of_le h.last_le
  obtain ⟨hdecodes, hwalked⟩ := hwalk _ hplace
  refine ⟨_, _, ⟨hdecodes, hwalked, h.going, h.ended, h.gap, h.timelineGap, rfl, ?_, by simp, rfl,
    rfl, h.gapMs_le, h.gapMs_le_now hgap,
    fun opened hopened => le_trans (h.gapAt_le opened hopened) h.last_le,
    le_refl now, h.now_le_later hclock (le_add_right _ _), h.budget, h.unfinished⟩,
    fun hagrees => ⟨fun _ _ => hformat.symm, ?_, hagrees.gaps, hagrees.timedGapMs,
      h.no_summary happends⟩⟩
  · rintro _ ⟨⟩
    exact hformat
  · rw [hagrees.timedGapMs, hduration] at hlength
    cases hlength
    rfl

theorem Mirrors.legacyFrame (happends : recorder.Appends (frameRecord now frame) timing) :
    Carries env walk settling recorder
      ⟨{ recorder.afterAppend env (frameRecord now frame) timing with
        mediaMs := saturatingAdd recorder.mediaMs (frameDurationMs frame) }, now, false,
        written⟩ := by
  obtain ⟨validation, rfl, hwalk⟩ := h.push happends (decodeChunk_frameRecord now frame)
  have hplace : Walk.frame { walk with validation := validation } now frame.format.sampleRateHz
      frame.format.channels frame.format.sampleFormat frame.bytes = .ok { walk with
        validation := validation
        format := some frame.format
        lastAtMs := now
        timeline := walk.timeline.frame frame.format frame.bytes.length } := by
    unfold Walk.frame
    rw [PcmFormat.new_self]
    change (if _ then _ else _ : Except RuntimeError Walk) = _
    rw [if_pos ⟨h.admitsFrame hgap hformat validation, frame.aligned⟩]
    exact moveTo_of_le h.last_le
  obtain ⟨hdecodes, hwalked⟩ := hwalk _ hplace
  refine ⟨_, _, ⟨hdecodes, hwalked, h.going, h.ended, h.gap, h.timelineGap, rfl, ?_, by simp, rfl,
    h.samples, h.gapMs_le, h.gapMs_le_now hgap,
    fun opened hopened => le_trans (h.gapAt_le opened hopened) h.last_le,
    le_refl now, h.now_le_later hclock (le_add_right _ _), h.budget, h.unfinished⟩,
    fun hagrees => ⟨fun _ _ => hformat.symm, ?_, hagrees.gaps, hagrees.timedGapMs,
      h.no_summary happends⟩⟩
  · rintro _ ⟨⟩
    exact hformat
  · simp only [MediaTimeline.frame, frameDurationMs, hagrees.mediaMs]

end Appended

/-! ## All changes -/

/-- Fields neither account looks at, and the passing of time. -/
theorem Mirrors.untouched (hclock : env.MonotoneClock)
    (h : Mirrors env recorder now settling chunks walk) (next : SessionRecorder)
    (hsame : next = { recorder with
      file := { recorder.file with tick := next.file.tick }
      safety := next.safety
      limitNotices := next.limitNotices
      produced := next.produced
      timingBudget := next.timingBudget })
    (htick : recorder.file.tick ≤ next.file.tick)
    (hbudget : next.timingBudget.isSome = recorder.timingBudget.isSome)
    (written : List AudioFrame) :
    Carries env walk settling recorder ⟨next, now, settling, written⟩ := by
  rw [hsame] at hbudget ⊢
  exact ⟨chunks, walk, { h with
    now_le := h.now_le_later hclock htick
    budget := hbudget.trans h.budget }, fun hagrees => { hagrees with }⟩

/-- An incomplete recorder stays incomplete. -/
theorem incomplete_of_change {first next : Moment} (hchange : Change env first next)
    (h : first.recorder.isIncomplete = true) : next.recorder.isIncomplete = true := by
  cases hchange with
  | failed hrecord hfile hended hfailure =>
    cases hfailure <;> simp [isIncomplete, SealedFile.afterFailure]
  | @confirmed recorder _ _ _ poisoned hclean =>
    have hfailed : recorder.recordingFailed = true := by simpa [isIncomplete, hclean] using h
    simp [isIncomplete, hfailed]
  | incompleteMarked =>
    unfold markIncompleteState
    split
    · exact h
    · rfl
  | _ => exact h

/-- Every change of a complete recorder is followed by the walk, unless it
makes the recorder incomplete. -/
theorem Mirrors.change (hclock : env.MonotoneClock) {next : Moment} {written : List AudioFrame}
    (h : Mirrors env recorder now settling chunks walk) (hcomplete : recorder.isIncomplete = false)
    (hchange : Change env ⟨recorder, now, settling, written⟩ next) :
    next.recorder.isIncomplete = true ∨ Carries env walk settling recorder next := by
  cases hchange with
  | asked tick htick => exact .inr (h.untouched hclock (recorder.atTick tick) rfl htick rfl written)
  | clock =>
    exact .inr ⟨chunks, walk, { h with
      last_le := le_trans h.last_le h.now_le
      now_le := hclock.clockMs_le (le_succ _) }, fun hagrees => { hagrees with }⟩
  | failed hrecord hfile hended hfailure =>
    left
    cases hfailure <;> simp [isIncomplete, SealedFile.afterFailure]
  | formatTaken format hformat =>
    have hnone : walk.format = none := by
      cases hseen : walk.format with
      | none => rfl
      | some seen =>
        have hsome := h.formatOf seen (by rw [hseen]; rfl)
        rw [hformat] at hsome
        cases hsome
    refine .inr ⟨chunks, walk, { h with formatOf := by simp [hnone], unsettled := fun _ => hnone },
      fun hagrees => ?_⟩
    exact { hagrees with format := fun hsettled => Bool.noConfusion hsettled }
  | gapEnded hgap hformat happends => exact .inr (h.gapEnded hclock written hgap hformat happends)
  | gapOverflowed hgap happends hfull =>
    have hadd := h.gapMs_add_le hgap
    have hnow := toNat_le_u64Max now
    omega
  | budgeted budget hbudget =>
    exact .inr (h.untouched hclock { recorder with timingBudget := some budget } rfl le_rfl
      (by rw [hbudget]; rfl) written)
  | alignmentLimit htimed happends =>
    exact .inr (h.unplaced hclock written happends decodeChunk_alignmentLimitRecord fun _ => rfl)
  | timedFrame htimed hgap hformat htotal hduration happends =>
    exact .inr (h.timedFrame hclock _ hgap hformat htotal hduration happends)
  | legacyFrame hlegacy hgap hformat happends =>
    exact .inr (h.legacyFrame hclock _ hgap hformat happends)
  | guarded safety =>
    exact .inr (h.untouched hclock { recorder with safety := safety } rfl le_rfl rfl written)
  | noticed notices =>
    exact .inr (h.untouched hclock (recorder.withNotices notices) rfl le_rfl rfl written)
  | stopped notices hstop happends | closed hnoted happends =>
    exact .inr (h.closed hclock written happends rfl)
  | gapStarted hgap happends => exact .inr (h.gapStarted hclock written hgap happends)
  | metadata htimed hrecord happends =>
    exact .inr (h.unplaced hclock written happends (decodeChunk_metadataRecord hrecord)
      fun _ => rfl)
  | confirmed poisoned hclean =>
    cases poisoned with
    | true => exact .inl (by simp [isIncomplete])
    | false =>
      refine .inr (h.untouched hclock _ ?_ (le_succ _) ?_ written)
      · rw [← hclean]
      · rfl
  | failureNoted hincomplete => cases hcomplete.symm.trans hincomplete
  | incompleteMarked =>
    left
    unfold markIncompleteState
    split
    next hfailed => simp [isIncomplete, hfailed]
    next => rfl
  | noticesTaken =>
    exact .inr (h.untouched hclock { recorder with limitNotices := [] } rfl le_rfl rfl written)
  | finalized hended hsummary =>
    refine .inr ⟨chunks, walk, { h with unfinished := by simp }, fun hagrees => ?_⟩
    refine { hagrees with format := by simp, summary := ?_ }
    rintro _ ⟨⟩
    have hformat : walk.timeline.format = recorder.format :=
      h.timelineFormat.trans (hagrees.format rfl hsummary)
    simp only [summaryWith, MediaTimeline.summary, MediaTimeline.durationMs, mediaDurationMs,
      reportedGaps, hformat, hagrees.mediaMs, hagrees.gaps]

end SessionRecorder

end ConversationRuntime
