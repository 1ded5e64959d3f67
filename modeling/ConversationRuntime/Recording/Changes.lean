import ConversationRuntime.Recording.Operations

/-! # The changes operations are made of

Whatever is called on a recorder, it changes only in the few ways listed by
`Change`: the surroundings are asked, a record of a known kind is appended
together with the fields that follow it, an append fails, or a field that no
record states moves on. Every operation is a chain of such changes, so what
each change keeps every run keeps.
-/

namespace ConversationRuntime

open Foundation

/-- The records a recorder of either layout appends. -/
inductive EmittedRecord (timed : Bool) : Bytes → Prop
  | policy (htimed : timed = true) : EmittedRecord timed policyRecord
  | frame (htimed : timed = false) (atMs : UInt64) (frame : AudioFrame) :
      EmittedRecord timed (frameRecord atMs frame)
  | timedFrame (htimed : timed = true) (atMs : UInt64) (format : PcmFormat)
      {timing : Option FrameProvenance} {bytes : Bytes} (hbytes : bytes ≠ [])
      (hlength : bytes.length ≤ maxPcmFrameBytes)
      (haligned : format.frameAlignmentBytes ∣ bytes.length)
      (htiming : ∀ value ∈ timing, value.validatePcm format bytes.length = .ok ()) :
      EmittedRecord timed
        (timedFrameRecord atMs format (timing.map FrameProvenance.layout) bytes)
  | metadata (htimed : timed = true) {metadata : CaptureMetadata} {record : Bytes}
      (hrecord : metadataRecord metadata = .ok record) : EmittedRecord timed record
  | alignmentLimit (htimed : timed = true) : EmittedRecord timed alignmentLimitRecord
  | gapStarted (atMs : UInt64) {reason : String}
      (hreason : reason = captureDiscontinuityReason ∨ reason = recordingFailureReason) :
      EmittedRecord timed (gapStartedRecord atMs reason)
  | gapEnded (atMs : UInt64) : EmittedRecord timed (gapEndedRecord atMs)
  | ended (atMs : UInt64) : EmittedRecord timed (endedRecord atMs)

namespace SessionRecorder

def atTick (recorder : SessionRecorder) (tick : Nat) : SessionRecorder :=
  { recorder with file := { recorder.file with tick := tick } }

/-- The length a gap adds to the timeline when a frame at `atMs` closes it. -/
def gapLength (atMs openedAtMs : UInt64) : Nat := atMs.toNat - openedAtMs.toNat

/-- The fields after a gap was closed. -/
def gapClosed (recorder : SessionRecorder) (atMs openedAtMs : UInt64) (hadMedia : Bool) :
    SessionRecorder :=
  let mediaMs := if hadMedia then saturatingAdd recorder.mediaMs (gapLength atMs openedAtMs)
    else recorder.mediaMs
  { recorder with
    openGapAtMs := none
    timedGapMs := if hadMedia && recorder.timingBudget.isSome then
      recorder.timedGapMs + gapLength atMs openedAtMs else recorder.timedGapMs
    mediaMs := mediaMs
    gaps := mapLast (fun gap => { gap with endedAtMs := some mediaMs }) recorder.gaps }

/-- The fields after a gap was opened. -/
def gapOpened (recorder : SessionRecorder) (atMs : UInt64) : SessionRecorder :=
  { recorder with
    openGapAtMs := some atMs
    gaps := openGap recorder.gaps recorder.mediaMs captureDiscontinuityReason }

def withNotices (recorder : SessionRecorder) (notices : List LimitNotice) : SessionRecorder :=
  { recorder with
    limitNotices := recorder.limitNotices ++ notices
    produced := recorder.produced ++ notices }

/-- The record of a timed frame whose timing the budget admitted or not. -/
def admittedRecord (frame : AudioFrame) (admitted : Bool) (atMs : UInt64) : Bytes :=
  timedFrameRecord atMs frame.format
    ((frame.provenanceIf admitted).map FrameProvenance.layout) frame.bytes

end SessionRecorder

/-- A recorder between two changes: the last reading of its clock, whether it
has just taken a format whose first frame is still to come, and the frames
written so far. -/
structure Moment where
  recorder : SessionRecorder
  now : UInt64
  settling : Bool
  written : List AudioFrame

section

variable (env : Environment)

open SessionRecorder

inductive Change : Moment → Moment → Prop
  | asked {recorder now settling written} (tick : Nat) (htick : recorder.file.tick ≤ tick) :
      Change ⟨recorder, now, settling, written⟩ ⟨recorder.atTick tick, now, settling, written⟩
  | clock {recorder now settling written} :
      Change ⟨recorder, now, settling, written⟩
        ⟨recorder.atTick (recorder.file.tick + 1), env.clockMs recorder.file.tick, settling,
          written⟩
  | failed {recorder now settling written} {record : Bytes} {error : RuntimeError}
      {file : SealedFile} (hrecord : EmittedRecord recorder.timingBudget.isSome record)
      (hfile : recorder.fileOpen = true) (hended : recorder.ended = false)
      (hfailure : SealedFile.AppendFailure env recorder.header record recorder.file error file) :
      Change ⟨recorder, now, settling, written⟩
        ⟨{ recorder with file := file }, now, settling, written⟩
  | formatTaken {recorder now settling written} (format : PcmFormat)
      (hformat : recorder.format = none) :
      Change ⟨recorder, now, settling, written⟩
        ⟨{ recorder with format := some format }, now, true, written⟩
  | gapEnded {recorder now settling written} {openedAtMs : UInt64}
      {timing : Option TimedValidation} (hgap : recorder.openGapAtMs = some openedAtMs)
      (hformat : recorder.format.isSome = true)
      (happends : recorder.Appends (gapEndedRecord now) timing)
      (hfits : settling = false → recorder.timingBudget.isSome = true →
        recorder.timedGapMs + gapLength now openedAtMs ≤ u64Max) :
      Change ⟨recorder, now, settling, written⟩
        ⟨(recorder.afterAppend env (gapEndedRecord now) timing).gapClosed now openedAtMs
          (!settling), now, settling, written⟩
  | gapOverflowed {recorder now written} {openedAtMs : UInt64} {timing : Option TimedValidation}
      (hgap : recorder.openGapAtMs = some openedAtMs)
      (happends : recorder.Appends (gapEndedRecord now) timing)
      (hfull : u64Max < recorder.timedGapMs + gapLength now openedAtMs) :
      Change ⟨recorder, now, false, written⟩
        ⟨{ recorder.afterAppend env (gapEndedRecord now) timing with openGapAtMs := none }, now,
          false, written⟩
  | budgeted {recorder now settling written} {budget : TimingBudget} (next : TimingBudget)
      (hbudget : recorder.timingBudget = some budget) :
      Change ⟨recorder, now, settling, written⟩
        ⟨{ recorder with timingBudget := some next }, now, settling, written⟩
  | alignmentLimit {recorder now settling written} {timing : Option TimedValidation}
      (htimed : recorder.timingBudget.isSome = true)
      (happends : recorder.Appends alignmentLimitRecord timing) :
      Change ⟨recorder, now, settling, written⟩
        ⟨recorder.afterAppend env alignmentLimitRecord timing, now, settling, written⟩
  | timedFrame {recorder now settling written} {frame : AudioFrame} {admitted : Bool}
      {timing : Option TimedValidation} {total duration : Nat}
      (htimed : recorder.timingBudget.isSome = true) (hgap : recorder.openGapAtMs = none)
      (hformat : recorder.format = some frame.format)
      (htotal : checkedAdd recorder.timedSamples
        (frame.bytes.length / frame.format.frameAlignmentBytes) = some total)
      (hduration : exactMediaMs total frame.format.sampleRateHz recorder.timedGapMs = .ok duration)
      (happends : recorder.Appends (admittedRecord frame admitted now) timing) :
      Change ⟨recorder, now, settling, written⟩
        ⟨{ recorder.afterAppend env (admittedRecord frame admitted now) timing with
          timedSamples := total, mediaMs := duration }, now, false, written ++ [frame]⟩
  | legacyFrame {recorder now settling written} {frame : AudioFrame}
      {timing : Option TimedValidation} (hlegacy : recorder.timingBudget.isSome = false)
      (hgap : recorder.openGapAtMs = none) (hformat : recorder.format = some frame.format)
      (happends : recorder.Appends (frameRecord now frame) timing) :
      Change ⟨recorder, now, settling, written⟩
        ⟨{ recorder.afterAppend env (frameRecord now frame) timing with
          mediaMs := saturatingAdd recorder.mediaMs (frameDurationMs frame) }, now, false,
          written ++ [frame]⟩
  | guarded {recorder now settling written} (safety : RecordingSafetyGuard)
      (hlimits : safety.limits = recorder.safety.limits) :
      Change ⟨recorder, now, settling, written⟩
        ⟨{ recorder with safety := safety }, now, settling, written⟩
  | noticed {recorder now settling written} (notices : List LimitNotice)
      (hgoing : anyStopped notices = false) (hended : notices = [] ∨ recorder.ended = false) :
      Change ⟨recorder, now, settling, written⟩
        ⟨recorder.withNotices notices, now, settling, written⟩
  | stopped {recorder now settling written} (notices : List LimitNotice)
      {timing : Option TimedValidation} (hstop : anyStopped notices = true)
      (happends : recorder.Appends (endedRecord now) timing) :
      Change ⟨recorder, now, settling, written⟩
        ⟨{ recorder.afterAppend env (endedRecord now) timing with ended := true }.withNotices
          notices, now, settling, written⟩
  | gapStarted {recorder now settling written} {timing : Option TimedValidation}
      (hgap : recorder.openGapAtMs = none)
      (happends : recorder.Appends (gapStartedRecord now captureDiscontinuityReason) timing) :
      Change ⟨recorder, now, settling, written⟩
        ⟨(recorder.afterAppend env (gapStartedRecord now captureDiscontinuityReason)
          timing).gapOpened now, now, settling, written⟩
  | metadata {recorder now settling written} {metadata : CaptureMetadata} {record : Bytes}
      {timing : Option TimedValidation} (htimed : recorder.timingBudget.isSome = true)
      (hrecord : metadataRecord metadata = .ok record) (happends : recorder.Appends record timing) :
      Change ⟨recorder, now, settling, written⟩
        ⟨recorder.afterAppend env record timing, now, settling, written⟩
  | confirmed {recorder now settling written} (poisoned : Bool)
      (hclean : recorder.file.capabilityPoisoned = false) (hended : recorder.ended = false) :
      Change ⟨recorder, now, settling, written⟩
        ⟨{ recorder with file := { recorder.file with
          capabilityPoisoned := poisoned, tick := recorder.file.tick + 1 } }, now, settling,
          written⟩
  | failureNoted {recorder now settling written} {timing : Option TimedValidation}
      (hincomplete : recorder.isIncomplete = true)
      (happends : recorder.Appends (gapStartedRecord now recordingFailureReason) timing) :
      Change ⟨recorder, now, settling, written⟩
        ⟨{ recorder.afterAppend env (gapStartedRecord now recordingFailureReason) timing with
          failureRecorded := true }, now, settling, written⟩
  | closed {recorder now settling written} {timing : Option TimedValidation}
      (hnoted : recorder.isIncomplete = true → recorder.failureRecorded = true)
      (happends : recorder.Appends (endedRecord now) timing) :
      Change ⟨recorder, now, settling, written⟩
        ⟨{ recorder.afterAppend env (endedRecord now) timing with ended := true }, now, settling,
          written⟩
  | incompleteMarked {recorder now settling written} :
      Change ⟨recorder, now, settling, written⟩
        ⟨recorder.markIncompleteState, now, settling, written⟩
  | noticesTaken {recorder now settling written} :
      Change ⟨recorder, now, settling, written⟩
        ⟨{ recorder with limitNotices := [] }, now, settling, written⟩
  | finalized {recorder now written} (hended : recorder.ended = true)
      (hsummary : recorder.summary = none) :
      Change ⟨recorder, now, false, written⟩
        ⟨{ recorder with
          fileOpen := false
          summary := some (summaryWith env recorder (digestHex env recorder.file.content)) }, now,
          false, written⟩

/-- A chain of changes. -/
abbrev Reach : Moment → Moment → Prop := Relation.ReflTransGen (Change env)

end

/-! ## Operations as chains of changes -/

namespace SessionRecorder

open Fallible

section

variable (env : Environment) (origin : Moment) (now : UInt64) (settling : Bool)
  (written : List AudioFrame)

/-- The recorder is reached from `origin` with the given clock reading. -/
def Passes (recorder : SessionRecorder) : Prop :=
  Reach env origin ⟨recorder, now, settling, written⟩

/-- The recorder is reached from `origin` when an operation returns early. A
format is left without its frame only if it was taken before. -/
def Stops (_ : RuntimeError) (recorder : SessionRecorder) : Prop :=
  ∃ later moved, (moved = true → settling = true) ∧
    Reach env origin ⟨recorder, later, moved, written⟩

/-- The recorder is reached with the given clock reading, and the facts hold of it. -/
def PassesWith (facts : SessionRecorder → Prop) (recorder : SessionRecorder) : Prop :=
  Passes env origin now settling written recorder ∧ facts recorder

/-- The recorder is reached with some reading of the clock. -/
def Arrives (recorder : SessionRecorder) : Prop :=
  ∃ later, Passes env origin later settling written recorder

variable {env origin now settling written} {facts : SessionRecorder → Prop}
  {failed : RuntimeError → SessionRecorder → Prop} {recorder : SessionRecorder} {record : Bytes}

theorem Passes.then {next : SessionRecorder} {later : UInt64} {moved : Bool}
    {frames : List AudioFrame} (h : Passes env origin now settling written recorder)
    (hchange : Change env ⟨recorder, now, settling, written⟩ ⟨next, later, moved, frames⟩) :
    Passes env origin later moved frames next := Relation.ReflTransGen.tail h hchange

theorem Passes.stops (h : Passes env origin now settling written recorder) (error : RuntimeError) :
    Stops env origin settling written error recorder := ⟨now, settling, fun hmoved => hmoved, h⟩

theorem Stops.moved {error : RuntimeError} (h : Stops env origin settling written error recorder) :
    Stops env origin true written error recorder := by
  obtain ⟨later, moved, -, hreach⟩ := h
  exact ⟨later, moved, fun _ => rfl, hreach⟩

theorem ask_passes {α : Type} (question : Nat → α)
    (hfacts : ∀ recorder tick, facts recorder → facts (recorder.atTick tick)) :
    Triple (PassesWith env origin now settling written facts) (ask question)
      (fun _ => PassesWith env origin now settling written facts)
      failed where
  returned := by
    rintro recorder value reached ⟨hpasses, hholds⟩ ⟨⟩
    exact ⟨hpasses.then (.asked _ (Nat.le_succ _)), hfacts _ _ hholds⟩
  stopped := by rintro _ _ _ _ ⟨⟩

theorem elapsedMs_passes (hfacts : ∀ recorder tick, facts recorder → facts (recorder.atTick tick)) :
    Triple (PassesWith env origin now settling written facts) (elapsedMs env)
      (fun atMs => PassesWith env origin atMs settling written facts)
      failed where
  returned := by
    rintro recorder value reached ⟨hpasses, hholds⟩ ⟨⟩
    exact ⟨hpasses.then .clock, hfacts _ _ hholds⟩
  stopped := by rintro _ _ _ _ ⟨⟩

section

variable (hrecord : ∀ recorder, facts recorder → EmittedRecord recorder.timingBudget.isSome record)

include hrecord

/-- An append succeeds, is refused without a change, or fails as a change that
poisons the file. -/
theorem append_passes_or_poisons : Triple (PassesWith env origin now settling written facts)
      (append env record)
      (fun _ reached => ∃ recorder timing, Passes env origin now settling written recorder ∧
        facts recorder ∧ recorder.Appends record timing ∧
        reached = recorder.afterAppend env record timing)
      (fun error reached => Stops env origin settling written error reached ∧
        (reached.file.capabilityPoisoned = true ∨ facts reached ∧ reached.Refuses record)) := by
  refine (append_rule env record).weaken ?_ ?_
  · rintro _ reached ⟨recorder, timing, ⟨hpasses, hfacts⟩, happends, rfl⟩
    exact ⟨recorder, timing, hpasses, hfacts, happends, rfl⟩
  · rintro error reached ⟨recorder, ⟨hpasses, hfacts⟩, ⟨rfl, hrefuses⟩ | hfailed⟩
    · exact ⟨hpasses.stops _, .inr ⟨hfacts, hrefuses⟩⟩
    · obtain ⟨file, hfile, hended, hfailure, rfl⟩ := hfailed
      refine ⟨(hpasses.then (.failed (hrecord recorder hfacts) hfile hended hfailure)).stops _,
        .inl ?_⟩
      cases hfailure <;> rfl

theorem append_passes : Triple (PassesWith env origin now settling written facts)
      (append env record)
      (fun _ reached => ∃ recorder timing, Passes env origin now settling written recorder ∧
        facts recorder ∧ recorder.Appends record timing ∧
        reached = recorder.afterAppend env record timing)
      (Stops env origin settling written) :=
  (append_passes_or_poisons hrecord).weaken (fun _ _ h => h) fun _ _ h => h.1

/-- A successful append and the field changes that follow it are one change. -/
theorem append_update_passes {change : SessionRecorder → SessionRecorder} {moved : Bool}
    {frames : List AudioFrame} {after : SessionRecorder → Prop}
    (hchange : ∀ recorder timing, facts recorder → recorder.Appends record timing →
      Change env ⟨recorder, now, settling, written⟩
        ⟨change (recorder.afterAppend env record timing), now, moved, frames⟩)
    (hafter : ∀ recorder timing, facts recorder → recorder.Appends record timing →
      after (change (recorder.afterAppend env record timing))) :
    Triple (PassesWith env origin now settling written facts)
      (append env record >>= fun _ => update change)
      (fun _ => PassesWith env origin now moved frames after)
      (Stops env origin settling written) := by
  apply Triple.of_bind (append_passes hrecord)
  intro _
  apply Triple.of_update
  rintro _ ⟨recorder, timing, hpasses, hfacts, happends, rfl⟩
  exact ⟨hpasses.then (hchange recorder timing hfacts happends),
    hafter recorder timing hfacts happends⟩

end

/-- Facts that neither a question to the surroundings nor the guard changes. -/
structure Steady (facts : SessionRecorder → Prop) : Prop where
  asked : ∀ recorder tick, facts recorder → facts (recorder.atTick tick)
  guarded : ∀ recorder safety, facts recorder → facts { recorder with safety := safety }

theorem appendEnded_passes (hsteady : Steady facts) :
    Triple (PassesWith env origin now settling written facts) (appendEnded env)
      (fun _ reached => ∃ later recorder timing, Passes env origin later settling written recorder ∧
        facts recorder ∧ recorder.Appends (endedRecord later) timing ∧
        reached = { recorder.afterAppend env (endedRecord later) timing with ended := true })
      (fun error reached => Stops env origin settling written error reached ∧
        (reached.file.capabilityPoisoned = true ∨
          ∃ atMs, facts reached ∧ reached.Refuses (endedRecord atMs))) := by
  refine .of_bind (elapsedMs_passes hsteady.asked) fun atMs => ?_
  refine .of_bind ((append_passes_or_poisons fun _ _ => .ended atMs).weaken
    (fun _ _ h => h) ?_) fun _ => .of_update ?_
  · rintro error recorder ⟨hstops, hpoisoned | hrefused⟩
    · exact ⟨hstops, .inl hpoisoned⟩
    · exact ⟨hstops, .inr ⟨atMs, hrefused⟩⟩
  · rintro _ ⟨recorder, timing, hpasses, hfacts, happends, rfl⟩
    exact ⟨atMs, recorder, timing, hpasses, hfacts, happends, rfl⟩

theorem observeLimits_passes (hsteady : Steady facts) (frame : Option AudioFrame) :
    Triple (PassesWith env origin now settling written facts) (observeLimits env frame)
      (fun notices recorder => PassesWith env origin now settling written facts recorder ∧
        (anyStopped notices = true ∨ notices = [] ∨ frame.isSome = true)) failed := by
  cases frame with
  | none =>
    refine .of_read fun seen _ => .of_pure fun recorder hstate => ⟨hstate.1, ?_⟩
    rcases seen.safety.observeWrite_cases seen.file.writtenBytes with hstop | hnone
    · exact .inl hstop
    · exact .inr (.inl hnone)
  | some frame =>
    refine .of_bind (ask_passes _ hsteady.asked) fun free => ?_
    refine .of_read fun seen _ => ?_
    refine .of_update_bind (.of_pure fun recorder hstate =>
      ⟨hstate, .inr (.inr rfl)⟩) ?_
    rintro recorder ⟨⟨hpasses, hfacts⟩, rfl⟩
    exact ⟨hpasses.then (.guarded _ (RecordingSafetyGuard.observe_limits _ _ _)),
      hsteady.guarded _ _ hfacts⟩

/-- Applying the limits reports warnings, or closes the file and reports the
stop; when it fails, the file is poisoned unless it took no closing chunk. -/
theorem enforceLimits_passes (hsteady : Steady facts) (frame : Option AudioFrame)
    (hopen : frame.isSome = true → ∀ recorder, facts recorder → recorder.ended = false) :
    Triple (PassesWith env origin now settling written facts) (enforceLimits env frame)
      (fun _ => Arrives env origin settling written)
      (fun error reached => Stops env origin settling written error reached ∧
        (reached.file.capabilityPoisoned = true ∨
          ∃ atMs, facts reached ∧ reached.Refuses (endedRecord atMs))) := by
  refine .of_bind (observeLimits_passes hsteady frame) fun notices => ?_
  apply Triple.of_fact
  intro hnotices
  cases hstop : anyStopped notices with
  | true =>
    refine .of_bind (appendEnded_passes hsteady) fun _ => .of_update ?_
    rintro _ ⟨later, recorder, timing, hpasses, -, happends, rfl⟩
    exact ⟨later, hpasses.then (.stopped notices hstop happends)⟩
  | false =>
    refine .of_pure_bind (.of_update ?_)
    rintro recorder ⟨hpasses, hfacts⟩
    refine ⟨now, hpasses.then (.noticed notices hstop ?_)⟩
    rcases hnotices with hstopped | hnone | hframe
    · exact absurd hstopped (by rw [hstop]; exact Bool.false_ne_true)
    · exact .inl hnone
    · exact .inr (hopen hframe recorder hfacts)

/-! ### Frames -/

theorem adoptFormat_passes (format : PcmFormat) :
    Triple (Passes env origin now false written) (adoptFormat format)
      (fun hadMedia => PassesWith env origin now (!hadMedia) written (·.format = some format))
      (Stops env origin false written) := by
  refine .of_read fun seen _ => ?_
  cases hformat : seen.format with
  | some existing =>
    refine .of_require_bind (fun hsame => ?_) fun _ recorder hstate => hstate.1.stops _
    rw [hsame] at hformat
    exact .of_pure fun recorder hstate => ⟨hstate.1, hstate.2 ▸ hformat⟩
  | none =>
    refine .of_update_bind (.of_pure fun _ h => h) ?_
    rintro recorder ⟨hpasses, rfl⟩
    exact ⟨hpasses.then (.formatTaken format hformat), rfl⟩

/-- What follows the appended record when a gap is closed. -/
theorem closeGap_apply (recorder : SessionRecorder) (atMs openedAtMs : UInt64) (hadMedia : Bool) :
    (do
      update fun recorder => { recorder with openGapAtMs := none }
      chargeGapAfterMedia hadMedia (atMs.toNat - openedAtMs.toNat)
      update fun recorder => { recorder with
        gaps := mapLast (fun gap => { gap with endedAtMs := some recorder.mediaMs })
          recorder.gaps } :
      Recording Unit) recorder =
    if hadMedia = true ∧ recorder.timingBudget.isSome = true ∧
        u64Max < recorder.timedGapMs + gapLength atMs openedAtMs then
      (.error recoveryError, { recorder with openGapAtMs := none })
    else (.ok (), recorder.gapClosed atMs openedAtMs hadMedia) := by
  rw [update_bind]
  cases hadMedia with
  | false => simp [chargeGapAfterMedia, onlyIf, bind_apply, pure_apply, update, gapClosed]
  | true =>
    cases hbudget : recorder.timingBudget with
    | none =>
      simp [chargeGapAfterMedia, onlyIf, chargeGap, bind_apply, pure_apply, Fallible.read,
        update, gapClosed, gapLength, hbudget]
    | some budget =>
      by_cases hfull : u64Max < recorder.timedGapMs + (atMs.toNat - openedAtMs.toNat)
      · have hnone : checkedAdd recorder.timedGapMs (atMs.toNat - openedAtMs.toNat) = none :=
          if_neg (Nat.not_le_of_lt hfull)
        simp [chargeGapAfterMedia, onlyIf, chargeGap, bind_apply, Fallible.read, lift, hnone,
          orError,
          gapLength, hfull]
      · have hsome : checkedAdd recorder.timedGapMs (atMs.toNat - openedAtMs.toNat) =
            some (recorder.timedGapMs + (atMs.toNat - openedAtMs.toNat)) :=
          if_pos (Nat.le_of_not_lt hfull)
        simp [chargeGapAfterMedia, onlyIf, chargeGap, bind_apply, Fallible.read, lift, update,
          hsome, hbudget, hfull, gapClosed, gapLength]

theorem closeOpenGap_passes (atMs : UInt64) (hadMedia : Bool) (format : PcmFormat) :
    Triple (PassesWith env origin atMs (!hadMedia) written (·.format = some format))
      (closeOpenGap env atMs hadMedia)
      (fun _ recorder => Passes env origin atMs (!hadMedia) written recorder ∧
        recorder.format = some format ∧ recorder.openGapAtMs = none)
      (Stops env origin (!hadMedia) written) := by
  refine .of_read fun seen hseen => ?_
  cases hgap : seen.openGapAtMs with
  | none =>
    refine .of_pure ?_
    rintro recorder ⟨⟨hpasses, hformat⟩, rfl⟩
    exact ⟨hpasses, hformat, hgap⟩
  | some openedAtMs =>
    apply Triple.entered_at (fun recorder => Passes env origin atMs (!hadMedia) written recorder ∧
      recorder.format = some format ∧ recorder.openGapAtMs = some openedAtMs)
      ⟨hseen.1, hseen.2, hgap⟩
    refine .of_bind (append_passes fun _ _ => .gapEnded atMs) fun _ => ⟨?_, ?_⟩
    · rintro _ _ reached ⟨recorder, timing, hpasses, ⟨hformat, hopen⟩, happends, rfl⟩ hrun
      rw [closeGap_apply] at hrun
      split at hrun
      · cases hrun
      next hfits =>
        cases hrun
        refine ⟨?_, hformat, rfl⟩
        have hchange := hpasses.then (.gapEnded hopen (by rw [hformat]; rfl) happends ?_)
        · rwa [Bool.not_not] at hchange
        · intro hmedia hbudget
          by_contra hover
          exact hfits ⟨by simpa using hmedia, hbudget, Nat.lt_of_not_le hover⟩
    · rintro _ error reached ⟨recorder, timing, hpasses, ⟨hformat, hopen⟩, happends, rfl⟩ hrun
      rw [closeGap_apply] at hrun
      split at hrun
      next hfull =>
        cases hrun
        obtain ⟨rfl, -, hover⟩ := hfull
        exact (hpasses.then (.gapOverflowed hopen happends hover)).stops _
      next => cases hrun

/-- Facts that neither the timing budget nor an append changes. -/
structure Budgetable (env : Environment) (facts : SessionRecorder → Prop) : Prop where
  timed : ∀ recorder, facts recorder → recorder.timingBudget.isSome = true
  budgeted : ∀ recorder budget, facts recorder →
    facts { recorder with timingBudget := some budget }
  appended : ∀ recorder record timing, facts recorder →
    facts (recorder.afterAppend env record timing)

theorem admitTiming_passes (hfacts : Budgetable env facts) (bytes : Nat) :
    Triple (PassesWith env origin now settling written facts) (admitTiming env bytes)
      (fun _ => PassesWith env origin now settling written facts)
      (Stops env origin settling written) := by
  refine .of_read fun seen _ => ?_
  cases hbudget : seen.timingBudget with
  | none => exact .of_pure fun _ hstate => hstate.1
  | some budget =>
    have hcharge : ∀ next recorder,
        PassesWith env origin now settling written facts recorder ∧ recorder = seen →
        PassesWith env origin now settling written facts
          { recorder with timingBudget := some next } := by
      rintro next recorder ⟨⟨hpasses, hholds⟩, rfl⟩
      exact ⟨hpasses.then (.budgeted next hbudget), hfacts.budgeted _ _ hholds⟩
    dsimp only
    split
    · exact .of_pure fun _ hstate => hstate.1
    split
    · refine .of_update_bind (.of_bind (append_passes fun _ hholds =>
        .alignmentLimit (hfacts.timed _ hholds)) fun _ => .of_pure ?_) (hcharge _)
      rintro _ ⟨recorder, timing, hpasses, hholds, happends, rfl⟩
      exact ⟨hpasses.then (.alignmentLimit (hfacts.timed _ hholds) happends),
        hfacts.appended _ _ _ hholds⟩
    · exact .of_update_bind (.of_pure fun _ h => h) (hcharge _)

/-- The recorder is ready for a frame of a timed file. -/
def TimedReady (format : PcmFormat) (recorder : SessionRecorder) : Prop :=
  recorder.timingBudget.isSome = true ∧ recorder.openGapAtMs = none ∧
    recorder.format = some format

theorem TimedReady.budgetable (format : PcmFormat) : Budgetable env (TimedReady format) where
  timed := fun _ h => h.1
  budgeted := fun _ _ h => ⟨rfl, h.2⟩
  appended := fun _ _ _ h => h

variable (frame : AudioFrame)

theorem admitFrameTiming_passes :
    Triple (PassesWith env origin now settling written (TimedReady frame.format))
      (admitFrameTiming env frame)
      (fun timing recorder =>
        PassesWith env origin now settling written (TimedReady frame.format) recorder ∧ ∃ admitted,
          timing = (frame.provenanceIf admitted).map FrameProvenance.layout)
      (Stops env origin settling written) := by
  rw [admitFrameTiming_eq]
  refine .of_bind (?_ : Triple _ _ (fun _ =>
    PassesWith env origin now settling written (TimedReady frame.format)) _)
    fun admitted => .of_pure fun _ hstate => ⟨hstate, admitted, rfl⟩
  split
  · exact admitTiming_passes (TimedReady.budgetable _) _
  · exact .of_pure fun _ hstate => hstate

/-- A recorder that has just written a record and would take the closing one. -/
def Closable (recorder : SessionRecorder) : Prop :=
  recorder.fileOpen = true ∧ recorder.ended = false ∧
    ∀ atMs, ∃ timing, recorder.validation (endedRecord atMs) = .ok timing

theorem Closable.steady : Steady Closable := ⟨fun _ _ h => h, fun _ _ h => h⟩

theorem Closable.not_refuses (h : Closable recorder) (atMs : UInt64) :
    ¬ recorder.Refuses (endedRecord atMs) := by
  obtain ⟨hfile, hended, hvalid⟩ := h
  rintro (⟨error, hinvalid⟩ | hclosed | hclosed)
  · obtain ⟨timing, hok⟩ := hvalid atMs
    rw [hinvalid] at hok
    cases hok
  · cases hfile.symm.trans hclosed
  · cases hended.symm.trans hclosed

/-- The validation state after any record accepts the closing record. -/
theorem Appends.closable {timing : Option TimedValidation} (h : recorder.Appends record timing)
    (env : Environment) : Closable (recorder.afterAppend env record timing) := by
  refine ⟨h.fileOpen, h.notEnded, fun atMs => ?_⟩
  have hvalid := h.valid
  unfold validation at hvalid
  cases hstate : recorder.timedValidation with
  | none =>
    rw [hstate] at hvalid
    cases hvalid
    exact ⟨none, rfl⟩
  | some state =>
    rw [hstate] at hvalid
    obtain ⟨chunk, -, hvalid⟩ := bind_eq_ok hvalid
    obtain ⟨next, hnext, hvalid⟩ := bind_eq_ok hvalid
    cases hvalid
    refine ⟨some next, ?_⟩
    have haccept := TimedValidation.accept_ended (TimedValidation.accept_keeps hnext).1 atMs
    simp only [validation, afterAppend, decodeChunk_endedRecord]
    change (next.accept (.ended atMs) >>= fun state => .ok (some state)) = _
    rw [haccept]
    rfl

theorem recordTimedFrame_passes (atMs : UInt64) :
    Triple (PassesWith env origin atMs settling written (TimedReady frame.format))
      (recordTimedFrame env frame atMs)
      (fun _ => PassesWith env origin atMs false (written ++ [frame]) Closable)
      (Stops env origin settling written) := by
  refine .of_bind (admitFrameTiming_passes frame) fun timing => ?_
  apply Triple.of_fact
  rintro ⟨admitted, rfl⟩
  refine .of_read fun seen _ => ?_
  refine .of_lift_bind (fun total htotal => ?_) fun _ _ _ hstate => hstate.1.1.stops _
  refine .of_lift_bind (fun duration hduration => ?_) fun _ _ _ hstate => hstate.1.1.stops _
  rw [orError_eq_ok] at htotal
  have hready : ∀ recorder,
      PassesWith env origin atMs settling written (TimedReady frame.format) recorder ∧
        recorder = seen → PassesWith env origin atMs settling written
          (fun recorder => TimedReady frame.format recorder ∧ recorder = seen) recorder :=
    fun _ hstate => ⟨hstate.1.1, hstate.1.2, hstate.2⟩
  refine .entered hready (append_update_passes ?_ ?_ ?_)
  · rintro recorder ⟨⟨htimed, -⟩, -⟩
    exact .timedFrame htimed atMs frame.format frame.bytes_ne_nil frame.length_bytes_le
      frame.aligned (frame.provenanceIf_valid admitted)
  · rintro recorder timing ⟨⟨htimed, hgap, hformat⟩, rfl⟩ happends
    exact .timedFrame htimed hgap hformat htotal hduration happends
  · rintro recorder timing - happends
    exact happends.closable env

theorem recordLegacyFrame_passes (atMs : UInt64) :
    Triple (fun recorder => Passes env origin atMs settling written recorder ∧
        recorder.timingBudget.isSome = false ∧ recorder.openGapAtMs = none ∧
        recorder.format = some frame.format)
      (recordLegacyFrame env frame atMs)
      (fun _ => PassesWith env origin atMs false (written ++ [frame]) Closable)
      (Stops env origin settling written) := by
  refine append_update_passes ?_ ?_ ?_
  · rintro recorder ⟨hlegacy, -⟩
    exact .frame hlegacy atMs frame
  · rintro recorder timing ⟨hlegacy, hgap, hformat⟩ happends
    exact .legacyFrame hlegacy hgap hformat happends
  · rintro recorder timing - happends
    exact happends.closable env

/-- The frames an operation is given. -/
def Operation.frames : Operation → List AudioFrame
  | .recordFrame frame => [frame]
  | _ => []

/-- The calls that feed a recorder. -/
def Operation.feeds : Operation → Bool
  | .recordFrame _ => true
  | .recordCaptureGap => true
  | .recordCaptureMetadata _ => true
  | _ => false

/-- Where an operation that was given `frames` may return early: before it
wrote them, or with the file poisoned. -/
def Halts (env : Environment) (origin : Moment) (settling : Bool) (written frames : List AudioFrame)
    (error : RuntimeError) (recorder : SessionRecorder) : Prop :=
  Stops env origin settling written error recorder ∨
    Stops env origin settling (written ++ frames) error recorder ∧
      recorder.file.capabilityPoisoned = true

theorem enforceLimits_after_frame :
    Triple (PassesWith env origin now false (written ++ [frame]) Closable)
      (enforceLimits env (some frame))
      (fun _ => Arrives env origin false (written ++ [frame]))
      (Halts env origin true written [frame]) := by
  refine (enforceLimits_passes Closable.steady (some frame) fun _ _ h => h.2.1).weaken
    (fun _ _ h => h) ?_
  rintro error recorder ⟨hstops, hpoisoned | ⟨atMs, hclosable, hrefuses⟩⟩
  · exact .inr ⟨hstops.moved, hpoisoned⟩
  · exact absurd hrefuses (hclosable.not_refuses atMs)

theorem recordFrame_passes : Triple (Passes env origin now false written) (recordFrame env frame)
      (fun _ => Arrives env origin false (written ++ [frame]))
      (Halts env origin true written [frame]) := by
  have hearly : ∀ {moved} error recorder, Stops env origin moved written error recorder →
      Halts env origin true written [frame] error recorder :=
    fun _ _ hstops => .inl hstops.moved
  refine .of_bind ((adoptFormat_passes frame.format).weaken (fun _ _ h => h) hearly)
    fun hadMedia => ?_
  refine .of_bind (elapsedMs_passes fun _ _ h => h) fun atMs => ?_
  refine .of_bind ((closeOpenGap_passes atMs hadMedia frame.format).weaken
    (fun _ _ h => h) hearly) fun _ => ?_
  refine .of_read ?_
  rintro seen ⟨hpasses, hformat, hgap⟩
  cases hbudget : seen.timingBudget with
  | some budget =>
    refine .entered_at _ ⟨hpasses, by rw [hbudget]; rfl, hgap, hformat⟩ (.of_bind
      ((recordTimedFrame_passes frame atMs).weaken (fun _ _ h => h) hearly) fun _ => ?_)
    exact enforceLimits_after_frame frame
  | none =>
    refine .entered_at _ ⟨hpasses, by rw [hbudget]; rfl, hgap, hformat⟩ (.of_bind
      ((recordLegacyFrame_passes frame atMs).weaken (fun _ _ h => h) hearly) fun _ => ?_)
    exact enforceLimits_after_frame frame

/-! ### Gaps, metadata and boundaries -/

theorem enforceLimits_after_write : Triple (Arrives env origin settling written)
      (enforceLimits env none)
      (fun _ => Arrives env origin settling written)
      (Stops env origin settling written) := by
  have hsteady : Steady fun _ => True := ⟨fun _ _ h => h, fun _ _ h => h⟩
  refine .of_exists fun earlier => ?_
  have hlimits := (enforceLimits_passes hsteady none fun h => absurd h (by decide) :
    Triple (fun recorder => Passes env origin earlier settling written recorder ∧ True) _ _ _)
  exact .entered (fun _ hpasses => ⟨hpasses, trivial⟩)
    (hlimits.weaken (fun _ _ h => h) fun _ _ h => h.1)

theorem recordCaptureGap_passes :
    Triple (Passes env origin now settling written) (recordCaptureGap env)
      (fun _ => Arrives env origin settling written)
      (Stops env origin settling written) := by
  refine .of_read fun seen hseen => ?_
  cases hgap : seen.openGapAtMs with
  | some openedAtMs => exact .of_pure fun _ hstate => ⟨now, hstate.1⟩
  | none =>
    apply Triple.entered_at (fun recorder => Passes env origin now settling written recorder ∧
      recorder.openGapAtMs = none) ⟨hseen, hgap⟩
    refine .of_bind (elapsedMs_passes fun _ _ h => h) fun atMs => ?_
    refine .of_bind (append_passes fun _ _ => .gapStarted atMs (.inl rfl)) fun _ => ?_
    refine .of_update_bind enforceLimits_after_write ?_
    rintro _ ⟨recorder, timing, hpasses, hopen, happends, rfl⟩
    exact ⟨atMs, hpasses.then (.gapStarted hopen happends)⟩

theorem recordCaptureMetadata_passes (metadata : CaptureMetadata) :
    Triple (Passes env origin now settling written) (recordCaptureMetadata env metadata)
      (fun _ => Arrives env origin settling written)
      (Stops env origin settling written) := by
  refine .of_read fun seen hseen => ?_
  refine .of_require_bind (fun htimed => ?_) fun _ _ hstate => hstate.1.stops _
  refine .of_lift_bind (fun record hrecord => ?_) fun _ _ _ hstate => hstate.1.stops _
  have hbudgetable : Budgetable env fun recorder => recorder.timingBudget.isSome = true :=
    ⟨fun _ h => h, fun _ _ _ => rfl, fun _ _ _ h => h⟩
  refine .entered_at _ ⟨hseen, htimed⟩ (.of_bind (.of_bind
    (admitTiming_passes hbudgetable _) fun admitted => ?_) fun _ => enforceLimits_after_write)
  cases admitted with
  | false => exact .of_pure fun _ hstate => ⟨now, hstate.1⟩
  | true =>
    refine (append_passes fun _ htimed => .metadata htimed hrecord).weaken ?_ fun _ _ h => h
    rintro _ _ ⟨recorder, timing, hpasses, htimed, happends, rfl⟩
    exact ⟨now, hpasses.then (.metadata htimed hrecord happends)⟩

/-- Confirming changes nothing or is one change. -/
theorem confirmCaptureBoundary_passes (boundary : CaptureFinishBoundary)
    (hpasses : Passes env origin now settling written recorder) :
    Passes env origin now settling written (confirmCaptureBoundary env boundary recorder).2 := by
  rcases confirmCaptureBoundary_reached env boundary recorder with
    hsame | ⟨poisoned, hclean, hended, hmoved⟩
  · rw [hsame]
    exact hpasses
  · rw [hmoved]
    exact hpasses.then (.confirmed poisoned hclean hended)

/-! ### Finalizing -/

theorem recordFailure_passes :
    Triple (PassesWith env origin now settling written (·.summary = none)) (recordFailure env)
      (fun _ recorder => ∃ later, Passes env origin later settling written recorder ∧
        (recorder.isIncomplete = true → recorder.failureRecorded = true) ∧ recorder.summary = none)
      (Stops env origin settling written) := by
  refine .of_read fun seen hseen => .of_onlyIf (fun hneeded => ?_) fun hdone => ?_
  · rw [Bool.and_eq_true] at hneeded
    apply Triple.entered_at (fun recorder => Passes env origin now settling written recorder ∧
      recorder.isIncomplete = true ∧ recorder.summary = none) ⟨hseen.1, hneeded.1, hseen.2⟩
    refine .of_bind (elapsedMs_passes fun _ _ h => h) fun atMs => ?_
    refine .of_bind (append_passes fun _ _ => .gapStarted atMs (.inr rfl)) fun _ =>
      .of_update ?_
    rintro _ ⟨recorder, timing, hpasses, ⟨hfailed, hsummary⟩, happends, rfl⟩
    exact ⟨atMs, hpasses.then (.failureNoted hfailed happends), fun _ => rfl, hsummary⟩
  · rintro recorder ⟨⟨hpasses, hsummary⟩, rfl⟩
    refine ⟨now, hpasses, fun hincomplete => ?_, hsummary⟩
    rw [hincomplete] at hdone
    simpa using hdone

theorem closeRecording_passes :
    Triple (PassesWith env origin now settling written (·.summary = none)) (closeRecording env)
      (fun _ recorder => ∃ later, Passes env origin later settling written recorder ∧
        recorder.ended = true ∧ recorder.summary = none)
      (Stops env origin settling written) := by
  refine .of_read fun seen _ => .of_onlyIf (fun _ => ?_) fun hended => ?_
  · refine .entered (fun _ hstate => hstate.1) ?_
    refine .of_bind recordFailure_passes fun _ => .of_exists fun later => ?_
    refine (appendEnded_passes ⟨fun _ _ h => h, fun _ _ h => h⟩).weaken ?_ fun _ _ h => h.1
    rintro _ _ ⟨atMs, recorder, timing, hpasses, ⟨hnoted, hsummary⟩, happends, rfl⟩
    exact ⟨atMs, hpasses.then (.closed hnoted happends), rfl, hsummary⟩
  · rintro recorder ⟨⟨hpasses, hsummary⟩, rfl⟩
    exact ⟨now, hpasses, by simpa using hended, hsummary⟩

/-! What any program that only asks its surroundings keeps. -/

section Reading

variable {kept : SessionRecorder → Prop}
  (hasked : ∀ recorder tick, recorder.file.tick ≤ tick → kept recorder →
    kept (recorder.atTick tick))

include hasked

theorem ask_keeps {α : Type} (question : Nat → α) : Keeps kept (ask question) :=
  .of_reached fun recorder h => hasked recorder _ (Nat.le_succ _) h

theorem syncFile_keeps : Keeps kept (syncFile env) := by
  have hflush : Keeps kept (onFile (SealedFile.sinkFlush env)) :=
    Keeps.of_reached fun recorder h => hasked recorder _ (Nat.le_succ _) h
  refine Keeps.of_read fun seen _ => Keeps.of_onlyIf fun _ => Keeps.of_bind hflush fun _ => ?_
  refine Keeps.of_bind (Keeps.of_require _ _) fun _ => ?_
  exact Keeps.of_bind (ask_keeps hasked _) fun _ => Keeps.of_require _ _

/-- The extent of the file is checked whenever its source is admitted. -/
theorem admitRecoverySource_keeps : Triple kept (admitRecoverySource env)
    (fun _ recorder => kept recorder ∧ recorder.file.content.length ≤ maxFinalizedRecordingBytes)
    (fun _ => kept) := by
  refine .of_bind (ask_keeps hasked _) fun fails => ?_
  refine .of_require_bind (fun _ => ?_) fun _ _ h => h
  refine .of_read fun seen _ => .of_require ?_ fun _ _ h => h.1
  rintro recorder hextent ⟨h, rfl⟩
  exact ⟨h, hextent⟩

theorem fileDigest_keeps (recovery : Bool) : Triple kept (fileDigest env recovery)
    (fun sha256 recorder => kept recorder ∧ sha256 = digestHex env recorder.file.content ∧
      (recovery = true → recorder.file.content.length ≤ maxFinalizedRecordingBytes))
    (fun _ => kept) := by
  have hopen : Triple kept (openSource env recovery) (fun _ recorder => kept recorder ∧
      (recovery = true → recorder.file.content.length ≤ maxFinalizedRecordingBytes))
      (fun _ => kept) := by
    cases recovery with
    | true =>
      exact (admitRecoverySource_keeps hasked).weaken (fun _ _ h => ⟨h.1, fun _ => h.2⟩)
        fun _ _ h => h
    | false =>
      refine Triple.of_bind (ask_keeps hasked _) fun fails => ?_
      exact Triple.of_require (fun _ _ h => ⟨h, nofun⟩) fun _ _ h => h
  have hmoved : ∀ recorder tick, recorder.file.tick ≤ tick → (kept recorder ∧ (recovery = true →
      recorder.file.content.length ≤ maxFinalizedRecordingBytes)) → _ :=
    fun recorder tick htick h => And.intro (hasked recorder tick htick h.1) h.2
  refine Triple.of_bind hopen fun _ => Triple.of_bind ((ask_keeps hmoved _).weaken
    (fun _ _ h => h) fun _ _ h => h.1) fun fails => ?_
  refine Triple.of_require_bind (fun _ => ?_) fun _ _ h => h.1
  refine Triple.of_read fun seen _ => Triple.of_pure ?_
  rintro recorder ⟨h, rfl⟩
  exact ⟨h.1, rfl, h.2⟩

variable {stopped : SessionRecorder → Prop}

/-- Once its file is closed a recorder is finalized by asking its surroundings, and then
changes its summary. -/
theorem finalizeUsing_rule {before : SessionRecorder → Prop}
    {after : RecordingSummary → SessionRecorder → Prop} (recovery : Bool)
    (hdone : ∀ recorder summary, recorder.summary = some summary → before recorder →
      after summary recorder)
    (hclose : Triple (fun recorder => before recorder ∧ recorder.summary = none)
      (closeRecording env) (fun _ => kept) (fun _ => stopped))
    (hstopped : ∀ recorder, kept recorder → stopped recorder) (hafter : ∀ recorder, kept recorder →
      (recovery = true → recorder.file.content.length ≤ maxFinalizedRecordingBytes) →
      let summary := summaryWith env recorder (digestHex env recorder.file.content)
      after summary { recorder with fileOpen := false, summary := some summary }) :
    Triple before (finalizeUsing env recovery) after (fun _ => stopped) := by
  refine .of_read fun seen hseen => ?_
  cases hsummary : seen.summary with
  | some summary =>
    refine .of_pure ?_
    rintro recorder ⟨h, rfl⟩
    exact hdone recorder summary hsummary h
  | none =>
    refine .entered_at _ ⟨hseen, hsummary⟩ (.of_bind hclose fun _ => ?_)
    refine .of_bind ((syncFile_keeps hasked).weaken (fun _ _ h => h) fun _ => hstopped) fun _ => ?_
    refine .of_bind ((fileDigest_keeps hasked recovery).weaken (fun _ _ h => h)
      fun _ => hstopped) fun sha256 => ?_
    refine .of_read fun reached _ => .of_update_bind (.of_pure fun _ h => h) ?_
    rintro recorder ⟨⟨h, rfl, hextent⟩, rfl⟩
    exact hafter recorder h hextent

/-- A capability is issued for a complete recorder that was admitted and finalized. -/
theorem finalizeWithCapability_rule {finalized : RecordingSummary → SessionRecorder → Prop}
    (hfinal : Triple (fun recorder => (kept recorder ∧ recorder.isIncomplete = false) ∧
        recorder.file.content.length ≤ maxFinalizedRecordingBytes)
      (finalizeUsing env true) finalized (fun _ => stopped))
    (hbefore : ∀ recorder, kept recorder → stopped recorder)
    (hstopped : ∀ summary recorder, finalized summary recorder → stopped recorder) :
    Triple kept (finalizeWithCapability env)
      (fun issued recorder => finalized issued.1 recorder ∧ env.key.authorize {
        sourceSessionId := recorder.identity.sessionId
        recordingHandle := issued.1.recordingHandle
        sha256 := issued.1.sha256
        keyId := issued.1.keyId
        authorization := "" } = .ok issued.2)
      (fun _ => stopped) := by
  have hmoved : ∀ recorder tick, recorder.file.tick ≤ tick →
      (kept recorder ∧ recorder.isIncomplete = false) → _ :=
    fun recorder tick htick h => And.intro (hasked recorder tick htick h.1) h.2
  refine Triple.of_read fun seen hseen => ?_
  refine Triple.of_require_bind (fun hcomplete => ?_) fun _ recorder h => hbefore recorder h.1
  refine Triple.entered_at _ ⟨hseen, hcomplete⟩
    (Triple.of_bind ((admitRecoverySource_keeps hmoved).weaken
    (fun _ _ h => h) fun _ recorder h => hbefore recorder h.1) fun _ => ?_)
  refine Triple.of_bind hfinal fun summary => Triple.of_read fun reached _ => ?_
  refine Triple.of_require_bind (fun _ => ?_) fun _ _ h => hstopped _ _ h.1
  refine Triple.of_lift_bind (fun capability hcapability => ?_) fun _ _ _ h => hstopped _ _ h.1
  refine Triple.of_pure ?_
  rintro recorder ⟨h, rfl⟩
  exact ⟨h, hcapability⟩

end Reading

theorem Passes.asked (tick : Nat) (htick : recorder.file.tick ≤ tick)
    (h : Passes env origin now settling written recorder) :
    Passes env origin now settling written (recorder.atTick tick) := h.then (.asked tick htick)

theorem finalizeUsing_passes (recovery : Bool) :
    Triple (Passes env origin now false written) (finalizeUsing env recovery)
      (fun _ => Arrives env origin false written)
      (Stops env origin false written) := by
  refine finalizeUsing_rule ?_ recovery (fun _ _ _ h => ⟨now, h⟩) closeRecording_passes ?_ ?_
  · rintro recorder tick htick ⟨later, h, hfacts⟩
    exact ⟨later, h.asked tick htick, hfacts⟩
  · rintro recorder ⟨later, h, -⟩
    exact h.stops recoveryError
  · rintro recorder ⟨later, h, hended, hsummary⟩ -
    exact ⟨later, h.then (.finalized hended hsummary)⟩

theorem finalizeWithCapability_passes :
    Triple (Passes env origin now false written) (finalizeWithCapability env)
      (fun _ => Arrives env origin false written)
      (Stops env origin false written) := by
  refine (finalizeWithCapability_rule (fun _ tick htick h => h.asked tick htick)
    (.entered (fun _ h => h.1.1) (finalizeUsing_passes true))
    (fun _ h => h.stops recoveryError) ?_).weaken (fun _ _ h => h.1) fun _ _ h => h
  rintro summary recorder ⟨later, h⟩
  exact h.stops recoveryError

/-- Every operation is a chain of changes. One that succeeds has written the
frames it was given; one that returns early has written none of them, or
leaves the file poisoned. -/
theorem perform_passes (operation : Operation) :
    Triple (Passes env origin now false written) (perform env operation)
      (fun _ => Arrives env origin false (written ++ operation.frames))
      (Halts env origin (!operation.frames.isEmpty) written operation.frames) := by
  have hearly : ∀ error recorder, Stops env origin false written error recorder →
      Halts env origin (!operation.frames.isEmpty) written operation.frames error recorder := by
    rintro error recorder ⟨later, moved, hmoved, hreach⟩
    exact .inl ⟨later, moved, fun h => absurd (hmoved h) Bool.false_ne_true, hreach⟩
  have hnone : operation.frames = [] → ∀ recorder, Arrives env origin false written recorder →
      Arrives env origin false (written ++ operation.frames) recorder := by
    intro hframes recorder h
    rwa [hframes, List.append_nil]
  cases operation with
  | recordFrame frame => exact recordFrame_passes frame
  | recordCaptureGap => exact recordCaptureGap_passes.weaken (fun _ => hnone rfl) hearly
  | recordCaptureMetadata metadata =>
    exact (recordCaptureMetadata_passes metadata).weaken (fun _ => hnone rfl) hearly
  | confirmCaptureBoundary boundary =>
    have hkeeps : Keeps (Passes env origin now false written)
        (confirmCaptureBoundary env boundary) :=
      .of_reached fun _ => confirmCaptureBoundary_passes boundary
    exact hkeeps.weaken (fun _ _ h => hnone rfl _ ⟨now, h⟩) fun _ _ h => hearly _ _ (h.stops _)
  | markIncomplete =>
    refine .of_update fun recorder hpasses => hnone rfl _ ⟨now, ?_⟩
    exact hpasses.then .incompleteMarked
  | takeLimitNotices =>
    refine .of_bind (?_ : Triple _ takeLimitNotices (fun _ recorder =>
      Passes env origin now false written recorder) _) fun _ => .of_pure ?_
    · refine .of_read fun seen _ => .of_update_bind (.of_pure fun _ h => h) ?_
      rintro recorder ⟨hpasses, -⟩
      exact hpasses.then .noticesTaken
    · intro recorder hpasses
      exact hnone rfl _ ⟨now, hpasses⟩
  | finalize =>
    exact .of_bind ((finalizeUsing_passes false).weaken (fun _ _ h => h) hearly) fun _ =>
      .of_pure (hnone rfl)
  | finalizeWithCapability =>
    exact .of_bind (finalizeWithCapability_passes.weaken (fun _ _ h => h) hearly) fun _ =>
      .of_pure (hnone rfl)

end

/-! ### Runs -/

variable {env : Environment}

variable (env) in
/-- Where one operation leads, whether or not it succeeds. -/
theorem step_reach (operation : Operation) (recorder : SessionRecorder) (now : UInt64)
    (written : List AudioFrame) : ∃ later moved frames, Reach env ⟨recorder, now, false, written⟩
        ⟨step env recorder operation, later, moved, frames⟩ := by
  have hpasses : Passes env ⟨recorder, now, false, written⟩ now false written recorder :=
    Relation.ReflTransGen.refl
  unfold step
  cases hrun : perform env operation recorder with
  | mk result reached =>
    cases result with
    | ok value =>
      obtain ⟨later, hreach⟩ := (perform_passes operation).returned hpasses hrun
      exact ⟨later, _, _, hreach⟩
    | error error =>
      rcases (perform_passes operation).stopped hpasses hrun with ⟨later, moved, -, hreach⟩ |
        ⟨⟨later, moved, -, hreach⟩, -⟩
      · exact ⟨later, moved, _, hreach⟩
      · exact ⟨later, moved, _, hreach⟩

variable (kept : SessionRecorder → Prop)
  (hchange : ∀ first next, Change env first next → kept first.recorder → kept next.recorder)
include hchange

/-- What every change keeps, every chain of changes keeps. -/
theorem kept_of_reach {first last : Moment} (hreach : Reach env first last)
    (h : kept first.recorder) : kept last.recorder := by
  induction hreach with
  | refl => exact h
  | tail _ hlast ih => exact hchange _ _ hlast ih

/-- What every change keeps, every run keeps. -/
theorem run_kept {recorder : SessionRecorder} (operations : List Operation) (h : kept recorder) :
    kept (run env recorder operations) := by
  refine List.foldlRecOn operations (.step env) h ?_
  intro reached hreached operation _
  obtain ⟨later, moved, frames, hreach⟩ := step_reach env operation reached 0 []
  exact kept_of_reach kept hchange hreach hreached

end SessionRecorder

end ConversationRuntime
