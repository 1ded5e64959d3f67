import ConversationRuntime.Recording.Safety

/-! # Capture health

The monitor is told of frames, discontinuities and pauses, and keeps two times, a running
maximum and two counters. What it says is compared with the calls made so far, which stand
in a history with the newest first.
-/

namespace ConversationRuntime

open Foundation List

def mostlyZeroNonzeroPercent : Nat := 25

def healthWindowMs : Nat := 5000

def minReportedGapMs : Nat := 2000

structure CaptureHealthReport where
  mostlyZero : Bool
  longestGapMs : Nat
deriving DecidableEq

structure CaptureHealthMonitor where
  active : Bool
  audioEndsAtMs : Option Nat
  gapSinceMs : Option Nat
  longestGapMs : Nat
  reportedGapMs : Nat
  windowSamples : Nat
  windowNonzero : Nat
  mostlyZero : Bool
deriving DecidableEq

/-- For each whole sample, whether it is something else than digital zero. -/
def nonzeroSamples : PcmSampleFormat → Bytes → List Bool
  | .signed16LittleEndian, low :: high :: rest =>
    (low ≠ 0 ∨ high ≠ 0) :: nonzeroSamples .signed16LittleEndian rest
  | .float32LittleEndian, first :: second :: third :: fourth :: rest =>
    (f32Magnitude first second third fourth ≠ 0) :: nonzeroSamples .float32LittleEndian rest
  | _, _ => []

def frameSamples (frame : AudioFrame) : List Bool :=
  nonzeroSamples frame.format.sampleFormat frame.bytes

def countSamples (frame : AudioFrame) : Nat × Nat :=
  ((frameSamples frame).length, (frameSamples frame).count true)

namespace CaptureHealthMonitor

def new : CaptureHealthMonitor := ⟨true, none, none, 0, 0, 0, 0, false⟩

section

variable (nowMs : Nat) (monitor : CaptureHealthMonitor)

def foldGap : CaptureHealthMonitor :=
  { monitor with
    longestGapMs := if monitor.active then
        (monitor.gapSinceMs.or monitor.audioEndsAtMs).elim monitor.longestGapMs
          fun since => max monitor.longestGapMs (nowMs - since)
      else monitor.longestGapMs }

/-- What a method answers, and the monitor after it. -/
abbrev Answer := Option CaptureHealthReport × CaptureHealthMonitor

def report (stateChanged : Bool) : Answer :=
  let gapGrew := minReportedGapMs ≤ monitor.longestGapMs ∧
    saturatingMul monitor.reportedGapMs 2 ≤ monitor.longestGapMs
  (if ¬ stateChanged ∧ ¬ gapGrew then none
    else some ⟨monitor.mostlyZero, monitor.longestGapMs⟩,
    { monitor with
      reportedGapMs := if gapGrew then monitor.longestGapMs else monitor.reportedGapMs })

def windowTarget (format : PcmFormat) : Nat :=
  max (saturatingMul (saturatingMul format.sampleRateHz.toNat format.channels.toNat)
    healthWindowMs / 1000) 1

def audioEnd (frame : AudioFrame) : Nat := saturatingAdd nowMs (frameDurationMs frame)

/-- What `frame` does before it reports: whether the verdict changed, and the monitor. -/
def hear (frame : AudioFrame) : Bool × CaptureHealthMonitor :=
  let heard := { monitor.foldGap nowMs with
    gapSinceMs := none, audioEndsAtMs := some (audioEnd nowMs frame) }
  let samples := saturatingAdd monitor.windowSamples (countSamples frame).1
  let nonzero := saturatingAdd monitor.windowNonzero (countSamples frame).2
  if windowTarget frame.format ≤ samples then
    let mostlyZero :=
      decide (saturatingMul nonzero 100 < saturatingMul samples mostlyZeroNonzeroPercent)
    (mostlyZero != monitor.mostlyZero,
      { heard with windowSamples := 0, windowNonzero := 0, mostlyZero })
  else (false, { heard with windowSamples := samples, windowNonzero := nonzero })

def frame (frame : AudioFrame) : Answer :=
  (monitor.hear nowMs frame).2.report (monitor.hear nowMs frame).1

def markGap : CaptureHealthMonitor :=
  { monitor with
    gapSinceMs := if monitor.active ∧ monitor.gapSinceMs = none then
        monitor.audioEndsAtMs.map (min · nowMs)
      else monitor.gapSinceMs }

def discontinuity : Answer := ((monitor.markGap nowMs).foldGap nowMs).report false

def tick : Answer := (monitor.foldGap nowMs).report false

def setActive (active : Bool) : CaptureHealthMonitor :=
  if active = monitor.active then monitor
  else { monitor.foldGap nowMs with
    active, gapSinceMs := none, audioEndsAtMs := monitor.audioEndsAtMs.map fun _ => nowMs }

inductive HealthCall where
  | frame (frame : AudioFrame)
  | discontinuity
  | tick
  | setActive (active : Bool)

def call : HealthCall → Answer
  | .frame heard => monitor.frame nowMs heard
  | .discontinuity => monitor.discontinuity nowMs
  | .tick => monitor.tick nowMs
  | .setActive active => (none, monitor.setActive nowMs active)

end

abbrev History := List (Nat × HealthCall)

/-- The reports, the newest first, and the monitor. -/
def run : History → List CaptureHealthReport × CaptureHealthMonitor
  | [] => ([], new)
  | (nowMs, made) :: past =>
    let (report, monitor) := (run past).2.call nowMs made
    (report.toList ++ (run past).1, monitor)

/-! ## What the history says -/

def isActive : History → Bool
  | [] => true
  | (_, .setActive active) :: _ => active
  | _ :: past => isActive past

/-- The end of the last frame's audio, or the resume after it. -/
def lastStart : History → Option Nat
  | [] => none
  | (nowMs, .frame heard) :: _ => some (audioEnd nowMs heard)
  | (nowMs, .setActive true) :: past =>
    if isActive past then lastStart past else (lastStart past).map fun _ => nowMs
  | _ :: past => lastStart past

/-- The first discontinuity after the last frame or resume. -/
def firstDiscontinuity : History → Option Nat
  | [] | (_, .frame _) :: _ => none
  | (_, .setActive true) :: past => if isActive past then firstDiscontinuity past else none
  | (nowMs, .discontinuity) :: past => (firstDiscontinuity past).or (some nowMs)
  | _ :: past => firstDiscontinuity past

/-- Where the gap began. A discontinuity after a resume is no earlier than the resume. -/
def origin (past : History) : Option Nat :=
  (lastStart past).map fun start => (firstDiscontinuity past).elim start (min start)

/-- The gap a call finds. -/
def gapAt (nowMs : Nat) (past : History) : Nat :=
  if isActive past then (origin past).elim 0 (nowMs - ·) else 0

/-- A resume of an active capture returns at once and looks for no gap. -/
def longestGap : History → Nat
  | [] => 0
  | (_, .setActive true) :: past => longestGap past
  | (nowMs, _) :: past => max (longestGap past) (gapAt nowMs past)

def windowLength (format : PcmFormat) : Nat :=
  5 * (format.sampleRateHz.toNat * format.channels.toNat)

/-- The samples since the last complete window, and whether that window was mostly zero. -/
def window (format : PcmFormat) : History → List Bool × Bool
  | [] => ([], false)
  | (_, .frame heard) :: past =>
    let samples := frameSamples heard ++ (window format past).1
    if windowLength format ≤ samples.length then
      ([], 100 * samples.count true < 25 * samples.length)
    else (samples, (window format past).2)
  | _ :: past => window format past

def changes (format : PcmFormat) : History → Nat
  | [] => 0
  | made :: past => changes format past +
    ((window format (made :: past)).2 != (window format past).2).toNat

/-! ## The monitor follows the history -/

/-- While capture is paused the two times do not matter: a resume writes both. -/
structure Times (past : History) (monitor : CaptureHealthMonitor) : Prop where
  active : monitor.active = isActive past
  heard : monitor.audioEndsAtMs.isSome = (lastStart past).isSome
  ends : isActive past → monitor.audioEndsAtMs = lastStart past
  gap : isActive past → monitor.gapSinceMs =
    (lastStart past).bind fun start => (firstDiscontinuity past).map (min start)

structure Follows (format : PcmFormat) (past : History) (monitor : CaptureHealthMonitor) : Prop
    extends Times past monitor where
  longest : monitor.longestGapMs = longestGap past
  samples : monitor.windowSamples = (window format past).1.length
  nonzero : monitor.windowNonzero = (window format past).1.count true
  mostlyZero : monitor.mostlyZero = (window format past).2

/-- At most so many reports were made for the gap, each for twice the gap of the one before. -/
def Reported (changes reports : Nat) (monitor : CaptureHealthMonitor) : Prop :=
  monitor.longestGapMs < u64Max → ∃ grown, reports ≤ changes + grown ∧
    monitor.reportedGapMs ≤ monitor.longestGapMs ∧
    (grown = 0 ∨ minReportedGapMs * 2 ^ grown ≤ 2 * monitor.reportedGapMs)

section

variable {format : PcmFormat} {past : History} {monitor : CaptureHealthMonitor} {nowMs : Nat}

theorem Times.foldGap (h : Times past monitor) :
    (monitor.foldGap nowMs).longestGapMs = max monitor.longestGapMs (gapAt nowMs past) := by
  unfold CaptureHealthMonitor.foldGap gapAt
  rw [h.active]
  split
  next hpast =>
    rw [h.gap hpast, h.ends hpast]
    unfold origin
    cases lastStart past <;> cases firstDiscontinuity past <;> simp
  next => exact (Nat.max_zero _).symm

theorem frameSamples_length_le (heard : AudioFrame) : (frameSamples heard).length ≤ 65536 := by
  have hbytes (format : PcmSampleFormat) (bytes : Bytes) :
      (nonzeroSamples format bytes).length ≤ bytes.length := by
    fun_induction nonzeroSamples format bytes <;> grind
  exact (hbytes _ _).trans heard.length_bytes_le

theorem windowTarget_eq (format : PcmFormat) :
    windowTarget format = windowLength format ∧ 0 < windowLength format ∧
      windowLength format ≤ 5 * 2 ^ 48 := by
  have hrate := Nat.pos_of_ne_zero fun h => format.sampleRateHz_pos (UInt32.toNat_inj.1 h)
  have hchannels := Nat.pos_of_ne_zero fun h => format.channels_pos (UInt16.toNat_inj.1 h)
  have hpos := Nat.mul_pos hrate hchannels
  have hbound := Nat.mul_le_mul format.sampleRateHz.toNat_lt.le format.channels.toNat_lt.le
  unfold windowTarget windowLength saturatingMul u64Max healthWindowMs
  omega

theorem window_length_lt (format : PcmFormat) (past : History) :
    (window format past).1.length < windowLength format := by
  fun_induction window format past with
  | case1 | case2 => exact (windowTarget_eq format).2.1
  | case3 _ heard past samples hshort => exact Nat.lt_of_not_le hshort
  | case4 _ past _ ih => exact ih

section

variable (h : Follows format past monitor)

include h

theorem Follows.tick : Follows format ((nowMs, .tick) :: past) (monitor.foldGap nowMs) :=
  { h with longest := by simp [h.foldGap, h.longest, longestGap] }

theorem Follows.discontinuity :
    Follows format ((nowMs, .discontinuity) :: past) ((monitor.markGap nowMs).foldGap nowMs) := by
  have htimes : Times ((nowMs, .discontinuity) :: past) (monitor.markGap nowMs) := by
    refine { h with gap := fun hpast => ?_ }
    replace hpast : isActive past := hpast
    simp only [markGap, h.active, hpast, h.ends hpast, h.gap hpast, lastStart, firstDiscontinuity]
    cases lastStart past <;> cases firstDiscontinuity past <;> simp
  refine { htimes, h with longest := ?_ }
  rw [htimes.foldGap]
  simp only [markGap, h.longest, longestGap, gapAt, isActive, origin, lastStart, firstDiscontinuity]
  -- The gap of this call is the same whether or not its own time is a candidate.
  have hself (start : Nat) : nowMs - min start nowMs = nowMs - start := by omega
  cases lastStart past <;> cases firstDiscontinuity past <;> simp [hself]

theorem Follows.setActive (active : Bool) :
    Follows format ((nowMs, .setActive active) :: past) (monitor.setActive nowMs active) := by
  have hresume : monitor.audioEndsAtMs.map (fun _ => nowMs) =
      (lastStart past).map fun _ => nowMs := by
    have hheard := h.heard
    cases haudio : monitor.audioEndsAtMs <;> cases hstart : lastStart past <;> simp_all
  unfold CaptureHealthMonitor.setActive
  rw [h.active]
  split
  next hsame =>
    subst hsame
    refine ⟨⟨h.active, ?_, ?_, ?_⟩, ?_, h.samples, h.nonzero, h.mostlyZero⟩
    all_goals
      cases hpast : isActive past <;>
        simp [lastStart, firstDiscontinuity, longestGap, gapAt, isActive, hpast, h.heard, h.ends,
          h.gap, h.longest]
  next hother =>
    refine ⟨⟨rfl, ?_, ?_, ?_⟩, ?_, h.samples, h.nonzero, h.mostlyZero⟩
    all_goals
      cases hpast : isActive past <;> cases active <;>
        simp [lastStart, firstDiscontinuity, longestGap, gapAt, isActive, hpast, hresume,
          h.longest, h.foldGap] at hother ⊢

/-- Nothing saturates before the end of a window. -/
theorem Follows.hear_eq (heard : AudioFrame) (hformat : heard.format = format) :
    let next := window format ((nowMs, .frame heard) :: past)
    monitor.hear nowMs heard = (next.2 != (window format past).2, { monitor.foldGap nowMs with
        gapSinceMs := none, audioEndsAtMs := some (audioEnd nowMs heard)
        windowSamples := next.1.length, windowNonzero := next.1.count true
        mostlyZero := next.2 }) := by
  have hframe := frameSamples_length_le heard
  have hwindow := window_length_lt format past
  obtain ⟨htarget, -, hlength⟩ := windowTarget_eq format
  simp only [window, CaptureHealthMonitor.hear, hformat, htarget]
  generalize hall : frameSamples heard ++ (window format past).1 = samples
  have hcount : samples.count true ≤ samples.length := count_le_length
  have htotal : samples.length = (window format past).1.length + (frameSamples heard).length := by
    simp [← hall, Nat.add_comm]
  have hsamples : saturatingAdd monitor.windowSamples (countSamples heard).1 = samples.length := by
    rw [h.samples, htotal]
    exact min_eq_left (by unfold u64Max countSamples; omega)
  have hnonzero : saturatingAdd monitor.windowNonzero (countSamples heard).2 =
      samples.count true := by
    rw [← hall, count_append, ← h.nonzero, Nat.add_comm] at hcount ⊢
    exact min_eq_left (by unfold u64Max countSamples; rw [hall] at hcount; omega)
  have hverdict : saturatingMul (samples.count true) 100 <
      saturatingMul samples.length mostlyZeroNonzeroPercent ↔
        100 * samples.count true < 25 * samples.length := by
    unfold saturatingMul u64Max mostlyZeroNonzeroPercent
    omega
  simp only [hsamples, hnonzero, hverdict]
  split <;> simp [h.mostlyZero, CaptureHealthMonitor.foldGap]

theorem Follows.hear (heard : AudioFrame) (hformat : heard.format = format) :
    Follows format ((nowMs, .frame heard) :: past) (monitor.hear nowMs heard).2 := by
  rw [h.hear_eq heard hformat]
  refine ⟨⟨h.active, rfl, fun _ => rfl, fun _ => rfl⟩, ?_, rfl, rfl, rfl⟩
  simp [h.foldGap, h.longest, longestGap]

/-- A call leaves a monitor that follows the longer history, and reports on it or not. -/
theorem Follows.call (nowMs : Nat) (made : HealthCall)
    (hformat : ∀ heard, made = .frame heard → heard.format = format) :
    ∃ next changed, Follows format ((nowMs, made) :: past) next ∧
      next.reportedGapMs = monitor.reportedGapMs ∧
      changes format ((nowMs, made) :: past) = changes format past + changed.toNat ∧
      (monitor.call nowMs made = next.report changed ∨ monitor.call nowMs made = (none, next)) := by
  cases made with
  | frame heard =>
    refine ⟨_, _, h.hear heard (hformat heard rfl), ?_, ?_, .inl rfl⟩
    all_goals
      rw [h.hear_eq heard (hformat heard rfl)]
      rfl
  | discontinuity =>
    exact ⟨_, false, h.discontinuity, rfl, by simp [changes, window], .inl rfl⟩
  | tick => exact ⟨_, false, h.tick, rfl, by simp [changes, window], .inl rfl⟩
  | setActive active =>
    refine ⟨_, false, h.setActive active, ?_, by simp [changes, window], .inr rfl⟩
    unfold CaptureHealthMonitor.setActive
    split <;> rfl

end

variable {changes reports : Nat} (h : Reported changes reports monitor)

include h

theorem Reported.report (changed : Bool) :
    Reported (changes + changed.toNat) ((monitor.report changed).1.toList.length + reports)
      (monitor.report changed).2 := by
  intro hlongest
  replace hlongest : monitor.longestGapMs < u64Max := hlongest
  obtain ⟨grown, hreports, hreported, hdoubled⟩ := h hlongest
  have hdouble : saturatingMul monitor.reportedGapMs 2 ≤ monitor.longestGapMs ↔
      2 * monitor.reportedGapMs ≤ monitor.longestGapMs := by
    unfold saturatingMul
    omega
  unfold CaptureHealthMonitor.report
  simp only [hdouble]
  by_cases hgrew : minReportedGapMs ≤ monitor.longestGapMs ∧
      2 * monitor.reportedGapMs ≤ monitor.longestGapMs
  case pos =>
    refine ⟨grown + 1, ?_, ?_, .inr ?_⟩
    · simp [hgrew]
      omega
    · simp [hgrew]
    · simp only [hgrew, and_self, if_true, Nat.pow_succ, ← Nat.mul_assoc]
      obtain rfl | hdoubled := hdoubled <;> omega
  case neg =>
    simp only [hgrew, if_false, not_false_eq_true, and_true]
    refine ⟨grown, ?_, hreported, hdoubled⟩
    cases changed <;> simp <;> omega

theorem Reported.bound (hlongest : monitor.longestGapMs < u64Max) :
    reports ≤ changes + if 2000 ≤ monitor.longestGapMs then
      1 + (monitor.longestGapMs / 2000).log2 else 0 := by
  obtain ⟨grown, hreports, hreported, hdoubled⟩ := h hlongest
  cases grown with
  | zero => omega
  | succ grown =>
    replace hdoubled : 2000 * 2 ^ grown ≤ monitor.longestGapMs := by
      unfold minReportedGapMs at hdoubled
      omega
    have hpos := Nat.two_pow_pos grown
    have hlog : grown ≤ (monitor.longestGapMs / 2000).log2 := (Nat.le_log2 (by omega)).2 (by omega)
    rw [if_pos (by omega)]
    omega

end

theorem longestGap_le_cons (nowMs : Nat) (made : HealthCall) (past : History) :
    longestGap past ≤ longestGap ((nowMs, made) :: past) := by
  rcases made with _ | _ | _ | _ | _ <;> simp [longestGap]

variable (format : PcmFormat) (past : History)
  (hformat : ∀ nowMs heard, (nowMs, .frame heard) ∈ past → heard.format = format)

include hformat

theorem run_follows : Follows format past (run past).2 ∧
    Reported (changes format past) (run past).1.length (run past).2 := by
  induction past with
  | nil =>
    refine ⟨⟨⟨rfl, rfl, ?_, ?_⟩, rfl, rfl, rfl, rfl⟩, fun _ => ⟨0, ?_⟩⟩
    all_goals simp [run, new, lastStart]
  | cons made past ih =>
    obtain ⟨nowMs, made⟩ := made
    obtain ⟨hfollows, hreported⟩ := ih fun now heard hmem => hformat now heard (.tail _ hmem)
    obtain ⟨next, changed, hnext, hsame, hchanges, hcall⟩ :=
      hfollows.call nowMs made fun heard hmade => hformat nowMs heard (hmade ▸ .head _)
    have hgrows := longestGap_le_cons nowMs made past
    rw [← hfollows.longest, ← hnext.longest] at hgrows
    have hheld : Reported (changes format past) (run past).1.length next := by
      intro hlongest
      obtain ⟨grown, hreports, hbelow, hdoubled⟩ := hreported (hgrows.trans_lt hlongest)
      exact ⟨grown, hreports, hsame ▸ hbelow.trans hgrows, hsame ▸ hdoubled⟩
    rw [hchanges]
    obtain hcall | hcall := hcall
    · simp only [run, hcall]
      rw [length_append]
      exact ⟨{ hnext with }, hheld.report changed⟩
    · simp only [run, hcall]
      refine ⟨hnext, fun hlongest => ?_⟩
      obtain ⟨grown, hreports, hrest⟩ := hheld hlongest
      exact ⟨grown, hreports.trans (by omega), hrest⟩

/-- The monitor reports the longest gap exactly, and seldom. -/
theorem health_follows_history : (run past).2.longestGapMs = longestGap past ∧
    (run past).2.mostlyZero = (window format past).2 ∧
    (longestGap past < u64Max → (run past).1.length ≤ changes format past +
      if 2000 ≤ longestGap past then 1 + (longestGap past / 2000).log2 else 0) := by
  obtain ⟨hfollows, hreported⟩ := run_follows format past hformat
  refine ⟨hfollows.longest, hfollows.mostlyZero, fun hlongest => ?_⟩
  rw [← hfollows.longest] at hlongest ⊢
  exact hreported.bound hlongest

omit hformat

theorem health_follows_tick :
    longestGap [(9000, .tick), (0, .frame (.sample false))] = 9000 ∧
      (run [(9000, .tick), (0, .frame (.sample false))]).2.longestGapMs =
        longestGap [(9000, .tick), (0, .frame (.sample false))] :=
  ⟨by decide +kernel, (health_follows_history (AudioFrame.sample false).format _ (by simp)).1⟩

theorem resume_while_active_unmeasured :
    gapAt 5000 [(0, .frame (.sample false))] = 5000 ∧
      (run [(5000, .setActive true), (0, .frame (.sample false))]).2.longestGapMs = 0 ∧
      1 + (u64Max / 2000).log2 <
        (run (replicate 60 (u64Max, .tick) ++ [(0, .frame (.sample false))])).1.length := by
  decide +kernel

end CaptureHealthMonitor

end ConversationRuntime
