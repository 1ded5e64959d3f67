import ConversationRuntime.Voice.Coupling

/-! # Playback reports

What the loop publishes about the playback of a generation is one honest
lifecycle: acceptance before rendering, nothing after the end, and nothing once
the generation is no longer the one being spoken.
-/

namespace ConversationRuntime

open List

/-- The playback state a deed published for a generation. -/
def Deed.report (generationId : GenerationId) : Deed → Option PlaybackState
  | .passed (.playback _ reported state) true =>
    if reported = generationId then some state else none
  | _ => none

/-- The playback states published for a generation, in order. -/
def reports (generationId : GenerationId) (journal : List Deed) : List PlaybackState :=
  journal.filterMap (Deed.report generationId)

/-- One honest lifecycle, as far as it has come. -/
def IsHonest (states : List PlaybackState) : Prop :=
  states <+: [.accepted, .rendered] ∨ states = [.flushed] ∨ states = [.accepted, .flushed]

/-- The generation is that of the turn begun last, and it was not interrupted. -/
structure IsSpoken (generationId : GenerationId) (journal : List Deed) : Prop where
  begun : ∃ earlier identity later, journal = earlier ++ .began identity :: later ∧
    identity.generationId = generationId ∧ ∀ other, .began other ∉ later
  uninterrupted : ∀ identity, .interrupted identity ∈ journal → identity.generationId ≠ generationId

/-- Every report was made while its generation was the one being spoken. -/
def IsTimely (journal : List Deed) : Prop :=
  ∀ earlier deed later, journal = earlier ++ deed :: later →
    ∀ generationId state, deed.report generationId = some state → IsSpoken generationId earlier

/-- The deed is no report, begins no turn and interrupts none. -/
def Deed.IsUnheard : Deed → Prop
  | .passed (.playback _ _ _) true | .began _ | .interrupted _ => False
  | _ => True

theorem Deed.IsPlain.unheard {deed : Deed} (h : deed.IsPlain) : deed.IsUnheard := by
  cases deed with
  | passed event isOpen => cases event <;> trivial
  | _ => trivial

section Journal

variable {journal deeds : List Deed} {deed : Deed} {generationId : GenerationId}

theorem reports_append (generationId : GenerationId) (journal deeds : List Deed) :
    reports generationId (journal ++ deeds) =
      reports generationId journal ++ reports generationId deeds := filterMap_append

theorem reports_of_silent (h : ∀ deed ∈ deeds, deed.report generationId = none) :
    reports generationId deeds = [] := filterMap_eq_nil_iff.mpr h

theorem report_of_unheard (generationId : GenerationId) (h : deed.IsUnheard) :
    deed.report generationId = none := by
  cases deed with
  | passed event isOpen =>
    cases event with
    | playback => cases isOpen <;> first | rfl | exact absurd h not_false
    | _ => rfl
  | _ => rfl

theorem IsTimely.concat (h : IsTimely journal)
    (hdeed : ∀ generationId state, deed.report generationId = some state →
      IsSpoken generationId journal) : IsTimely (journal ++ [deed]) := by
  intro earlier other later hsplit generationId state hreport
  -- Either the report is the new deed, or it was there before.
  rcases eq_nil_or_concat later with rfl | ⟨rest, last, rfl⟩
  · obtain ⟨rfl, hother⟩ := append_inj' hsplit rfl
    cases hother
    exact hdeed generationId state hreport
  · rw [concat_eq_append, ← cons_append, ← append_assoc] at hsplit
    obtain ⟨hjournal, -⟩ := append_inj' hsplit rfl
    exact h earlier other rest hjournal generationId state hreport

/-- Deeds that are no reports come at any time. -/
theorem IsTimely.silent (h : IsTimely journal)
    (hdeeds : ∀ deed ∈ deeds, ∀ generationId, deed.report generationId = none) :
    IsTimely (journal ++ deeds) := by
  induction deeds generalizing journal with
  | nil =>
    rw [append_nil]
    exact h
  | cons deed rest ih =>
    rw [append_cons]
    apply ih
    · apply h.concat
      intro generationId state hreport
      rw [hdeeds deed mem_cons_self] at hreport
      cases hreport
    · exact fun other hother => hdeeds other (mem_cons_of_mem deed hother)

/-- A generation stays the one being spoken while no turn begins and none is interrupted. -/
theorem IsSpoken.append (h : IsSpoken generationId journal)
    (hbegan : ∀ identity, .began identity ∉ deeds)
    (hinterrupted : ∀ identity, .interrupted identity ∉ deeds) :
    IsSpoken generationId (journal ++ deeds) := by
  obtain ⟨earlier, identity, later, hjournal, hgeneration, hlater⟩ := h.begun
  refine ⟨⟨earlier, identity, later ++ deeds, ?_, hgeneration, ?_⟩, ?_⟩
  · rw [hjournal, append_assoc, cons_append]
  · intro other hother
    exact (mem_append.mp hother).elim (hlater other) (hbegan other)
  · intro other hother
    rcases mem_append.mp hother with hold | hnew
    · exact h.uninterrupted other hold
    · exact absurd hnew (hinterrupted other)

theorem IsSpoken.unheard (h : IsSpoken generationId journal)
    (hdeeds : ∀ deed ∈ deeds, deed.IsUnheard) : IsSpoken generationId (journal ++ deeds) :=
  h.append (fun identity hmem => hdeeds (.began identity) hmem)
    (fun identity hmem => hdeeds (.interrupted identity) hmem)

end Journal

/-- What is on record about a lifecycle that can still be reported on. -/
def PlaybackLifecycle.Told : PlaybackLifecycle → List PlaybackState → Prop
  | .awaitingAcceptance _ _, states => states = []
  | .accepted _, states => states = [.accepted]
  | .rendered _, _ | .flushed _, _ => True

/-- Reporting one more state goes on with the lifecycle. -/
theorem PlaybackLifecycle.Reports.honest {before after : PlaybackLifecycle} {state : PlaybackState}
    {states : List PlaybackState} (h : before.Reports state after) (htold : before.Told states) :
    IsHonest (states ++ [state]) ∧ after.Told (states ++ [state]) := by
  cases h <;> cases htold
  · exact ⟨.inl ⟨[.rendered], rfl⟩, rfl⟩
  · exact ⟨.inl ⟨[], rfl⟩, trivial⟩
  · exact ⟨.inr (.inl rfl), trivial⟩
  · exact ⟨.inr (.inr rfl), trivial⟩

namespace VoiceLoop

/-- What is on record agrees with the playback the loop follows, as long as there is
a consumer to report to. -/
structure Reporting (loop : VoiceLoop) : Prop where
  honest : ∀ generationId, IsHonest (reports generationId loop.wire.journal)
  timely : IsTimely loop.wire.journal
  future : ∀ generationId, loop.sequence < generationId →
    reports generationId loop.wire.journal = []
  interrupted : ∀ identity, .interrupted identity ∈ loop.wire.journal →
    identity.generationId ≤ loop.sequence
  current : ∀ identity, loop.state = .responding identity → identity.generationId ≤ loop.sequence
  playing : ∀ lifecycle, loop.playback = some lifecycle →
    IsSpoken lifecycle.generationId loop.wire.journal ∧
      (loop.wire.isClosed = false →
        lifecycle.Told (reports lifecycle.generationId loop.wire.journal))

namespace Reporting

variable {before after : VoiceLoop} {deeds : List Deed} {identity : TurnIdentity}
  (h : before.Reporting)

include h

section

variable (hgrows : before.wire.Grows deeds after.wire)
  (hsilent : ∀ deed ∈ deeds, ∀ generationId, deed.report generationId = none)
  (hsequence : before.sequence ≤ after.sequence)

include hgrows hsilent hsequence

/-- Deeds that report nothing. -/
theorem silent (hinterrupted : ∀ identity, .interrupted identity ∈ deeds →
      identity.generationId ≤ after.sequence)
    (hcurrent : ∀ identity, after.state = .responding identity →
      identity.generationId ≤ after.sequence)
    (hplaying : ∀ lifecycle, after.playback = some lifecycle →
      IsSpoken lifecycle.generationId (before.wire.journal ++ deeds) ∧
        (before.wire.isClosed = false →
          lifecycle.Told (reports lifecycle.generationId before.wire.journal))) :
    after.Reporting := by
  have hsame : ∀ generationId, reports generationId after.wire.journal =
      reports generationId before.wire.journal := by
    intro generationId
    rw [hgrows.journal, reports_append,
      reports_of_silent fun deed hdeed => hsilent deed hdeed generationId, append_nil]
  refine ⟨?_, ?_, ?_, ?_, hcurrent, ?_⟩
  · intro generationId
    rw [hsame]
    exact h.honest generationId
  · rw [hgrows.journal]
    exact h.timely.silent hsilent
  · intro generationId hlater
    rw [hsame]
    exact h.future generationId (hsequence.trans_lt hlater)
  · intro identity hmem
    rw [hgrows.journal] at hmem
    rcases mem_append.mp hmem with hold | hnew
    · exact (h.interrupted identity hold).trans hsequence
    · exact hinterrupted identity hnew
  · intro lifecycle hlifecycle
    obtain ⟨hspoken, htold⟩ := hplaying lifecycle hlifecycle
    rw [hsame, hgrows.journal]
    exact ⟨hspoken, fun hopen => htold (hgrows.opened hopen)⟩

/-- The loop stops following a playback. -/
theorem hushed (hinterrupted : ∀ identity, .interrupted identity ∈ deeds →
      before.state = .responding identity) (hstate : after.state = .listening)
    (hplayback : after.playback = none) : after.Reporting := by
  apply h.silent hgrows hsilent hsequence
  · exact fun identity hmem => (h.current identity (hinterrupted identity hmem)).trans hsequence
  · intro identity hresponding
    rw [hstate] at hresponding
    cases hresponding
  · intro lifecycle hlifecycle
    rw [hplayback] at hlifecycle
    cases hlifecycle

end

/-- Nothing about turns or playback. -/
theorem kept (hgrows : before.wire.Grows deeds after.wire)
    (hunheard : ∀ deed ∈ deeds, deed.IsUnheard) (hsequence : after.sequence = before.sequence)
    (hstate : after.state = before.state) (hplayback : after.playback = before.playback) :
    after.Reporting := by
  apply h.silent hgrows (fun deed hdeed generationId => report_of_unheard _ (hunheard deed hdeed))
    hsequence.ge
  · exact fun identity hmem => absurd (hunheard _ hmem) not_false
  · rw [hstate, hsequence]
    exact h.current
  · intro lifecycle hlifecycle
    rw [hplayback] at hlifecycle
    obtain ⟨hspoken, htold⟩ := h.playing lifecycle hlifecycle
    exact ⟨hspoken.unheard hunheard, htold⟩

/-- A turn begins, and its playback is followed from then on. -/
theorem owned (hfresh : IsFresh identity before)
    (hgrows : before.wire.Grows (.began identity :: deeds) after.wire)
    (hunheard : ∀ deed ∈ deeds, deed.IsUnheard) (hsequence : after.sequence = identity.turnId)
    (hstate : after.state = .responding identity)
    (hplayback : after.playback = some (.awaitingAcceptance identity.generationId none)) :
    after.Reporting := by
  have hgeneration := hfresh.generation
  have hlater : before.sequence < identity.generationId := by
    rw [hgeneration]
    exact hfresh.later
  apply h.silent hgrows
  · exact forall_mem_cons.mpr ⟨fun _ => rfl, fun deed hdeed _ =>
      report_of_unheard _ (hunheard deed hdeed)⟩
  · rw [hsequence]
    exact hfresh.later.le
  · intro other hother
    rcases mem_cons.mp hother with hother | hother
    · cases hother
    · exact absurd (hunheard _ hother) not_false
  · intro other hresponding
    rw [hstate] at hresponding
    cases hresponding
    rw [hsequence, hgeneration]
  · intro lifecycle hlifecycle
    rw [hplayback] at hlifecycle
    cases hlifecycle
    refine ⟨⟨⟨before.wire.journal, identity, deeds, rfl, rfl, ?_⟩, ?_⟩, ?_⟩
    · exact fun other hother => hunheard _ hother
    · intro other hother heq
      have hpast : other.generationId ≤ before.sequence := by
        rcases mem_append.mp hother with hold | hnew
        · exact h.interrupted other hold
        · rcases mem_cons.mp hnew with hnew | hnew
          · cases hnew
          · exact absurd (hunheard _ hnew) not_false
      rw [heq] at hpast
      exact absurd hlater (Nat.not_lt.mpr hpast)
    · intro _
      exact h.future _ hlater

theorem silences (hsilences : Silences before after identity) : after.Reporting := by
  obtain ⟨plain, more, hplain, hgrows⟩ := hsilences.deeds
  have hstate := hsilences.state
  obtain ⟨wire, rfl⟩ := hsilences.change
  have hunheard : ∀ deed ∈ plain ++ .reaped identity :: more, deed.IsUnheard := by
    obtain ⟨hplain, hmore⟩ := forall_mem_append.mp hplain
    exact forall_mem_append.mpr ⟨fun deed hdeed => (hplain deed hdeed).unheard,
      forall_mem_cons.mpr ⟨trivial, fun deed hdeed => (hmore deed hdeed).unheard⟩⟩
  refine h.hushed hgrows ?_ le_rfl ?_ rfl rfl
  · exact forall_mem_cons.mpr ⟨fun _ => rfl, fun deed hdeed _ =>
      report_of_unheard _ (hunheard deed hdeed)⟩
  · intro other hother
    rcases mem_cons.mp hother with hother | hother
    · cases hother
      exact hstate
    · exact absurd (hunheard _ hother) not_false

/-- One more report on the playback that is followed, to a consumer that is there. The
loop takes note of it unless the consumer went away meanwhile. -/
theorem report {lifecycle next : PlaybackLifecycle} {state : PlaybackState}
    (hplayback : before.playback = some lifecycle)
    (hpast : lifecycle.generationId ≤ before.sequence) (hreports : lifecycle.Reports state next)
    (hopen : before.wire.isClosed = false) (hgrows : before.wire.Grows
      [.passed (.playback before.sessionId lifecycle.generationId state) true] after.wire)
    (hsequence : after.sequence = before.sequence) (hstate : after.state = before.state)
    (hafter : after.playback = some next ∨
      (after.playback = before.playback ∧ after.wire.isClosed = true)) : after.Reporting := by
  obtain ⟨hspoken, htold⟩ := h.playing lifecycle hplayback
  obtain ⟨hhonest, hnext⟩ := hreports.honest (htold hopen)
  have hspoken' : IsSpoken lifecycle.generationId after.wire.journal := by
    rw [hgrows.journal]
    exact hspoken.append (by simp) (by simp)
  have hthis : reports lifecycle.generationId after.wire.journal =
      reports lifecycle.generationId before.wire.journal ++ [state] := by
    rw [hgrows.journal]
    simp [reports, Deed.report]
  have hother : ∀ generationId, generationId ≠ lifecycle.generationId →
      reports generationId after.wire.journal = reports generationId before.wire.journal := by
    intro generationId hne
    rw [hgrows.journal]
    simp [reports, Deed.report, hne.symm]
  refine ⟨?_, ?_, ?_, ?_, ?_, ?_⟩
  · intro generationId
    by_cases heq : generationId = lifecycle.generationId
    · rw [heq, hthis]
      exact hhonest
    · rw [hother generationId heq]
      exact h.honest generationId
  · rw [hgrows.journal]
    apply h.timely.concat
    intro generationId reported hreport
    simp only [Deed.report] at hreport
    split at hreport
    next heq =>
      rw [← heq]
      exact hspoken
    next => cases hreport
  · intro generationId hlater
    rw [hsequence] at hlater
    rw [hother generationId (fun heq => absurd (heq ▸ hpast) (Nat.not_le.mpr hlater))]
    exact h.future generationId hlater
  · intro identity hmem
    rw [hgrows.journal] at hmem
    rw [hsequence]
    rcases mem_append.mp hmem with hold | hnew
    · exact h.interrupted identity hold
    · cases mem_singleton.mp hnew
  · rw [hstate, hsequence]
    exact h.current
  · intro followed hfollowed
    rcases hafter with hmoved | ⟨hsame, hclosed⟩
    · rw [hmoved] at hfollowed
      cases hfollowed
      have hsame : next.generationId = lifecycle.generationId := by cases hreports <;> rfl
      rw [hsame, hthis]
      exact ⟨hspoken', fun _ => hnext⟩
    · rw [hsame, hplayback] at hfollowed
      cases hfollowed
      exact ⟨hspoken', fun hstill => absurd (hclosed.symm.trans hstill) (by decide)⟩

theorem move (hcoupled : before.Coupled) (hmove : Move before after) : after.Reporting := by
  have hidle : before.IsIdle → before.playback = none := by
    intro hidle
    cases hplayback : before.playback with
    | none => rfl
    | some lifecycle =>
      obtain ⟨identity, hstate, -⟩ := hcoupled.playback lifecycle hplayback
      rw [hidle.1] at hstate
      cases hstate
  have hpast : ∀ {lifecycle}, before.playback = some lifecycle →
      lifecycle.generationId ≤ before.sequence := by
    intro lifecycle hplayback
    obtain ⟨identity, hstate, hgeneration⟩ := hcoupled.playback lifecycle hplayback
    rw [hgeneration]
    exact h.current identity hstate
  cases hmove with
  | quiet hplain hgrows =>
    exact h.kept hgrows (fun deed hdeed => (hplain deed hdeed).unheard) rfl rfl rfl
  | captured | spoken | discontinued | fallsDue | passedOver =>
    exact h.kept (.refl before.wire) (by simp) rfl rfl rfl
  | fellSilent hgrows | fired _ _ _ hgrows => exact h.kept hgrows (by simp) rfl rfl rfl
  | recovered hsilent =>
    rcases hsilent with rfl | ⟨identity, hsilences⟩
    · refine h.kept (.refl _) ?_ rfl rfl rfl
      simp
    · refine (h.silences hsilences).kept (.refl _) ?_ rfl rfl rfl
      simp
  | silenced _ hsilences => exact h.silences hsilences
  | @ended identity _ _ _ _ hplain hgrows | @endedDue identity _ _ _ hplain hgrows =>
    have hunheard : ∀ deed ∈ Deed.reaped identity :: _, deed.IsUnheard :=
      forall_mem_cons.mpr ⟨trivial, fun deed hdeed => (hplain deed hdeed).unheard⟩
    exact h.hushed hgrows (fun deed hdeed _ => report_of_unheard _ (hunheard deed hdeed)) le_rfl
      (fun _ hmem => absurd (hunheard _ hmem) not_false) rfl rfl
  | @expired segmentId rest wasOpen wire horder hgrows =>
    refine h.kept hgrows ?_ rfl rfl rfl
    unfold expiryDeeds
    split <;> simp [Deed.IsUnheard]
  | registered _ _ hgrows | skipped _ _ hgrows | authorized _ hgrows | admitted _ _ _ hgrows
  | admittedInVain _ _ _ hgrows =>
    exact h.kept hgrows (by simp [Deed.IsUnheard]) rfl rfl rfl
  | responded _ _ _ hfresh hgrows | answered _ _ hfresh hgrows | spokeUp _ hfresh hgrows =>
    exact h.owned hfresh hgrows (by simp [Deed.IsUnheard]) rfl rfl rfl
  | respondedInVain hidling _ _ hfresh _ hgrows | spokeInVain hidling hfresh _ hgrows =>
    refine h.hushed hgrows ?_ hfresh.later.le (by simp) hidling.1 (hidle hidling)
    simp [Deed.report]
  | parked hplayback =>
    refine h.silent (.refl _) ?_ le_rfl ?_ h.current ?_
    · simp
    · simp
    intro lifecycle hlifecycle
    cases hlifecycle
    rw [append_nil]
    obtain ⟨hspoken, htold⟩ := h.playing _ hplayback
    exact ⟨hspoken, htold⟩
  | reported hplayback hreports hopen hgrows =>
    exact h.report hplayback (hpast hplayback) hreports hopen hgrows rfl rfl (.inl rfl)
  | @reportedInVain lifecycle next state wasOpen wire hplayback hreports hclosed hopen hgrows =>
    cases wasOpen with
    | false => exact h.kept hgrows (by simp [Deed.IsUnheard]) rfl rfl rfl
    | true =>
      exact h.report hplayback (hpast hplayback) hreports (hopen rfl) hgrows rfl rfl
        (.inr ⟨rfl, hclosed⟩)

theorem act (hcoupled : before.Coupled) (hact : Act before after) : after.Reporting := by
  rcases hact with hmove | ⟨signal, hturn⟩
  · exact h.move hcoupled hmove
  · cases hturn with
    | heard _ _ _ hgrows => exact h.kept hgrows (by simp) rfl rfl rfl
    | silenced hsilences => exact h.silences hsilences

end Reporting

/-- What the journal says of playback once the loop has left. -/
def Reported (loop : VoiceLoop) : Prop :=
  (∀ generationId, IsHonest (reports generationId loop.wire.journal)) ∧ IsTimely loop.wire.journal

theorem Reported.silent {before after : VoiceLoop} {deeds : List Deed} (h : before.Reported)
    (hgrows : before.wire.Grows deeds after.wire)
    (hsilent : ∀ deed ∈ deeds, ∀ generationId, deed.report generationId = none) :
    after.Reported := by
  refine ⟨?_, ?_⟩
  · intro generationId
    rw [hgrows.journal, reports_append,
      reports_of_silent fun deed hdeed => hsilent deed hdeed generationId, append_nil]
    exact h.1 generationId
  · rw [hgrows.journal]
    exact h.2.silent hsilent

theorem Reporting.last {before after : VoiceLoop} (h : before.Reporting)
    (hlast : Last before after) :
    after.Reported := by
  have hreported : before.Reported := ⟨h.honest, h.timely⟩
  cases hlast with
  | heard => exact hreported
  | streamEnded _ hgrows | overflowed _ _ hgrows | unanswered _ hgrows
  | abandoned _ _ _ _ hgrows =>
    exact hreported.silent hgrows (by simp [Deed.report])
  | cutShort _ hplain hgrows =>
    exact hreported.silent hgrows (forall_mem_cons.mpr ⟨fun _ => rfl, fun deed hdeed _ =>
      report_of_unheard _ (hplain deed hdeed).unheard⟩)
  | answeredInVain _ _ _ _ hgrows hafter =>
    subst hafter
    exact hreported.silent hgrows (by simp [Deed.report])

theorem report_of_fading {deed : Deed} (generationId : GenerationId) (h : deed.IsFading) :
    deed.report generationId = none := by
  cases deed with
  | passed event isOpen => exact report_of_unheard _ (Deed.IsPlain.unheard h)
  | _ => rfl

theorem lasting_reporting : Lasting Reporting Reported where
  act := fun hcoupled h hact => h.act hcoupled hact
  leave := fun h => ⟨h.honest, h.timely⟩
  last := fun _ h hlast => h.last hlast
  fade := by
    intro before after hfades h
    obtain ⟨deeds, hfading, hgrows⟩ := hfades.deeds
    exact h.silent hgrows fun deed hdeed generationId => report_of_fading _ (hfading deed hdeed)

/-- In every run the playback states published for a generation are one honest
lifecycle, and each is published while the turn of that generation is the last one
begun and was not interrupted. -/
theorem playback_honest (env : VoiceEnvironment) (sessionId : SessionId) (finalSilenceMs : Nat)
    (responseMode : VoiceResponseMode) (captureRecorder : Bool) (sequence : Nat)
    (signals : List LoopSignal) :
    let journal := (run env
      (new sessionId finalSilenceMs responseMode captureRecorder sequence) signals).wire.journal
    (∀ generationId, reports generationId journal <+: [.accepted, .rendered] ∨
      reports generationId journal = [.flushed] ∨
      reports generationId journal = [.accepted, .flushed]) ∧
    ∀ earlier deed later, journal = earlier ++ deed :: later →
      ∀ generationId state, deed.report generationId = some state →
        (∃ before identity after, earlier = before ++ .began identity :: after ∧
          identity.generationId = generationId ∧ ∀ other, .began other ∉ after) ∧
        ∀ identity, .interrupted identity ∈ earlier → identity.generationId ≠ generationId := by
  intro journal
  have hnew : (new sessionId finalSilenceMs responseMode captureRecorder sequence).Reporting := by
    refine ⟨fun _ => .inl nil_prefix, ?_, fun _ _ => rfl, nofun, nofun, nofun⟩
    intro earlier deed later hsplit
    simp [new, Wire.start] at hsplit
  have hcoupled := coupled_new sessionId finalSilenceMs responseMode captureRecorder sequence
  obtain ⟨-, hhonest, htimely⟩ :=
    lasting_reporting.run env signals (lasting_reporting.start hcoupled hnew)
  refine ⟨hhonest, ?_⟩
  intro earlier deed later hsplit generationId state hreport
  have hspoken := htimely earlier deed later hsplit generationId state hreport
  exact ⟨hspoken.begun, hspoken.uninterrupted⟩

end VoiceLoop

end ConversationRuntime
