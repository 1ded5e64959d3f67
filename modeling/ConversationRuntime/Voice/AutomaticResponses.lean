import ConversationRuntime.Voice.Coupling

/-! # Answers to admitted utterances

In automatic mode every utterance that a recogniser finalized is published, queued
and answered. The queue is what was published and not yet answered, so answers keep
the order of publication; only a failure that ends the loop breaks this off.
-/

namespace ConversationRuntime

open Foundation List

/-- The segment whose text was published without a turn. -/
@[simp] def Deed.admission : Deed → Option Nat
  | .passed (.transcriptFinal _ segmentId none _ _) true => some segmentId
  | _ => none

/-- The segment that was published as authorized or skipped. -/
@[simp] def Deed.response : Deed → Option Nat
  | .passed (.responseAuthorized _ segmentId _) true => some segmentId
  | .passed (.responseSkipped _ segmentId _) true => some segmentId
  | _ => none

def admissions (journal : List Deed) : List Nat := journal.filterMap Deed.admission

def responses (journal : List Deed) : List Nat := journal.filterMap Deed.response

@[simp] theorem admissions_append (journal deeds : List Deed) :
    admissions (journal ++ deeds) = admissions journal ++ admissions deeds :=
  filterMap_append

@[simp] theorem responses_append (journal deeds : List Deed) :
    responses (journal ++ deeds) = responses journal ++ responses deeds :=
  filterMap_append

/-- The deed publishes neither a text without a turn nor an answer. -/
@[simp] def Deed.IsMute (deed : Deed) : Prop := deed.admission = none ∧ deed.response = none

theorem Deed.IsPlain.mute {deed : Deed} (h : deed.IsPlain) : deed.IsMute := by
  cases deed with
  | passed event wasOpen =>
    cases event with
    | transcriptFinal sessionId segmentId turnId text evidence =>
      cases turnId with
      | none => exact absurd h not_false
      | some => exact ⟨rfl, rfl⟩
    | responseAuthorized | responseSkipped => exact absurd h not_false
    | _ => exact ⟨rfl, rfl⟩
  | _ => exact ⟨rfl, rfl⟩

theorem Deed.IsFading.mute {deed : Deed} (h : deed.IsFading) : deed.IsMute := by
  cases deed with
  | interrupted | reaped => exact ⟨rfl, rfl⟩
  | passed event wasOpen => exact Deed.IsPlain.mute h
  | _ => exact ⟨rfl, rfl⟩

section Mute

variable {deeds : List Deed}

theorem Wire.Grows.mute {wire wire' : Wire} (hgrows : wire.Grows deeds wire')
    (h : ∀ deed ∈ deeds, deed.IsMute) : admissions wire'.journal = admissions wire.journal ∧
      responses wire'.journal = responses wire.journal := by
  have hadmissions : admissions deeds = [] :=
    filterMap_eq_nil_iff.mpr fun deed hdeed => (h deed hdeed).1
  have hresponses : responses deeds = [] :=
    filterMap_eq_nil_iff.mpr fun deed hdeed => (h deed hdeed).2
  simp [hgrows.journal, hadmissions, hresponses]

end Mute

namespace VoiceLoop

/-- Inside the loop the queue holds what was published and not answered. -/
structure Admitting (loop : VoiceLoop) : Prop where
  mode : loop.responseMode = .automatic
  ungated : loop.pendingOrder = []
  increasing : (admissions loop.wire.journal).Pairwise (· < ·)
  passed : ∀ segmentId ∈ admissions loop.wire.journal, segmentId ≤ loop.lastFinalizedSegment
  queued : (responses loop.wire.journal ++ loop.automaticResponses.map Prod.fst).Sublist
    (admissions loop.wire.journal)
  complete : loop.wire.isClosed = false →
    responses loop.wire.journal ++ loop.automaticResponses.map Prod.fst =
      admissions loop.wire.journal
  room : loop.automaticResponses.length ≤ maxPendingSegments

/-- What is left of it when the loop has ended. -/
structure Answering (loop : VoiceLoop) : Prop where
  increasing : (admissions loop.wire.journal).Pairwise (· < ·)
  answered : (responses loop.wire.journal).Sublist (admissions loop.wire.journal)
  room : loop.automaticResponses.length ≤ maxPendingSegments

theorem Answering.told {before after : VoiceLoop} {deeds : List Deed} (h : before.Answering)
    (hqueue : after.automaticResponses = before.automaticResponses ∨ after.automaticResponses = [])
    (hmute : ∀ deed ∈ deeds, deed.IsMute) (hgrows : before.wire.Grows deeds after.wire) :
    after.Answering := by
  obtain ⟨hadmissions, hresponses⟩ := hgrows.mute hmute
  refine ⟨hadmissions ▸ h.increasing, ?_, ?_⟩
  · rw [hadmissions, hresponses]
    exact h.answered
  · rcases hqueue with hsame | hempty
    · exact hsame ▸ h.room
    · exact hempty ▸ Nat.zero_le _

namespace Admitting

variable {before after : VoiceLoop} {deeds : List Deed} (h : before.Admitting)

include h

theorem answering : before.Answering :=
  ⟨h.increasing, (sublist_append_left _ _).trans h.queued, h.room⟩

/-- Nothing that concerns the queue. -/
theorem told (hmode : after.responseMode = before.responseMode)
    (horder : after.pendingOrder = before.pendingOrder)
    (hlast : before.lastFinalizedSegment ≤ after.lastFinalizedSegment)
    (hqueue : after.automaticResponses = before.automaticResponses)
    (hmute : ∀ deed ∈ deeds, deed.IsMute) (hgrows : before.wire.Grows deeds after.wire) :
    after.Admitting := by
  obtain ⟨hadmissions, hresponses⟩ := hgrows.mute hmute
  refine ⟨hmode.trans h.mode, horder.trans h.ungated, hadmissions ▸ h.increasing, ?_, ?_, ?_, ?_⟩
  · rw [hadmissions]
    exact fun segmentId hmem => (h.passed segmentId hmem).trans hlast
  · rw [hadmissions, hresponses, hqueue]
    exact h.queued
  · rw [hadmissions, hresponses, hqueue]
    exact fun hopen => h.complete (hgrows.opened hopen)
  · rw [hqueue]
    exact h.room

variable {segmentId : Nat}

/-- A later segment keeps the publications in order. -/
theorem increasing_snoc (hlater : before.lastFinalizedSegment < segmentId) :
    (admissions before.wire.journal ++ [segmentId]).Pairwise (· < ·) :=
  pairwise_snoc h.increasing fun earlier hearlier => (h.passed earlier hearlier).trans_lt hlater

theorem passed_snoc (hlater : before.lastFinalizedSegment < segmentId) :
    ∀ other ∈ admissions before.wire.journal ++ [segmentId], other ≤ segmentId :=
  forall_mem_snoc (fun other hmem => (h.passed other hmem).trans hlater.le) le_rfl

theorem silences {identity : TurnIdentity} (hsilences : Silences before after identity) :
    after.Admitting := by
  obtain ⟨deeds, hfading, hgrows⟩ := hsilences.fades.deeds
  obtain ⟨wire, rfl⟩ := hsilences.change
  exact h.told rfl rfl le_rfl rfl (fun deed hdeed => (hfading deed hdeed).mute) hgrows

theorem move (hmove : Move before after) : after.Admitting := by
  have hungated : before.responseMode ≠ .externalGate := by simp [h.mode]
  cases hmove with
  | quiet hplain hgrows =>
    exact h.told rfl rfl le_rfl rfl (fun deed hdeed => (hplain deed hdeed).mute) hgrows
  | captured | spoken | discontinued | fallsDue | parked =>
    exact h.told rfl rfl le_rfl rfl (forall_mem_nil _) (.refl _)
  | fellSilent hgrows | fired _ _ _ hgrows | authorized _ hgrows | spokeUp _ _ hgrows
  | spokeInVain _ _ _ hgrows | reported _ _ _ hgrows | reportedInVain _ _ _ _ hgrows =>
    exact h.told rfl rfl le_rfl rfl (by simp) hgrows
  | passedOver hlater => exact h.told rfl rfl hlater.le rfl (by simp) (.refl _)
  | recovered hsilent =>
    rcases hsilent with rfl | ⟨identity, hsilences⟩
    · exact h.told rfl rfl le_rfl rfl (by simp) (.refl _)
    · exact (h.silences hsilences).told rfl rfl le_rfl rfl (by simp) (.refl _)
  | silenced _ hsilences => exact h.silences hsilences
  | ended _ _ hplain hgrows | endedDue _ hplain hgrows =>
    refine h.told rfl rfl le_rfl rfl (forall_mem_cons.mpr ⟨⟨rfl, rfl⟩, ?_⟩) hgrows
    exact fun deed hdeed => (hplain deed hdeed).mute
  | expired horder => exact absurd (h.ungated.symm.trans horder) (by simp)
  | registered hmode | skipped hmode | responded _ hmode | respondedInVain _ hmode =>
    exact absurd hmode hungated
  | @admitted segmentId text evidence wire _ hlater hroom hgrows =>
    have hadmissions : admissions wire.journal = admissions before.wire.journal ++ [segmentId] := by
      rw [hgrows.journal, admissions_append]
      rfl
    have hresponses : responses wire.journal = responses before.wire.journal := by
      rw [hgrows.journal, responses_append]
      exact append_nil _
    refine ⟨h.mode, h.ungated, ?_, ?_, ?_, ?_, ?_⟩
    · exact hadmissions ▸ h.increasing_snoc hlater
    · exact hadmissions ▸ h.passed_snoc hlater
    · simp only [hadmissions, hresponses, map_append, ← append_assoc]
      exact h.queued.append_right [segmentId]
    · intro hopen
      simp only [hadmissions, hresponses, map_append, ← append_assoc]
      exact congrArg (· ++ [segmentId]) (h.complete (hgrows.opened hopen))
    · simpa using hroom
  | @admittedInVain segmentId text evidence wasOpen wire _ hlater hclosed hgrows =>
    -- Nobody is left to be answered, so the publication need not be queued.
    have hresponses : responses wire.journal = responses before.wire.journal := by
      rw [hgrows.journal, responses_append]
      exact append_nil _
    have hshut : ¬ wire.isClosed = false := by simp [hclosed]
    have hadmissions : admissions wire.journal = admissions before.wire.journal ∨
        admissions wire.journal = admissions before.wire.journal ++ [segmentId] := by
      rw [hgrows.journal, admissions_append]
      cases wasOpen with
      | false => exact .inl (append_nil _)
      | true => exact .inr rfl
    rcases hadmissions with hadmissions | hadmissions
    · refine ⟨h.mode, h.ungated, ?_, ?_, ?_, fun hopen => absurd hopen hshut, h.room⟩
      · exact hadmissions ▸ h.increasing
      · exact hadmissions ▸ fun other hmem => (h.passed other hmem).trans hlater.le
      · simp only [hadmissions, hresponses]
        exact h.queued
    · refine ⟨h.mode, h.ungated, ?_, ?_, ?_, fun hopen => absurd hopen hshut, h.room⟩
      · exact hadmissions ▸ h.increasing_snoc hlater
      · exact hadmissions ▸ h.passed_snoc hlater
      · simp only [hadmissions, hresponses]
        exact h.queued.trans (sublist_append_left _ _)
  | @answered segmentId text rest identity wire _ hqueue _ hgrows =>
    have hadmissions : admissions wire.journal = admissions before.wire.journal := by
      rw [hgrows.journal, admissions_append]
      exact append_nil _
    have hresponses : responses wire.journal = responses before.wire.journal ++ [segmentId] := by
      rw [hgrows.journal, responses_append]
      rfl
    have hsame : responses wire.journal ++ rest.map Prod.fst =
        responses before.wire.journal ++ before.automaticResponses.map Prod.fst := by
      rw [hresponses, hqueue, map_cons, append_assoc, singleton_append]
    refine ⟨h.mode, h.ungated, hadmissions ▸ h.increasing, hadmissions ▸ h.passed, ?_, ?_, ?_⟩
    · exact hadmissions ▸ hsame ▸ h.queued
    · intro hopen
      exact hadmissions ▸ hsame ▸ h.complete (hgrows.opened hopen)
    · have hroom := h.room
      rw [hqueue] at hroom
      exact (Nat.le_succ _).trans hroom

theorem act (hact : Act before after) : after.Admitting := by
  rcases hact with hmove | ⟨signal, hturn⟩
  · exact h.move hmove
  · cases hturn with
    | heard _ _ _ hgrows => exact h.told rfl rfl le_rfl rfl (by simp) hgrows
    | silenced hsilences => exact h.silences hsilences

/-- The first response of the queue is given, in vain or not, and the loop ends. -/
theorem answered_last {text : String} {rest : List (Nat × String)} {wire : Wire}
    (hqueue : before.automaticResponses = (segmentId, text) :: rest)
    (hlater : after.automaticResponses = rest) (hwire : after.wire = wire)
    (hgrows : before.wire.Grows deeds wire) (hnone : admissions deeds = [])
    (hone : (responses deeds).Sublist [segmentId]) : after.Answering := by
  have hadmissions : admissions after.wire.journal = admissions before.wire.journal := by
    rw [hwire, hgrows.journal, admissions_append, hnone, append_nil]
  refine ⟨hadmissions ▸ h.increasing, ?_, ?_⟩
  · have hqueued := h.queued
    rw [hqueue] at hqueued
    rw [hadmissions, hwire, hgrows.journal, responses_append]
    refine .trans ?_ hqueued
    exact (hone.trans (singleton_sublist.mpr mem_cons_self)).append_left _
  · have hroom := h.room
    rw [hqueue, ← hlater] at hroom
    exact (Nat.le_succ _).trans hroom

theorem last (hlast : Last before after) : after.Answering := by
  cases hlast with
  | heard => exact ⟨h.increasing, h.answering.answered, h.room⟩
  | streamEnded _ hgrows => exact h.answering.told (.inl rfl) (by simp) hgrows
  | cutShort _ hplain hgrows =>
    refine h.answering.told (.inl rfl) (forall_mem_cons.mpr ⟨⟨rfl, rfl⟩, ?_⟩) hgrows
    exact fun deed hdeed => (hplain deed hdeed).mute
  | @overflowed segmentId text reason evidence wasOpen wire _ hlater hgrows =>
    have hadmissions : admissions wire.journal = admissions before.wire.journal ++ [segmentId] := by
      rw [hgrows.journal, admissions_append]
      rfl
    refine ⟨hadmissions ▸ h.increasing_snoc hlater, ?_, h.room⟩
    rw [hadmissions, hgrows.journal, responses_append]
    apply h.answering.answered.append
    cases wasOpen with
    | false => exact nil_sublist _
    | true => exact .refl _
  | @unanswered _ _ _ _ wasOpen _ hqueue hgrows
  | @abandoned _ _ _ _ _ wasOpen _ _ hqueue _ _ hgrows =>
    refine h.answered_last hqueue rfl rfl hgrows rfl ?_
    cases wasOpen with
    | false => exact nil_sublist _
    | true => exact .refl _
  | @answeredInVain _ _ _ _ _ wasOpen _ _ _ hqueue _ _ hgrows hafter =>
    subst hafter
    refine h.answered_last hqueue rfl rfl hgrows rfl ?_
    cases wasOpen with
    | false => exact nil_sublist _
    | true => exact .refl _

end Admitting

theorem lasting_admitting : Lasting Admitting Answering where
  act := fun _ h hact => h.act hact
  leave := fun h => h.answering
  last := fun _ h hlast => h.last hlast
  fade := by
    intro before after hfades h
    obtain ⟨deeds, hfading, hgrows⟩ := hfades.deeds
    exact h.told hfades.queue (fun deed hdeed => (hfading deed hdeed).mute) hgrows

/-- In every run in automatic mode: the segments published without a turn increase, and
the answers name them in their order, each at most once; all of them when the session
ends well with its consumer still there. The queue stays within its bound, and no turn
begins before every turn begun is reaped. -/
theorem admitted_answered_in_order (env : VoiceEnvironment) (sessionId : SessionId)
    (finalSilenceMs : Nat) (captureRecorder : Bool) (sequence : Nat) (signals : List LoopSignal) :
    let loop := run env (new sessionId finalSilenceMs .automatic captureRecorder sequence) signals
    (admissions loop.wire.journal).Pairwise (· < ·) ∧
    (responses loop.wire.journal).Sublist (admissions loop.wire.journal) ∧
    (∀ session, loop.course = .ended (.sessionEnded session) → loop.wire.isClosed = false →
      responses loop.wire.journal = admissions loop.wire.journal) ∧
    loop.automaticResponses.length ≤ maxPendingSegments ∧
    ∀ deeds identity, deeds ++ [.began identity] <+: loop.wire.journal → unreaped deeds = [] := by
  intro loop
  have hcoupled := coupled_new sessionId finalSilenceMs .automatic captureRecorder sequence
  have hnew : (new sessionId finalSilenceMs .automatic captureRecorder sequence).Admitting :=
    ⟨rfl, rfl, .nil, nofun, .refl _, fun _ => rfl, Nat.zero_le _⟩
  have haccounts : Accounted [] [] := ⟨rfl, trivial, by simp⟩
  obtain ⟨-, turns, haccounted⟩ :=
    lasting_accounts.run env signals (lasting_accounts.start hcoupled haccounts)
  have hlasts := lasting_admitting.start hcoupled hnew
  obtain ⟨-, hanswering⟩ := lasting_admitting.run env signals hlasts
  have hends := lasting_admitting.endsWell env signals hlasts fun _ hended => nomatch hended
  refine ⟨hanswering.increasing, hanswering.answered, ?_, hanswering.room, ?_⟩
  · -- What happens after the loop was told to stop neither publishes nor answers.
    intro session hended hopen
    obtain ⟨middle, hmiddle, hempty, hfades⟩ := hends session hended hopen
    obtain ⟨deeds, hfading, hgrows⟩ := hfades.deeds
    obtain ⟨hadmissions, hresponses⟩ := hgrows.mute fun deed hdeed => (hfading deed hdeed).mute
    have hcomplete := hmiddle.complete (hgrows.opened hopen)
    rw [hempty, map_nil, append_nil] at hcomplete
    rw [hresponses, hadmissions, hcomplete]
  · exact fun deeds identity hdeeds => haccounted.alone hdeeds

end VoiceLoop

end ConversationRuntime
