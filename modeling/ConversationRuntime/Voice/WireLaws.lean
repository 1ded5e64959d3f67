import ConversationRuntime.Voice.Wire

/-! # What programs do to the wire

A program on the wire makes calls of the outbox, lets time pass and adds to the
journal. Its laws say which deeds it adds and what its answer tells about the
channel.
-/

namespace ConversationRuntime

open Foundation Fallible Outbox List

namespace Outbox

/-- The loop passes texts that are not final to `publishPartial` only, and final
texts to `publishReliable` only. -/
def Call.IsProper : Call → Prop
  | .publishReliable event _ => event.partialSegment = none
  | .publishBestEffort event => event.partialSegment = none ∧ event.finalSegment = none
  | _ => True

theorem isClosed_foldl (calls : List Call) {outbox : Outbox} (h : outbox.isClosed = true) :
    (calls.foldl step outbox).isClosed = true := by
  induction calls generalizing outbox with
  | nil => exact h
  | cons call rest ih => exact ih (isClosed_step call h)

end Outbox

namespace Wire

def isClosed (wire : Wire) : Bool := wire.outbox.isClosed

/-- What became of the wire: these deeds were added, by proper calls. -/
structure Grows (deeds : List Deed) (before after : Wire) : Prop where
  journal : after.journal = before.journal ++ deeds
  clock : before.clockMs ≤ after.clockMs
  calls : ∃ calls, after.calls = before.calls ++ calls ∧
    after.outbox = calls.foldl Outbox.step before.outbox ∧ ∀ call ∈ calls, call.IsProper

namespace Grows

variable {deeds more : List Deed} {before middle after : Wire}

theorem refl (wire : Wire) : Grows [] wire wire :=
  ⟨(append_nil _).symm, le_rfl, [], (append_nil _).symm, rfl, forall_mem_nil _⟩

theorem trans (hfirst : Grows deeds before middle) (hsecond : Grows more middle after) :
    Grows (deeds ++ more) before after := by
  obtain ⟨firstCalls, hfirstCalls, hmiddle, hfirstProper⟩ := hfirst.calls
  obtain ⟨secondCalls, hsecondCalls, hafter, hsecondProper⟩ := hsecond.calls
  refine ⟨?_, hfirst.clock.trans hsecond.clock, firstCalls ++ secondCalls, ?_, ?_, ?_⟩
  · rw [hsecond.journal, hfirst.journal, append_assoc]
  · rw [hsecondCalls, hfirstCalls, append_assoc]
  · rw [foldl_append, ← hmiddle, hafter]
  · exact forall_mem_append.mpr ⟨hfirstProper, hsecondProper⟩

theorem closed (h : Grows deeds before after) (hclosed : before.isClosed = true) :
    after.isClosed = true := by
  obtain ⟨calls, -, hafter, -⟩ := h.calls
  rw [isClosed, hafter]
  exact isClosed_foldl calls hclosed

/-- A channel open in the end was open before. -/
theorem opened (h : Grows deeds before after) (hopen : after.isClosed = false) :
    before.isClosed = false := by
  cases hbefore : before.isClosed with
  | false => rfl
  | true => rw [← hopen, h.closed hbefore]

/-- Growing without a deed in between does not show. -/
theorem after_quiet (hquiet : Grows [] before middle) (h : Grows deeds middle after) :
    Grows deeds before after := hquiet.trans h

theorem then_quiet (h : Grows deeds before middle) (hquiet : Grows [] middle after) :
    Grows deeds before after := by
  have htrans := h.trans hquiet
  rwa [append_nil] at htrans

end Grows

section Laws

variable (env : VoiceEnvironment) (wire : Wire)

theorem grows_tick : Grows [] wire { wire with tick := wire.tick + 1 } :=
  ⟨(append_nil _).symm, le_rfl, [], (append_nil _).symm, rfl, forall_mem_nil _⟩

theorem grows_note (deed : Deed) :
    Grows [deed] wire { wire with journal := wire.journal ++ [deed] } :=
  ⟨rfl, le_rfl, [], (append_nil _).symm, rfl, forall_mem_nil _⟩

theorem grows_clock (elapsedMs : Nat) :
    Grows [] wire { wire with clockMs := wire.clockMs + elapsedMs } :=
  ⟨(append_nil _).symm, Nat.le_add_right _ _, [], (append_nil _).symm, rfl, forall_mem_nil _⟩

theorem grows_make (call : Call) (hproper : call.IsProper) : Grows [] wire (make call wire).2 :=
  ⟨(append_nil _).symm, le_rfl, [call], rfl, rfl, fun _ hcall =>
    mem_singleton.mp hcall ▸ hproper⟩

theorem attend_law : ∃ after, attend env wire = (.ok (), after) ∧ Grows [] wire after :=
  ⟨_, rfl, (grows_tick wire).after_quiet (grows_make _ _ trivial)⟩

theorem nowMs_law : ∃ now after, nowMs env wire = (.ok now, after) ∧ Grows [] wire after ∧
    now = after.clockMs :=
  ⟨_, _, rfl, (grows_tick wire).after_quiet (grows_clock _ _), rfl⟩

/-- What a publication tells: it is noted with whether the channel was open, a
channel found closed answers so, and failure means that the channel is closed. -/
structure Publishes (event : VoiceSessionEvent) (isOpen : Bool) (before after : Wire) : Prop where
  grows : ∃ wasOpen, Grows [.passed event wasOpen] before after ∧
    (before.isClosed = true → wasOpen = false) ∧ (wasOpen = false → isOpen = false)
  closed : isOpen = false → after.isClosed = true

variable {event : VoiceSessionEvent}

variable {before after : Wire}

/-- What is noted as passed to an open channel found it open. -/
theorem Publishes.noted {isOpen : Bool} (h : Publishes event isOpen before after) :
    ∃ wasOpen, Grows [.passed event wasOpen] before after ∧
      (wasOpen = true → before.isClosed = false) := by
  obtain ⟨wasOpen, hgrows, hbefore, -⟩ := h.grows
  refine ⟨wasOpen, hgrows, ?_⟩
  intro hwas
  cases hclosed : before.isClosed with
  | false => rfl
  | true => cases hwas.symm.trans (hbefore hclosed)

/-- A publication that succeeded found the channel open. -/
theorem Publishes.told {event : VoiceSessionEvent}
    (h : Publishes event true before after) : Grows [.passed event true] before after := by
  obtain ⟨wasOpen, hgrows, -, hwas⟩ := h.grows
  cases wasOpen with
  | true => exact hgrows
  | false => exact absurd (hwas rfl) (by decide)

theorem Publishes.opened (h : Publishes event true before after) :
    before.isClosed = false := by
  obtain ⟨wasOpen, -, hbefore, hwas⟩ := h.grows
  cases hclosed : before.isClosed with
  | false => rfl
  | true => exact absurd (hwas (hbefore hclosed)) (by decide)

/-- A publication is noted and answered; under a timeout it may be dropped. -/
theorem publishReliable_cancellable_law (cancellable : Bool) (event : VoiceSessionEvent)
    (hproper : event.partialSegment = none) :
    ∃ result after, publishReliable env cancellable event wire = (result, after) ∧
      ((result = .error .dropped ∧ cancellable = true ∧
        ∃ wasOpen, Grows [.passed event wasOpen] wire after) ∨
      ∃ isOpen, result = .ok isOpen ∧ Publishes event isOpen wire after) := by
  obtain ⟨attended, hattend, hattended⟩ := attend_law env wire
  let asked : Wire := { attended with tick := attended.tick + 1 }
  let awaited := (env.answers attended.tick).sending.within cancellable
  let noted : Wire :=
    { asked with journal := asked.journal ++ [.passed event !asked.outbox.isClosed] }
  have hgrows : Grows [.passed event !asked.outbox.isClosed] wire
      (make (.publishReliable event awaited) noted).2 := by
    apply hattended.after_quiet
    apply (grows_tick attended).after_quiet
    exact (grows_note asked _).then_quiet (grows_make noted _ hproper)
  have hrun : publishReliable env cancellable event wire =
      unlessDropped (noted.outbox.publishReliable event awaited).1
        (make (.publishReliable event awaited) noted).2 := by
    rw [publishReliable, bind_of_ok hattend]
    rfl
  obtain ⟨-, hclosed, hdropped⟩ := publishReliable_effect noted.outbox event awaited
  cases hresult : (noted.outbox.publishReliable event awaited).1 with
  | none =>
    rw [hresult] at hrun
    exact ⟨_, _, hrun, .inl ⟨rfl, Awaited.cancellable_of_dropped (hdropped hresult), _, hgrows⟩⟩
  | some isOpen =>
    rw [hresult] at hrun
    refine ⟨_, _, hrun, .inr ⟨isOpen, rfl, ⟨_, hgrows, ?_, ?_⟩, ?_⟩⟩
    · intro hbefore
      have hasked := (hattended.then_quiet (grows_tick attended)).closed hbefore
      simpa [isClosed] using hasked
    · intro hwas
      have hasked : noted.outbox.isClosed = true := by simpa [noted] using hwas
      rw [(publishReliable_of_closed event awaited hasked).1] at hresult
      exact (Option.some.inj hresult).symm
    · intro hfailed
      rw [hfailed] at hresult
      exact hclosed hresult

theorem publishReliable_law (hproper : event.partialSegment = none) :
    ∃ isOpen after, publishReliable env false event wire = (.ok isOpen, after) ∧
      Publishes event isOpen wire after := by
  obtain ⟨result, after, hrun, hdropped | ⟨isOpen, hresult, hpublishes⟩⟩ :=
    publishReliable_cancellable_law env wire false event hproper
  · exact absurd hdropped.2.1 (by decide)
  · exact ⟨isOpen, after, hresult ▸ hrun, hpublishes⟩

/-- The program notes nothing, and an answer that reports failure finds the channel closed. -/
def Probes {α : Type} (program : Fallible Wire Stop α) (failed : α → Prop) (wire : Wire) : Prop :=
  ∃ answer after, program wire = (.ok answer, after) ∧ Grows [] wire after ∧
    (failed answer → after.isClosed = true)

theorem publishBestEffort_law (htext : event.partialSegment = none)
    (hfinal : event.finalSegment = none) :
    Probes (publishBestEffort env event) (· = false) wire := by
  obtain ⟨attended, hattend, hattended⟩ := attend_law env wire
  refine ⟨_, _, bind_of_ok hattend, ?_, ?_⟩
  · exact hattended.after_quiet (grows_make attended _ ⟨htext, hfinal⟩)
  · exact (publishBestEffort_effect _ _).2

theorem publishPartial_law (segmentId : Nat) (text : String) :
    Probes (publishPartial env segmentId text) (· = false) wire := by
  obtain ⟨attended, hattend, hattended⟩ := attend_law env wire
  refine ⟨_, _, bind_of_ok hattend, ?_, ?_⟩
  · exact hattended.after_quiet (grows_make attended _ trivial)
  · exact (publishPartial_effect _ _ _).2

theorem deliverPendingEvent_law : Probes (deliverPendingEvent env) (· = false) wire :=
  ⟨_, _, rfl, (grows_tick wire).after_quiet (grows_make _ _ trivial), (deliver_effect _ _).2⟩

section Flushing

variable {α : Type} {failed : α → Prop}

theorem probes_pure {answer : α} (h : failed answer → wire.isClosed = true) :
    Probes (pure answer) failed wire := ⟨answer, wire, rfl, .refl wire, h⟩

/-- The consumer is attended to, a call is made, and the rest goes by its result. -/
theorem probes_call (call : Call) (hproper : call.IsProper)
    {rest : call.Result → Fallible Wire Stop α} (h : ∀ attended : Wire,
      Probes (rest (attended.outbox.serve call).1) failed (make call attended).2) :
    Probes (attend env >>= fun _ => make call >>= rest) failed wire := by
  obtain ⟨attended, hattend, hattended⟩ := attend_law env wire
  obtain ⟨answer, after, hrest, hafter, hclosed⟩ := h attended
  refine ⟨answer, after, (bind_of_ok hattend).trans hrest, ?_, hclosed⟩
  exact hattended.after_quiet ((grows_make attended _ hproper).after_quiet hafter)

end Flushing

theorem flushReliables_law (count : Nat) :
    Probes (flushReliables env count) (· = some false) wire := by
  induction count generalizing wire with
  | zero => exact probes_pure wire fun h => by cases h
  | succ count ih =>
    refine probes_call env wire .flushReliable trivial fun attended => ?_
    have hclosed := (flushReliable_effect attended.outbox).2
    simp only [serve]
    cases hanswer : attended.outbox.flushReliable.1 with
    | none => exact probes_pure _ (by rintro ⟨⟩)
    | some answer =>
      cases answer with
      | sent => exact ih _
      | full => exact probes_pure _ (by rintro ⟨⟩)
      | closed => exact probes_pure _ fun _ => hclosed hanswer

theorem flushPartials_law (count : Nat) : Probes (flushPartials env count) (· = false) wire := by
  induction count generalizing wire with
  | zero => exact probes_pure wire nofun
  | succ count ih =>
    refine probes_call env wire .flushPartial trivial fun attended => ?_
    have hclosed := (flushPartial_effect attended.outbox).2
    simp only [serve]
    cases hanswer : attended.outbox.flushPartial.1 with
    | none => exact probes_pure _ nofun
    | some answer =>
      cases answer with
      | sent => exact ih _
      | full => exact probes_pure _ nofun
      | closed => exact probes_pure _ fun _ => hclosed hanswer

theorem flushPendingEvents_law : Probes (flushPendingEvents env) (· = false) wire := by
  obtain ⟨answer, flushed, hflush, hflushed, hclosed⟩ :=
    flushReliables_law env wire wire.outbox.reliableEvents.length
  cases answer with
  | some isOpen =>
    exact ⟨isOpen, flushed, bind_of_ok hflush, hflushed, fun h => hclosed (congrArg some h)⟩
  | none =>
    obtain ⟨isOpen, after, hrest, hafter, hshut⟩ :=
      flushPartials_law env flushed wire.outbox.partials.keys.length
    exact ⟨isOpen, after, (bind_of_ok hflush).trans hrest, hflushed.after_quiet hafter, hshut⟩

end Laws

end Wire

end ConversationRuntime
