import ConversationRuntime.Voice.Endings

/-! # The loop and its turn

While the loop waits for signals it reads a turn exactly when it is responding.
Two of its errors speak of states that cannot be reached, and no turn is started
before the one before it is reaped.
-/

namespace ConversationRuntime

open Foundation List Deed

/-- The turns begun and not reaped, after one more deed. -/
def reap (turns : List TurnIdentity) : Deed → List TurnIdentity
  | .began identity => turns ++ [identity]
  | .reaped identity => turns.erase identity
  | _ => turns

def unreaped (journal : List Deed) : List TurnIdentity := journal.foldl reap []

/-- A deed that leaves at most one turn unreaped. -/
def LeavesOne (turns : List TurnIdentity) (deed : Deed) : Prop := (reap turns deed).length ≤ 1

/-- The journal leaves `turns` unreaped, never left more than one, and reports no fault. -/
structure Accounted (journal : List Deed) (turns : List TurnIdentity) : Prop where
  open_turns : unreaped journal = turns
  single : Along reap LeavesOne [] journal
  faultless : ∀ fault, .faulted fault ∉ journal

namespace Accounted

variable {journal deeds : List Deed} {turns turns' : List TurnIdentity}
  (h : Accounted journal turns)

include h

theorem append (hsingle : Along reap LeavesOne turns deeds)
    (hturns : deeds.foldl reap turns = turns') (hfaultless : ∀ fault, .faulted fault ∉ deeds) :
    Accounted (journal ++ deeds) turns' := by
  have hopen : journal.foldl reap [] = turns := h.open_turns
  refine ⟨?_, h.single.append ?_, ?_⟩
  · rw [unreaped, foldl_append, hopen, hturns]
  · rw [hopen]
    exact hsingle
  · intro fault hmem
    exact (mem_append.mp hmem).elim (h.faultless fault) (hfaultless fault)

theorem length_le : turns.length ≤ 1 := by
  rw [← h.open_turns]
  have hstep : ∀ (turns : List TurnIdentity) deed, LeavesOne turns deed → turns.length ≤ 1 →
      (reap turns deed).length ≤ 1 := fun _ _ hone _ => hone
  have hkept := h.single.kept hstep (Nat.zero_le 1)
  exact hkept

/-- Every part of an account from its start is one. -/
theorem of_isPrefix (hdeeds : deeds <+: journal) : Accounted deeds (unreaped deeds) := by
  obtain ⟨later, hjournal⟩ := hdeeds
  refine ⟨rfl, ?_, ?_⟩
  · have hsingle := h.single
    rw [← hjournal] at hsingle
    exact hsingle.left
  · intro fault hmem
    apply h.faultless fault
    rw [← hjournal]
    exact mem_append_left later hmem

/-- When a turn begins, every turn before it is reaped. -/
theorem alone {identity : TurnIdentity} (hdeeds : deeds ++ [.began identity] <+: journal) :
    unreaped deeds = [] := by
  have hone := (h.of_isPrefix hdeeds).length_le
  rw [unreaped, foldl_append] at hone
  simp only [foldl_cons, foldl_nil, reap, length_append, length_singleton] at hone
  exact eq_nil_of_length_eq_zero (Nat.le_zero.mp (Nat.le_of_succ_le_succ hone))

end Accounted

/-- The deed neither begins nor reaps a turn, and reports no fault. -/
def Deed.IsNeutral : Deed → Prop
  | .began _ | .reaped _ | .faulted _ => False
  | _ => True

theorem Deed.IsPlain.neutral {deed : Deed} (h : deed.IsPlain) : deed.IsNeutral := by
  cases deed <;> trivial

theorem reap_of_isNeutral {deed : Deed} (turns : List TurnIdentity) (h : deed.IsNeutral) :
    reap turns deed = turns := by
  cases deed <;> first | rfl | exact absurd h not_false

section Neutral

variable {neutral more : List Deed} {journal : List Deed} {turns : List TurnIdentity}
  {identity : TurnIdentity}

theorem Accounted.told (h : Accounted journal turns) (hneutral : ∀ deed ∈ neutral, deed.IsNeutral) :
    Accounted (journal ++ neutral) turns := by
  have hidle : ∀ deed ∈ neutral, reap turns deed = turns :=
    fun deed hdeed => reap_of_isNeutral turns (hneutral deed hdeed)
  refine h.append (.of_idle hidle fun deed hdeed => ?_) (foldl_idle hidle)
    fun fault hmem => hneutral (.faulted fault) hmem
  rw [LeavesOne, hidle deed hdeed]
  exact h.length_le

/-- A turn may begin when none is left unreaped. -/
theorem Accounted.began (h : Accounted journal []) (identity : TurnIdentity) :
    Accounted (journal ++ [.began identity]) [identity] :=
  h.append ⟨le_rfl, trivial⟩ rfl (by simp)

/-- Reaping the only turn leaves none. -/
theorem Accounted.reaped (h : Accounted journal [identity])
    (hneutral : ∀ deed ∈ neutral ++ more, deed.IsNeutral) :
    Accounted (journal ++ (neutral ++ .reaped identity :: more)) [] := by
  obtain ⟨hbefore, hafter⟩ := forall_mem_append.mp hneutral
  have hreap : reap [identity] (.reaped identity) = [] := by simp [reap]
  have hreaped : Accounted (journal ++ neutral ++ [.reaped identity]) [] := by
    refine (h.told hbefore).append ⟨?_, trivial⟩ hreap (by simp)
    rw [LeavesOne, hreap]
    exact Nat.zero_le 1
  simpa using hreaped.told hafter

end Neutral

namespace VoiceLoop

/-- Inside the loop the turn it reads is the one not reaped. -/
def Accounts (loop : VoiceLoop) : Prop := Accounted loop.wire.journal loop.turnEvents.toList

section Moves

variable {before after : VoiceLoop} {identity : TurnIdentity} {neutral more : List Deed}

section

variable (h : before.Accounts)

include h

namespace Accounts

/-- Deeds that concern no turn. -/
theorem told (hturn : after.turnEvents = before.turnEvents)
    (hneutral : ∀ deed ∈ neutral, deed.IsNeutral) (hgrows : before.wire.Grows neutral after.wire) :
    after.Accounts := by
  rw [Accounts, hturn, hgrows.journal]
  exact .told h hneutral

variable (neutral) in
/-- The turn that is read is reaped. -/
theorem reaped (hbefore : before.turnEvents = some identity)
    (hafter : after.turnEvents = none) (hneutral : ∀ deed ∈ neutral ++ more, deed.IsNeutral)
    (hgrows : before.wire.Grows (neutral ++ .reaped identity :: more) after.wire) :
    after.Accounts := by
  rw [Accounts, hbefore] at h
  rw [Accounts, hafter, hgrows.journal]
  exact .reaped h hneutral

/-- A turn begins and is read from then on. -/
theorem began (hbefore : before.turnEvents = none)
    (hafter : after.turnEvents = some identity) (hneutral : ∀ deed ∈ neutral, deed.IsNeutral)
    (hgrows : before.wire.Grows (.began identity :: neutral) after.wire) : after.Accounts := by
  rw [Accounts, hbefore] at h
  rw [Accounts, hafter, hgrows.journal, append_cons]
  exact (h.began identity).told hneutral

variable (neutral) in
/-- A turn begins and is reaped before it is read. -/
theorem abandoned (hbefore : before.turnEvents = none) (hafter : after.turnEvents = none)
    (hneutral : ∀ deed ∈ neutral ++ more, deed.IsNeutral)
    (hgrows : before.wire.Grows (.began identity :: neutral ++ .reaped identity :: more)
      after.wire) :
    after.Accounts := by
  rw [Accounts, hbefore] at h
  rw [Accounts, hafter, hgrows.journal, cons_append, append_cons]
  exact (h.began identity).reaped hneutral

theorem silences (hcoupled : before.Coupled)
    (hsilences : Silences before after identity) : after.Accounts := by
  have hturn : before.turnEvents = some identity := by
    rw [hcoupled.turn, hsilences.state]
    rfl
  obtain ⟨plain, more, hplain, hgrows⟩ := hsilences.deeds
  obtain ⟨wire, rfl⟩ := hsilences.change
  refine h.reaped _ hturn rfl (forall_mem_cons.mpr ⟨trivial, ?_⟩) hgrows
  exact fun deed hdeed => (hplain deed hdeed).neutral

theorem move (hcoupled : before.Coupled) (hmove : Move before after) : after.Accounts := by
  have hresponding : ∀ {identity}, before.state = .responding identity →
      before.turnEvents = some identity := by
    intro identity hstate
    rw [hcoupled.turn, hstate]
    rfl
  cases hmove with
  | quiet hplain hgrows => exact h.told rfl (fun deed hdeed => (hplain deed hdeed).neutral) hgrows
  | captured | spoken | discontinued | fallsDue | passedOver | parked => exact h
  | fellSilent hgrows | fired _ _ _ hgrows => exact h.told rfl (by simp) hgrows
  | recovered hsilent =>
    rcases hsilent with rfl | ⟨identity, hsilences⟩
    · exact h
    · have hsilent := h.silences hcoupled hsilences
      exact hsilent
  | silenced _ hsilences => exact h.silences hcoupled hsilences
  | ended hstate _ hplain hgrows | endedDue hstate hplain hgrows =>
    have hneutral : ∀ deed ∈ _, IsNeutral deed := fun deed hdeed => (hplain deed hdeed).neutral
    exact h.reaped [] (hresponding hstate) rfl hneutral hgrows
  | @expired segmentId rest wasOpen wire horder hgrows =>
    refine h.told rfl ?_ hgrows
    unfold expiryDeeds
    split <;> simp [IsNeutral]
  | registered _ _ hgrows | skipped _ _ hgrows | authorized _ hgrows | admitted _ _ _ hgrows
  | admittedInVain _ _ _ hgrows | reported _ _ _ hgrows | reportedInVain _ _ _ _ hgrows =>
    exact h.told rfl (by simp [IsNeutral]) hgrows
  | responded hidle _ _ _ hgrows | answered hidle _ _ hgrows =>
    exact h.began hidle.2 rfl (by simp [IsNeutral]) hgrows
  | spokeUp hidle _ hgrows => exact h.began hidle.2 rfl (by simp [IsNeutral]) hgrows
  | respondedInVain hidle _ _ _ _ hgrows =>
    exact h.abandoned [_, _] hidle.2 hidle.2 (by simp [IsNeutral]) hgrows
  | spokeInVain hidle _ _ hgrows =>
    exact h.abandoned [_] hidle.2 hidle.2 (by simp [IsNeutral]) hgrows

theorem act (hcoupled : before.Coupled) (hact : Act before after) : after.Accounts := by
  rcases hact with hmove | ⟨signal, hturn⟩
  · exact h.move hcoupled hmove
  · cases hturn with
    | heard _ _ _ hgrows => exact h.told rfl (by simp) hgrows
    | silenced hsilences => exact h.silences hcoupled hsilences

theorem last (hlast : Last before after) : after.Accounts := by
  cases hlast with
  | heard => exact h
  | streamEnded hturn hgrows => exact h.reaped [] hturn rfl (by simp) hgrows
  | cutShort hturn hplain hgrows =>
    have hneutral : ∀ deed ∈ _, IsNeutral deed := fun deed hdeed => (hplain deed hdeed).neutral
    exact h.reaped [] hturn rfl hneutral hgrows
  | overflowed _ _ hgrows | unanswered _ hgrows =>
    exact h.told rfl (by simp [IsNeutral]) hgrows
  | answeredInVain hidle _ _ _ hgrows hafter =>
    subst hafter
    exact h.began hidle.2 rfl (by simp [IsNeutral]) hgrows
  | abandoned hidle _ _ _ hgrows =>
    exact h.abandoned [_] hidle.2 hidle.2 (by simp [IsNeutral]) hgrows

end Accounts

end

/-- When the loop has left, it still owes at most one turn. -/
def Owes (loop : VoiceLoop) : Prop := ∃ turns, Accounted loop.wire.journal turns

variable {turns : List TurnIdentity}

theorem length_reap_of_isFading {deed : Deed} (h : deed.IsFading) :
    (reap turns deed).length ≤ turns.length := by
  cases deed with
  | began => exact absurd h not_false
  | reaped identity => exact length_erase_le
  | _ => exact le_rfl

/-- What may still happen after the loop begins no turn. -/
theorem Accounted.fades {journal deeds : List Deed} (h : Accounted journal turns)
    (hfading : ∀ deed ∈ deeds, deed.IsFading) : ∃ turns', Accounted (journal ++ deeds) turns' := by
  induction deeds generalizing journal turns with
  | nil =>
    rw [append_nil]
    exact ⟨turns, h⟩
  | cons deed rest ih =>
    have hone : ∃ turns', Accounted (journal ++ [deed]) turns' := by
      have hdeed := hfading deed mem_cons_self
      refine ⟨reap turns deed, h.append ⟨?_, trivial⟩ rfl ?_⟩
      · exact (length_reap_of_isFading hdeed).trans h.length_le
      · intro fault hmem
        rw [← mem_singleton.mp hmem] at hdeed
        exact hdeed
    obtain ⟨turns', hnext⟩ := hone
    rw [append_cons]
    exact ih hnext fun other hother => hfading other (mem_cons_of_mem deed hother)

end Moves

theorem lasting_accounts : Lasting Accounts Owes where
  act := fun hcoupled h hact => h.act hcoupled hact
  leave := fun h => ⟨_, h⟩
  last := fun _ h hlast => ⟨_, h.last hlast⟩
  fade := by
    rintro before after hfades ⟨turns, h⟩
    obtain ⟨deeds, hfading, hgrows⟩ := hfades.deeds
    rw [Owes, hgrows.journal]
    exact Accounted.fades h hfading

theorem coupled_new (sessionId : SessionId) (finalSilenceMs : Nat)
    (responseMode : VoiceResponseMode)
    (captureRecorder : Bool) (sequence : Nat) :
    (new sessionId finalSilenceMs responseMode captureRecorder sequence).Coupled :=
  ⟨rfl, nofun, nofun, nofun⟩

/-- In every run: whenever the loop waits for a signal it reads a turn exactly while it
responds, and follows the playback of that turn only; the two errors that speak of a
turn event without a generation and of a transcript without a segment do not occur;
and at no time is more than one turn begun and not reaped. -/
theorem turn_coupled (env : VoiceEnvironment) (sessionId : SessionId) (finalSilenceMs : Nat)
    (responseMode : VoiceResponseMode) (captureRecorder : Bool) (sequence : Nat)
    (signals : List LoopSignal) :
    let loop := run env (new sessionId finalSilenceMs responseMode captureRecorder sequence) signals
    (loop.course = .running →
      (loop.turnEvents.isSome ↔ ∃ identity, loop.state = .responding identity) ∧
      ∀ lifecycle, loop.playback = some lifecycle →
        ∃ identity, loop.state = .responding identity ∧
          lifecycle.generationId = identity.generationId) ∧
    (∀ fault, .faulted fault ∉ loop.wire.journal) ∧
    ∀ deeds, deeds <+: loop.wire.journal → (unreaped deeds).length ≤ 1 := by
  intro loop
  have hnew : Accounted [] [] := ⟨rfl, trivial, by simp⟩
  have hcoupled := coupled_new sessionId finalSilenceMs responseMode captureRecorder sequence
  obtain ⟨hinside, turns, haccounted⟩ :=
    lasting_accounts.run env signals (lasting_accounts.start hcoupled hnew)
  refine ⟨?_, haccounted.faultless, ?_⟩
  · intro hrunning
    have hcoupled := (hinside hrunning).1
    refine ⟨?_, hcoupled.playback⟩
    constructor
    · intro hsome
      obtain ⟨identity, hturn⟩ := Option.isSome_iff_exists.mp hsome
      exact ⟨identity, hcoupled.responding hturn⟩
    · rintro ⟨identity, hstate⟩
      rw [hcoupled.turn, hstate]
      rfl
  · exact fun deeds hdeeds => (haccounted.of_isPrefix hdeeds).length_le

end VoiceLoop

end ConversationRuntime
