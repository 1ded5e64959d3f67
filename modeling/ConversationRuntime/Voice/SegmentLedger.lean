import ConversationRuntime.Voice.Coupling

/-! # The ledger of gated segments

Under an external gate a final text is registered and waits to be authorized or
skipped. The journal alone says where every segment stands; the loop's own map agrees
with it, so that no registration is answered twice and an authorization that succeeds
names the turn that was started. The order in which segments expire lists the latest
registrations; it has the keys of the map as long as no segment is registered again
while it is retained.
-/

namespace ConversationRuntime

open Foundation List PendingSegment Function

/-- Where a segment stands since it was last registered. -/
inductive Standing where
  | unregistered
  | waiting
  | answered (turn : Option TurnId)
deriving DecidableEq

/-- What the deed asks of a segment: an answer asks that it waits, and a successful
authorization that the turn it names was started for it. -/
@[simp] def Deed.demand : Deed → Option (Nat × Standing)
  | .responded segmentId _ => some (segmentId, .waiting)
  | .passed (.responseSkipped _ segmentId _) true => some (segmentId, .waiting)
  | .authorized segmentId (.ok turnId) => some (segmentId, .answered (some turnId))
  | _ => none

/-- Where the deed leaves a segment. -/
@[simp] def Deed.entry : Deed → Option (Nat × Standing)
  | .registered segmentId => some (segmentId, .waiting)
  | .responded segmentId turnId => some (segmentId, .answered (some turnId))
  | .passed (.responseSkipped _ segmentId _) true => some (segmentId, .answered none)
  | _ => none

def Permits (ledger : Nat → Standing) (deed : Deed) : Prop :=
  ∀ demand ∈ deed.demand, ledger demand.1 = demand.2

def settle (ledger : Nat → Standing) (deed : Deed) : Nat → Standing :=
  match deed.entry with
  | some (segmentId, standing) => Function.update ledger segmentId standing
  | none => ledger

def unregistered : Nat → Standing := fun _ => .unregistered

def standing (journal : List Deed) : Nat → Standing := journal.foldl settle unregistered

/-- The deed concerns no segment. -/
@[simp] def Deed.IsAside (deed : Deed) : Prop := deed.demand = none ∧ deed.entry = none

theorem Deed.IsPlain.aside {deed : Deed} (h : deed.IsPlain) : deed.IsAside := by
  cases deed with
  | passed event wasOpen =>
    cases event with
    | responseSkipped => exact absurd h not_false
    | _ => exact ⟨rfl, rfl⟩
  | authorized segmentId result =>
    cases result with
    | ok => exact absurd h not_false
    | error => exact ⟨rfl, rfl⟩
  | registered | responded => exact absurd h not_false
  | _ => exact ⟨rfl, rfl⟩

theorem Deed.IsFading.aside {deed : Deed} (h : deed.IsFading) : deed.IsAside := by
  cases deed with
  | interrupted | reaped => exact ⟨rfl, rfl⟩
  | _ => exact Deed.IsPlain.aside h

section Aside

variable {deeds : List Deed}

theorem settle_aside (ledger : Nat → Standing) (h : ∀ deed ∈ deeds, deed.IsAside) :
    ∀ deed ∈ deeds, settle ledger deed = ledger := by
  intro deed hdeed
  rw [settle, (h deed hdeed).2]

theorem along_aside (ledger : Nat → Standing) (h : ∀ deed ∈ deeds, deed.IsAside) :
    Along settle Permits ledger deeds := by
  refine .of_idle (settle_aside ledger h) fun deed hdeed => ?_
  rw [Permits, (h deed hdeed).1]
  exact nofun

end Aside

/-! ## The order of registration -/

@[simp] def Deed.registration : Deed → Option Nat
  | .registered segmentId => some segmentId
  | _ => none

/-- The segments registered, latest first. -/
def registrations (journal : List Deed) : List Nat := (journal.filterMap Deed.registration).reverse

@[simp] theorem registrations_append (journal deeds : List Deed) :
    registrations (journal ++ deeds) = registrations deeds ++ registrations journal := by
  rw [registrations, filterMap_append, reverse_append]
  rfl

theorem registrations_aside {deeds : List Deed} (h : ∀ deed ∈ deeds, deed.IsAside) :
    registrations deeds = [] := by
  have hnone : deeds.filterMap Deed.registration = [] := by
    apply filterMap_eq_nil_iff.mpr
    intro deed hdeed
    have hentry := (h deed hdeed).2
    cases deed with
    | registered => exact nomatch hentry
    | _ => rfl
  rw [registrations, hnone, reverse_nil]

/-- No segment, the latest first, is one of the registrations retained beside it. -/
def Spaced : List Nat → Prop
  | [] => True
  | segmentId :: earlier => segmentId ∉ earlier.take (maxPendingSegments - 1) ∧ Spaced earlier

instance Spaced.decidable : (segments : List Nat) → Decidable (Spaced segments)
  | [] => inferInstanceAs (Decidable True)
  | segmentId :: earlier =>
    have := Spaced.decidable earlier
    inferInstanceAs (Decidable (segmentId ∉ earlier.take (maxPendingSegments - 1) ∧ _))

/-- The order of expiry, its map of segments, and the registrations behind both. -/
structure Retains (order : List Nat) (segments : AList fun _ : Nat => PendingSegment)
    (registered : List Nat) : Prop where
  room : order.length ≤ maxPendingSegments
  recent : order.reverse <+: registered
  kept : Spaced registered → order.Nodup ∧ ∀ segmentId, segmentId ∈ order ↔ segmentId ∈ segments

namespace Retains

variable {order rest registered : List Nat} {segments : AList fun _ : Nat => PendingSegment}
  {segmentId : Nat} {segment entry : PendingSegment}

variable (segment) in
/-- A segment that is retained changes its entry only. -/
theorem rewritten (h : Retains order segments registered)
    (hentry : segments.lookup segmentId = some entry) :
    Retains order (segments.insert segmentId segment) registered := by
  refine ⟨h.room, h.recent, ?_⟩
  intro hspaced
  obtain ⟨hnodup, hkeys⟩ := h.kept hspaced
  refine ⟨hnodup, ?_⟩
  intro other
  rw [AList.mem_insert, hkeys]
  constructor
  · exact .inr
  · rintro (rfl | hmem)
    · exact AList.lookup_isSome.mp (by rw [hentry]; rfl)
    · exact hmem

/-- The oldest segment expires. -/
theorem expired (h : Retains (segmentId :: rest) segments registered) :
    Retains rest (segments.erase segmentId) registered := by
  refine ⟨(Nat.le_succ _).trans h.room, ?_, ?_⟩
  · have hrecent := h.recent
    rw [reverse_cons] at hrecent
    exact (prefix_append _ _).trans hrecent
  · intro hspaced
    obtain ⟨hnodup, hkeys⟩ := h.kept hspaced
    obtain ⟨hnew, hrest⟩ := nodup_cons.mp hnodup
    refine ⟨hrest, ?_⟩
    intro other
    rw [AList.mem_erase, ← hkeys, mem_cons]
    constructor
    · intro hmem
      refine ⟨?_, .inr hmem⟩
      rintro rfl
      exact hnew hmem
    · rintro ⟨hne, rfl | hmem⟩
      · exact absurd rfl hne
      · exact hmem

/-- One more segment is registered where there is room for it. -/
theorem registered_next (h : Retains order segments registered)
    (hroom : order.length < maxPendingSegments) :
    Retains (order ++ [segmentId]) (segments.insert segmentId segment)
      (segmentId :: registered) := by
  refine ⟨?_, ?_, ?_⟩
  · simpa using hroom
  · rw [reverse_append]
    exact cons_prefix_cons.mpr ⟨rfl, h.recent⟩
  · rintro ⟨hnew, hspaced⟩
    obtain ⟨hnodup, hkeys⟩ := h.kept hspaced
    -- What is retained is among the registrations that the new one must differ from.
    have habsent : segmentId ∉ order := by
      intro hmem
      apply hnew
      have htaken : order.reverse <+: registered.take (maxPendingSegments - 1) := by
        apply prefix_take_iff.mpr
        exact ⟨h.recent, by rw [length_reverse]; exact Nat.le_pred_of_lt hroom⟩
      exact htaken.subset (mem_reverse.mpr hmem)
    refine ⟨?_, ?_⟩
    · rw [nodup_append_comm]
      exact nodup_cons.mpr ⟨habsent, hnodup⟩
    · intro other
      rw [AList.mem_insert, ← hkeys, mem_append, mem_singleton, or_comm]

end Retains

/-- What the map says of a segment agrees with the journal; of one that waits it may
be behind when the consumer is gone. -/
def PendingSegment.Stands (isClosed : Bool) : PendingSegment → Standing → Prop
  | .pending _, standing => isClosed = false → standing = .waiting
  | .authorized turnId, standing => standing = .answered (some turnId)
  | .skipped, _ => True

namespace VoiceLoop

/-- Under an external gate the loop's map and order agree with the journal. -/
structure Ledgered (loop : VoiceLoop) : Prop where
  mode : loop.responseMode = .externalGate
  unqueued : loop.automaticResponses = []
  permitted : Along settle Permits unregistered loop.wire.journal
  entries : ∀ segmentId entry, loop.pendingSegments.lookup segmentId = some entry →
    entry.Stands loop.wire.isClosed (standing loop.wire.journal segmentId)
  retained : Retains loop.pendingOrder loop.pendingSegments (registrations loop.wire.journal)

namespace Ledgered

variable {before after : VoiceLoop} {deeds : List Deed}

/-- An entry that is not touched goes on agreeing with the journal. -/
theorem stands_later {entry : PendingSegment} {standing : Standing} {wire wire' : Wire}
    (hgrows : wire.Grows deeds wire') (h : entry.Stands wire.isClosed standing) :
    entry.Stands wire'.isClosed standing := by
  cases entry with
  | pending => exact fun hopen => h (hgrows.opened hopen)
  | authorized => exact h
  | skipped => trivial

theorem standing_append (journal deeds : List Deed) :
    standing (journal ++ deeds) = deeds.foldl settle (standing journal) := foldl_append

/-- Nothing that concerns segments. -/
theorem told (h : before.Ledgered) (hmode : after.responseMode = before.responseMode)
    (hqueue : after.automaticResponses = before.automaticResponses ∨ after.automaticResponses = [])
    (hsegments : after.pendingSegments = before.pendingSegments)
    (horder : after.pendingOrder = before.pendingOrder) (haside : ∀ deed ∈ deeds, deed.IsAside)
    (hgrows : before.wire.Grows deeds after.wire) : after.Ledgered := by
  refine ⟨hmode.trans h.mode, ?_, ?_, ?_, ?_⟩
  · rcases hqueue with hsame | hempty
    · exact hsame.trans h.unqueued
    · exact hempty
  · rw [hgrows.journal]
    exact h.permitted.append (along_aside _ haside)
  · intro segmentId entry hentry
    rw [hsegments] at hentry
    rw [hgrows.journal, standing_append, foldl_idle (settle_aside _ haside)]
    exact stands_later hgrows (h.entries segmentId entry hentry)
  · rw [hsegments, horder, hgrows.journal, registrations_append, registrations_aside haside]
    exact h.retained

theorem fades (h : before.Ledgered) (hfades : Fades before after) : after.Ledgered := by
  obtain ⟨deeds, hfading, hgrows⟩ := hfades.deeds
  exact h.told hfades.responseMode hfades.queue hfades.pendingSegments hfades.pendingOrder
    (fun deed hdeed => (hfading deed hdeed).aside) hgrows

variable {ledger : Nat → Standing} {segmentId : Nat} {wasOpen : Bool}

/-- A segment is skipped where it waits, or nobody hears of it. -/
theorem skip_settles {sessionId : SessionId}
    {reason : String} (h : wasOpen = true → ledger segmentId = .waiting) :
    Along settle Permits ledger [.passed (.responseSkipped sessionId segmentId reason) wasOpen] ∧
      ∃ settledAs, [Deed.passed (.responseSkipped sessionId segmentId reason) wasOpen].foldl settle
        ledger = update ledger segmentId settledAs := by
  cases wasOpen with
  | false => exact ⟨⟨nofun, trivial⟩, ledger segmentId, (update_eq_self _ _).symm⟩
  | true =>
    refine ⟨⟨?_, trivial⟩, .answered none, rfl⟩
    intro demand hdemand
    cases hdemand
    exact h rfl

/-- What an expiry adds to the journal settles the segment that expires and registers none. -/
theorem expiry_settles (sessionId : SessionId) (segmentId : Nat) {entry : Option PendingSegment}
    (h : ∀ text, entry = some (.pending text) → wasOpen = true → ledger segmentId = .waiting) :
    Along settle Permits ledger (expiryDeeds sessionId segmentId wasOpen entry) ∧
      registrations (expiryDeeds sessionId segmentId wasOpen entry) = [] ∧
      ∃ settledAs, (expiryDeeds sessionId segmentId wasOpen entry).foldl settle ledger =
        update ledger segmentId settledAs := by
  unfold expiryDeeds
  split
  next text =>
    obtain ⟨hpermitted, hfold⟩ := skip_settles (h text rfl)
    exact ⟨hpermitted, rfl, hfold⟩
  · exact ⟨trivial, rfl, ledger segmentId, (update_eq_self _ _).symm⟩

variable (h : before.Ledgered)

include h

/-- One segment is settled by the deeds, and its entry follows. -/
theorem settled {entry : Option PendingSegment} {settledAs : Standing}
    (hgrows : before.wire.Grows deeds after.wire) (hmode : after.responseMode = before.responseMode)
    (hqueue : after.automaticResponses = before.automaticResponses)
    (hpermitted : Along settle Permits (standing before.wire.journal) deeds)
    (hfold : deeds.foldl settle (standing before.wire.journal) =
      update (standing before.wire.journal) segmentId settledAs)
    (hself : after.pendingSegments.lookup segmentId = entry)
    (hstands : ∀ segment ∈ entry, segment.Stands after.wire.isClosed settledAs)
    (hothers : ∀ other, other ≠ segmentId →
      after.pendingSegments.lookup other = before.pendingSegments.lookup other)
    (hretained : Retains after.pendingOrder after.pendingSegments
      (registrations deeds ++ registrations before.wire.journal)) : after.Ledgered := by
  refine ⟨hmode.trans h.mode, hqueue.trans h.unqueued, ?_, ?_, ?_⟩
  · rw [hgrows.journal]
    exact h.permitted.append hpermitted
  · intro other segment hentry
    rw [hgrows.journal, standing_append, hfold]
    by_cases hother : other = segmentId
    · subst hother
      rw [update_self]
      exact hstands segment (hself.symm.trans hentry)
    · rw [update_of_ne hother]
      rw [hothers other hother] at hentry
      exact stands_later hgrows (h.entries other segment hentry)
  · rw [hgrows.journal, registrations_append]
    exact hretained

theorem move (hmove : Move before after) : after.Ledgered := by
  have hgated : before.responseMode ≠ .automatic := by simp [h.mode]
  cases hmove with
  | quiet hplain hgrows =>
    exact h.told rfl (.inl rfl) rfl rfl (fun deed hdeed => (hplain deed hdeed).aside) hgrows
  | captured | spoken | discontinued | fallsDue | parked | passedOver =>
    exact h.told rfl (.inl rfl) rfl rfl (forall_mem_nil _) (.refl _)
  | fellSilent hgrows | fired _ _ _ hgrows | spokeUp _ _ hgrows | spokeInVain _ _ _ hgrows
  | reported _ _ _ hgrows =>
    exact h.told rfl (.inl rfl) rfl rfl (by simp) hgrows
  | recovered hsilent =>
    rcases hsilent with rfl | ⟨identity, hsilences⟩
    · exact h.told rfl (.inl rfl) rfl rfl (by simp) (.refl _)
    · exact (h.fades hsilences.fades).told rfl (.inl rfl) rfl rfl (by simp) (.refl _)
  | silenced _ hsilences => exact h.fades hsilences.fades
  | ended _ _ hplain hgrows | endedDue _ hplain hgrows =>
    refine h.told rfl (.inl rfl) rfl rfl (forall_mem_cons.mpr ⟨⟨rfl, rfl⟩, ?_⟩) hgrows
    exact fun deed hdeed => (hplain deed hdeed).aside
  | reportedInVain _ _ _ _ hgrows => exact h.told rfl (.inl rfl) rfl rfl (by simp) hgrows
  | admitted hmode | admittedInVain hmode => exact absurd hmode hgated
  | answered _ hqueue => exact absurd (h.unqueued.symm.trans hqueue) (by simp)
  | @authorized segmentId turnId wire hauthorized hgrows =>
    have hstands := h.entries segmentId _ hauthorized
    refine h.settled hgrows rfl rfl ⟨?_, trivial⟩ (update_eq_self segmentId _).symm hauthorized ?_
      (fun _ _ => rfl) h.retained
    · intro demand hdemand
      cases hdemand
      exact hstands
    · intro segment hsegment
      cases hsegment
      exact hstands
  | @registered segmentId text evidence wasOpen wire _ hroom hgrows =>
    exact h.settled hgrows rfl rfl ⟨nofun, nofun, trivial⟩ rfl (AList.lookup_insert _)
      (by simp [Stands]) (fun other hother => AList.lookup_insert_ne hother)
      (h.retained.registered_next hroom)
  | @expired segmentId rest wasOpen wire horder hgrows hopen =>
    obtain ⟨hpermitted, hnone, settledAs, hfold⟩ := expiry_settles before.sessionId segmentId
      fun text hentry hwas => h.entries segmentId _ hentry (hopen hwas)
    refine h.settled hgrows rfl rfl hpermitted hfold (AList.lookup_erase _ _) nofun
      (fun other hother => AList.lookup_erase_ne hother) ?_
    have hretained := h.retained
    rw [horder] at hretained
    rw [hnone]
    exact hretained.expired
  | @skipped segmentId text reason wasOpen wire _ hpending hgrows hopen =>
    obtain ⟨hpermitted, settledAs, hfold⟩ := skip_settles fun hwas =>
      h.entries segmentId _ hpending (hopen hwas)
    exact h.settled hgrows rfl rfl hpermitted hfold (AList.lookup_insert _)
      (by simp [Stands]) (fun other hother => AList.lookup_insert_ne hother)
      (h.retained.rewritten _ hpending)
  | @responded segmentId text identity wire _ _ hpending _ hgrows hopen =>
    refine h.settled hgrows rfl rfl ⟨nofun, ?_, nofun, trivial⟩ rfl (AList.lookup_insert _)
      (by simp [Stands]) (fun other hother => AList.lookup_insert_ne hother)
      (h.retained.rewritten _ hpending)
    intro demand hdemand
    cases hdemand
    exact h.entries segmentId _ hpending hopen
  | @respondedInVain segmentId text identity wasOpen wire _ _ hpending _ hclosed hgrows hopen =>
    have hrewritten := h.retained.rewritten (.authorized identity.turnId) hpending
    refine h.settled hgrows rfl rfl ⟨nofun, ?_, nofun, nofun, trivial⟩ rfl (AList.lookup_insert _)
      (by simp [Stands, hclosed]) (fun other hother => ?_)
      (hrewritten.rewritten _ (AList.lookup_insert _))
    · intro demand hdemand
      cases hdemand
      exact h.entries segmentId _ hpending hopen
    · exact (AList.lookup_insert_ne hother).trans (AList.lookup_insert_ne hother)

theorem act (hact : Act before after) : after.Ledgered := by
  rcases hact with hmove | ⟨signal, hturn⟩
  · exact h.move hmove
  · cases hturn with
    | heard _ _ _ hgrows => exact h.told rfl (.inl rfl) rfl rfl (by simp) hgrows
    | silenced hsilences => exact h.fades hsilences.fades

theorem last (hlast : Last before after) : after.Ledgered := by
  have hgated : before.responseMode ≠ .automatic := by simp [h.mode]
  have hidle : ∀ {response rest}, before.automaticResponses ≠ response :: rest := by
    simp [h.unqueued]
  cases hlast with
  | heard finalizer =>
    exact h.told rfl (.inl rfl) rfl rfl (forall_mem_nil _) (.refl before.wire)
  | @streamEnded identity wire _ hgrows =>
    exact h.told rfl (.inl rfl) rfl rfl (by simp) hgrows
  | @cutShort identity plain wire _ hplain hgrows =>
    refine h.told rfl (.inl rfl) rfl rfl (forall_mem_cons.mpr ⟨⟨rfl, rfl⟩, ?_⟩) hgrows
    exact fun deed hdeed => (hplain deed hdeed).aside
  | overflowed hmode => exact absurd hmode hgated
  | unanswered hqueue | answeredInVain _ hqueue | abandoned _ hqueue => exact absurd hqueue hidle

end Ledgered

theorem lasting_ledgered : Lasting Ledgered Ledgered where
  act := fun _ h hact => h.act hact
  leave := fun h => h
  last := fun _ h hlast => h.last hlast
  fade := fun hfades h => h.fades hfades

/-- In every run under an external gate in which no segment is registered again while it
is retained: the order of expiry has no duplicates, is bounded, and lists the keys of
the map; and the journal shows no registration answered twice and no authorization that
names another turn than the one started since the registration. -/
theorem segments_ledgered (env : VoiceEnvironment) (sessionId : SessionId) (finalSilenceMs : Nat)
    (captureRecorder : Bool) (sequence : Nat) (signals : List LoopSignal)
    (h : Spaced (registrations (run env (new sessionId finalSilenceMs .externalGate captureRecorder
      sequence) signals).wire.journal)) :
    let loop :=
      run env (new sessionId finalSilenceMs .externalGate captureRecorder sequence) signals
    loop.pendingOrder.Nodup ∧ loop.pendingOrder.length ≤ maxPendingSegments ∧
    (∀ segmentId, segmentId ∈ loop.pendingOrder ↔ segmentId ∈ loop.pendingSegments) ∧
    Along settle Permits unregistered loop.wire.journal := by
  intro loop
  have hnew : (new sessionId finalSilenceMs .externalGate captureRecorder sequence).Ledgered := by
    refine ⟨rfl, rfl, trivial, nofun, Nat.zero_le _, nil_prefix, ?_⟩
    exact fun _ => ⟨nodup_nil, fun segmentId => ⟨nofun, nofun⟩⟩
  have hcoupled := coupled_new sessionId finalSilenceMs .externalGate captureRecorder sequence
  obtain ⟨-, hledgered⟩ := lasting_ledgered.run env signals (lasting_ledgered.start hcoupled hnew)
  obtain ⟨hnodup, hkeys⟩ := hledgered.retained.kept h
  exact ⟨hnodup, hledgered.retained.room, hkeys, hledgered.permitted⟩

/-- One utterance, given the time to be finalized. -/
def registering (segmentId : Nat) (text : String) : List LoopSignal :=
  utter segmentId text ++ List.replicate 9 .deadline

theorem segments_ledgered_authorized :
    let signals := registering 1 "one" ++ registering 2 "two" ++
      [.command (some (.authorizeResponse 7 1)), .command (some (.authorizeResponse 7 1))]
    let loop := run unhurried (new 7 100 .externalGate false 0) signals
    Spaced (registrations loop.wire.journal) ∧ loop.pendingOrder = [1, 2] ∧
      loop.pendingOrder.Nodup :=
  ⟨by decide +kernel, by decide +kernel,
    (segments_ledgered unhurried 7 100 false 0 _ (by decide +kernel)).1⟩

/-- A segment that is finalized twice stands twice in the order of expiry, and the map
holds one entry for it. -/
theorem repeated_segment_duplicated :
    let loop := run unhurried (new 7 100 .externalGate false 0)
      (registering 1 "one" ++ registering 1 "two")
    loop.course = .running ∧ loop.pendingOrder = [1, 1] ∧ loop.pendingSegments.keys = [1] := by
  decide +kernel

end VoiceLoop

end ConversationRuntime
