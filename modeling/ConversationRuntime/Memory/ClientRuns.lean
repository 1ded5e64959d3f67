import ConversationRuntime.Memory.ClientSteps

/-! # Runs of clients

Whatever the clients do, the store stays sound and every call keeps the warrant for its
write. A revision that a change expected has passed, so no other change finds it.
-/

namespace ConversationRuntime

open Foundation MemoryStage List MemoryCall MemoryShared

/-- The changes that expected a revision. -/
def expectations (changes : List MemoryChange) : List (MemoryId × Nat) :=
  changes.filterMap MemoryChange.expected

/-- A revision of a record that is not there any more. -/
def Passed (store : MemoryStore) (expectation : MemoryId × Nat) : Prop :=
  expectation.1 ≤ store.lastMemoryId ∧
    ∀ row ∈ store.memories, row.id = expectation.1 → expectation.2 < row.revision

/-- What holds of the store and the notes beside it. -/
structure MemoryShared.Consistent (hash : ContentHash) (shared : MemoryShared) : Prop where
  sound : Sound hash shared.versions shared.store
  seen : ∀ row ∈ shared.store.memories, row.version ∈ shared.versions
  passed : ∀ expectation ∈ expectations shared.changes, Passed shared.store expectation
  once : (expectations shared.changes).Nodup

/-- What holds of a call. -/
def MemoryCall.Sure (shared : MemoryShared) (_ : Nat) (call : MemoryCall) : Prop :=
  call.stage.Warranted shared.store ∧ call.Honest

section Steps

variable {hash : ContentHash} {relevance : String → String → Relevance} {before after : MemoryStore}
  {shared : MemoryShared} {taken : MemorySection}

theorem Passed.storeMove {expectation : MemoryId × Nat} (h : Passed before expectation)
    (hmove : StoreMove hash before after) : Passed after expectation := by
  refine ⟨h.1.trans hmove.lastMemoryId_le, ?_⟩
  intro row hrow hid
  obtain ⟨old, hold, hmoves⟩ := hmove.origin_of_known hrow (hid ▸ h.1)
  exact (h.2 old hold (hmoves.id.symm.trans hid)).trans_le hmoves.revision_le

theorem Applies.passed {id : MemoryId} {expected : Nat} (h : Applies id expected before after)
    (hbounded : ∀ row ∈ before.memories, row.id ≤ before.lastMemoryId)
    (hmove : StoreMove hash before after) : Passed after (id, expected) := by
  obtain ⟨⟨row, hrow, rfl, -⟩, hafter⟩ := h
  refine ⟨(hbounded row hrow).trans hmove.lastMemoryId_le, ?_⟩
  intro other hother hid
  rw [hafter other hother hid]
  exact Nat.lt_succ_self expected

theorem MemoryStage.Warranted.storeMove {stage : MemoryStage} (h : stage.Warranted before)
    (hmove : StoreMove hash before after) : stage.Warranted after := by
  cases stage with
  | editing id patch current draft | approving id approval current =>
    exact ⟨h.1, h.2.1.storeMove hmove, h.2.2⟩
  | pinning id change current => exact ⟨h.1, h.2.1.storeMove hmove, h.2.2⟩
  | requested | expiring | reading | returned => trivial

/-- What a section does to the store and the notes keeps them consistent. -/
theorem MemoryShared.Consistent.section (h : shared.Consistent hash)
    (hmoves : SectionMoves hash shared.store taken) :
    Consistent hash ⟨taken.store, shared.versions ++ taken.store.memories.map MemoryRow.version,
        shared.changes ++ taken.change.toList⟩ := by
  have hseen : ∀ row ∈ taken.store.memories,
      row.version ∈ shared.versions ++ taken.store.memories.map MemoryRow.version := by
    intro row hrow
    exact mem_append_right _ (mem_map.mpr ⟨row, hrow, rfl⟩)
  have hmore : ∀ version ∈ shared.versions,
      version ∈ shared.versions ++ taken.store.memories.map MemoryRow.version :=
    fun version hversion => mem_append_left _ hversion
  cases hmoves with
  | stayed stage =>
    rw [Option.toList_none, append_nil]
    exact ⟨h.sound.mono hmore, hseen, h.passed, h.once⟩
  | moved stage reached change hmove happlies =>
    refine ⟨(h.sound.storeMove h.seen hmove).mono hmore, hseen, ?_, ?_⟩
    · intro expectation hexpectation
      rw [expectations, filterMap_append, mem_append] at hexpectation
      rcases hexpectation with hold | hnew
      · exact (h.passed expectation hold).storeMove hmove
      · obtain ⟨made, hmade, hexpected⟩ := mem_filterMap.mp hnew
        cases mem_singleton.mp hmade
        exact (happlies _ _ hexpected).passed h.sound.bounded hmove
    · rw [expectations, filterMap_append, nodup_append]
      refine ⟨h.once, ?_, ?_⟩
      · cases hexpected : change.expected <;> simp [hexpected]
      · -- An earlier change that expected this revision would have passed it.
        intro earlier hearlier later hlater hsame
        obtain ⟨made, hmade, hexpected⟩ := mem_filterMap.mp hlater
        cases mem_singleton.mp hmade
        obtain ⟨⟨row, hrow, hid, hrevision⟩, -⟩ := happlies _ _ hexpected
        have hpassed := (h.passed earlier hearlier).2 row hrow
        rw [hsame] at hpassed
        exact absurd (hpassed hid) (by rw [hrevision]; exact Nat.lt_irrefl _)

/-- A section of another call takes no warrant away. -/
theorem MemoryCall.Sure.section {after : MemoryShared} {index : Nat} {call : MemoryCall}
    (h : call.Sure shared index) (hmoves : SectionMoves hash shared.store taken)
    (hafter : after.store = taken.store) : call.Sure after index := by
  refine ⟨?_, h.2⟩
  rw [hafter]
  cases hmoves with
  | stayed stage => exact h.1
  | moved stage reached change hmove happlies => exact h.1.storeMove hmove

namespace MemoryClients

variable (hash) in
theorem holds_start : start.Holds (Consistent hash) Sure := by
  refine ⟨⟨sound_empty, ?_, ?_, nodup_nil⟩, ?_⟩
  · intro row hrow
    cases hrow
  · intro expectation hexpectation
    cases hexpectation
  · intro index call hcall
    simp [start] at hcall

variable {clients : MemoryClients}
  (h : clients.Holds (MemoryShared.Consistent hash) MemoryCall.Sure)
include h

variable (action : MemoryAction)

variable (relevance) in
theorem holds_step : (clients.step hash relevance action).Holds (Consistent hash) Sure := by
  have hspawn : ∀ stage, stage.Warranted clients.shared.store → Pool.Holds (Consistent hash) Sure
        (clients.spawn (⟨stage, []⟩ : MemoryCall)) := by
    intro stage hwarranted
    apply h.spawn
    refine ⟨hwarranted, .inl ?_⟩
    intro change hchange
    cases hchange
  cases action with
  | perform | inspect | edit | approve | setPinned => exact hspawn _ trivial
  | run call =>
    apply h.advance call
    rintro thread - ⟨hwarranted, hhonest⟩
    have hmoves := step_moves relevance h.whole.sound h.whole.seen hwarranted
    refine ⟨h.whole.section hmoves, ⟨?_, ?_⟩, ?_⟩
    · exact step_warranted h.whole.sound thread.stage
    · exact step_honest h.whole.sound hwarranted hhonest
    · intro other mate _ _ hmate
      exact hmate.section hmoves rfl

variable (relevance) in
/-- Every run keeps the store sound and every call sure of its write. -/
theorem holds_run (actions : List MemoryAction) :
    (actions.foldl (step hash relevance) clients).Holds (Consistent hash) Sure := by
  induction actions generalizing clients with
  | nil => exact h
  | cons action rest ih => exact ih (holds_step relevance h action)

/-! ## What becomes of a row -/

/-- An action leaves the store alone or moves it. -/
theorem step_storeMove : (clients.step hash relevance action).shared.store = clients.shared.store ∨
      StoreMove hash clients.shared.store (clients.step hash relevance action).shared.store := by
  cases action with
  | perform | inspect | edit | approve | setPinned => exact .inl rfl
  | run call =>
    simp only [step, Pool.advance]
    cases hthread : clients.threads[call]? with
    | none => exact .inl rfl
    | some thread =>
      have hmoves := step_moves relevance h.whole.sound h.whole.seen
        (h.own call thread hthread).1
      simp only [MemoryCall.step]
      cases htaken : thread.stage.step hash relevance clients.shared.store with
      | mk stage store change =>
        rw [htaken] at hmoves
        cases hmoves with
        | stayed => exact .inl rfl
        | moved _ _ _ hmove _ => exact .inr hmove

/-- A row whose identifier was given out before the action was there before it. -/
theorem step_source {moved : MemoryRow}
    (hmoved : moved ∈ (clients.step hash relevance action).shared.store.memories)
    (hknown : moved.id ≤ clients.shared.store.lastMemoryId) :
    ∃ row ∈ clients.shared.store.memories, row.Moves moved := by
  rcases step_storeMove h action with hstayed | hmove
  · rw [hstayed] at hmoved
    exact ⟨moved, hmoved, .refl moved⟩
  · exact hmove.origin_of_known hmoved hknown

/-- A row of a record that was there comes from the row it had. -/
theorem step_origin {row moved : MemoryRow} (hrow : row ∈ clients.shared.store.memories)
    (hmoved : moved ∈ (clients.step hash relevance action).shared.store.memories)
    (hid : moved.id = row.id) : row.Moves moved := by
  have hknown := h.whole.sound.bounded row hrow
  rw [← hid] at hknown
  obtain ⟨old, hold, hmoves⟩ := step_source h action hmoved hknown
  rwa [inj_on_of_nodup_map h.whole.sound.ids hold hrow (hmoves.id.symm.trans hid)] at hmoves

variable (relevance) in
theorem run_lastMemoryId_le (actions : List MemoryAction) : clients.shared.store.lastMemoryId ≤
      (actions.foldl (step hash relevance) clients).shared.store.lastMemoryId := by
  induction actions generalizing clients with
  | nil => exact le_rfl
  | cons action rest ih =>
    apply le_trans ?_ (ih (holds_step relevance h action))
    rcases step_storeMove h action with hstayed | hmove
    · rw [hstayed]
    · exact hmove.lastMemoryId_le

/-- What every move of a row keeps, holds of the row after every run. -/
theorem run_kept {kept : MemoryRow → Prop}
    (hkept : ∀ before after : MemoryRow, before.Moves after → kept before → kept after)
    {id : MemoryId} (hknown : id ≤ clients.shared.store.lastMemoryId)
    (hfirst : ∀ row ∈ clients.shared.store.memories, row.id = id → kept row)
    (later : List MemoryAction) {moved : MemoryRow}
    (hmoved : moved ∈ (later.foldl (step hash relevance) clients).shared.store.memories)
    (hid : moved.id = id) : kept moved := by
  induction later using reverseRecOn generalizing moved with
  | nil => exact hfirst moved hmoved hid
  | append_singleton earlier action ih =>
    have hbefore := holds_run relevance h earlier
    rw [foldl_append] at hmoved
    -- The identifier was given out before, so the row was there before the action.
    have hknown : moved.id ≤
        (earlier.foldl (step hash relevance) clients).shared.store.lastMemoryId := by
      rw [hid]
      exact hknown.trans (run_lastMemoryId_le relevance h earlier)
    obtain ⟨old, hold, hmoves⟩ := step_source hbefore action hmoved hknown
    exact hkept old moved hmoves (ih hold (hmoves.id.symm.trans hid))

end MemoryClients

end Steps

/-! ## No lost update

Each change of a record is made at the revision that its caller expected, and counts it
up. So of the calls that expect a revision one takes effect, and the others report a
conflict and change nothing but what was due.
-/

open Fallible

namespace MemoryClients

theorem ofResult_noted {α : Type} {outcome : Except MemoryStoreError α × MemoryStore}
    {change made : MemoryChange} {next : α → MemoryStage}
    (h : (MemorySection.ofResult outcome change next).change = some made) :
    made = change ∧ (MemorySection.ofResult outcome change next).store = outcome.2 := by
  obtain ⟨result, reached⟩ := outcome
  cases result with
  | ok value =>
    cases h
    exact ⟨rfl, rfl⟩
  | error error => cases h

variable {now : UnixTimestampMillis}

theorem pinNote_ne_expiredDue {id : MemoryId} {change : PinChange} {before after : MemoryStore} :
    pinNote id change before after ≠ .expiredDue now := by
  unfold pinNote
  split <;> simp

variable {store : MemoryStore} {hash : ContentHash}

/-- A section that notes that due records expired does no more than that. -/
theorem section_expiredDue {relevance : String → String → Relevance} {stage : MemoryStage}
    (h : (stage.step hash relevance store).change = some (.expiredDue now)) :
    (stage.step hash relevance store).store = (expireDue now store).2 := by
  cases stage with
  | requested operation =>
    cases operation with
    | pruneExpired time =>
      obtain ⟨hsame, hstore⟩ := ofResult_noted h
      cases hsame
      exact hstore
    | create draft | expireSession sessionId expiredAt | retrieve request cancelled
    | delete id expected | mergePeople source target | createPerson | deletePerson id =>
      cases (ofResult_noted h).1
  | expiring id time purpose =>
    obtain ⟨hsame, hstore⟩ := ofResult_noted h
    cases hsame
    exact hstore
  | reading id purpose =>
    simp only [MemoryStage.step] at h
    cases hread : (queryRecord hash id store).1 <;> rw [hread] at h <;> cases h
  | editing id patch current draft | approving id approval current => cases (ofResult_noted h).1
  | pinning id change current => exact absurd (ofResult_noted h).1.symm pinNote_ne_expiredDue
  | returned result => cases h

theorem section_unnoted {taken : MemorySection}
    (h : SectionMoves hash store taken) (hnone : taken.change = none) : taken.store = store := by
  cases h with
  | stayed stage => rfl
  | moved stage reached change hmove happlies => cases hnone

/-- Along every run of the clients: of the changes that expect a revision of a record, at
most one is made; a transaction that changes the content, the confidence, the retention,
the pin or the state of a record counts its revision up by one; a record is never updated
at an earlier time, and one that expired stays so; a call that reports a conflict has
changed nothing but what was due. -/
theorem no_lost_update (hash : ContentHash) (relevance : String → String → Relevance)
    (actions : List MemoryAction) :
    let clients := actions.foldl (MemoryClients.step hash relevance) .start
    (expectations clients.shared.changes).Nodup ∧
    (∀ action, ∀ row ∈ clients.shared.store.memories,
      ∀ moved ∈ (clients.step hash relevance action).shared.store.memories, moved.id = row.id →
        (moved.content = row.content ∧ moved.confidence = row.confidence ∧
          moved.retention = row.retention ∧ moved.pinned = row.pinned ∧ moved.state = row.state ∧
          moved.revision = row.revision) ∨ moved.revision = row.revision + 1) ∧
    (∀ later : List MemoryAction, ∀ row ∈ clients.shared.store.memories,
      ∀ moved ∈ (later.foldl (MemoryClients.step hash relevance) clients).shared.store.memories,
        moved.id = row.id → row.updatedAt ≤ moved.updatedAt ∧
          (row.state = .expired → moved.state = .expired)) ∧
    (∀ call ∈ clients.threads, ∀ error, call.stage = .returned (.error error) →
      error.kind = .conflict → ∀ change ∈ call.made, ∃ now, change = .expiredDue now) ∧
    ∀ call ∈ clients.threads,
      let taken := call.stage.step hash relevance clients.shared.store
      (taken.change = none → taken.store = clients.shared.store) ∧
      ∀ now, taken.change = some (.expiredDue now) →
        taken.store = (expireDue now clients.shared.store).2 := by
  intro clients
  have hholds := holds_run relevance (holds_start hash) actions
  have hcall : ∀ call ∈ clients.threads, ∃ index, MemoryCall.Sure clients.shared index call := by
    intro call hmember
    obtain ⟨index, hindex⟩ := List.mem_iff_getElem?.mp hmember
    exact ⟨index, hholds.own index call hindex⟩
  refine ⟨hholds.whole.once, ?_, ?_, ?_, ?_⟩
  · intro action row hrow moved hmoved hid
    rcases (step_origin hholds action hrow hmoved hid).counted with hquiet | hcounted
    · exact .inl ⟨hquiet.content, hquiet.confidence, hquiet.retention, hquiet.pinned, hquiet.state,
        hquiet.revision⟩
    · exact .inr hcounted
  · intro later row hrow moved hmoved hid
    apply run_kept hholds ?_ (hholds.whole.sound.bounded row hrow) ?_ later hmoved hid
    · rintro before after hmoves ⟨hupdated, hexpired⟩
      exact ⟨hupdated.trans hmoves.updated, fun hrow => hmoves.expired (hexpired hrow)⟩
    · intro other hother hsame
      rw [List.inj_on_of_nodup_map hholds.whole.sound.ids hother hrow hsame]
      exact ⟨le_rfl, fun hexpired => hexpired⟩
  · intro call hmember error hreturned hconflict
    obtain ⟨-, -, honly | hsettled⟩ := hcall call hmember
    · exact honly
    · rw [hreturned] at hsettled
      exact absurd hconflict (hsettled error rfl)
  · intro call hmember
    obtain ⟨-, hwarranted, -⟩ := hcall call hmember
    exact ⟨section_unnoted
      (MemoryStage.step_moves _ hholds.whole.sound hholds.whole.seen hwarranted),
      fun now => section_expiredDue⟩

/-! ## Approved memories

Whatever several clients do, everything in the store can be read back, and an identity
or a relationship is active only with the content that was approved while it was a
candidate.
-/

variable {hash : ContentHash} {relevance : String → String → Relevance}

/-- What a record is noted to have been, it was at some moment of the run. -/
theorem exists_version (actions : List MemoryAction) {version : MemoryVersion}
    (h : version ∈ (actions.foldl (step hash relevance) .start).shared.versions) :
    ∃ earlier, earlier <+: actions ∧
      ∃ row ∈ (earlier.foldl (step hash relevance) .start).shared.store.memories,
        row.version = version := by
  induction actions using reverseRecOn with
  | nil => cases h
  | append_singleton actions action ih =>
    have hextend : version ∈ (actions.foldl (step hash relevance) .start).shared.versions →
        ∃ earlier, earlier <+: actions ++ [action] ∧
          ∃ row ∈ (earlier.foldl (step hash relevance) .start).shared.store.memories,
            row.version = version := by
      intro hbefore
      obtain ⟨earlier, hprefix, hrow⟩ := ih hbefore
      exact ⟨earlier, hprefix.trans (prefix_append actions [action]), hrow⟩
    rw [foldl_append] at h
    cases action with
    | perform | inspect | edit | approve | setPinned => exact hextend h
    | run call =>
      cases hthread : (actions.foldl (step hash relevance) .start).threads[call]? with
      | none =>
        simp only [foldl_cons, foldl_nil, step, Pool.advance, hthread] at h
        exact hextend h
      | some thread =>
        simp only [foldl_cons, foldl_nil, step, Pool.advance, hthread,
          MemoryCall.step, mem_append, mem_map] at h
        rcases h with hbefore | ⟨row, hrow, hversion⟩
        · exact hextend hbefore
        · refine ⟨actions ++ [.run call], prefix_refl _, row, ?_, hversion⟩
          simpa only [foldl_append, foldl_cons, foldl_nil, step,
            Pool.advance, hthread, MemoryCall.step] using hrow

/-- In every store that clients can reach, every row decodes, so that reading the store
never fails over what is stored; and the latest approval of an active record that needs
one is of its content, given at a revision at which it was a candidate with it. -/
theorem approved_memory (hash : ContentHash) (relevance : String → String → Relevance)
    (actions : List MemoryAction) :
    let store := (actions.foldl (step hash relevance) .start).shared.store
    (∀ row ∈ store.memories, ∃ joined record, store.recordRow row = some joined ∧
      rowToRecord hash joined = .ok record) ∧
    (∀ now, ∃ count reached, expireDue now store = (.ok count, reached)) ∧
    (∃ records, queryRecords hash store = (.ok records, store)) ∧
    (∀ beforeId limit error, (queryPage hash beforeId limit store).1 = .error error →
      error.blamesStore = false) ∧
    (∀ id error, (queryRecord hash id store).1 = .error error → error.blamesStore = false) ∧
    (∀ id historyLimit error, (queryBounded hash id historyLimit store).1 = .error error →
      error.blamesStore = false) ∧
    (∀ cancelled request error, (retrieve cancelled hash relevance request store).1 = .error error →
      error.blamesStore = false) ∧
    ∀ row ∈ store.memories, row.state = .active → row.kind.requiresApproval = true →
      ∃ approval, (store.approvalsOf row.id).getLast? = some approval ∧
        approval.contentDigest = contentDigest hash row.content ∧
        ∃ earlier, earlier <+: actions ∧
          ∃ old ∈ (earlier.foldl (step hash relevance) .start).shared.store.memories,
            old.id = row.id ∧ old.revision = approval.approvedRevision ∧ old.state = .candidate ∧
              old.content = row.content := by
  intro store
  have hholds := holds_run relevance (holds_start hash) actions
  have hsound := hholds.whole.sound
  refine ⟨?_, ?_, queryRecords_ok hsound, ?_, ?_, ?_, ?_, ?_⟩
  · intro row hrow
    obtain ⟨joined, record, hjoined, -, hrecord, -⟩ := hsound.exists_decoded hrow
    exact ⟨joined, record, hjoined, hrecord⟩
  · intro now
    obtain ⟨count, reached, hrun⟩ := expireDueIn_ok hsound now
    exact ⟨count, reached, atomically_of_ok hrun⟩
  · exact fun beforeId limit error => queryPage_blames hsound
  · intro id error herror
    rcases queryRecord_cases hsound id with ⟨hrange, -⟩ | ⟨hmissing, -⟩ |
      ⟨row, -, -, record, hread, -⟩
    · rw [hrange] at herror
      cases herror
      rfl
    · rw [hmissing] at herror
      cases herror
      rfl
    · rw [hread] at herror
      cases herror
  · exact fun id historyLimit error => queryBounded_blames hsound
  · intro cancelled request error herror
    have hcases := retrieve_cases cancelled hsound hholds.whole.seen relevance request
    rw [Meets, herror] at hcases
    exact hcases.2
  · intro row hrow hactive happroval
    obtain ⟨approval, hlast, hdigest, hversion⟩ := (hsound.rows row hrow).approved hactive happroval
    obtain ⟨earlier, hprefix, old, hold, hsame⟩ := exists_version actions hversion
    simp only [MemoryRow.version, MemoryVersion.mk.injEq] at hsame
    exact ⟨approval, hlast, hdigest, earlier, hprefix, old, hold, hsame⟩

/-- Identifiers are given out once: no two rows share one, a row keeps its kind and its
time of creation while it is there, and a record that is gone never comes back. -/
theorem identifiers_not_reused (hash : ContentHash) (relevance : String → String → Relevance)
    (actions later : List MemoryAction) :
    let store := (actions.foldl (step hash relevance) .start).shared.store
    let reached := ((actions ++ later).foldl (step hash relevance) .start).shared.store
    (store.memories.map MemoryRow.id).Nodup ∧
    (∀ row ∈ store.memories, ∀ moved ∈ reached.memories, moved.id = row.id →
      moved.kind = row.kind ∧ moved.createdAt = row.createdAt ∧ row.revision ≤ moved.revision) ∧
    ∀ id ≤ store.lastMemoryId, (∀ row ∈ store.memories, row.id ≠ id) →
      ∀ moved ∈ reached.memories, moved.id ≠ id := by
  intro store reached
  have hholds := holds_run relevance (holds_start hash) actions
  have hsound := hholds.whole.sound
  simp only [reached, foldl_append]
  refine ⟨hsound.ids, ?_, fun id hknown hgone moved =>
    run_kept hholds (fun _ _ _ hgone => hgone) hknown hgone later⟩
  intro row hrow moved hmoved hid
  apply run_kept hholds ?_ (hsound.bounded row hrow) ?_ later hmoved hid
  · rintro before after hmoves ⟨hkind, hcreated, hrevision⟩
    exact ⟨hmoves.kind.trans hkind, hmoves.createdAt.trans hcreated,
      hrevision.trans hmoves.revision_le⟩
  · intro other hother hsame
    rw [inj_on_of_nodup_map hsound.ids hother hrow hsame]
    exact ⟨rfl, rfl, le_rfl⟩

end MemoryClients

end ConversationRuntime
