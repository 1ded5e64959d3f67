import ConversationRuntime.Memory.Clients

/-! # What the calls of clients do

Every section of a call moves the store as a transaction does or leaves it alone. What
a call has read stays true of the revision it read, whatever other calls do meanwhile,
so its write is made on what it saw.
-/

namespace ConversationRuntime

open Foundation.Fallible MemoryStage List
open MemoryCall MemorySection

/-! ## Where rows come from -/

section Origin

variable {hash : ContentHash} {before after : MemoryStore}

section

variable (h : StoreMove hash before after)
include h

/-- A row is one that was there, moved by the transaction, or it is new. -/
theorem StoreMove.origin {row : MemoryRow} (hrow : row ∈ after.memories) :
    (∃ old ∈ before.memories, old.Moves row) ∨ row.id = before.lastMemoryId + 1 := by
  cases h with
  | rows people lastPersonId lastTraceId move added hpeople hmove hdemotes hadded =>
    obtain ⟨old, hold, rfl⟩ := mem_map.mp hrow
    exact .inl ⟨old, hold, hmove old hold⟩
  | approved id approval content move createdAt hknown hothers happroved =>
    obtain ⟨old, hold, rfl⟩ := mem_map.mp hrow
    by_cases hid : old.id = id
    · exact .inl ⟨old, hold, (happroved old hold hid).2.1⟩
    · refine .inl ⟨old, hold, ?_⟩
      rw [hothers old hold hid]
      exact .refl old
  | created new source hid =>
    rcases mem_append.mp hrow with hold | hnew
    · exact .inl ⟨row, hold, .refl row⟩
    · rw [mem_singleton.mp hnew]
      exact .inr hid
  | removed people condition hpeople => exact .inl ⟨row, (mem_filter.mp hrow).1, .refl row⟩

theorem StoreMove.lastMemoryId_le : before.lastMemoryId ≤ after.lastMemoryId := by
  cases h with
  | rows | approved => exact le_rfl
  | created row source hid =>
    rw [hid]
    exact Nat.le_succ _
  | removed => exact le_rfl

/-- A row whose identifier was given out before is one that was there. -/
theorem StoreMove.origin_of_known {row : MemoryRow} (hrow : row ∈ after.memories)
    (hknown : row.id ≤ before.lastMemoryId) : ∃ old ∈ before.memories, old.Moves row := by
  rcases h.origin hrow with hold | hnew
  · exact hold
  · rw [hnew] at hknown
    exact absurd hknown (Nat.not_succ_le_self _)

end

/-- What was read of a revision stays true of it. -/
theorem WasRead.storeMove {id : MemoryId} {current : MemoryRecord} (h : WasRead id current before)
    (hmove : StoreMove hash before after) : WasRead id current after := by
  refine ⟨h.known.trans hmove.lastMemoryId_le, ?_⟩
  rintro row hrow rfl
  obtain ⟨old, hold, hmoves⟩ := hmove.origin_of_known hrow h.known
  obtain ⟨hrevision, hagrees⟩ := h.agrees old hold hmoves.id.symm
  refine ⟨hrevision.trans hmoves.revision_le, ?_⟩
  intro hsame
  rcases hmoves.counted with hquiet | hcounted
  · have hold := hagrees (hquiet.revision.symm.trans hsame)
    exact ⟨hmoves.kind.trans hold.kind, hquiet.content.trans hold.content, hquiet.state.trans
      hold.state, hmoves.createdAt.trans hold.createdAt, hquiet.updatedAt.trans hold.updatedAt,
      hquiet.retention.trans hold.retention, hquiet.pinned.trans hold.pinned⟩
  · -- The revision that was read has passed.
    omega

end Origin

/-! ## Sections -/

/-- A call that is about to write has checked what it read. -/
def MemoryStage.Warranted (store : MemoryStore) : MemoryStage → Prop
  | .editing id patch current draft => planEdit patch current = .ok draft ∧
      WasRead id current store ∧ id < 2 ^ 63
  | .approving id approval current => checkApproval approval current = .ok () ∧
      WasRead id current store ∧ id < 2 ^ 63
  | .pinning id change current => checkPinned change current = .ok () ∧
      WasRead id current store ∧ id < 2 ^ 63
  | .requested _ | .expiring .. | .reading .. | .returned _ => True

/-- A call that has made its change only has its answer to read, and will not report a
conflict any more. -/
def MemoryStage.Settled : MemoryStage → Prop
  | .expiring id _ .answer | .reading id .answer => id < 2 ^ 63
  | .returned result => ∀ error, result = .error error → error.kind ≠ .conflict
  | .requested _ | .expiring .. | .reading .. | .editing .. | .approving .. | .pinning .. => False

/-- The store stays, or it moves and the change is noted. -/
inductive SectionMoves (hash : ContentHash) (store : MemoryStore) : MemorySection → Prop where
  | stayed (stage : MemoryStage) : SectionMoves hash store ⟨stage, store, none⟩
  | moved (stage : MemoryStage) (reached : MemoryStore) (change : MemoryChange)
      (hmove : StoreMove hash store reached)
      (happlies : ∀ id expected, change.expected = some (id, expected) →
        Applies id expected store reached) :
      SectionMoves hash store ⟨stage, reached, some change⟩

section Sections

variable {hash : ContentHash} {relevance : String → String → Relevance}
  {versions : List MemoryVersion} {store : MemoryStore}

variable {change : MemoryChange} {id : MemoryId} {made : List MemoryChange} {α : Type}
  {reached : MemoryStore}

variable {outcome : Except MemoryStoreError α × MemoryStore} {next : α → MemoryStage}

/-- A transaction that takes back what it changed when it fails. -/
theorem sectionMoves_ofResult
    (hfailed : ∀ error reached, outcome = (.error error, reached) → reached = store)
    (hdone : ∀ value reached, outcome = (.ok value, reached) → StoreMove hash store reached ∧
      ∀ id expected, change.expected = some (id, expected) → Applies id expected store reached) :
    SectionMoves hash store (.ofResult outcome change next) := by
  obtain ⟨result, reached⟩ := outcome
  cases result with
  | ok value =>
    obtain ⟨hmove, happlies⟩ := hdone value reached rfl
    exact .moved _ reached change hmove happlies
  | error error =>
    cases hfailed error reached rfl
    exact .stayed _

/-- A change that is not made to a record at a revision. -/
theorem applies_of_none (h : change.expected = none) (id : MemoryId) (expected : Nat)
    (hexpected : change.expected = some (id, expected)) : Applies id expected store reached := by
  rw [h] at hexpected
  cases hexpected

theorem delete_stopped {expected : Nat} {error : MemoryStoreError}
    (h : delete id expected store = (.error error, reached)) : reached = store := by
  by_cases hpositive : expected ≠ 0
  · rw [delete, bind_of_ok (require_of_true hpositive store)] at h
    exact stopped_atomically h
  · rw [delete, bind_of_error (require_of_false hpositive store)] at h
    cases h
    rfl

theorem expected_pinNote {change : PinChange} {before after : MemoryStore} :
    (pinNote id change before after).expected = some (id, change.expectedRevision) := by
  unfold pinNote
  split <;> rfl

theorem warranted_ofResult (hnext : ∀ value reached, (next value).Warranted reached) :
    (ofResult outcome change next).stage.Warranted (ofResult outcome change next).store := by
  obtain ⟨result, reached⟩ := outcome
  cases result with
  | ok value => exact hnext value reached
  | error error => trivial

variable (h : Sound hash versions store)
include h

section

variable (hseen : ∀ row ∈ store.memories, row.version ∈ versions)
include hseen

theorem performOperation_moves (operation : MemoryOperation) :
    SectionMoves hash store (performOperation hash relevance store operation) := by
  cases operation with
  | create draft =>
    apply sectionMoves_ofResult fun _ _ => stopped_atomically
    intro id reached hrun
    exact ⟨(writeDraft_storeMove hash h.people hrun).1, applies_of_none rfl⟩
  | pruneExpired now =>
    apply sectionMoves_ofResult fun _ _ => stopped_atomically
    intro count reached hrun
    exact ⟨expireDue_storeMove h.people hrun, applies_of_none rfl⟩
  | expireSession sessionId expiredAt =>
    apply sectionMoves_ofResult fun _ _ => stopped_atomically
    intro count reached hrun
    obtain ⟨_, -, hexpired⟩ := returned_lift_bind (returned_atomically hrun)
    exact ⟨expired_storeMove h.people hexpired, applies_of_none rfl⟩
  | retrieve request cancelled =>
    have hcases := retrieve_cases cancelled h hseen relevance request
    rw [Meets] at hcases
    apply sectionMoves_ofResult
    · intro error reached hrun
      rw [hrun] at hcases
      exact hcases.1
    · intro value reached hrun
      rw [hrun] at hcases
      exact ⟨hcases, applies_of_none rfl⟩
  | delete id expected =>
    apply sectionMoves_ofResult fun _ _ => delete_stopped
    intro value reached hrun
    obtain ⟨hmove, happlies⟩ := delete_storeMove h.ids hrun
    refine ⟨hmove, ?_⟩
    intro other revision hexpected
    cases hexpected
    exact happlies
  | mergePeople source target =>
    apply sectionMoves_ofResult fun _ _ => stopped_atomically
    intro value reached hrun
    exact ⟨mergePeople_storeMove h.people hrun, applies_of_none rfl⟩
  | createPerson =>
    apply sectionMoves_ofResult fun _ _ => stopped_atomically
    intro value reached hrun
    exact ⟨createPerson_storeMove h.people hrun, applies_of_none rfl⟩
  | deletePerson id =>
    apply sectionMoves_ofResult fun _ _ => stopped_atomically
    intro value reached hrun
    exact ⟨deletePerson_storeMove hrun, applies_of_none rfl⟩

variable (relevance) in
/-- What a section of a call does to the store. -/
theorem MemoryStage.step_moves {stage : MemoryStage} (hwarranted : stage.Warranted store) :
    SectionMoves hash store (stage.step hash relevance store) := by
  cases stage with
  | requested operation => exact performOperation_moves h hseen operation
  | expiring id now purpose =>
    apply sectionMoves_ofResult fun _ _ => stopped_atomically
    intro count reached hrun
    exact ⟨expireDue_storeMove h.people hrun, applies_of_none rfl⟩
  | reading id purpose =>
    simp only [step]
    cases (queryRecord hash id store).1 <;> exact .stayed _
  | editing id patch current draft =>
    obtain ⟨hplan, hread, -⟩ := hwarranted
    apply sectionMoves_ofResult fun _ _ => stopped_atomically
    intro value reached hrun
    obtain ⟨hmove, happlies⟩ := writeEdit_storeMove h.ids h.people hplan hread hrun
    refine ⟨hmove, ?_⟩
    intro other revision hexpected
    cases hexpected
    exact happlies
  | approving id approval current =>
    obtain ⟨hcheck, hread, -⟩ := hwarranted
    apply sectionMoves_ofResult fun _ _ => stopped_atomically
    intro value reached hrun
    obtain ⟨hmove, happlies⟩ := writeApproval_storeMove h.ids hcheck hread hrun
    refine ⟨hmove, ?_⟩
    intro other revision hexpected
    cases hexpected
    exact happlies
  | pinning id change current =>
    obtain ⟨hcheck, hread, -⟩ := hwarranted
    apply sectionMoves_ofResult fun _ _ => stopped_atomically
    intro value reached hrun
    obtain ⟨hmove, happlies⟩ := writePinned_storeMove h.ids h.people hcheck hread hrun
    refine ⟨hmove, ?_⟩
    intro other revision hexpected
    rw [expected_pinNote] at hexpected
    cases hexpected
    exact happlies
  | returned result => exact .stayed _

end

/-- A call that goes on to write has read the store as it is. -/
theorem ReadingPurpose.next_warranted {current : MemoryRecord}
    (hread : (queryRecord hash id store).1 = .ok current) (purpose : ReadingPurpose) :
    (purpose.next id current).Warranted store := by
  obtain ⟨hwas, hrange⟩ := h.wasRead hread
  cases purpose with
  | answer => trivial
  | edit patch =>
    simp only [next]
    cases hplan : planEdit patch current with
    | ok draft => exact ⟨hplan, hwas, hrange⟩
    | error error => trivial
  | approve approval =>
    simp only [next]
    cases hcheck : checkApproval approval current with
    | ok checked => exact ⟨hcheck, hwas, hrange⟩
    | error error => trivial
  | setPinned change =>
    simp only [next]
    cases hcheck : checkPinned change current with
    | ok checked => exact ⟨hcheck, hwas, hrange⟩
    | error error => trivial

theorem MemoryStage.step_warranted (stage : MemoryStage) :
    (stage.step hash relevance store).stage.Warranted (stage.step hash relevance store).store := by
  cases stage with
  | requested operation => cases operation <;> exact warranted_ofResult fun _ _ => trivial
  | expiring id now purpose | editing id patch current draft | approving id approval current
  | pinning id change current =>
    exact warranted_ofResult fun _ _ => trivial
  | reading id purpose =>
    simp only [step]
    cases hread : (queryRecord hash id store).1 with
    | ok current => exact purpose.next_warranted h hread
    | error error => trivial
  | returned result => trivial

/-! ## Conflicts -/

/-- All that a call changed was to expire what was due. -/
def OnlyDue (made : List MemoryChange) : Prop := ∀ change ∈ made, ∃ now, change = .expiredDue now

/-- A call has changed nothing of its own, or it will not report a conflict. -/
def MemoryCall.Honest (call : MemoryCall) : Prop := OnlyDue call.made ∨ call.stage.Settled

omit h in
theorem OnlyDue.append (h : OnlyDue made) {change : Option MemoryChange}
    (hchange : ∀ made ∈ change, ∃ now, made = .expiredDue now) : OnlyDue (made ++ change.toList) :=
  forall_mem_append.mpr ⟨h, fun made hmade => hchange made (Option.mem_toList.mp hmade)⟩

omit h in
/-- A transaction whose success settles its call, after a call that did nothing else. -/
theorem honest_ofResult
    (h : OnlyDue made) (hdone : ∀ value reached, outcome = (.ok value, reached) →
      (∃ now, change = .expiredDue now) ∨ (next value).Settled) :
    Honest ⟨(ofResult outcome change next).stage,
      made ++ (ofResult outcome change next).change.toList⟩ := by
  obtain ⟨result, reached⟩ := outcome
  cases result with
  | ok value =>
    rcases hdone value reached rfl with hdue | hsettled
    · refine .inl (h.append ?_)
      intro made hmade
      cases hmade
      exact hdue
    · exact .inr hsettled
  | error error =>
    refine .inl (h.append ?_)
    intro made hmade
    cases hmade

omit h in
theorem settled_ok (answer : MemoryAnswer) : (returned (.ok answer)).Settled := by
  intro error herror
  cases herror

theorem performOperation_honest {operation : MemoryOperation} (honly : OnlyDue made) :
    Honest ⟨(performOperation hash relevance store operation).stage,
      made ++ (performOperation hash relevance store operation).change.toList⟩ := by
  cases operation with
  | create draft =>
    apply honest_ofResult honly
    intro id reached hrun
    exact .inr (writeDraft_storeMove hash h.people hrun).2
  | pruneExpired now => exact honest_ofResult honly fun _ _ _ => .inl ⟨now, rfl⟩
  | expireSession sessionId expiredAt | retrieve request cancelled | delete id expected
  | mergePeople source target | createPerson =>
    exact honest_ofResult honly fun _ _ _ => .inr (settled_ok _)
  | deletePerson id => exact honest_ofResult honly fun _ _ _ => .inr (settled_ok _)

/-- The answer of a settled call is read without a conflict. -/
theorem MemoryStage.step_settled {stage : MemoryStage} (hsettled : stage.Settled) :
    (stage.step hash relevance store).stage.Settled := by
  cases stage with
  | expiring id now purpose =>
    cases purpose with
    | answer =>
      obtain ⟨count, reached, hrun⟩ := expireDueIn_ok h now
      have hexpired : expireDue now store = (.ok count, reached) := atomically_of_ok hrun
      simp only [step, hexpired, ofResult]
      exact hsettled
    | edit | approve | setPinned => exact hsettled.elim
  | reading id purpose =>
    cases purpose with
    | answer =>
      simp only [step]
      rcases queryRecord_cases h id with
        ⟨-, hrange⟩ | ⟨hmissing, -⟩ | ⟨row, -, -, record, hread, -⟩
      · exact absurd hsettled hrange
      · rw [hmissing]
        intro error herror
        cases herror
        decide
      · rw [hread]
        exact settled_ok _
    | edit | approve | setPinned => exact hsettled.elim
  | returned result => exact hsettled
  | requested | editing | approving | pinning => exact hsettled.elim

theorem MemoryStage.step_honest {stage : MemoryStage} (hwarranted : stage.Warranted store)
    (hhonest : Honest ⟨stage, made⟩) :
    Honest ⟨(stage.step hash relevance store).stage,
      made ++ (stage.step hash relevance store).change.toList⟩ := by
  rcases hhonest with honly | hsettled
  · cases stage with
    | requested operation => exact performOperation_honest h honly
    | expiring id now purpose => exact honest_ofResult honly fun _ _ _ => .inl ⟨now, rfl⟩
    | reading id purpose =>
      simp only [step]
      cases (queryRecord hash id store).1 <;> exact .inl (honly.append nofun)
    | editing id patch current draft | approving id approval current
    | pinning id change current =>
      exact honest_ofResult honly fun _ _ _ => .inr hwarranted.2.2
    | returned result => exact .inl (honly.append nofun)
  · exact .inr (step_settled h hsettled)

end Sections

end ConversationRuntime
