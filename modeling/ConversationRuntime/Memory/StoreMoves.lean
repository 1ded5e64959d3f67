import ConversationRuntime.Memory.Moves

/-! # What a transaction does to the store

A transaction that fails leaves the store as it was. One that commits changes rows,
adds a memory with its first source, adds an approval to the row that it approves, or
removes memories with what belongs to them. A change that expects a revision finds it
and counts it up.
-/

namespace ConversationRuntime

open Foundation Fallible MemoryRow List

/-- What a transaction may do to the store. -/
inductive StoreMove (hash : ContentHash) (before : MemoryStore) : MemoryStore → Prop where
  | rows (people : List PersonRow) (lastPersonId : PersonId) (lastTraceId : Nat)
      (move : MemoryRow → MemoryRow) (added : List SourceRow)
      (hpeople : ∀ person ∈ people, 0 < person.id)
      (hmove : ∀ row ∈ before.memories, row.Moves (move row))
      (hdemotes : ∀ row ∈ before.memories, row.Demotes (move row))
      (hadded : ∀ source ∈ added, ∃ provenance, rowToProvenance source = .ok provenance) :
      StoreMove hash before { before with
        people := people
        memories := before.memories.map move
        sources := before.sources ++ added
        lastPersonId := lastPersonId
        lastTraceId := lastTraceId }
  | approved (id : MemoryId) (approval : MemoryApproval) (content : String)
      (move : MemoryRow → MemoryRow) (createdAt : UnixTimestampMillis)
      (hknown : ∃ row ∈ before.memories, row.id = id)
      (hothers : ∀ row ∈ before.memories, row.id ≠ id → move row = row)
      (hrow : ∀ row ∈ before.memories, row.id = id →
        move row = row.approve approval.confirmedAt ∧ row.Moves (move row) ∧
        row.state = .candidate ∧ row.revision = approval.expectedRevision ∧
        row.content = content) :
      StoreMove hash before { before with
        memories := before.memories.map move
        approvals := before.approvals ++
          [⟨id, approval.confirmationId.text, approval.actor.text, approval.confirmedAt,
            approval.expectedRevision, contentDigest hash content, createdAt⟩] }
  | created (row : MemoryRow) (source : SourceRow) (hid : row.id = before.lastMemoryId + 1)
      (hrevision : row.revision = 1)
      (hstate : row.state = .active → row.kind.requiresApproval = false)
      (hallowed : row.allowed = true) (hblank : isBlank row.content = false) (hkept : row.Kept)
      (hpinned : row.pinned = false) (hsubject : 0 < row.subject)
      (howner : source.memoryId = row.id)
      (hsource : ∃ provenance, rowToProvenance source = .ok provenance) :
      StoreMove hash before { before with
        memories := before.memories ++ [row]
        sources := before.sources ++ [source]
        lastMemoryId := row.id }
  | removed (people : List PersonRow) (condition : MemoryRow → Bool)
      (hpeople : ∀ person ∈ people, person ∈ before.people) :
      StoreMove hash before { before with
        people := people
        memories := before.memories.filter fun row => !condition row
        sources := before.sources.filter fun source =>
          (before.memories.filter fun row => !condition row).any (·.id == source.memoryId)
        approvals := before.approvals.filter fun approval =>
          (before.memories.filter fun row => !condition row).any (·.id == approval.memoryId) }

/-- A change that expects a revision finds the record at it and leaves it at the next. -/
def Applies (id : MemoryId) (expected : Nat) (before after : MemoryStore) : Prop :=
  (∃ row ∈ before.memories, row.id = id ∧ row.revision = expected) ∧
    ∀ row ∈ after.memories, row.id = id → row.revision = expected + 1

section Statements

variable {store reached : MemoryStore}
  {condition : MemoryRow → Bool} {change : MemoryRow → MemoryRow}

theorem updateMemories_ok
    (h : ∀ row ∈ store.memories, condition row = true → (change row).allowed = true) :
    updateMemories condition change store = (.ok (store.memories.countP condition), { store with
        memories := store.memories.map fun row => if condition row then change row else row }) := by
  have hallowed : (store.memories.filter condition).all (fun row => (change row).allowed) =
      true := by
    rw [all_eq_true]
    intro row hrow
    exact h row (mem_filter.mp hrow).1 (mem_filter.mp hrow).2
  rw [updateMemories, read_bind, bind_of_ok (require_of_true hallowed store)]
  rfl

theorem updateMemories_returned {count : Nat}
    (h : updateMemories condition change store = (.ok count, reached)) :
    count = store.memories.countP condition ∧ reached = { store with
        memories := store.memories.map fun row => if condition row then change row else row } ∧
      ∀ row ∈ store.memories, condition row = true → (change row).allowed = true := by
  obtain ⟨hallowed, hrest⟩ := returned_require_bind h
  cases hrest
  refine ⟨rfl, rfl, ?_⟩
  intro row hrow hcondition
  exact all_eq_true.mp hallowed row (mem_filter.mpr ⟨hrow, hcondition⟩)

/-- A row that is changed under a condition, or not at all. -/
theorem moved_of_condition {row : MemoryRow}
    (h : condition row = true → row.Moves (change row) ∧ row.Demotes (change row)) :
    row.Moves (if condition row then change row else row) ∧
      row.Demotes (if condition row then change row else row) := by
  split
  next hcondition => exact h hcondition
  next => exact ⟨.refl row, .refl row⟩

/-- Rows that are changed under a condition, with the sources that are added. -/
theorem StoreMove.of_update {hash : ContentHash} {people : List PersonRow}
    {sources added : List SourceRow} (hsources : sources = store.sources ++ added)
    (hadded : ∀ source ∈ added, ∃ provenance, rowToProvenance source = .ok provenance)
    (hpeople : ∀ person ∈ people, 0 < person.id) (hchange : ∀ row ∈ store.memories,
      condition row = true → row.Moves (change row) ∧ row.Demotes (change row)) :
    StoreMove hash store { store with
      people := people
      memories := store.memories.map fun row => if condition row then change row else row
      sources := sources } := by
  subst hsources
  have hrows := fun row hrow => moved_of_condition (hchange row hrow)
  exact .rows people _ _ _ added hpeople (fun row hrow => (hrows row hrow).1)
    (fun row hrow => (hrows row hrow).2) hadded

end Statements

/-- What a caller read earlier still says what a record holds at the revision they read. -/
structure WasRead (id : MemoryId) (current : MemoryRecord) (store : MemoryStore) : Prop where
  known : id ≤ store.lastMemoryId
  agrees : ∀ row ∈ store.memories, row.id = id →
    current.revision ≤ row.revision ∧ (row.revision = current.revision → Agrees current row)

section Transactions

variable {hash : ContentHash} {store reached : MemoryStore}

theorem allowed_expire {time : UnixTimestampMillis} {row : MemoryRow} (h : row.allowed = true) :
    (row.expire time).allowed = true := by
  rw [allowed_iff] at h ⊢
  exact { h with
    updated := h.updated.trans (Nat.le_max_left _ _)
    revision := Nat.le_add_left 1 row.revision }

variable {condition : MemoryRow → Bool} {count expected : Nat} {id : MemoryId}
  {current : MemoryRecord}

theorem newRow_kept (id : MemoryId) (draft : MemoryDraft) :
    (newRow id draft (.ofRetention draft.retention)).Kept := by
  refine ⟨⟨draft.retention, rfl, draft.allowed⟩, ?_⟩
  intro columns hcolumns
  cases hcolumns

theorem rowToProvenance_insert (id : MemoryId) (provenance : MemoryProvenance)
    (createdAt : UnixTimestampMillis) :
    rowToProvenance ⟨id, provenance.kind, provenance.sourceId.text, provenance.sourceTimestamp,
      provenance.actor.text, provenance.contentDigest.map BoundedText.text, createdAt⟩ =
      .ok provenance := provenance.new_parts

variable {approval : MemoryApproval}

theorem checkApproval_eq_ok (h : checkApproval approval current = .ok ()) :
    current.revision = approval.expectedRevision ∧ current.updatedAt ≤ approval.confirmedAt := by
  unfold checkApproval at h
  split at h
  next => cases h
  next hchecked =>
    simp only [not_or, ne_eq, not_not, Nat.not_lt] at hchecked
    exact ⟨hchecked.1, hchecked.2.2.2⟩

theorem checkPinned_eq_ok {change : PinChange} (h : checkPinned change current = .ok ()) :
    current.revision = change.expectedRevision ∧ current.updatedAt ≤ change.changedAt := by
  unfold checkPinned at h
  split at h
  next => cases h
  next hchecked =>
    simp only [not_or, ne_eq, not_not, Nat.not_lt] at hchecked
    exact ⟨hchecked.1, hchecked.2.2.2.2⟩

theorem eq_of_guard {row : MemoryRow} (h : (row.id == id && row.revision == expected) = true) :
    row.id = id ∧ row.revision = expected := by
  simpa using h

section

variable (hpeople : ∀ person ∈ store.people, 0 < person.id)

include hpeople

/-- Rows that are expired under a condition. -/
theorem expired_storeMove {time : UnixTimestampMillis}
    (h : updateMemories condition (expire time) store = (.ok count, reached)) :
    StoreMove hash store reached := by
  obtain ⟨-, rfl, hallowed⟩ := updateMemories_returned h
  apply StoreMove.of_update (append_nil _).symm (by simp) hpeople
  intro row hrow hcondition
  exact ⟨expire_moves fun _ => hallowed row hrow hcondition, expire_demotes time row⟩

theorem expireDue_storeMove {now : UnixTimestampMillis}
    (h : expireDue now store = (.ok count, reached)) :
    StoreMove hash store reached := expired_storeMove hpeople (returned_atomically h)

variable (hash) in
theorem writeDraft_storeMove {draft : MemoryDraft} {id : MemoryId}
    (h : writeDraft draft store = (.ok id, reached)) :
    StoreMove hash store reached ∧ id < 2 ^ 63 := by
  obtain ⟨columns, hcolumns, hrest⟩ := returned_lift_bind (returned_atomically h)
  obtain ⟨_, -, hrest⟩ := returned_lift_bind hrest
  obtain ⟨hsubject, hrest⟩ := returned_require_bind hrest
  obtain ⟨found, between, hinsert, hrest⟩ := returned_bind hrest
  obtain ⟨⟨hid, hallowed⟩, hinsert⟩ := returned_require_bind hinsert
  cases hinsert
  cases hrest
  cases retentionColumns_eq_ok hcolumns
  obtain ⟨person, hperson, hidentifier⟩ := any_eq_true.mp hsubject
  refine ⟨?_, hid⟩
  refine .created (newRow (store.lastMemoryId + 1) draft (.ofRetention draft.retention))
    ⟨_, _, _, _, _, _, _⟩ rfl rfl ?_ hallowed draft.content.notBlank (newRow_kept _ draft) rfl ?_
      rfl
    ⟨draft.provenance, rowToProvenance_insert _ _ _⟩
  · -- A memory that needs an approval is created as a candidate.
    intro hactive
    cases happroval : draft.kind.requiresApproval with
    | false => exact happroval
    | true => simp [newRow, MemoryDraft.initialState, happroval] at hactive
  · rw [show (newRow (store.lastMemoryId + 1) draft (.ofRetention draft.retention)).subject =
      draft.subject from rfl, ← beq_iff_eq.mp hidentifier]
    exact hpeople person hperson

end

section

variable (hids : (store.memories.map MemoryRow.id).Nodup)

include hids

/-- The one row that a guard picks. -/
theorem exists_guarded (hguard : ∀ row, condition row = true → row.id = id)
    (hcount : store.memories.countP condition = 1) :
    ∃ row ∈ store.memories, condition row = true ∧
      ∀ other ∈ store.memories, other.id = id → other = row := by
  have hpositive : 0 < store.memories.countP condition := by omega
  obtain ⟨row, hrow, hcondition⟩ := countP_pos_iff.mp hpositive
  refine ⟨row, hrow, hcondition, ?_⟩
  intro other hother hid
  exact inj_on_of_nodup_map hids hother hrow (hid.trans (hguard row hcondition).symm)

/-- An update of the row at a revision applies to it. -/
theorem applies_update {change : MemoryRow → MemoryRow}
    (hguard : ∀ row, condition row = true → row.id = id ∧ row.revision = expected)
    (hcount : store.memories.countP condition = 1) (hreached : reached.memories =
      store.memories.map fun row => if condition row then change row else row)
    (hid : ∀ row, (change row).id = row.id)
    (hchange : ∀ row, (change row).revision = row.revision + 1) :
    Applies id expected store reached := by
  obtain ⟨row, hrow, hcondition, hunique⟩ :=
    exists_guarded hids (fun row hrow => (hguard row hrow).1) hcount
  obtain ⟨hrowId, hrevision⟩ := hguard row hcondition
  refine ⟨⟨row, hrow, hrowId, hrevision⟩, ?_⟩
  intro after hafter hafterId
  rw [hreached, mem_map] at hafter
  obtain ⟨before, hbefore, rfl⟩ := hafter
  have hsame : before = row := by
    apply hunique before hbefore
    split at hafterId
    next => rw [← hid before, hafterId]
    next => exact hafterId
  subst hsame
  rw [if_pos hcondition, hchange, hrevision]

theorem writeApproval_storeMove (hcheck : checkApproval approval current = .ok ())
    (hread : WasRead id current store)
    (h : writeApproval hash id approval current store = (.ok (), reached)) :
    StoreMove hash store reached ∧ Applies id approval.expectedRevision store reached := by
  obtain ⟨_, -, hrest⟩ := returned_lift_bind (returned_atomically h)
  obtain ⟨_, -, hrest⟩ := returned_lift_bind hrest
  obtain ⟨count, between, hupdate, hguarded⟩ := returned_bind hrest
  obtain ⟨hcount, hinsert⟩ := returned_require_bind hguarded
  obtain ⟨_, -, hinserted⟩ := returned_lift_bind hinsert
  obtain ⟨rfl, rfl, hallowed⟩ := updateMemories_returned hupdate
  cases hinserted
  obtain ⟨hexpected, htime⟩ := checkApproval_eq_ok hcheck
  have hguard : ∀ row : MemoryRow, (row.id == id && row.revision == approval.expectedRevision &&
      row.state == .candidate && row.kind.requiresApproval) = true →
      row.id = id ∧ row.revision = approval.expectedRevision ∧ row.state = .candidate := by
    intro row hrow
    simp only [Bool.and_eq_true, beq_iff_eq] at hrow
    exact ⟨hrow.1.1.1, hrow.1.1.2, hrow.1.2⟩
  obtain ⟨found, hfound, hcondition, hunique⟩ :=
    exists_guarded hids (fun row hrow => (hguard row hrow).1) hcount
  obtain ⟨hfoundId, hrevision, hcandidate⟩ := hguard found hcondition
  have hagrees : Agrees current found :=
    (hread.agrees found hfound hfoundId).2 (hrevision.trans hexpected.symm)
  constructor
  · apply StoreMove.approved id approval current.draft.content.text _ approval.confirmedAt
    · exact ⟨found, hfound, hfoundId⟩
    · intro row _ hid
      apply if_neg
      intro hrow
      exact hid (hguard row hrow).1
    · intro row hrow hid
      cases hunique row hrow hid
      refine ⟨if_pos hcondition, ?_, hcandidate, hrevision, hagrees.content⟩
      rw [if_pos hcondition]
      apply approve_moves (fun _ => hallowed _ hrow hcondition) hcandidate
      rw [hagrees.updatedAt]
      exact htime
  · exact applies_update hids (fun row hrow => ⟨(hguard row hrow).1, (hguard row hrow).2.1⟩) hcount
      rfl
      (fun _ => rfl) fun _ => rfl

theorem delete_storeMove (h : delete id expected store = (.ok (), reached)) :
    StoreMove hash store reached ∧ Applies id expected store reached := by
  obtain ⟨_, hdelete⟩ := returned_require_bind h
  obtain ⟨_, -, hrest⟩ := returned_lift_bind (returned_atomically hdelete)
  obtain ⟨_, -, hremoval⟩ := returned_lift_bind hrest
  obtain ⟨count, between, hremoved, hguarded⟩ := returned_bind hremoval
  obtain ⟨hcount, rfl⟩ := returned_require hguarded
  cases hremoved
  obtain ⟨row, hrow, hcondition, hunique⟩ :=
    exists_guarded hids (fun _ hrow => (eq_of_guard hrow).1) hcount
  refine ⟨.removed store.people _ fun _ hperson => hperson, ?_⟩
  refine ⟨⟨row, hrow, eq_of_guard hcondition⟩, ?_⟩
  intro after hafter hid
  obtain ⟨hmember, hkept⟩ := mem_filter.mp hafter
  cases hunique after hmember hid
  simp only [hcondition] at hkept
  cases hkept

variable (hpeople : ∀ person ∈ store.people, 0 < person.id)

include hpeople

theorem writeEdit_storeMove {patch : MemoryPatch} {draft : MemoryDraft}
    (hplan : planEdit patch current = .ok draft) (hread : WasRead id current store)
    (h : writeEdit id patch current draft store = (.ok (), reached)) :
    StoreMove hash store reached ∧ Applies id patch.expectedRevision store reached := by
  obtain ⟨columns, hcolumns, hrest⟩ := returned_lift_bind (returned_atomically h)
  obtain ⟨_, -, hrest⟩ := returned_lift_bind hrest
  obtain ⟨_, -, hrest⟩ := returned_lift_bind hrest
  obtain ⟨count, between, hupdate, hguarded⟩ := returned_bind hrest
  obtain ⟨hcount, hinsert⟩ := returned_require_bind hguarded
  obtain ⟨rfl, rfl, hallowed⟩ := updateMemories_returned hupdate
  cases retentionColumns_eq_ok hcolumns
  cases hinsert
  obtain ⟨hexpected, -⟩ := planEdit_eq_ok hplan
  -- The guard finds the revision that was read, so the row is as it was read.
  have hagrees : ∀ row ∈ store.memories,
      (row.id == id && row.revision == patch.expectedRevision) = true → Agrees current row := by
    intro row hrow hcondition
    obtain ⟨hid, hrevision⟩ := eq_of_guard hcondition
    exact (hread.agrees row hrow hid).2 (hrevision.trans hexpected.symm)
  constructor
  · apply StoreMove.of_update rfl _ hpeople
    · intro row hrow hcondition
      exact ⟨edit_moves hplan (hagrees row hrow hcondition)
        fun _ => hallowed row hrow hcondition, edit_demotes (hagrees row hrow hcondition)⟩
    · intro source hsource
      rw [mem_singleton] at hsource
      subst hsource
      exact ⟨patch.provenance, rowToProvenance_insert _ _ _⟩
  · exact applies_update hids (fun _ => eq_of_guard) hcount rfl (fun _ => rfl) fun _ => rfl

/-- A change of one row that moves it, under a guard that names its revision. -/
theorem guarded_storeMove {change : MemoryRow → MemoryRow}
    (h : updateMemories condition change store = (.ok count, reached)) (hcount : count = 1)
    (hguard : ∀ row, condition row = true → row.id = id ∧ row.revision = expected)
    (hmove : ∀ row ∈ store.memories, condition row = true → (change row).allowed = true →
      row.Moves (change row) ∧ row.Demotes (change row))
    (hid : ∀ row, (change row).id = row.id)
    (hchange : ∀ row, (change row).revision = row.revision + 1) :
    StoreMove hash store reached ∧ Applies id expected store reached := by
  obtain ⟨rfl, rfl, hallowed⟩ := updateMemories_returned h
  constructor
  · apply StoreMove.of_update (append_nil _).symm (by simp) hpeople
    intro row hrow hcondition
    exact hmove row hrow hcondition (hallowed row hrow hcondition)
  · exact applies_update hids hguard hcount rfl hid hchange

theorem writePinned_storeMove {change : PinChange} (hcheck : checkPinned change current = .ok ())
    (hread : WasRead id current store) (h : writePinned id change store = (.ok (), reached)) :
    StoreMove hash store reached ∧ Applies id change.expectedRevision store reached := by
  obtain ⟨_, -, hrest⟩ := returned_lift_bind (returned_atomically h)
  obtain ⟨_, -, hwrite⟩ := returned_lift_bind hrest
  obtain ⟨count, between, hupdate, hguarded⟩ := returned_bind hwrite
  obtain ⟨hcount, rfl⟩ := returned_require hguarded
  obtain ⟨hexpected, htime⟩ := checkPinned_eq_ok hcheck
  -- At the revision that was read, the row is not younger than the change.
  have hlater : ∀ row ∈ store.memories, row.id = id → row.revision = change.expectedRevision →
      row.updatedAt ≤ change.changedAt := by
    intro row hrow hid hrevision
    rw [((hread.agrees row hrow hid).2 (hrevision.trans hexpected.symm)).updatedAt]
    exact htime
  unfold updatePinned at hupdate
  split at hupdate
  next =>
    apply guarded_storeMove hids hpeople hupdate hcount
    · intro row hrow
      simp only [Bool.and_eq_true, beq_iff_eq] at hrow
      exact hrow.1.1
    · intro row hrow hcondition hallowed
      simp only [Bool.and_eq_true, beq_iff_eq, Bool.not_eq_true', bne_iff_ne] at hcondition
      exact ⟨pin_moves (fun _ => hallowed) hcondition.1.2 hcondition.2
        (hlater row hrow hcondition.1.1.1 hcondition.1.1.2), pin_demotes _ row⟩
    · exact fun _ => rfl
    · exact fun _ => rfl
  next =>
    apply guarded_storeMove hids hpeople hupdate hcount
    · intro row hrow
      simp only [Bool.and_eq_true, beq_iff_eq] at hrow
      exact hrow.1.1
    · intro row hrow hcondition hallowed
      simp only [Bool.and_eq_true, beq_iff_eq] at hcondition
      exact ⟨unpin_moves (fun _ => hallowed)
        (hlater row hrow hcondition.1.1.1 hcondition.1.1.2), unpin_demotes _ row⟩
    · exact fun _ => rfl
    · exact fun _ => rfl

end

/-! ## People -/

theorem createPerson_storeMove (hpeople : ∀ person ∈ store.people, 0 < person.id) {id : PersonId}
    (h : createPerson store = (.ok id, reached)) : StoreMove hash store reached := by
  have hcreate := returned_atomically h
  obtain ⟨-, hrest⟩ := returned_require_bind hcreate
  cases hrest
  have hmoved : StoreMove hash store _ := .rows
    (store.people ++ [⟨store.lastPersonId + 1, false⟩]) (store.lastPersonId + 1) store.lastTraceId
    (fun row => row) [] ?_
    (fun row _ => .refl row) (fun row _ => .refl row) (by simp)
  · simpa using hmoved
  · exact forall_mem_snoc hpeople (Nat.succ_pos _)

theorem requirePerson_returned {id : PersonId} {isOwner : Bool}
    (h : requirePerson id store = (.ok isOwner, reached)) :
    reached = store ∧ ∃ person ∈ store.people, person.id = id := by
  obtain ⟨person, hperson, hrest⟩ := returned_lift_bind h
  cases hrest
  have hfound := orError_eq_ok.mp hperson
  refine ⟨rfl, person, mem_of_find?_eq_some hfound, ?_⟩
  simpa using find?_some hfound

theorem deletePerson_storeMove {id : PersonId} (h : deletePerson id store = (.ok (), reached)) :
    StoreMove hash store reached := by
  obtain ⟨_, -, hrest⟩ := returned_lift_bind (returned_atomically h)
  obtain ⟨isOwner, between, hperson, hremoval⟩ := returned_bind hrest
  obtain ⟨rfl, -⟩ := requirePerson_returned hperson
  obtain ⟨-, hremove⟩ := returned_require_bind hremoval
  cases hremove
  apply StoreMove.removed
  intro person hperson
  exact (mem_filter.mp hperson).1

theorem mergePeople_storeMove (hpeople : ∀ person ∈ store.people, 0 < person.id)
    {source target : PersonId} (h : mergePeople source target store = (.ok (), reached)) :
    StoreMove hash store reached := by
  obtain ⟨_, -, hrest⟩ := returned_lift_bind (returned_atomically h)
  obtain ⟨_, -, hlooked⟩ := returned_lift_bind hrest
  obtain ⟨isOwner, between, hsource, hpeopled⟩ := returned_bind hlooked
  obtain ⟨rfl, -⟩ := requirePerson_returned hsource
  obtain ⟨_, between, htarget, hmerge⟩ := returned_bind hpeopled
  obtain ⟨rfl, person, hperson, rfl⟩ := requirePerson_returned htarget
  obtain ⟨-, hupdated⟩ := returned_require_bind hmerge
  obtain ⟨count, between, hupdate, hremove⟩ := returned_bind hupdated
  obtain ⟨-, rfl, hallowed⟩ := updateMemories_returned hupdate
  cases hremove
  apply StoreMove.of_update (append_nil _).symm (by simp)
  · intro other hother
    exact hpeople other (mem_filter.mp hother).1
  · intro row hrow hcondition
    have hquiet : row.Quiet { row with subject := person.id } :=
      ⟨rfl, rfl, rfl, rfl, rfl, rfl, rfl, rfl⟩
    exact ⟨hquiet.moves rfl rfl rfl (fun _ => hallowed row hrow hcondition)
      fun _ => hpeople person hperson, hquiet.demotes⟩

end Transactions

end ConversationRuntime
