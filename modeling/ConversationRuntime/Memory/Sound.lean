import ConversationRuntime.Memory.StoreMoves

/-! # What every store satisfies

Every row of a reachable store can be read back: its texts and its retentions are
legal, it has a source, and its latest approval fits where the record stands. An active
record that needs an approval was approved with the content it has. Every transaction
keeps this.
-/

namespace ConversationRuntime

open Foundation MemoryStore List

/-- What a record was at one revision. -/
structure MemoryVersion where
  id : MemoryId
  revision : Nat
  state : MemoryState
  content : String
deriving DecidableEq

def MemoryRow.version (row : MemoryRow) : MemoryVersion :=
  ⟨row.id, row.revision, row.state, row.content⟩

/-- The latest approval of a record was given for its content while it was a candidate. -/
def ApprovedAs (hash : ContentHash) (versions : List MemoryVersion) (store : MemoryStore)
    (row : MemoryRow) : Prop :=
  ∃ approval, (store.approvalsOf row.id).getLast? = some approval ∧
    approval.contentDigest = contentDigest hash row.content ∧
    ⟨row.id, approval.approvedRevision, .candidate, row.content⟩ ∈ versions

/-- What holds of one row and of what belongs to it. -/
structure RowSound (hash : ContentHash) (versions : List MemoryVersion) (store : MemoryStore)
    (row : MemoryRow) : Prop where
  allowed : row.allowed = true
  notBlank : isBlank row.content = false
  kept : row.Kept
  subject : 0 < row.subject
  sourced : store.sourcesOf row.id ≠ []
  placed : ∀ approval ∈ (store.approvalsOf row.id).getLast?,
    approval.confirmedAt ≤ row.updatedAt ∧ approval.approvedRevision < row.revision
  approved : row.state = .active → row.kind.requiresApproval = true →
    ApprovedAs hash versions store row

/-- What holds of the store, given what its records have been. -/
structure Sound (hash : ContentHash) (versions : List MemoryVersion) (store : MemoryStore) :
    Prop where
  people : ∀ person ∈ store.people, 0 < person.id
  ids : (store.memories.map MemoryRow.id).Nodup
  positive : ∀ row ∈ store.memories, 0 < row.id
  bounded : ∀ row ∈ store.memories, row.id ≤ store.lastMemoryId
  sources : ∀ source ∈ store.sources, ∃ provenance, rowToProvenance source = .ok provenance
  approvals : ∀ approval ∈ store.approvals, ∃ evidence, rowToApproval approval = .ok evidence
  approvalsBounded : ∀ approval ∈ store.approvals, approval.memoryId ≤ store.lastMemoryId
  rows : ∀ row ∈ store.memories, RowSound hash versions store row

section Preservation

variable {hash : ContentHash} {versions : List MemoryVersion} {before : MemoryStore}

theorem Sound.mono {more : List MemoryVersion} (h : Sound hash versions before)
    (hmore : ∀ version ∈ versions, version ∈ more) : Sound hash more before := by
  refine { h with rows := ?_ }
  intro row hrow
  refine { h.rows row hrow with approved := ?_ }
  intro hactive happroval
  obtain ⟨approval, hlast, hdigest, hversion⟩ := (h.rows row hrow).approved hactive happroval
  exact ⟨approval, hlast, hdigest, hmore _ hversion⟩

theorem sound_empty : Sound hash [] empty := by
  refine ⟨?_, ?_, ?_, ?_, ?_, ?_, ?_, ?_⟩ <;> simp [empty, ownerId]

variable {after : MemoryStore} {row : MemoryRow} {move : MemoryRow → MemoryRow}

/-- A row that moves stays sound where its approvals are the same and no source is
taken away. -/
theorem RowSound.moves {moved : MemoryRow} (h : RowSound hash versions before row)
    (hmove : row.Moves moved) (hdemotes : row.Demotes moved)
    (hsources : before.sourcesOf row.id ≠ [] → after.sourcesOf row.id ≠ [])
    (happrovals : after.approvalsOf row.id = before.approvalsOf row.id) :
    RowSound hash versions after moved where
  allowed := hmove.allowed h.allowed
  notBlank := hmove.notBlank h.notBlank
  kept := hmove.kept h.kept
  subject := hmove.subject h.subject
  sourced := by
    rw [hmove.id]
    exact hsources h.sourced
  placed := by
    rw [hmove.id, happrovals]
    intro approval hlast
    obtain ⟨hconfirmed, hrevision⟩ := h.placed approval hlast
    exact ⟨hconfirmed.trans hmove.updated, hrevision.trans_le hmove.revision_le⟩
  approved := by
    intro hactive happroval
    obtain ⟨hbefore, hcontent⟩ := hdemotes hactive
    rw [hmove.kind] at happroval
    obtain ⟨approval, hlast, hdigest, hversion⟩ := h.approved hbefore happroval
    refine ⟨approval, ?_, ?_, ?_⟩
    · rw [hmove.id, happrovals, hlast]
    · rw [hcontent happroval, hdigest]
    · rw [hmove.id, hcontent happroval]
      exact hversion

/-- Sources that are added take none away. -/
theorem sourced_append {added : List SourceRow} {id : MemoryId}
    (hsources : after.sources = before.sources ++ added) (h : before.sourcesOf id ≠ []) :
    after.sourcesOf id ≠ [] := by
  rw [sourcesOf, hsources, filter_append]
  exact fun hempty => h (append_eq_nil_iff.mp hempty).1

/-- The rows of a store after each of them moved. -/
theorem Sound.of_moved (h : Sound hash versions before)
    (hmemories : after.memories = before.memories.map move)
    (hlast : after.lastMemoryId = before.lastMemoryId)
    (hid : ∀ row ∈ before.memories, (move row).id = row.id)
    (hpeople : ∀ person ∈ after.people, 0 < person.id)
    (hsources : ∀ source ∈ after.sources, ∃ provenance, rowToProvenance source = .ok provenance)
    (happrovals : ∀ approval ∈ after.approvals, ∃ evidence, rowToApproval approval = .ok evidence)
    (hbounded : ∀ approval ∈ after.approvals, approval.memoryId ≤ before.lastMemoryId)
    (hrows : ∀ row ∈ before.memories, RowSound hash versions after (move row)) :
    Sound hash versions after where
  people := hpeople
  ids := by
    rw [hmemories, map_map]
    exact (map_congr_left hid).symm ▸ h.ids
  positive := by
    rw [hmemories]
    intro moved hmoved
    obtain ⟨row, hrow, rfl⟩ := mem_map.mp hmoved
    rw [hid row hrow]
    exact h.positive row hrow
  bounded := by
    rw [hmemories, hlast]
    intro moved hmoved
    obtain ⟨row, hrow, rfl⟩ := mem_map.mp hmoved
    rw [hid row hrow]
    exact h.bounded row hrow
  sources := hsources
  approvals := happrovals
  approvalsBounded := by
    rw [hlast]
    exact hbounded
  rows := by
    rw [hmemories]
    intro moved hmoved
    obtain ⟨row, hrow, rfl⟩ := mem_map.mp hmoved
    exact hrows row hrow

theorem approvalsOf_append (store : MemoryStore) (approval : ApprovalRow) (id : MemoryId) :
    ({ store with approvals := store.approvals ++ [approval] } : MemoryStore).approvalsOf id =
      store.approvalsOf id ++ if approval.memoryId = id then [approval] else [] := by
  simp only [approvalsOf, filter_append, filter_cons, filter_nil, beq_iff_eq]

/-- The row that is approved, with the approval that is now its latest. -/
theorem RowSound.approve {moved : MemoryRow} {approval : ApprovalRow}
    (h : RowSound hash versions before row) (hmove : row.Moves moved)
    (hseen : row.version ∈ versions) (hcandidate : row.state = .candidate)
    (hmoved : moved = row.approve approval.confirmedAt)
    (hrevision : row.revision = approval.approvedRevision)
    (hdigest : approval.contentDigest = contentDigest hash row.content)
    (hsources : after.sourcesOf row.id = before.sourcesOf row.id)
    (hlast : (after.approvalsOf row.id).getLast? = some approval) :
    RowSound hash versions after moved where
  allowed := hmove.allowed h.allowed
  notBlank := hmove.notBlank h.notBlank
  kept := hmove.kept h.kept
  subject := hmove.subject h.subject
  sourced := by
    rw [hmove.id, hsources]
    exact h.sourced
  placed := by
    rw [hmove.id, hlast, hmoved]
    intro stored hstored
    cases hstored
    refine ⟨le_rfl, ?_⟩
    rw [← hrevision]
    exact Nat.lt_succ_self row.revision
  approved := by
    intro _ _
    refine ⟨approval, ?_, ?_, ?_⟩
    · rw [hmove.id, hlast]
    · rw [hmoved]
      exact hdigest
    · rw [hmoved, ← hrevision]
      rw [MemoryRow.version, hcandidate] at hseen
      exact hseen

/-- A memory that is created comes with its source and without an approval. -/
theorem Sound.row_created {source : SourceRow} (h : Sound hash versions before)
    (hid : row.id = before.lastMemoryId + 1)
    (hstate : row.state = .active → row.kind.requiresApproval = false)
    (hallowed : row.allowed = true) (hblank : isBlank row.content = false) (hkept : row.Kept)
    (hsubject : 0 < row.subject) (howner : source.memoryId = row.id)
    (hsource : ∃ provenance, rowToProvenance source = .ok provenance) :
    Sound hash versions { before with
      memories := before.memories ++ [row]
      sources := before.sources ++ [source]
      lastMemoryId := row.id } := by
  have hfresh : ∀ old ∈ before.memories, old.id ≠ row.id := by
    intro old hold hsame
    have hbound := h.bounded old hold
    rw [hsame, hid] at hbound
    exact Nat.not_succ_le_self _ hbound
  have hgrows : before.lastMemoryId ≤ row.id := hid ▸ Nat.le_succ _
  refine ⟨h.people, ?_, forall_mem_snoc h.positive (hid ▸ Nat.succ_pos _),
    forall_mem_snoc (fun found hfound => (h.bounded found hfound).trans hgrows) le_rfl,
    forall_mem_snoc h.sources hsource, h.approvals,
    fun approval hmember => (h.approvalsBounded approval hmember).trans hgrows, ?_⟩
  · rw [map_append, nodup_append]
    refine ⟨h.ids, nodup_singleton _, ?_⟩
    intro id hmember other hother hsame
    obtain ⟨old, hold, rfl⟩ := mem_map.mp hmember
    exact hfresh old hold (hsame.trans (mem_singleton.mp hother))
  · refine forall_mem_snoc (fun found hfound =>
      (h.rows found hfound).moves (.refl found) (.refl found) (sourced_append rfl) rfl) ?_
    have hnone : before.approvalsOf row.id = [] := by
      rw [approvalsOf, filter_eq_nil_iff]
      intro approval hmember hsame
      have hbound := h.approvalsBounded approval hmember
      rw [beq_iff_eq.mp hsame, hid] at hbound
      exact Nat.not_succ_le_self _ hbound
    refine ⟨hallowed, hblank, hkept, hsubject, ?_, ?_, ?_⟩
    · simp [sourcesOf, howner]
    · intro approval hmember
      exact nomatch hnone ▸ hmember
    · intro hactive happroval
      rw [hstate hactive] at happroval
      cases happroval

/-- What belongs to a memory that stays is not removed. -/
theorem filter_owned {ρ : Type} {rows : List ρ} {owner : ρ → MemoryId} {kept : List MemoryRow}
    (hrow : row ∈ kept) :
    (rows.filter fun owned => kept.any (·.id == owner owned)).filter (owner · == row.id) =
      rows.filter (owner · == row.id) := by
  rw [filter_filter]
  apply filter_congr
  intro owned _
  by_cases hsame : owner owned = row.id
  · have hany : kept.any (·.id == owner owned) = true :=
      any_eq_true.mpr ⟨row, hrow, by simp [hsame]⟩
    rw [hany, Bool.and_true]
  · simp [hsame]

/-- Every transaction keeps the store sound. -/
theorem Sound.storeMove (h : Sound hash versions before)
    (hseen : ∀ row ∈ before.memories, row.version ∈ versions)
    (hmove : StoreMove hash before after) :
    Sound hash versions after := by
  cases hmove with
  | rows people lastPersonId lastTraceId move added hpeople hmove hdemotes hadded =>
    refine h.of_moved rfl rfl (fun row hrow => (hmove row hrow).id) hpeople ?_ h.approvals
      h.approvalsBounded ?_
    · exact forall_mem_append.mpr ⟨h.sources, hadded⟩
    · intro row hrow
      exact (h.rows row hrow).moves (hmove row hrow) (hdemotes row hrow) (sourced_append rfl) rfl
  | approved id approval content move createdAt hknown hothers hrow =>
    have hid : ∀ row ∈ before.memories, (move row).id = row.id := by
      intro row hmember
      by_cases hsame : row.id = id
      · exact (hrow row hmember hsame).2.1.id
      · rw [hothers row hmember hsame]
    refine h.of_moved rfl rfl hid h.people h.sources (forall_mem_snoc h.approvals
      ⟨_, (approval.evidenceFor hash content).fromStored_parts⟩) ?_ ?_
    · obtain ⟨row, hmember, rfl⟩ := hknown
      exact forall_mem_snoc h.approvalsBounded (h.bounded row hmember)
    · intro row hmember
      have happrovalsOf := fun added => approvalsOf_append before added row.id
      by_cases hsame : row.id = id
      · obtain ⟨hmoved, hmove, hcandidate, hrevision, rfl⟩ := hrow row hmember hsame
        have hlatest : ∀ added : ApprovalRow, added.memoryId = row.id → (approvalsOf
            { before with approvals := before.approvals ++ [added] } row.id).getLast? =
              some added := by
          intro added howner
          rw [happrovalsOf, if_pos howner, getLast?_concat]
        exact (h.rows row hmember).approve hmove (hseen row hmember) hcandidate hmoved hrevision
          (by rfl) rfl (hlatest _ hsame.symm)
      · rw [hothers row hmember hsame]
        refine (h.rows row hmember).moves (.refl row) (.refl row) (fun h => h) ?_
        exact (happrovalsOf _).trans (by simp [Ne.symm hsame])
  | created row source hid _ hstate hallowed hblank hkept _ hsubject howner hsource =>
    exact h.row_created hid hstate hallowed hblank hkept hsubject howner hsource
  | removed people condition hpeople =>
    have hmember : ∀ row ∈ before.memories.filter fun row => !condition row,
        row ∈ before.memories :=
      fun row hrow => (mem_filter.mp hrow).1
    refine ⟨fun person hperson => h.people person (hpeople person hperson), ?_, ?_, ?_, ?_, ?_, ?_,
      ?_⟩
    · exact (filter_sublist.map MemoryRow.id).nodup h.ids
    · exact fun row hrow => h.positive row (hmember row hrow)
    · exact fun row hrow => h.bounded row (hmember row hrow)
    · exact fun source hsource => h.sources source (mem_filter.mp hsource).1
    · exact fun approval happroval => h.approvals approval (mem_filter.mp happroval).1
    · exact fun approval happroval => h.approvalsBounded approval (mem_filter.mp happroval).1
    · intro row hrow
      refine (h.rows row (hmember row hrow)).moves (.refl row) (.refl row) ?_ (filter_owned hrow)
      intro hsourced hempty
      exact hsourced ((filter_owned hrow).symm.trans hempty)

end Preservation

end ConversationRuntime
