import ConversationRuntime.Foundation.Lists
import ConversationRuntime.Memory.Retrieval

/-! # What a transaction does to the rows

A transaction keeps what identifies a row. It either leaves alone everything that a
caller could have based a change on, or it counts the revision up by one. Which of the
two is said here once for every statement.
-/

namespace ConversationRuntime

open Foundation

/-! ## Rows -/

/-- The columns hold a retention that such a memory may have. -/
def Retained (kind : MemoryKind) (createdAt : UnixTimestampMillis) (columns : RetentionColumns) :
    Prop :=
  ∃ retention, columns = .ofRetention retention ∧
    validateRetention kind createdAt retention = .ok ()

/-- The retention of a row, and the one that a pin has put aside, are legal. -/
structure MemoryRow.Kept (row : MemoryRow) : Prop where
  retention : Retained row.kind row.createdAt row.retention
  prior : ∀ columns ∈ row.prior, Retained row.kind row.createdAt columns

/-- Nothing differs but who a memory is about and when it was used. -/
structure MemoryRow.Quiet (before after : MemoryRow) : Prop where
  state : after.state = before.state
  content : after.content = before.content
  confidence : after.confidence = before.confidence
  updatedAt : after.updatedAt = before.updatedAt
  retention : after.retention = before.retention
  pinned : after.pinned = before.pinned
  prior : after.prior = before.prior
  revision : after.revision = before.revision

/-- What a transaction may do to a row. What most of them do not touch is filled in. -/
structure MemoryRow.Moves (before after : MemoryRow) : Prop where
  id : after.id = before.id := by rfl
  kind : after.kind = before.kind := by rfl
  createdAt : after.createdAt = before.createdAt := by rfl
  allowed : before.allowed = true → after.allowed = true
  notBlank : isBlank before.content = false → isBlank after.content = false := by exact fun h => h
  kept : before.Kept → after.Kept
  subject : 0 < before.subject → 0 < after.subject := by exact fun h => h
  updated : before.updatedAt ≤ after.updatedAt
  expired : before.state = .expired → after.state = .expired
  counted : before.Quiet after ∨ after.revision = before.revision + 1
  /-- A pinned row keeps what it was pinned from until it is unpinned. -/
  pinned : before.pinned = true → after.pinned = true → after.prior = before.prior
  pins : before.pinned = false → after.pinned = true → after.prior = some before.retention
  unpins : before.pinned = true → after.pinned = false →
    after.retention = before.prior.getD before.retention

/-- A row is active after a transaction only if it was so with the same content. -/
def MemoryRow.Demotes (before after : MemoryRow) : Prop :=
  after.state = .active → before.state = .active ∧
    (before.kind.requiresApproval = true → after.content = before.content)

namespace MemoryRow

variable {before after : MemoryRow}

theorem Quiet.refl (row : MemoryRow) : row.Quiet row := ⟨rfl, rfl, rfl, rfl, rfl, rfl, rfl, rfl⟩

/-- A row that stays pinned, or unpinned, says nothing new about its pin. -/
theorem pin_kept (h : after.pinned = before.pinned) :
    (before.pinned = false → after.pinned = true → after.prior = some before.retention) ∧
      (before.pinned = true → after.pinned = false →
        after.retention = before.prior.getD before.retention) := by
  constructor <;>
  · intro hbefore hafter
    rw [h, hbefore] at hafter
    cases hafter

theorem Moves.refl (row : MemoryRow) : row.Moves row :=
  ⟨rfl, rfl, rfl, fun h => h, fun h => h, fun h => h, fun h => h, le_rfl, fun h => h,
    .inl (.refl row), fun _ _ => rfl, (pin_kept rfl).1, (pin_kept rfl).2⟩

theorem Demotes.refl (row : MemoryRow) : row.Demotes row := fun hactive => ⟨hactive, fun _ => rfl⟩

theorem Moves.revision_le (h : before.Moves after) : before.revision ≤ after.revision := by
  rcases h.counted with hquiet | hcounted
  · rw [hquiet.revision]
  · omega

theorem Quiet.moves (h : before.Quiet after) (hid : after.id = before.id)
    (hkind : after.kind = before.kind) (hcreated : after.createdAt = before.createdAt)
    (hallowed : before.allowed = true → after.allowed = true)
    (hsubject : 0 < before.subject → 0 < after.subject) : before.Moves after where
  id := hid
  kind := hkind
  createdAt := hcreated
  allowed := hallowed
  notBlank hblank := by rw [h.content, hblank]
  kept hkept := by
    constructor
    · rw [hkind, hcreated, h.retention]
      exact hkept.retention
    · rw [hkind, hcreated, h.prior]
      exact hkept.prior
  subject := hsubject
  updated := h.updatedAt.ge
  expired hexpired := by rw [h.state, hexpired]
  counted := .inl h
  pinned _ _ := h.prior
  pins := (pin_kept h.pinned).1
  unpins := (pin_kept h.pinned).2

theorem Quiet.demotes (h : before.Quiet after) : before.Demotes after := by
  intro hactive
  rw [h.state] at hactive
  exact ⟨hactive, fun _ => h.content⟩

variable {last row : MemoryRow} {time : UnixTimestampMillis}

theorem Quiet.trans (hfirst : before.Quiet after) (hnext : after.Quiet last) :
    before.Quiet last where
  state := hnext.state.trans hfirst.state
  content := hnext.content.trans hfirst.content
  confidence := hnext.confidence.trans hfirst.confidence
  updatedAt := hnext.updatedAt.trans hfirst.updatedAt
  retention := hnext.retention.trans hfirst.retention
  pinned := hnext.pinned.trans hfirst.pinned
  prior := hnext.prior.trans hfirst.prior
  revision := hnext.revision.trans hfirst.revision

/-- A quiet step after a move belongs to the move. -/
theorem Moves.trans_quiet (h : before.Moves after) (hnext : after.Moves last)
    (hquiet : after.Quiet last) : before.Moves last where
  id := hnext.id.trans h.id
  kind := hnext.kind.trans h.kind
  createdAt := hnext.createdAt.trans h.createdAt
  allowed := hnext.allowed ∘ h.allowed
  notBlank := hnext.notBlank ∘ h.notBlank
  kept := hnext.kept ∘ h.kept
  subject := hnext.subject ∘ h.subject
  updated := h.updated.trans hnext.updated
  expired := hnext.expired ∘ h.expired
  counted := by
    rcases h.counted with hsame | hcounted
    · exact .inl (hsame.trans hquiet)
    · exact .inr (hquiet.revision.trans hcounted)
  pinned hbefore hlast := by
    rw [hquiet.prior]
    exact h.pinned hbefore (hquiet.pinned ▸ hlast)
  pins hbefore hlast := by
    rw [hquiet.prior]
    exact h.pins hbefore (hquiet.pinned ▸ hlast)
  unpins hbefore hlast := by
    rw [hquiet.retention]
    exact h.unpins hbefore (hquiet.pinned ▸ hlast)

theorem Demotes.trans (h : before.Demotes after) (hnext : after.Demotes last)
    (hkind : after.kind = before.kind) : before.Demotes last := by
  intro hactive
  obtain ⟨hmiddle, hsame⟩ := hnext hactive
  obtain ⟨hfirst, hcontent⟩ := h hmiddle
  rw [hkind] at hsame
  exact ⟨hfirst, fun happroval => (hsame happroval).trans (hcontent happroval)⟩

/-! ## The statements -/

theorem expire_moves (hallowed : row.allowed = true → (row.expire time).allowed = true) :
    row.Moves (row.expire time) where
  allowed := hallowed
  kept hkept := ⟨hkept.retention, hkept.prior⟩
  updated := Nat.le_max_left _ _
  expired _ := rfl
  counted := .inr rfl
  pinned _ _ := rfl
  pins := (pin_kept rfl).1
  unpins := (pin_kept rfl).2

theorem expire_demotes (time : UnixTimestampMillis) (row : MemoryRow) :
    row.Demotes (row.expire time) := by
  intro hactive
  cases hactive

theorem use_quiet (now : UnixTimestampMillis) (reason : MemoryRetrievalReason) (row : MemoryRow) :
    row.Quiet (row.use now reason) := ⟨rfl, rfl, rfl, rfl, rfl, rfl, rfl, rfl⟩

theorem pin_moves (hallowed : row.allowed = true → (row.pin time).allowed = true)
    (hunpinned : row.pinned = false) (hworking : row.kind ≠ .working)
    (htime : row.updatedAt ≤ time) :
    row.Moves (row.pin time) where
  allowed := hallowed
  kept hkept := by
    constructor
    · refine ⟨.untilDeleted, rfl, ?_⟩
      simp [pin, validateRetention, hworking]
    · intro columns hcolumns
      cases hcolumns
      exact hkept.retention
  updated := htime
  expired hexpired := hexpired
  counted := .inr rfl
  pinned hpinned := by
    rw [hunpinned] at hpinned
    cases hpinned
  pins _ _ := rfl
  unpins _ hafter := by cases hafter

theorem unpin_moves (hallowed : row.allowed = true → (row.unpin time).allowed = true)
    (htime : row.updatedAt ≤ time) : row.Moves (row.unpin time) where
  allowed := hallowed
  kept hkept := by
    refine ⟨?_, by simp [unpin]⟩
    show Retained row.kind row.createdAt (row.prior.getD row.retention)
    cases hprior : row.prior with
    | none => exact hkept.retention
    | some columns => exact hkept.prior columns hprior
  updated := htime
  expired hexpired := hexpired
  counted := .inr rfl
  pinned _ hpinned := by cases hpinned
  pins _ hafter := by cases hafter
  unpins _ _ := rfl

theorem pin_demotes (time : UnixTimestampMillis) (row : MemoryRow) : row.Demotes (row.pin time) :=
  fun hactive => ⟨hactive, fun _ => rfl⟩

theorem unpin_demotes (time : UnixTimestampMillis) (row : MemoryRow) :
    row.Demotes (row.unpin time) := fun hactive => ⟨hactive, fun _ => rfl⟩

theorem approve_moves (hallowed : row.allowed = true → (row.approve time).allowed = true)
    (hcandidate : row.state = .candidate) (htime : row.updatedAt ≤ time) :
    row.Moves (row.approve time) where
  allowed := hallowed
  kept hkept := ⟨hkept.retention, hkept.prior⟩
  updated := htime
  expired hexpired := by
    rw [hcandidate] at hexpired
    cases hexpired
  counted := .inr rfl
  pinned _ _ := rfl
  pins := (pin_kept rfl).1
  unpins := (pin_kept rfl).2

end MemoryRow

/-- What a caller read is what a row holds. -/
structure Agrees (current : MemoryRecord) (row : MemoryRow) : Prop where
  kind : row.kind = current.draft.kind
  content : row.content = current.draft.content.text
  state : row.state = current.state
  createdAt : row.createdAt = current.draft.createdAt
  updatedAt : row.updatedAt = current.updatedAt
  retention : row.retention = .ofRetention current.draft.retention
  pinned : row.pinned = current.pinned

namespace MemoryRow

variable {patch : MemoryPatch} {current : MemoryRecord} {draft : MemoryDraft} {row : MemoryRow}

theorem planEdit_eq_ok (h : planEdit patch current = .ok draft) :
    current.revision = patch.expectedRevision ∧ current.updatedAt ≤ patch.editedAt ∧
      draft.kind = current.draft.kind ∧ draft.createdAt = current.draft.createdAt := by
  unfold planEdit at h
  split at h
  next => cases h
  next hrevision =>
    split at h
    next => cases h
    next htime =>
      split at h
      next => cases h
      split at h
      next => cases h
      next found hfound =>
        cases h
        exact ⟨not_not.mp hrevision, Nat.le_of_not_lt htime, MemoryDraft.new_eq_ok hfound⟩

theorem edit_moves (hplan : planEdit patch current = .ok draft) (hagrees : Agrees current row)
    (hallowed : row.allowed = true → (row.edit draft (.ofRetention draft.retention)
      (editedState current draft.content.text) patch.editedAt).allowed = true) :
    row.Moves (row.edit draft (.ofRetention draft.retention)
      (editedState current draft.content.text) patch.editedAt) := by
  obtain ⟨-, htime, hkind, hcreated⟩ := planEdit_eq_ok hplan
  have hpinned : (row.edit draft (.ofRetention draft.retention)
      (editedState current draft.content.text) patch.editedAt).pinned = row.pinned := rfl
  refine
    { allowed := hallowed
      counted := .inr rfl
      pins := (pin_kept hpinned).1
      unpins := (pin_kept hpinned).2
      notBlank := ?_, kept := ?_, updated := ?_, expired := ?_, pinned := ?_ }
  · intro _
    exact draft.content.notBlank
  · intro hkept
    refine ⟨⟨draft.retention, rfl, ?_⟩, hkept.prior⟩
    show validateRetention row.kind row.createdAt draft.retention = .ok ()
    rw [hagrees.kind, hagrees.createdAt, ← hkind, ← hcreated]
    exact draft.allowed
  · show row.updatedAt ≤ patch.editedAt
    rw [hagrees.updatedAt]
    exact htime
  · intro hexpired
    rw [hagrees.state] at hexpired
    simp [edit, editedState, hexpired]
  · intro _ _
    rfl

theorem edit_demotes {columns : RetentionColumns} (hagrees : Agrees current row) :
    row.Demotes
      (row.edit draft columns (editedState current draft.content.text) patch.editedAt) := by
  intro hactive
  have hstate : editedState current draft.content.text = .active := hactive
  unfold editedState at hstate
  split at hstate
  next => cases hstate
  next hsame =>
    refine ⟨hagrees.state.trans hstate, ?_⟩
    intro happroval
    rw [hagrees.content]
    by_contra hcontent
    rw [hagrees.kind] at happroval
    exact hsame ⟨happroval, hstate, hcontent⟩

end MemoryRow

end ConversationRuntime
