import ConversationRuntime.Media.Hub

/-! # Playback over whole runs

The lock-holding sections of a reservation's playback run in any order. A flush and the
frames of its generation are kept apart: the acknowledgement of the flush settles its own
entry, and a frame that was accepted before goes on waiting until it is rendered.
-/

namespace ConversationRuntime.NetworkPlayback

open Foundation Fallible Keeps Triple List

/-- A section, with what its caller and the clock bring along. -/
inductive PlaybackSection where
  | attachTransport (connectionId : Nat)
  | plannedDetach (connectionId : Nat)
  | claimFinish (connectionId : Nat)
  | markPlaybackWritten (connectionId sequence : Nat)
  | disconnectTransport (connectionId : Nat) (reconnectDeadline : Instant)
  | acknowledgePlayback (deadline : Instant) (connectionId sequence : Nat)
      (ack : NetworkPlaybackAck)
  | acknowledgeFlush (connectionId : Nat) (generationId : GenerationId)
  | enqueuePlayback (now : Instant) (generationId : GenerationId) (length : Nat)
  | requestFlush (generationId : GenerationId)
  | cancelPendingPlayback (sequence : Nat)
  | cancelPendingFlush (generationId : GenerationId)
  | expireAccepted (now : Instant)
  | expireWaiting (reconnectDeadline : Instant)

def step (maxQueueBytes : Nat) (state : NetworkPlayback) : PlaybackSection → NetworkPlayback
  | .attachTransport connectionId => (attachTransport connectionId state).2
  | .plannedDetach connectionId => (plannedDetach connectionId state).2
  | .claimFinish connectionId => (claimFinish connectionId state).2
  | .markPlaybackWritten connectionId sequence =>
    (markPlaybackWritten connectionId sequence state).2
  | .disconnectTransport connectionId deadline =>
    (disconnectTransport connectionId deadline state).2
  | .acknowledgePlayback deadline connectionId sequence ack =>
    (acknowledgePlayback deadline connectionId sequence ack state).2
  | .acknowledgeFlush connectionId generationId =>
    (acknowledgeFlush connectionId generationId state).2
  | .enqueuePlayback now generationId length =>
    (enqueuePlayback maxQueueBytes now generationId length state).2
  | .requestFlush generationId => (requestFlush generationId state).2
  | .cancelPendingPlayback sequence => cancelPendingPlayback sequence state
  | .cancelPendingFlush generationId => cancelPendingFlush generationId state
  | .expireAccepted now => expireAccepted now state
  | .expireWaiting deadline => expireWaiting deadline state

def run (maxQueueBytes : Nat) (sections : List PlaybackSection) : NetworkPlayback :=
  sections.foldl (step maxQueueBytes) .new

/-- No frame of the generation is pending. -/
def Free (generationId : GenerationId) (state : NetworkPlayback) : Prop :=
  ∀ entry ∈ state.pendingPlayback, entry.2.generationId ≠ generationId

/-- A flush is acknowledged while frames of its generation take all sixteen places: the
next generation finds no room, and a frame is still told as rendered. -/
theorem flushed_frame_rendered : ∃ sections : List PlaybackSection,
    let state := run 64 sections
    let flushed := (acknowledgeFlush 1 7 state).2
    (acknowledgeFlush 1 7 state).1 = .ok () ∧ ¬ Free 7 flushed ∧
      (enqueuePlayback 64 0 8 2 flushed).1 = .error playbackQueueFull ∧
      (acknowledgePlayback 9 1 1 .rendered flushed).1 = .ok (some ⟨7, .rendered⟩) := by
  refine ⟨.attachTransport 1 :: replicate 16 (.enqueuePlayback 0 7 2) ++
    [.acknowledgePlayback 5 1 1 .accepted, .requestFlush 7], ?_⟩
  unfold Free
  decide +kernel

/-- A flushed generation takes no part in playback any more: none of its frames is left,
the bound on pending frames is reached by those of other generations alone, and no
acknowledgement tells of a rendered frame. -/
structure FlushedAway (maxQueueBytes : Nat) (generationId : GenerationId)
    (state : NetworkPlayback) : Prop where
  pending : Free generationId state
  waiting : ∀ frame ∈ state.waitingPlayback, frame.generationId ≠ generationId
  bound : ∀ now other length,
    (enqueuePlayback maxQueueBytes now other length state).1 = .error playbackQueueFull →
    mediaQueueCapacity ≤ (state.pendingPlayback.filter (·.2.generationId != generationId)).length
  unrendered : ∀ deadline connectionId sequence ack,
    (acknowledgePlayback deadline connectionId sequence ack state).1 ≠
      .ok (some ⟨generationId, .rendered⟩)

section

variable {state reached : NetworkPlayback} {generationId : GenerationId}

/-- Only a pending frame is told as rendered. -/
theorem Free.not_rendered (hfree : Free generationId state) (deadline : Instant)
    (connectionId sequence : Nat) (ack : NetworkPlaybackAck) :
    (acknowledgePlayback deadline connectionId sequence ack state).1 ≠
      .ok (some ⟨generationId, .rendered⟩) := by
  intro htold
  obtain ⟨reached, hrun⟩ : ∃ reached, acknowledgePlayback deadline connectionId sequence ack state =
    (.ok (some ⟨generationId, .rendered⟩), reached) := ⟨_, Prod.ext htold rfl⟩
  obtain ⟨-, hrest⟩ := returned_require_bind hrun
  obtain ⟨pending, hpending, hrest⟩ := returned_lift_bind hrest
  obtain ⟨-, hrest⟩ := returned_require_bind hrest
  cases ack with
  | accepted =>
    obtain ⟨-, hrest⟩ := returned_require_bind hrest
    cases hrest
  | rendered =>
    obtain ⟨-, hrest⟩ := returned_require_bind hrest
    cases hrest
    obtain ⟨before, after, hentry, -⟩ := lookup_eq_some_iff.mp (orError_eq_ok.mp hpending)
    exact hfree (sequence, pending) (by simp [hentry]) rfl

/-- An enqueue is refused for the bound only if it is reached. -/
theorem full_of_refused {maxQueueBytes now other length : Nat}
    (h : (enqueuePlayback maxQueueBytes now other length state).1 = .error playbackQueueFull) :
    mediaQueueCapacity ≤ state.pendingPlayback.length := by
  have hmeets : Meets (enqueuePlayback maxQueueBytes now other length) state fun result _ =>
      result = .error playbackQueueFull → mediaQueueCapacity ≤ state.pendingPlayback.length := by
    refine .of_read (.of_require (fun _ => .of_require (fun _ => .of_require (fun _ =>
      .of_require (fun _ => .of_lift (fun next _ => .of_update ?_) fun error hnext => ?_)
      fun _ => ?_) fun _ => ?_) fun hfull _ => not_lt.mp hfull) fun _ => ?_)
    · split <;> exact nofun
    · unfold orError at hnext
      split at hnext
      · cases hnext
      · cases hnext
        simp [playbackQueueFull]
    all_goals simp [playbackFinishing, playbackQueueFull]
  exact hmeets h

/-! ## Generations that are gone -/

/-- No frame of the generations that are gone is left, and none waits while a transport is
attached. -/
structure Clear (gone : GenerationId → Prop) (state : NetworkPlayback) : Prop where
  pending : ∀ entry ∈ state.pendingPlayback, ¬ gone entry.2.generationId
  waiting : ∀ frame ∈ state.waitingPlayback, ¬ gone frame.generationId
  attached : state.playback.isSome → state.waitingPlayback = []

variable {gone : GenerationId → Prop}

section

variable (h : Clear gone state)
include h

theorem Clear.of_map (change : Nat × PendingPlayback → Nat × PendingPlayback)
    (hchange : ∀ entry, (change entry).2.generationId = entry.2.generationId) :
    Clear gone { state with pendingPlayback := state.pendingPlayback.map change } := by
  refine ⟨fun entry hentry => ?_, h.waiting, h.attached⟩
  obtain ⟨old, hold, rfl⟩ := mem_map.mp hentry
  rw [hchange]
  exact h.pending old hold

theorem Clear.of_filter (kept : Nat × PendingPlayback → Bool) :
    Clear gone { state with pendingPlayback := state.pendingPlayback.filter kept } :=
  ⟨fun entry hentry => h.pending entry (mem_filter.mp hentry).1, h.waiting, h.attached⟩

/-- A section that enqueues no frame of a generation that is gone leaves none of it. -/
theorem Clear.kept (maxQueueBytes : Nat) {action : PlaybackSection}
    (hother : ∀ now generationId length, action = .enqueuePlayback now generationId length →
      ¬ gone generationId) : Clear gone (step maxQueueBytes state action) := by
  cases action with
  | attachTransport connectionId =>
    refine reached (of_read fun _ _ => .of_bind (.of_require _ _) fun _ =>
      .of_bind (.of_require _ _) fun _ => .of_reached fun seen hseen => ?_) h
    have hassigned := hseen.of_map (assign connectionId seen.waitingPlayback) fun entry => by
      unfold assign
      split <;> rfl
    exact ⟨hassigned.pending, forall_mem_nil _, fun _ => rfl⟩
  | plannedDetach connectionId =>
    exact reached (of_read fun _ _ => .of_bind (.of_require _ _) fun _ =>
      .of_bind (.of_require _ _) fun _ => .of_reached fun _ hstate =>
      { hstate with pending := forall_mem_nil _, attached := nofun }) h
  | claimFinish connectionId =>
    exact reached (of_read fun _ _ => .of_bind (.of_require _ _) fun _ =>
      .of_reached fun _ hstate => { hstate with }) h
  | markPlaybackWritten connectionId sequence =>
    refine reached (of_read fun _ _ => .of_bind (.of_lift _) fun _ =>
      .of_bind (.of_require _ _) fun _ => .of_reached fun _ hstate => ?_) h
    refine hstate.of_map _ fun entry => ?_
    split <;> rfl
  | disconnectTransport connectionId deadline =>
    refine Triple.reached (Keeps.of_read fun _ _ => ?_) h
    split
    next => exact .of_pure _
    next =>
      exact .of_bind (.of_reached fun _ hstate =>
        { hstate.of_filter _ with attached := nofun }) fun _ => .of_pure _
  | acknowledgePlayback deadline connectionId sequence ack =>
    refine reached (of_read fun _ _ => .of_bind (.of_require _ _) fun _ =>
      .of_bind (.of_lift _) fun _ => .of_bind (.of_require _ _) fun _ => ?_) h
    cases ack with
    | accepted =>
      refine .of_bind (.of_require _ _) fun _ => .of_reached fun _ hstate => ?_
      refine hstate.of_map _ fun entry => ?_
      split <;> rfl
    | rendered =>
      exact .of_bind (.of_require _ _) fun _ => .of_reached fun _ hstate => hstate.of_filter _
  | acknowledgeFlush connectionId other =>
    exact reached (of_read fun _ _ => .of_bind (.of_require _ _) fun _ =>
      .of_bind (.of_lift _) fun _ => .of_bind (.of_reached fun _ hstate => { hstate with })
      fun _ => .of_require _ _) h
  | enqueuePlayback now other length =>
    have hnew : ¬ gone other := hother now other length rfl
    have hpending : ∀ entry ∈ state.pendingPlayback ++ [(state.nextPlaybackSequence,
        ⟨state.playback, other, true, false, none, false⟩)], ¬ gone entry.2.generationId :=
      forall_mem_append.mpr ⟨h.pending, forall_mem_singleton.mpr hnew⟩
    have hmeets : Meets (enqueuePlayback maxQueueBytes now other length) state fun _ reached =>
        Clear gone reached := by
      refine .of_read (.of_require (fun _ => .of_require (fun _ => .of_require (fun _ =>
        .of_require (fun _ => .of_lift (fun next _ => .of_update ?_) fun _ _ => h)
        fun _ => h) fun _ => h) fun _ => h) fun _ => h)
      split
      next hdetached =>
        refine ⟨hpending, forall_mem_append.mpr ⟨h.waiting, forall_mem_singleton.mpr hnew⟩, ?_⟩
        intro (hattached : state.playback.isSome = true)
        rw [Option.isNone_iff_eq_none.mp hdetached] at hattached
        cases hattached
      next => exact { h with pending := hpending }
    exact hmeets
  | requestFlush other =>
    exact reached (of_read fun _ _ => .of_bind (.of_require _ _) fun _ =>
      .of_bind (.of_lift _) fun _ => .of_bind (.of_require _ _) fun _ =>
      .of_bind (.of_require _ _) fun _ => .of_reached fun _ hstate => { hstate with }) h
  | cancelPendingPlayback sequence =>
    exact { h.of_filter _ with
      waiting := fun frame hframe => h.waiting frame (mem_filter.mp hframe).1
      attached := fun hattached => by
        show filter _ state.waitingPlayback = []
        rw [h.attached hattached]
        rfl }
  | expireAccepted now => exact h.of_filter _
  | cancelPendingFlush other => exact { h with }
  | expireWaiting deadline =>
    simp only [step, expireWaiting]
    split
    next => exact { h.of_filter _ with waiting := forall_mem_nil _, attached := fun _ => rfl }
    next => exact h

theorem Clear.run (maxQueueBytes : Nat) {later : List PlaybackSection}
    (hlater : ∀ now generationId length, .enqueuePlayback now generationId length ∈ later →
      ¬ gone generationId) : Clear gone (later.foldl (step maxQueueBytes) state) := by
  induction later generalizing state with
  | nil => exact h
  | cons action later ih =>
    refine ih (h.kept maxQueueBytes ?_) fun now generationId length hmem =>
      hlater now generationId length (mem_cons_of_mem _ hmem)
    rintro now generationId length rfl
    exact hlater now generationId length mem_cons_self

end

theorem Clear.flushedAway (h : Clear (· = generationId) state) (maxQueueBytes : Nat) :
    FlushedAway maxQueueBytes generationId state := by
  refine ⟨h.pending, h.waiting, fun now other length hfull => ?_, Free.not_rendered h.pending⟩
  have hothers : state.pendingPlayback.filter (·.2.generationId != generationId) =
      state.pendingPlayback :=
    filter_eq_self.mpr fun entry hentry => bne_iff_ne.mpr (h.pending entry hentry)
  rw [hothers]
  exact full_of_refused hfull

/-- An acknowledged flush finds its transport attached and touches nothing but itself. -/
theorem acknowledgeFlush_returned {connectionId : Nat}
    (h : (acknowledgeFlush connectionId generationId state).1 = .ok ()) :
    state.playback = some connectionId ∧ (acknowledgeFlush connectionId generationId state).2 =
      { state with pendingFlush := state.pendingFlush.filter (·.1 != generationId) } := by
  obtain ⟨hattached, hrest⟩ := returned_require_bind (Prod.ext h rfl)
  obtain ⟨owner, -, hrest⟩ := returned_lift_bind hrest
  exact ⟨hattached, (returned_require hrest).2⟩

/-- Once a flush is acknowledged, its generation stays away from playback for as long as no
new frame of it is enqueued, exactly if none of its frames was pending before. -/
theorem flushed_generation_stays_away_iff {maxQueueBytes connectionId : Nat}
    (before : List PlaybackSection)
    (hflushed : (acknowledgeFlush connectionId generationId (run maxQueueBytes before)).1 =
      .ok ()) :
    (∀ later : List PlaybackSection,
      (∀ now length, .enqueuePlayback now generationId length ∉ later) →
      FlushedAway maxQueueBytes generationId (run maxQueueBytes
        (before ++ .acknowledgeFlush connectionId generationId :: later))) ↔
      Free generationId (run maxQueueBytes before) := by
  obtain ⟨hattached, hstate⟩ := acknowledgeFlush_returned hflushed
  have hrun : ∀ later, run maxQueueBytes
      (before ++ .acknowledgeFlush connectionId generationId :: later) =
      later.foldl (step maxQueueBytes)
        (acknowledgeFlush connectionId generationId (run maxQueueBytes before)).2 := by
    intro later
    rw [run, foldl_append]
    rfl
  simp only [hrun, hstate]
  refine ⟨fun h => (h [] (by simp)).pending, fun hfree later hlater => ?_⟩
  -- While the transport is attached no frame waits, so the pending ones are all there are.
  have hnone : (run maxQueueBytes before).waitingPlayback = [] := by
    have hstart : Clear (fun _ => False) .new := ⟨nofun, nofun, nofun⟩
    refine (hstart.run maxQueueBytes fun _ _ _ _ => id).attached ?_
    exact hattached ▸ rfl
  have hclear : Clear (· = generationId) { run maxQueueBytes before with
      pendingFlush := (run maxQueueBytes before).pendingFlush.filter (·.1 != generationId) } :=
    ⟨hfree, hnone ▸ forall_mem_nil _, fun _ => hnone⟩
  refine (hclear.run maxQueueBytes ?_).flushedAway maxQueueBytes
  rintro now _ length hmem rfl
  exact hlater now length hmem

end

/-- The frame is rendered before the flush, and the next generation goes on. -/
theorem flushed_after_rendering : ∃ before : List PlaybackSection, Free 7 (run 64 before) ∧
    FlushedAway 64 7 (run 64 (before ++ [.acknowledgeFlush 1 7, .enqueuePlayback 0 8 2])) := by
  let before : List PlaybackSection := [.attachTransport 1, .enqueuePlayback 0 7 2,
    .acknowledgePlayback 5 1 1 .accepted, .acknowledgePlayback 9 1 1 .rendered, .requestFlush 7]
  have hfree : Free 7 (run 64 before) := by
    unfold Free
    decide +kernel
  exact ⟨before, hfree,
    (flushed_generation_stays_away_iff before (by decide +kernel)).mpr hfree _ (by simp)⟩

end ConversationRuntime.NetworkPlayback
