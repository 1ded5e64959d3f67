import ConversationRuntime.Recording.Changes

/-! # What operations do to the file

Of all the changes of a recorder, its file sees only three: the surroundings
are asked, it is poisoned, and records of a few known kinds are appended. A
property of the file that survives these survives every run.
-/

namespace ConversationRuntime

open Foundation

/-- A property of the file that survives everything a recorder does to it. -/
structure FileRule (env : Environment) (identity : RecordingIdentity)
    (kept : SealedFile → Prop) : Prop where
  asked : ∀ file tick, file.tick ≤ tick → kept file → kept { file with tick := tick }
  poisoned : ∀ file, kept file → kept { file with capabilityPoisoned := true }
  failed : ∀ {file record error reached}, EmittedRecord identity.timed record → kept file →
    SealedFile.AppendFailure env identity.header record file error reached → kept reached
  appended : ∀ {file record}, EmittedRecord identity.timed record → kept file →
    file.counter < u32Max → record.length + 16 ≤ maxChunkCiphertextBytes →
    kept (file.afterAppend env identity.header record)

namespace SessionRecorder

/-- The recorder has the identity it was started with, keeps a timing budget
exactly when that is timed, and its file has the property. -/
structure FileKept (identity : RecordingIdentity) (kept : SealedFile → Prop)
    (recorder : SessionRecorder) : Prop where
  identity_eq : recorder.identity = identity
  budget : recorder.timingBudget.isSome = identity.timed
  file : kept recorder.file

variable {env : Environment} {identity : RecordingIdentity} {kept : SealedFile → Prop}
  {recorder : SessionRecorder} {limits : RecordingLimits}

section

variable (hrule : FileRule env identity kept)
include hrule

/-- An append and any change of fields outside the file. -/
theorem FileKept.appended {next : SessionRecorder}
    {record : Bytes} {timing : Option TimedValidation} (h : FileKept identity kept recorder)
    (hrecord : EmittedRecord recorder.timingBudget.isSome record)
    (happends : recorder.Appends record timing) (hidentity : next.identity = recorder.identity)
    (hbudget : next.timingBudget = recorder.timingBudget)
    (hfile : next.file = (recorder.afterAppend env record timing).file) :
    FileKept identity kept next := by
  rw [h.budget] at hrecord
  refine ⟨hidentity.trans h.identity_eq, hbudget ▸ h.budget, ?_⟩
  have happended := hrule.appended hrecord h.file happends.counter happends.length
  rwa [hfile, afterAppend, header, h.identity_eq]

/-- Every change keeps the property. -/
theorem FileKept.change (first next : Moment) (hchange : Change env first next)
    (h : FileKept identity kept first.recorder) : FileKept identity kept next.recorder := by
  cases hchange with
  | asked tick htick => exact ⟨h.identity_eq, h.budget, hrule.asked _ _ htick h.file⟩
  | clock => exact ⟨h.identity_eq, h.budget, hrule.asked _ _ (Nat.le_succ _) h.file⟩
  | failed hrecord hfile hended hfailure =>
    rw [h.budget] at hrecord
    rw [header, h.identity_eq] at hfailure
    exact { h with file := hrule.failed hrecord h.file hfailure }
  | formatTaken | guarded | noticed | noticesTaken | finalized =>
    exact { h with }
  | gapEnded hgap hformat happends | gapOverflowed hgap happends =>
    exact h.appended hrule (.gapEnded _) happends rfl rfl rfl
  | budgeted budget hbudget =>
    have htimed := h.budget
    rw [hbudget] at htimed
    exact ⟨h.identity_eq, htimed, h.file⟩
  | alignmentLimit htimed happends =>
    exact h.appended hrule (.alignmentLimit htimed) happends rfl rfl rfl
  | @timedFrame _ now _ _ frame admitted _ _ _ htimed _ _ _ _ happends =>
    refine h.appended hrule ?_ happends rfl rfl rfl
    exact .timedFrame htimed now frame.format frame.bytes_ne_nil frame.length_bytes_le
      frame.aligned (frame.provenanceIf_valid admitted)
  | legacyFrame hlegacy hgap hformat happends =>
    exact h.appended hrule (.frame hlegacy _ _) happends rfl rfl rfl
  | stopped notices hstop happends | closed hnoted happends =>
    exact h.appended hrule (.ended _) happends rfl rfl rfl
  | gapStarted hgap happends =>
    exact h.appended hrule (.gapStarted _ (.inl rfl)) happends rfl rfl rfl
  | metadata htimed hrecord happends =>
    exact h.appended hrule (.metadata htimed hrecord) happends rfl rfl rfl
  | @confirmed recorder _ _ _ poisoned hclean =>
    have hasked := hrule.asked recorder.file (recorder.file.tick + 1) (Nat.le_succ _) h.file
    refine ⟨h.identity_eq, h.budget, ?_⟩
    cases poisoned with
    | true => exact hrule.poisoned _ hasked
    | false =>
      rw [← hclean]
      exact hasked
  | failureNoted hincomplete happends =>
    exact h.appended hrule (.gapStarted _ (.inr rfl)) happends rfl rfl rfl
  | @incompleteMarked recorder =>
    unfold markIncompleteState
    split
    · exact h
    · exact { h with }

/-- Every run keeps the property. -/
theorem FileKept.run (operations : List Operation) (h : FileKept identity kept recorder) :
    FileKept identity kept (run env recorder operations) :=
  run_kept _ (.change hrule) operations h

end

/-- The two ways a recorder starts. -/
theorem start_cases (hstart : start env identity limits = .ok recorder) :
    identity.timed = false ∧ recorder = startFormat identity limits ∨
    identity.timed = true ∧ ∃ timing, (startFormat identity limits).Appends policyRecord timing ∧
      recorder = (startFormat identity limits).afterAppend env policyRecord timing := by
  unfold SessionRecorder.start at hstart
  split at hstart
  next htimed =>
    refine .inr ⟨htimed, ?_⟩
    have houtcome := append_outcome env (startFormat identity limits) policyRecord
    split at hstart
    next reached hrun =>
      cases hstart
      rw [hrun] at houtcome
      cases houtcome with
      | appended hvalid hfile hended hcounter hlength =>
        exact ⟨_, ⟨hvalid, hfile, hended, hcounter, hlength⟩, rfl⟩
    next => cases hstart
  next hlegacy =>
    cases hstart
    exact .inl ⟨by simpa using hlegacy, rfl⟩

/-- A recorder that has started has the property. -/
theorem FileKept.start (hrule : FileRule env identity kept) (hfresh : kept (.start identity.header))
    (hstart : start env identity limits = .ok recorder) : FileKept identity kept recorder := by
  have hbudget : (startFormat identity limits).timingBudget.isSome = identity.timed := by
    simp only [startFormat]
    cases identity.timed <;> rfl
  have hkept : FileKept identity kept (startFormat identity limits) := ⟨rfl, hbudget, hfresh⟩
  rcases start_cases hstart with ⟨-, rfl⟩ | ⟨htimed, timing, happends, rfl⟩
  · exact hkept
  · exact hkept.appended hrule (.policy (hbudget.trans htimed)) happends rfl rfl rfl

end SessionRecorder

/-! ## The log of sealing calls

The counter of a file is the number of sealing calls made so far, successful or
not, and the call at each position used exactly that position as its counter.
No nonce is therefore ever used twice, whatever fails and however often it is
retried.
-/

open IdealAead List

/-- Every sealing call is the one its position in the log demands. -/
structure SealLog (header : Bytes) (file : SealedFile) : Prop where
  counter_eq : file.counter = file.seals.length
  counter_le : file.counter ≤ u32Max
  nonces : file.seals.map SealCall.nonce = (List.range file.counter).map (nonce header)
  aads : file.seals.map SealCall.aad = (List.range file.counter).map (aad header)

namespace SealLog

variable {header record : Bytes} {file : SealedFile}

/-- One more call, made under the running counter, keeps the log in step. -/
theorem push (hlog : SealLog header file) (hcounter : file.counter < u32Max)
    (ciphertext : Option Bytes) {reached : SealedFile}
    (hreached : reached.counter = file.counter + 1)
    (hseals : reached.seals = file.seals ++ [file.sealCall header record ciphertext]) :
    SealLog header reached where
  counter_eq := by
    rw [hreached, hseals, length_append, hlog.counter_eq]
    rfl
  counter_le := by omega
  nonces := by
    rw [hreached, hseals, map_append, hlog.nonces, range_succ, map_append]
    rfl
  aads := by
    rw [hreached, hseals, map_append, hlog.aads, range_succ, map_append]
    rfl

theorem start (header : Bytes) : SealLog header (.start header) := ⟨rfl, Nat.zero_le _, rfl, rfl⟩

/-- The log stays in step along every run. -/
theorem fileRule (env : Environment) (identity : RecordingIdentity) :
    FileRule env identity (SealLog identity.header) where
  asked := fun _ _ _ hlog => { hlog with }
  poisoned := fun _ hlog => { hlog with }
  failed := by
    intro file record error reached _ hlog hfailure
    cases hfailure with
    | exhausted hcounter => exact { hlog with }
    | failed _ ciphertext _ _ hcounter => exact hlog.push hcounter ciphertext rfl rfl
  appended := fun _ hlog hcounter _ => hlog.push hcounter _ rfl rfl

theorem nodup_nonces (hlog : SealLog header file) : (file.seals.map SealCall.nonce).Nodup := by
  rw [hlog.nonces]
  refine .map_on ?_ nodup_range
  intro left hleft right hright heq
  have hmax := hlog.counter_le
  rw [mem_range] at hleft hright
  simp only [u32Max] at hmax
  exact nonce_inj (by omega) (by omega) heq

end SealLog

theorem RecordingIdentity.length_nonce (identity : RecordingIdentity) (counter : Nat) :
    (nonce identity.header counter).length = 12 := by
  rw [nonce, length_append, length_beBytes, identity.slice_header_noncePrefix,
    identity.length_noncePrefix]

namespace SessionRecorder

/-- With the counter spent, an append fails and seals nothing. -/
theorem append_of_exhausted (env : Environment) {recorder : SessionRecorder}
    (hcounter : u32Max ≤ recorder.file.counter) (record : Bytes) :
    ∃ error reached, append env record recorder = (.error error, reached) ∧
      reached.file.seals = recorder.file.seals ∧ reached.file.counter = recorder.file.counter := by
  have houtcome := append_outcome env recorder record
  generalize append env record recorder = result at houtcome
  cases houtcome with
  | invalid _ | finalized _ | closed _ => exact ⟨_, _, rfl, rfl, rfl⟩
  | failed _ _ _ hfailure =>
    cases hfailure with
    | exhausted _ => exact ⟨_, _, rfl, rfl, rfl⟩
    | failed _ _ _ _ hroom => omega
  | appended _ _ _ hroom _ => omega

/-- No two sealing calls of a run share a nonce: the call at each position uses
that position as its counter, which never wraps. -/
theorem seal_nonces_distinct (env : Environment) {identity : RecordingIdentity}
    {limits : RecordingLimits} {started : SessionRecorder}
    (hstart : start env identity limits = .ok started) (operations : List Operation) :
    let recorder := run env started operations
    (recorder.file.seals.map SealCall.nonce).Nodup ∧
      (∀ call ∈ recorder.file.seals, call.nonce.length = 12) ∧
      recorder.file.seals.map SealCall.nonce =
        (range recorder.file.seals.length).map (nonce identity.header) ∧
      recorder.file.seals.length ≤ u32Max ∧
      (u32Max ≤ recorder.file.counter → ∀ record, ∃ error reached,
        append env record recorder = (.error error, reached) ∧
          reached.file.seals = recorder.file.seals ∧
          reached.file.counter = recorder.file.counter) := by
  intro recorder
  have hrule := SealLog.fileRule env identity
  have hlog : SealLog identity.header recorder.file :=
    (FileKept.run hrule operations (FileKept.start hrule (SealLog.start _) hstart)).file
  have hnonces := hlog.nonces
  have hmax := hlog.counter_le
  rw [hlog.counter_eq] at hnonces hmax
  refine ⟨hlog.nodup_nonces, ?_, hnonces, hmax, fun hcounter => append_of_exhausted env hcounter⟩
  intro call hcall
  have hmem := mem_map_of_mem (f := SealCall.nonce) hcall
  rw [hnonces] at hmem
  obtain ⟨counter, _, heq⟩ := mem_map.mp hmem
  rw [← heq, identity.length_nonce]

theorem seal_nonces_distinct_legacy :
    start .calm (.sample false) .default = .ok (startFormat (.sample false) .default) ∧
      ((run .calm (startFormat (.sample false) .default)
        [.recordCaptureGap, .finalize, .finalize]).file.seals.map SealCall.nonce).Nodup := by
  have hstart : start .calm (.sample false) .default = .ok (startFormat (.sample false) .default) :=
    rfl
  exact ⟨hstart, (seal_nonces_distinct .calm hstart _).1⟩

end SessionRecorder

/-! ## How a recorder closes

A recorder is closed by finalizing it or by a limit that reports its stop. A
closed recorder, or one whose counter is spent, never takes another byte.
-/

namespace SessionRecorder

variable {env : Environment}

/-! ### Recorders that take nothing more -/

/-- A closed recorder, or one whose counter is spent. -/
def Full (recorder : SessionRecorder) : Prop :=
  recorder.ended = true ∨ u32Max ≤ recorder.file.counter

variable {recorder : SessionRecorder}

theorem Full.not_appends (h : Full recorder) {record : Bytes} {timing : Option TimedValidation} :
    ¬ recorder.Appends record timing := by
  intro happends
  rcases h with hended | hcounter
  · cases hended.symm.trans happends.notEnded
  · exact absurd happends.counter (Nat.not_lt_of_le hcounter)

/-- A full recorder has kept the bytes it had; a closed one has also sealed
nothing and reported nothing since. -/
structure Resting (origin recorder : SessionRecorder) : Prop where
  full : Full recorder
  content_eq : recorder.file.content = origin.file.content
  closed : origin.ended = true → recorder.ended = true ∧
    recorder.file.seals = origin.file.seals ∧ recorder.produced = origin.produced

theorem Resting.refl (h : Full recorder) : Resting recorder recorder :=
  ⟨h, rfl, fun hended => ⟨hended, rfl, rfl⟩⟩

/-- No change ends the rest. -/
theorem Resting.change {origin : SessionRecorder} (first next : Moment)
    (hchange : Change env first next) (h : Resting origin first.recorder) :
    Resting origin next.recorder := by
  -- A call that would append finds the recorder full.
  cases hchange with
  | failed hrecord hfile hended hfailure =>
    cases hfailure with
    | exhausted hcounter => exact ⟨.inr hcounter, h.content_eq, h.closed⟩
    | failed _ _ _ _ hcounter =>
      rcases h.full with hclosed | hspent
      · cases hended.symm.trans hclosed
      · exact absurd hcounter (Nat.not_lt_of_le hspent)
  | gapEnded _ _ happends | gapOverflowed _ happends | alignmentLimit _ happends
  | timedFrame _ _ _ _ _ happends | legacyFrame _ _ _ happends | stopped _ _ happends
  | gapStarted _ happends | metadata _ _ happends =>
    exact absurd happends h.full.not_appends
  | failureNoted _ happends | closed _ happends => exact absurd happends h.full.not_appends
  | noticed notices hgoing hended =>
    refine ⟨h.full, h.content_eq, fun horigin => ?_⟩
    obtain ⟨hclosed, hseals, hproduced⟩ := h.closed horigin
    rcases hended with rfl | hopen
    · exact ⟨hclosed, hseals, (append_nil _).trans hproduced⟩
    · cases hopen.symm.trans hclosed
  | incompleteMarked =>
    unfold markIncompleteState
    split
    · exact h
    · exact { h with }
  | _ => exact { h with }

/-- What is reported was produced, and a recorder that has reported a stop is
closed. -/
structure StopCloses (recorder : SessionRecorder) : Prop where
  reported : ∀ notice ∈ recorder.limitNotices, notice ∈ recorder.produced
  closes : anyStopped recorder.produced = true → recorder.ended = true

theorem StopCloses.change (first next : Moment) (hchange : Change env first next)
    (h : StopCloses first.recorder) : StopCloses next.recorder := by
  have hreported : ∀ notices, ∀ notice ∈ first.recorder.limitNotices ++ notices,
      notice ∈ first.recorder.produced ++ notices := by
    intro notices notice hnotice
    rcases mem_append.mp hnotice with hold | hnew
    · exact mem_append_left _ (h.reported notice hold)
    · exact mem_append_right _ hnew
  cases hchange with
  | noticed notices hgoing hended =>
    refine ⟨hreported notices, fun hstopped => ?_⟩
    change anyStopped (_ ++ notices) = true at hstopped
    rw [anyStopped_append, hgoing, Bool.or_false] at hstopped
    exact h.closes hstopped
  | stopped notices => exact ⟨hreported notices, fun _ => rfl⟩
  | closed => exact ⟨h.reported, fun _ => rfl⟩
  | noticesTaken => exact ⟨forall_mem_nil _, h.closes⟩
  | incompleteMarked =>
    unfold markIncompleteState
    split
    · exact h
    · exact ⟨h.reported, h.closes⟩
  | _ => exact ⟨h.reported, h.closes⟩

theorem StopCloses.start {identity : RecordingIdentity} {limits : RecordingLimits}
    {started : SessionRecorder} (hstart : start env identity limits = .ok started) :
    StopCloses started := by
  have hfresh : started.limitNotices = [] ∧ started.produced = [] := by
    rcases start_cases hstart with ⟨-, rfl⟩ | ⟨-, timing, -, rfl⟩ <;> exact ⟨rfl, rfl⟩
  obtain ⟨hnotices, hproduced⟩ := hfresh
  constructor
  · intro notice hnotice
    rw [hnotices] at hnotice
    exact absurd hnotice not_mem_nil
  · intro hstopped
    rw [hproduced] at hstopped
    cases hstopped

end SessionRecorder

end ConversationRuntime
