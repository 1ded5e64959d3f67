import ConversationRuntime.Voice.Moves

/-! # The functions of the voice loop make moves

Each function is run backwards from what is to hold when it ends. A publication,
a reading of the clock or a call of the turn runtime stands for every wire it can
leave behind; the rules below say what is known about that wire.
-/

namespace ConversationRuntime

open Foundation Fallible Meets Wire

namespace VoiceLoop

section Rules

variable (env : VoiceEnvironment) {loop : VoiceLoop} {β : Type}
  {post : Except Stop β → VoiceLoop → Prop}

theorem onWire_eq {α : Type} {program : Fallible Wire Stop α} {result : Except Stop α} {wire : Wire}
    (h : program loop.wire = (result, wire)) : onWire program loop = (result, loop.onto wire) := by
  simp only [onWire, h]

theorem nowMs_bind {next : Nat → Voice β}
    (h : ∀ wire, loop.wire.Grows [] wire → Meets (next wire.clockMs) (loop.onto wire) post) :
    Meets (nowMs env >>= next) loop post := by
  obtain ⟨now, wire, hrun, hgrows, rfl⟩ := nowMs_law env loop.wire
  exact .of_ok_bind (onWire_eq hrun) (h wire hgrows)

theorem answers_bind {next : Answers → Voice β}
    (h : ∀ answer wire, loop.wire.Grows [] wire → Meets (next answer) (loop.onto wire) post) :
    Meets (onWire (answers env) >>= next) loop post :=
  .of_ok_bind rfl (h _ _ (grows_tick loop.wire))

theorem note_bind {deed : Deed} {next : Unit → Voice β}
    (h : ∀ wire, loop.wire.Grows [deed] wire → Meets (next ()) (loop.onto wire) post) :
    Meets (note deed >>= next) loop post :=
  .of_ok_bind rfl (h _ (grows_note loop.wire deed))

variable {event : VoiceSessionEvent} {next : Bool → Voice β}

theorem publishReliable_meets (hproper : event.partialSegment = none)
    {post : Except Stop Bool → VoiceLoop → Prop}
    (h : ∀ isOpen wire, Publishes event isOpen loop.wire wire →
      post (.ok isOpen) (loop.onto wire)) : Meets (publishReliable env false event) loop post := by
  obtain ⟨isOpen, wire, hrun, hpublishes⟩ := publishReliable_law env loop.wire hproper
  have hloop : publishReliable env false event loop = (.ok isOpen, loop.onto wire) := onWire_eq hrun
  rw [Meets, hloop]
  exact h isOpen wire hpublishes

theorem publishReliable_bind (hproper : event.partialSegment = none)
    (h : ∀ isOpen wire, Publishes event isOpen loop.wire wire →
      Meets (next isOpen) (loop.onto wire) post) :
    Meets (publishReliable env false event >>= next) loop post :=
  .bind (publishReliable_meets env hproper h)

section

variable (htext : event.partialSegment = none) (hfinal : event.finalSegment = none)
include htext hfinal

theorem publishBestEffort_meets {post : Except Stop Bool → VoiceLoop → Prop}
    (h : ∀ isOpen wire, loop.wire.Grows [] wire → (isOpen = false → wire.isClosed = true) →
      post (.ok isOpen) (loop.onto wire)) : Meets (publishBestEffort env event) loop post := by
  obtain ⟨isOpen, wire, hrun, hgrows, hclosed⟩ := publishBestEffort_law env loop.wire htext hfinal
  have hloop : publishBestEffort env event loop = (.ok isOpen, loop.onto wire) := onWire_eq hrun
  rw [Meets, hloop]
  exact h isOpen wire hgrows hclosed

theorem publishBestEffort_bind
    (h : ∀ isOpen wire, loop.wire.Grows [] wire → (isOpen = false → wire.isClosed = true) →
      Meets (next isOpen) (loop.onto wire) post) :
    Meets (publishBestEffort env event >>= next) loop post :=
  .bind (publishBestEffort_meets env htext hfinal h)

end

theorem publishTiming_bind {turnId : Option TurnId} {milestone : VoiceTimingMilestone}
    (h : ∀ isOpen wire, loop.wire.Grows [] wire → (isOpen = false → wire.isClosed = true) →
      Meets (next isOpen) (loop.onto wire) post) :
    Meets (publishTiming env turnId milestone >>= next) loop post := by
  apply Meets.bind
  apply of_read
  apply nowMs_bind
  intro timed htimed
  apply publishBestEffort_meets env rfl rfl
  intro isOpen wire hgrows hclosed
  exact h isOpen wire (htimed.after_quiet hgrows) hclosed

/-- The turn runtime refuses, or hands out an identity it never handed out before. -/
theorem startTurn_bind {next : TurnIdentity → Voice β}
    (hrefused : ∀ error wire, loop.wire.Grows [] wire →
      post (.error (.failed error)) (loop.onto wire))
    (h : ∀ identity wire, loop.wire.Grows [.began identity] wire → IsFresh identity loop →
      Meets (next identity) { loop with sequence := identity.turnId, wire } post) :
    Meets (startTurn env >>= next) loop post := by
  apply Meets.bind
  apply answers_bind
  intro answer asked hasked
  cases hanswer : answer.started with
  | error error => exact hrefused error asked hasked
  | ok passedOver =>
    refine h ⟨loop.sequence + passedOver + 1, loop.sequence + passedOver + 1⟩ _
      (hasked.after_quiet (grows_note _ _)) ⟨?_, rfl⟩
    simp only
    omega

end Rules

/-- What catching a failure makes of a result. -/
def caughtResult {α : Type} : Except Stop α → Except Stop (Except RuntimeError α)
  | .ok value => .ok (.ok value)
  | .error (.failed error) => .ok (.error error)
  | .error stop => .error stop

theorem caught_meets {α : Type} {program : Voice α} {loop : VoiceLoop}
    (post : Except Stop (Except RuntimeError α) → VoiceLoop → Prop)
    (h : Meets program loop fun result after => post (caughtResult result) after) :
    Meets (caught program) loop post := by
  simp only [Meets, caught] at h ⊢
  cases hrun : program loop with
  | mk result reached =>
    rw [hrun] at h
    cases result with
    | ok => exact h
    | error stop => cases stop <;> exact h

/-- What follows a caught failure is met from wherever the function ends. -/
theorem caught_bind {α β : Type} {program : Voice α} {next : Except RuntimeError α → Voice β}
    {loop : VoiceLoop} {post : Except Stop β → VoiceLoop → Prop}
    (h : Meets program loop fun result after => match caughtResult result with
      | .ok value => Meets (next value) after post
      | .error stop => post (.error stop) after) :
    Meets (caught program >>= next) loop post := by
  apply of_bind (caught_meets (fun result after => match result with
    | .ok value => Meets (next value) after post
    | .error stop => post (.error stop) after) h)
  · exact fun _ _ hnext => hnext
  · exact fun _ _ hstop => hstop

/-- No requirement on where a function ends. -/
abbrev Anywhere {α : Type} (_ : α) (_ : VoiceLoop) : Prop := True

/-- The function returns after moves only, or stops as functions may. -/
def Handled {α : Type} (before : VoiceLoop) (ends : α → VoiceLoop → Prop) :
    Except Stop α → VoiceLoop → Prop
  | .ok value, after => Reach before after ∧ ends value after
  | .error stop, after => Leaves before stop after

variable {before : VoiceLoop} {wire : Wire}

theorem Handled.after_reach {α : Type} {middle after : VoiceLoop} {ends : α → VoiceLoop → Prop}
    {result : Except Stop α} (hreach : Reach before middle) (h : Handled middle ends result after) :
    Handled before ends result after := by
  cases result with
  | ok value => exact ⟨hreach.trans h.1, h.2⟩
  | error stop => exact Leaves.of_acts (Reach.acts hreach) h

/-- A failure that ends the loop leaves it where the failure left it. -/
theorem asFatal_handled {program : Voice Unit} {loop : VoiceLoop} {ends : Unit → VoiceLoop → Prop}
    (h : Meets program loop (Handled before ends)) :
    Meets (asFatal program) loop (Handled before ends) := by
  simp only [Meets, asFatal] at h ⊢
  cases hrun : program loop with
  | mk result reached =>
    rw [hrun] at h
    cases result with
    | ok => exact h
    | error stop => cases stop <;> exact h

abbrev Handles {α : Type} (program : Voice α) (before : VoiceLoop)
    (ends : α → VoiceLoop → Prop) : Prop := Meets program before (Handled before ends)

namespace Handles

variable {α β : Type} {before middle after : VoiceLoop} {ends : β → VoiceLoop → Prop}
  {program : Voice β}

/-- After a few moves the rest of the function may be looked at on its own. -/
theorem after_reach (hreach : Reach before middle) (h : Handles program middle ends) :
    Meets program middle (Handled before ends) :=
  h.mono fun _ _ hhandled => hhandled.after_reach hreach

theorem after_move (hmove : Move before middle) (h : Handles program middle ends) :
    Meets program middle (Handled before ends) :=
  after_reach (.single hmove) h

theorem of_pure {value : β} (h : ends value before) : Handles (pure value) before ends := ⟨.refl, h⟩

theorem of_bind {first : Voice α} {next : α → Voice β} {between : α → VoiceLoop → Prop}
    (hfirst : Handles first before between)
    (hnext : ∀ value middle, Reach before middle → between value middle →
      Handles (next value) middle ends) : Handles (first >>= next) before ends := by
  apply Meets.of_bind hfirst
  · intro value middle hmiddle
    exact after_reach hmiddle.1 (hnext value middle hmiddle.1 hmiddle.2)
  · intro stop middle hmiddle
    exact hmiddle

theorem weaken {weaker : β → VoiceLoop → Prop} (h : Handles program before ends)
    (hweaker : ∀ value reached, Reach before reached → ends value reached → weaker value reached) :
    Handles program before weaker := by
  apply h.mono
  intro result reached hhandled
  cases result with
  | ok value => exact ⟨hhandled.1, hweaker value reached hhandled.1 hhandled.2⟩
  | error stop => exact hhandled

end Handles

theorem quiet_reach (h : before.wire.Grows [] wire) :
    Reach before (before.onto wire) := .single (.quiet (List.forall_mem_nil _) h)

theorem told_reach {event : VoiceSessionEvent} {isOpen : Bool} (hplain : event.IsPlain)
    (h : Publishes event isOpen before.wire wire) : Reach before (before.onto wire) := by
  obtain ⟨wasOpen, hgrows, -⟩ := h.grows
  apply Relation.ReflTransGen.single
  apply Move.quiet _ hgrows
  simpa [Deed.IsPlain] using hplain

theorem closed_leaves (hreach : Reach before (before.onto wire)) (hclosed : wire.isClosed = true) :
    Leaves before (.exit .consumerDropped) (before.onto wire) :=
  ⟨hclosed, (Reach.acts hreach).exits⟩

section Publications

variable (env : VoiceEnvironment) {before : VoiceLoop}

theorem publishOrLeave_handles {event : VoiceSessionEvent} (hplain : event.IsPlain)
    (hproper : event.partialSegment = none) :
    Handles (publishOrLeave env event) before Anywhere := by
  apply publishReliable_bind env hproper
  intro isOpen wire hpublishes
  apply of_last_require
  · intro _
    exact ⟨told_reach hplain hpublishes, trivial⟩
  · intro hclosed
    exact closed_leaves (told_reach hplain hpublishes) (hpublishes.closed (by simpa using hclosed))

/-- Publish a milestone, and stop when the consumer is gone. -/
theorem publishTiming_or {turnId : Option TurnId} {milestone : VoiceTimingMilestone} {stop : Stop}
    (hstop : ∀ wire, before.wire.Grows [] wire → wire.isClosed = true →
      Leaves before stop (before.onto wire)) :
    Handles (do
      let isOpen ← publishTiming env turnId milestone
      require isOpen stop) before Anywhere := by
  apply publishTiming_bind
  intro isOpen wire hgrows hclosed
  apply of_last_require
  · intro _
    exact ⟨quiet_reach hgrows, trivial⟩
  · intro hshut
    exact hstop wire hgrows (hclosed (by simpa using hshut))

end Publications

/-! ## Responses to segments -/

/-- The ledger entry a response leaves when it is one the loop waited to be told of. -/
def withSegment (externalGate : Bool) (segmentId : Nat) (segment : PendingSegment)
    (loop : VoiceLoop) : VoiceLoop :=
  if externalGate then
    { loop with pendingSegments := loop.pendingSegments.insert segmentId segment }
  else loop

def responseDeeds (externalGate : Bool) (segmentId : Nat) (turnId : TurnId) : List Deed :=
  if externalGate then [.responded segmentId turnId] else []

section Responses

variable (env : VoiceEnvironment) {loop : VoiceLoop} {β : Type}
  {post : Except Stop β → VoiceLoop → Prop}

theorem markAuthorized_bind {externalGate : Bool} {segmentId : Nat} {turnId : TurnId}
    {next : Unit → Voice β}
    (h : ∀ wire, loop.wire.Grows (responseDeeds externalGate segmentId turnId) wire →
      Meets (next ()) ((loop.withSegment externalGate segmentId (.authorized turnId)).onto wire)
        post) :
    Meets (onlyIf externalGate (markAuthorized segmentId turnId) >>= next) loop post := by
  cases externalGate with
  | false => exact h loop.wire (.refl loop.wire)
  | true => exact h _ (grows_note loop.wire _)

/-- A response refused by the turn runtime changes nothing; one that was started is
taken over if the consumer could be told, and aborted otherwise. -/
theorem startSegmentResponse_meets {segmentId : Nat} {text : String} {externalGate : Bool}
    {post : Except Stop TurnId → VoiceLoop → Prop} (hidle : loop.IsIdle)
    (hrefused : ∀ error wire, loop.wire.Grows [] wire →
      post (.error (.failed error)) (loop.onto wire))
    (hresponds : ∀ identity wire, IsFresh identity loop →
      loop.wire.Grows (.began identity :: responseDeeds externalGate segmentId identity.turnId ++
        [.passed (.responseAuthorized loop.sessionId segmentId identity.turnId) true]) wire →
      ∀ result, (result = .ok identity.turnId ∨
          (∃ error, result = .error (.failed error)) ∧ wire.isClosed = true) →
        post result ((loop.withSegment externalGate segmentId
          (.authorized identity.turnId)).owning identity wire))
    (hvain : ∀ identity wire wasOpen error, IsFresh identity loop → wire.isClosed = true →
      loop.wire.Grows (.began identity :: responseDeeds externalGate segmentId identity.turnId ++
        [.passed (.responseAuthorized loop.sessionId segmentId identity.turnId) wasOpen,
          .reaped identity]) wire →
      post (.error (.failed error)) { (loop.withSegment externalGate segmentId
        (.authorized identity.turnId)).withSegment externalGate segmentId (.pending text) with
          sequence := identity.turnId, wire }) :
    Meets (startSegmentResponse env segmentId text externalGate) loop post := by
  apply of_read
  apply of_require (fun _ => ?_) (fun hbusy => absurd hidle hbusy)
  apply startTurn_bind env hrefused
  intro identity begun hbegun hfresh
  apply markAuthorized_bind
  intro marked hmarked
  apply publishReliable_bind env rfl
  intro isOpen told htold
  cases isOpen with
  | true =>
    have hdeeds := (hbegun.trans hmarked).trans htold.told
    apply of_update
    apply publishTiming_bind
    intro isOpen timed htimed hclosed
    have hstate : ∀ result, (result = .ok identity.turnId ∨
        (∃ error, result = .error (.failed error)) ∧ timed.isClosed = true) →
        post result ((loop.withSegment externalGate segmentId
          (.authorized identity.turnId)).owning identity timed) :=
      hresponds identity timed hfresh (hdeeds.then_quiet htimed)
    apply of_require
    · intro _
      cases externalGate <;> exact hstate _ (.inl rfl)
    · intro hshut
      cases externalGate <;> exact hstate _ (.inr ⟨⟨_, rfl⟩, hclosed (by simpa using hshut)⟩)
  | false =>
    obtain ⟨wasOpen, hpassed, -⟩ := htold.grows
    apply note_bind
    intro reaped hreaped
    have hdeeds := ((hbegun.trans hmarked).trans hpassed).trans hreaped
    have hclosed := hreaped.closed (htold.closed rfl)
    have hstate := hvain identity reaped wasOpen
      (runtimeError "voice session event stream closed during authorization") hfresh hclosed
      (by simpa using hdeeds)
    cases externalGate <;> exact hstate

/-- A successful authorization names the turn that the ledger holds. -/
theorem authorizeSegment_handles (sessionId : SessionId) (segmentId : Nat)
    (hopen : loop.wire.isClosed = false) :
    Handles (caught (authorizeSegment env sessionId segmentId)) loop (fun result after =>
      ∀ turnId, result = .ok turnId →
        after.pendingSegments.lookup segmentId = some (.authorized turnId)) := by
  apply caught_meets
  apply of_read
  apply of_require ?_ (fun _ => ⟨.refl, nofun⟩)
  rintro ⟨hmode, -⟩
  have hrefused : ∀ wire, loop.wire.Grows [] wire → ∀ error : RuntimeError,
      Handled loop (fun result after => ∀ turnId, result = Except.ok turnId →
        after.pendingSegments.lookup segmentId = some (.authorized turnId))
        (.ok (.error error)) (loop.onto wire) :=
    fun wire hgrows error => ⟨quiet_reach hgrows, nofun⟩
  have hwaits : ∀ entry, loop.pendingSegments.lookup segmentId = entry →
      (∀ turnId, entry ≠ some (.authorized turnId)) →
      Meets (do
        require loop.IsIdle (.failed
          (runtimeError "voice response authorization cannot replace an active response"))
        authorizePending env segmentId entry) loop (fun result after =>
          Handled loop (fun result after => ∀ turnId, result = Except.ok turnId →
            after.pendingSegments.lookup segmentId = some (.authorized turnId))
            (caughtResult result) after) := by
    intro entry hentry hnew
    apply of_require ?_ (fun _ => ⟨.refl, nofun⟩)
    intro hidle
    cases entry with
    | none => exact ⟨.refl, nofun⟩
    | some segment =>
      cases segment with
      | authorized turnId => exact absurd rfl (hnew turnId)
      | skipped => exact ⟨.refl, nofun⟩
      | pending text =>
        apply answers_bind
        intro answer asked hasked
        cases answer.seeded with
        | error error => exact hrefused asked hasked error
        | ok =>
          have hasking : (loop.onto asked).IsIdle := hidle
          apply startSegmentResponse_meets env hasking
          · intro error wire hgrows
            exact hrefused wire (hasked.after_quiet hgrows) error
          · intro identity wire hfresh hgrows result hresult
            have hmove : Move loop _ := .responded hidle hmode hentry
              ⟨hfresh.later, hfresh.generation⟩ (hasked.after_quiet hgrows) hopen
            rcases hresult with rfl | ⟨⟨error, rfl⟩, -⟩
            · refine ⟨.single hmove, ?_⟩
              intro turnId hturn
              cases hturn
              exact AList.lookup_insert _
            · exact ⟨.single hmove, nofun⟩
          · intro identity wire wasOpen error hfresh hclosed hgrows
            have hmove : Move loop _ := .respondedInVain hidle hmode hentry
              ⟨hfresh.later, hfresh.generation⟩ hclosed (hasked.after_quiet hgrows) hopen
            exact ⟨.single hmove, nofun⟩
  cases hentry : loop.pendingSegments.lookup segmentId with
  | none => exact hwaits none hentry nofun
  | some segment =>
    cases segment with
    | authorized turnId =>
      refine ⟨.refl, ?_⟩
      intro named hnamed
      cases hnamed
      exact hentry
    | skipped | pending text => exact hwaits _ hentry nofun

theorem skipSegment_handles (sessionId : SessionId) (segmentId : Nat) (reason : String) :
    Handles (caught (skipSegment env sessionId segmentId reason)) loop Anywhere := by
  apply caught_meets
  apply of_read
  apply of_require ?_ (fun _ => ⟨.refl, trivial⟩)
  rintro ⟨hmode, -⟩
  cases hentry : loop.pendingSegments.lookup segmentId with
  | none => exact ⟨.refl, trivial⟩
  | some segment =>
    cases segment with
    | authorized | skipped => exact ⟨.refl, trivial⟩
    | pending text =>
      apply of_update
      apply publishReliable_bind env rfl
      intro isOpen wire hpublishes
      obtain ⟨wasOpen, hgrows, hopen⟩ := hpublishes.noted
      have hmove : Move loop _ := .skipped hmode hentry hgrows hopen
      apply of_last_require
      · exact fun _ => ⟨.single hmove, trivial⟩
      · exact fun _ => ⟨.single hmove, trivial⟩

/-- What expiring segments leaves alone. -/
structure Expires (before after : VoiceLoop) : Prop where
  mode : after.responseMode = before.responseMode
  session : after.sessionId = before.sessionId
  room : after.pendingOrder.length < maxPendingSegments

theorem expireSegments_handles {count : Nat} (hcount : loop.pendingOrder.length ≤ count) :
    Handles (expireSegments env count) loop (fun _ after => Expires loop after) := by
  induction count generalizing loop with
  | zero =>
    apply Handles.of_pure
    exact ⟨rfl, rfl, by rw [Nat.le_zero.mp hcount]; decide⟩
  | succ count ih =>
    apply of_read
    split
    next horder => exact Handles.of_pure ⟨rfl, rfl, by rw [horder]; decide⟩
    next expired rest horder =>
      split
      next hroom =>
        have hshorter : rest.length ≤ count := by
          rw [horder] at hcount
          simpa using hcount
        -- The rest of the expiry starts from a loop that has let go of the segment.
        have hrest : ∀ wire wasOpen, loop.wire.Grows (expiryDeeds loop.sessionId expired wasOpen
            (loop.pendingSegments.lookup expired)) wire →
            (wasOpen = true → loop.wire.isClosed = false) →
            Meets (expireSegments env count) { loop with
              pendingOrder := rest
              pendingSegments := loop.pendingSegments.erase expired
              wire } (Handled loop fun _ after => Expires loop after) := by
          intro wire wasOpen hgrows hopen
          apply Handles.after_move (.expired horder hgrows hopen)
          apply Handles.weaken (ih hshorter)
          intro _ _ _ hexpires
          exact ⟨hexpires.mode, hexpires.session, hexpires.room⟩
        apply of_update
        split
        next text hentry =>
          apply publishReliable_bind env rfl
          intro isOpen wire hpublishes
          obtain ⟨wasOpen, hgrows, hopen⟩ := hpublishes.noted
          have hdeeds : loop.wire.Grows (expiryDeeds loop.sessionId expired wasOpen
              (loop.pendingSegments.lookup expired)) wire := by
            rw [hentry]
            exact hgrows
          apply of_require
          · intro _
            exact hrest wire wasOpen hdeeds hopen
          · intro _
            exact (Reach.acts (.single (.expired horder hdeeds hopen))).exits
        next hentry =>
          refine hrest loop.wire false ?_ nofun
          have hnone : expiryDeeds loop.sessionId expired false
              (loop.pendingSegments.lookup expired) = [] := by
            cases hlookup : loop.pendingSegments.lookup expired with
            | none => rfl
            | some segment =>
              cases segment with
              | pending text => exact absurd hlookup (hentry text)
              | authorized | skipped => rfl
          rw [hnone]
          exact .refl loop.wire
      next hroom => exact Handles.of_pure ⟨rfl, rfl, Nat.lt_of_not_le hroom⟩

variable (segmentId : Nat)

theorem registerPendingSegment_handles (text : String)
    (captureEvidence : Option UtteranceCaptureEvidence)
    (hmode : loop.responseMode = .externalGate) :
    Handles (registerPendingSegment env segmentId text captureEvidence) loop Anywhere := by
  apply of_read
  apply Handles.of_bind (expireSegments_handles env le_rfl)
  intro _ room _ hexpires
  apply of_update
  apply note_bind
  intro noted hnoted
  apply publishReliable_bind env rfl
  intro isOpen told htold
  obtain ⟨wasOpen, hpassed, -⟩ := htold.grows
  rw [← hexpires.session] at hpassed
  have hmove : Move room _ := .registered (hexpires.mode.trans hmode) hexpires.room
    (hnoted.trans hpassed)
  apply of_require
  · intro _
    apply Handles.after_move hmove
    apply publishTiming_or
    intro wire hgrows _
    exact (Reach.acts (quiet_reach hgrows)).exits
  · intro _
    exact (Reach.acts (.single hmove)).exits

/-- What the finalizer released becomes a turn of an idle loop, unless the consumer
cannot be told of it. -/
theorem startFinalizedTurn_handles (text : String) (hidle : loop.IsIdle) :
    Handles (startFinalizedTurn env segmentId text) loop Anywhere := by
  apply of_read
  apply startTurn_bind
  · intro error wire hgrows
    exact (Reach.acts (quiet_reach hgrows)).exits
  intro identity begun hbegun hfresh
  apply publishReliable_bind env rfl
  intro isOpen told htold
  obtain ⟨wasOpen, hpassed, -⟩ := htold.grows
  have hvain : ∀ timed, told.Grows [] timed → timed.isClosed = true → Meets (do
        abortTurn identity
        failWith "voice session event stream closed during finalization" : Voice Unit)
        { loop with sequence := identity.turnId, wire := timed }
        (Handled loop Anywhere) := by
    intro timed htimed hclosed
    apply note_bind
    intro reaped hreaped
    have hmove : Move loop _ := .spokeInVain hidle hfresh (hreaped.closed hclosed)
      ((hbegun.trans (hpassed.then_quiet htimed)).trans hreaped)
    exact (Reach.acts (.single hmove)).exits
  cases isOpen with
  | false => exact hvain told (.refl told) (htold.closed rfl)
  | true =>
    apply publishTiming_bind
    intro isOpen timed htimed hclosed
    cases isOpen with
    | false => exact hvain timed htimed (hclosed rfl)
    | true =>
      have hmove : Move loop _ := .spokeUp hidle hfresh
        (hbegun.trans (htold.told.then_quiet htimed))
      exact ⟨.single hmove, trivial⟩

theorem admitTranscript_handles (text : String) (hidle : loop.IsIdle) :
    Handles (admitTranscript env segmentId text) loop Anywhere := by
  apply of_read
  split
  next hmode => exact registerPendingSegment_handles env segmentId text none hmode
  next => exact startFinalizedTurn_handles env segmentId text hidle

variable (loop) in
theorem readied_of_none {now : Nat} (h : (loop.finalizer.finalizeReady now).1 = none) :
    loop.readied now = { loop with finalizationDue := false } := by
  simp only [readied, TurnFinalizer.finalizeReady_of_none h, h]
  rfl

variable (loop) in
theorem readied_of_some {now : Nat} {released : FinalizedTranscript}
    (h : (loop.finalizer.finalizeReady now).1 = some released) :
    loop.readied now = { loop with
      finalizationDue := false
      finalizer := (loop.finalizer.finalizeReady now).2
      activeSegmentId := none } := by
  simp only [readied, h]
  rfl

variable (loop) in
/-- The finalizer is asked once; what it releases is admitted by a loop that has let
go of it. -/
theorem startReadyTurn_meets (hidle : loop.IsIdle)
    (hsegment : loop.finalizer.segmentId.isSome → loop.finalizer.finalized = false →
      loop.activeSegmentId.isSome) :
    Meets (startReadyTurn env) loop (fun result after => ∃ wire, loop.wire.Grows [] wire ∧
      Handled ((loop.readied wire.clockMs).onto wire) Anywhere result after) := by
  apply of_update
  apply nowMs_bind
  intro wire hgrows
  have hwire : ∀ {program : Voice Unit} {state : VoiceLoop},
      Meets program state (Handled ((loop.readied wire.clockMs).onto wire) Anywhere) →
      Meets program state (fun result after => ∃ wire, loop.wire.Grows [] wire ∧
        Handled ((loop.readied wire.clockMs).onto wire) Anywhere result after) :=
    fun h => h.mono fun _ _ hhandled => ⟨wire, hgrows, hhandled⟩
  apply of_read
  apply hwire
  split
  next hnone =>
    rw [readied_of_none loop hnone]
    exact Handles.of_pure trivial
  next released hreleased =>
    obtain ⟨hunfinalized, hsome, -⟩ := TurnFinalizer.finalizeReady_eq_some hreleased
    obtain ⟨segmentId, hactive⟩ := Option.isSome_iff_exists.mp
      (hsegment (Option.isSome_of_mem hsome) hunfinalized)
    rw [readied_of_some loop hreleased]
    apply of_update
    have htake : takeActiveSegment { loop with
        finalizationDue := false
        finalizer := (loop.finalizer.finalizeReady wire.clockMs).2
        wire } = (.ok segmentId, { loop with
        finalizationDue := false
        finalizer := (loop.finalizer.finalizeReady wire.clockMs).2
        activeSegmentId := none
        wire }) := by
      simp only [hactive]
      rfl
    apply of_ok_bind htake
    split
    · exact Handles.of_pure trivial
    next text _ => exact admitTranscript_handles env segmentId text hidle

theorem startQueuedAutomaticResponse_handles :
    Handles (startQueuedAutomaticResponse env) loop Anywhere := by
  apply of_read
  split
  next => exact Handles.of_pure trivial
  next segmentId text rest hqueue =>
    split
    next hidle =>
      apply of_update
      apply caught_bind
      apply startSegmentResponse_meets env
      · exact hidle
      · -- The turn runtime refused: the consumer is told, and the session is over.
        intro error wire hgrows
        apply publishReliable_bind env rfl
        intro isOpen told htold
        obtain ⟨wasOpen, hpassed, -⟩ := htold.grows
        exact (Last.unanswered hqueue (hgrows.after_quiet hpassed)).exits
      · intro identity wire hfresh hgrows result hresult
        rcases hresult with rfl | ⟨⟨error, rfl⟩, hclosed⟩
        · exact ⟨.single (.answered hidle hqueue ⟨hfresh.later, hfresh.generation⟩ hgrows), trivial⟩
        · apply publishReliable_bind env rfl
          intro isOpen told htold
          obtain ⟨wasOpen, hpassed, hshut, -⟩ := htold.grows
          rw [hshut hclosed] at hpassed
          exact (Last.answeredInVain hidle hqueue ⟨hfresh.later, hfresh.generation⟩
            (hpassed.closed hclosed) (hgrows.trans hpassed) rfl).exits
      · intro identity wire wasOpen error hfresh hclosed hgrows
        apply publishReliable_bind env rfl
        intro isOpen told htold
        obtain ⟨wasOpen, hpassed, hshut, -⟩ := htold.grows
        rw [hshut hclosed] at hpassed
        exact (Last.abandoned hidle hqueue ⟨hfresh.later, hfresh.generation⟩
          (hpassed.closed hclosed) (hgrows.trans hpassed)).exits
    next => exact Handles.of_pure trivial

/-- An utterance is registered, or published and then queued or refused. -/
theorem admitCleanUtterance_meets (utterance : FinalizedUtterance) (text : String)
    (hlater : loop.lastFinalizedSegment < utterance.segmentId) :
    Meets (admitCleanUtterance env utterance text)
      { loop with lastFinalizedSegment := utterance.segmentId } (Handled loop Anywhere) := by
  apply of_read
  split
  next hmode =>
    apply Handles.after_move (.passedOver hlater)
    exact registerPendingSegment_handles env _ text _ hmode
  next hmode =>
    apply publishReliable_bind env rfl
    intro isOpen told htold
    cases isOpen with
    | true =>
      apply of_require (fun _ => ?_) (fun hshut => absurd rfl hshut)
      apply publishTiming_bind
      intro _ timed htimed _
      have hpassed := htold.told.then_quiet htimed
      apply of_read
      split
      next hfull =>
        apply publishReliable_bind env rfl
        intro _ refused hrefused
        obtain ⟨wasOpen, hskipped, -⟩ := hrefused.grows
        have hlast : Last loop _ := .overflowed hmode hlater (hpassed.trans hskipped)
        exact hlast.exits
      next hroom =>
        have hmove : Move loop _ := .admitted hmode hlater (Nat.lt_of_not_le hroom) hpassed
        apply of_update
        apply Handles.after_move hmove
        exact startQueuedAutomaticResponse_handles env
    | false =>
      obtain ⟨wasOpen, hpassed, -⟩ := htold.grows
      apply of_require (fun hopen => absurd hopen (by decide))
      intro _
      have hmove : Move loop _ := .admittedInVain hmode hlater (htold.closed rfl) hpassed
      exact (Reach.acts (.single hmove)).exits

theorem admitFinalizedUtterance_handles (utterance : FinalizedUtterance) :
    Handles (admitFinalizedUtterance env utterance) loop Anywhere := by
  apply of_read
  apply of_require
  · intro hlater
    apply of_update
    split
    next => exact ⟨.single (.passedOver hlater), trivial⟩
    next text _ => exact admitCleanUtterance_meets env utterance text hlater
  · intro _
    exact Acts.exits .refl

end Responses

end VoiceLoop

end ConversationRuntime
