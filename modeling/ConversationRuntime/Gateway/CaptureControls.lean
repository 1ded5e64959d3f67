import ConversationRuntime.Foundation.Lists
import ConversationRuntime.Foundation.Runs

/-! # Capture controls of a voice session

A pause or resume runs as a task of its own. The voice loop publishes the change
and completes the task; the session then answers the command and puts a token
into a channel of one place, which the event pump needs before it hands the
change to the writer.
-/

namespace ConversationRuntime

open Foundation List

inductive VoiceCaptureControlKind where
  | pause
  | resume
deriving DecidableEq

/-- A control and the command it belongs to. -/
structure CaptureChange where
  command : Nat
  kind : VoiceCaptureControlKind
deriving DecidableEq

/-- How far the voice loop has come with the pending control. -/
inductive ControlProgress where
  | requested
  /-- The change is published and the task completed. -/
  | published
  | failed
deriving DecidableEq

structure ActiveVoiceControl where
  change : CaptureChange
  progress : ControlProgress
deriving DecidableEq

/-- An event the voice loop has published. -/
inductive PublishedEvent where
  | captureChanged (change : CaptureChange)
  | other
deriving DecidableEq

/-- A message handed to the writer. -/
inductive HandedMessage where
  | accepted (command : Nat)
  | rejected (command : Nat)
  | captureChanged (change : CaptureChange)
  | other
deriving DecidableEq

inductive ControlFailure where
  /-- A token found its channel full. -/
  | voiceControlTask
  /-- A change met a token of the other kind. -/
  | projection
deriving DecidableEq

structure CaptureControls where
  /-- The loop of the gateway session has not ended. -/
  running : Bool
  active : Bool
  paused : Bool
  nextCommand : Nat
  control : Option ActiveVoiceControl
  tokens : List VoiceCaptureControlKind
  stream : List PublishedEvent
  /-- The event the pump has taken, and whether it has its token. -/
  held : Option (PublishedEvent × Bool)
  handed : List HandedMessage
  failure : Option ControlFailure
deriving DecidableEq

namespace CaptureControls

def start : CaptureControls := ⟨true, true, false, 0, none, [], [], none, [], none⟩

inductive Move where
  | command (kind : VoiceCaptureControlKind)
  /-- The voice loop publishes the pending change, if capture is in the state for it. -/
  | publish
  | fail
  | publishOther
  /-- The session sees the completed task of the control. `sent` is off if the urgent
  lane has no room for the answer, which ends the session. -/
  | finish (sent : Bool)
  | pumpTake
  | pumpMatch
  | pumpForward
  /-- The voice session is stopped. `aborted` is a control that did not complete in time. -/
  | stop (aborted sent : Bool)
  /-- The pump has handed over everything and ended. -/
  | pumpEnd (aborted sent : Bool)
  /-- The gateway session ends, for whatever reason: no one is answered any more. -/
  | exit (aborted : Bool)
deriving DecidableEq

variable (state : CaptureControls)

def releaseCaptureControl (kind : VoiceCaptureControlKind) : CaptureControls :=
  if state.tokens = [] then { state with tokens := [kind] }
  else { state with failure := some .voiceControlTask }

/-- Answer the pending control; an answer that cannot be sent ends the session. -/
def answer (message : HandedMessage) (sent : Bool) : CaptureControls :=
  { state with
    running := state.running && sent
    control := none
    handed := if sent then state.handed ++ [message] else state.handed }

/-- Answer a completed control and release its token, whether or not the answer was
sent; `release` is off once the pump has ended. -/
def complete (control : ActiveVoiceControl) (release sent : Bool) : CaptureControls :=
  match control.progress with
  | .requested => state
  | .failed => state.answer (.rejected control.change.command) sent
  | .published =>
    let accepted := state.answer (.accepted control.change.command) sent
    if release then accepted.releaseCaptureControl control.change.kind else accepted

/-- A control that is given up is rejected, and its token released all the same. -/
def abort (control : ActiveVoiceControl) (release sent : Bool) : CaptureControls :=
  let rejected := state.answer (.rejected control.change.command) sent
  if release then rejected.releaseCaptureControl control.change.kind else rejected

/-- The loop has ended, so a control that it did not publish has failed. -/
def cancelVoiceControl (aborted release sent : Bool) : CaptureControls :=
  match state.control with
  | none => state
  | some control =>
    if aborted then state.abort control release sent
    else
      let progress := if control.progress = .requested then .failed else control.progress
      state.complete { control with progress := progress } release sent

def pumpMatch : CaptureControls :=
  match state.held, state.tokens with
  | some (.captureChanged change, false), token :: rest =>
    if token = change.kind then
      { state with tokens := rest, held := some (.captureChanged change, true) }
    else { state with failure := some .projection }
  | _, _ => state

def pumpForward : CaptureControls :=
  match state.held with
  | some (.captureChanged change, true) =>
    { state with held := none, handed := state.handed ++ [.captureChanged change] }
  | some (.other, _) => { state with held := none, handed := state.handed ++ [.other] }
  | _ => state

/-- What the session loop does next. -/
def sessionStep (state : CaptureControls) : Move → CaptureControls
  | .command kind =>
    if state.active && state.control.isNone then
      { state with
        nextCommand := state.nextCommand + 1
        control := some ⟨⟨state.nextCommand, kind⟩, .requested⟩ }
    else
      { state with
        nextCommand := state.nextCommand + 1
        handed := state.handed ++ [.rejected state.nextCommand] }
  | .finish sent =>
    match state.control with
    | some control => state.complete control true sent
    | none => state
  | .stop aborted sent =>
    if state.active then { state.cancelVoiceControl aborted true sent with active := false }
    else state
  | .pumpEnd aborted sent =>
    if state.active && state.held.isNone && state.stream.isEmpty then
      { state.cancelVoiceControl aborted false sent with active := false }
    else state
  -- There is no writer for the answer, so the token alone is released.
  | .exit aborted =>
    { state.cancelVoiceControl aborted true false with active := false, running := false }
  | _ => state

def step (state : CaptureControls) (move : Move) : CaptureControls :=
  if state.failure.isSome then state
  else match move with
    | .publish =>
      match state.control with
      | some ⟨change, .requested⟩ =>
        if state.active && (state.paused == decide (change.kind = .resume)) then
          { state with
            paused := !state.paused
            control := some ⟨change, .published⟩
            stream := state.stream ++ [.captureChanged change] }
        else state
      | _ => state
    | .fail =>
      match state.control with
      | some ⟨change, .requested⟩ => { state with control := some ⟨change, .failed⟩ }
      | _ => state
    | .publishOther => { state with stream := state.stream ++ [.other] }
    | .pumpTake =>
      match state.held, state.stream with
      | none, next :: rest => { state with held := some (next, false), stream := rest }
      | _, _ => state
    | .pumpMatch => state.pumpMatch
    | .pumpForward => state.pumpForward
    | .command _ | .finish _ | .stop .. | .pumpEnd .. | .exit _ =>
      if state.running then state.sessionStep move else state

def run (moves : List Move) : CaptureControls := moves.foldl step start

/-! ## One change at a time -/

def changeOf : PublishedEvent → Option CaptureChange
  | .captureChanged change => some change
  | .other => none

/-- The change the pump holds without its token. -/
def heldChanges : Option (PublishedEvent × Bool) → List CaptureChange
  | some (event, false) => (changeOf event).toList
  | _ => []

/-- The changes that have been published and still need their token. -/
def outstanding (state : CaptureControls) : List CaptureChange :=
  heldChanges state.held ++ state.stream.filterMap changeOf

/-- The voice loop has published no change that the session has not answered. -/
def Answered (state : CaptureControls) : Prop :=
  ∀ control ∈ state.control, control.progress ≠ .published

instance (state : CaptureControls) : Decidable state.Answered :=
  inferInstanceAs (Decidable (∀ control ∈ state.control, _))

/-- A pause or resume is sent once the change before it has its token, and no published
change is given up, left without its acceptance or found by the end of the session. -/
def Waits (state : CaptureControls) : Move → Prop
  | .command _ => state.outstanding = [] ∧ state.tokens = []
  | .finish sent => sent = true ∨ state.Answered
  | .stop aborted sent => aborted = false ∧ sent = true ∨ state.Answered
  | .exit _ => state.Answered
  | _ => True

instance (state : CaptureControls) : DecidablePred state.Waits
  | .command _ => inferInstanceAs (Decidable (_ ∧ _))
  | .finish _ | .stop .. => inferInstanceAs (Decidable (_ ∨ _))
  | .exit _ => inferInstanceAs (Decidable state.Answered)
  | .publish | .fail | .publishOther | .pumpTake | .pumpMatch | .pumpForward | .pumpEnd .. =>
    inferInstanceAs (Decidable True)

/-- How the outstanding changes, the pending control and the tokens belong together. -/
def Tied (state : CaptureControls) : Prop :=
  match state.control with
  | some ⟨change, .published⟩ => state.outstanding = [change] ∧ state.tokens = []
  | some _ => state.outstanding = [] ∧ state.tokens = []
  | none => (state.outstanding = [] ∧ (state.active = true → state.tokens = [])) ∨
      ∃ change, state.outstanding = [change] ∧ state.tokens = [change.kind] ∧
        .accepted change.command ∈ state.handed

/-- Every change is handed to the writer after the acceptance of its command. -/
def FollowsAcceptance (handed : List HandedMessage) : Prop :=
  ∀ before after change, handed = before ++ .captureChanged change :: after →
    .accepted change.command ∈ before

structure Matched (state : CaptureControls) : Prop where
  failure : state.failure = none
  tied : state.Tied
  held : ∀ change, state.held = some (.captureChanged change, true) →
    .accepted change.command ∈ state.handed
  follows : FollowsAcceptance state.handed

variable {state : CaptureControls}

theorem matched_start : Matched start :=
  ⟨rfl, .inl ⟨rfl, fun _ => rfl⟩, nofun, by simp [FollowsAcceptance, start]⟩

theorem FollowsAcceptance.snoc {handed : List HandedMessage} (h : FollowsAcceptance handed)
    {message : HandedMessage}
    (hmessage : ∀ change, message = .captureChanged change → .accepted change.command ∈ handed) :
    FollowsAcceptance (handed ++ [message]) := by
  intro before after change hsplit
  rcases snoc_split hsplit with ⟨rfl, hlast⟩ | ⟨rest, hprior⟩
  · exact hmessage change hlast.symm
  · exact h before rest change hprior

variable {reached : CaptureControls}

/-- Only the changes, the control and the tokens tie a state together. -/
theorem Tied.of_eq (h : state.Tied) (hcontrol : reached.control = state.control)
    (houtstanding : reached.outstanding = state.outstanding)
    (htokens : reached.tokens = state.tokens)
    (hactive : reached.active = true → state.active = true)
    (hhanded : ∀ message ∈ state.handed, message ∈ reached.handed) : reached.Tied := by
  unfold Tied at h ⊢
  rw [hcontrol, houtstanding, htokens]
  split at h
  · exact h
  · exact h
  · rcases h with ⟨hnone, htokens⟩ | ⟨change, hchange, htoken, haccepted⟩
    · exact .inl ⟨hnone, fun h => htokens (hactive h)⟩
    · exact .inr ⟨change, hchange, htoken, hhanded _ haccepted⟩

section

variable (h : Matched state)
include h

/-- A message that is no change is handed over, if it is sent. -/
theorem Matched.answered (message : HandedMessage)
    (hmessage : ∀ change, message ≠ .captureChanged change) (sent : Bool)
    (hfailure : reached.failure = none) (htied : reached.Tied) (hheld : reached.held = state.held)
    (hhanded : reached.handed = if sent then state.handed ++ [message] else state.handed) :
    Matched reached := by
  refine ⟨hfailure, htied, fun change hchange => ?_, ?_⟩
  · have hbefore := h.held change (hheld ▸ hchange)
    rw [hhanded]
    split
    · exact mem_append_left _ hbefore
    · exact hbefore
  · rw [hhanded]
    split
    · exact h.follows.snoc fun change hchange => absurd hchange (hmessage change)
    · exact h.follows

theorem Matched.silent (hfailure : reached.failure = none)
    (htied : reached.Tied) (hheld : ∀ change, reached.held = some (.captureChanged change, true) →
      state.held = some (.captureChanged change, true) ∨ .accepted change.command ∈ state.handed)
    (hhanded : reached.handed = state.handed) : Matched reached := by
  refine ⟨hfailure, htied, fun change hchange => ?_, hhanded ▸ h.follows⟩
  rw [hhanded]
  exact (hheld change hchange).elim (h.held change) id

/-- The session answers a completed control. -/
theorem matched_complete {control : ActiveVoiceControl} {sent : Bool}
    (hcontrol : state.control = some control) (hsent : sent = true ∨ state.Answered) :
    Matched (state.complete control true sent) := by
  have htied := h.tied
  obtain ⟨change, progress⟩ := control
  rw [Tied, hcontrol] at htied
  cases progress with
  | requested => exact h
  | failed =>
    exact h.answered (.rejected change.command) nofun sent h.failure
      (.inl ⟨htied.1, fun _ => htied.2⟩) rfl rfl
  | published =>
    obtain rfl : sent = true := hsent.resolve_right fun h => h _ hcontrol rfl
    simp only [complete, releaseCaptureControl, answer, htied.2, if_true]
    refine h.answered (.accepted change.command) nofun true h.failure ?_ rfl rfl
    exact .inr ⟨change, htied.1, rfl, by simp⟩

/-- A voice session that ends answers its pending control; without a writer the control
is only settled. -/
theorem matched_stop {aborted sent : Bool}
    (hwaits : aborted = false ∧ sent = true ∨ state.Answered) (running : Bool) :
    Matched { state.cancelVoiceControl aborted true sent with
      active := false, running := running } := by
  have hended : ∀ {reached : CaptureControls}, Matched reached →
      Matched { reached with active := false, running := running } := by
    intro reached hreached
    exact hreached.silent hreached.failure
      (hreached.tied.of_eq rfl rfl rfl nofun fun _ => id) (fun _ => .inl) rfl
  unfold cancelVoiceControl
  split
  · exact hended h
  next control hcontrol =>
    have htied := h.tied
    obtain ⟨change, progress⟩ := control
    rw [Tied, hcontrol] at htied
    split
    next haborted =>
      -- Without a published change the token that is released stays unused.
      have hprogress := hwaits.resolve_left (fun h => by simp [h.1] at haborted) _ hcontrol
      have hnone : state.outstanding = [] ∧ state.tokens = [] := by
        cases progress with
        | published => exact absurd rfl hprogress
        | requested | failed => exact htied
      simp only [abort, releaseCaptureControl, answer, hnone.2, if_true]
      exact h.answered (.rejected change.command) nofun sent h.failure (.inl ⟨hnone.1, nofun⟩)
        rfl rfl
    · dsimp only
      split
      next hrequested =>
        -- The loop has ended, so the control it did not get to has failed.
        cases hrequested
        exact h.answered (.rejected change.command) nofun sent h.failure
          (.inl ⟨htied.1, fun _ => htied.2⟩) rfl rfl
      · exact hended (matched_complete h hcontrol (hwaits.imp_left And.right))

/-- The pump ends once it has handed over every change, so none is published that
the session has not answered. -/
theorem matched_pumpEnd (hheld : state.held = none) (hstream : state.stream = [])
    (aborted sent : Bool) :
    Matched { state.cancelVoiceControl aborted false sent with active := false } := by
  have hnone : state.outstanding = [] := by
    rw [outstanding, hheld, hstream]
    rfl
  have htied := h.tied
  unfold cancelVoiceControl
  split
  · exact h.silent h.failure (htied.of_eq rfl rfl rfl nofun fun _ => id) (fun _ => .inl) rfl
  next control hcontrol =>
    obtain ⟨change, progress⟩ := control
    rw [Tied, hcontrol] at htied
    cases progress with
    | published =>
      rw [hnone] at htied
      cases htied.1
    | requested | failed =>
      split
      all_goals
        exact h.answered (.rejected change.command) nofun sent h.failure (.inl ⟨hnone, nofun⟩)
          rfl rfl

theorem matched_pumpMatch : Matched state.pumpMatch := by
  unfold pumpMatch
  split
  next change token rest hheld htokens =>
    have htied := h.tied
    have houtstanding : state.outstanding = change :: state.stream.filterMap changeOf := by
      rw [outstanding, hheld]
      rfl
    -- A token without a pending control belongs to the one outstanding change.
    cases hcontrol : state.control with
    | some control =>
      obtain ⟨pending, progress⟩ := control
      rw [Tied, hcontrol] at htied
      have hempty : state.tokens = [] := by cases progress <;> exact htied.2
      rw [hempty] at htokens
      cases htokens
    | none =>
      rw [Tied, hcontrol] at htied
      rcases htied with ⟨hnone, -⟩ | ⟨found, hfound, htoken, haccepted⟩
      · rw [houtstanding] at hnone
        cases hnone
      · rw [houtstanding] at hfound
        rw [htokens] at htoken
        obtain ⟨rfl, hstream⟩ := cons_eq_cons.mp hfound
        obtain ⟨rfl, rfl⟩ := cons_eq_cons.mp htoken
        rw [if_pos rfl]
        refine h.silent h.failure (.inl ⟨hstream, fun _ => rfl⟩) (fun other hother => ?_) rfl
        cases hother
        exact .inr haccepted
  · exact h

theorem matched_pumpForward : Matched state.pumpForward := by
  have htied : ∀ {message : HandedMessage}, heldChanges state.held = [] →
      ({ state with held := none, handed := state.handed ++ [message] } :
        CaptureControls).Tied := by
    intro message hheld
    refine h.tied.of_eq rfl ?_ rfl id (by simp +contextual)
    rw [outstanding, outstanding, hheld]
    rfl
  unfold pumpForward
  split
  next change hheld =>
    refine ⟨h.failure, htied (by rw [hheld]; rfl), nofun, h.follows.snoc ?_⟩
    intro found hfound
    cases hfound
    exact h.held change hheld
  next matched hheld =>
    refine ⟨h.failure, htied ?_, nofun, h.follows.snoc nofun⟩
    rw [hheld]
    cases matched <;> rfl
  · exact h

end

theorem matched_sessionStep (state : CaptureControls) (move : Move) (hwaits : state.Waits move)
    (h : Matched state) : Matched (state.sessionStep move) := by
  unfold sessionStep
  split
  · split
    · exact h.silent h.failure hwaits (fun _ => .inl) rfl
    · exact h.answered (.rejected state.nextCommand) nofun true h.failure
        (h.tied.of_eq rfl rfl rfl id (by simp +contextual)) rfl rfl
  · split
    next control hcontrol => exact matched_complete h hcontrol hwaits
    · exact h
  · split
    · exact matched_stop h hwaits _
    · exact h
  next aborted sent =>
    split
    next hended =>
      simp only [Bool.and_eq_true, Option.isNone_iff_eq_none, List.isEmpty_iff] at hended
      exact matched_pumpEnd h hended.1.2 hended.2 aborted sent
    · exact h
  · exact matched_stop h (.inr hwaits) false
  · exact h

theorem matched_step (state : CaptureControls) (move : Move) (hwaits : state.Waits move)
    (h : Matched state) : Matched (state.step move) := by
  have htied := h.tied
  unfold step
  rw [if_neg (by rw [h.failure]; exact Bool.false_ne_true)]
  cases move with
  | publish =>
    dsimp only
    split
    next change hcontrol =>
      rw [Tied, hcontrol] at htied
      split
      · refine h.silent h.failure ?_ (fun _ => .inl) rfl
        refine ⟨?_, htied.2⟩
        rw [outstanding, filterMap_append, ← append_assoc]
        exact congrArg (· ++ [change]) htied.1
      · exact h
    · exact h
  | fail =>
    dsimp only
    split
    next change hcontrol =>
      rw [Tied, hcontrol] at htied
      exact h.silent h.failure htied (fun _ => .inl) rfl
    · exact h
  | publishOther =>
    refine h.silent h.failure (htied.of_eq rfl ?_ rfl id fun _ => id) (fun _ => .inl) rfl
    simp [outstanding, changeOf]
  | pumpTake =>
    dsimp only
    split
    next next rest hheld hstream =>
      refine h.silent h.failure (htied.of_eq rfl ?_ rfl id fun _ => id) nofun rfl
      rw [outstanding, outstanding, hheld, hstream]
      cases next <;> rfl
    · exact h
  | pumpMatch => exact matched_pumpMatch h
  | pumpForward => exact matched_pumpForward h
  | command kind | finish sent | stop aborted sent | pumpEnd aborted sent | exit aborted =>
    dsimp only
    split
    · exact matched_sessionStep state _ hwaits h
    · exact h

/-- While every control waits for the change before it and no published change is left
without its answer, tokens never find their channel full, changes meet their own tokens,
and each is handed over after the acceptance of its command. -/
theorem capture_controls_matched (moves : List Move) (hwaits : Along step Waits start moves) :
    (run moves).failure = none ∧ FollowsAcceptance (run moves).handed := by
  have h : Matched (run moves) := hwaits.kept matched_step matched_start
  exact ⟨h.failure, h.follows⟩

/-- A control from its command to the change the client is shown. -/
def exampleControl (kind : VoiceCaptureControlKind) : List Move :=
  [.command kind, .publish, .finish true, .pumpTake, .pumpMatch, .pumpForward]

theorem capture_controls_matched_in_turn :
    (run (exampleControl .pause ++ exampleControl .resume ++ [.exit false])).handed =
        [.accepted 0, .captureChanged ⟨0, .pause⟩, .accepted 1, .captureChanged ⟨1, .resume⟩] ∧
    (run (exampleControl .pause ++ exampleControl .resume ++ [.exit false])).failure = none :=
  ⟨by decide, (capture_controls_matched _ (by decide)).1⟩

/-- A resume that completes while the pump is behind finds the token of the pause. -/
theorem pipelined_controls_overflow :
    (run [.command .pause, .publish, .finish true, .command .resume, .publish,
      .finish true]).failure = some .voiceControlTask := by
  decide

/-- The client leaves while its one pause is under way: the change is handed over without
an acceptance. -/
example : (run [.command .pause, .publish, .exit false, .pumpTake, .pumpMatch,
    .pumpForward]).handed = [.captureChanged ⟨0, .pause⟩] := by
  decide

end CaptureControls

end ConversationRuntime
