import Mathlib.Data.List.Count

/-! # Replies on the writer lanes

Replies go to an urgent lane of two places or to the regular lane. The reader
waits until the regular lane has room for the replies of a command and for those
of the commands read after it in a stall; nothing waits for the urgent lane.
-/

namespace ConversationRuntime

def urgentWriterBufferSize : Nat := 2
def normalWriterBufferSize : Nat := 4
def commandReplyRoom : Nat := 2
def commandOverflowRoom : Nat := 16

inductive WriterLane where
  | urgent
  | normal
deriving DecidableEq

inductive GatewaySessionError where
  | writerBackpressure
deriving DecidableEq

def WriterLane.capacity : WriterLane → Nat
  | .urgent => urgentWriterBufferSize
  | .normal => normalWriterBufferSize + commandOverflowRoom

/-- How many messages each lane holds, reserved places included, while the writer
takes none. -/
structure WriterLanes where
  load : WriterLane → Nat
  load_le : ∀ lane, load lane ≤ lane.capacity

namespace WriterLanes

def sendBounded (lanes : WriterLanes) (lane : WriterLane) :
    Except GatewaySessionError WriterLanes :=
  if hroom : lanes.load lane < lane.capacity then
    .ok {
      load := Function.update lanes.load lane (lanes.load lane + 1)
      load_le := by
        intro other
        rw [Function.update_apply]
        split
        next hother => exact hother ▸ hroom
        · exact lanes.load_le other }
  else .error .writerBackpressure

/-- The room the reader waits for before it reads a command. -/
def HasReplyRoom (lanes : WriterLanes) : Prop :=
  lanes.load .normal + (commandReplyRoom + commandOverflowRoom) ≤ WriterLane.normal.capacity

instance (lanes : WriterLanes) : Decidable lanes.HasReplyRoom := inferInstanceAs (Decidable (_ ≤ _))

/-- Everything is sent exactly if each lane has room for its share. -/
theorem foldlM_sendBounded_isOk_iff (lanes : WriterLanes) (sent : List WriterLane) :
    (sent.foldlM sendBounded lanes).isOk = true ↔
      ∀ lane, lanes.load lane + sent.count lane ≤ lane.capacity := by
  induction sent generalizing lanes with
  | nil => exact iff_of_true rfl lanes.load_le
  | cons lane rest ih =>
    rw [List.foldlM_cons]
    by_cases hroom : lanes.load lane < lane.capacity
    · rw [sendBounded, dif_pos hroom]
      refine (ih _).trans (forall_congr' fun other => ?_)
      by_cases hother : other = lane
      · subst hother
        simp [Nat.add_assoc, Nat.add_comm 1]
      · simp [hother, Ne.symm hother]
    · rw [sendBounded, dif_neg hroom]
      refine iff_of_false Bool.false_ne_true fun h => ?_
      have hlane := h lane
      rw [List.count_cons_self] at hlane
      omega

end WriterLanes

/-- Commands that are rejected or accepted with a response. -/
inductive RequestKind where
  | status | renewMediaLease | finalizeRecording | adoptClosedRecording | reconcileRecording
  | recoverRecording | processText | memoryList | memoryInspect | memoryApprove | memoryDelete
  | personaGet | personaUpdate
deriving DecidableEq

/-- Commands that are rejected or accepted. -/
inductive NoticeKind where
  | seedConversationContext | authorizeVoiceResponse | skipVoiceResponse
deriving DecidableEq

/-- What the session loop takes up, with the answers of the parts it asks. -/
inductive GatewayInput where
  | request (kind : RequestKind) (granted : Bool)
  | notice (kind : NoticeKind) (granted : Bool)
  | startTurn (turnId : Nat) (granted : Bool)
  | interruptTurn (turnId : Nat)
  | startVoiceSession (timed granted : Bool)
  | stopVoiceSession
  | pauseVoiceCapture
  | resumeVoiceCapture
  | readRecordingAlignment (granted : Bool)
  | recordingAlignmentCredit (ownRequest : Bool) (page : Nat)
  | cancelRecordingAlignment (ownRequest : Bool)
  /-- A command under the request of the alignment read. -/
  | reusedRequest
  | undecodable
  /-- The inputs of the loop that are no commands. -/
  | controlFinished (succeeded : Bool)
  | pumpEnded
  | forwarderEnded
  | alignmentPage (page : Nat)
  | alignmentEnded
deriving DecidableEq

namespace GatewayInput

def isCommand : GatewayInput → Bool
  | controlFinished _ | pumpEnded | forwarderEnded | alignmentPage _ | alignmentEnded => false
  | _ => true

/-- Whether an alignment read leaves room for the command. -/
def besideAlignment : GatewayInput → Bool
  | request .status _ | recordingAlignmentCredit .. | cancelRecordingAlignment _ | reusedRequest
  | undecodable => true
  | input => !input.isCommand

end GatewayInput

structure VoiceTraffic where
  paused : Bool
  control : Option Bool
deriving DecidableEq

structure AlignmentTraffic where
  credit : Bool
  lastSentPage : Option Nat
deriving DecidableEq

/-- What of a session decides where its replies go. -/
structure GatewayTraffic where
  turn : Option Nat
  voice : Option VoiceTraffic
  terminalPending : Bool
  alignment : Option AlignmentTraffic
deriving DecidableEq

namespace GatewayTraffic

variable (session : GatewayTraffic)

/-- The lanes an input uses, in order, and the session after it. -/
def handle : GatewayInput → List WriterLane × GatewayTraffic
  | .request _ granted => (if granted then [.normal, .normal] else [.normal], session)
  | .notice .. | .undecodable => ([.normal], session)
  | .startTurn turnId granted =>
    if session.terminalPending ||
        session.voice.any (fun voice => !voice.paused || voice.control.isSome) ||
        session.turn.isSome || !granted then ([.normal], session)
    else ([.urgent], { session with turn := some turnId })
  | .interruptTurn turnId => (if session.turn = some turnId then [.urgent] else [.normal], session)
  | .startVoiceSession timed granted =>
    if session.turn.isSome || session.voice.isSome || session.terminalPending || !granted then
      ([.normal], session)
    -- The pump's terminal slot is reserved before the acceptance.
    else ([.normal, .urgent] ++ (if timed then [.normal] else []),
      { session with voice := some ⟨false, none⟩ })
  | .stopVoiceSession =>
    match session.voice with
    | none => ([.normal], session)
    | some voice => ((if voice.control.isSome then [.urgent] else []) ++ [.normal],
        { session with voice := none, terminalPending := true })
  | .pauseVoiceCapture =>
    match session.voice with
    | some ⟨paused, none⟩ => ([], { session with voice := some ⟨paused, some true⟩ })
    | _ => ([.normal], session)
  | .resumeVoiceCapture =>
    match session.turn, session.voice with
    | none, some ⟨paused, none⟩ => ([], { session with voice := some ⟨paused, some false⟩ })
    | _, _ => ([.normal], session)
  | .readRecordingAlignment granted =>
    if session.voice.isSome || session.turn.isSome || session.terminalPending || !granted then
      ([.normal], session)
    else ([.normal], { session with alignment := some ⟨true, none⟩ })
  | .recordingAlignmentCredit ownRequest page =>
    match session.alignment with
    | some alignment =>
      if !ownRequest then ([], session)
      else if alignment.credit || alignment.lastSentPage != some page then
        ([.normal], { session with alignment := none })
      else ([], { session with alignment := some { alignment with credit := true } })
    | none => ([], session)
  | .cancelRecordingAlignment ownRequest =>
    if session.alignment.isSome && ownRequest then ([.normal], { session with alignment := none })
    else ([], session)
  | .reusedRequest => ([.normal], { session with alignment := none })
  | .controlFinished succeeded =>
    match session.voice with
    | some ⟨paused, some pause⟩ => ([.urgent], { session with
        voice := some ⟨if succeeded then pause else paused, none⟩ })
    | _ => ([], session)
  | .pumpEnded =>
    match session.voice with
    | some voice => (if voice.control.isSome then [.urgent] else [],
        { session with voice := none, terminalPending := true })
    | none => ([], session)
  | .forwarderEnded => ([], { session with turn := none })
  | .alignmentPage page =>
    match session.alignment with
    | some ⟨true, _⟩ => ([.normal], { session with alignment := some ⟨false, some page⟩ })
    | _ => ([], session)
  | .alignmentEnded =>
    if session.alignment.isSome then ([.normal], { session with alignment := none })
    else ([], session)

/-- An alignment read refuses most other commands. -/
def take (input : GatewayInput) : List WriterLane × GatewayTraffic :=
  if session.alignment.isSome && !input.besideAlignment then ([.normal], session)
  else session.handle input

/-- Take up inputs while the writer is stalled. -/
def stalled (session : GatewayTraffic) (lanes : WriterLanes) :
    List GatewayInput → Except GatewaySessionError (GatewayTraffic × WriterLanes)
  | [] => .ok (session, lanes)
  | input :: rest => do
    let lanes ← (session.take input).1.foldlM WriterLanes.sendBounded lanes
    stalled (session.take input).2 lanes rest

/-- The replies that a sequence of inputs asks for. -/
def replies (session : GatewayTraffic) : List GatewayInput → List WriterLane
  | [] => []
  | input :: rest => (session.take input).1 ++ replies (session.take input).2 rest

/-! ## What the inputs ask of each lane -/

/-- Whether an input is answered on the urgent lane: an accepted start, an interrupt of
the running turn, or the end of a capture control. -/
def answersUrgently : GatewayInput → Bool
  | .startTurn _ granted =>
    granted && session.turn.isNone && !session.terminalPending && session.alignment.isNone &&
      session.voice.all fun voice => voice.paused && voice.control.isNone
  | .interruptTurn turnId => session.alignment.isNone && decide (session.turn = some turnId)
  | .startVoiceSession _ granted =>
    granted && session.turn.isNone && session.voice.isNone && !session.terminalPending &&
      session.alignment.isNone
  | .stopVoiceSession => session.alignment.isNone && session.voice.any (·.control.isSome)
  | .controlFinished _ | .pumpEnded => session.voice.any (·.control.isSome)
  | _ => false

/-- Whether an input begins an alignment read. -/
def beginsAlignment : GatewayInput → Bool
  | .readRecordingAlignment granted =>
    granted && session.turn.isNone && session.voice.isNone && !session.terminalPending &&
      session.alignment.isNone
  | _ => false

/-- How many of the inputs are of a kind, each judged in the session it finds. -/
def countAlong (kind : GatewayTraffic → GatewayInput → Bool) (session : GatewayTraffic) :
    List GatewayInput → Nat
  | [] => 0
  | input :: rest => (kind session input).toNat + countAlong kind (session.take input).2 rest

/-- What an alignment read has still to send unasked: the page of its credit and its end. -/
def alignmentDebt : Nat :=
  match session.alignment with
  | none => 0
  | some alignment => alignment.credit.toNat + 1

theorem count_urgent_take (input : GatewayInput) :
    (session.take input).1.count .urgent = (session.answersUrgently input).toNat := by
  obtain ⟨turn, voice, terminalPending, alignment⟩ := session
  unfold take answersUrgently
  cases input with
  | startTurn turnId granted =>
    cases alignment <;> cases terminalPending <;> cases turn <;> cases granted <;>
      rcases voice with _ | ⟨_ | _, _ | pause⟩ <;> rfl
  | interruptTurn turnId =>
    cases alignment <;> by_cases hturn : turn = some turnId <;>
      simp [handle, hturn, GatewayInput.besideAlignment, GatewayInput.isCommand]
  | startVoiceSession timed granted =>
    cases alignment <;> cases terminalPending <;> cases turn <;> cases granted <;>
      cases voice <;> cases timed <;> rfl
  | stopVoiceSession | pumpEnded | controlFinished =>
    cases alignment <;> rcases voice with _ | ⟨paused, _ | pause⟩ <;> rfl
  | _ =>
    dsimp only
    unfold handle
    grind

/-- A command has at most two replies on the regular lane, beside what the alignment read
it begins will send. -/
theorem count_normal_take (input : GatewayInput) :
    (session.take input).1.count .normal + (session.take input).2.alignmentDebt ≤
      session.alignmentDebt + 2 * input.isCommand.toNat +
        (session.beginsAlignment input).toNat := by
  obtain ⟨turn, voice, terminalPending, alignment⟩ := session
  unfold take
  split
  next =>
    have hcommand : input.isCommand = true := by
      cases input <;> simp_all [GatewayInput.besideAlignment, GatewayInput.isCommand]
    simp [hcommand]
    omega
  next hbeside =>
    unfold handle alignmentDebt
    cases input with
    | readRecordingAlignment granted =>
      obtain rfl : alignment = none := by
        simpa [GatewayInput.besideAlignment, GatewayInput.isCommand] using hbeside
      dsimp only [GatewayInput.isCommand, beginsAlignment]
      cases voice <;> cases turn <;> cases terminalPending <;> cases granted <;> simp
    | recordingAlignmentCredit | cancelRecordingAlignment | reusedRequest | alignmentPage
    | alignmentEnded =>
      rcases alignment with _ | ⟨_ | _, lastSentPage⟩
      all_goals grind [GatewayInput.isCommand]
    | _ => grind [GatewayInput.isCommand]

variable (inputs : List GatewayInput)

theorem count_urgent_replies :
    (session.replies inputs).count .urgent = session.countAlong answersUrgently inputs := by
  induction inputs generalizing session with
  | nil => rfl
  | cons input rest ih =>
    rw [replies, List.count_append, countAlong, count_urgent_take, ih]

theorem count_normal_replies :
    (session.replies inputs).count .normal ≤ session.alignmentDebt +
      2 * inputs.countP GatewayInput.isCommand + session.countAlong beginsAlignment inputs := by
  induction inputs generalizing session with
  | nil => exact Nat.zero_le _
  | cons input rest ih =>
    have hfirst := session.count_normal_take input
    have hrest := ih (session.take input).2
    rw [replies, List.count_append, countAlong, List.countP_cons]
    cases hcommand : input.isCommand <;> simp [hcommand] at hfirst ⊢ <;> omega

end GatewayTraffic

namespace GatewayTraffic

/-- A stalled session sends the replies of its inputs one after the other. -/
theorem stalled_eq (session : GatewayTraffic) (lanes : WriterLanes) (inputs : List GatewayInput) :
    (stalled session lanes inputs).map Prod.snd =
      (session.replies inputs).foldlM WriterLanes.sendBounded lanes := by
  induction inputs generalizing session lanes with
  | nil => rfl
  | cons input rest ih =>
    rw [stalled, replies, List.foldlM_append]
    cases (session.take input).1.foldlM WriterLanes.sendBounded lanes with
    | error error => rfl
    | ok reached => exact ih (session.take input).2 reached

def exampleSession : GatewayTraffic := ⟨none, none, false, none⟩

def exampleLanes : WriterLanes := ⟨fun _ => 0, fun _ => Nat.zero_le _⟩

end GatewayTraffic

end ConversationRuntime
