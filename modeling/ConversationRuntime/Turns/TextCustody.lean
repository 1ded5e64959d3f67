import ConversationRuntime.Turns.TextTurn

/-! # Custody of a text turn

A turn is in the custody of the call that it was handed out to: nobody else changes its
state in the context, its slot, its record or its claim. What a call knows of its turn
at each stage is kept by the steps of the others, and its own sections in the context
and its own changes of the slot take it from one stage to the next.
-/

namespace ConversationRuntime

open Foundation ConversationLifecycle List Nat Option
open ConversationQualityController TextBoard TurnIdentity

variable {Persona : Type}

/-- Where the context stands with a turn. -/
inductive ContextCustody where
  | held (pending : Option PendingTurn) (finalizing : Bool)
  | gone

/-- The context is where its custodian takes it to be. -/
def ContextCustody.Of (context : ConversationContext Persona) (identity : TurnIdentity) :
    ContextCustody → Prop
  | held pending finalizing =>
    context.lifecycle.active = some ⟨identity, finalizing⟩ ∧ context.quality.pendingTurn = pending
  | gone => ¬ context.lifecycle.Owns identity ∧ ¬ context.quality.Awaits identity.turnId

/-- The slot of the active turn: held with this mark, or not held. -/
def TextBoard.SlotOf (board : TextBoard Persona) (identity : TurnIdentity) : Option Bool → Prop
  | some finalizing => board.active = some ⟨identity, finalizing⟩
  | none => ∀ active ∈ board.active, active.identity.turnId ≠ identity.turnId

/-- What the call at `index` knows of its turn. -/
structure TextCustody (board : TextBoard Persona) (index : Nat) (identity : TurnIdentity)
    (custody : ContextCustody) (slot : Option Bool) (recorded claimed : Bool) : Prop where
  mine : (index, identity.turnId) ∈ board.owners
  stands : custody.Of board.context identity
  slotted : board.SlotOf identity slot
  isRecorded : identity.turnId ∈ board.context.quality.recorded ↔ recorded = true
  isClaimed : identity.turnId ∈ board.claimed ↔ claimed = true

/-- What a step of the call at `index` leaves to the other turns. -/
structure TextSpares (index : Nat) (before after : TextBoard Persona) : Prop where
  mine : ∀ {owner}, owner ∈ before.owners → owner ∈ after.owners
  context : ∀ {other : Nat} {identity : TurnIdentity} {custody : ContextCustody}, other ≠ index →
    (other, identity.turnId) ∈ before.owners → custody.Of before.context identity →
    custody.Of after.context identity
  slot : ∀ {other : Nat} {identity : TurnIdentity} {slot : Option Bool}, other ≠ index →
    (other, identity.turnId) ∈ before.owners → before.SlotOf identity slot →
    after.SlotOf identity slot
  recorded : ∀ {other : Nat} {turnId : TurnId}, other ≠ index → (other, turnId) ∈ before.owners →
    (turnId ∈ after.context.quality.recorded ↔ turnId ∈ before.context.quality.recorded)
  claimed : ∀ {other : Nat} {turnId : TurnId}, other ≠ index → (other, turnId) ∈ before.owners →
    (turnId ∈ after.claimed ↔ turnId ∈ before.claimed)
  interrupted : ∀ {turnId : TurnId}, turnId ∈ before.interrupted → turnId ∈ after.interrupted
  kept : ∀ {turnId : TurnId}, turnId ∈ before.claimed → turnId ∈ after.claimed

/-- Custody survives the steps of the others. -/
theorem TextCustody.spared {board after : TextBoard Persona} {index other : Nat}
    {identity : TurnIdentity} {custody : ContextCustody} {slot : Option Bool}
    {recorded claimed : Bool} (h : TextCustody board other identity custody slot recorded claimed)
    (hspares : TextSpares index board after) (hother : other ≠ index) :
    TextCustody after other identity custody slot recorded claimed where
  mine := hspares.mine h.mine
  stands := hspares.context hother h.mine h.stands
  slotted := hspares.slot hother h.mine h.slotted
  isRecorded := (hspares.recorded hother h.mine).trans h.isRecorded
  isClaimed := (hspares.claimed hother h.mine).trans h.isClaimed

/-- The board: who owns a turn is settled once, and what is kept of the turns concerns
those handed out. -/
structure TextConsistent (board : TextBoard Persona) : Prop where
  bounded : ∀ owner ∈ board.owners, owner.2 ≤ board.context.lifecycle.sequence
  unique : ∀ first second turnId, (first, turnId) ∈ board.owners → (second, turnId) ∈ board.owners →
    first = second
  /-- What is recorded was claimed, and what is claimed was not interrupted. -/
  recorded : ∀ turnId ∈ board.context.quality.recorded, turnId ∈ board.claimed
  claimed : ∀ turnId ∈ board.claimed, turnId ≤ board.context.lifecycle.sequence ∧
    turnId ∉ board.interrupted
  slot : ∀ active ∈ board.active, active.identity.turnId ≤ board.context.lifecycle.sequence
  finalizing : ∀ active ∈ board.active,
    (active.finalizing = true ↔ active.identity.turnId ∈ board.claimed)
  idle : board.context.lifecycle.active = none → board.context.quality.pendingTurn = none
  fits : ∀ exchange ∈ board.context.quality.history, exchange.turnId ≠ none →
    exchange.user.text.utf8ByteSize + exchange.assistant.text.utf8ByteSize ≤
      maxConversationMessageBytes

/-! ## Steps -/

namespace TextSpares

variable {board : TextBoard Persona} {index : Nat}

theorem refl (board : TextBoard Persona) (index : Nat) : TextSpares index board board :=
  ⟨id, fun _ _ => id, fun _ _ => id, fun _ _ => .rfl, fun _ _ => .rfl, id, id⟩

variable {identity : TurnIdentity} (h : TextConsistent board)

include h

/-- The next turn is handed out. -/
theorem of_reserve (hidentity : identity.turnId = board.context.lifecycle.sequence + 1)
    (hidle : board.context.lifecycle.active = none) {context : ConversationContext Persona}
    (hactive : context.lifecycle.Owns identity) (hquality : context.quality = board.context.quality)
    {owners : List (Nat × TurnId)} (howners : ∀ {owner}, owner ∈ board.owners → owner ∈ owners) :
    TextSpares index board { board with context, owners } := by
  refine ⟨howners, ?_, fun _ _ => id, ?_, fun _ _ => .rfl, id, id⟩
  · intro other turn custody _ howner hcustody
    cases custody with
    | held pending finalizing =>
      rw [ContextCustody.Of, hidle] at hcustody
      exact absurd hcustody.1.symm (some_ne_none _)
    | gone =>
      refine ⟨?_, ?_⟩
      · intro hturn
        have hsame : turn = identity := some.inj (hturn.symm.trans hactive)
        have hbound := h.bounded _ howner
        simp only [hsame, hidentity] at hbound
        exact not_succ_le_self _ hbound
      · rw [show _ = _ from hquality]
        exact hcustody.2
  · intro _ _ _ _
    rw [show _ = _ from hquality]

end TextSpares

/-! ## What a call knows -/

namespace TextTurn

/-- The text of the deltas that were published. -/
def deltaText (events : List RuntimeEvent) : String :=
  events.foldl (fun text event => match event with
    | .textDelta _ delta => text ++ delta
    | _ => text) ""

/-- Nothing was published yet. -/
structure Quiet (turn : TextTurn) : Prop where
  events : turn.events = []
  terminals : turn.terminals = []

/-- No completed text was published yet, and no terminal event sent. -/
structure Unanswered (turn : TextTurn) : Prop where
  texts : ∀ turnId text, .textCompleted turnId text ∉ turn.events
  terminals : turn.terminals = []

/-- The terminal event and the text that a run came to. -/
structure Composed (turn : TextTurn) (terminal : RuntimeEvent) (text : String) : Prop where
  unanswered : turn.Unanswered
  ends : terminal.isTerminal = true
  answer : terminal.isCompletion = true → isBlank text = false ∧ text = deltaText turn.events ∧
    text.utf8ByteSize ≤ turn.maximumResponseBytes

/-- The terminal event is decided; a completed text was published for a completion only. -/
structure Closing (turn : TextTurn) (terminal : RuntimeEvent) : Prop where
  ends : terminal.isTerminal = true
  texts : ∀ turnId text, .textCompleted turnId text ∈ turn.events →
    terminal.isCompletion = true ∧ text = deltaText turn.events

/-- The turn is resolved, and nobody has claimed it in the context. -/
def Ready (board : TextBoard Persona) (index : Nat) (turn : TextTurn) (identity : TurnIdentity)
    (slot : Option Bool) (claimed : Bool) : Prop :=
  ∃ user, user.text = turn.transcript ∧
    TextCustody board index identity (.held (some ⟨identity.turnId, user⟩) false) slot false claimed

/-- The turn is being ended; `completes` says how. -/
def Stands (board : TextBoard Persona) (index : Nat) (turn : TextTurn) (identity : TurnIdentity)
    (slot : Option Bool) (completes : Bool) : Ending → Prop
  | .claim _ author => author = identity ∧ Ready board index turn identity slot completes
  | .settle _ author reclaimed => author = identity ∧ reclaimed = false ∧
      ∃ user, user.text = turn.transcript ∧
        TextCustody board index identity (.held (some ⟨identity.turnId, user⟩) true) slot false
          completes
  | .finish _ author result => author = identity ∧ result = .ok () ∧
      TextCustody board index identity (.held none true) slot completes completes
  | .done _ author result => author = identity ∧ result = .ok () ∧
      TextCustody board index identity .gone slot completes completes

/-- What was generated when a run waits, and what comes next to it. -/
def runText : TextRun → String × String
  | .streaming generatedText _ => (generatedText, "")
  | .publishingDelta generatedText _ delta => (generatedText, delta)
  | _ => ("", "")

/-- What is known of a turn from how far it has come. -/
def Warranted (board : TextBoard Persona) (index : Nat) (turn : TextTurn) : Prop :=
  match turn.stage with
  | .beginning (.reserve transcript) => turn.Quiet ∧ transcript = turn.transcript
  | .beginning (.resolve identity transcript) => turn.Quiet ∧ transcript = turn.transcript ∧
      TextCustody board index identity (.held none false) none false false
  | .beginning (.release identity _) => turn.Quiet ∧
      TextCustody board index identity (.held none false) none false false
  | .beginning (.done (.ok identity)) => turn.Quiet ∧ Ready board index turn identity none false
  | .beginning (.done (.error _)) => turn.Quiet
  | .admitting identity => turn.Quiet ∧ Ready board index turn identity none false
  | .preparing identity => turn.Quiet ∧ Ready board index turn identity (some false) false
  | .abandoning identity admitted _ ending => turn.Quiet ∧ ending.outcome.isDiscard = true ∧
      Stands board index turn identity (if admitted then some false else none) false ending
  | .releasing identity _ => turn.Quiet ∧
      TextCustody board index identity .gone (some false) false false
  | .refused _ => turn.Quiet
  | .running identity run => turn.Unanswered ∧ deltaText turn.events = (runText run).1 ∧
      (runText run).1.utf8ByteSize + (runText run).2.utf8ByteSize ≤ turn.maximumResponseBytes ∧
      Ready board index turn identity (some false) false
  | .claiming identity terminal text => turn.Composed terminal text ∧
      Ready board index turn identity (some false) false
  | .selecting identity terminal text completed => turn.Composed terminal text ∧
      (completed = true → terminal.isCompletion = true) ∧
      (completed = false → terminal.isCompletion = true → identity.turnId ∈ board.interrupted) ∧
      Ready board index turn identity (some completed) completed
  | .settling identity terminal text ending => turn.Composed terminal text ∧
      (terminal.isCompletion = true → ending.outcome = .complete text) ∧
      (terminal.isCompletion = false → ending.outcome.isDiscard = true) ∧
      Stands board index turn identity (some terminal.isCompletion) terminal.isCompletion ending
  | .publishing identity terminal text => turn.Composed terminal text ∧
      TextCustody board index identity .gone (some terminal.isCompletion) terminal.isCompletion
        terminal.isCompletion
  | .clearing identity terminal => turn.Closing terminal ∧ turn.terminals = [] ∧
      TextCustody board index identity .gone (some terminal.isCompletion) terminal.isCompletion
        terminal.isCompletion
  | .sending identity terminal => turn.Closing terminal ∧ turn.terminals = [] ∧
      TextCustody board index identity .gone none terminal.isCompletion terminal.isCompletion
  | .ceased identity terminal => turn.Closing terminal ∧ turn.terminals = [terminal] ∧
      TextCustody board index identity .gone none terminal.isCompletion terminal.isCompletion

end TextTurn

/-- What is known of a call. -/
def TextCall.Warranted (board : TextBoard Persona) (index : Nat) : TextCall → Prop
  | .turn started => started.Warranted board index
  | .interrupted turnId (.ok _) => turnId ∈ board.interrupted ∨ turnId ∈ board.claimed
  | _ => True

/-! ## Steps keep what is known -/

/-- A step leaves a consistent board, something is known after it and the others keep what
they know. -/
structure TextPasses (index : Nat) (board after : TextBoard Persona) (known : Prop) : Prop where
  consistent : TextConsistent after
  known : known
  spares : TextSpares index board after

/-- The call of the step knows what it needs. -/
abbrev TextActsWell (index : Nat) (board : TextBoard Persona) (call : TextCall)
    (after : TextBoard Persona) : Prop := TextPasses index board after (call.Warranted after index)

section acts

variable {board : TextBoard Persona} {index : Nat} {turn : TextTurn}

theorem TextPasses.imp {after : TextBoard Persona} {known other : Prop}
    (h : TextPasses index board after known) (himp : known → other) :
    TextPasses index board after other := ⟨h.consistent, himp h.known, h.spares⟩

theorem TextPasses.same (h : TextConsistent board) {known : Prop} (hknown : known) :
    TextPasses index board board known := ⟨h, hknown, .refl board index⟩

variable {context : ConversationContext Persona} {identity : TurnIdentity}
  {custody : ContextCustody} {slot : Option Bool} {recorded claimed : Bool}

variable {finalizing : Bool}

theorem TextCustody.owns {pending : Option PendingTurn}
    (h : TextCustody board index identity (.held pending finalizing) slot recorded claimed) :
    board.context.lifecycle.Owns identity := by
  rw [Owns, h.stands.1]
  rfl

theorem TextTurn.maximumResponseBytes_le (turn : TextTurn) :
    turn.maximumResponseBytes ≤ maxConversationMessageBytes := sub_le _ _

/-- What a call that ends a turn must bring along. -/
structure TextTurn.Endable (turn : TextTurn) (completes : Bool) (outcome : Outcome) : Prop where
  completion : completes = true → ∃ text, outcome = .complete text ∧ isBlank text = false ∧
    text.utf8ByteSize ≤ turn.maximumResponseBytes
  discard : completes = false → outcome.isDiscard = true

theorem TextTurn.Endable.of_complete {completes : Bool} {text : String}
    (h : turn.Endable completes (.complete text)) : completes = true ∧ isBlank text = false ∧
      text.utf8ByteSize ≤ turn.maximumResponseBytes := by
  cases completes with
  | false => exact absurd (h.discard rfl) Bool.false_ne_true
  | true =>
    obtain ⟨_, ⟨⟩, htext⟩ := h.completion rfl
    exact ⟨rfl, htext⟩

/-- The turns of others are other turns. -/
theorem TextCustody.distinct (h : TextConsistent board)
    (hcustody : TextCustody board index identity custody slot recorded claimed) {other : Nat}
    {turnId : TurnId} (hother : other ≠ index) (howner : (other, turnId) ∈ board.owners) :
    turnId ≠ identity.turnId := by
  rintro rfl
  exact hother (h.unique other index _ howner hcustody.mine)

section

variable {pending : Option PendingTurn} {finalizing : Bool} (h : TextConsistent board)
  (hcustody : TextCustody board index identity (.held pending finalizing) slot recorded claimed)
include h hcustody

section

variable {reached : ContextCustody}
  (hsequence : context.lifecycle.sequence = board.context.lifecycle.sequence)
  (hactive : context.lifecycle.active = none ∨ context.lifecycle.Owns identity)
  (hpending : ∀ pending ∈ context.quality.pendingTurn, pending.turnId = identity.turnId)
  (hidle : context.lifecycle.active = none → context.quality.pendingTurn = none)
include hsequence hactive hpending hidle

/-- The custodian of the active turn changes the context, which goes on counting as before. -/
theorem custody_changes {kept : Bool}
    (hrecorded : ∀ turnId ∈ context.quality.recorded, turnId ∈ board.claimed)
    (hothers : ∀ turnId, turnId ≠ identity.turnId → (turnId ∈ context.quality.recorded ↔
      turnId ∈ board.context.quality.recorded))
    (hkept : identity.turnId ∈ context.quality.recorded ↔ kept = true)
    (hfits : ∀ exchange ∈ context.quality.history, exchange.turnId ≠ none →
      exchange.user.text.utf8ByteSize + exchange.assistant.text.utf8ByteSize ≤
        maxConversationMessageBytes) (hstands : reached.Of context identity) :
    TextPasses index board { board with context }
      (TextCustody { board with context } index identity reached slot kept claimed) where
  consistent := { h with
    bounded := hsequence ▸ h.bounded
    recorded := hrecorded
    claimed := hsequence ▸ h.claimed
    slot := hsequence ▸ h.slot
    idle := hidle
    fits := hfits }
  known := { hcustody with stands := hstands, isRecorded := hkept }
  spares := by
    refine ⟨id, ?_, fun _ _ => id, ?_, fun _ _ => .rfl, id, id⟩
    · intro other turn custody hother howner hstood
      have hdistinct := hcustody.distinct h hother howner
      cases custody with
      | held pending finalizing =>
        -- the active turn is another one
        have hsame : turn = identity := congrArg ActiveConversationTurn.identity
          (some.inj (hstood.1.symm.trans hcustody.stands.1))
        exact absurd (congrArg turnId hsame) hdistinct
      | gone =>
        refine ⟨?_, ?_⟩
        · intro hturn
          rcases hactive with hnone | hown
          · rw [Owns, show _ = none from hnone] at hturn
            cases hturn
          · have hsame : turn = identity := some.inj (hturn.symm.trans hown)
            exact hdistinct (congrArg turnId hsame)
        · intro hawaits
          obtain ⟨pending, hfound, hturn⟩ := map_eq_some_iff.mp hawaits
          exact hdistinct (hturn.symm.trans (hpending pending hfound))
    · intro other turnId hother howner
      exact hothers turnId (hcustody.distinct h hother howner)

/-- A custodian changes the context without recording anything. -/
theorem custody_forgets (hforgets : board.context.quality.Forgets context.quality)
    (hstands : reached.Of context identity) :
    TextPasses index board { board with context }
      (TextCustody { board with context } index identity reached slot recorded claimed) := by
  have hsame := hforgets.recorded
  refine custody_changes h hcustody hsequence hactive hpending hidle (hsame ▸ h.recorded)
    (fun _ _ => by rw [hsame]) (hsame ▸ hcustody.isRecorded) ?_ hstands
  intro exchange hexchange hturn
  rcases hforgets.history exchange hexchange with hnone | hold
  · exact absurd hnone hturn
  · exact h.fits exchange hold hturn

end

/-- The custodian keeps the turn. -/
theorem custody_holds (context : ConversationContext Persona) {kept : Option PendingTurn}
    {ends : Bool}
    (hsequence : context.lifecycle.sequence = board.context.lifecycle.sequence)
    (hactive : context.lifecycle.active = some ⟨identity, ends⟩)
    (hforgets : board.context.quality.Forgets context.quality)
    (hpending : context.quality.pendingTurn = kept)
    (hkept : ∀ pending ∈ kept, pending.turnId = identity.turnId) :
    TextPasses index board { board with context }
      (TextCustody { board with context } index identity (.held kept ends) slot recorded
        claimed) := by
  refine custody_forgets h hcustody hsequence (.inr ?_) (hpending ▸ hkept) ?_ hforgets
    ⟨hactive, hpending⟩
  · rw [Owns, hactive]
    rfl
  · rw [hactive]
    rintro ⟨⟩

end

/-- The custodian gives up a turn that is not pending. -/
theorem custody_clears (h : TextConsistent board)
    (hcustody : TextCustody board index identity (.held none finalizing) slot recorded claimed) :
    let context := { board.context with lifecycle := board.context.lifecycle.clear }
    TextPasses index board { board with context }
      (TextCustody { board with context } index identity .gone slot recorded claimed) := by
  have hnone : board.context.quality.pendingTurn = none := hcustody.stands.2
  refine custody_forgets h hcustody rfl (.inl rfl) ?_ (fun _ => hnone) (.refl _) ⟨nofun, ?_⟩
  · simp [hnone]
  · simp [Awaits, hnone]

/-- The custodian has the pending turn taken and its exchange recorded. -/
theorem stands_appended (h : TextConsistent board) {user message : ConversationMessage}
    (huser : user.text = turn.transcript) (hcustody : TextCustody board index identity
      (.held (some ⟨identity.turnId, user⟩) true) slot false true)
    (hmessage : message.text.utf8ByteSize ≤ turn.maximumResponseBytes) :
    let context : ConversationContext Persona := { board.context with
      quality := board.context.quality.taken.append ⟨identity.turnId, user⟩ message }
    TextPasses index board { board with context }
      (TextCustody { board with context } index identity (.held none true) slot true true) := by
  intro context
  refine custody_changes h hcustody (show context.lifecycle.sequence = _ from rfl)
    (.inr hcustody.owns) nofun (fun _ => rfl)
    (forall_mem_snoc h.recorded (hcustody.isClaimed.mpr rfl)) ?_ ?_ ?_ ⟨hcustody.stands.1, rfl⟩
  · intro turnId hturn
    exact mem_append.trans (or_iff_left fun hnew => hturn (mem_singleton.mp hnew))
  · exact iff_of_true (mem_append_right _ (mem_singleton_self _)) rfl
  · intro exchange hexchange hturn
    rcases mem_append.mp (mem_of_mem_enforceHistoryBounds hexchange) with hold | hnew
    · exact h.fits exchange hold hturn
    · -- the budget of the answer is what the transcript leaves
      have hbound := user.bounded
      rw [mem_singleton.mp hnew]
      simp only [TextTurn.maximumResponseBytes, ← huser] at hmessage
      simp only
      omega

/-- A section of a call that ends a turn, run by the custodian of the turn. -/
theorem stands_step (h : TextConsistent board) {completes : Bool} {ending reached : Ending}
    (hmove : Ending.Move board.context ending reached context)
    (hstands : turn.Stands board index identity slot completes ending)
    (hendable : turn.Endable completes ending.outcome) :
    TextPasses index board { board with context }
      (turn.Stands { board with context } index identity slot completes reached) := by
  cases hmove with
  | rejected outcome author error hactive =>
    obtain ⟨rfl, user, -, hcustody⟩ := hstands
    exact absurd hcustody.stands.1 hactive
  | claimed outcome author hactive =>
    obtain ⟨rfl, user, huser, hcustody⟩ := hstands
    have hholds := custody_holds h hcustody { board.context with
      lifecycle := { board.context.lifecycle with active := some ⟨author, true⟩ } } rfl rfl
        (.refl _)
      hcustody.stands.2 (by simp)
    exact hholds.imp fun hreached => ⟨rfl, rfl, user, huser, hreached⟩
  | reclaimed interrupted author hactive =>
    obtain ⟨rfl, user, -, hcustody⟩ := hstands
    rw [hcustody.stands.1] at hactive
    cases hactive
  | appended assistant author reclaimed pending message hpending hturn hmessage =>
    obtain ⟨rfl, -, user, huser, hcustody⟩ := hstands
    rw [hcustody.stands.2] at hpending
    cases hpending
    obtain ⟨rfl, -, hbound⟩ := hendable.of_complete
    rw [← new_eq_ok hmessage] at hbound
    exact (stands_appended h huser hcustody hbound).imp fun hreached => ⟨rfl, rfl, hreached⟩
  | overlong assistant author reclaimed hawaits hlong =>
    obtain ⟨-, -, hbound⟩ := hendable.of_complete
    have hmaximum := turn.maximumResponseBytes_le
    simp only [maxConversationMessageBytes] at hmaximum
    simp only [maxHistoryBytes] at hlong
    omega
  | unkept assistant author reclaimed error hawaits hmessage =>
    obtain ⟨-, hblank, hbound⟩ := hendable.of_complete
    rw [ConversationMessage.new_of_fits hblank
      (hbound.trans turn.maximumResponseBytes_le)] at hmessage
    cases hmessage
  | dropped interrupted author reclaimed quality hawaits hgone hforgets =>
    obtain ⟨rfl, -, user, huser, hcustody⟩ := hstands
    cases completes with
    | true =>
      obtain ⟨text, houtcome, -⟩ := hendable.completion rfl
      cases houtcome
    | false =>
      have hholds := custody_holds h hcustody
        { board.context with quality } rfl hcustody.stands.1 hforgets hgone (by simp)
      exact hholds.imp fun hreached => ⟨rfl, rfl, hreached⟩
  | missed outcome author reclaimed error hmissing =>
    obtain ⟨rfl, -, user, -, hcustody⟩ := hstands
    refine absurd ?_ hmissing
    rw [Awaits, hcustody.stands.2]
    rfl
  | recovered interrupted author hmissing => exact absurd hstands.2.1 Bool.true_eq_false.mp
  | ended outcome author hactive =>
    obtain ⟨rfl, -, hcustody⟩ := hstands
    exact (custody_clears h hcustody).imp fun hreached => ⟨rfl, rfl, hreached⟩
  | failed outcome author error howns =>
    obtain ⟨-, hresult, -⟩ := hstands
    cases hresult
  | lost outcome author result error hactive =>
    obtain ⟨rfl, -, hcustody⟩ := hstands
    exact absurd hcustody.stands.1 hactive
  | ceased outcome author result => exact .same h hstands

theorem TextTurn.Quiet.staged (h : turn.Quiet) (stage : TextStage) :
    { turn with stage := stage }.Quiet := ⟨h.events, h.terminals⟩

theorem TextTurn.Unanswered.staged (h : turn.Unanswered) (stage : TextStage) :
    { turn with stage := stage }.Unanswered := ⟨h.texts, h.terminals⟩

variable {terminal : RuntimeEvent}

theorem TextTurn.Composed.staged {text : String} (h : turn.Composed terminal text)
    (stage : TextStage) : { turn with stage := stage }.Composed terminal text :=
  ⟨h.unanswered.staged stage, h.ends, h.answer⟩

theorem TextTurn.Closing.staged (h : turn.Closing terminal) (stage : TextStage) :
    { turn with stage := stage }.Closing terminal := ⟨h.ends, h.texts⟩

theorem TextTurn.Stands.staged {completes : Bool} {ending : Ending}
    (h : turn.Stands board index identity slot completes ending) (stage : TextStage) :
    { turn with stage := stage }.Stands board index identity slot completes ending := by
  cases ending <;> exact h

/-! ### Beginning -/

/-- The board notes a new owner only when a turn is handed out. -/
theorem TextBoard.noteOwner_of_sequence (context : ConversationContext Persona)
    (h : context.lifecycle.sequence = board.context.lifecycle.sequence) :
    board.noteOwner index context = { board with context } := by
  simp [noteOwner, h]

variable (h : TextConsistent board)

include h

theorem reserved_actsWell {transcript : String} (hquiet : turn.Quiet)
    (htranscript : transcript = turn.transcript)
    (hidentity : identity.turnId = board.context.lifecycle.sequence + 1)
    (hidle : board.context.lifecycle.active = none) :
    TextActsWell index board
      (.turn { turn with stage := .beginning (.resolve identity transcript) })
      (board.noteOwner index { board.context with lifecycle := { board.context.lifecycle with
        sequence := board.context.lifecycle.sequence + 1
        active := some ⟨identity, false⟩ } }) := by
  have hfresh : ∀ turnId, turnId ≤ board.context.lifecycle.sequence → turnId ≠ identity.turnId := by
    intro turnId hbound hsame
    rw [hsame, hidentity] at hbound
    exact not_succ_le_self _ hbound
  have hnext : ¬ board.context.lifecycle.sequence + 1 = board.context.lifecycle.sequence :=
    succ_ne_self _
  simp only [noteOwner, hnext, if_false]
  refine ⟨?_, ?_, ?_⟩
  · exact {
      bounded := forall_mem_snoc (fun owner howner => le_succ_of_le (h.bounded owner howner)) le_rfl
      unique := by
        intro first second turnId hfirst hsecond
        rcases mem_append.mp hfirst with hold | hnew
        · rcases mem_append.mp hsecond with hother | hlast
          · exact h.unique first second turnId hold hother
          · cases mem_singleton.mp hlast
            exact absurd (h.bounded _ hold) (not_succ_le_self _)
        · cases mem_singleton.mp hnew
          rcases mem_append.mp hsecond with hother | hlast
          · exact absurd (h.bounded _ hother) (not_succ_le_self _)
          · cases mem_singleton.mp hlast
            rfl
      recorded := h.recorded
      claimed := fun turnId hturn =>
        ⟨le_succ_of_le (h.claimed turnId hturn).1, (h.claimed turnId hturn).2⟩
      slot := fun active hactive => le_succ_of_le (h.slot active hactive)
      finalizing := h.finalizing
      idle := nofun
      fits := h.fits }
  · refine ⟨hquiet.staged _, htranscript, ?_⟩
    exact {
      mine := mem_append_right _ (by rw [hidentity]; exact mem_singleton_self _)
      stands := ⟨rfl, h.idle hidle⟩
      slotted := fun active hactive => hfresh _ (h.slot active hactive)
      isRecorded :=
        iff_of_false (fun hrecorded => hfresh _ (h.claimed _ (h.recorded _ hrecorded)).1 rfl)
        Bool.false_ne_true
      isClaimed := iff_of_false (fun hclaimed => hfresh _ (h.claimed _ hclaimed).1 rfl)
        Bool.false_ne_true }
  · refine .of_reserve h hidentity hidle ?_ ?_ (mem_append_left _)
    · exact rfl
    · exact rfl

/-- A section of `begin_turn`. -/
theorem beginning_actsWell {stage reached : Beginning}
    (hmove : Beginning.Move board.context stage reached context)
    (hturn : TextTurn.Warranted board index { turn with stage := .beginning stage }) :
    TextActsWell index board (.turn { turn with stage := .beginning reached })
      (board.noteOwner index context) := by
  cases hmove with
  | refused transcript error =>
    rw [noteOwner_of_sequence _ rfl]
    exact .same h (hturn.1.staged _)
  | reserved transcript identity hidentity hidle =>
    exact reserved_actsWell h (hturn.1.staged turn.stage) hturn.2 (by rw [hidentity]) hidle
  | resolved identity transcript user quality hpending huser hfree hforgets =>
    obtain ⟨hquiet, htranscript, hcustody⟩ := hturn
    rw [noteOwner_of_sequence { board.context with quality } rfl]
    have hholds := custody_holds h hcustody
      { board.context with quality } rfl hcustody.stands.1 hforgets hpending (by simp)
    exact hholds.imp fun hreached => ⟨hquiet.staged _, user, huser.trans htranscript, hreached⟩
  | unresolved identity transcript error quality hpending hforgets =>
    obtain ⟨hquiet, -, hcustody⟩ := hturn
    rw [noteOwner_of_sequence { board.context with quality } rfl]
    have hnone : quality.pendingTurn = none := hpending.trans hcustody.stands.2
    have hholds := custody_holds h hcustody
      { board.context with quality } rfl hcustody.stands.1 hforgets hnone (by simp)
    exact hholds.imp fun hreached => ⟨hquiet.staged _, hreached⟩
  | released identity error howns =>
    obtain ⟨hquiet, hcustody⟩ := hturn
    rw [noteOwner_of_sequence { board.context with
      lifecycle := board.context.lifecycle.clear } rfl]
    exact (custody_clears h hcustody).imp fun _ => hquiet.staged _
  | disowned identity error howns => exact absurd hturn.2.owns howns
  | ceased result =>
    rw [noteOwner_of_sequence _ rfl]
    exact .same h hturn

/-! ### The slot -/

/-- The custodian of a turn changes its slot, and may claim the completion. -/
theorem custody_slots (hcustody : TextCustody board index identity custody slot recorded claimed)
    (hbefore : ∀ active ∈ board.active, active.identity = identity) {active : Option ActiveTextTurn}
    {claims : List TurnId} {reached : Option Bool} {claims' : Bool}
    (hafter : ∀ held ∈ active, held.identity = identity ∧ (held.finalizing = true ↔ claims' = true))
    (hkept : ∀ {turnId}, turnId ∈ board.claimed → turnId ∈ claims)
    (hnew : ∀ turnId ∈ claims, turnId ∈ board.claimed ∨
      turnId = identity.turnId ∧ turnId ∉ board.interrupted)
    (hslotted : SlotOf { board with active, claimed := claims } identity reached)
    (hclaimed : identity.turnId ∈ claims ↔ claims' = true) :
    TextPasses index board { board with active, claimed := claims }
      (TextCustody { board with active, claimed := claims } index identity custody reached recorded
        claims') where
  consistent := { h with
    recorded := fun turnId hturn => hkept (h.recorded turnId hturn)
    claimed := by
      intro turnId hturn
      rcases hnew turnId hturn with hold | ⟨rfl, hgoing⟩
      · exact h.claimed turnId hold
      · exact ⟨h.bounded _ hcustody.mine, hgoing⟩
    slot := by
      intro held hheld
      rw [(hafter held hheld).1]
      exact h.bounded _ hcustody.mine
    finalizing := by
      intro held hheld
      rw [(hafter held hheld).1]
      exact (hafter held hheld).2.trans hclaimed.symm }
  known := { hcustody with slotted := hslotted, isClaimed := hclaimed }
  spares := by
    refine ⟨id, fun _ _ => id, ?_, fun _ _ => .rfl, ?_, id, hkept⟩
    · intro other turn slot hother howner hslot
      have hdistinct := hcustody.distinct h hother howner
      cases slot with
      | some finalizing => exact absurd (congrArg turnId (hbefore _ hslot)) hdistinct
      | none =>
        intro held hheld hturn
        exact hdistinct (hturn.symm.trans (congrArg _ (hafter held hheld).1))
    · intro other turnId hother howner
      have hdistinct := hcustody.distinct h hother howner
      exact ⟨fun hturn => (hnew turnId hturn).resolve_right fun hmine => hdistinct hmine.1, hkept⟩

/-- The slot is free and the custodian takes it. -/
theorem custody_admits (hcustody : TextCustody board index identity custody none false false)
    (hfree : board.active = none) :
    TextPasses index board { board with active := some ⟨identity, false⟩ }
      (TextCustody { board with active := some ⟨identity, false⟩ } index identity custody
        (some false)
        false false) := by
  refine custody_slots h hcustody (by simp [hfree]) ?_ id (fun _ => .inl) rfl hcustody.isClaimed
  rintro held ⟨⟩
  exact ⟨rfl, .rfl⟩

/-- The custodian gives the slot up. -/
theorem custody_release
    (hcustody : TextCustody board index identity custody (some finalizing) recorded claimed) :
    TextPasses index board (board.release identity)
      (TextCustody (board.release identity) index identity custody none recorded claimed) := by
  have hheld : board.active = some ⟨identity, finalizing⟩ := hcustody.slotted
  have hrelease : board.release identity = { board with active := none } := by
    simp [release, hheld]
  rw [hrelease]
  exact custody_slots h hcustody (by simp [hheld]) nofun id (fun _ => .inl) nofun hcustody.isClaimed

/-- The custodian claims the completion, unless the turn was interrupted. -/
theorem custody_claim
    (hcustody : TextCustody board index identity custody (some false) false false) :
    let ran := board.claimCompletion identity
    TextPasses index board ran.2 ((ran.1 = false → identity.turnId ∈ ran.2.interrupted) ∧
      TextCustody ran.2 index identity custody (some ran.1) false ran.1) := by
  have hheld : board.active = some ⟨identity, false⟩ := hcustody.slotted
  unfold claimCompletion
  by_cases hinterrupted : identity.turnId ∈ board.interrupted
  · rw [if_neg (fun hboth => hboth.2 hinterrupted)]
    exact .same h ⟨fun _ => hinterrupted, hcustody⟩
  · rw [if_pos ⟨hheld, hinterrupted⟩]
    have hmem : identity.turnId ∈ board.claimed ++ [identity.turnId] :=
      mem_append_right _ (mem_singleton_self _)
    refine (custody_slots h hcustody (by simp [hheld]) ?_ (mem_append_left _) ?_ ?_
      (iff_of_true hmem rfl)).imp fun hreached => ⟨nofun, hreached⟩
    · rintro held ⟨⟩
      exact ⟨rfl, .rfl⟩
    · exact forall_mem_snoc (fun _ => .inl) (.inr ⟨rfl, hinterrupted⟩)
    · exact rfl

end acts

end ConversationRuntime
