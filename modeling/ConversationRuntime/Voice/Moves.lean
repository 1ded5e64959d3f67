import ConversationRuntime.Voice.Loop
import ConversationRuntime.Voice.WireLaws

/-! # What the voice loop can do

Between two points where the loop waits for a signal it makes a few moves. Each
move is listed here with the condition it is made under, what it changes, and the
deeds it adds to the journal. Every invariant of the loop is an invariant of the
moves; the functions of the loop are shown to make nothing but moves once.
-/

namespace ConversationRuntime

/-- The event says nothing about playback or about the response to a segment. -/
def VoiceSessionEvent.IsPlain : VoiceSessionEvent → Prop
  | .playback _ _ _ | .responseAuthorized _ _ _ | .responseSkipped _ _ _
  | .transcriptFinal _ _ none _ _ => False
  | _ => True

/-- The deed is the publication of a plain event, or a refused authorization. -/
def Deed.IsPlain : Deed → Prop
  | .passed event _ => event.IsPlain
  | .authorized _ (.error _) => True
  | _ => False

def VoiceLoopState.identity : VoiceLoopState → Option TurnIdentity
  | .responding identity => some identity
  | _ => none

def PlaybackLifecycle.generationId : PlaybackLifecycle → GenerationId
  | .awaitingAcceptance generationId _ | .accepted generationId | .rendered generationId
  | .flushed generationId => generationId

/-- What a lifecycle becomes when a state is reported. -/
inductive PlaybackLifecycle.Reports : PlaybackLifecycle → PlaybackState → PlaybackLifecycle → Prop
  | accepted (generationId : GenerationId) (pendingRendered : Option PlaybackReceipt) :
      Reports (.awaitingAcceptance generationId pendingRendered) .accepted (.accepted generationId)
  | rendered (generationId : GenerationId) :
      Reports (.accepted generationId) .rendered (.rendered generationId)
  | flushedEarly (generationId : GenerationId) (pendingRendered : Option PlaybackReceipt) :
      Reports (.awaitingAcceptance generationId pendingRendered) .flushed (.flushed generationId)
  | flushed (generationId : GenerationId) :
      Reports (.accepted generationId) .flushed (.flushed generationId)

namespace VoiceLoop

/-- While the loop waits for signals: it reads a turn exactly while it responds,
follows the playback of that turn only, and knows the segment of what it hears. -/
structure Coupled (loop : VoiceLoop) : Prop where
  turn : loop.turnEvents = loop.state.identity
  playback : ∀ lifecycle, loop.playback = some lifecycle →
    ∃ identity, loop.state = .responding identity ∧
      lifecycle.generationId = identity.generationId
  segment : loop.finalizer.segmentId.isSome → loop.finalizer.finalized = false →
    loop.activeSegmentId.isSome
  running : loop.state ≠ .ending

/-- The turn being spoken was stopped: its playback is forgotten, its stream let
go of, and the loop listens again. -/
structure Silences (before after : VoiceLoop) (identity : TurnIdentity) : Prop where
  state : before.state = .responding identity
  change : ∃ wire, after = { before with
    playback := none, turnEvents := none, state := .listening, wire := wire }
  deeds : ∃ plain more : List Deed, (∀ deed ∈ plain ++ more, deed.IsPlain) ∧
    before.wire.Grows (.interrupted identity :: plain ++ .reaped identity :: more) after.wire

/-- The identity was not handed out before. -/
structure IsFresh (identity : TurnIdentity) (loop : VoiceLoop) : Prop where
  later : loop.sequence < identity.turnId
  generation : identity.generationId = identity.turnId

/-- The loop after it has taken over a turn it started. -/
def owning (identity : TurnIdentity) (wire : Wire) (loop : VoiceLoop) : VoiceLoop :=
  { loop with
    sequence := identity.turnId
    turnEvents := some identity
    state := .responding identity
    playback := some (.awaitingAcceptance identity.generationId none)
    wire := wire }

/-- The loop after it has asked its finalizer for a complete utterance. -/
def readied (now : Nat) (loop : VoiceLoop) : VoiceLoop :=
  { loop with
    finalizationDue := false
    finalizer := (loop.finalizer.finalizeReady now).2
    activeSegmentId := if (loop.finalizer.finalizeReady now).1.isSome then none
      else loop.activeSegmentId }

/-- What expiring a segment adds to the journal. -/
def expiryDeeds (sessionId : SessionId) (segmentId : Nat) (wasOpen : Bool) :
    Option PendingSegment → List Deed
  | some (.pending _) =>
    [.passed (.responseSkipped sessionId segmentId "pending_segment_expired") wasOpen]
  | _ => []

inductive Move (loop : VoiceLoop) : VoiceLoop → Prop
  /-- Nothing but time and plain events. -/
  | quiet {wire : Wire} {deeds : List Deed} (hplain : ∀ deed ∈ deeds, deed.IsPlain)
      (hgrows : loop.wire.Grows deeds wire) : Move loop (loop.onto wire)
  | captured (captureState : CaptureState) (captureOperation : Option CaptureOperationKind)
      (completion firstAudioReceived : Bool) :
      Move loop { loop with captureState, captureOperation, completion, firstAudioReceived }
  -- Hearing
  | spoken {finalizer : TurnFinalizer} (hresumes : loop.finalizer.Resumes finalizer) :
      Move loop { loop with finalizer, deadline := none, finalizationDue := false }
  | fellSilent {now later : Nat} {wire : Wire} (hgrows : loop.wire.Grows [] wire)
      (hlater : now ≤ later) :
      Move loop { loop with
        finalizer := { loop.finalizer with speechEndedAtMs := some now }
        deadline := some (later + loop.finalSilenceMs)
        wire }
  | discontinued :
      Move loop { loop with
        deadline := none
        finalizationDue := false
        activeSegmentId := none
        finalizer := loop.finalizer.observeDiscontinuity }
  | recovered {silent : VoiceLoop}
      (hsilent : silent = loop ∨ ∃ identity, Silences loop silent identity) :
      Move loop { silent with
        deadline := none
        finalizationDue := false
        finalizer := .new loop.finalSilenceMs
        activeSegmentId := none }
  | fallsDue {identity : TurnIdentity} {firesAt : Nat} (hdeadline : loop.deadline = some firesAt)
      (hfired : firesAt ≤ loop.wire.clockMs) (hstate : loop.state = .responding identity) :
      Move loop { loop with deadline := none, finalizationDue := true }
  | fired {firesAt : Nat} {wire : Wire} (hdeadline : loop.deadline = some firesAt)
      (hfired : firesAt ≤ loop.wire.clockMs) (hstate : loop.state = .listening)
      (hgrows : loop.wire.Grows [] wire) :
      Move loop { loop.readied wire.clockMs with deadline := none, wire }
  -- The end of a response
  | silenced {silent : VoiceLoop} {identity : TurnIdentity}
      (hmute : loop.finalizer.speechEndedAtMs = none) (hsilences : Silences loop silent identity) :
      Move loop silent
  | ended {identity : TurnIdentity} {plain : List Deed} {wire : Wire}
      (hstate : loop.state = .responding identity) (hdue : loop.finalizationDue = false)
      (hplain : ∀ deed ∈ plain, deed.IsPlain)
      (hgrows : loop.wire.Grows (.reaped identity :: plain) wire) :
      Move loop { loop with turnEvents := none, state := .listening, playback := none, wire }
  | endedDue {identity : TurnIdentity} {plain : List Deed} {wire : Wire}
      (hstate : loop.state = .responding identity)
      (hplain : ∀ deed ∈ plain, deed.IsPlain)
      (hgrows : loop.wire.Grows (.reaped identity :: plain) wire) :
      Move loop { loop.readied wire.clockMs with
        turnEvents := none, state := .listening, playback := none, wire }
  -- Segments that wait for their response
  | expired {segmentId : Nat} {rest : List Nat} {wasOpen : Bool} {wire : Wire}
      (horder : loop.pendingOrder = segmentId :: rest)
      (hgrows : loop.wire.Grows (expiryDeeds loop.sessionId segmentId wasOpen
        (loop.pendingSegments.lookup segmentId)) wire)
      (hopen : wasOpen = true → loop.wire.isClosed = false) :
      Move loop { loop with
        pendingOrder := rest
        pendingSegments := loop.pendingSegments.erase segmentId
        wire }
  | registered {segmentId : Nat} {text : String} {evidence : Option UtteranceCaptureEvidence}
      {wasOpen : Bool} {wire : Wire} (hmode : loop.responseMode = .externalGate)
      (hroom : loop.pendingOrder.length < maxPendingSegments)
      (hgrows : loop.wire.Grows [.registered segmentId,
        .passed (.transcriptFinal loop.sessionId segmentId none text evidence) wasOpen] wire) :
      Move loop { loop with
        pendingOrder := loop.pendingOrder ++ [segmentId]
        pendingSegments := loop.pendingSegments.insert segmentId (.pending text)
        wire }
  | skipped {segmentId : Nat} {text reason : String} {wasOpen : Bool} {wire : Wire}
      (hmode : loop.responseMode = .externalGate)
      (hpending : loop.pendingSegments.lookup segmentId = some (.pending text))
      (hgrows : loop.wire.Grows
        [.passed (.responseSkipped loop.sessionId segmentId reason) wasOpen] wire)
      (hopen : wasOpen = true → loop.wire.isClosed = false) :
      Move loop { loop with
        pendingSegments := loop.pendingSegments.insert segmentId .skipped
        wire }
  | responded {segmentId : Nat} {text : String} {identity : TurnIdentity} {wire : Wire}
      (hidle : loop.IsIdle) (hmode : loop.responseMode = .externalGate)
      (hpending : loop.pendingSegments.lookup segmentId = some (.pending text))
      (hfresh : IsFresh identity loop)
      (hgrows : loop.wire.Grows [.began identity, .responded segmentId identity.turnId,
        .passed (.responseAuthorized loop.sessionId segmentId identity.turnId) true] wire)
      (hopen : loop.wire.isClosed = false) :
      Move loop ({ loop with
        pendingSegments := loop.pendingSegments.insert segmentId (.authorized identity.turnId)
        }.owning identity wire)
  /-- The consumer went away before it could be told of the response. -/
  | respondedInVain {segmentId : Nat} {text : String} {identity : TurnIdentity} {wasOpen : Bool}
      {wire : Wire} (hidle : loop.IsIdle) (hmode : loop.responseMode = .externalGate)
      (hpending : loop.pendingSegments.lookup segmentId = some (.pending text))
      (hfresh : IsFresh identity loop) (hclosed : wire.isClosed = true)
      (hgrows : loop.wire.Grows [.began identity, .responded segmentId identity.turnId,
        .passed (.responseAuthorized loop.sessionId segmentId identity.turnId) wasOpen,
        .reaped identity] wire)
      (hopen : loop.wire.isClosed = false) :
      Move loop { loop with
        sequence := identity.turnId
        pendingSegments := (loop.pendingSegments.insert segmentId
          (.authorized identity.turnId)).insert segmentId (.pending text)
        wire }
  | authorized {segmentId : Nat} {turnId : TurnId} {wire : Wire}
      (hauthorized : loop.pendingSegments.lookup segmentId = some (.authorized turnId))
      (hgrows : loop.wire.Grows [.authorized segmentId (.ok turnId)] wire) :
      Move loop (loop.onto wire)
  -- Responses in automatic mode
  | passedOver {segmentId : Nat} (hlater : loop.lastFinalizedSegment < segmentId) :
      Move loop { loop with lastFinalizedSegment := segmentId }
  | admitted {segmentId : Nat} {text : String} {evidence : Option UtteranceCaptureEvidence}
      {wire : Wire} (hmode : loop.responseMode = .automatic)
      (hlater : loop.lastFinalizedSegment < segmentId)
      (hroom : loop.automaticResponses.length < maxPendingSegments)
      (hgrows : loop.wire.Grows
        [.passed (.transcriptFinal loop.sessionId segmentId none text evidence) true] wire) :
      Move loop { loop with
        lastFinalizedSegment := segmentId
        automaticResponses := loop.automaticResponses ++ [(segmentId, text)]
        wire }
  | admittedInVain {segmentId : Nat} {text : String} {evidence : Option UtteranceCaptureEvidence}
      {wasOpen : Bool} {wire : Wire} (hmode : loop.responseMode = .automatic)
      (hlater : loop.lastFinalizedSegment < segmentId) (hclosed : wire.isClosed = true)
      (hgrows : loop.wire.Grows
        [.passed (.transcriptFinal loop.sessionId segmentId none text evidence) wasOpen] wire) :
      Move loop { loop with lastFinalizedSegment := segmentId, wire }
  | answered {segmentId : Nat} {text : String} {rest : List (Nat × String)}
      {identity : TurnIdentity} {wire : Wire} (hidle : loop.IsIdle)
      (hqueue : loop.automaticResponses = (segmentId, text) :: rest)
      (hfresh : IsFresh identity loop)
      (hgrows : loop.wire.Grows [.began identity,
        .passed (.responseAuthorized loop.sessionId segmentId identity.turnId) true] wire) :
      Move loop ({ loop with automaticResponses := rest }.owning identity wire)
  | spokeUp {segmentId : Nat} {text : String} {identity : TurnIdentity} {wire : Wire}
      (hidle : loop.IsIdle) (hfresh : IsFresh identity loop)
      (hgrows : loop.wire.Grows [.began identity, .passed
        (.transcriptFinal loop.sessionId segmentId (some identity.turnId) text none) true] wire) :
      Move loop (loop.owning identity wire)
  | spokeInVain {segmentId : Nat} {text : String} {identity : TurnIdentity} {wasOpen : Bool}
      {wire : Wire} (hidle : loop.IsIdle) (hfresh : IsFresh identity loop)
      (hclosed : wire.isClosed = true)
      (hgrows : loop.wire.Grows [.began identity, .passed
        (.transcriptFinal loop.sessionId segmentId (some identity.turnId) text none) wasOpen,
        .reaped identity] wire) :
      Move loop { loop with sequence := identity.turnId, wire }
  -- Playback
  | parked {generationId : GenerationId} {before after : Option PlaybackReceipt}
      (hplayback : loop.playback = some (.awaitingAcceptance generationId before)) :
      Move loop { loop with playback := some (.awaitingAcceptance generationId after) }
  | reported {before after : PlaybackLifecycle} {state : PlaybackState} {wire : Wire}
      (hplayback : loop.playback = some before) (hreports : before.Reports state after)
      (hopen : loop.wire.isClosed = false)
      (hgrows : loop.wire.Grows
        [.passed (.playback loop.sessionId before.generationId state) true] wire) :
      Move loop { loop with playback := some after, wire }
  | reportedInVain {before after : PlaybackLifecycle} {state : PlaybackState} {wasOpen : Bool}
      {wire : Wire} (hplayback : loop.playback = some before)
      (hreports : before.Reports state after) (hclosed : wire.isClosed = true)
      (hopen : wasOpen = true → loop.wire.isClosed = false)
      (hgrows : loop.wire.Grows
        [.passed (.playback loop.sessionId before.generationId state) wasOpen] wire) :
      Move loop (loop.onto wire)

abbrev Reach : VoiceLoop → VoiceLoop → Prop := Relation.ReflTransGen Move

variable {before after loop : VoiceLoop} {identity : TurnIdentity}

theorem Coupled.of_silences (h : before.Coupled) (hsilences : Silences before after identity) :
    after.Coupled := by
  obtain ⟨wire, rfl⟩ := hsilences.change
  exact ⟨rfl, nofun, h.segment, nofun⟩

theorem Coupled.of_owning (identity : TurnIdentity) (wire : Wire) (h : loop.Coupled) :
    (loop.owning identity wire).Coupled := by
  refine ⟨rfl, ?_, h.segment, nofun⟩
  intro lifecycle hlifecycle
  cases hlifecycle
  exact ⟨identity, rfl, rfl⟩

/-- Once the utterance is released, no segment has to be known. -/
theorem segment_of_readied (now : Nat) (h : loop.Coupled) :
    (loop.readied now).finalizer.segmentId.isSome → (loop.readied now).finalizer.finalized = false →
      (loop.readied now).activeSegmentId.isSome := by
  have hsegment := h.segment
  unfold readied TurnFinalizer.finalizeReady
  split
  · split
    · simpa using hsegment
    · simp
  · simpa using hsegment

theorem Coupled.move (h : before.Coupled) (hmove : Move before after) : after.Coupled := by
  cases hmove with
  | quiet | captured | fellSilent | fallsDue | expired | registered | skipped | respondedInVain
  | authorized | passedOver | admitted | admittedInVain | spokeInVain | reportedInVain =>
    exact { h with }
  | spoken hresumes =>
    refine { h with segment := ?_ }
    intro hsome hunfinalized
    obtain ⟨hbefore, hwaiting⟩ := hresumes.segment hsome hunfinalized
    exact h.segment hbefore hwaiting
  | discontinued => exact { h with segment := nofun }
  | recovered hsilent =>
    rcases hsilent with rfl | ⟨identity, hsilences⟩
    · exact { h with segment := nofun }
    · have hafter := h.of_silences hsilences
      exact { hafter with segment := nofun }
  | fired => exact { h with segment := segment_of_readied _ h }
  | silenced _ hsilences => exact h.of_silences hsilences
  | ended => exact ⟨rfl, nofun, h.segment, nofun⟩
  | endedDue => exact ⟨rfl, nofun, segment_of_readied _ h, nofun⟩
  | responded | answered => exact .of_owning _ _ { h with }
  | spokeUp => exact h.of_owning _ _
  | parked hplayback =>
    refine { h with playback := ?_ }
    intro lifecycle hlifecycle
    cases hlifecycle
    obtain ⟨identity, hstate, hgeneration⟩ := h.playback _ hplayback
    exact ⟨identity, hstate, hgeneration⟩
  | reported hplayback hreports =>
    refine { h with playback := ?_ }
    intro lifecycle hlifecycle
    cases hlifecycle
    obtain ⟨identity, hstate, hgeneration⟩ := h.playback _ hplayback
    refine ⟨identity, hstate, ?_⟩
    cases hreports <;> exact hgeneration

theorem Coupled.reach (h : before.Coupled) (hreach : Reach before after) : after.Coupled := by
  induction hreach with
  | refl => exact h
  | tail _ hmove ih => exact ih.move hmove

/-- Whatever a loop that is coupled and listens was asked, no turn is running. -/
theorem Coupled.idle (h : loop.Coupled) (hstate : loop.state = .listening) : loop.IsIdle := by
  refine ⟨hstate, ?_⟩
  rw [h.turn, hstate]
  rfl

/-- A loop that reads a turn is speaking it. -/
theorem Coupled.responding (h : loop.Coupled) (hturn : loop.turnEvents = some identity) :
    loop.state = .responding identity := by
  rw [h.turn] at hturn
  cases hstate : loop.state with
  | listening | ending => simp [hstate, VoiceLoopState.identity] at hturn
  | responding spoken =>
    rw [hstate] at hturn
    cases hturn
    rfl

/-- What the loop does besides its moves: it takes in a hypothesis, and it obeys a
command to stop speaking. Neither looks after an utterance that waits. -/
inductive Turn (loop : VoiceLoop) : LoopSignal → VoiceLoop → Prop
  | heard {hypothesis : RecognitionHypothesis} {deadline : Option Nat} {wire : Wire}
      (haccepted : (loop.finalizer.observeHypothesis hypothesis).1 = true)
      (hkept : deadline = loop.deadline ∨ ∃ firesAt, deadline = some firesAt ∧
        ∀ endedAtMs, loop.finalizer.speechEndedAtMs = some endedAtMs →
          loop.finalizer.readyAtMs endedAtMs ≤ firesAt)
      (harmed : hypothesis.engineFinal = true → loop.state = .listening →
        loop.finalizer.speechEndedAtMs.isSome → deadline.isSome)
      (hgrows : loop.wire.Grows [] wire) :
      Turn loop (.input (some (.ok (.recognition (.hypothesis hypothesis))))) { loop with
        finalizer := (loop.finalizer.observeHypothesis hypothesis).2
        activeSegmentId := some hypothesis.segmentId
        deadline
        wire }
  | silenced {silent : VoiceLoop} {identity : TurnIdentity}
      (hsilences : Silences loop silent identity) :
      Turn loop (.command (some (.bargeIn identity))) silent

theorem Coupled.turn_kept {signal : LoopSignal} (h : before.Coupled)
    (hturn : Turn before signal after) : after.Coupled := by
  cases hturn with
  | heard => exact { h with segment := fun _ _ => rfl }
  | silenced hsilences => exact h.of_silences hsilences

/-- A move of either kind. -/
def Act (before after : VoiceLoop) : Prop := Move before after ∨ ∃ signal, Turn before signal after

abbrev Acts : VoiceLoop → VoiceLoop → Prop := Relation.ReflTransGen Act

theorem Reach.acts (h : Reach before after) : Acts before after :=
  h.lift id fun _ _ hmove => .inl hmove

theorem Coupled.acts (h : before.Coupled) (hacts : Acts before after) : after.Coupled := by
  induction hacts with
  | refl => exact h
  | tail _ hact ih =>
    rcases hact with hmove | ⟨signal, hturn⟩
    · exact ih.move hmove
    · exact ih.turn_kept hturn

/-- What the loop does only when it is about to leave. -/
inductive Last (loop : VoiceLoop) : VoiceLoop → Prop
  | heard (finalizer : TurnFinalizer) : Last loop { loop with finalizer }
  | streamEnded {identity : TurnIdentity} {wire : Wire} (hturn : loop.turnEvents = some identity)
      (hgrows : loop.wire.Grows [.reaped identity] wire) :
      Last loop { loop with turnEvents := none, wire }
  | cutShort {identity : TurnIdentity} {plain : List Deed} {wire : Wire}
      (hturn : loop.turnEvents = some identity) (hplain : ∀ deed ∈ plain, deed.IsPlain)
      (hgrows : loop.wire.Grows (.reaped identity :: plain) wire) :
      Last loop { loop with turnEvents := none, state := .listening, playback := none, wire }
  | overflowed {segmentId : Nat} {text reason : String}
      {evidence : Option UtteranceCaptureEvidence} {wasOpen : Bool} {wire : Wire}
      (hmode : loop.responseMode = .automatic) (hlater : loop.lastFinalizedSegment < segmentId)
      (hgrows : loop.wire.Grows
        [.passed (.transcriptFinal loop.sessionId segmentId none text evidence) true,
          .passed (.responseSkipped loop.sessionId segmentId reason) wasOpen] wire) :
      Last loop { loop with lastFinalizedSegment := segmentId, wire }
  | unanswered {segmentId : Nat} {text reason : String} {rest : List (Nat × String)}
      {wasOpen : Bool} {wire : Wire}
      (hqueue : loop.automaticResponses = (segmentId, text) :: rest)
      (hgrows : loop.wire.Grows
        [.passed (.responseSkipped loop.sessionId segmentId reason) wasOpen] wire) :
      Last loop { loop with automaticResponses := rest, wire }
  | answeredInVain {segmentId : Nat} {text reason : String} {rest : List (Nat × String)}
      {identity : TurnIdentity} {wasOpen : Bool} {wire : Wire} {after : VoiceLoop}
      (hidle : loop.IsIdle) (hqueue : loop.automaticResponses = (segmentId, text) :: rest)
      (hfresh : IsFresh identity loop) (hclosed : wire.isClosed = true)
      (hgrows : loop.wire.Grows [.began identity,
        .passed (.responseAuthorized loop.sessionId segmentId identity.turnId) wasOpen,
        .passed (.responseSkipped loop.sessionId segmentId reason) false] wire)
      (hafter : after = { loop with automaticResponses := rest }.owning identity wire) :
      Last loop after
  | abandoned {segmentId : Nat} {text reason : String} {rest : List (Nat × String)}
      {identity : TurnIdentity} {wasOpen : Bool} {wire : Wire}
      (hidle : loop.IsIdle) (hqueue : loop.automaticResponses = (segmentId, text) :: rest)
      (hfresh : IsFresh identity loop) (hclosed : wire.isClosed = true)
      (hgrows : loop.wire.Grows [.began identity,
        .passed (.responseAuthorized loop.sessionId segmentId identity.turnId) wasOpen,
        .reaped identity,
        .passed (.responseSkipped loop.sessionId segmentId reason) false] wire) :
      Last loop { loop with automaticResponses := rest, sequence := identity.turnId, wire }

/-- Where the loop can be when it does not return to wait for a signal. -/
def Exits (before after : VoiceLoop) : Prop :=
  ∃ middle, Acts before middle ∧ (after = middle ∨ Last middle after)

/-- A function that stops is not dropped; it asks for a shutdown between two moves,
and it reports that the consumer is gone only when the channel is closed. -/
def Leaves (before : VoiceLoop) : Stop → VoiceLoop → Prop
  | .dropped, _ => False
  | .exit .shutdown, after => Acts before after
  | .exit .consumerDropped, after => after.wire.isClosed = true ∧ Exits before after
  | .exit (.fatal _), after | .failed _, after => Exits before after

theorem Exits.of_acts {middle : VoiceLoop} (hacts : Acts before middle) (h : Exits middle after) :
    Exits before after := by
  obtain ⟨last, hlast, hafter⟩ := h
  exact ⟨last, hacts.trans hlast, hafter⟩

theorem Acts.exits (h : Acts before after) : Exits before after := ⟨after, h, .inl rfl⟩

theorem Last.exits (h : Last before after) : Exits before after := ⟨before, .refl, .inr h⟩

theorem Leaves.of_acts {middle : VoiceLoop} {stop : Stop} (hacts : Acts before middle)
    (h : Leaves middle stop after) : Leaves before stop after := by
  cases stop with
  | dropped => exact h
  | failed => exact Exits.of_acts hacts h
  | exit exit =>
    cases exit with
    | shutdown => exact hacts.trans h
    | consumerDropped => exact ⟨h.1, Exits.of_acts hacts h.2⟩
    | fatal => exact Exits.of_acts hacts h

end VoiceLoop

end ConversationRuntime
