import ConversationRuntime.Media.Fencing

/-! # Steps of a connection

What a connection still has to do decides what its next step can do. While it
serves it only runs sections that keep the lease; the release comes last, after the
loss was reported. And what it sends goes to the sinks it chose, which are those of
its own reservation unless it met another one.
-/

namespace ConversationRuntime

open MediaServer MediaSession Section List

namespace Section

/-- Whether some section of these gives up the lease. -/
def anyRelease (sections : List Section) : Bool := sections.any isRelease

theorem anyRelease_cons (step : Section) (sections : List Section) :
    anyRelease (step :: sections) = (step.isRelease || anyRelease sections) := rfl

variable {sections : List Section}

theorem anyRelease_of_plain (h : sections.all isPlain = true) : anyRelease sections = false := by
  rw [anyRelease, any_eq_false]
  intro step hstep
  rw [isRelease_of_plain (all_eq_true.mp h step hstep)]
  exact Bool.false_ne_true

theorem anyRelease_of_isNext {bridge : Bridge} {server : MediaServer} {step : Section}
    {more : List Section} (h : ∀ other ∈ more, IsNext bridge server step other) :
    anyRelease (more ++ sections) = anyRelease sections := by
  simp only [anyRelease, any_append]
  rw [Bool.or_eq_right_iff_imp, any_eq_true]
  rintro ⟨other, hother, hrelease⟩
  rw [(h other hother).1] at hrelease
  cases hrelease

theorem SendsWithin.steps {own epoch : Nat} {before after : MediaServer} {step : Section}
    (h : step.SendsWithin own before) (hsteps : StepsWithin epoch before after) :
    step.SendsWithin own after :=
  h.mono (fun _ _ howner => by rw [hsteps.voiceOwners, howner])
    fun _ _ howner => by rw [hsteps.laneOwners, howner]

end Section

namespace Bridge

variable {bridge : Bridge}
  {server : MediaServer} {input : BridgeMove} {block : Block} {rest : List Block}

/-! ## What is still to do -/

/-- Everything a connection is still about to send goes to its own reservation. -/
structure Confined (server : MediaServer) (bridge : Bridge) : Prop where
  program : ∀ block ∈ bridge.program, ∀ step ∈ block.sections, step.SendsWithin bridge.own server
  finish : bridge.FinishWithin server

/-- The section a connection runs next. -/
def next (bridge : Bridge) : BridgeMove → Option Section
  | .advance _ => bridge.program.head?.bind fun block => block.sections.head?
  | .settle _ => bridge.finish.bind fun pending => pending.sections.head?
  | _ => none

/-- Whether some block of a program gives up the lease. -/
def pendingRelease (program : List Block) : Bool :=
  program.any fun block => Section.anyRelease block.sections

/-- The last block of a closing connection. -/
abbrev releaseBlock (reconnectDeadline : Instant) : Block :=
  ⟨[.releaseConnection reconnectDeadline], true⟩

/-- The program of a connection that reports its loss: the release comes last. -/
inductive Closing : List Block → Prop
  | done : Closing []
  | release (reconnectDeadline : Instant) : Closing [releaseBlock reconnectDeadline]
  | report {block : Block} {rest : List Block} (htolerant : block.tolerant = true)
      (hkeep : Section.anyRelease block.sections = false) (hrest : Closing rest) :
      Closing (block :: rest)

/-- What a connection's stage says about its program. -/
structure Shaped (bridge : Bridge) : Prop where
  serving : bridge.stage = .serving → pendingRelease bridge.program = false ∧
    ∀ pending, bridge.finish = some pending → Section.anyRelease pending.sections = false
  closing : bridge.stage = .closing → Closing bridge.program
  completing : bridge.stage = .completing → bridge.planned = true
  planned : bridge.planned = true → bridge.stage = .completing ∨ bridge.stage = .ended

/-- Whether the connection still holds its lease. -/
def isHolding (bridge : Bridge) : Bool :=
  match bridge.stage with
  | .serving | .losing | .completing => true
  | .closing => pendingRelease bridge.program
  | .ended => false

end Bridge

/-- What a connection makes of its lease when it gives it up: a lease that somebody
else holds stays as it is. -/
structure MediaSession.GivenUp (connection : MediaConnection) (planned : Bool)
    (lease after : MediaSession) : Prop where
  other : lease.isHeldBy connection = false → after = lease
  held : lease.isHeldBy connection = true → after.reservationEpoch = lease.reservationEpoch ∧
    after.nextConnectionId = lease.nextConnectionId ∧ after.activeConnectionId = none ∧
    (lease.released = true → after.released = true) ∧ (planned = false → after.released = true)

namespace Bridge

variable {config : MediaServerConfig} {conditions : SendConditions} {bridge : Bridge}
  {server : MediaServer} {input : BridgeMove} {block : Block} {rest : List Block}

/-- What a step does to the lease of the connection. -/
inductive LeaseStep (bridge : Bridge) (before : MediaServer) : Bridge × MediaServer → Prop
  | kept {reached : Bridge} {after : MediaServer} (hands : before.KeepsHands after)
      (hholding : reached.isHolding = bridge.isHolding)
      (hplanned : bridge.isHolding = false → reached.planned = bridge.planned) :
      LeaseStep bridge before (reached, after)
  | gaveUp {reached : Bridge} {after : MediaServer} (release : MediaSession → MediaSession)
      (hheld : bridge.isHolding = true) (hholding : reached.isHolding = false)
      (hafter : after = (before.onLease bridge.sessionId fun lease => .ok (release lease)).getD
        before)
      (hrelease : ∀ lease, before.sessions bridge.sessionId = some lease →
        lease.GivenUp bridge.connection reached.planned (release lease)) :
      LeaseStep bridge before (reached, after)

/-- What a step may rely on that has to stay within the connection's reservation. -/
structure Permits (bridge : Bridge) (server : MediaServer) (input : BridgeMove) : Prop where
  owned : server.SinksOwned
  confined : bridge.Confined server
  within : ∀ step, bridge.next input = some step → step.isUnfenced = true →
    server.Within bridge.own bridge.sessionId

/-- A step within the reservation of the connection. -/
structure MovesWithin (bridge : Bridge) (before : MediaServer) (reached : Bridge × MediaServer) :
    Prop where
  steps : MediaServer.StepsWithin bridge.own before reached.2
  confined : reached.1.Confined reached.2

/-- A step with what it does to the lease, and the shape it leaves behind. -/
structure LeaseMove (bridge : Bridge) (before : MediaServer) (reached : Bridge × MediaServer) :
    Prop where
  step : LeaseStep bridge before reached
  shaped : reached.1.Shaped

/-- What a step of a connection does. -/
structure Moved (bridge : Bridge) (before : MediaServer) (input : BridgeMove)
    (reached : Bridge × MediaServer) : Prop where
  continues : bridge.Continues reached.1
  lease : bridge.Shaped → LeaseMove bridge before reached
  within : bridge.Permits before input → MovesWithin bridge before reached

theorem pendingRelease_cons (block : Block) (rest : List Block) : pendingRelease (block :: rest) =
      (anyRelease block.sections || pendingRelease rest) := rfl

theorem confined_lose : bridge.lose.Confined server := ⟨nofun, nofun⟩

variable {after : MediaServer} {pending : PendingFinish}

theorem Confined.mono {before : MediaServer} (h : bridge.Confined before)
    (hvoices : ∀ (index owner : Nat), before.voiceOwners[index]? = some owner →
      after.voiceOwners[index]? = some owner)
    (hlanes : ∀ (index owner : Nat), before.laneOwners[index]? = some owner →
      after.laneOwners[index]? = some owner) : bridge.Confined after :=
  ⟨fun block hblock step hstep => (h.program block hblock step hstep).mono hvoices hlanes,
    fun pending hpending step hstep => (h.finish pending hpending step hstep).mono hvoices hlanes⟩

theorem Shaped.planned_eq_false (h : bridge.Shaped)
    (hstage : ¬ (bridge.stage = .completing ∨ bridge.stage = .ended)) : bridge.planned = false := by
  rw [Bool.eq_false_iff]
  exact fun hplanned => hstage (h.planned hplanned)

theorem shaped_serving (hstage : bridge.stage = .serving) (hplanned : bridge.planned = false)
    (hprogram : pendingRelease bridge.program = false)
    (hfinish : ∀ pending, bridge.finish = some pending →
      anyRelease pending.sections = false) : bridge.Shaped :=
  ⟨fun _ => ⟨hprogram, hfinish⟩, by simp [hstage], by simp [hstage], by simp [hplanned]⟩

theorem shaped_closing (hstage : bridge.stage = .closing) (hplanned : bridge.planned = false)
    (hprogram : Closing bridge.program) : bridge.Shaped :=
  ⟨by simp [hstage], fun _ => hprogram, by simp [hstage], by simp [hplanned]⟩

theorem shaped_ended (hstage : bridge.stage = .ended) : bridge.Shaped :=
  ⟨by simp [hstage], by simp [hstage], by simp [hstage], fun _ => .inr hstage⟩

theorem leaseStep_of_holding {reached : Bridge} (hands : server.KeepsHands after)
    (hholding : bridge.isHolding = true) (hreached : reached.isHolding = true) :
    LeaseStep bridge server (reached, after) :=
  .kept hands (hreached.trans hholding.symm) (by simp [hholding])

/-! ## Steps that change the connection only -/

theorem moved_stay : Moved bridge server input (bridge, server) where
  continues := ⟨rfl, rfl⟩
  lease hshaped := ⟨.kept .rfl rfl fun _ => rfl, hshaped⟩
  within h := ⟨.rfl, h.confined⟩

section

variable (hstage : bridge.stage = .serving)
include hstage

/-- A serving connection that has failed. -/
theorem leaseMove_lose (hshaped : bridge.Shaped) (hands : server.KeepsHands after) :
    LeaseMove bridge server (bridge.lose, after) := by
  refine ⟨leaseStep_of_holding hands (by simp [isHolding, hstage]) rfl, ?_⟩
  have hplanned := hshaped.planned_eq_false (by simp [hstage])
  exact ⟨nofun, nofun, nofun, by simp [lose, hplanned]⟩

theorem moved_lose : Moved bridge server input (bridge.lose, server) where
  continues := ⟨rfl, rfl⟩
  lease hshaped := leaseMove_lose hstage hshaped .rfl
  within _ := ⟨.rfl, confined_lose⟩

/-- A connection that goes on serving with a program of plain sections. -/
theorem moved_program {blocks : List Block}
    (hplain : ∀ block ∈ blocks, block.sections.all isPlain = true) :
    Moved bridge server input ({ bridge with program := blocks }, server) where
  continues := ⟨rfl, rfl⟩
  lease hshaped := by
    refine ⟨.kept .rfl (by simp [isHolding, hstage]) fun _ => rfl, ?_⟩
    refine shaped_serving hstage (hshaped.planned_eq_false (by simp [hstage])) ?_
      (hshaped.serving hstage).2
    rw [pendingRelease, any_eq_false]
    intro block hblock
    rw [anyRelease_of_plain (hplain block hblock)]
    exact Bool.false_ne_true
  within h := by
    refine ⟨.rfl, ⟨?_, h.confined.finish⟩⟩
    intro block hblock step hstep
    exact .of_plain (all_eq_true.mp (hplain block hblock) step hstep)

end

/-- The sections a message starts send nothing before they have chosen their sinks. -/
theorem plain_respond {message : MediaMessage} {blocks : List Block}
    (h : bridge.respond message = some blocks) :
    ∀ block ∈ blocks, block.sections.all isPlain = true := by
  rw [← all_eq_true]
  cases message with
  | timed sessionId record =>
    simp only [respond] at h
    split at h
    · cases h
    · cases h
      cases record with
      | finish | frame => rfl
      | metadata metadata =>
        cases metadata with
        | epoch | clockPair => rfl
        | discontinuity captureEpoch reason => cases reason <;> rfl
  | frame isCapture sessionId sequence capturedAtMs format payload =>
    simp only [respond] at h
    split at h <;> cases h
    rfl
  | playbackAck sessionId sequence acknowledgement | flushAck sessionId generationId =>
    simp only [respond] at h
    split at h <;> cases h <;> rfl

/-! ## Steps that run a section -/

/-- What a pending finish still sends stays within the reservation. -/
theorem finishWithin_of_leads {reached : Bridge} (hleads : Leads bridge reached)
    (hfinish : bridge.FinishWithin server)
    (hsteps : StepsWithin bridge.own server after) : reached.FinishWithin after := by
  intro pending hpending step hstep
  rcases hleads.finish pending hpending with hsame | hplain
  · obtain ⟨_, _, _, _, rfl⟩ := hleads.progresses
    exact (hfinish pending hsame step hstep).steps hsteps
  · exact .of_plain (all_eq_true.mp hplain step hstep)

variable {motive : Bridge × MediaServer → Prop}

/-- A block is done, or its first section runs and the connection makes of the answer
what it can. -/
theorem runBlock_cases
    (hnil : block.sections = [] → motive ({ bridge with program := rest }, server))
    (hfailed : ∀ step sections changed, block.sections = step :: sections →
      Effect bridge server step (none, changed) →
      motive (if block.tolerant then { bridge with program := rest } else bridge.lose, changed))
    (hresumed : ∀ step sections reached more changed, block.sections = step :: sections →
      Effect bridge server step (some (reached, more), changed) →
      motive ({ reached with program := ⟨more ++ sections, block.tolerant⟩ :: rest }, changed)) :
    motive (bridge.runBlock config conditions block rest server) := by
  unfold runBlock
  split
  next hsections => exact hnil hsections
  next step sections hsections =>
    have heffect := perform_effect config conditions bridge server step
    split
    next reached more changed hanswer =>
      exact hresumed step sections reached more changed hsections (hanswer ▸ heffect)
    next changed hanswer => exact hfailed step sections changed hsections (hanswer ▸ heffect)

theorem runFinish_cases (hnil : motive (bridge, server))
    (hfailed : ∀ step sections changed, pending.sections = step :: sections →
      Effect (bridge.popFinish pending sections) server step (none, changed) →
      motive (bridge.lose, changed))
    (hresumed : ∀ step sections reached more changed, pending.sections = step :: sections →
      Effect (bridge.popFinish pending sections) server step (some (reached, more), changed) →
      motive ({ reached with
        finish := reached.finish.map fun left => { left with sections := more ++ left.sections } },
        changed)) :
    motive (bridge.runFinish config conditions pending server) := by
  unfold runFinish
  split
  next => exact hnil
  next step sections hsections =>
    have heffect :=
      perform_effect config conditions (bridge.popFinish pending sections) server step
    split
    next reached more changed hanswer =>
      exact hresumed step sections reached more changed hsections (hanswer ▸ heffect)
    next changed hanswer => exact hfailed step sections changed hsections (hanswer ▸ heffect)

theorem runBlock_within (hprogram : bridge.program = block :: rest)
    (h : bridge.Permits server (.advance conditions)) :
    MovesWithin bridge server (bridge.runBlock config conditions block rest server) := by
  have hblock := h.confined.program block (by rw [hprogram]; exact mem_cons_self)
  have htail : ∀ later ∈ rest, ∀ other ∈ later.sections, other.SendsWithin bridge.own server :=
    fun later hlater => h.confined.program later (by rw [hprogram]; exact mem_cons_of_mem _ hlater)
  have hpermitted : ∀ {step sections}, block.sections = step :: sections →
      step.Permitted bridge server := by
    intro step sections hsections
    refine ⟨h.owned, hblock step (by rw [hsections]; exact mem_cons_self), h.within step ?_⟩
    simp [next, hprogram, hsections]
  apply runBlock_cases
  · exact fun _ => ⟨.rfl, ⟨htail, h.confined.finish⟩⟩
  · intro step sections changed hsections heffect
    have hsteps := heffect.steps (hpermitted hsections)
    split
    · exact ⟨hsteps, ⟨fun later hlater other hother =>
        (htail later hlater other hother).steps hsteps,
        finishWithin_of_leads .rfl h.confined.finish hsteps⟩⟩
    · exact ⟨hsteps, confined_lose⟩
  · intro step sections reached more changed hsections heffect
    have hsteps := heffect.steps (hpermitted hsections)
    obtain ⟨hleads, hmore⟩ := heffect.resumes reached more rfl
    have hfinish := finishWithin_of_leads hleads h.confined.finish hsteps
    obtain ⟨_, _, _, _, rfl⟩ := hleads.progresses
    refine ⟨hsteps, ⟨?_, hfinish⟩⟩
    intro later hlater other hother
    rcases mem_cons.mp hlater with rfl | hlater
    · rcases mem_append.mp hother with hnew | hold
      · exact ((hmore other hnew).2 (hpermitted hsections)).steps hsteps
      · exact (hblock other (by rw [hsections]; exact mem_cons_of_mem _ hold)).steps hsteps
    · exact (htail later hlater other hother).steps hsteps

/-- While it serves, a connection only runs sections that keep the lease. -/
theorem runBlock_serving (hstage : bridge.stage = .serving)
    (hprogram : bridge.program = block :: rest) (hshaped : bridge.Shaped) :
    LeaseMove bridge server (bridge.runBlock config conditions block rest server) := by
  obtain ⟨hkeep, hfinish⟩ := hshaped.serving hstage
  have hplanned := hshaped.planned_eq_false (by simp [hstage])
  rw [hprogram, pendingRelease_cons, Bool.or_eq_false_iff] at hkeep
  obtain ⟨hblock, hrest⟩ := hkeep
  -- The connection goes on serving, whatever else a section changes of it.
  have hserves : ∀ {reached : Bridge} {after : MediaServer}, server.KeepsHands after →
      reached.stage = .serving → reached.Shaped → LeaseMove bridge server (reached, after) :=
    fun hands hreached hshaped =>
      ⟨leaseStep_of_holding hands (by simp [isHolding, hstage]) (by simp [isHolding, hreached]),
        hshaped⟩
  have hskipped : ({ bridge with program := rest } : Bridge).Shaped :=
    shaped_serving hstage hplanned hrest hfinish
  apply runBlock_cases
  · exact fun _ => hserves .rfl hstage hskipped
  · intro step sections changed hsections heffect
    rw [hsections, anyRelease_cons, Bool.or_eq_false_iff] at hblock
    split
    · exact hserves (heffect.hands hblock.1) hstage hskipped
    · exact leaseMove_lose hstage hshaped (heffect.hands hblock.1)
  · intro step sections reached more changed hsections heffect
    rw [hsections, anyRelease_cons, Bool.or_eq_false_iff] at hblock
    obtain ⟨hleads, hmore⟩ := heffect.resumes reached more rfl
    have hpending := hleads.finish
    obtain ⟨_, _, _, _, rfl⟩ := hleads.progresses
    refine hserves (heffect.hands hblock.1) hstage (shaped_serving hstage hplanned ?_ ?_)
    · rw [pendingRelease_cons, anyRelease_of_isNext hmore, hrest, hblock.2]
      rfl
    · intro pending hfound
      rcases hpending pending hfound with hsame | hplain
      · exact hfinish pending hsame
      · exact anyRelease_of_plain hplain

/-- A closing connection reports the loss and gives up the lease last. -/
theorem runBlock_closing (hstage : bridge.stage = .closing)
    (hprogram : bridge.program = block :: rest) (hshaped : bridge.Shaped) :
    LeaseMove bridge server (bridge.runBlock config conditions block rest server) := by
  have hplanned := hshaped.planned_eq_false (by simp [hstage])
  have hclosing := hshaped.closing hstage
  rw [hprogram] at hclosing
  cases hclosing with
  | release reconnectDeadline =>
    -- Only the release is left, and it is tried once.
    have hgives : ∀ {program : List Block} {after : MediaServer}, Closing program →
        pendingRelease program = false → after = (server.onLease bridge.sessionId fun lease =>
          .ok (lease.releaseConnection bridge.connection reconnectDeadline)).getD server →
        LeaseMove bridge server ({ bridge with program := program }, after) := by
      intro program after hclosing hnone hafter
      refine ⟨.gaveUp _ ?_ (by simp [isHolding, hstage, hnone]) hafter ?_,
        shaped_closing hstage hplanned hclosing⟩
      · simp [isHolding, hstage, hprogram, pendingRelease, anyRelease, isRelease]
      · intro lease _
        exact ⟨fun hother => by simp [MediaSession.releaseConnection, hother],
          fun hheld => by simp [MediaSession.releaseConnection, hheld]⟩
    simp only [runBlock, perform, admitting]
    cases hlease : server.onLease bridge.sessionId fun lease =>
        .ok (lease.releaseConnection bridge.connection reconnectDeadline) with
    | none => exact hgives .done rfl (by rw [hlease]; rfl)
    | some released => exact hgives (.report rfl rfl .done) rfl (by rw [hlease]; rfl)
  | report htolerant hkeep hrest =>
    have hgoes : ∀ {reached : Bridge} {program : List Block} {after : MediaServer},
        Progresses bridge reached → server.KeepsHands after → Closing program →
        pendingRelease program = pendingRelease rest →
        LeaseMove bridge server ({ reached with program := program }, after) := by
      intro reached program after hprogress hands hclosing hsame
      obtain ⟨_, _, _, _, rfl⟩ := hprogress
      refine ⟨.kept hands ?_ fun _ => rfl, shaped_closing hstage hplanned hclosing⟩
      simp [isHolding, hstage, hprogram, pendingRelease_cons, hkeep, hsame]
    apply runBlock_cases
    · exact fun _ => hgoes .rfl .rfl hrest rfl
    · intro step sections changed hsections heffect
      rw [hsections, anyRelease_cons, Bool.or_eq_false_iff] at hkeep
      rw [htolerant]
      exact hgoes .rfl (heffect.hands hkeep.1) hrest rfl
    · intro step sections reached more changed hsections heffect
      obtain ⟨hleads, hmore⟩ := heffect.resumes reached more rfl
      have hsteps := hkeep
      rw [hsections, anyRelease_cons, Bool.or_eq_false_iff] at hsteps
      have hleft : anyRelease (more ++ sections) = false := by
        rw [anyRelease_of_isNext hmore, hsteps.2]
      refine hgoes hleads.progresses (heffect.hands hsteps.1) (.report htolerant hleft hrest) ?_
      rw [pendingRelease_cons, hleft, Bool.false_or]

theorem runFinish_moved (hstage : bridge.stage = .serving) (hprogram : bridge.program = [])
    (hpending : bridge.finish = some pending) :
    Moved bridge server (.settle conditions)
      (bridge.runFinish config conditions pending server) := by
  have hkeep : ∀ {step sections}, pending.sections = step :: sections → bridge.Shaped →
      step.isRelease = false ∧ anyRelease sections = false := by
    intro step sections hsections hshaped
    have hkeep := (hshaped.serving hstage).2 pending hpending
    rwa [hsections, anyRelease_cons, Bool.or_eq_false_iff] at hkeep
  have hpermitted : ∀ {step sections}, pending.sections = step :: sections →
      bridge.Permits server (.settle conditions) →
      step.Permitted (bridge.popFinish pending sections) server := by
    intro step sections hsections h
    refine ⟨h.owned, ?_, h.within step (by simp [next, hpending, hsections])⟩
    exact h.confined.finish pending hpending step (by rw [hsections]; exact mem_cons_self)
  apply runFinish_cases
  · exact moved_stay
  · intro step sections changed hsections heffect
    refine ⟨⟨rfl, rfl⟩, fun hshaped => ?_, fun h => ⟨?_, confined_lose⟩⟩
    · exact leaseMove_lose hstage hshaped (heffect.hands (hkeep hsections hshaped).1)
    · exact heffect.steps (hpermitted hsections h)
  · intro step sections reached more changed hsections heffect
    obtain ⟨hleads, hmore⟩ := heffect.resumes reached more rfl
    have hcontinues := hleads.progresses
    obtain ⟨_, _, _, _, hreached⟩ := hcontinues
    refine ⟨by rw [hreached]; exact ⟨rfl, rfl⟩, fun hshaped => ⟨?_, ?_⟩, fun h => ?_⟩
    · exact leaseStep_of_holding (heffect.hands (hkeep hsections hshaped).1)
        (by simp [isHolding, hstage]) (by simp [isHolding, hreached, popFinish, hstage])
    · have hplanned := hshaped.planned_eq_false (by simp [hstage])
      refine shaped_serving (by simp [hreached, popFinish, hstage])
        (by simp [hreached, popFinish, hplanned]) (by simp [hreached, popFinish, hprogram]; rfl) ?_
      intro left hleft
      obtain ⟨before, hbefore, rfl⟩ := Option.map_eq_some_iff.mp hleft
      rw [anyRelease_of_isNext hmore]
      rcases hleads.finish before hbefore with hsame | hplain
      · cases hsame
        exact (hkeep hsections hshaped).2
      · exact anyRelease_of_plain hplain
    · have hsteps := heffect.steps (hpermitted hsections h)
      have hpopped : (bridge.popFinish pending sections).FinishWithin server := by
        intro left hleft other hother
        cases hleft
        exact h.confined.finish pending hpending other
          (by rw [hsections]; exact mem_cons_of_mem _ hother)
      have hleft := finishWithin_of_leads hleads hpopped hsteps
      refine ⟨hsteps, ⟨?_, ?_⟩⟩
      · intro block hblock
        simp [hreached, popFinish, hprogram] at hblock
      · intro found hfound other hother
        obtain ⟨before, hbefore, rfl⟩ := Option.map_eq_some_iff.mp hfound
        rcases mem_append.mp hother with hnew | hold
        · rw [hreached]
          exact ((hmore other hnew).2 (hpermitted hsections h)).steps hsteps
        · exact hleft before hbefore other hold

theorem serve_moved (hstage : bridge.stage = .serving) (hprogram : bridge.program = []) :
    Moved bridge server input (bridge.serve config server input) := by
  have hlose : Moved bridge server input (bridge.lose, server) := moved_lose hstage
  cases input with
  | advance conditions => exact moved_stay
  | settle conditions =>
    simp only [serve]
    split
    next pending hpending =>
      split
      · exact hlose
      · exact runFinish_moved hstage hprogram hpending
    next => exact moved_stay
  | receive message =>
    simp only [serve]
    split
    · exact hlose
    · split
      next blocks hblocks => exact moved_program hstage (plain_respond hblocks)
      next => exact hlose
  | hangUp clean =>
    simp only [serve]
    split
    · refine ⟨⟨rfl, rfl⟩, fun hshaped => ⟨?_, ?_⟩, fun h =>
        ⟨.rfl, ⟨h.confined.program, h.confined.finish⟩⟩⟩
      · exact leaseStep_of_holding .rfl (by simp [isHolding, hstage]) rfl
      · exact ⟨nofun, nofun, fun _ => rfl, fun _ => .inl rfl⟩
    · exact hlose
  | play sequence written =>
    simp only [serve]
    split
    · exact moved_stay
    · split
      · exact hlose
      · cases sequence with
        | none => exact moved_stay
        | some sequence =>
          exact moved_program hstage fun block hblock => by rw [mem_singleton.mp hblock]; rfl

/-! ## Every step -/

theorem Closing.drop {program : List Block} (h : Closing program) :
    Closing (program.drop (program.length - 1)) ∧
      pendingRelease (program.drop (program.length - 1)) = pendingRelease program := by
  induction h with
  | done => exact ⟨.done, rfl⟩
  | release reconnectDeadline => exact ⟨.release reconnectDeadline, rfl⟩
  | report htolerant hkeep hrest ih =>
    rename_i block rest
    cases rest with
    | nil => exact ⟨.report htolerant hkeep hrest, rfl⟩
    | cons next later =>
      rw [pendingRelease_cons block, hkeep]
      simpa using ih

variable (bridge) in
theorem closing_closeAfter (disconnect : MediaDisconnect) :
    Closing (bridge.closeAfter disconnect).program ∧
      pendingRelease (bridge.closeAfter disconnect).program = true := by
  unfold closeAfter
  cases disconnect.captureAtMs <;> cases bridge.mediaPhase <;>
    exact ⟨.report rfl rfl (.report rfl rfl (.release _)), rfl⟩

theorem confined_closeAfter (disconnect : MediaDisconnect) (hfinish : bridge.FinishWithin server) :
    (bridge.closeAfter disconnect).Confined server := by
  refine ⟨?_, hfinish⟩
  intro block hblock step hstep
  simp only [closeAfter, mem_cons, not_mem_nil, or_false] at hblock
  rcases hblock with rfl | rfl | rfl
  · rw [mem_singleton.mp hstep]
    trivial
  · dsimp only at hstep
    split at hstep
    · split at hstep
      · rw [mem_singleton.mp hstep]
        trivial
      · cases hstep
    · cases hstep
  · rw [mem_singleton.mp hstep]
    trivial

/-- A connection that is lost reports what the lease knows of it, or has nothing to
report because it no longer holds the lease. -/
theorem losing_moved (hstage : bridge.stage = .losing) :
    Moved bridge server input (bridge.move config server input) := by
  have hholding : bridge.isHolding = true := by simp [isHolding, hstage]
  unfold move
  rw [hstage]
  dsimp only
  split
  next disconnect _ =>
    obtain ⟨hclosing, hpending⟩ := bridge.closing_closeAfter disconnect
    refine ⟨⟨rfl, rfl⟩, fun hshaped => ⟨leaseStep_of_holding .rfl hholding hpending, ?_⟩, fun h =>
      ⟨.rfl, confined_closeAfter disconnect h.confined.finish⟩⟩
    exact shaped_closing rfl (hshaped.planned_eq_false (by simp [hstage])) hclosing
  next hnone =>
    refine ⟨⟨rfl, rfl⟩, fun _ => ⟨.gaveUp id hholding rfl ?_ ?_, shaped_ended rfl⟩, fun h =>
      ⟨.rfl, ⟨h.confined.program, h.confined.finish⟩⟩⟩
    · cases hlease : server.sessions bridge.sessionId with
      | none => simp [onLease, hlease]
      | some lease =>
        simp only [onLease, hlease, id, Except.toOption, Option.bind_eq_bind,
          Option.bind_some, Option.pure_def, Option.getD_some]
        rw [← hlease, Function.update_eq_self]
    · intro lease hlease
      refine ⟨fun _ => rfl, fun hheld => ?_⟩
      rw [hlease] at hnone
      simp [disconnectSnapshot, hheld] at hnone

/-- A connection that closes after its acknowledged finish. -/
theorem completing_moved (hstage : bridge.stage = .completing) :
    Moved bridge server input ({ bridge with stage := .ended },
      (server.onLease bridge.sessionId fun session =>
        .ok (session.releasePlannedConnection bridge.connection)).getD server) where
  continues := ⟨rfl, rfl⟩
  lease hshaped := by
    refine ⟨.gaveUp _ (by simp [isHolding, hstage]) rfl rfl ?_, shaped_ended rfl⟩
    intro lease _
    have hplanned := hshaped.completing hstage
    exact ⟨fun hother => by simp [releasePlannedConnection, hother],
      fun hheld => by simp [releasePlannedConnection, hheld, hplanned]⟩
  within h := by
    have hreached : ({ bridge with stage := .ended } : Bridge).Confined server :=
      ⟨h.confined.program, h.confined.finish⟩
    cases hrelease : server.onLease bridge.sessionId fun session =>
        .ok (session.releasePlannedConnection bridge.connection) with
    | none => exact ⟨.rfl, hreached⟩
    | some released =>
      have hsteps : StepsWithin bridge.own server released := by
        apply onLease_within hrelease
        intro before after _ hafter
        cases hafter
        unfold releasePlannedConnection
        split
        next hheld =>
          have hepoch := reservationEpoch_of_isHeldBy hheld
          exact .inr ⟨hepoch, hepoch⟩
        next => exact .inl rfl
      refine ⟨hsteps, hreached.mono ?_ ?_⟩
      · intro index owner howner
        exact (congrArg (·[index]?) hsteps.voiceOwners).trans howner
      · intro index owner howner
        exact (congrArg (·[index]?) hsteps.laneOwners).trans howner

theorem runBlock_continues :
    bridge.Continues (bridge.runBlock config conditions block rest server).1 := by
  refine runBlock_cases (motive := fun reached => bridge.Continues reached.1) ?_ ?_ ?_
  · exact fun _ => ⟨rfl, rfl⟩
  · intro step sections changed _ _
    split <;> exact ⟨rfl, rfl⟩
  · intro step sections reached more changed _ heffect
    obtain ⟨_, _, _, _, rfl⟩ := (heffect.resumes reached more rfl).1.progresses
    exact ⟨rfl, rfl⟩

variable (config bridge server input) in
/-- One step of a connection. -/
theorem move_moved : Moved bridge server input (bridge.move config server input) := by
  cases hstage : bridge.stage with
  | losing => exact losing_moved hstage
  | serving =>
    unfold move
    rw [hstage]
    dsimp only
    split
    next hprogram => exact serve_moved hstage hprogram
    next block rest conditions hprogram =>
      exact ⟨runBlock_continues, runBlock_serving hstage hprogram, runBlock_within hprogram⟩
    next =>
      split
      · exact moved_lose hstage
      · exact moved_stay
    next => exact moved_stay
  | closing =>
    unfold move
    rw [hstage]
    dsimp only
    split
    next hprogram =>
      refine ⟨⟨rfl, rfl⟩, fun _ => ⟨.kept .rfl ?_ fun _ => rfl, shaped_ended rfl⟩, fun h =>
        ⟨.rfl, ⟨h.confined.program, h.confined.finish⟩⟩⟩
      simp [isHolding, hstage, hprogram, pendingRelease]
    next block rest conditions hprogram =>
      exact ⟨runBlock_continues, runBlock_closing hstage hprogram, runBlock_within hprogram⟩
    next =>
      split
      · refine ⟨⟨rfl, rfl⟩, fun hshaped => ?_, fun h => ⟨.rfl, ⟨?_, h.confined.finish⟩⟩⟩
        · obtain ⟨hclosing, hsame⟩ := (hshaped.closing hstage).drop
          exact ⟨.kept .rfl (by simp [isHolding, hstage, hsame]) fun _ => rfl, shaped_closing rfl
            (hshaped.planned_eq_false (by simp [hstage])) hclosing⟩
        · exact fun block hblock => h.confined.program block (mem_of_mem_drop hblock)
      · exact moved_stay
  | completing =>
    unfold move
    rw [hstage]
    exact completing_moved hstage
  | ended =>
    unfold move
    rw [hstage]
    exact moved_stay

end Bridge

end ConversationRuntime
