import ConversationRuntime.Media.Feed
import ConversationRuntime.Media.Holders

/-! # A lost bridge closes coverage

A connection that was lost reports a discontinuity, so that the frames of two
connections are never recorded as one stretch. Whether there is something to
report is read off the lease's watermarks: a legacy lease keeps the time of its
last frame, a timed one the sequence within the epoch in force.
-/

namespace ConversationRuntime

open Foundation Fallible Delivery Keeps MediaSession Meets List
open Triple (of_bind)

abbrev Deliveries := List (Delivery MediaInputEvent)

namespace Delivery

variable (delivery : Delivery MediaInputEvent)

def isFrame : Bool :=
  match delivery.event with
  | .capture (.frame _) => true
  | _ => false

def isBreak : Bool :=
  match delivery.event with
  | .capture (.discontinuity _) => true
  | _ => false

end Delivery

namespace Deliveries

/-- Everything after the last discontinuity. -/
def sinceBreak (deliveries : Deliveries) : Deliveries :=
  deliveries.foldl (fun kept next => if next.isBreak then [] else kept ++ [next]) []

/-- Some frame has come since the last discontinuity. -/
def isOpen (deliveries : Deliveries) : Bool := (sinceBreak deliveries).any Delivery.isFrame

/-- Every frame since the last discontinuity came from one connection. -/
def HeardFrom (deliveries : Deliveries) (connection : MediaConnection) : Prop :=
  ∀ found ∈ sinceBreak deliveries, found.isFrame = true → found.origin = connection

/-- Between the frames of two connections there is a discontinuity. -/
def ClosesCoverage (deliveries : Deliveries) : Prop :=
  ∀ before between after first second,
    deliveries = before ++ first :: (between ++ second :: after) →
    first.isFrame = true → second.isFrame = true → first.origin ≠ second.origin →
    ∃ found ∈ between, found.isBreak = true

variable {deliveries : Deliveries} {next found : Delivery MediaInputEvent}
  {connection : MediaConnection}

theorem sinceBreak_snoc : sinceBreak (deliveries ++ [next]) =
    if next.isBreak then [] else sinceBreak deliveries ++ [next] := by
  simp [sinceBreak]

theorem mem_of_mem_sinceBreak (h : found ∈ sinceBreak deliveries) : found ∈ deliveries := by
  induction deliveries using reverseRecOn with
  | nil => exact h
  | append_singleton deliveries next ih =>
    rw [sinceBreak_snoc] at h
    split at h
    · cases h
    · rw [mem_append] at h ⊢
      exact h.imp_left ih

/-- What no discontinuity follows is still there. -/
theorem mem_sinceBreak (before : Deliveries) {after : Deliveries} (hfound : found.isBreak = false)
    (hafter : ∀ next ∈ after, next.isBreak = false) :
    found ∈ sinceBreak (before ++ found :: after) := by
  induction after using reverseRecOn with
  | nil => simp [sinceBreak_snoc, hfound]
  | append_singleton after next ih =>
    rw [← cons_append, ← append_assoc, sinceBreak_snoc, hafter next (by simp)]
    refine mem_append_left _ (ih ?_)
    intro other hother
    exact hafter other (mem_append_left _ hother)

theorem HeardFrom.of_closed (h : isOpen deliveries = false) : HeardFrom deliveries connection := by
  intro found hfound hframe
  simp only [isOpen, any_eq_false] at h
  exact absurd hframe (h found hfound)

/-- Nothing is open when the only connection heard of has delivered nothing. -/
theorem HeardFrom.closed (h : HeardFrom deliveries connection)
    (hnothing : ∀ found ∈ deliveries, found.origin ≠ connection) : isOpen deliveries = false := by
  simp only [isOpen, any_eq_false]
  intro found hfound hframe
  exact hnothing found (mem_of_mem_sinceBreak hfound) (h found hfound hframe)

theorem HeardFrom.snoc (h : HeardFrom deliveries connection) (event : MediaInputEvent) :
    HeardFrom (deliveries ++ [⟨connection, event⟩]) connection := by
  intro found hfound hframe
  rw [sinceBreak_snoc] at hfound
  split at hfound
  · cases hfound
  · rcases mem_append.mp hfound with hfound | hfound
    · exact h found hfound hframe
    · rw [mem_singleton.mp hfound]

theorem isOpen_snoc_of_aside (hframe : next.isFrame = false) :
    isOpen (deliveries ++ [next]) = true → isOpen deliveries = true := by
  intro h
  simp only [isOpen, any_eq_true, sinceBreak_snoc] at h ⊢
  obtain ⟨found, hfound, hisFrame⟩ := h
  split at hfound
  · cases hfound
  · rcases mem_append.mp hfound with hfound | hfound
    · exact ⟨found, hfound, hisFrame⟩
    · rw [mem_singleton.mp hfound, hframe] at hisFrame
      cases hisFrame

/-- Coverage stays closed as long as frames come from the connection heard last. -/
theorem ClosesCoverage.snoc (h : ClosesCoverage deliveries)
    (hheard : next.isFrame = true → HeardFrom deliveries next.origin) :
    ClosesCoverage (deliveries ++ [next]) := by
  intro before between after first second hdeliveries hfirst hsecond hne
  rw [← cons_append, ← append_assoc] at hdeliveries
  rcases snoc_split hdeliveries with ⟨hprior, rfl⟩ | ⟨rest, hprior⟩
  · -- The new event is the second frame.
    by_contra hnone
    have hbreak : ∀ other ∈ between, other.isBreak = false := by
      intro other hother
      cases hbreak : other.isBreak with
      | false => rfl
      | true => exact absurd ⟨other, hother, hbreak⟩ hnone
    have hfirstBreak : first.isBreak = false := by
      unfold isFrame at hfirst
      unfold isBreak
      split at hfirst
      · simp_all
      · cases hfirst
    have hmem := mem_sinceBreak before hfirstBreak hbreak
    rw [hprior] at hmem
    exact hne (hheard hsecond first hmem hfirst)
  · rw [append_assoc] at hprior
    exact h before between rest first second hprior hfirst hsecond hne

end Deliveries

namespace MediaSession

variable {lease : MediaSession} {now : Instant}

/-- A legacy frame that was validated can be committed, which marks the lease. -/
theorem commit_of_validated {limit : Nat} {sequence capturedAtMs : UInt64} {gap : Option UInt64}
    (h : lease.validateCaptureMetadata limit now sequence capturedAtMs = .ok gap) :
    Yields (commitCaptureMetadata limit now sequence capturedAtMs) lease fun _ admitted =>
      admitted.lastCaptureTimestampMs = some capturedAtMs ∧ admitted.custody = lease.custody ∧
        admitted.timed = lease.timed := by
  simp only [validateCaptureMetadata] at h
  split at h
  · cases h
  next hreplayed =>
    obtain ⟨next, hnext, h⟩ := bind_eq_ok h
    split at h
    · cases h
    next hrate =>
      split at h
      · cases h
      next hmonotonic =>
        obtain ⟨started, hrenewed⟩ := lease.renewRateWindow_eq now
        refine .of_read_bind (.of_require_bind (by simpa using hreplayed)
          (.of_lift_bind hnext (.of_update_bind (.of_read_bind ?_))))
        rw [hrenewed]
        exact .of_require_bind (by simpa using hrate)
          (.of_require_bind (by simpa using hmonotonic) ⟨(), _, rfl, rfl, rfl, rfl⟩)

end MediaSession

namespace MediaFeed

open Deliveries

variable {config : MediaServerConfig} {delivers : Nat → Bool} {link : MediaLink} {feed : MediaFeed}

/-- What a connection can rely on while it handles a record. -/
structure Carried (link : MediaLink) (feed : MediaFeed) : Prop where
  closes : ClosesCoverage feed.delivered
  numbered : ∀ found ∈ feed.delivered, found.origin.connectionId < feed.lease.nextConnectionId
  held : feed.lease.isHeldBy link.connection = true
  active : feed.lease.active = true
  number : link.connection.connectionId < feed.lease.nextConnectionId
  kind : link.timed = feed.lease.timed.isSome
  heard : HeardFrom feed.delivered link.connection ∨ feed.deaf = true

/-- An open stretch has left its mark on a legacy lease, or no audio follows it. -/
def Marked (feed : MediaFeed) : Prop :=
  feed.lease.timed = none → isOpen feed.delivered = true →
    feed.lease.lastCaptureTimestampMs.isSome = true ∨ feed.deaf = true

theorem Carried.withLease (h : Carried link feed) {lease : MediaSession}
    (hcustody : lease.custody = feed.lease.custody)
    (hkind : lease.timed.isSome = feed.lease.timed.isSome) :
    Carried link { feed with lease := lease } := by
  obtain ⟨hepoch, hactive, hconnection, hnumber, -⟩ := custody_eq hcustody
  refine ⟨h.closes, hnumber ▸ h.numbered, ?_, hactive.trans h.active, hnumber ▸ h.number,
    hkind ▸ h.kind, h.heard⟩
  rw [isHeldBy, hepoch, hconnection]
  exact h.held

theorem Carried.snoc (h : Carried link feed) {event : MediaInputEvent}
    (haudio : event.isCapture = true → feed.deaf = false) :
    Carried link { feed with delivered := feed.delivered ++ [⟨link.connection, event⟩] } := by
  refine { h with closes := h.closes.snoc ?_, numbered := ?_, heard := ?_ }
  · intro hframe
    have hcapture : event.isCapture = true := by
      unfold isFrame at hframe
      split at hframe
      · next hevent => rw [show event = _ from hevent]; rfl
      · cases hframe
    exact h.heard.resolve_right (by simp [haudio hcapture])
  · exact forall_mem_snoc h.numbered h.number
  · exact h.heard.imp_left fun hheard => hheard.snoc event

/-- A delivery gets through, or it fails and leaves everything as it was. -/
theorem deliver_meets {event : MediaInputEvent} {post : Except AdapterError Unit → MediaFeed → Prop}
    (hsent : (event.isCapture = true → feed.deaf = false) →
      post (.ok ()) { feed with delivered := feed.delivered ++ [⟨link.connection, event⟩] })
    (hfailed : feed.deaf = true ∨ delivers feed.delivered.length = false →
      ∀ error, post (.error error) feed) : Meets (deliver delivers link event) feed post := by
  refine of_read (of_require (fun haudio => of_require (fun _ => hsent haudio) fun hlost => ?_)
    fun hdeaf => ?_)
  · exact hfailed (.inr (Bool.eq_false_iff.mpr hlost)) _
  · simp only [Classical.not_imp, Bool.not_eq_false] at hdeaf
    exact hfailed (.inl hdeaf.2) _

theorem keeps_deliver (event : MediaInputEvent) :
    Keeps (Carried link) (deliver delivers link event) :=
  of_reached fun feed hfeed =>
    show Meets (deliver delivers link event) feed fun _ => Carried link from
      deliver_meets hfeed.snoc fun _ _ => hfeed

variable {admission : MediaSession → Except AdapterError MediaSession}

/-- An admission refuses, or changes the lease and nothing else. -/
theorem onLease_triple {before : MediaFeed → Prop} {after : Unit → MediaFeed → Prop}
    (h : ∀ feed lease, before feed → admission feed.lease = .ok lease →
      after () { feed with lease := lease }) :
    Triple before (onLease admission) after fun _ => before := by
  refine .of_read fun seen hseen => .of_lift_bind (fun lease hlease => .of_update ?_) ?_
  · rintro feed ⟨hfeed, rfl⟩
    exact h feed lease hfeed hlease
  · exact fun _ _ feed hfeed => hfeed.1

theorem keeps_onLease (h : KeepsKind admission) : Keeps (Carried link) (onLease admission) := by
  refine onLease_triple fun feed lease hfeed hlease => ?_
  obtain ⟨hcustody, hkind⟩ := h feed.lease lease hlease
  exact hfeed.withLease hcustody hkind

theorem keeps_admitTimedRate (isMetadata : Bool) :
    Keeps (Carried link) (admitTimedRate config isMetadata) :=
  of_read fun _ _ => keeps_onLease (keepsKind_admitTimedRate _ _ isMetadata)

/-- What a handled record leaves of its connection. -/
def Continues (link next : MediaLink) (feed : MediaFeed) : Prop :=
  next.connection = link.connection ∧ next.timed = link.timed ∧ next.mediaPhase = link.mediaPhase ∧
    (next.closing = true → link.timed = true ∧ feed.lease.captureFinished = true)

/-- A program that keeps what the connection relies on, and then the link. -/
theorem carried_return {program : Feeding Unit} {next : MediaLink}
    (h : Keeps (Carried link) program) (hnext : ∀ feed, Continues link next feed) :
    Triple (Carried link) (do program; return next)
      (fun next feed => Carried link feed ∧ Continues link next feed) fun _ => Carried link :=
  .of_bind h fun _ => .of_pure fun feed hfeed => ⟨hfeed, hnext feed⟩

variable (config delivers) in
theorem receiveTimed_carried (htimed : link.timed = true) (hopen : link.closing = false)
    (record : TimedMediaRecord) :
    Triple (Carried link) (receiveTimed config delivers link record)
      (fun next feed => Carried link feed ∧ Continues link next feed) fun _ => Carried link := by
  have hsame : ∀ feed, Continues link link feed :=
    fun _ => ⟨rfl, rfl, rfl, fun h => by rw [hopen] at h; cases h⟩
  have hnotice : ∀ metadata, Triple (Carried link) (do
      admitTimedRate config true
      requireEpoch link
      onLease (·.admitTimedMetadata metadata)
      onlyIf (Bridge.breaksAudio metadata) (deliverDiscontinuity delivers link 0)
      deliver delivers link (.captureMetadata metadata)
      return link)
      (fun next feed => Carried link feed ∧ Continues link next feed) fun _ => Carried link := by
    intro metadata
    refine .of_bind (keeps_admitTimedRate true) fun _ => ?_
    refine of_bind (Keeps.of_require _ _) fun _ => ?_
    refine of_bind (keeps_onLease (MediaSession.keepsKind_onTimed _)) fun _ => ?_
    refine of_bind (of_onlyIf fun _ => keeps_deliver _) fun _ => ?_
    exact carried_return (keeps_deliver _) hsame
  cases record with
  | finish boundary =>
    have hfinish : Triple (Carried link) (onLease (·.admitCaptureFinish link.connection boundary))
        (fun _ feed => Carried link feed ∧ feed.lease.captureFinished = true)
        fun _ => Carried link := by
      refine onLease_triple fun feed lease hfeed hlease => ?_
      obtain ⟨hcustody, hkind⟩ :=
        keepsKind_admitCaptureFinish link.connection boundary feed.lease lease hlease
      obtain ⟨-, rfl⟩ := admitCaptureFinish_eq_ok hlease
      exact ⟨hfeed.withLease hcustody hkind, rfl⟩
    refine of_bind (Keeps.of_require _ _) fun _ => ?_
    exact .of_bind hfinish fun _ => .of_pure fun feed hfeed =>
      ⟨hfeed.1, rfl, rfl, rfl, fun _ => ⟨htimed, hfeed.2⟩⟩
  | metadata metadata =>
    cases metadata with
    | epoch epoch =>
      refine .of_bind (keeps_admitTimedRate true) fun _ => ?_
      refine of_bind (keeps_onLease (keepsKind_admitEpoch _ _)) fun _ => ?_
      exact carried_return (keeps_deliver _) hsame
    | clockPair pair => exact hnotice (.clockPair pair)
    | discontinuity captureEpoch reason => exact hnotice (.discontinuity captureEpoch reason)
  | frame format timing payload =>
    refine .of_bind (keeps_admitTimedRate false) fun _ => ?_
    refine of_bind (Keeps.of_require _ _) fun _ => ?_
    refine .of_read fun seen _ => .entered (fun state h => h.1) ?_
    refine .of_lift_bind (fun answer _ => ?_) fun _ _ _ h => h
    refine of_bind (of_onlyIf fun _ =>
      .of_bind (keeps_deliver _) fun _ => keeps_deliver _) fun _ => ?_
    refine .of_lift_bind (fun frame _ => ?_) fun _ _ _ h => h
    refine .of_bind (keeps_deliver _) fun _ => ?_
    exact carried_return (keeps_onLease (keepsKind_onTimed _)) hsame

/-- What holds of a connection and its feed between two events. -/
structure Linked (feed : MediaFeed) (link : MediaLink) : Prop where
  carried : Carried link feed
  marked : feed.Marked
  fresh : link.mediaPhase = false → ∀ found ∈ feed.delivered, found.origin ≠ link.connection
  closing : link.closing = true → link.timed = true ∧ feed.lease.captureFinished = true

theorem marked_snoc (h : feed.Marked) {next : Delivery MediaInputEvent}
    (hframe : next.isFrame = false) :
    ({ feed with delivered := feed.delivered ++ [next] } : MediaFeed).Marked :=
  fun hlegacy hopen => h hlegacy (isOpen_snoc_of_aside hframe hopen)

/-- A legacy frame is delivered and committed, or nothing of it is. -/
theorem receiveFrame_linked (hdelivers : ∀ position, delivers position = true)
    (hcarried : Carried link feed) (hmarked : feed.Marked) (sequence capturedAtMs : UInt64)
    (format : PcmFormat) (payload : Bytes) :
    Meets (receiveFrame config delivers link sequence capturedAtMs format payload) feed
      fun result reached => Carried link reached ∧ reached.Marked ∧
        ∀ next, result = .ok next → next = link := by
  have hstop : ∀ {error : AdapterError} {reached : MediaFeed}, Carried link reached →
      reached.Marked → Carried link reached ∧ reached.Marked ∧
        ∀ next, Except.error error = .ok next → next = link :=
    fun hcarried hmarked => ⟨hcarried, hmarked, nofun⟩
  refine of_read (of_lift (fun gap hgap => ?_) fun _ _ => hstop hcarried hmarked)
  -- Whether or not a gap is reported, the lease is the one that validated the frame.
  have hreported : Meets (onlyIf gap.isSome (deliverDiscontinuity delivers link (gap.getD 0))) feed
      fun _ reached => Carried link reached ∧ reached.Marked ∧ reached.lease = feed.lease := by
    unfold onlyIf deliverDiscontinuity
    split
    · apply deliver_meets
      · exact fun haudio => ⟨hcarried.snoc haudio, marked_snoc hmarked rfl, rfl⟩
      · exact fun _ _ => ⟨hcarried, hmarked, rfl⟩
    · exact ⟨hcarried, hmarked, rfl⟩
  refine hreported.of_bind (fun _ between hbetween => ?_) fun _ _ h => hstop h.1 h.2.1
  obtain ⟨hcarried, hmarked, hlease⟩ := hbetween
  refine of_lift (fun frame _ => ?_) fun _ _ => hstop hcarried hmarked
  refine bind (deliver_meets (fun haudio => ?_) fun hfailed _ => hstop hcarried ?_)
  · obtain ⟨_, admitted, hadmitted, hlast, hcustody, hkind⟩ := commit_of_validated hgap
    rw [← hlease] at hadmitted hcustody hkind
    have hcommit : commitLease (commitCaptureMetadata config.maxFramesPerSecond feed.now sequence
        capturedAtMs) { between with
          delivered := between.delivered ++ [⟨link.connection, .capture (.frame frame)⟩] } =
        (.ok (), { between with
          delivered := between.delivered ++ [⟨link.connection, .capture (.frame frame)⟩]
          lease := admitted }) := by
      rw [commitLease, hadmitted]
    unfold Before
    refine of_ok_bind hcommit ⟨?_, ?_, fun next h => by cases h; rfl⟩
    · exact (hcarried.snoc haudio).withLease hcustody (by rw [hkind])
    · have hmark : admitted.lastCaptureTimestampMs.isSome = true := by
        rw [hlast]
        rfl
      exact fun _ _ => .inl hmark
  · intro _ _
    exact .inr (hfailed.resolve_right (by simp [hdelivers]))

variable (config delivers) in
/-- Handling a message keeps what holds of the connection. -/
theorem receive_linked (hdelivers : ∀ position, delivers position = true) (h : Linked feed link)
    (message : MediaMessage) :
    Meets (receive config delivers link message) feed fun result reached =>
      Carried link reached ∧ reached.Marked ∧
        ∀ next, result = .ok next → Continues link next reached := by
  have hstop : ∀ {error : AdapterError}, Carried link feed ∧ feed.Marked ∧
      ∀ next, Except.error error = .ok next → Continues link next feed :=
    ⟨h.carried, h.marked, by rintro _ ⟨⟩⟩
  cases message with
  | timed sessionId record =>
    refine of_read (of_require (fun htimed => ?_) fun _ => hstop)
    refine of_require (fun hopen => ?_) fun _ => hstop
    have htriple := receiveTimed_carried config delivers htimed.1 hopen record
    have hmarked : ∀ reached : MediaFeed, Carried link reached → reached.Marked := by
      intro reached hreached hlegacy
      rw [hreached.kind, hlegacy] at htimed
      cases htimed.1
    rw [Meets]
    cases hrun : receiveTimed config delivers link record feed with
    | mk result reached =>
      cases result with
      | ok next =>
        obtain ⟨hreached, hnext⟩ := htriple.returned h.carried hrun
        exact ⟨hreached, hmarked _ hreached, fun _ h => by cases h; exact hnext⟩
      | error error =>
        have hreached := htriple.stopped h.carried hrun
        exact ⟨hreached, hmarked _ hreached, by rintro _ ⟨⟩⟩
  | frame isCapture sessionId sequence capturedAtMs format payload =>
    refine of_read (of_require (fun hlegacy => ?_) fun _ => hstop)
    refine of_require (fun _ => ?_) fun _ => hstop
    refine of_require (fun _ => ?_) fun _ => hstop
    refine (receiveFrame_linked hdelivers h.carried h.marked sequence capturedAtMs format
      payload).mono fun result reached hreached => ⟨hreached.1, hreached.2.1, fun next hnext => ?_⟩
    rw [hreached.2.2 next hnext]
    refine ⟨rfl, rfl, rfl, fun hclosing => ?_⟩
    rw [(h.closing hclosing).1] at hlegacy
    cases hlegacy
  | playbackAck sessionId sequence acknowledgement | flushAck sessionId generationId =>
    exact ⟨h.carried, h.marked, fun _ hnext => by cases hnext; exact ⟨rfl, rfl, rfl, h.closing⟩⟩

theorem renew_eq (lease : MediaSession) (lifetime : Nat) (now : Instant)
    (expiresAtMs : Except AdapterError UInt64) :
    ∃ expiresAt, ((lease.renew lifetime now expiresAtMs).toOption.map Prod.snd).getD lease =
      { lease with expiresAt := expiresAt } := by
  simp only [renew]
  split
  · exact ⟨lease.expiresAt, rfl⟩
  · cases expiresAtMs with
    | error error => exact ⟨lease.expiresAt, rfl⟩
    | ok expiresAtMs => exact ⟨now + lifetime, rfl⟩

/-- Nothing that was delivered waits for a discontinuity. -/
def Settled (feed : MediaFeed) : Prop := isOpen feed.delivered = false ∨ feed.deaf = true

/-- What holds between two events. -/
structure Sound (feed : MediaFeed) : Prop where
  closes : ClosesCoverage feed.delivered
  numbered : ∀ found ∈ feed.delivered, found.origin.connectionId < feed.lease.nextConnectionId
  idle : feed.link = none →
    feed.lease.active = false ∧ (feed.Settled ∨ feed.lease.captureFinished = true)
  linked : ∀ link, feed.link = some link → Linked feed link

theorem Linked.sound (h : Linked feed link) (hlink : feed.link = some link) : Sound feed := by
  refine ⟨h.carried.closes, h.carried.numbered, fun hnone => ?_, fun found hfound => ?_⟩
  · rw [hlink] at hnone
    cases hnone
  · rw [hlink] at hfound
    cases hfound
    exact h

/-- Time passes, the recognizer may close and the credential be renewed. -/
theorem Linked.aside (h : Linked feed link) {now expiresAt : Instant} {deaf : Bool}
    (hdeaf : feed.deaf = true → deaf = true) (found : Option MediaLink) :
    Linked { feed with
      now := now
      deaf := deaf
      lease := { feed.lease with expiresAt := expiresAt }
      link := found } link := by
  obtain ⟨hcarried, hmarked, hfresh, hclosing⟩ := h
  refine ⟨{ hcarried with heard := hcarried.heard.imp_right hdeaf }, ?_, hfresh, hclosing⟩
  exact fun hlegacy hopen => (hmarked hlegacy hopen).imp_right hdeaf

theorem Sound.aside (h : Sound feed) (now expiresAt : Instant) {deaf : Bool}
    (hdeaf : feed.deaf = true → deaf = true) :
    Sound { feed with
      now := now
      deaf := deaf
      lease := { feed.lease with expiresAt := expiresAt } } := by
  refine ⟨h.closes, h.numbered, fun hnone => ?_,
    fun link hlink => (h.linked link hlink).aside hdeaf _⟩
  obtain ⟨hactive, hsettled⟩ := h.idle hnone
  exact ⟨hactive, hsettled.imp_left fun hsettled => hsettled.imp_right hdeaf⟩

theorem sound_connect (h : Sound feed) (presented : BridgeCredentials) :
    Sound (feed.proceed config (.connect presented)) := by
  simp only [proceed]
  split
  next connection lease hadmitted =>
    obtain ⟨⟨rfl, -, -, hactive, hfinished, -⟩, rfl, rfl⟩ := MediaTasks.authenticate_eq_ok hadmitted
    have hnone : feed.link = none := by
      cases hlink : feed.link with
      | none => rfl
      | some link =>
        have := (h.linked link hlink).carried.active
        rw [hactive] at this
        cases this
    have hsettled : feed.Settled :=
      (h.idle hnone).2.resolve_right (by rw [hfinished]; exact Bool.false_ne_true)
    refine Linked.sound ⟨⟨h.closes, ?_, ?_, rfl, Nat.lt_succ_self _, ?_, ?_⟩, ?_, ?_, ?_⟩ rfl
    · exact fun found hfound => Nat.lt_succ_of_lt (h.numbered found hfound)
    · simp [isHeldBy]
    · simp [credentials]
    · exact hsettled.imp_left HeardFrom.of_closed
    · intro _ hopen
      exact .inr (hsettled.resolve_left (by rw [hopen]; exact Bool.noConfusion))
    · intro _ found hfound horigin
      have hbound := h.numbered found hfound
      rw [horigin] at hbound
      exact Nat.lt_irrefl _ hbound
    · intro hclosing
      cases hclosing
  · exact h

/-- A lease without watermark has nothing open. -/
theorem settled_of_unmarked (hmarked : feed.Marked)
    (hheard : feed.lease.timed.all (fun state => state.sequence != 0 || !isOpen feed.delivered))
    (hlast : feed.lease.lastCaptureTimestampMs = none)
    (hsequence : feed.lease.timed.filter (fun state => decide (0 < state.sequence)) = none) :
    feed.Settled := by
  by_cases hopen : isOpen feed.delivered = true
  · right
    cases htimed : feed.lease.timed with
    | none =>
      refine (hmarked htimed hopen).resolve_left ?_
      rw [hlast]
      exact Bool.false_ne_true
    | some state =>
      simp_all
  · exact .inl (Bool.eq_false_of_not_eq_true hopen)

section

variable (hdelivers : ∀ position, delivers position = true) (hcarried : Carried link feed)
include hdelivers hcarried

/-- The report of a loss leaves nothing open. -/
theorem reportLoss_settled
    {disconnect : MediaDisconnect} (hunmarked : disconnect.captureAtMs = none → feed.Settled) :
    Meets (reportLoss delivers link disconnect) feed
      fun _ reached => Carried link reached ∧ reached.Settled := by
  have hdeaf : feed.deaf = true ∨ delivers feed.delivered.length = false → feed.Settled := by
    intro hfailed
    exact .inr (hfailed.resolve_right (by simp [hdelivers]))
  unfold reportLoss
  cases hatMs : disconnect.captureAtMs with
  | none => exact ⟨hcarried, hunmarked hatMs⟩
  | some atMs =>
    refine bind (deliver_meets (fun haudio => ?_) fun hfailed _ => ⟨hcarried, hdeaf hfailed⟩)
    · have hreported := hcarried.snoc haudio
      have hsettled : isOpen (feed.delivered ++
          [⟨link.connection, .capture (.discontinuity atMs)⟩]) = false := by
        simp [isOpen, sinceBreak_snoc, isBreak]
      cases disconnect.captureEpoch with
      | none => exact ⟨hreported, .inl hsettled⟩
      | some epoch =>
        unfold Before
        refine deliver_meets (fun haudio => ?_) fun _ _ => ⟨hreported, .inl hsettled⟩
        · refine ⟨hreported.snoc haudio, .inl ?_⟩
          apply Bool.eq_false_of_not_eq_true
          intro hopen
          rw [isOpen_snoc_of_aside rfl hopen] at hsettled
          cases hsettled

/-- A lost connection leaves the reservation with nothing open. -/
theorem sound_lose (hmarked : feed.Marked)
    (hfresh : link.mediaPhase = false → ∀ found ∈ feed.delivered, found.origin ≠ link.connection)
    (hheard : feed.lease.timed.all fun state => state.sequence != 0 || !isOpen feed.delivered) :
    Sound (feed.lose config delivers link) := by
  have hreported : ∀ reached disconnect, Carried link reached → reached.Settled →
      Sound { reached with
        lease := reached.lease.releaseConnection link.connection disconnect
        link := none } := by
    intro reached disconnect hreached hsettled
    rw [releaseConnection, if_pos hreached.held]
    exact ⟨hreached.closes, hreached.numbered, fun _ => ⟨rfl, .inl hsettled⟩, by rintro _ ⟨⟩⟩
  have hunmarked : ∀ {window now disconnect},
      feed.lease.disconnectSnapshot window now link.connection = some disconnect →
      disconnect.captureAtMs = none → feed.Settled := by
    intro window now disconnect hsnapshot hnone
    rw [disconnectSnapshot, if_pos hcarried.held] at hsnapshot
    cases hsnapshot
    obtain ⟨hlast, hsequence⟩ := Option.or_eq_none_iff.mp hnone
    exact settled_of_unmarked hmarked hheard hlast (Option.map_eq_none_iff.mp hsequence)
  unfold lose
  split
  next hnone =>
    rw [disconnectSnapshot, if_pos hcarried.held] at hnone
    cases hnone
  next disconnect hsnapshot =>
    cases hphase : link.mediaPhase with
    | true =>
      have hsettled := reportLoss_settled hdelivers hcarried (hunmarked hsnapshot)
      exact hreported _ _ hsettled.1 hsettled.2
    | false =>
      refine hreported feed _ hcarried (hcarried.heard.imp_left fun hheard => ?_)
      exact hheard.closed (hfresh hphase)

end

/-- Where an event loses the connection of a timed reservation while a stretch of
audio is open, the epoch in force has had a frame. -/
def HeardInEpoch (config : MediaServerConfig) (feed : MediaFeed) (event : Event) : Prop :=
  (feed.link.bind fun link => feed.lossAt config link event).all fun reached =>
    reached.lease.timed.all fun state => state.sequence != 0 || !isOpen reached.delivered

instance (config : MediaServerConfig) (feed : MediaFeed) (event : Event) :
    Decidable (HeardInEpoch config feed event) := inferInstanceAs (Decidable (_ = true))

/-- The connection goes on as the handled record leaves it. -/
theorem sound_of_continues {next : MediaLink} (hcarried : Carried link feed)
    (hmarked : feed.Marked) (hphase : link.mediaPhase = true) (hnext : Continues link next feed) :
    Sound { feed with link := some next } := by
  obtain ⟨hconnection, htimed, hmedia, hclosing⟩ := hnext
  refine Linked.sound ⟨⟨hcarried.closes, hcarried.numbered, ?_, hcarried.active, ?_, ?_, ?_⟩,
    hmarked, ?_, ?_⟩ rfl
  · rw [hconnection]
    exact hcarried.held
  · rw [hconnection]
    exact hcarried.number
  · rw [htimed]
    exact hcarried.kind
  · rw [hconnection]
    exact hcarried.heard
  · rw [hmedia, hphase]
    nofun
  · rw [htimed]
    exact hclosing

theorem sound_proceed (h : Sound feed) (event : Event)
    (hdelivers : ∀ position, event.delivers position = true) :
    Sound (feed.proceed config event) := by
  cases event with
  | tick elapsed => exact h.aside _ feed.lease.expiresAt id
  | renew expiresAtMs =>
    obtain ⟨expiresAt, hlease⟩ := renew_eq feed.lease config.credentialLifetime feed.now expiresAtMs
    simp only [proceed, hlease]
    exact h.aside feed.now _ id
  | deafen => exact h.aside feed.now feed.lease.expiresAt fun _ => rfl
  | connect presented => exact sound_connect h presented
  | attach =>
    simp only [proceed]
    cases hlink : feed.link with
    | none => exact ⟨h.closes, h.numbered, fun _ => h.idle hlink, by rintro _ ⟨⟩⟩
    | some link =>
      obtain ⟨hcarried, hmarked, -, hclosing⟩ := h.linked link hlink
      have hattached : Carried { link with mediaPhase := true } feed := { hcarried with }
      exact sound_of_continues hattached hmarked rfl ⟨rfl, rfl, rfl, hclosing⟩
  | receive message delivers =>
    simp only [proceed]
    split
    · exact h
    next link hlink =>
      have hlinked := h.linked link hlink
      split
      next next reached hphase hreceived =>
        have hmeets := receive_linked config delivers hdelivers hlinked message
        rw [Meets, hreceived] at hmeets
        obtain ⟨hcarried, hmarked, hnext⟩ := hmeets
        exact sound_of_continues hcarried hmarked hphase (hnext next rfl)
      · exact h
  | receipt receipt =>
    simp only [proceed]
    split
    · exact h
    next link hlink =>
      split
      next hphase =>
        have hlinked := h.linked link hlink
        refine Linked.sound ⟨hlinked.carried.snoc (by rintro ⟨⟩),
          marked_snoc hlinked.marked rfl, ?_, hlinked.closing⟩ hlink
        rw [hphase]
        rintro ⟨⟩
      · exact h
  | hangUp delivers => exact h
  | complete =>
    simp only [proceed]
    split
    · exact h
    next link hlink =>
      split
      next hclosing =>
        have hlinked := h.linked link hlink
        rw [releasePlannedConnection, if_pos hlinked.carried.held]
        exact ⟨h.closes, h.numbered, fun _ => ⟨rfl, .inr (hlinked.closing hclosing).2⟩,
          by rintro _ ⟨⟩⟩
      · exact h

theorem sound_step (feed : MediaFeed) (event : Event)
    (h : HeardInEpoch config feed event ∧ ∀ position, event.delivers position = true)
    (hsound : Sound feed) : Sound (feed.step config event) := by
  unfold step
  split
  next link reached hlost =>
    obtain ⟨found, hlink, hlost⟩ := Option.bind_eq_some_iff.mp hlost
    obtain ⟨lost, hat, hpair⟩ := Option.map_eq_some_iff.mp hlost
    cases hpair
    have hlinked := hsound.linked link hlink
    have hheard := h.1
    rw [HeardInEpoch, hlink, Option.bind_some, hat] at hheard
    -- The connection hangs up, or a record it sent was refused or not delivered.
    cases event with
    | hangUp delivers =>
      cases hat
      exact sound_lose h.2 hlinked.carried hlinked.marked hlinked.fresh hheard
    | receive message delivers =>
      simp only [lossAt] at hat
      split at hat
      next hphase =>
        have hmeets := receive_linked config delivers h.2 hlinked message
        split at hat
        next error stopped hreceived =>
          cases hat
          rw [Meets, hreceived] at hmeets
          refine sound_lose h.2 hmeets.1 hmeets.2.1 ?_ hheard
          rw [hphase]
          rintro ⟨⟩
        · cases hat
      · cases hat
    | tick | renew | deafen | connect | attach | receipt | complete => cases hat
  · exact sound_proceed hsound event h.2

/-- As long as every loss of a timed connection finds a frame in the epoch in
force, frames of two connections never stand in one stretch. -/
theorem lost_bridge_closes_coverage (config : MediaServerConfig) (sessionId : SessionId)
    (kind : ReservationKind) (credential : String) (epoch : Nat) (now : Instant)
    (events : List Event) (hdelivers : ∀ event ∈ events, ∀ position, event.delivers position = true)
    (hheard : Along (step config) (HeardInEpoch config)
      (reserved config sessionId kind credential epoch now) events) :
    ClosesCoverage
      ((reserved config sessionId kind credential epoch now).run config events).delivered := by
  have hreserved : Sound (reserved config sessionId kind credential epoch now) := by
    refine ⟨?_, nofun, fun _ => ⟨rfl, .inl (.inl rfl)⟩, nofun⟩
    intro before between after first second h
    simp [reserved] at h
  exact ((hheard.knowing hdelivers).kept sound_step hreserved).closes

/-! ## Two connections of a timed bridge -/

def exampleEpoch (captureEpoch : UInt64) : Event :=
  .receive (.timed 1 (.metadata (.epoch ⟨"bridge", "clock", captureEpoch⟩))) fun _ => true

/-- The first frame of an epoch, one sample long. -/
def exampleFrame (captureEpoch : UInt64) : Event :=
  .receive (.timed 1 (.frame .sample
    ⟨captureEpoch, 1, 0, 1, 0, 48000, 16000, 48000, .unknownClock, none⟩ [0, 0])) fun _ => true

def exampleConnect : List Event := [.connect ⟨"secret", some "bridge", .timed⟩, .attach]

/-- A connection is lost right after `last`, and the next one goes on in epoch 2. -/
def lostAfter (last : List Event) : List Event :=
  exampleConnect ++ [exampleEpoch 1, exampleFrame 1] ++ last ++ [.hangUp fun _ => true] ++
    exampleConnect ++ [exampleEpoch 2, exampleFrame 2]

def exampleRun (events : List Event) : MediaFeed :=
  (reserved .sample 1 (.timed "bridge") "secret" 0 0).run .sample events

theorem delivers_lostAfter {last : List Event}
    (h : ∀ event ∈ last, ∀ position, event.delivers position = true) :
    ∀ event ∈ lostAfter last, ∀ position, event.delivers position = true := by
  simp only [lostAfter, exampleConnect, forall_mem_append, forall_mem_cons]
  simpa [Event.delivers, exampleEpoch, exampleFrame] using h

theorem lost_bridge_closes_coverage_after_frame :
    (exampleRun (lostAfter [])).delivered.map Delivery.isFrame =
      [false, true, false, false, false, true] ∧
    ClosesCoverage (exampleRun (lostAfter [])).delivered := by
  refine ⟨by decide +kernel, lost_bridge_closes_coverage .sample 1 (.timed "bridge") "secret" 0 0
    (lostAfter []) (delivers_lostAfter nofun) (by decide +kernel)⟩

/-- An epoch without a frame hides the audio before it: the loss is not reported,
and the frames of both connections stand in one stretch. -/
theorem unheard_epoch_hides_the_loss :
    (∀ event ∈ lostAfter [exampleEpoch 2], ∀ position, event.delivers position = true) ∧
    ¬ ClosesCoverage (exampleRun (lostAfter [exampleEpoch 2])).delivered ∧
    (exampleRun (lostAfter [exampleEpoch 2])).delivered.all fun found =>
      match found.event with
      | .capture (.frame _) | .captureMetadata (.epoch _) => true
      | _ => false := by
  refine ⟨delivers_lostAfter (by simp [exampleEpoch, Event.delivers]), ?_, by decide +kernel⟩
  obtain ⟨first, heard, unheard, resumed, second, hrun, hheard, hsecond, hunheard, hresumed, hne⟩ :
      ∃ first heard unheard resumed second,
        (exampleRun (lostAfter [exampleEpoch 2])).delivered =
          [first, heard, unheard, resumed, second] ∧
        heard.isFrame = true ∧ second.isFrame = true ∧ unheard.isBreak = false ∧
        resumed.isBreak = false ∧ heard.origin ≠ second.origin :=
    ⟨_, _, _, _, _, rfl, rfl, rfl, rfl, rfl, by decide⟩
  intro hcloses
  obtain ⟨found, hfound, hbreak⟩ :=
    hcloses [first] [unheard, resumed] [] heard second hrun hheard hsecond hne
  simp only [mem_cons, not_mem_nil, or_false] at hfound
  rcases hfound with rfl | rfl
  · rw [hunheard] at hbreak
    cases hbreak
  · rw [hresumed] at hbreak
    cases hbreak

end MediaFeed

end ConversationRuntime
