import ConversationRuntime.Foundation.LengthPrefixed
import ConversationRuntime.Foundation.Runs

/-! # Reading commands off the control input

Every turn of the session loop starts a new read: it waits for room for the
replies and then reads one frame in pieces. When another branch of the loop is
taken first the read is dropped, and the next one starts with an empty buffer at
the place the stream has reached.
-/

namespace ConversationRuntime

open Foundation LengthPrefixed List

def maxClientFrameBytes : Nat := 512 * 1024

inductive FrameError where
  | invalidLength (length : Nat)
  | truncated
deriving DecidableEq

/-- How far the read of the current turn of the loop has come. -/
inductive FrameRead where
  /-- It waits for room for the replies. -/
  | room
  | header (filled : Bytes)
  | payload (length : Nat) (filled : Bytes)
deriving DecidableEq

/-- The bytes that only the read has. -/
def FrameRead.held : FrameRead → Bytes
  | .room => []
  | .header filled => filled
  | .payload length filled => beBytes 4 length ++ filled

structure ControlInput where
  /-- What the client has sent and nobody has read. -/
  stream : Bytes
  read : FrameRead
  /-- The payloads handed to command decoding. -/
  handed : List Bytes
  /-- Reading has ended, with an error or with the input. -/
  ended : Option (Except FrameError Unit)
deriving DecidableEq

namespace ControlInput

def start (sent : List Bytes) : ControlInput := ⟨sent.flatMap frame, .room, [], none⟩

def validateLength (length : Nat) : Except FrameError Unit :=
  if 1 ≤ length ∧ length ≤ maxClientFrameBytes then .ok () else .error (.invalidLength length)

/-- Some bytes arrive, at least one and at most as many as the buffer takes. -/
def fill (input : ControlInput) (count : Nat) : ControlInput :=
  match input.read with
  | .room => input
  | .header filled =>
    let taken := min (max 1 count) (4 - filled.length)
    let filled := filled ++ input.stream.take taken
    let reached := { input with stream := input.stream.drop taken }
    if filled.length = 4 then
      match validateLength (beValue filled) with
      | .error error => { reached with read := .header filled, ended := some (.error error) }
      | .ok () => { reached with read := .payload (beValue filled) [] }
    else { reached with read := .header filled }
  | .payload length filled =>
    let taken := min (max 1 count) (length - filled.length)
    let filled := filled ++ input.stream.take taken
    let reached := { input with stream := input.stream.drop taken }
    if filled.length = length then
      { reached with read := .room, handed := input.handed ++ [filled] }
    else { reached with read := .payload length filled }

/-- The read finds the input closed: between two frames that is its end. -/
def close (input : ControlInput) : ControlInput :=
  match input.read with
  | .room => input
  | .header [] => { input with ended := some (.ok ()) }
  | .header _ | .payload .. => { input with ended := some (.error .truncated) }

inductive Move where
  /-- There is room for the replies, or it was waited for long enough. -/
  | room
  | fill (count : Nat)
  | close
  /-- Another branch of the loop is taken. -/
  | interrupt
deriving DecidableEq

def step (input : ControlInput) (move : Move) : ControlInput :=
  if input.ended.isSome then input
  else match move with
    | .room => if input.read = .room then { input with read := .header [] } else input
    | .fill count => if input.stream = [] then input else input.fill count
    | .close => if input.stream = [] then input.close else input
    | .interrupt => { input with read := .room }

def run (sent : List Bytes) (moves : List Move) : ControlInput := moves.foldl step (start sent)

/-! ## Frames that arrive whole -/

/-- A frame the client may send. -/
def WellFormed (body : Bytes) : Prop := 1 ≤ body.length ∧ body.length ≤ maxClientFrameBytes

instance (body : Bytes) : Decidable (WellFormed body) := inferInstanceAs (Decidable (_ ∧ _))

/-- No read is dropped that has bytes of a frame. -/
def DropsNothing (input : ControlInput) (move : Move) : Prop :=
  move = .interrupt → input.read.held = []

instance (input : ControlInput) : DecidablePred input.DropsNothing :=
  fun _ => inferInstanceAs (Decidable (_ → _))

/-- Where the read stands in the frames that are still to come. -/
def Stands (stream : Bytes) (coming : List Bytes) : FrameRead → Prop
  | .room => stream = coming.flatMap frame
  | .header filled => filled.length < 4 ∧ filled ++ stream = coming.flatMap frame
  | .payload length filled => ∃ body later, coming = body :: later ∧ length = body.length ∧
      filled.length < length ∧ filled ++ stream = body ++ later.flatMap frame

structure Follows (sent : List Bytes) (input : ControlInput) : Prop where
  stands : ∃ coming, sent = input.handed ++ coming ∧ Stands input.stream coming input.read
  ended : ∀ outcome ∈ input.ended, outcome = .ok ()

variable {sent : List Bytes} {input : ControlInput}

/-- The bytes taken are the first ones of what was still to come. -/
theorem take_of_append_eq {filled stream whole rest : Bytes} {taken : Nat}
    (h : filled ++ stream = whole ++ rest)
    (hlength : (filled ++ stream.take taken).length = whole.length) :
    filled ++ stream.take taken = whole ∧ stream.drop taken = rest := by
  rw [← take_append_drop taken stream, ← append_assoc] at h
  exact append_inj h hlength

theorem length_filled_lt {filled stream : Bytes} {count length : Nat}
    (hfilled : filled.length < length)
    (hne : (filled ++ stream.take (min (max 1 count) (length - filled.length))).length ≠ length) :
    (filled ++ stream.take (min (max 1 count) (length - filled.length))).length < length := by
  simp only [length_append, length_take] at hne ⊢
  omega

theorem follows_fill (hsent : ∀ body ∈ sent, WellFormed body) (h : Follows sent input)
    (hstream : input.stream ≠ []) (count : Nat) : Follows sent (input.fill count) := by
  obtain ⟨⟨coming, hcoming, hstands⟩, hended⟩ := h
  cases hread : input.read with
  | room =>
    simp only [fill, hread]
    exact ⟨⟨coming, hcoming, hstands⟩, hended⟩
  | header filled =>
    rw [hread] at hstands
    obtain ⟨hfilled, hstands⟩ := hstands
    simp only [fill, hread]
    split
    next hfull =>
      -- The header of the next frame is complete.
      cases coming with
      | nil => simp_all
      | cons body later =>
        rw [flatMap_cons, frame, append_assoc] at hstands
        obtain ⟨hheader, hrest⟩ := take_of_append_eq hstands (by rw [hfull, length_beBytes])
        have hbody : WellFormed body := hsent body (by rw [hcoming]; simp)
        have hvalue : beValue (beBytes 4 body.length) = body.length := by
          apply beValue_beBytes_of_lt
          have := hbody.2
          simp only [maxClientFrameBytes] at this
          omega
        rw [hheader, hvalue, validateLength, if_pos (show 1 ≤ body.length ∧ _ from hbody)]
        refine ⟨⟨body :: later, hcoming, body, later, rfl, rfl, hbody.1, ?_⟩, hended⟩
        exact hrest
    next hpart =>
      refine ⟨⟨coming, hcoming, length_filled_lt hfilled hpart, ?_⟩, hended⟩
      rw [append_assoc, take_append_drop]
      exact hstands
  | payload length filled =>
    rw [hread] at hstands
    obtain ⟨body, later, rfl, rfl, hfilled, hstands⟩ := hstands
    simp only [fill, hread]
    split
    next hfull =>
      obtain ⟨hpayload, hrest⟩ := take_of_append_eq hstands hfull
      refine ⟨⟨later, ?_, hrest⟩, hended⟩
      rw [hpayload, hcoming, append_cons]
    next hpart =>
      refine ⟨⟨body :: later, hcoming, body, later, rfl, rfl, length_filled_lt hfilled hpart, ?_⟩,
        hended⟩
      rw [append_assoc, take_append_drop]
      exact hstands

theorem follows_close (h : Follows sent input) (hstream : input.stream = []) :
    Follows sent input.close := by
  obtain ⟨⟨coming, hcoming, hstands⟩, hended⟩ := h
  rw [hstream] at hstands
  unfold close
  split
  · exact ⟨⟨coming, hcoming, by rw [hstream]; exact hstands⟩, hended⟩
  next hread =>
    refine ⟨⟨coming, hcoming, by rw [hstream]; exact hstands⟩, ?_⟩
    simp
  next filled hne hread =>
    -- Less than a header is left, so no frame is to come and nothing was read.
    rw [hread] at hstands
    obtain ⟨hfilled, hstands⟩ := hstands
    rw [append_nil] at hstands
    cases coming with
    | nil => exact absurd hstands hne
    | cons body later =>
      rw [hstands, flatMap_cons, length_append, length_frame] at hfilled
      omega
  next length filled hread =>
    rw [hread] at hstands
    obtain ⟨body, later, rfl, rfl, hfilled, hstands⟩ := hstands
    rw [append_nil] at hstands
    rw [hstands, length_append] at hfilled
    omega

theorem follows_step (hsent : ∀ body ∈ sent, WellFormed body) (input : ControlInput) (move : Move)
    (hdrops : input.DropsNothing move) (h : Follows sent input) :
    Follows sent (input.step move) := by
  unfold step
  split
  · exact h
  · cases move with
    | room =>
      dsimp only
      split
      next hread =>
        obtain ⟨⟨coming, hcoming, hstands⟩, hended⟩ := h
        rw [hread] at hstands
        exact ⟨⟨coming, hcoming, Nat.zero_lt_succ 3, hstands⟩, hended⟩
      · exact h
    | fill count =>
      dsimp only
      split
      · exact h
      next hstream => exact follows_fill hsent h hstream count
    | close =>
      dsimp only
      split
      next hstream => exact follows_close h hstream
      · exact h
    | interrupt =>
      obtain ⟨⟨coming, hcoming, hstands⟩, hended⟩ := h
      have hheld := hdrops rfl
      refine ⟨⟨coming, hcoming, ?_⟩, hended⟩
      cases hread : input.read with
      | room => exact hread ▸ hstands
      | header filled =>
        rw [hread] at hheld hstands
        rw [show filled = [] from hheld] at hstands
        exact hstands.2
      | payload length filled =>
        rw [hread] at hheld
        simpa [FrameRead.held] using congrArg List.length hheld

theorem follows_start (sent : List Bytes) : Follows sent (start sent) :=
  ⟨⟨sent, rfl, rfl⟩, by simp [start]⟩

/-- As long as no read with bytes of a frame is dropped, the payloads handed on
are those sent, in order, none is left out once everything is read, and no error
is reported. -/
theorem commands_survive_interruptions (sent : List Bytes)
    (hsent : ∀ body ∈ sent, WellFormed body) (moves : List Move)
    (hdrops : Along step DropsNothing (start sent) moves) :
    (run sent moves).handed <+: sent ∧
    ((run sent moves).stream = [] → (run sent moves).read.held = [] →
      (run sent moves).handed = sent) ∧
    ∀ error, (run sent moves).ended ≠ some (.error error) := by
  have h : Follows sent (run sent moves) := hdrops.kept (follows_step hsent) (follows_start sent)
  obtain ⟨⟨coming, hcoming, hstands⟩, hended⟩ := h
  refine ⟨⟨coming, hcoming.symm⟩, fun hstream hheld => ?_, fun error herror => ?_⟩
  · have hnone : coming.flatMap frame = [] := by
      rw [hstream] at hstands
      cases hread : (run sent moves).read with
      | room =>
        rw [hread] at hstands
        exact hstands.symm
      | header filled =>
        rw [hread] at hheld hstands
        rw [← hstands.2, append_nil]
        exact hheld
      | payload length filled =>
        rw [hread] at hheld
        simpa [FrameRead.held] using congrArg List.length hheld
    cases coming with
    | nil => exact (hcoming.trans (append_nil _)).symm
    | cons body later => simpa using congrArg length hnone
  · cases hended _ herror

theorem commands_survive_interruptions_between_frames :
    (run [[7], [8]] [.interrupt, .room, .fill 3, .fill 9, .fill 1, .interrupt, .room, .fill 4,
      .fill 1, .room, .close]).handed = [[7], [8]] ∧
    ∀ error, (run [[7], [8]] [.interrupt, .room, .fill 3, .fill 9, .fill 1, .interrupt, .room,
      .fill 4, .fill 1, .room, .close]).ended ≠ some (.error error) :=
  ⟨by decide +kernel,
    (commands_survive_interruptions _ (by decide) _ (by decide +kernel)).2.2⟩

/-- A branch taken in the middle of a header loses its first bytes: the rest is
read as the header of a frame that nobody sent. -/
theorem interrupted_header_is_lost :
    (∀ body ∈ [[7], [8]], WellFormed body) ∧
    (run [[7], [8]] [.room, .fill 2, .interrupt, .room, .fill 4, .fill 9, .close]).handed = [] ∧
    (run [[7], [8]] [.room, .fill 2, .interrupt, .room, .fill 4, .fill 9, .close]).stream = [] ∧
    (run [[7], [8]] [.room, .fill 2, .interrupt, .room, .fill 4, .fill 9, .close]).ended =
      some (.error .truncated) := by
  decide +kernel

end ControlInput

end ConversationRuntime
