import ConversationRuntime.Foundation.Bytes

/-! # Streams of length-prefixed bodies

A body is written as its length in four big-endian bytes followed by the body.
Reading stops without an error at the end of the stream and inside a body that
the stream cuts short; the latter is a tear. A length above the limit is
refused before the body is looked at.
-/

namespace Foundation.LengthPrefixed

open List

/-- One body as it stands in the stream. -/
def frame (body : Bytes) : Bytes := beBytes 4 body.length ++ body

/-- What one read at the front of a stream finds. -/
inductive Found where
  | finished
  | torn
  | oversized
  | body (content rest : Bytes)
deriving DecidableEq

/-- Read one body, refusing lengths above `limit`. -/
def next (limit : Nat) (stream : Bytes) : Found :=
  if stream = [] then .finished
  else if stream.length < 4 then .torn
  else if limit < beValue (stream.take 4) then .oversized
  else if (stream.drop 4).length < beValue (stream.take 4) then .torn
  else .body ((stream.drop 4).take (beValue (stream.take 4)))
    ((stream.drop 4).drop (beValue (stream.take 4)))

@[simp] theorem length_frame (body : Bytes) : (frame body).length = 4 + body.length := by
  simp [frame]

/-- Four bytes are the prefix of their own value. -/
theorem beBytes_four_beValue {bytes : Bytes} (hlength : bytes.length = 4) :
    beBytes 4 (beValue bytes) = bytes := by
  match bytes, hlength with
  | [first, second, third, fourth], _ =>
    have h1 := first.toNat_lt
    have h2 := second.toNat_lt
    have h3 := third.toNat_lt
    have h4 := fourth.toNat_lt
    simp only [beBytes, beValue, length_cons, length_nil]
    refine cons_eq_cons.mpr ⟨?_, cons_eq_cons.mpr ⟨?_, cons_eq_cons.mpr
      ⟨?_, cons_eq_cons.mpr ⟨?_, rfl⟩⟩⟩⟩
    all_goals
      apply UInt8.toNat_inj.mp
      rw [UInt8.toNat_ofNat']
      omega

variable {limit : Nat}

theorem take_frame_append (body rest : Bytes) :
    (frame body ++ rest).take 4 = beBytes 4 body.length := by
  rw [frame, append_assoc, take_left' (by simp)]

theorem drop_frame_append (body rest : Bytes) : (frame body ++ rest).drop 4 = body ++ rest := by
  rw [frame, append_assoc, drop_left' (by simp)]

variable {body rest stream : Bytes}

theorem frame_append_ne_nil : frame body ++ rest ≠ [] := by
  intro hnil
  have hlength := congrArg length hnil
  simp at hlength

/-- A whole body within the limit is read back, and the rest is left over. -/
theorem next_frame_append (hlimit : limit < 256 ^ 4) (hbody : body.length ≤ limit) :
    next limit (frame body ++ rest) = .body body rest := by
  have hvalue : beValue (beBytes 4 body.length) = body.length := beValue_beBytes_of_lt (by omega)
  have hlength : 4 ≤ (frame body ++ rest).length := by simp; omega
  unfold next
  rw [take_frame_append, drop_frame_append, hvalue, if_neg frame_append_ne_nil, if_neg (by omega),
    if_neg (by omega), if_neg (by simp), take_left, drop_left]

/-- A length that fits its prefix but not the limit is refused. -/
theorem next_oversized (hfits : body.length < 256 ^ 4) (hlimit : limit < body.length) :
    next limit (frame body ++ rest) = .oversized := by
  have hlength : 4 ≤ (frame body ++ rest).length := by simp; omega
  unfold next
  rw [take_frame_append, beValue_beBytes_of_lt hfits, if_neg frame_append_ne_nil,
    if_neg (by omega), if_pos hlimit]

/-- A stream that ends inside its first body is torn, unless it is empty. -/
theorem next_take_frame {count : Nat} (hlimit : limit < 256 ^ 4) (hbody : body.length ≤ limit)
    (hcount : count < (frame body).length) :
    next limit ((frame body).take count) = if count = 0 then .finished else .torn := by
  rw [length_frame] at hcount
  unfold next
  by_cases hzero : count = 0
  · simp [hzero]
  · have hlength : ((frame body).take count).length = count := by simp; omega
    have hne : (frame body).take count ≠ [] := by
      intro hnil
      rw [hnil] at hlength
      exact hzero hlength.symm
    rw [if_neg hne, if_neg hzero, hlength]
    by_cases hprefix : count < 4
    · rw [if_pos hprefix]
    · have htake : ((frame body).take count).take 4 = beBytes 4 body.length := by
        rw [take_take, min_eq_left (by omega)]
        simpa using take_frame_append body []
      have hvalue : beValue (beBytes 4 body.length) = body.length :=
        beValue_beBytes_of_lt (by omega)
      rw [if_neg hprefix, htake, if_neg (by omega), if_pos (by simp; omega)]

/-- Only an empty stream is finished. -/
theorem eq_nil_of_next_finished (hnext : next limit stream = .finished) : stream = [] := by
  unfold next at hnext
  split at hnext
  next hnil => exact hnil
  split at hnext
  · cases hnext
  split at hnext
  · cases hnext
  split at hnext <;> cases hnext

/-- Whatever is read as a body stood in the stream as one. -/
theorem eq_frame_append_of_next {content : Bytes} (hnext : next limit stream = .body content rest) :
    stream = frame content ++ rest ∧ content.length ≤ limit := by
  unfold next at hnext
  split at hnext
  · cases hnext
  split at hnext
  · cases hnext
  split at hnext
  · cases hnext
  split at hnext
  · cases hnext
  rename_i hshort hover hcut
  injection hnext with hcontent hrest
  have hlength : content.length = beValue (stream.take 4) := by
    rw [← hcontent, length_take]
    omega
  refine ⟨?_, by omega⟩
  have hprefix : beBytes 4 content.length = stream.take 4 := by
    rw [hlength]
    exact beBytes_four_beValue (by simp; omega)
  have htail : content ++ rest = stream.drop 4 := by
    rw [← hcontent, ← hrest, take_append_drop]
  rw [frame, append_assoc, htail, hprefix, take_append_drop]

theorem length_rest_lt {content : Bytes} (hnext : next limit stream = .body content rest) :
    rest.length < stream.length := by
  rw [(eq_frame_append_of_next hnext).1, length_append, length_frame]
  omega

/-- Every cut of a stream of whole bodies falls between two bodies or strictly
inside the one behind those it keeps. -/
theorem take_flatMap_frame {bodies : List Bytes} {count : Nat}
    (hcount : count ≤ (bodies.flatMap frame).length) :
    count = (bodies.flatMap frame).length ∨
    ∃ index body kept, bodies[index]? = some body ∧ kept < (frame body).length ∧
      count = ((bodies.take index).flatMap frame).length + kept ∧
      (bodies.flatMap frame).take count =
        (bodies.take index).flatMap frame ++ (frame body).take kept := by
  induction bodies generalizing count with
  | nil => exact .inl (Nat.le_zero.mp hcount)
  | cons body bodies ih =>
    rw [flatMap_cons, length_append] at hcount
    by_cases hinside : count < (frame body).length
    · refine .inr ⟨0, body, count, rfl, hinside, by simp, ?_⟩
      rw [flatMap_cons, take_append_of_le_length hinside.le]
      rfl
    -- The first body is kept whole, so the cut falls among the later ones.
    obtain ⟨later, rfl⟩ := Nat.exists_eq_add_of_le (Nat.le_of_not_lt hinside)
    rcases ih (Nat.le_of_add_le_add_left hcount) with hall |
      ⟨index, cut, kept, hcut, hkept, hlater, htake⟩
    · left
      rw [flatMap_cons, length_append, hall]
    · refine .inr ⟨index + 1, cut, kept, hcut, hkept, ?_, ?_⟩
      · rw [take_succ_cons, flatMap_cons, length_append, hlater, Nat.add_assoc]
      · rw [flatMap_cons, take_length_add_append, htake, take_succ_cons, flatMap_cons, append_assoc]

end Foundation.LengthPrefixed
