import ConversationRuntime.Foundation.Fallible
import ConversationRuntime.Foundation.LengthPrefixed
import ConversationRuntime.Recording.Format

/-! # Reading a recording

The reader walks the chunks of a file, opening each under the counter of its
position. A partial trailing chunk ends the walk and is reported as a tear; a
whole chunk that does not open is an error. The cipher is ideal: it opens what
one of the logged calls sealed under the same nonce and data, and nothing else.
-/

namespace ConversationRuntime

open Foundation IdealAead LengthPrefixed List Nat

structure RecordedChunks where
  header : Bytes
  /-- What is left of the file behind the cursor. -/
  rest : Bytes
  counter : Nat
  truncated : Bool
  finished : Bool
  /-- Whether a gap record must have exactly its stated length. -/
  strict : Bool
deriving DecidableEq

/-- A decrypted record must fit the layout of its file before it is decoded. -/
def checkRecord (timed strict : Bool) (record : Bytes) : Except RuntimeError RecordedChunk := do
  let kind ← orError recoveryError record.head?
  if (timed ∧ kind = chunkFrame) ∨ (¬ timed ∧ chunkPolicy ≤ kind) then throw recoveryError
  if strict ∧ kind = chunkGapStarted ∧
      (record.length < 10 ∨ record.length ≠ 10 + (record.getD 9 0).toNat) then
    throw recoveryError
  decodeChunk record

namespace RecordedChunks

/-- A cursor at the first chunk of a file. -/
def start (content : Bytes) (strict : Bool) : RecordedChunks :=
  ⟨content.take headerLen, content.drop headerLen, 0, false, false, strict⟩

variable (calls : List SealCall)

/-- Open and decode the chunk that stands at `counter` behind a header. -/
def openChunk (header : Bytes) (strict : Bool) (counter : Nat) (ciphertext : Bytes) :
    Except RuntimeError RecordedChunk := do
  let record ← orError (adapterError "recording chunk could not be decrypted")
    (openWith calls (nonce header counter) (aad header counter) ciphertext)
  let chunk ← checkRecord (isTimedHeader header) strict record
  if u32Max ≤ counter then throw (adapterError "recording exceeded its chunk limit")
  return chunk

variable {chunk : RecordedChunk} {reader reached : RecordedChunks}

theorem openChunk_eq_ok {header : Bytes} {strict : Bool} {counter : Nat} {ciphertext : Bytes} :
    openChunk calls header strict counter ciphertext = .ok chunk ↔
      ∃ record, openWith calls (nonce header counter) (aad header counter) ciphertext =
        some record ∧
        checkRecord (isTimedHeader header) strict record = .ok chunk ∧ counter < u32Max := by
  unfold openChunk
  cases openWith calls (nonce header counter) (aad header counter) ciphertext with
  | none => simp [orError, bind, Except.bind]
  | some record =>
    cases hcheck : checkRecord (isTimedHeader header) strict record with
    | error error => simp [bind, Except.bind, hcheck]
    | ok found =>
      by_cases hcounter : u32Max ≤ counter
      · simp [bind, Except.bind, hcheck, hcounter, throw, throwThe, MonadExceptOf.throw]
      · simp [bind, Except.bind, hcheck, hcounter, pure, Except.pure, Nat.lt_of_not_le hcounter]

/-- What the reader answers to what it found at its cursor. -/
def answer (reader : RecordedChunks) :
    Found → Except RuntimeError (Option RecordedChunk) × RecordedChunks
  | .finished => (.ok none, { reader with finished := true })
  | .torn => (.ok none, { reader with finished := true, truncated := true, rest := [] })
  | .oversized => (.error (adapterError "recording chunk exceeded its size limit"),
      { reader with rest := reader.rest.drop 4 })
  | .body ciphertext rest =>
    match openChunk calls reader.header reader.strict reader.counter ciphertext with
    | .error error => (.error error, { reader with rest := rest })
    | .ok chunk => (.ok (some chunk), { reader with rest := rest, counter := reader.counter + 1 })

/-- The next whole chunk, or nothing at the end of the recording. -/
def nextChunk : Fallible RecordedChunks RuntimeError (Option RecordedChunk) := fun reader =>
  if reader.finished then (.ok none, reader)
  else reader.answer calls (next maxChunkCiphertextBytes reader.rest)

/-- What a whole walk of the cursor yields: the chunks, then the error that
stopped it or whether it ended in a tear. A consumer that stops early has seen
the same chunks. -/
structure Readout where
  chunks : List RecordedChunk
  ending : Except RuntimeError Bool

/-- Put a chunk in front of what the rest of the walk yields. -/
def Readout.cons (chunk : RecordedChunk) (readout : Readout) : Readout :=
  { readout with chunks := chunk :: readout.chunks }

/-- Put chunks in front of what the rest of the walk yields. -/
def Readout.prepend (chunks : List RecordedChunk) (readout : Readout) : Readout :=
  { readout with chunks := chunks ++ readout.chunks }

/-- Call `nextChunk` until it answers nothing or fails, at most `fuel` times. -/
def readUpTo : Nat → RecordedChunks → Readout
  | 0, reader => ⟨[], .ok reader.truncated⟩
  | fuel + 1, reader =>
    match nextChunk calls reader with
    | (.error error, _) => ⟨[], .error error⟩
    | (.ok none, reached) => ⟨[], .ok reached.truncated⟩
    | (.ok (some chunk), reached) => (readUpTo fuel reached).cons chunk

/-- The whole walk: each chunk takes at least its length prefix, so this many
calls always reach the end. -/
def readout (reader : RecordedChunks) : Readout := readUpTo calls (reader.rest.length + 1) reader

/-! ## The walk, chunk by chunk -/

/-- A chunk leaves less of the file behind the cursor. -/
theorem nextChunk_shorter (hnext : nextChunk calls reader = (.ok (some chunk), reached)) :
    reached.rest.length < reader.rest.length := by
  unfold nextChunk at hnext
  split at hnext
  · cases hnext
  · cases hfound : next maxChunkCiphertextBytes reader.rest with
    | finished | torn | oversized =>
      rw [hfound] at hnext
      cases hnext
    | body ciphertext rest =>
      rw [hfound, answer] at hnext
      split at hnext
      · cases hnext
      · cases hnext
        exact length_rest_lt hfound

/-- More calls than needed change nothing. -/
theorem readUpTo_eq {first second : Nat} (hfirst : reader.rest.length < first)
    (hsecond : reader.rest.length < second) :
    readUpTo calls first reader = readUpTo calls second reader := by
  induction first generalizing second reader with
  | zero => omega
  | succ first ih =>
    cases second with
    | zero => omega
    | succ second =>
      rw [readUpTo, readUpTo]
      split
      · rfl
      · rfl
      next chunk reached hnext =>
        have hshorter := nextChunk_shorter calls hnext
        rw [ih (by omega) (by omega : reached.rest.length < second)]

theorem readout_of_error {error : RuntimeError}
    (hnext : nextChunk calls reader = (.error error, reached)) :
    readout calls reader = ⟨[], .error error⟩ := by
  rw [readout, readUpTo, hnext]

theorem readout_of_none (hnext : nextChunk calls reader = (.ok none, reached)) :
    readout calls reader = ⟨[], .ok reached.truncated⟩ := by
  rw [readout, readUpTo, hnext]

theorem readout_of_chunk (hnext : nextChunk calls reader = (.ok (some chunk), reached)) :
    readout calls reader = (readout calls reached).cons chunk := by
  have hshorter := nextChunk_shorter calls hnext
  rw [readout, readUpTo, hnext]
  change (readUpTo calls reader.rest.length reached).cons chunk = _
  rw [readout, readUpTo_eq calls hshorter (lt_succ_self _)]

/-- The cursor of a file at some chunk. -/
def cursor (header : Bytes) (strict : Bool) (counter : Nat) (rest : Bytes) : RecordedChunks :=
  ⟨header, rest, counter, false, false, strict⟩

/-- A file behind a header is read from its first chunk. -/
theorem start_header (identity : RecordingIdentity) (stream : Bytes) (strict : Bool) :
    start (identity.header ++ stream) strict = cursor identity.header strict 0 stream := by
  rw [start, take_left' identity.length_header, drop_left' identity.length_header, cursor]

section Cursor

variable (header : Bytes) (strict : Bool)

/-- Bodies that open, from a counter on, to the given chunks. -/
structure OpensAll (counter : Nat) (bodies : List Bytes) (chunks : List RecordedChunk) : Prop where
  length_eq : bodies.length = chunks.length
  opens : ∀ {index body chunk}, bodies[index]? = some body → chunks[index]? = some chunk →
    body.length ≤ maxChunkCiphertextBytes ∧
      openChunk calls header strict (counter + index) body = .ok chunk

theorem maxChunkCiphertextBytes_lt : maxChunkCiphertextBytes < 256 ^ 4 := by
  norm_num [maxChunkCiphertextBytes]

theorem nextChunk_cursor (counter : Nat) (stream : Bytes) :
    nextChunk calls (cursor header strict counter stream) =
      answer calls (cursor header strict counter stream) (next maxChunkCiphertextBytes stream) := by
  have hopen : ¬ (cursor header strict counter stream).finished = true := Bool.false_ne_true
  have hrest : (cursor header strict counter stream).rest = stream := rfl
  rw [nextChunk, if_neg hopen, hrest]

variable {counter : Nat} {body rest : Bytes} {bodies : List Bytes} {chunks : List RecordedChunk}

/-- At a whole chunk the answer is the one to its body. -/
theorem nextChunk_frame (hlength : body.length ≤ maxChunkCiphertextBytes) :
    nextChunk calls (cursor header strict counter (frame body ++ rest)) =
      answer calls (cursor header strict counter (frame body ++ rest)) (.body body rest) := by
  rw [nextChunk_cursor, next_frame_append maxChunkCiphertextBytes_lt hlength]

variable {chunk : RecordedChunk} {stream : Bytes}

theorem answer_of_open (hopen : openChunk calls header strict counter body = .ok chunk) :
    answer calls (cursor header strict counter stream) (.body body rest) =
      (.ok (some chunk), cursor header strict (counter + 1) rest) := by
  simp only [answer, cursor, hopen]

theorem answer_of_closed {error : RuntimeError}
    (hopen : openChunk calls header strict counter body = .error error) :
    answer calls (cursor header strict counter stream) (.body body rest) =
      (.error error, cursor header strict counter rest) := by
  simp only [answer, cursor, hopen]

variable {calls header strict}

theorem OpensAll.tail {counter : Nat} {body : Bytes} {bodies : List Bytes}
    {chunks : List RecordedChunk}
    (hopens : OpensAll calls header strict counter (body :: bodies) (chunk :: chunks)) :
    OpensAll calls header strict (counter + 1) bodies chunks where
  length_eq := succ.inj hopens.length_eq
  opens := by
    intro index body chunk hbody hchunk
    rw [add_right_comm]
    have hopen := hopens.opens (show (_ :: bodies)[index + 1]? = _ from hbody)
      (show (_ :: chunks)[index + 1]? = _ from hchunk)
    exact hopen

theorem OpensAll.cons (hopens : OpensAll calls header strict (counter + 1) bodies chunks)
    (hbody : body.length ≤ maxChunkCiphertextBytes ∧
      openChunk calls header strict counter body = .ok chunk) :
    OpensAll calls header strict counter (body :: bodies) (chunk :: chunks) where
  length_eq := congrArg succ hopens.length_eq
  opens := by
    intro index found expected hfound hexpected
    cases index with
    | zero =>
      cases hfound
      cases hexpected
      exact hbody
    | succ index =>
      rw [add_comm index, ← add_assoc]
      exact hopens.opens hfound hexpected

theorem OpensAll.take (hopens : OpensAll calls header strict counter bodies chunks) (count : Nat) :
    OpensAll calls header strict counter (bodies.take count) (chunks.take count) where
  length_eq := by rw [length_take, length_take, hopens.length_eq]
  opens := by
    intro index body chunk hbody hchunk
    rw [getElem?_take] at hbody hchunk
    split at hbody
    next hindex =>
      rw [if_pos hindex] at hchunk
      exact hopens.opens hbody hchunk
    next => cases hbody

variable (calls header strict)

/-- Whole chunks that open are yielded in order, and then the rest is read. -/
theorem readout_frames (rest : Bytes)
    (hopens : OpensAll calls header strict counter bodies chunks) :
    readout calls (cursor header strict counter (bodies.flatMap frame ++ rest)) =
      (readout calls (cursor header strict (counter + bodies.length) rest)).prepend chunks := by
  induction bodies generalizing chunks counter with
  | nil =>
    cases chunks with
    | nil => rfl
    | cons chunk chunks => exact absurd hopens.length_eq (by simp)
  | cons body bodies ih =>
    cases chunks with
    | nil => exact absurd hopens.length_eq (by simp)
    | cons chunk chunks =>
      obtain ⟨hlength, hopen⟩ := hopens.opens (show (body :: bodies)[0]? = _ from rfl)
        (show (chunk :: chunks)[0]? = _ from rfl)
      rw [add_zero] at hopen
      have hnext : nextChunk calls (cursor header strict counter
          (frame body ++ (bodies.flatMap frame ++ rest))) = (.ok (some chunk),
          cursor header strict (counter + 1) (bodies.flatMap frame ++ rest)) := by
        rw [nextChunk_frame calls header strict hlength, answer_of_open calls header strict hopen]
      rw [flatMap_cons, append_assoc, readout_of_chunk calls hnext, ih hopens.tail,
        add_assoc, add_comm 1]
      rfl

/-- A file that ends inside a chunk ends in a tear, and one that ends between
chunks does not. -/
theorem readout_torn {kept : Nat} (hlength : body.length ≤ maxChunkCiphertextBytes)
    (hkept : kept < (frame body).length) :
    readout calls (cursor header strict counter ((frame body).take kept)) =
      ⟨[], .ok (decide (kept ≠ 0))⟩ := by
  have htorn : next maxChunkCiphertextBytes ((frame body).take kept) =
      if kept = 0 then .finished else .torn :=
        next_take_frame maxChunkCiphertextBytes_lt hlength hkept
  by_cases hzero : kept = 0
  · rw [if_pos hzero] at htorn
    have hnext : nextChunk calls (cursor header strict counter ((frame body).take kept)) =
        (.ok none, { cursor header strict counter ((frame body).take kept) with
          finished := true }) := by
      rw [nextChunk_cursor, htorn]
      rfl
    rw [readout_of_none calls hnext]
    simp [cursor, hzero]
  · rw [if_neg hzero] at htorn
    have hnext : nextChunk calls (cursor header strict counter ((frame body).take kept)) =
        (.ok none,
          { cursor header strict counter [] with finished := true, truncated := true }) := by
      rw [nextChunk_cursor, htorn]
      rfl
    rw [readout_of_none calls hnext]
    simp [hzero]

theorem readout_nil : readout calls (cursor header strict counter []) = ⟨[], .ok false⟩ := rfl

/-- A whole chunk that does not open, or is too long, stops the walk with an error. -/
theorem readout_foreign (rest : Bytes) (hfits : body.length < 256 ^ 4)
    (hopen : ∀ chunk, openChunk calls header strict counter body ≠ .ok chunk) :
    ∃ error, readout calls (cursor header strict counter (frame body ++ rest)) =
      ⟨[], .error error⟩ := by
  by_cases hlength : body.length ≤ maxChunkCiphertextBytes
  · cases hresult : openChunk calls header strict counter body with
    | ok chunk => exact absurd hresult (hopen chunk)
    | error error =>
      have hnext : nextChunk calls (cursor header strict counter (frame body ++ rest)) =
          (.error error, cursor header strict counter rest) := by
        rw [nextChunk_frame calls header strict hlength,
          answer_of_closed calls header strict hresult]
      exact ⟨error, readout_of_error calls hnext⟩
  · have hnext : nextChunk calls (cursor header strict counter (frame body ++ rest)) =
        (.error (adapterError "recording chunk exceeded its size limit"),
          cursor header strict counter ((frame body ++ rest).drop 4)) := by
      rw [nextChunk_cursor, next_oversized hfits (Nat.lt_of_not_le hlength)]
      rfl
    exact ⟨_, readout_of_error calls hnext⟩

/-- Whatever the walk yields stood in the stream as whole chunks that open, and
nothing stands behind them when the walk ends without a tear. -/
theorem exists_frames_of_readout (counter : Nat) (stream : Bytes) : ∃ bodies rest,
    stream = bodies.flatMap frame ++ rest ∧
    OpensAll calls header strict counter bodies
      (readout calls (cursor header strict counter stream)).chunks ∧
    ((readout calls (cursor header strict counter stream)).ending = .ok false → rest = []) := by
  have hnone : OpensAll calls header strict counter [] [] := ⟨rfl, by simp⟩
  -- Each chunk leaves a shorter stream behind it.
  induction hlength : stream.length using Nat.strongRecOn generalizing counter stream with
  | ind length ih =>
    have hnext := nextChunk_cursor calls header strict counter stream
    cases hfound : next maxChunkCiphertextBytes stream with
    | finished =>
      rw [hfound] at hnext
      rw [readout_of_none calls hnext]
      exact ⟨[], stream, rfl, hnone, fun _ => eq_nil_of_next_finished hfound⟩
    | torn =>
      rw [hfound] at hnext
      rw [readout_of_none calls hnext]
      exact ⟨[], stream, rfl, hnone, nofun⟩
    | oversized =>
      rw [hfound] at hnext
      rw [readout_of_error calls hnext]
      exact ⟨[], stream, rfl, hnone, nofun⟩
    | body ciphertext rest =>
      rw [hfound] at hnext
      obtain ⟨hstream, hfits⟩ := eq_frame_append_of_next hfound
      cases hopen : openChunk calls header strict counter ciphertext with
      | error error =>
        rw [answer_of_closed calls header strict hopen] at hnext
        rw [readout_of_error calls hnext]
        exact ⟨[], stream, rfl, hnone, nofun⟩
      | ok chunk =>
        rw [answer_of_open calls header strict hopen] at hnext
        have hshorter : rest.length < length := hlength ▸ length_rest_lt hfound
        obtain ⟨bodies, left, hrest, hopens, hend⟩ := ih rest.length hshorter (counter + 1)
          rest ⟨rfl, by simp⟩ rfl
        rw [readout_of_chunk calls hnext]
        refine ⟨ciphertext :: bodies, left, ?_, ?_, hend⟩
        · rw [hstream, hrest, flatMap_cons, append_assoc]
        · exact hopens.cons ⟨hfits, hopen⟩

end Cursor

end RecordedChunks

end ConversationRuntime
