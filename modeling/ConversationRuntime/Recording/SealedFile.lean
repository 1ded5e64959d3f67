import ConversationRuntime.Foundation.Fallible
import ConversationRuntime.Foundation.LengthPrefixed
import ConversationRuntime.Recording.Format

/-! # The sealed file

A recorder writes its file chunk by chunk: each record is sealed under the next
counter and written behind its length. The state here is the part of the
recorder that this touches, together with what the surroundings have seen of
it: the bytes in the file, every call of the cipher, and how often the
surroundings were asked. Each question to them is answered by `Environment` at
the running tick, so a quantification over environments covers every behaviour
of the clock, the cipher and the sink.
-/

namespace ConversationRuntime

open Foundation IdealAead LengthPrefixed List

/-- The surroundings of one recorder. A write answers `some kept` when it fails
after leaving `kept` bytes of what it was given. -/
structure Environment where
  key : RecordingKey
  sha256 : Bytes → Bytes
  length_sha256 : ∀ bytes, (sha256 bytes).length = 32
  directory : String
  millis : Nat → Nat
  sealFails : Nat → Bool
  writeAnswer : Nat → Option Nat
  flushFails : Nat → Bool
  syncFails : Nat → Bool
  readFails : Nat → Bool
  freeDiskBytes : Nat → Option Nat

namespace Environment

/-- The clock at a tick, saturated as the source converts it. -/
def clockMs (env : Environment) (tick : Nat) : UInt64 :=
  UInt64.ofNat (min (env.millis tick) u64Max)

/-- The seal, a write or a flush fails at this tick. -/
def faultAt (env : Environment) (tick : Nat) : Bool :=
  env.sealFails tick || (env.writeAnswer tick).isSome || env.flushFails tick

/-- Surroundings in which nothing fails and the clock counts the questions. -/
def calm : Environment where
  key := .sample
  sha256 := fun bytes => (bytes ++ List.replicate 32 0).take 32
  length_sha256 := length_padded
  directory := "/recordings"
  millis := id
  sealFails := fun _ => false
  writeAnswer := fun _ => none
  flushFails := fun _ => false
  syncFails := fun _ => false
  readFails := fun _ => false
  freeDiskBytes := fun _ => none

end Environment

structure SealedFile where
  counter : Nat
  /-- The bytes hashed into the running digest. -/
  sealedBytes : Bytes
  writtenBytes : Nat
  capabilityPoisoned : Bool
  /-- The bytes in the file. -/
  content : Bytes
  /-- Every call of the sealing function, in order. -/
  seals : List SealCall
  /-- How often the environment has been asked. -/
  tick : Nat
deriving DecidableEq

namespace SealedFile

open Fallible

abbrev Writing := Fallible SealedFile RuntimeError

/-- The file with its header written and nothing sealed. -/
def start (header : Bytes) : SealedFile := ⟨0, header, header.length, false, header, [], 0⟩

variable (env : Environment)

/-- Put a question to the surroundings at the running tick. -/
def ask {α : Type} (question : Nat → α) : Writing α := fun file =>
  (.ok (question file.tick), { file with tick := file.tick + 1 })

/-- Write to the sink; whatever arrived stays in the file. -/
def sinkWrite (bytes : Bytes) : Writing Bool := do
  let answer ← ask env.writeAnswer
  update fun file => { file with content := file.content ++ bytes.take (answer.getD bytes.length) }
  return answer.isNone

def sinkFlush : Writing Bool := do
  let fails ← ask env.flushFails
  return !fails

/-- Seal one record; the call is logged whether or not it succeeds. -/
def sealRecord (nonce aad plaintext : Bytes) : Writing Bytes := do
  let fails ← ask env.sealFails
  let ciphertext := env.key.sealed nonce aad plaintext
  update fun file => { file with
    seals := file.seals ++ [⟨nonce, aad, plaintext, if fails then none else some ciphertext⟩] }
  require (fails = false) (adapterError "recording chunk could not be encrypted")
  return ciphertext

/-- The length prefix, the ciphertext and a flush, each only after the last. -/
def writeChunk (ciphertext : Bytes) : Writing Bool := do
  if ← sinkWrite env (beBytes 4 ciphertext.length) then
    if ← sinkWrite env ciphertext then sinkFlush env else return false
  else return false

/-- Seal a record and write it. The file counts as poisoned until all of it
succeeded; the counter advances before the seal and is never taken back. -/
def append (header record : Bytes) : Writing Unit := do
  let before ← read
  update fun file => { file with capabilityPoisoned := true }
  require (before.counter < u32Max) (adapterError "recording exceeded its chunk limit")
  update fun file => { file with counter := file.counter + 1 }
  let ciphertext ← sealRecord env (nonce header before.counter) (aad header before.counter) record
  require (ciphertext.length ≤ maxChunkCiphertextBytes)
    (adapterError "recording chunk exceeded its size limit")
  let written ← writeChunk env ciphertext
  require (written = true) (adapterError "recording chunk could not be written")
  update fun file => { file with
    sealedBytes := file.sealedBytes ++ frame ciphertext
    writtenBytes := saturatingAdd (saturatingAdd file.writtenBytes 4) ciphertext.length
    capabilityPoisoned := before.capabilityPoisoned }

/-! ## What appending does -/

variable (header record : Bytes) (file : SealedFile)

/-- The ciphertext of the next chunk when it carries `record`. -/
def sealedRecord : Bytes :=
  env.key.sealed (nonce header file.counter) (aad header file.counter) record

/-- The next sealing call, with what it produced. -/
def sealCall (ciphertext : Option Bytes) : SealCall :=
  ⟨nonce header file.counter, aad header file.counter, record, ciphertext⟩

/-- The file after a seal that was followed by a failure. -/
def afterFailure (ciphertext : Option Bytes) (torn : Bytes) (ticks : Nat) : SealedFile :=
  { file with
    capabilityPoisoned := true
    counter := file.counter + 1
    seals := file.seals ++ [file.sealCall header record ciphertext]
    content := file.content ++ torn
    tick := file.tick + ticks }

/-- The file after a record was sealed and written whole. -/
def afterAppend : SealedFile :=
  { file with
    counter := file.counter + 1
    seals :=
      file.seals ++ [file.sealCall header record (some (file.sealedRecord env header record))]
    content := file.content ++ frame (file.sealedRecord env header record)
    sealedBytes := file.sealedBytes ++ frame (file.sealedRecord env header record)
    writtenBytes := saturatingAdd (saturatingAdd file.writtenBytes 4)
      (file.sealedRecord env header record).length
    tick := file.tick + 4 }

/-- How appending `record` can fail. A failure after the seal leaves a prefix
of the chunk in the file, and has a cause in the surroundings or in the size. -/
inductive AppendFailure : RuntimeError → SealedFile → Prop
  | exhausted (hcounter : u32Max ≤ file.counter) :
      AppendFailure (adapterError "recording exceeded its chunk limit")
        { file with capabilityPoisoned := true }
  | failed (error : RuntimeError) (ciphertext : Option Bytes) (kept ticks : Nat)
      (hcounter : file.counter < u32Max) (hkind : error.kind = .adapter)
      (hciphertext : ∀ sealed ∈ ciphertext, sealed = file.sealedRecord env header record)
      (hcause : maxChunkCiphertextBytes < record.length + 16 ∨
        ∃ tick, file.tick ≤ tick ∧ tick < file.tick + ticks ∧ env.faultAt tick = true) :
      AppendFailure error
        (file.afterFailure header record ciphertext ((ciphertext.elim [] frame).take kept) ticks)

theorem length_sealedRecord : (file.sealedRecord env header record).length = record.length + 16 :=
  env.key.length_sealed _ _ _

theorem sinkWrite_apply (bytes : Bytes) : sinkWrite env bytes file =
    (.ok (env.writeAnswer file.tick).isNone, { file with
      content := file.content ++ bytes.take ((env.writeAnswer file.tick).getD bytes.length)
      tick := file.tick + 1 }) := rfl

theorem sinkFlush_apply : sinkFlush env file =
    (.ok (!env.flushFails file.tick), { file with tick := file.tick + 1 }) := rfl

theorem sealRecord_apply (nonce aad plaintext : Bytes) : sealRecord env nonce aad plaintext file =
    (if env.sealFails file.tick then
        .error (adapterError "recording chunk could not be encrypted")
      else .ok (env.key.sealed nonce aad plaintext),
      { file with
        seals := file.seals ++ [⟨nonce, aad, plaintext,
          if env.sealFails file.tick then none else some (env.key.sealed nonce aad plaintext)⟩]
        tick := file.tick + 1 }) := by
  cases hfails : env.sealFails file.tick with
  | true => simp [sealRecord, bind_apply, ask, update, require, hfails]
  | false => simp [sealRecord, bind_apply, ask, update, require, hfails, pure_apply]

/-- What is kept of a frame's prefix, or of its prefix and part of its body, is
a prefix of the frame. -/
theorem take_prefix_frame (ciphertext : Bytes) (kept : Nat) :
    (beBytes 4 ciphertext.length).take kept = (frame ciphertext).take (min kept 4) ∧
      beBytes 4 ciphertext.length ++ ciphertext.take kept = (frame ciphertext).take (4 + kept) := by
  have hwhole : (beBytes 4 ciphertext.length).take (4 + kept) = beBytes 4 ciphertext.length :=
    take_of_length_le (by rw [length_beBytes]; omega)
  constructor
  · rw [frame, take_append_of_le_length (by rw [length_beBytes]; omega),
      take_eq_take_iff, length_beBytes]
    omega
  · rw [frame, take_append, length_beBytes, Nat.add_sub_cancel_left, hwhole]

/-- Writing a chunk leaves a prefix of its frame, and all of it on success. -/
theorem writeChunk_apply (ciphertext : Bytes) : ∃ written kept ticks,
    writeChunk env ciphertext file = (.ok written, { file with
      content := file.content ++ (frame ciphertext).take kept
      tick := file.tick + ticks }) ∧
    (written = true → (frame ciphertext).take kept = frame ciphertext ∧ ticks = 3) ∧
    (written = false → ∃ tick, file.tick ≤ tick ∧ tick < file.tick + ticks ∧
      env.faultAt tick = true) := by
  unfold writeChunk
  rw [bind_of_ok (sinkWrite_apply env file (beBytes 4 ciphertext.length))]
  cases hfirst : env.writeAnswer file.tick with
  | some kept =>
    refine ⟨false, min kept 4, 1, ?_, by simp, fun _ => ⟨file.tick, le_rfl, by omega, ?_⟩⟩
    · rw [← (take_prefix_frame ciphertext kept).1]
      rfl
    · simp [Environment.faultAt, hfirst]
  | none =>
    have hwhole : (beBytes 4 ciphertext.length).take 4 = beBytes 4 ciphertext.length :=
      take_of_length_le (by simp)
    simp only [Option.isNone_none, if_true, Option.getD_none, length_beBytes, hwhole]
    rw [bind_of_ok (sinkWrite_apply env _ ciphertext)]
    cases hsecond : env.writeAnswer (file.tick + 1) with
    | some kept =>
      refine ⟨false, 4 + kept, 2, ?_, by simp, fun _ => ⟨file.tick + 1, by omega, by omega, ?_⟩⟩
      · rw [← (take_prefix_frame ciphertext kept).2, ← append_assoc]
        rfl
      · simp [Environment.faultAt, hsecond]
    | none =>
      have hall : ciphertext.take ciphertext.length = ciphertext := take_length
      simp only [Option.isNone_none, if_true, Option.getD_none, hall]
      rw [sinkFlush_apply]
      refine ⟨!env.flushFails (file.tick + 2), (frame ciphertext).length, 3, ?_, ?_, ?_⟩
      · rw [take_length, frame, ← append_assoc]
      · exact fun _ => ⟨take_length, rfl⟩
      · intro hfails
        refine ⟨file.tick + 2, by omega, by omega, ?_⟩
        simpa [Environment.faultAt] using Or.inr hfails

/-- Appending fails in one of the listed ways, or the record is in the file. -/
theorem append_meets : Meets (append env header record) file (Ends (fun _ reached =>
    reached = file.afterAppend env header record ∧ file.counter < u32Max ∧
      record.length + 16 ≤ maxChunkCiphertextBytes) (AppendFailure env header record file)) := by
  refine .of_read (.of_update (.of_require (fun hcounter => .of_update ?_)
    fun hcounter => .exhausted (Nat.le_of_not_lt hcounter)))
  have hseal := sealRecord_apply env
    { file with capabilityPoisoned := true, counter := file.counter + 1 }
    (nonce header file.counter) (aad header file.counter) record
  cases hfails : env.sealFails file.tick with
  | true =>
    simp only [hfails, if_true] at hseal
    refine .of_error_bind hseal ?_
    have hfailed : AppendFailure env header record file _ _ := .failed
      (adapterError "recording chunk could not be encrypted") none 0 1 hcounter rfl (by simp)
      (.inr ⟨file.tick, le_rfl, by omega, by simp [Environment.faultAt, hfails]⟩)
    simpa [Ends, afterFailure, sealCall] using hfailed
  | false =>
    simp only [hfails, Bool.false_eq_true, if_false] at hseal
    refine .of_ok_bind hseal (.of_require (fun hsize => ?_) fun hsize => ?_)
    all_goals rw [env.key.length_sealed] at hsize
    · obtain ⟨written, kept, ticks, hwrite, hwhole, hfault⟩ := writeChunk_apply env _
        (file.sealedRecord env header record)
      refine .of_ok_bind hwrite (.of_require (fun hwritten => ?_) fun hwritten => ?_)
      · obtain ⟨hframe, rfl⟩ := hwhole hwritten
        refine ⟨?_, hcounter, hsize⟩
        simp only [afterAppend, hframe, Nat.add_assoc]
        rfl
      · obtain ⟨tick, hlower, hupper, htick⟩ := hfault (Bool.eq_false_iff.mpr hwritten)
        dsimp only at hlower hupper
        have hfailed : AppendFailure env header record file _ _ := .failed
          (adapterError "recording chunk could not be written")
          (some (file.sealedRecord env header record)) kept (1 + ticks) hcounter rfl (by simp)
          (.inr ⟨tick, by omega, by omega, htick⟩)
        rwa [afterFailure, ← Nat.add_assoc] at hfailed
    · have hfailed : AppendFailure env header record file _ _ := .failed
        (adapterError "recording chunk exceeded its size limit")
        (some (file.sealedRecord env header record)) 0 1 hcounter rfl (by simp)
        (.inl (Nat.lt_of_not_le hsize))
      simpa [Ends, afterFailure, sealCall, sealedRecord] using hfailed

end SealedFile

end ConversationRuntime
