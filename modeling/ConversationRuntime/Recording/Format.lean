import ConversationRuntime.Foundation.IdealAead
import ConversationRuntime.Recording.Chunk

/-! # The file header, nonces and capabilities

A recording starts with a plaintext header that names its layout, its session
and two random identifiers. The header and the chunk counter determine the
nonce and the associated data of every chunk. A finalized recording is
authorized by a tag over its identity and digest.
-/

namespace ConversationRuntime

open Foundation List

def headerLen : Nat := 48
def maxChunkCiphertextBytes : Nat := 128 * 1024
def maxFinalizedRecordingBytes : Nat := 8 * 1024 * 1024 * 1024
def aeadAes256Gcm : UInt8 := 1

/-- The eight ASCII codes of `CRSREC01`, the layout without a binding. -/
def supersededMagic : Bytes := [67, 82, 83, 82, 69, 67, 48, 49]

/-- The eight ASCII codes of `CRSREC02`. -/
def legacyMagic : Bytes := [67, 82, 83, 82, 69, 67, 48, 50]

/-- The eight ASCII codes of `CRSREC03`. -/
def timedMagic : Bytes := [67, 82, 83, 82, 69, 67, 48, 51]

/-- What one recording draws and is told at its start. -/
structure RecordingIdentity where
  sessionId : SessionId
  timed : Bool
  noncePrefix : Bytes
  binding : Bytes
  length_noncePrefix : noncePrefix.length = 8
  length_binding : binding.length = 16

namespace RecordingIdentity

def magic (identity : RecordingIdentity) : Bytes :=
  if identity.timed then timedMagic else legacyMagic

def header (identity : RecordingIdentity) : Bytes :=
  identity.magic ++ (aeadAes256Gcm :: 0 :: 0 :: 0 :: (u64Bytes identity.sessionId ++
    (identity.noncePrefix ++ (identity.binding ++ [0, 0, 0, 0]))))

/-- The handle is the hexadecimal spelling of the binding. -/
def handle (identity : RecordingIdentity) : String := lowercaseHex identity.binding

end RecordingIdentity

/-- An identity to evaluate the model with, of either layout. -/
def RecordingIdentity.sample (timed : Bool) : RecordingIdentity where
  sessionId := 7
  timed := timed
  noncePrefix := [1, 2, 3, 4, 5, 6, 7, 8]
  binding := [1, 2, 3, 4, 5, 6, 7, 8, 9, 10, 11, 12, 13, 14, 15, 16]
  length_noncePrefix := rfl
  length_binding := rfl

def nonce (header : Bytes) (counter : Nat) : Bytes := slice header 20 8 ++ beBytes 4 counter

def aad (header : Bytes) (counter : Nat) : Bytes := header ++ beBytes 4 counter

/-- Whether a header is that of a timed recording. -/
def isTimedHeader (header : Bytes) : Bool := slice header 0 8 == timedMagic

def readHeader (header : Bytes) : Except RuntimeError SessionId := do
  if slice header 0 8 = supersededMagic then
    throw (adapterError "recording uses a superseded header layout")
  if (slice header 0 8 ≠ legacyMagic ∧ slice header 0 8 ≠ timedMagic) ∨
      header.getD 8 0 ≠ aeadAes256Gcm then
    throw (adapterError "recording header is not recognised")
  if slice header 9 3 ≠ [0, 0, 0] ∨ slice header 44 4 ≠ [0, 0, 0, 0] then
    throw (adapterError "recording header reserves are not zero")
  return u64Value (slice header 12 8)

/-- The binding bytes a handle spells. -/
def decodeHandle (handle : String) : Option Bytes := decodeHex 16 handle

namespace RecordingIdentity

variable (identity : RecordingIdentity)

@[simp] theorem length_magic : identity.magic.length = 8 := by
  unfold magic
  split <;> rfl

@[simp] theorem length_header : identity.header.length = headerLen := by
  simp [header, headerLen, identity.length_noncePrefix, identity.length_binding]

theorem slice_header_magic : slice identity.header 0 8 = identity.magic :=
  slice_append_self (length_magic identity)

/-- The header's fields behind the magic and the four bytes after it. -/
theorem slice_header (offset width : Nat) : slice identity.header (12 + offset) width =
    slice (u64Bytes identity.sessionId ++ (identity.noncePrefix ++
      (identity.binding ++ [0, 0, 0, 0]))) offset width := by
  rw [header, slice_append_of_le (by simp; omega), length_magic]
  change slice ([aeadAes256Gcm, 0, 0, 0] ++ _) _ _ = _
  rw [slice_append_of_le (by simp; omega)]
  congr 1
  simp only [length_cons, length_nil]
  omega

theorem slice_header_session : slice identity.header 12 8 = u64Bytes identity.sessionId := by
  rw [slice_header identity 0 8, slice_append_self (length_u64Bytes _)]

theorem slice_header_noncePrefix : slice identity.header 20 8 = identity.noncePrefix := by
  rw [slice_header identity 8 8, slice_append_of_le (by simp), length_u64Bytes,
    slice_append_self identity.length_noncePrefix]

theorem slice_header_binding : slice identity.header 28 16 = identity.binding := by
  rw [slice_header identity 16 16, slice_append_of_le (by simp), length_u64Bytes,
    slice_append_of_le (by rw [identity.length_noncePrefix]), identity.length_noncePrefix,
    slice_append_self identity.length_binding]

theorem slice_header_reserved : slice identity.header 44 4 = [0, 0, 0, 0] := by
  rw [slice_header identity 32 4, slice_append_of_le (by simp), length_u64Bytes,
    slice_append_of_le (by rw [identity.length_noncePrefix]; omega), identity.length_noncePrefix,
    slice_append_of_le (by rw [identity.length_binding]), identity.length_binding]
  rfl

@[simp] theorem isTimedHeader_header : isTimedHeader identity.header = identity.timed := by
  rw [isTimedHeader, slice_header_magic, magic]
  cases identity.timed <;> rfl

/-- A recorder's own header is always recognised. -/
theorem readHeader_header : readHeader identity.header = .ok identity.sessionId := by
  have hmagic : identity.magic ≠ supersededMagic ∧
      ¬ (identity.magic ≠ legacyMagic ∧ identity.magic ≠ timedMagic) := by
    unfold magic
    cases identity.timed <;> decide
  have haead : identity.header.getD 8 0 = aeadAes256Gcm := by
    rw [header, getD_append_right _ _ _ _ (by simp), length_magic]
    rfl
  have hzero : slice identity.header 9 3 = [0, 0, 0] := by
    rw [header, slice_append_of_le (by simp), length_magic]
    rfl
  unfold readHeader
  rw [slice_header_magic, haead, if_neg hmagic.1, if_neg (by simpa using hmagic.2), hzero,
    slice_header_reserved, slice_header_session, u64Value_u64Bytes]
  rfl

theorem decodeHandle_handle : decodeHandle identity.handle = some identity.binding :=
  decodeHex_lowercaseHex identity.length_binding

end RecordingIdentity

/-- Below the counter's range, nonces of one header name their counter. -/
theorem nonce_inj {header : Bytes} {left right : Nat} (hleft : left < 256 ^ 4)
    (hright : right < 256 ^ 4) (heq : nonce header left = nonce header right) : left = right :=
  beBytes_inj hleft hright (append_cancel_left heq)

theorem aad_inj {first second : Bytes} {left right : Nat} (hlength : first.length = second.length)
    (hleft : left < 256 ^ 4) (hright : right < 256 ^ 4) (heq : aad first left = aad second right) :
    first = second ∧ left = right := by
  obtain ⟨hheader, hcounter⟩ := append_inj heq hlength
  exact ⟨hheader, beBytes_inj hleft hright hcounter⟩

/-! ## The key and its capabilities -/

/-- The keyed functions of one recording key. `sealed` is the ciphertext of a
call that succeeds, and carries a 16-byte tag. -/
structure RecordingKey where
  keyIdBytes : Bytes
  sealed : (nonce aad plaintext : Bytes) → Bytes
  sign : Bytes → Bytes
  length_keyIdBytes : keyIdBytes.length = 8
  length_sealed : ∀ nonce aad plaintext, (sealed nonce aad plaintext).length = plaintext.length + 16
  length_sign : ∀ fields, (sign fields).length = 32

namespace RecordingKey

def keyId (key : RecordingKey) : String := lowercaseHex key.keyIdBytes

/-- A key to evaluate the model with: its cipher only adds the tag. -/
def sample : RecordingKey where
  keyIdBytes := [1, 2, 3, 4, 5, 6, 7, 8]
  sealed := fun _ _ plaintext => plaintext ++ List.replicate 16 0
  sign := fun fields => (fields ++ List.replicate 32 0).take 32
  length_keyIdBytes := rfl
  length_sealed := by simp
  length_sign := length_padded

end RecordingKey

/-- The ASCII codes of the capability domain and its terminator. -/
def capabilityDomain : Bytes :=
  utf8Bytes "conversation-runtime/finalized-recording-capability/v1" ++ [0]

def capabilityFields (capability : FinalizedRecordingCapability) : Except RuntimeError Bytes := do
  if ¬ capability.validate then throw recoveryError
  let handle ← orError recoveryError (decodeHex 16 capability.recordingHandle)
  let sha256 ← orError recoveryError (decodeHex 32 capability.sha256)
  let keyId ← orError recoveryError (decodeHex 8 capability.keyId)
  return capabilityDomain ++ (u64Bytes capability.sourceSessionId ++ (handle ++ (sha256 ++ keyId)))

namespace RecordingKey

/-- Sign the fields of a capability; while they are spelled out, the tag's own
place holds zeros. -/
def authorize (key : RecordingKey) (capability : FinalizedRecordingCapability) :
    Except RuntimeError FinalizedRecordingCapability := do
  let fields ← capabilityFields
    { capability with authorization := String.ofList (List.replicate 64 '0') }
  return { capability with authorization := lowercaseHex (key.sign fields) }

def verify (key : RecordingKey) (capability : FinalizedRecordingCapability) :
    Except RuntimeError Unit := do
  let fields ← capabilityFields capability
  let tag ← orError recoveryError (decodeHex 32 capability.authorization)
  if capability.keyId ≠ key.keyId then throw recoveryError
  if key.sign fields ≠ tag then throw recoveryError

end RecordingKey

end ConversationRuntime
