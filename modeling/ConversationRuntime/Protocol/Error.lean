import ConversationRuntime.Foundation.Bytes

/-! # Errors and recording facts shared across the runtime

The error a runtime component reports names its kind and the stage it happened
in. The recording limits and the finalized-recording capability are the other
protocol values the recorder produces.
-/

namespace ConversationRuntime

open Foundation

inductive RuntimeStage where
  | runtime
  | privacyPolicy
  | audioCapture
  | speechRecognizer
  | languageModel
  | speechSynthesizer
  | audioOutput
  | voiceSidecar
  | continuousAudioOutput
  | memory
deriving DecidableEq

inductive RuntimeErrorKind where
  | adapter
  | configuration
  | invalidState
deriving DecidableEq

structure RuntimeError where
  kind : RuntimeErrorKind
  stage : RuntimeStage
  message : String
deriving DecidableEq

/-- The error of an adapter value's own checks. -/
structure AdapterError where
  message : String
deriving DecidableEq

def adapterError (message : String) : RuntimeError := ⟨.adapter, .audioCapture, message⟩

def invalidStateError (message : String) : RuntimeError := ⟨.invalidState, .audioCapture, message⟩

def recoveryError : RuntimeError :=
  invalidStateError "finalized recording authorization or content is invalid"

/-- Replace whatever error a check of foreign content reports. -/
def orElse {ε α : Type} (error : RuntimeError) : Except ε α → Except RuntimeError α
  | .ok value => .ok value
  | .error _ => .error error

variable {ε α : Type}

theorem orElse_eq_ok {error : RuntimeError} {result : Except ε α} {value : α} :
    orElse error result = .ok value ↔ result = .ok value := by
  cases result <;> simp [orElse]

/-- The value of an optional result, or `error` when it is absent. -/
def orError {ε α : Type} (error : ε) : Option α → Except ε α
  | some value => .ok value
  | none => .error error

@[simp] theorem orError_some (error : ε) (value : α) : orError error (some value) = .ok value := rfl

theorem orError_eq_ok {error : ε} {result : Option α} {value : α} :
    orError error result = .ok value ↔ result = some value := by
  cases result <;> simp [orError]

/-- A chain that returns a value has returned one at each of its steps. -/
theorem bind_eq_ok {β : Type} {first : Except ε α} {next : α → Except ε β} {value : β}
    (h : first >>= next = .ok value) : ∃ middle, first = .ok middle ∧ next middle = .ok value := by
  cases first with
  | error error => cases h
  | ok middle => exact ⟨middle, rfl, h⟩

/-- A chain fails where the first of its steps fails. -/
theorem bind_eq_error {β : Type} {first : Except ε α} {next : α → Except ε β} {error : ε} :
    first >>= next = .error error ↔
      first = .error error ∨ ∃ value, first = .ok value ∧ next value = .error error := by
  cases first <;> simp [bind, Except.bind]

/-! ## Recording facts on the wire -/

abbrev SessionId := UInt64

inductive RecordingLimit where
  | freeDiskSpace
  | duration
  | size
  | silence
deriving DecidableEq

inductive RecordingLimitState where
  | warning
  | stopped
deriving DecidableEq

structure FinalizedRecordingCapability where
  sourceSessionId : SessionId
  recordingHandle : String
  sha256 : String
  keyId : String
  authorization : String
deriving DecidableEq

/-- `text` has exactly `length` characters, all lowercase hexadecimal. -/
def isHexText (text : String) (length : Nat) : Bool :=
  (utf8Bytes text).length == length && (utf8Bytes text).all isLowercaseHexByte

/-- Structural validation only; the tag is authenticated by the key's owner. -/
def FinalizedRecordingCapability.validate (capability : FinalizedRecordingCapability) : Bool :=
  capability.sourceSessionId != 0 && isHexText capability.recordingHandle 32 &&
    isHexText capability.sha256 64 && isHexText capability.keyId 16 &&
    isHexText capability.authorization 64

theorem isHexText_lowercaseHex {bytes : Bytes} {length : Nat}
    (hlength : bytes.length * 2 = length) :
    isHexText (lowercaseHex bytes) length = true := by
  simp only [isHexText, utf8Bytes_lowercaseHex, length_flatMap_hexCodes, all_flatMap_hexCodes,
    hlength, beq_self_eq_true, Bool.and_self]

end ConversationRuntime
