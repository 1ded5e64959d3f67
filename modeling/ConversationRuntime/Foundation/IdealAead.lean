import ConversationRuntime.Foundation.Bytes

/-! # An ideal authenticated cipher

The ideal cipher is described by the log of its sealing calls. A ciphertext
opens under a nonce and associated data exactly when one logged call sealed it
under that nonce and that data, and then it opens to the plaintext of that
call. Nothing is assumed about the ciphertext bytes themselves, so a reader of
arbitrary bytes can only ever obtain plaintexts that were really sealed.
-/

namespace Foundation.IdealAead

/-- One call of the sealing function. A call that failed produced no ciphertext. -/
structure SealCall where
  nonce : Bytes
  aad : Bytes
  plaintext : Bytes
  ciphertext : Option Bytes
deriving DecidableEq

/-- Open a ciphertext against the calls made under one key. -/
def openWith (calls : List SealCall) (nonce aad ciphertext : Bytes) : Option Bytes :=
  (calls.find? fun call => call.nonce == nonce && call.aad == aad &&
    call.ciphertext == some ciphertext).map SealCall.plaintext

variable {calls : List SealCall}

/-- Opening yields only what some call sealed under the same nonce and data. -/
theorem exists_call_of_openWith {nonce aad ciphertext plaintext : Bytes}
    (hopen : openWith calls nonce aad ciphertext = some plaintext) :
    ∃ call ∈ calls, call.nonce = nonce ∧ call.aad = aad ∧
      call.ciphertext = some ciphertext ∧ call.plaintext = plaintext := by
  rw [openWith, Option.map_eq_some_iff] at hopen
  obtain ⟨call, hfind, hplain⟩ := hopen
  have hmatch := List.find?_some hfind
  simp only [Bool.and_eq_true, beq_iff_eq] at hmatch
  exact ⟨call, List.mem_of_find?_eq_some hfind, hmatch.1.1, hmatch.1.2, hmatch.2, hplain⟩

/-- A call whose nonce and data no other call shares opens to its plaintext. -/
theorem openWith_of_unique {call : SealCall} {ciphertext : Bytes} (hcall : call ∈ calls)
    (hcipher : call.ciphertext = some ciphertext)
    (hunique : ∀ other ∈ calls, other.nonce = call.nonce → other.aad = call.aad → other = call) :
    openWith calls call.nonce call.aad ciphertext = some call.plaintext := by
  cases hopen : openWith calls call.nonce call.aad ciphertext with
  | none =>
    rw [openWith, Option.map_eq_none_iff] at hopen
    have hfound := List.find?_eq_none.mp hopen call hcall
    simp [hcipher] at hfound
  | some plaintext =>
    obtain ⟨other, hother, hnonce, haad, _, hplain⟩ := exists_call_of_openWith hopen
    rw [← hplain, hunique other hother hnonce haad]

end Foundation.IdealAead
