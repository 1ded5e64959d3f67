import ConversationRuntime.Foundation.IdealAead
import ConversationRuntime.Memory.Store

/-! # Voice signatures

A voice signature is stored sealed, bound by the data it is sealed with to the
embedding model, its role and its size. The cipher is ideal: what a row opens to was
sealed under the same key with the same data.
-/

namespace ConversationRuntime

open Foundation IdealAead MemoryStoreError List

def maxModelFieldBytes : Nat := 128

def maxEmbeddingDimension : Nat := 4096

def signatureDomain : Bytes := utf8Bytes "conversation-runtime/voice-signature/v1\x00"

def keyCheckAad : Bytes := utf8Bytes "key-check"

/-- Which embedding model produced a signature. -/
structure SignatureModel where
  id : String
  version : String
deriving DecidableEq

namespace SignatureModel

def validField (value : String) : Bool :=
  value ≠ "" && value.utf8ByteSize ≤ maxModelFieldBytes

def new (id version : String) : Except MemoryStoreError SignatureModel :=
  if !validField id || !validField version then
    .error ⟨.conflict, "signature model identifier and version must be 1 through 128 bytes"⟩
  else .ok ⟨id, version⟩

end SignatureModel

inductive SignatureRole where
  | anchor
  | enrolment
  | refinement
deriving DecidableEq

namespace SignatureRole

def asStr : SignatureRole → String
  | anchor => "anchor"
  | enrolment => "enrolment"
  | refinement => "refinement"

def parse (value : String) : Option SignatureRole :=
  [anchor, enrolment, refinement].find? (·.asStr == value)

end SignatureRole

def leBytes (value : UInt32) : Bytes := (u32Bytes value).reverse

def signatureAad (model : SignatureModel) (role : SignatureRole) (dimension : UInt32) : Bytes :=
  signatureDomain ++ (utf8Bytes model.id ++ 0 :: (utf8Bytes model.version ++ 0 ::
    (utf8Bytes role.asStr ++ 0 :: leBytes dimension)))

/-- A signature to store. The values of the embedding are given by their bits. -/
structure VoiceSignatureDraft where
  model : SignatureModel
  role : SignatureRole
  embedding : List UInt32
  speechMs : Nat
  createdAt : UnixTimestampMillis
  sourceSession : SessionId
deriving DecidableEq

namespace VoiceSignatureDraft

def isFinite (bits : UInt32) : Bool := (bits >>> 23) &&& 255 != 255

def new (draft : VoiceSignatureDraft) : Except MemoryStoreError VoiceSignatureDraft :=
  if draft.embedding = [] ∨ maxEmbeddingDimension < draft.embedding.length ∨
      ¬ draft.embedding.all isFinite then
    .error ⟨.conflict, "voice signature must hold 1 through 4096 finite values"⟩
  else .ok draft

def dimension (draft : VoiceSignatureDraft) : UInt32 := UInt32.ofNat draft.embedding.length

/-- What storing the draft seals. -/
def sealing (draft : VoiceSignatureDraft) (nonce ciphertext : Bytes) : SealCall where
  nonce := nonce
  aad := signatureAad draft.model draft.role draft.dimension
  plaintext := draft.embedding.flatMap leBytes
  ciphertext := some ciphertext

end VoiceSignatureDraft

/-- A row of the table, as the database returns it. -/
structure SignatureRow where
  id : Int
  person : Int
  modelId : String
  modelVersion : String
  role : String
  dimension : Int
  speechMs : Int
  createdAt : Int
  sourceSession : Int
  nonce : Bytes
  ciphertext : Bytes
deriving DecidableEq

structure VoiceSignature where
  id : Nat
  person : PersonId
  draft : VoiceSignatureDraft
deriving DecidableEq

/-- The four-byte words of a plaintext. -/
def words : Bytes → List UInt32
  | one :: two :: three :: four :: rest => u32Value [four, three, two, one] :: words rest
  | _ => []

def checkedUnsigned (bound : Nat) (value : Int) : Except MemoryStoreError Nat :=
  if 0 ≤ value ∧ value < bound then .ok value.toNat else .error invalidDatabaseError

/-- Open a row against the sealings made under the key. -/
def SignatureRow.decrypt (row : SignatureRow) (calls : List SealCall) (model : SignatureModel) :
    Except MemoryStoreError VoiceSignature := do
  let role ← orError invalidDatabaseError (SignatureRole.parse row.role)
  let dimension ← checkedUnsigned (2 ^ 32) row.dimension
  if row.nonce.length ≠ 12 then .error invalidDatabaseError else
  let plaintext ← orError invalidDatabaseError (openWith calls row.nonce
    (signatureAad model role (UInt32.ofNat dimension)) row.ciphertext)
  if plaintext.length ≠ dimension * 4 then .error invalidDatabaseError else
  let speechMs ← checkedUnsigned (2 ^ 32) row.speechMs
  let createdAt ← checkedUnsigned (2 ^ 63) row.createdAt
  let sourceSession ← checkedUnsigned (2 ^ 63) row.sourceSession
  let draft ← orInvalid (VoiceSignatureDraft.new
    ⟨model, role, words plaintext, speechMs, createdAt, UInt64.ofNat sourceSession⟩)
  let person ← checkedUnsigned (2 ^ 63) row.person
  if person = 0 then .error invalidDatabaseError else
  let id ← checkedUnsigned (2 ^ 63) row.id
  .ok ⟨id, person, draft⟩

def readSignatures (calls : List SealCall) (rows : List SignatureRow) (model : SignatureModel) :
    Except MemoryStoreError (List VoiceSignature) :=
  ((rows.filter fun row =>
      row.modelId == model.id && row.modelVersion == model.version).insertionSort
    fun one two => one.person < two.person ∨ one.person = two.person ∧ one.id ≤ two.id).mapM
      (·.decrypt calls model)

/-! ## What a row is bound to -/

namespace SignatureModel

def IsValid (model : SignatureModel) : Prop := new model.id model.version = .ok model

/-- The two fields as one text, the way they are sealed. -/
def joined (model : SignatureModel) : String := model.id ++ "\x00" ++ model.version

/-- Every other cut of the joined text at a separator has a field that is refused. -/
def Unambiguous (model : SignatureModel) : Prop :=
  ∀ left right, left ++ "\x00" ++ right = model.joined →
    ⟨left, right⟩ = model ∨ ∃ error, new left right = .error error

end SignatureModel

theorem utf8Bytes_inj {one two : String} (h : utf8Bytes one = utf8Bytes two) : one = two := by
  have htext := congrArg utf8Text? h
  simpa using htext

/-- Fields without the separator are told apart by it. -/
theorem cut_inj {left right rest others : Bytes} (hleft : 0 ∉ left) (hright : 0 ∉ right)
    (h : left ++ 0 :: rest = right ++ 0 :: others) : left = right ∧ rest = others := by
  have hcut : left = right := by
    have hfirst := congrArg (takeWhile (· != 0)) h
    rw [takeWhile_append_of_pos (by grind), takeWhile_append_of_pos (by grind)] at hfirst
    simpa using hfirst
  subst hcut
  simpa using h

theorem zero_notMem_asStr (role : SignatureRole) : 0 ∉ utf8Bytes role.asStr := by
  cases role <;> decide +kernel

theorem asStr_inj {role other : SignatureRole} (h : role.asStr = other.asStr) : role = other := by
  cases role <;> cases other <;> first | rfl | exact absurd h (by decide)

theorem utf8Bytes_separator : utf8Bytes "\x00" = [0] := by decide +kernel

theorem signatureAad_eq (model : SignatureModel) (role : SignatureRole) (dimension : UInt32) :
    signatureAad model role dimension =
      signatureDomain ++ (utf8Bytes model.joined ++ 0 :: (utf8Bytes role.asStr ++ [0]) ++
        leBytes dimension) := by
  simp [signatureAad, SignatureModel.joined, utf8Bytes_append, utf8Bytes_separator]

/-- Read from its end, the data tells the dimension, the role and the joined text. -/
theorem signatureAad_inj {one two : SignatureModel} {role other : SignatureRole}
    {dimension size : UInt32}
    (h : signatureAad one role dimension = signatureAad two other size) :
    one.joined = two.joined ∧ role = other ∧ dimension = size := by
  rw [signatureAad_eq, signatureAad_eq] at h
  have hlength : (leBytes dimension).length = (leBytes size).length := by
    simp [leBytes]
  obtain ⟨htexts, hdimension⟩ := append_inj' (append_cancel_left h) hlength
  -- The role holds no separator, so backwards it ends at the first one.
  have hbackwards := congrArg reverse htexts
  simp only [reverse_append, reverse_cons, nil_append, cons_append, append_assoc, reverse_nil,
    cons.injEq, true_and] at hbackwards
  obtain ⟨hrole, hjoined⟩ := cut_inj (mem_reverse.not.mpr (zero_notMem_asStr role))
    (mem_reverse.not.mpr (zero_notMem_asStr other)) hbackwards
  refine ⟨utf8Bytes_inj (reverse_injective hjoined),
    asStr_inj (utf8Bytes_inj (reverse_injective hrole)), ?_⟩
  have hvalue := congrArg u32Value (reverse_injective hdimension)
  simpa using hvalue

theorem SignatureModel.Unambiguous.eq {model other : SignatureModel} (h : model.Unambiguous)
    (hother : other.IsValid) (hjoined : other.joined = model.joined) : other = model := by
  rcases h other.id other.version hjoined with hsame | ⟨error, herror⟩
  · exact hsame
  · cases hother.symm.trans herror

/-- Fields without the separator leave no other cut. -/
theorem SignatureModel.unambiguous_of_plain {model : SignatureModel}
    (hid : 0 ∉ utf8Bytes model.id) (hversion : 0 ∉ utf8Bytes model.version) :
    model.Unambiguous := by
  intro left right hjoined
  have hbytes := congrArg utf8Bytes hjoined
  simp only [joined, utf8Bytes_append, utf8Bytes_separator, append_assoc, singleton_append]
    at hbytes
  -- The model has one separator in all, so the cut is at it.
  have hcount := congrArg (count 0) hbytes
  simp only [count_append, count_cons_self, count_eq_zero_of_not_mem hid,
    count_eq_zero_of_not_mem hversion] at hcount
  have hleft : 0 ∉ utf8Bytes left := count_eq_zero.mp (by omega)
  obtain ⟨hfirst, hsecond⟩ := cut_inj hleft hid hbytes
  left
  rw [utf8Bytes_inj hfirst, utf8Bytes_inj hsecond]

theorem words_leBytes (values : List UInt32) : words (values.flatMap leBytes) = values := by
  induction values with
  | nil => rfl
  | cons value rest ih =>
    have hvalue := u32Value_u32Bytes value
    have hlength := length_u32Bytes value
    match hbytes : u32Bytes value with
    | [one, two, three, four] => simp [leBytes, words, ih, hbytes ▸ hvalue, hbytes]
    | [] | [_] | [_, _] | [_, _, _] | _ :: _ :: _ :: _ :: _ :: _ => simp [hbytes] at hlength

/-- What a row that opens was sealed with. -/
theorem SignatureRow.sealed_of_decrypt {row : SignatureRow} {calls : List SealCall}
    {model : SignatureModel} {signature : VoiceSignature}
    (h : row.decrypt calls model = .ok signature) :
    ∃ role dimension, SignatureRole.parse row.role = some role ∧
      row.dimension = (UInt32.toNat dimension : Int) ∧ signature.draft.model = model ∧
      signature.draft.role = role ∧ ∃ call ∈ calls, call.nonce = row.nonce ∧
        call.aad = signatureAad model role dimension ∧ call.ciphertext = some row.ciphertext ∧
        signature.draft.embedding = words call.plaintext := by
  obtain ⟨role, hrole, h⟩ := bind_eq_ok h
  obtain ⟨dimension, hdimension, h⟩ := bind_eq_ok h
  split at h
  · cases h
  obtain ⟨plaintext, hopen, h⟩ := bind_eq_ok h
  split at h
  · cases h
  obtain ⟨speechMs, -, h⟩ := bind_eq_ok h
  obtain ⟨createdAt, -, h⟩ := bind_eq_ok h
  obtain ⟨sourceSession, -, h⟩ := bind_eq_ok h
  obtain ⟨draft, hdraft, h⟩ := bind_eq_ok h
  obtain ⟨person, -, h⟩ := bind_eq_ok h
  split at h
  · cases h
  obtain ⟨id, -, h⟩ := bind_eq_ok h
  cases h
  have hdimension : row.dimension = ((UInt32.ofNat dimension).toNat : Int) := by
    unfold checkedUnsigned at hdimension
    split at hdimension <;> cases hdimension
    simp only [UInt32.toNat_ofNat']
    omega
  unfold VoiceSignatureDraft.new at hdraft
  split at hdraft <;> cases hdraft
  obtain ⟨call, hcall, hnonce, haad, hciphertext, hplaintext⟩ :=
    exists_call_of_openWith (orError_eq_ok.mp hopen)
  exact ⟨role, _, orError_eq_ok.mp hrole, hdimension, rfl, rfl, call, hcall, hnonce, haad,
    hciphertext, by rw [hplaintext]⟩

theorem exists_of_mapM {ε α β : Type} {decode : α → Except ε β} {items : List α} {values : List β}
    (h : items.mapM decode = .ok values) : ∀ value ∈ values, ∃ item, decode item = .ok value := by
  induction items generalizing values with
  | nil =>
    cases h
    exact nofun
  | cons item rest ih =>
    rw [mapM_cons] at h
    obtain ⟨first, hfirst, h⟩ := bind_eq_ok h
    obtain ⟨others, hothers, h⟩ := bind_eq_ok h
    cases h
    exact forall_mem_cons.mpr ⟨⟨item, hfirst⟩, ih hothers⟩

/-- The data a signature is sealed with names its model, role and dimension, a row that
was altered in one of them does not open, and what is read for a model was added with
it, exactly if the text of the model can be cut in no other way. -/
theorem signatures_bound_iff (model : SignatureModel) :
    ((∀ other role kind dimension size, SignatureModel.IsValid other →
      signatureAad model role dimension = signatureAad other kind size →
      model = other ∧ role = kind ∧ dimension = size) ∧
    ∀ (calls : List SealCall) (drafts : List VoiceSignatureDraft),
      (∀ call ∈ calls, call.aad = keyCheckAad ∨
        ∃ draft ∈ drafts, ∃ nonce ciphertext, call = draft.sealing nonce ciphertext) →
      (calls.map SealCall.nonce).Nodup → (∀ draft ∈ drafts, draft.model.IsValid) →
      (∀ row : SignatureRow, ∀ draft ∈ drafts, draft.sealing row.nonce row.ciphertext ∈ calls →
        ∀ signature, row.decrypt calls model = .ok signature → model = draft.model ∧
          SignatureRole.parse row.role = some draft.role ∧
          row.dimension = draft.dimension.toNat) ∧
      ∀ rows signatures, readSignatures calls rows model = .ok signatures →
        ∀ signature ∈ signatures, ∃ draft ∈ drafts, draft.model = model ∧
          signature.draft.model = model ∧ signature.draft.role = draft.role ∧
          signature.draft.embedding = draft.embedding) ↔ model.Unambiguous := by
  constructor
  · rintro ⟨hinj, -⟩ left right hjoined
    by_cases hvalid : SignatureModel.IsValid ⟨left, right⟩
    · left
      refine (hinj ⟨left, right⟩ .anchor .anchor 0 0 hvalid ?_).1.symm
      rw [signatureAad_eq, signatureAad_eq]
      exact congrArg (fun text => signatureDomain ++ (utf8Bytes text ++ _ ++ _)) hjoined.symm
    · right
      unfold SignatureModel.IsValid SignatureModel.new at hvalid
      unfold SignatureModel.new
      split at hvalid
      · exact ⟨_, if_pos ‹_›⟩
      · exact absurd rfl hvalid
  intro hcut
  refine ⟨fun other role kind dimension size hother h => ?_, fun calls drafts hsealed hnonces
    hvalid => ⟨?_, ?_⟩⟩
  · obtain ⟨hjoined, hrest⟩ := signatureAad_inj h
    exact ⟨(hcut.eq hother hjoined.symm).symm, hrest⟩
  · intro row draft hdraft hstored signature h
    obtain ⟨role, dimension, hrole, hdimension, -, -, call, hcall, hnonce, haad, -⟩ :=
      SignatureRow.sealed_of_decrypt h
    cases inj_on_of_nodup_map hnonces hcall hstored hnonce
    obtain ⟨hjoined, rfl, rfl⟩ := signatureAad_inj haad
    exact ⟨(hcut.eq (hvalid draft hdraft) hjoined).symm, hrole, hdimension⟩
  · intro rows signatures h signature hmem
    obtain ⟨row, hrow⟩ := exists_of_mapM h signature hmem
    obtain ⟨role, dimension, -, -, hmine, hrole, call, hcall, -, haad, -, hembedding⟩ :=
      SignatureRow.sealed_of_decrypt hrow
    rcases hsealed call hcall with hcheck | ⟨draft, hdraft, nonce, ciphertext, rfl⟩
    · have hfirst := congrArg head? (hcheck.symm.trans haad)
      have hdomain : signatureDomain.head? = some 99 := by decide +kernel
      rw [signatureAad, head?_append, hdomain, Option.some_or] at hfirst
      exact absurd hfirst (by decide +kernel)
    · obtain ⟨hjoined, rfl, rfl⟩ := signatureAad_inj haad
      exact ⟨draft, hdraft, hcut.eq (hvalid draft hdraft) hjoined, hmine, hrole,
        hembedding.trans (words_leBytes _)⟩

def exampleNonce : Bytes := List.replicate 12 0

theorem signatures_bound_altered_role :
    let draft : VoiceSignatureDraft := ⟨⟨"model", "1"⟩, .anchor, [0], 1, 1, 1⟩
    let row : SignatureRow := ⟨1, 1, "model", "1", "refinement", 1, 1, 1, 1, exampleNonce, [7]⟩
    ∀ signature, row.decrypt [draft.sealing exampleNonce [7]] draft.model ≠ .ok signature := by
  intro draft row signature h
  have hvalid : draft.model.IsValid := by
    unfold SignatureModel.IsValid
    decide +kernel
  have hcut : draft.model.Unambiguous := by
    apply SignatureModel.unambiguous_of_plain <;> decide +kernel
  have hbound :=
    ((signatures_bound_iff draft.model).mpr hcut).2 [draft.sealing exampleNonce [7]] [draft]
    (by simp [VoiceSignatureDraft.sealing]) (nodup_singleton _) (by simpa using hvalid)
  have hrole := (hbound.1 row draft mem_cons_self mem_cons_self signature h).2.1
  exact absurd hrole (by decide +kernel)

/-- The separator may stand in a field: two models share their data, and the row of
one opens as a signature of the other. -/
theorem separator_in_model_unbinds :
    let one : SignatureModel := ⟨"a", "b\x00c"⟩
    let two : SignatureModel := ⟨"a\x00b", "c"⟩
    let draft : VoiceSignatureDraft := ⟨one, .anchor, [0], 1, 1, 1⟩
    let row : SignatureRow := ⟨1, 1, two.id, two.version, "anchor", 1, 1, 1, 1, exampleNonce, [7]⟩
    SignatureModel.new one.id one.version = .ok one ∧
    SignatureModel.new two.id two.version = .ok two ∧ one ≠ two ∧
    signatureAad one .anchor 1 = signatureAad two .anchor 1 ∧
    readSignatures [draft.sealing exampleNonce [7]] [row] two =
      .ok [⟨1, 1, { draft with model := two }⟩] := by
  decide +kernel

end ConversationRuntime
