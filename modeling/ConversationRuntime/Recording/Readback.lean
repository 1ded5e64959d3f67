import ConversationRuntime.Foundation.Lists
import ConversationRuntime.Recording.Reader
import ConversationRuntime.Recording.FileRuns

/-! # Reading back what a recorder wrote

As long as every append succeeded, the file is its header followed by one chunk
for each sealing call. A reader of any prefix of it then yields the records of
the chunks that are whole in the prefix, and a chunk that stands where another
one was written does not open.
-/

namespace ConversationRuntime

open Foundation IdealAead LengthPrefixed List RecordedChunks SealedFile
open Nat Option

/-! ## Emitted records are readable -/

/-- A record of an allowed kind, with the length it states, is simply decoded. -/
theorem checkRecord_cons {timed strict : Bool} {kind : UInt8} {body : Bytes}
    (hkind : ¬ ((timed = true ∧ kind = chunkFrame) ∨ (¬ timed = true ∧ chunkPolicy ≤ kind)))
    (hgap : kind = chunkGapStarted → 10 ≤ (kind :: body).length ∧
      (kind :: body).length = 10 + ((kind :: body).getD 9 0).toNat) :
    checkRecord timed strict (kind :: body) = decodeChunk (kind :: body) := by
  have hlength : ¬ (strict = true ∧ kind = chunkGapStarted ∧ ((kind :: body).length < 10 ∨
      (kind :: body).length ≠ 10 + ((kind :: body).getD 9 0).toNat)) := by
    rintro ⟨-, hstarted, hwrong⟩
    obtain ⟨hlower, hexact⟩ := hgap hstarted
    rcases hwrong with hshort | hother
    · exact absurd hlower (Nat.not_le_of_lt hshort)
    · exact hother hexact
  unfold checkRecord
  change (if _ then _ else _ : Except RuntimeError RecordedChunk) = _
  rw [if_neg hkind]
  rw [if_neg hlength]

variable {record : Bytes} {written : List Bytes} {chunks : List RecordedChunk}

/-- The kind of a metadata record is one of a timed file, and no gap. -/
theorem metadataRecord_kind {metadata : CaptureMetadata}
    (hrecord : metadataRecord metadata = .ok record) : ∃ kind body, record = kind :: body ∧
      (kind = chunkEpoch ∨ kind = chunkClockPair ∨ kind = chunkTimingDiscontinuity) := by
  cases metadata with
  | epoch epoch =>
    cases hbody : orElse recoveryError epoch.encode with
    | ok body =>
      rw [metadataRecord, hbody] at hrecord
      cases hrecord
      exact ⟨_, _, rfl, .inl rfl⟩
    | error error =>
      rw [metadataRecord, hbody] at hrecord
      cases hrecord
  | clockPair pair =>
    cases hbody : orElse recoveryError pair.encode with
    | ok body =>
      rw [metadataRecord, hbody] at hrecord
      cases hrecord
      exact ⟨_, _, rfl, .inr (.inl rfl)⟩
    | error error =>
      rw [metadataRecord, hbody] at hrecord
      cases hrecord
  | discontinuity captureEpoch reason =>
    rw [metadataRecord] at hrecord
    split at hrecord
    · cases hrecord
    · cases hrecord
      exact ⟨_, _, rfl, .inr (.inr rfl)⟩

theorem length_gapReason {reason : String}
    (hreason : reason = captureDiscontinuityReason ∨ reason = recordingFailureReason) :
    (utf8Bytes reason).length < 256 := by
  rcases hreason with rfl | rfl <;> decide

/-- A gap record has exactly the length its reason's length byte demands. -/
theorem gapStartedRecord_length (atMs : UInt64) {reason : String}
    (hreason : (utf8Bytes reason).length < 256) :
    10 ≤ (gapStartedRecord atMs reason).length ∧ (gapStartedRecord atMs reason).length =
        10 + ((gapStartedRecord atMs reason).getD 9 0).toNat := by
  have hlength : (gapStartedRecord atMs reason).length = 10 + (utf8Bytes reason).length := by
    simp [gapStartedRecord]
    omega
  have hbyte : (gapStartedRecord atMs reason).getD 9 0 = UInt8.ofNat (utf8Bytes reason).length := by
    rfl
  rw [hbyte, UInt8.toNat_ofNat', mod_eq_of_lt hreason, hlength]
  exact ⟨le_add_right _ _, rfl⟩

/-- Whatever a recorder appends, a reader of its file decodes. -/
theorem EmittedRecord.readable {timed : Bool} (hrecord : EmittedRecord timed record)
    (strict : Bool) :
    checkRecord timed strict record = decodeChunk record ∧
      ∃ chunk, decodeChunk record = .ok chunk := by
  cases hrecord with
  | policy htimed =>
    subst htimed
    exact ⟨checkRecord_cons (by decide) (fun h => absurd h (by decide)), _,
      decodeChunk_policyRecord⟩
  | frame htimed atMs frame =>
    subst htimed
    exact ⟨checkRecord_cons (by decide) (fun h => absurd h (by decide)), _,
      decodeChunk_frameRecord atMs frame⟩
  | timedFrame htimed atMs format hbytes hlength haligned htiming =>
    subst htimed
    exact ⟨checkRecord_cons (by decide) (fun h => absurd h (by decide)), _,
      decodeChunk_timedFrameRecord atMs format _ hbytes hlength haligned htiming⟩
  | metadata htimed hmetadata =>
    subst htimed
    refine ⟨?_, _, decodeChunk_metadataRecord hmetadata⟩
    obtain ⟨kind, body, rfl, hkind⟩ := metadataRecord_kind hmetadata
    rcases hkind with rfl | rfl | rfl <;>
      exact checkRecord_cons (by decide) (fun h => absurd h (by decide))
  | alignmentLimit htimed =>
    subst htimed
    exact ⟨checkRecord_cons (by decide) (fun h => absurd h (by decide)), _,
      decodeChunk_alignmentLimitRecord⟩
  | gapStarted atMs hreason =>
    have hshort := length_gapReason hreason
    refine ⟨checkRecord_cons (by cases timed <;> decide) fun _ => ?_, _,
      decodeChunk_gapStartedRecord atMs hshort⟩
    exact gapStartedRecord_length atMs hshort
  | gapEnded atMs =>
    exact ⟨checkRecord_cons (by cases timed <;> decide) (fun h => absurd h (by decide)), _,
      decodeChunk_gapEndedRecord atMs⟩
  | ended atMs =>
    exact ⟨checkRecord_cons (by cases timed <;> decide) (fun h => absurd h (by decide)), _,
      decodeChunk_endedRecord atMs⟩

/-! ## The file of successful appends -/

/-- The chunk of one sealing call. -/
def chunkBytes (call : SealCall) : Bytes := frame (call.ciphertext.getD [])

/-- Every append that sealed a record also succeeded: the running digest has
covered the chunk of each sealing call. -/
def SealedFile.AllAppended (header : Bytes) (file : SealedFile) : Prop :=
  file.sealedBytes = header ++ file.seals.flatMap chunkBytes

/-- The file against its log of sealing calls. -/
structure WrittenLog (identity : RecordingIdentity) (file : SealedFile) : Prop where
  log : SealLog identity.header file
  emitted : ∀ call ∈ file.seals, EmittedRecord identity.timed call.plaintext
  sealed_le : file.sealedBytes.length ≤ (identity.header ++ file.seals.flatMap chunkBytes).length
  clean : file.capabilityPoisoned = false → file.AllAppended identity.header
  whole : file.AllAppended identity.header → file.content = file.sealedBytes ∧
    ∀ call ∈ file.seals, ∃ ciphertext, call.ciphertext = some ciphertext ∧
      ciphertext.length ≤ maxChunkCiphertextBytes

namespace WrittenLog

variable {identity : RecordingIdentity} {file : SealedFile} {record : Bytes}

theorem emitted_push {ciphertext : Option Bytes}
    (hemitted : ∀ call ∈ file.seals, EmittedRecord identity.timed call.plaintext)
    (hrecord : EmittedRecord identity.timed record) :
    ∀ call ∈ file.seals ++ [file.sealCall identity.header record ciphertext],
      EmittedRecord identity.timed call.plaintext := forall_mem_snoc hemitted hrecord

/-- After a failed append the digest stays behind the log for good. -/
theorem afterFailure (h : WrittenLog identity file) (hrecord : EmittedRecord identity.timed record)
    (hcounter : file.counter < u32Max) (ciphertext : Option Bytes) (torn : Bytes) (ticks : Nat) :
    WrittenLog identity (file.afterFailure identity.header record ciphertext torn ticks) := by
  have hbehind : file.sealedBytes.length < (identity.header ++ (file.seals ++
      [file.sealCall identity.header record ciphertext]).flatMap chunkBytes).length := by
    have hle := h.sealed_le
    simp only [length_append, flatMap_append, flatMap_singleton, chunkBytes, length_frame] at hle ⊢
    omega
  refine ⟨h.log.push hcounter ciphertext rfl rfl, emitted_push h.emitted hrecord, hbehind.le,
    fun hclean => absurd hclean (by simp [SealedFile.afterFailure]), fun hall => ?_⟩
  exact absurd (congrArg length hall) hbehind.ne

theorem afterAppend (env : Environment) (h : WrittenLog identity file)
    (hrecord : EmittedRecord identity.timed record) (hcounter : file.counter < u32Max)
    (hlength : record.length + 16 ≤ maxChunkCiphertextBytes) :
    WrittenLog identity (file.afterAppend env identity.header record) := by
  -- One and the same chunk is added to the file, to the digest and to the log.
  have hlog : identity.header ++ (file.afterAppend env identity.header record).seals.flatMap
      chunkBytes = (identity.header ++ file.seals.flatMap chunkBytes) ++
        frame (file.sealedRecord env identity.header record) := by
    rw [SealedFile.afterAppend, flatMap_append, flatMap_singleton, ← append_assoc]
    rfl
  have hall : (file.afterAppend env identity.header record).AllAppended identity.header ↔
      file.AllAppended identity.header := by
    rw [SealedFile.AllAppended, hlog]
    exact append_cancel_right_eq _ _ _ |>.to_iff
  refine ⟨h.log.push hcounter _ rfl rfl, emitted_push h.emitted hrecord, ?_,
    fun hclean => hall.mpr (h.clean hclean), fun hafter => ?_⟩
  · rw [hlog]
    have hle := h.sealed_le
    simp only [SealedFile.afterAppend, length_append] at hle ⊢
    omega
  · obtain ⟨hcontent, hcalls⟩ := h.whole (hall.mp hafter)
    refine ⟨by rw [SealedFile.afterAppend, hcontent], forall_mem_snoc hcalls ?_⟩
    refine ⟨file.sealedRecord env identity.header record, rfl, ?_⟩
    rw [SealedFile.length_sealedRecord]
    exact hlength

theorem start (identity : RecordingIdentity) : WrittenLog identity (.start identity.header) where
  log := .start identity.header
  emitted := forall_mem_nil _
  sealed_le := by simp [SealedFile.start]
  clean := fun _ => (append_nil _).symm
  whole := fun _ => ⟨rfl, forall_mem_nil _⟩

theorem poisoned (env : Environment) {identity : RecordingIdentity} (file : SealedFile)
    (h : WrittenLog identity file) : WrittenLog identity { file with capabilityPoisoned := true } :=
  { h with
    log := (SealLog.fileRule env identity).poisoned file h.log
    clean := fun hclean => absurd hclean (by simp) }

/-- The file and its log stay in step along every run. -/
theorem fileRule (env : Environment) (identity : RecordingIdentity) :
    FileRule env identity (WrittenLog identity) where
  asked := fun file tick htick h =>
    { h with log := (SealLog.fileRule env identity).asked file tick htick h.log }
  poisoned := poisoned env
  failed := by
    intro file record error reached hrecord h hfailure
    cases hfailure with
    | exhausted hcounter =>
      exact poisoned env file h
    | failed _ ciphertext kept ticks hcounter =>
      exact h.afterFailure hrecord hcounter ciphertext _ ticks
  appended := fun hrecord h hcounter hlength => h.afterAppend env hrecord hcounter hlength

end WrittenLog

/-! ## Opening chunks under a shared key -/

namespace SealLog

variable {header : Bytes} {file : SealedFile} {call : SealCall} {index : Nat}

section

variable (hlog : SealLog header file) (hcall : file.seals[index]? = some call)
include hlog hcall

theorem lt_of_getElem? : index < u32Max := by
  obtain ⟨hindex, -⟩ := List.getElem?_eq_some_iff.mp hcall
  exact lt_of_lt_of_le (hlog.counter_eq ▸ hindex) hlog.counter_le

/-- The call at a position was made under the nonce and the data of that position. -/
theorem call_at : call.nonce = nonce header index ∧ call.aad = aad header index := by
  obtain ⟨hindex, -⟩ := List.getElem?_eq_some_iff.mp hcall
  have hcounter : index < file.counter := hlog.counter_eq ▸ hindex
  have hnonces := congrArg (·[index]?) hlog.nonces
  have haads := congrArg (·[index]?) hlog.aads
  simp only [getElem?_map, hcall, getElem?_range hcounter, map_some, some.injEq] at hnonces haads
  exact ⟨hnonces, haads⟩

end

/-- A call with the data of a position stands at that position. -/
theorem at_of_aad (hlog : SealLog header file) (hcall : call ∈ file.seals)
    (hindex : index < 256 ^ 4) (haad : call.aad = aad header index) :
    file.seals[index]? = some call := by
  obtain ⟨position, hposition⟩ := mem_iff_getElem?.mp hcall
  have hlt := hlog.lt_of_getElem? hposition
  have heq : aad header index = aad header position := haad.symm.trans (hlog.call_at hposition).2
  obtain ⟨-, rfl⟩ := aad_inj rfl hindex (by simp only [u32Max] at hlt; omega) heq
  exact hposition

end SealLog

/-- The calls made under the key of a recording: its own, and those of
recordings with another header. -/
structure KeyLog (identity : RecordingIdentity) (file : SealedFile) (calls : List SealCall) :
    Prop where
  own : ∀ call ∈ file.seals, call ∈ calls
  other : ∀ call ∈ calls, call ∈ file.seals ∨ ∃ foreign : RecordingIdentity,
    foreign.header ≠ identity.header ∧ ∃ counter, call.aad = aad foreign.header counter

namespace KeyLog

variable {identity : RecordingIdentity} {file : SealedFile} {calls : List SealCall}
  {call : SealCall} {index : Nat}

/-- A recording alone under its key. -/
theorem alone (identity : RecordingIdentity) (file : SealedFile) :
    KeyLog identity file file.seals := ⟨fun _ hcall => hcall, fun _ hcall => .inl hcall⟩

variable (hkey : KeyLog identity file calls) (hlog : SealLog identity.header file)
include hkey hlog

/-- Only the recording's own call at a position used the data of that position. -/
theorem at_of_aad (hcall : call ∈ calls) (hindex : index < 256 ^ 4)
    (haad : call.aad = aad identity.header index) : file.seals[index]? = some call := by
  rcases hkey.other call hcall with hown | ⟨foreign, hheader, counter, hforeign⟩
  · exact hlog.at_of_aad hown hindex haad
  · have hlength : foreign.header.length = identity.header.length := by
      rw [foreign.length_header, identity.length_header]
    exact absurd (append_inj (hforeign.symm.trans haad) hlength).1 hheader

theorem openWith_own (hcall : file.seals[index]? = some call) {ciphertext : Bytes}
    (hciphertext : call.ciphertext = some ciphertext) :
    openWith calls (nonce identity.header index) (aad identity.header index) ciphertext =
      some call.plaintext := by
  have hlt := hlog.lt_of_getElem? hcall
  obtain ⟨hnonce, haad⟩ := hlog.call_at hcall
  rw [← hnonce, ← haad]
  refine openWith_of_unique (hkey.own call (mem_of_getElem? hcall)) hciphertext ?_
  intro other hother _ hsame
  have hthere := hkey.at_of_aad hlog hother (by simp only [u32Max] at hlt; omega) (hsame.trans haad)
  exact some.inj (hthere.symm.trans hcall)

/-- What opens at a position is the ciphertext of the call made there. -/
theorem call_of_openWith (hindex : index < 256 ^ 4) {body record : Bytes}
    (hopen : openWith calls (nonce identity.header index) (aad identity.header index) body =
      some record) :
    ∃ call, file.seals[index]? = some call ∧ call.ciphertext = some body ∧
      call.plaintext = record := by
  obtain ⟨call, hcall, -, haad, hciphertext, hplaintext⟩ := exists_call_of_openWith hopen
  exact ⟨call, hkey.at_of_aad hlog hcall hindex haad, hciphertext, hplaintext⟩

end KeyLog

/-! ## Reading the file -/

/-- The chunks that records decode to. -/
def Decodes (records : List Bytes) (chunks : List RecordedChunk) : Prop :=
  records.map decodeChunk = chunks.map .ok

theorem Decodes.length_eq (h : Decodes written chunks) : written.length = chunks.length := by
  simpa using congrArg length h

variable {chunk : RecordedChunk}

theorem Decodes.getElem? (h : Decodes written chunks) {index : Nat}
    (hrecord : written[index]? = some record) (hchunk : chunks[index]? = some chunk) :
    decodeChunk record = .ok chunk := by
  have hat := congrArg (·[index]?) h
  simpa only [getElem?_map, hrecord, hchunk, map_some, some.injEq] using hat

theorem Decodes.push (h : Decodes written chunks) (hdecode : decodeChunk record = .ok chunk) :
    Decodes (written ++ [record]) (chunks ++ [chunk]) := by
  unfold Decodes at h ⊢
  rw [map_append, map_append, h, map_singleton, hdecode, map_singleton]

namespace SealedFile

/-- What each sealing call produced, in order. -/
def ciphertexts (file : SealedFile) : List Bytes :=
  file.seals.map fun call => call.ciphertext.getD []

/-- The records sealed so far, in order. -/
def records (file : SealedFile) : List Bytes := file.seals.map SealCall.plaintext

/-- Where the first `count` chunks end. -/
def boundary (file : SealedFile) (count : Nat) : Nat :=
  headerLen + ((file.ciphertexts.take count).flatMap frame).length

theorem flatMap_chunkBytes (file : SealedFile) :
    file.seals.flatMap chunkBytes = file.ciphertexts.flatMap frame := by
  rw [ciphertexts, flatMap_map]
  rfl

theorem boundary_mono (file : SealedFile) {first second : Nat} (hle : first ≤ second) :
    file.boundary first ≤ file.boundary second := by
  have hsublist := (take_sublist_take_left hle : (file.ciphertexts.take first).Sublist _)
  exact Nat.add_le_add_left (hsublist.flatMap frame).length_le _

end SealedFile

namespace WrittenLog

variable {identity : RecordingIdentity} {file : SealedFile} {calls : List SealCall}
  (h : WrittenLog identity file)

include h

theorem exists_decodes : ∃ chunks, Decodes file.records chunks := by
  have hreadable : ∀ record ∈ file.records, ∃ chunk, decodeChunk record = .ok chunk := by
    intro record hrecord
    obtain ⟨call, hcall, rfl⟩ := mem_map.mp hrecord
    exact ((h.emitted call hcall).readable false).2
  generalize file.records = records at hreadable
  induction records with
  | nil => exact ⟨[], rfl⟩
  | cons record records ih =>
    obtain ⟨chunk, hchunk⟩ := hreadable record mem_cons_self
    obtain ⟨chunks, hchunks⟩ := ih fun other hother => hreadable other (.tail _ hother)
    exact ⟨chunk :: chunks, cons_eq_cons.mpr ⟨hchunk, hchunks⟩⟩

theorem content_eq (hall : file.AllAppended identity.header) :
    file.content = identity.header ++ file.ciphertexts.flatMap frame := by
  rw [(h.whole hall).1, hall, file.flatMap_chunkBytes]

variable (hkey : KeyLog identity file calls) (hall : file.AllAppended identity.header)
  (hdecodes : Decodes file.records chunks) (strict : Bool)

include hkey hall hdecodes

/-- With every append successful, every chunk opens to the record sealed in it. -/
theorem opensAll : OpensAll calls identity.header strict 0 file.ciphertexts chunks where
  length_eq := by
    rw [← hdecodes.length_eq, ciphertexts, records, length_map, length_map]
  opens := by
    intro index body chunk hbody hchunk
    rw [ciphertexts, getElem?_map, map_eq_some_iff] at hbody
    obtain ⟨call, hcall, rfl⟩ := hbody
    obtain ⟨ciphertext, hciphertext, hlength⟩ := (h.whole hall).2 call (mem_of_getElem? hcall)
    have hrecord : file.records[index]? = some call.plaintext := by
      rw [records, getElem?_map, hcall, map_some]
    rw [hciphertext, zero_add]
    refine ⟨hlength, (openChunk_eq_ok calls).mpr ⟨call.plaintext,
      hkey.openWith_own h.log hcall hciphertext, ?_, h.log.lt_of_getElem? hcall⟩⟩
    rw [identity.isTimedHeader_header, ((h.emitted call (mem_of_getElem? hcall)).readable strict).1]
    exact hdecodes.getElem? hrecord hchunk

/-- The whole file yields every chunk and then its end. -/
theorem readout_whole :
    (RecordedChunks.start file.content strict).readout calls = ⟨chunks, .ok false⟩ := by
  have hread := readout_frames calls identity.header strict []
    (h.opensAll hkey hall hdecodes strict)
  rw [append_nil, readout_nil] at hread
  rw [h.content_eq hall, start_header, hread, RecordedChunks.Readout.prepend, append_nil]

/-- Any prefix of the file yields the chunks that are whole in it and no error. -/
theorem readout_prefix {length : Nat} (hheader : headerLen ≤ length)
    (hlength : length ≤ file.content.length) :
    ∃ count truncated, count ≤ chunks.length ∧
      (∀ index < chunks.length, index < count ↔ file.boundary (index + 1) ≤ length) ∧
      (RecordedChunks.start (file.content.take length) strict).readout calls =
        ⟨chunks.take count, .ok truncated⟩ ∧
      (truncated = true ↔ ∀ index ≤ chunks.length, length ≠ file.boundary index) := by
  have hopens := h.opensAll hkey hall hdecodes strict
  have hcontent := h.content_eq hall
  obtain ⟨count, rfl⟩ := Nat.exists_eq_add_of_le hheader
  have htake : file.content.take (headerLen + count) =
      identity.header ++ (file.ciphertexts.flatMap frame).take count := by
    rw [hcontent, ← identity.length_header, take_length_add_append]
  have hcount : count ≤ (file.ciphertexts.flatMap frame).length := by
    rw [hcontent, length_append, identity.length_header] at hlength
    exact le_of_add_le_add_left hlength
  have hboundary : ∀ index, file.boundary index =
      headerLen + ((file.ciphertexts.take index).flatMap frame).length := fun _ => rfl
  rcases take_flatMap_frame hcount with hfull | ⟨index, body, kept, hbody, hkept, hcut, hrest⟩
  · -- Nothing is cut off.
    have hend : headerLen + count = file.boundary chunks.length := by
      rw [hboundary, ← hopens.length_eq, take_length, hfull]
    refine ⟨chunks.length, false, le_rfl, fun index hindex => ?_, ?_, ?_⟩
    · rw [hend]
      exact iff_of_true hindex (file.boundary_mono hindex)
    · have hwhole : file.content.take (headerLen + count) = file.content := by
        rw [htake, hfull, take_length, hcontent]
      rw [hwhole, h.readout_whole hkey hall hdecodes strict, take_length]
    · simp only [Bool.false_eq_true, false_iff]
      exact fun hnone => hnone chunks.length le_rfl hend
  · -- The cut falls into the chunk at `index`.
    have hindex : index < chunks.length := by
      rw [← hopens.length_eq]
      exact (List.getElem?_eq_some_iff.mp hbody).1
    have hnext : headerLen + count < file.boundary (index + 1) := by
      rw [hboundary, take_add_one, hbody]
      simp only [toList_some, flatMap_append, flatMap_singleton, length_append]
      omega
    have hstart : headerLen + count = file.boundary index + kept := by
      rw [hboundary, hcut, add_assoc]
    have hbodyLength : body.length ≤ maxChunkCiphertextBytes :=
      (hopens.opens hbody (getElem?_eq_getElem hindex)).1
    refine ⟨index, decide (kept ≠ 0), hindex.le, fun other _ => ⟨fun hless => ?_, fun hend => ?_⟩,
      ?_, ?_⟩
    · exact le_trans (file.boundary_mono hless) (hstart ▸ le_add_right _ _)
    · by_contra hlater
      exact absurd (file.boundary_mono (Nat.succ_le_succ (Nat.le_of_not_lt hlater)))
        (Nat.not_le_of_lt (lt_of_le_of_lt hend hnext))
    · rw [htake, start_header, hrest, readout_frames calls identity.header strict _
        (hopens.take index),
        readout_torn calls identity.header strict hbodyLength hkept,
        Readout.prepend, append_nil]
    · rw [decide_eq_true_iff]
      constructor
      · intro htorn other _ hsame
        rcases lt_or_ge index other with hlater | hearlier
        · have hafter : file.boundary (index + 1) ≤ file.boundary other := file.boundary_mono hlater
          omega
        · have hbefore := file.boundary_mono hearlier
          omega
      · intro hnone hzero
        exact hnone index hindex.le (by rw [hstart, hzero, add_zero])

/-- A file that has another chunk where one was written yields the chunks in
front of it and then an error. -/
theorem readout_tampered {bodies : List Bytes} {index : Nat} {body : Bytes}
    (hsame : bodies.take index = file.ciphertexts.take index) (hbody : bodies[index]? = some body)
    (hother : file.ciphertexts[index]? ≠ some body) (hfits : body.length < 256 ^ 4) :
    ∃ error, (RecordedChunks.start (identity.header ++ bodies.flatMap frame) strict).readout calls =
      ⟨chunks.take index, .error error⟩ := by
  have hopens := (h.opensAll hkey hall hdecodes strict).take index
  obtain ⟨hindex, -⟩ := List.getElem?_eq_some_iff.mp hbody
  have hshort : (file.ciphertexts.take index).length = index := by
    rw [← hsame, length_take, min_eq_left hindex.le]
  have hcounter : index < 256 ^ 4 := by
    have hmax := h.log.counter_le
    rw [h.log.counter_eq] at hmax
    simp only [u32Max] at hmax
    rw [length_take, ciphertexts, length_map] at hshort
    omega
  have hsplit : bodies = bodies.take index ++ body :: bodies.drop (index + 1) := by
    rw [← (List.getElem?_eq_some_iff.mp hbody).2, List.cons_getElem_drop_succ, take_append_drop]
  have hclosed : ∀ chunk, openChunk calls identity.header strict index body ≠ .ok chunk := by
    intro chunk hopen
    obtain ⟨record, hrecord, -, -⟩ := (openChunk_eq_ok calls).mp hopen
    obtain ⟨call, hcall, hciphertext, -⟩ := hkey.call_of_openWith h.log hcounter hrecord
    refine hother ?_
    rw [ciphertexts, getElem?_map, hcall, map_some, hciphertext, getD_some]
  obtain ⟨error, herror⟩ := readout_foreign calls identity.header strict
    ((bodies.drop (index + 1)).flatMap frame) hfits hclosed
  refine ⟨error, ?_⟩
  rw [hsplit, flatMap_append, flatMap_cons, start_header, hsame,
    readout_frames calls identity.header strict _ hopens, hshort, zero_add,
    herror, Readout.prepend, append_nil]

end WrittenLog

namespace SessionRecorder

/-- Every prefix of a recording down to its header reads as the records whose
chunks are whole in it, and a chunk other than the one written at its position
is an error there, whatever else was sealed under the key. -/
theorem crash_prefix_readable (env : Environment) {identity : RecordingIdentity}
    {limits : RecordingLimits} {started : SessionRecorder}
    (hstart : start env identity limits = .ok started) (operations : List Operation)
    {calls : List SealCall} (hkey : KeyLog identity (run env started operations).file calls)
    (hall : (run env started operations).file.AllAppended identity.header) (strict : Bool) :
    let file := (run env started operations).file
    ∃ chunks, Decodes file.records chunks ∧
      (∀ length, headerLen ≤ length → length ≤ file.content.length →
        ∃ count truncated, count ≤ chunks.length ∧
          (∀ index < chunks.length, index < count ↔ file.boundary (index + 1) ≤ length) ∧
          (RecordedChunks.start (file.content.take length) strict).readout calls =
            ⟨chunks.take count, .ok truncated⟩ ∧
          (truncated = true ↔ ∀ index ≤ chunks.length, length ≠ file.boundary index)) ∧
      (∀ (bodies : List Bytes) index body, bodies.take index = file.ciphertexts.take index →
        bodies[index]? = some body → file.ciphertexts[index]? ≠ some body →
        body.length < 256 ^ 4 →
        ∃ error, (RecordedChunks.start (identity.header ++ bodies.flatMap frame) strict).readout
          calls = ⟨chunks.take index, .error error⟩) := by
  intro file
  have hrule := WrittenLog.fileRule env identity
  have hwritten : WrittenLog identity file :=
    (FileKept.run hrule operations (FileKept.start hrule (WrittenLog.start identity) hstart)).file
  obtain ⟨chunks, hdecodes⟩ := hwritten.exists_decodes
  refine ⟨chunks, hdecodes, fun length hheader hlength => ?_,
    fun bodies index body hsame hbody hother hfits => ?_⟩
  · exact hwritten.readout_prefix hkey hall hdecodes strict hheader hlength
  · exact hwritten.readout_tampered hkey hall hdecodes strict hsame hbody hother hfits

theorem crash_prefix_readable_gap :
    let file :=
      (run .calm (startFormat (.sample false) .default) [.recordCaptureGap, .finalize]).file
    file.AllAppended (RecordingIdentity.sample false).header ∧ ∃ chunks,
      Decodes file.records chunks ∧ ∀ length, headerLen ≤ length → length ≤ file.content.length →
        ∃ count truncated,
          (RecordedChunks.start (file.content.take length) true).readout file.seals =
            ⟨chunks.take count, .ok truncated⟩ := by
  intro file
  have hstart : start .calm (.sample false) .default = .ok (startFormat (.sample false) .default) :=
    rfl
  have hall : file.AllAppended (RecordingIdentity.sample false).header := by
    unfold AllAppended
    decide +kernel
  refine ⟨hall, ?_⟩
  obtain ⟨chunks, hdecodes, hprefix, -⟩ := crash_prefix_readable .calm hstart
    [.recordCaptureGap, .finalize] (.alone _ _) hall true
  refine ⟨chunks, hdecodes, fun length hheader hlength => ?_⟩
  obtain ⟨count, truncated, -, -, hread, -⟩ := hprefix length hheader hlength
  exact ⟨count, truncated, hread⟩

end SessionRecorder

end ConversationRuntime
