import ConversationRuntime.Memory.Retrieval

/-! # What is selected

A record bears on a query when one text holds the other or both share a search unit. The
records that do are ranked by a total order, and the loop over them takes each that
still fits, so a selection depends on the set of records only.
-/

namespace ConversationRuntime

open Foundation RankedMemory List

/-! ## How texts compare -/

section Comparing

variable (lowercase : String → String) (isAlphanumeric : Char → Bool)

def normalize (value : String) : List Char :=
  let trimmed := (value.toList.dropWhile isWhitespace).reverse.dropWhile isWhitespace
  (lowercase (String.ofList trimmed.reverse)).toList

/-- The units of a run of alphanumeric characters: the run itself if it is ASCII, and
otherwise its pairs of neighbours. -/
def runUnits (run : List Char) : List (List Char) :=
  if run.all (·.toNat < 128) ∨ run.length = 1 then [run]
  else (run.zip run.tail).map fun pair => [pair.1, pair.2]

/-- The loop over the characters, with the run that was read last. -/
def unitsFrom (run : List Char) : List Char → List (List Char)
  | [] => []
  | character :: rest =>
    if isAlphanumeric character then unitsFrom (run ++ [character]) rest
    else if run = [] then unitsFrom [] rest
    else runUnits run ++ unitsFrom [] rest

def searchUnits (value : List Char) : List (List Char) :=
  unitsFrom isAlphanumeric [] (value ++ [' '])

def SharesPhrase (query content : List Char) : Prop := query <:+: content ∨ content <:+: query

instance (query content : List Char) : Decidable (SharesPhrase query content) :=
  inferInstanceAs (Decidable (_ ∨ _))

def SharesUnit (query content : List Char) : Prop :=
  ∃ unit ∈ searchUnits isAlphanumeric query, unit ∈ searchUnits isAlphanumeric content

instance (query content : List Char) : Decidable (SharesUnit isAlphanumeric query content) :=
  inferInstanceAs (Decidable (∃ unit ∈ _, _))

def textRelevance (query content : String) : Relevance :=
  if SharesPhrase (normalize lowercase query) (normalize lowercase content) then .exact
  else if SharesUnit isAlphanumeric (normalize lowercase query) (normalize lowercase content) then
    .shared
  else .unrelated

end Comparing

/-! ## The ranking -/

theorem RankedMemory.before_trans (first second third : RankedMemory)
    (h : first.before second = true) (hnext : second.before third = true) :
    first.before third = true := by
  simp only [before] at h hnext ⊢
  grind

theorem RankedMemory.before_total (first second : RankedMemory) :
    (first.before second || second.before first) = true := by
  simp only [before]
  grind

theorem RankedMemory.id_of_before {first second : RankedMemory} (h : first.before second = true)
    (hback : second.before first = true) : first.record.id = second.record.id := by
  simp only [before] at h hback
  grind

/-! ## The loop over the ranked records -/

def bytesOf (memories : List RankedMemory) : Nat := (memories.map RankedMemory.bytes).sum

section Taking

variable {maximumItems maximumBytes : Nat}

/-- The memory was left out for lack of room beside the better ones. -/
def LeftOut (maximumItems maximumBytes : Nat) (selected : List RankedMemory)
    (memory : RankedMemory) : Prop :=
  let better := selected.filter (·.before memory)
  better.length = maximumItems ∨ maximumBytes < bytesOf better + memory.bytes

/-- What the loop has done with the memories it has seen. -/
structure Taking.Takes (maximumItems maximumBytes : Nat) (seen : List RankedMemory)
    (taking : Taking) : Prop where
  sublist : taking.selected.Sublist seen
  used : taking.usedBytes = bytesOf taking.selected
  items : taking.selected.length ≤ maximumItems
  bytes : taking.usedBytes ≤ maximumBytes
  counted : taking.selected.length + taking.byItemLimit + taking.byByteLimit = seen.length
  greedy : ∀ memory ∈ seen, memory ∉ taking.selected →
    LeftOut maximumItems maximumBytes taking.selected memory

theorem Taking.Takes.take {seen : List RankedMemory} {taking : Taking} {memory : RankedMemory}
    (h : taking.Takes maximumItems maximumBytes seen)
    (hbehind : ∀ other ∈ seen, other.before memory = true ∧ memory.before other = false) :
    (taking.take maximumItems maximumBytes memory).Takes maximumItems maximumBytes
      (seen ++ [memory]) := by
  have hbetter : taking.selected.filter (·.before memory) = taking.selected := by
    rw [filter_eq_self]
    exact fun other hother => (hbehind other (h.sublist.subset hother)).1
  have hskipped : LeftOut maximumItems maximumBytes taking.selected memory →
      ∀ other ∈ seen ++ [memory], other ∉ taking.selected →
        LeftOut maximumItems maximumBytes taking.selected other := by
    intro hmemory other hother hout
    rcases mem_append.mp hother with hold | hnew
    · exact h.greedy other hold hout
    · rwa [mem_singleton.mp hnew]
  have hcounted := h.counted
  have hused := h.used
  unfold Taking.take
  split
  next hfull =>
    refine ⟨h.sublist.trans (sublist_append_left _ _), hused, h.items, h.bytes, ?_,
      hskipped (.inl (by rw [hbetter, hfull]))⟩
    simp only [length_append, length_singleton]
    omega
  next hroom =>
    split
    next hlarge =>
      refine ⟨h.sublist.trans (sublist_append_left _ _), hused, h.items, h.bytes, ?_,
        hskipped (.inr (by rwa [hbetter, ← hused]))⟩
      simp only [length_append, length_singleton]
      omega
    next hfits =>
      have hitems := h.items
      refine ⟨h.sublist.append (.refl _), ?_, ?_, Nat.le_of_not_lt hfits, ?_, ?_⟩
      · simp [bytesOf, hused]
      · simp only [length_append, length_singleton]
        omega
      · simp only [length_append, length_singleton]
        omega
      · intro other hother hout
        rw [mem_append, not_or] at hout
        rcases mem_append.mp hother with hold | hnew
        · -- what is taken later is not better
          have hleft := h.greedy other hold hout.1
          unfold LeftOut at hleft ⊢
          simpa [filter_append, (hbehind other hold).2] using hleft
        · exact absurd hnew hout.2

theorem takes_foldl {ranked : List RankedMemory}
    (hsorted : ranked.Pairwise fun first second => first.before second = true)
    (hids : (ranked.map (·.record.id)).Nodup) :
    (ranked.foldl (Taking.take maximumItems maximumBytes) ⟨[], 0, 0, 0⟩).Takes maximumItems
      maximumBytes ranked := by
  induction ranked using reverseRecOn with
  | nil => exact ⟨.slnil, rfl, Nat.zero_le _, Nat.zero_le _, rfl, by simp⟩
  | append_singleton seen memory ih =>
    rw [map_append, nodup_append] at hids
    rw [pairwise_append] at hsorted
    rw [foldl_concat]
    refine (ih hsorted.1 hids.1).take fun other hother => ?_
    have hbefore := hsorted.2.2 other hother memory (mem_singleton_self _)
    refine ⟨hbefore, Bool.eq_false_iff.mpr fun hback => ?_⟩
    exact hids.2.2 _ (mem_map_of_mem hother) _ (by simp) (id_of_before hbefore hback)

end Taking

/-! ## Selections -/

section Selecting

variable {relevance : String → String → Relevance} {query : String} {now : UnixTimestampMillis}

/-- The record is there, active and not expired, and bears on the query or is a working one. -/
structure Eligible (relevance : String → String → Relevance) (query : String)
    (now : UnixTimestampMillis) (record : MemoryRecord) : Prop where
  created : record.draft.createdAt ≤ now
  updated : record.updatedAt ≤ now
  used : ∀ lastUsedAt ∈ record.lastUsedAt, lastUsedAt ≤ now
  active : record.state = .active
  unexpired : ∀ expiresAt ∈ record.draft.retention.expiresAt, now < expiresAt
  relevant : relevance query record.draft.content.text ≠ .unrelated ∨ record.draft.kind = .working

variable {memory : RankedMemory}

theorem retrievalReason_isSome_iff {record : MemoryRecord} :
    (∃ reason, retrievalReason relevance query record = some reason) ↔
      relevance query record.draft.content.text ≠ .unrelated ∨ record.draft.kind = .working := by
  unfold retrievalReason
  split <;> simp_all

theorem candidacy_ranked_iff {record : MemoryRecord} :
    (candidacy relevance query now record).ranked? = some memory ↔
      memory.record = record ∧ Eligible relevance query now record ∧
        retrievalReason relevance query record = some memory.reason := by
  constructor
  · intro h
    unfold candidacy at h
    split at h
    next => cases h
    next hthere =>
      split at h
      next => cases h
      next hunexpired =>
        split at h
        next => cases h
        next hactive =>
          split at h
          next => cases h
          next reason hreason =>
            cases h
            simp only [not_or, Nat.not_lt, Option.any_eq_true, not_exists, decide_eq_true_eq,
              not_and] at hthere hunexpired
            exact ⟨rfl, ⟨hthere.1, hthere.2.1, hthere.2.2, not_not.mp hactive,
              fun at' hat => Nat.lt_of_not_le (hunexpired.2 at' hat),
              retrievalReason_isSome_iff.mp ⟨reason, hreason⟩⟩, hreason⟩
  · rintro ⟨rfl, heligible, hreason⟩
    have hthere : ¬ (now < memory.record.draft.createdAt ∨ now < memory.record.updatedAt ∨
        memory.record.lastUsedAt.any (now < ·) = true) := by
      simpa [Option.any_eq_true] using ⟨heligible.created, heligible.updated, heligible.used⟩
    have hunexpired : ¬ (memory.record.state = .expired ∨
        memory.record.draft.retention.expiresAt.any (· ≤ now) = true) := by
      simpa [heligible.active, Option.any_eq_true] using heligible.unexpired
    rw [candidacy, if_neg hthere, if_neg hunexpired, if_neg (not_not.mpr heligible.active), hreason]
    rfl

/-- Why a memory is retrieved, from what it has in common with the query. -/
def HasReason (phrase unit : Prop) (memory : RankedMemory) : Prop :=
  match memory.reason with
  | .pinnedMatch => memory.record.pinned = true ∧ (phrase ∨ unit)
  | .exactPhrase => memory.record.pinned = false ∧ phrase
  | .sharedTerm => memory.record.pinned = false ∧ unit ∧ ¬ phrase
  | .recentWorking => memory.record.draft.kind = .working ∧ ¬ phrase ∧ ¬ unit

theorem retrievalReason_eq_some_iff {lowercase : String → String} {isAlphanumeric : Char → Bool} :
    retrievalReason (textRelevance lowercase isAlphanumeric) query memory.record =
        some memory.reason ↔
      let content := normalize lowercase memory.record.draft.content.text
      HasReason (SharesPhrase (normalize lowercase query) content)
        (SharesUnit isAlphanumeric (normalize lowercase query) content) memory := by
  obtain ⟨record, reason⟩ := memory
  dsimp only
  unfold retrievalReason textRelevance HasReason
  by_cases hphrase : SharesPhrase (normalize lowercase query)
    (normalize lowercase record.draft.content.text)
  · cases record.pinned <;> cases reason <;> simp [hphrase]
  by_cases hunit : SharesUnit isAlphanumeric (normalize lowercase query)
    (normalize lowercase record.draft.content.text)
  · cases record.pinned <;> cases reason <;> simp [hphrase, hunit]
  · cases reason <;> simp [hphrase, hunit]

/-- The records that bear on a query, best first. -/
def rankedRecords (relevance : String → String → Relevance) (query : String)
    (now : UnixTimestampMillis) (records : List MemoryRecord) : List RankedMemory :=
  ((records.map (candidacy relevance query now)).filterMap Candidacy.ranked?).mergeSort
    RankedMemory.before

variable {records : List MemoryRecord}

theorem mem_rankedRecords : memory ∈ rankedRecords relevance query now records ↔
      ∃ record ∈ records, (candidacy relevance query now record).ranked? = some memory := by
  simp [rankedRecords]

theorem ids_rankedRecords (hids : (records.map (·.id)).Nodup) :
    ((rankedRecords relevance query now records).map (·.record.id)).Nodup := by
  rw [rankedRecords, ((mergeSort_perm _ _).map _).nodup_iff]
  refine Sublist.nodup ?_ hids
  clear hids
  induction records with
  | nil => exact .slnil
  | cons record rest ih =>
    rw [map_cons]
    cases hranked : (candidacy relevance query now record).ranked? with
    | none =>
      rw [filterMap_cons_none hranked]
      exact ih.cons _
    | some memory =>
      rw [filterMap_cons_some hranked, map_cons, (candidacy_ranked_iff.mp hranked).1]
      exact ih.cons_cons _

theorem sorted_rankedRecords (records : List MemoryRecord) :
    (rankedRecords relevance query now records).Pairwise fun first second =>
      first.before second = true :=
  pairwise_mergeSort before_trans before_total _

section

variable (relevance query now) (hids : (records.map (·.id)).Nodup)
include hids

/-- A selection takes what fits of the ranked records. -/
theorem selectRecords_takes (maximumItems maximumBytes : Nat) :
    ((rankedRecords relevance query now records).foldl (Taking.take maximumItems maximumBytes)
      ⟨[], 0, 0, 0⟩).Takes maximumItems maximumBytes (rankedRecords relevance query now records) :=
  takes_foldl (sorted_rankedRecords records) (ids_rankedRecords hids)

/-- What a selection selects. -/
theorem selectRecords_selected (maximumItems maximumBytes : Nat) :
    let selected := (selectRecords relevance query now records maximumItems maximumBytes).selected
    selected.length ≤ maximumItems ∧ bytesOf selected ≤ maximumBytes ∧
      (selected.map (·.record.id)).Nodup ∧
      ∀ memory ∈ selected, memory.record ∈ records ∧
        Eligible relevance query now memory.record := by
  intro selected
  have htakes := selectRecords_takes relevance query now hids maximumItems maximumBytes
  refine ⟨htakes.items, htakes.used ▸ htakes.bytes,
    (htakes.sublist.map _).nodup (ids_rankedRecords hids), fun memory hmemory => ?_⟩
  obtain ⟨record, hrecord, hranked⟩ := mem_rankedRecords.mp (htakes.sublist.subset hmemory)
  obtain ⟨rfl, heligible, -⟩ := candidacy_ranked_iff.mp hranked
  exact ⟨hrecord, heligible⟩

/-- The records in another order are ranked the same. -/
theorem rankedRecords_perm {other : List MemoryRecord} (hperm : other.Perm records) :
    rankedRecords relevance query now other = rankedRecords relevance query now records := by
  have hsame : (rankedRecords relevance query now other).Perm
      (rankedRecords relevance query now records) :=
    (mergeSort_perm _ _).trans (((hperm.map _).filterMap _).trans (mergeSort_perm _ _).symm)
  refine hsame.eq_of_pairwise ?_ (sorted_rankedRecords other) (sorted_rankedRecords records)
  intro first second hfirst hsecond hbefore hback
  exact inj_on_of_nodup_map (ids_rankedRecords hids) (hsame.subset hfirst) hsecond
    (id_of_before hbefore hback)

end

/-- Every record is ranked or left out for one reason. -/
theorem length_candidacies (candidacies : List Candidacy) :
    candidacies.countP (· == .excludedByState) + candidacies.countP (· == .excludedByExpiry) +
      candidacies.countP (· == .excludedByRelevance) +
      (candidacies.filterMap Candidacy.ranked?).length = candidacies.length := by
  induction candidacies with
  | nil => rfl
  | cons candidacy rest ih =>
    cases candidacy <;> simp [filterMap_cons, Candidacy.ranked?] <;> omega

/-- Without a cancellation a selection takes the records that bear on the query in the
order of their ranks, each that fits beside the better ones; it accounts for all of
them, and their order does not matter. -/
theorem selection_exact (query : String) (now : UnixTimestampMillis)
    (hids : (records.map (·.id)).Nodup) (lowercase : String → String)
    (isAlphanumeric : Char → Bool) (maximumItems maximumBytes : Nat) :
    let relevance := textRelevance lowercase isAlphanumeric
    let select := fun records => selectRecords relevance query now records maximumItems maximumBytes
    let selected := (select records).selected
    let exclusions := (select records).exclusions
    let hasReason := fun memory : RankedMemory =>
      let content := normalize lowercase memory.record.draft.content.text
      HasReason (SharesPhrase (normalize lowercase query) content)
        (SharesUnit isAlphanumeric (normalize lowercase query) content) memory
    (∀ memory ∈ selected, memory.record ∈ records ∧
      Eligible relevance query now memory.record ∧ hasReason memory) ∧
    (selected.Pairwise fun first second => first.before second = true) ∧
    selected.length ≤ maximumItems ∧ bytesOf selected ≤ maximumBytes ∧
    (∀ record ∈ records, Eligible relevance query now record → ∃ memory : RankedMemory,
      memory.record = record ∧ hasReason memory ∧
        (memory ∈ selected ∨ LeftOut maximumItems maximumBytes selected memory)) ∧
    exclusions.byState + exclusions.byExpiry + exclusions.byRelevance + exclusions.byItemLimit +
      exclusions.byByteLimit + selected.length = records.length ∧
    ∀ other, other.Perm records → select other = select records := by
  intro relevance select selected exclusions hasReason
  have htakes := selectRecords_takes relevance query now hids maximumItems maximumBytes
  refine ⟨?_, (sorted_rankedRecords records).sublist htakes.sublist, htakes.items,
    htakes.used ▸ htakes.bytes, ?_, ?_, ?_⟩
  · intro memory hmemory
    obtain ⟨record, hrecord, hranked⟩ := mem_rankedRecords.mp (htakes.sublist.subset hmemory)
    obtain ⟨rfl, heligible, hreason⟩ := candidacy_ranked_iff.mp hranked
    exact ⟨hrecord, heligible, retrievalReason_eq_some_iff.mp hreason⟩
  · intro record hrecord heligible
    obtain ⟨reason, hreason⟩ := retrievalReason_isSome_iff.mpr heligible.relevant
    let memory : RankedMemory := ⟨record, reason⟩
    have hranked : memory ∈ rankedRecords relevance query now records :=
      mem_rankedRecords.mpr ⟨record, hrecord, candidacy_ranked_iff.mpr ⟨rfl, heligible, hreason⟩⟩
    exact ⟨memory, rfl, retrievalReason_eq_some_iff.mp hreason,
      or_iff_not_imp_left.mpr (htakes.greedy memory hranked)⟩
  · have hcounted := htakes.counted
    have hlength := length_candidacies (records.map (candidacy relevance query now))
    rw [rankedRecords, length_mergeSort] at hcounted
    rw [length_map] at hlength
    simp only [selected, exclusions, select, selectRecords]
    omega
  · intro other hperm
    have hranked := rankedRecords_perm relevance query now hids hperm
    have hcount : ∀ condition, (other.map (candidacy relevance query now)).countP condition =
        (records.map (candidacy relevance query now)).countP condition :=
      fun condition => (hperm.map _).countP_eq condition
    unfold rankedRecords at hranked
    simp only [select, selectRecords, hranked, hcount]

/-- A note that is kept for a session. -/
def sessionNote : MemoryDraft where
  kind := .episodic
  content := ⟨"likes tea", by decide, by decide⟩
  provenance :=
    ⟨.userProvided, ⟨"turn", by decide, by decide⟩, 1, ⟨"user", by decide, by decide⟩, none⟩
  confidence := ⟨500, by decide⟩
  createdAt := 1
  retention := .session 7
  subject := ownerId
  allowed := by decide

/-- Of three notes that bear on the query, the second does not fit beside the first and
is passed over for the third. -/
theorem selection_exact_notes :
    let note := fun id (text : MemoryContent) confidence =>
      (⟨id, { sessionNote with content := text, confidence := confidence }, .active, 1, false, 1,
        none, none, none⟩ : MemoryRecord)
    let records := [note 1 ⟨"tea", by decide, by decide⟩ ⟨200, by decide⟩,
      note 2 ⟨"likes tea and milk", by decide, by decide⟩ ⟨400, by decide⟩,
      note 3 ⟨"likes tea", by decide, by decide⟩ ⟨500, by decide⟩]
    let selected := (selectRecords (textRelevance id Char.isAlphanum) "tea" 2 records 3 16).selected
    selected.map (·.record.id) = [3, 1] ∧ bytesOf selected ≤ 16 := by
  intro note records
  have hids : (records.map (·.id)).Nodup := by decide
  have hexact := selection_exact "tea" 2 hids id Char.isAlphanum 3 16
  refine ⟨?_, hexact.2.2.2.1⟩
  -- The order of the records does not matter, so they are taken in that of their ranks.
  have hranked :
      (records.reverse.map (candidacy (textRelevance id Char.isAlphanum) "tea" 2)).filterMap
      Candidacy.ranked? = records.reverse.map (⟨·, .exactPhrase⟩) := by
    decide +kernel
  have hsame := hexact.2.2.2.2.2.2 records.reverse (reverse_perm _)
  dsimp only at hsame
  rw [← hsame, selectRecords, hranked, mergeSort_of_pairwise (by decide +kernel)]
  decide +kernel

end Selecting

end ConversationRuntime
