import ConversationRuntime.Foundation.Lists
import ConversationRuntime.Media.Hub

/-! # What the recognizer hears

The recognizer's lane loses events but says so. Everything it hears is due to one
offer: a frame to its own, a discontinuity to its own or to the first loss it
makes up for. The law of the lane is about the positions of these offers.
-/

namespace ConversationRuntime

open Foundation List

namespace RecognitionLane

/-- An event offered while the queue has room for `room` more. -/
structure Offer where
  room : Nat
  origin : MediaConnection
  event : CaptureEvent

/-- The offers made to a lane since it was attached. -/
def offerAll (owner : Nat) (offers : List Offer) : RecognitionLane :=
  offers.foldl (fun lane offer => lane.offer offer.room offer.origin offer.event)
    ⟨owner, [], none, false⟩

/-- What the recognizer receives, and the gap it is still owed. -/
def heard (lane : RecognitionLane) : List CaptureEvent :=
  lane.deliveries.map Delivery.event ++ (lane.owedGapMs.map CaptureEvent.discontinuity).toList

/-- The frame is offered and fits, with the gap that is owed before it. -/
def Passes (lane : RecognitionLane) (offer : Offer) (frame : AudioFrame) : Prop :=
  offer.event = .frame frame ∧ (if lane.owedGapMs.isSome then 2 else 1) ≤ offer.room

/-- The offer at the position was a frame that fitted. -/
def PassedAt (owner : Nat) (offers : List Offer) (index : Nat) (frame : AudioFrame) : Prop :=
  ∃ offer, offers[index]? = some offer ∧ (offerAll owner (offers.take index)).Passes offer frame

/-- The offer at the position was a discontinuity or was dropped. -/
def BrokenAt (owner : Nat) (offers : List Offer) (index : Nat) : Prop :=
  index < offers.length ∧ ∀ frame, ¬ PassedAt owner offers index frame

/-- A frame that fits is heard. Any other offer is heard as a discontinuity, unless
the last thing heard already is one. -/
theorem heard_offer (lane : RecognitionLane) (offer : Offer) :
    (∃ event, (lane.offer offer.room offer.origin offer.event).heard = lane.heard ++ [event] ∧
      ∀ frame, event = .frame frame ↔ lane.Passes offer frame) ∨
    (lane.offer offer.room offer.origin offer.event).heard = lane.heard ∧
      (∀ frame, ¬ lane.Passes offer frame) ∧
      ∃ rest atMs, lane.heard = rest ++ [.discontinuity atMs] := by
  obtain ⟨room, origin, event⟩ := offer
  cases howed : lane.owedGapMs with
  | none =>
    by_cases hroom : 1 ≤ room
    · exact .inl ⟨event, by simp [offer, howed, hroom, heard, send], by simp [Passes, howed, hroom]⟩
    · exact .inl ⟨.discontinuity (lostAtMs event), by simp [offer, howed, hroom, heard, send],
        by simp [Passes, howed, hroom]⟩
  | some owedAtMs =>
    have hlast : lane.heard = lane.deliveries.map Delivery.event ++ [.discontinuity owedAtMs] := by
      rw [heard, howed]
      rfl
    cases event with
    | frame frame =>
      by_cases hroom : 2 ≤ room
      · exact .inl ⟨.frame frame, by simp [offer, howed, hroom, heard, send],
          by simp [Passes, howed, hroom]⟩
      · exact .inr ⟨by simp [offer, howed, hroom], by simp [Passes, howed, hroom], _, _, hlast⟩
    | discontinuity atMs =>
      refine .inr ⟨?_, by simp [Passes], _, _, hlast⟩
      by_cases hroom : 1 ≤ room <;> simp [offer, howed, hroom, heard, send]

variable {owner : Nat} {offers : List Offer}

theorem passedAt_snoc {last : Offer} {index : Nat} {frame : AudioFrame} :
    PassedAt owner (offers ++ [last]) index frame ↔ PassedAt owner offers index frame ∨
      index = offers.length ∧ (offerAll owner offers).Passes last frame := by
  rcases lt_trichotomy index offers.length with hindex | rfl | hindex
  · simp [PassedAt, getElem?_append_left hindex, take_append_of_le_length hindex.le, hindex.ne]
  · simp [PassedAt]
  · have hbound : (offers ++ [last]).length ≤ index := by simpa using hindex
    simp [PassedAt, getElem?_eq_none hbound, getElem?_eq_none hindex.le, hindex.ne']

/-- What was heard with the position of the offer it is due to. By any offer, the
last thing heard is due to it or is a discontinuity. -/
structure Accounts (owner : Nat) (offers : List Offer) (account : List (Nat × CaptureEvent)) :
    Prop where
  heard : account.map Prod.snd = (offerAll owner offers).heard
  ordered : account.Pairwise (·.1 < ·.1)
  bounded : ∀ entry ∈ account, entry.1 < offers.length
  frames : ∀ index frame, (index, .frame frame) ∈ account ↔ PassedAt owner offers index frame
  covered : ∀ index < offers.length, ∃ entry ∈ account, entry.1 ≤ index ∧
    (∀ frame, entry.2 = .frame frame → entry.1 = index) ∧
    ∀ later ∈ account, entry.1 < later.1 → index < later.1

theorem Accounts.offered {account : List (Nat × CaptureEvent)} (h : Accounts owner offers account)
    (last : Offer) : ∃ account, Accounts owner (offers ++ [last]) account := by
  have hafter : (offerAll owner (offers ++ [last])).heard =
      ((offerAll owner offers).offer last.room last.origin last.event).heard := by
    simp [offerAll]
  rcases heard_offer (offerAll owner offers) last with
    ⟨event, hheard, hevent⟩ | ⟨hheard, hbroken, rest, atMs, hlast⟩
  · refine ⟨account ++ [(offers.length, event)], ?_, pairwise_snoc h.ordered h.bounded, ?_, ?_, ?_⟩
    · rw [hafter, hheard, ← h.heard, map_append]
      rfl
    · exact forall_mem_snoc (fun entry hentry => (h.bounded entry hentry).trans (by simp)) (by simp)
    · intro index frame
      rw [passedAt_snoc, ← h.frames, ← hevent]
      simp [eq_comm]
    · intro index hindex
      rcases Nat.lt_succ_iff_lt_or_eq.mp (by simpa using hindex) with hold | rfl
      · obtain ⟨entry, hentry, hle, hframe, hlater⟩ := h.covered index hold
        exact ⟨entry, mem_append_left _ hentry, hle, hframe, forall_mem_snoc hlater fun _ => hold⟩
      · refine ⟨(offers.length, event), by simp, le_rfl, fun _ _ => rfl, forall_mem_snoc ?_ id⟩
        exact fun entry hentry hlater => absurd hlater (h.bounded entry hentry).asymm
  · refine ⟨account, hafter ▸ hheard ▸ h.heard, h.ordered, ?_, ?_, ?_⟩
    · exact fun entry hentry => (h.bounded entry hentry).trans (by simp)
    · intro index frame
      simp [passedAt_snoc, h.frames, hbroken]
    · intro index hindex
      rcases Nat.lt_succ_iff_lt_or_eq.mp (by simpa using hindex) with hold | rfl
      · exact h.covered index hold
      · -- The offer is made up for by the last thing heard.
        rw [← h.heard] at hlast
        obtain ⟨earlier, ends, rfl, -, hends⟩ := map_eq_append_iff.mp hlast
        obtain ⟨⟨cause, event⟩, rfl, rfl⟩ := map_eq_singleton_iff.mp hends
        have hmem : (cause, .discontinuity atMs) ∈
            earlier ++ [(cause, .discontinuity atMs)] := by simp
        refine ⟨_, hmem, (h.bounded _ hmem).le, by simp, forall_mem_snoc ?_ ?_⟩
        · intro entry hentry hlater
          have hbefore := (pairwise_append.mp h.ordered).2.2 entry hentry _ (mem_singleton_self _)
          exact absurd hlater hbefore.asymm
        · exact fun hlater => absurd hlater (lt_irrefl _)

/-- The recognizer hears, in order and once each, the frames that fitted, and
between two frames a discontinuity exactly if an offer between them was a
discontinuity or was dropped. No two things it hears are due to one offer. -/
theorem lossy_but_honest (owner : Nat) (offers : List Offer) :
    ∃ account : List (Nat × CaptureEvent),
      account.map Prod.snd = (offerAll owner offers).heard ∧ account.Pairwise (·.1 < ·.1) ∧
      (∀ index frame, (index, .frame frame) ∈ account ↔ PassedAt owner offers index frame) ∧
      (∀ index atMs, (index, .discontinuity atMs) ∈ account → BrokenAt owner offers index) ∧
      ∀ before middle after first last one two,
        account = before ++ (first, .frame one) :: (middle ++ (last, .frame two) :: after) →
        ((∃ index atMs, (index, .discontinuity atMs) ∈ middle) ↔
          ∃ index, first < index ∧ index < last ∧ BrokenAt owner offers index) := by
  have haccounts : ∃ account, Accounts owner offers account := by
    induction offers using reverseRecOn with
    | nil => exact ⟨[], rfl, .nil, by simp, by simp [PassedAt], by simp⟩
    | append_singleton offers last ih =>
      obtain ⟨account, h⟩ := ih
      exact h.offered last
  obtain ⟨account, h⟩ := haccounts
  have hbreaks : ∀ index atMs, (index, .discontinuity atMs) ∈ account →
      BrokenAt owner offers index := by
    refine fun index atMs hmem => ⟨h.bounded _ hmem, fun frame hpassed => ?_⟩
    have hdistinct : (account.map Prod.fst).Nodup :=
      pairwise_map.mpr (h.ordered.imp fun hlt => hlt.ne)
    cases inj_on_of_nodup_map hdistinct hmem ((h.frames _ _).mpr hpassed) rfl
  refine ⟨account, h.heard, h.ordered, h.frames, hbreaks, ?_⟩
  rintro before middle after first last one two rfl
  obtain ⟨-, hrest, hbefore⟩ := pairwise_append.mp h.ordered
  obtain ⟨hfirst, hrest⟩ := pairwise_cons.mp hrest
  obtain ⟨-, hrest, hmiddle⟩ := pairwise_append.mp hrest
  have hafter := (pairwise_cons.mp hrest).1
  constructor
  · rintro ⟨index, atMs, hmem⟩
    refine ⟨index, hfirst _ (mem_append_left _ hmem), ?_, hbreaks index atMs (by simp [hmem])⟩
    exact hmiddle _ hmem _ mem_cons_self
  · rintro ⟨index, hpast, hshort, hbound, hbroken⟩
    obtain ⟨⟨cause, event⟩, hmem, hle, hframe, hlater⟩ := h.covered index hbound
    cases event with
    | frame frame =>
      cases hframe frame rfl
      exact absurd ((h.frames _ _).mp hmem) (hbroken frame)
    | discontinuity atMs =>
      refine ⟨cause, atMs, ?_⟩
      simp only [mem_append, mem_cons, Prod.mk.injEq, reduceCtorEq, and_false, false_or] at hmem
      rcases hmem with hmem | hmem | hmem
      · have hearly := hbefore _ hmem _ mem_cons_self
        exact absurd (hlater _ (by simp) hearly) hpast.asymm
      · exact hmem
      · exact absurd (hafter _ hmem) (hle.trans_lt hshort).asymm

end RecognitionLane

end ConversationRuntime
