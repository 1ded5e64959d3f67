import Mathlib.Data.List.Infix

/-! # Bounded channels with one sender and one receiver

A sender finds the channel open with room, full, or closed. The receiver takes
items in order and may close the channel; it acts between the accesses of the
sender, so an access is described together with what the receiver did before
it. Nothing is taken from a closed channel.
-/

namespace Foundation

structure Channel (α : Type) where
  bound : Nat
  /-- What was sent and not yet taken. -/
  buffer : List α
  /-- What the receiver has taken, in order. -/
  received : List α
  closed : Bool
deriving DecidableEq

/-- The answer to an attempt to send. -/
inductive Sending where
  | sent
  | full
  | closed
deriving DecidableEq

/-- What the receiver does between two accesses of the sender. -/
structure Receiving where
  takes : Nat
  closes : Bool
deriving DecidableEq

/-- How waiting for room ends: the receiver makes room, and may close the channel
after the item was sent; it closes the channel first; or whoever waits is
dropped. -/
inductive Awaited where
  | room (takes : Nat) (closes : Bool)
  | closed
  | dropped
deriving DecidableEq

/-- Only a sender that can be cancelled is dropped; another one waits on. -/
def Awaited.within (cancellable : Bool) : Awaited → Awaited
  | .dropped => if cancellable then .dropped else .room 0 false
  | awaited => awaited

theorem Awaited.cancellable_of_dropped {cancellable : Bool} {awaited : Awaited}
    (h : awaited.within cancellable = .dropped) : cancellable = true := by
  cases awaited <;> cases cancellable <;> simp_all [within]

namespace Channel

variable {α : Type}

def new (bound : Nat) (buffer : List α) : Channel α := ⟨bound, buffer, [], false⟩

/-- The places left for the sender. -/
def free (channel : Channel α) : Nat := channel.bound - channel.buffer.length

/-- Everything sent so far: what was taken and what waits to be. -/
def carried (channel : Channel α) : List α := channel.received ++ channel.buffer

def push (item : α) (channel : Channel α) : Channel α :=
  { channel with buffer := channel.buffer ++ [item] }

def trySend (item : α) (channel : Channel α) : Sending × Channel α :=
  if channel.closed then (.closed, channel)
  else if channel.buffer.length < channel.bound then (.sent, channel.push item)
  else (.full, channel)

def attend (receiving : Receiving) (channel : Channel α) : Channel α :=
  if channel.closed then channel
  else { channel with
    buffer := channel.buffer.drop receiving.takes
    received := channel.received ++ channel.buffer.take receiving.takes
    closed := receiving.closes }

/-- Wait until `places` places are free. The receiver takes at least the items
this needs, and does not close the channel meanwhile. -/
def awaitFree (places takes : Nat) (channel : Channel α) : Channel α :=
  channel.attend ⟨max takes (channel.buffer.length + places - channel.bound), false⟩

/-- The receiver closes the channel. -/
def close (channel : Channel α) : Channel α := { channel with closed := true }

/-- Send, waiting for room if there is none. There is no answer when the sender
is dropped while it waits. -/
def send (item : α) (awaited : Awaited) (channel : Channel α) : Option Sending × Channel α :=
  if channel.closed then (some .closed, channel)
  else match awaited with
    | .room takes closes =>
      (some .sent, ((channel.awaitFree 1 takes).push item).attend ⟨0, closes⟩)
    | .closed => (some .closed, channel.close)
    | .dropped =>
      -- A sender that finds room does not wait, and so is not dropped.
      if channel.buffer.length < channel.bound then (some .sent, channel.push item)
      else (none, channel)

section Lemmas

variable (channel : Channel α) (item : α) (receiving : Receiving)

theorem carried_push : (channel.push item).carried = channel.carried ++ [item] :=
  (List.append_assoc _ _ _).symm

/-- Taking items moves them; it neither loses nor reorders any. -/
theorem carried_attend : (channel.attend receiving).carried = channel.carried := by
  unfold attend carried
  split
  · rfl
  · simp

theorem carried_awaitFree (places takes : Nat) :
    (channel.awaitFree places takes).carried = channel.carried := carried_attend _ _

theorem attend_of_closed {channel : Channel α} (h : channel.closed = true) :
    channel.attend receiving = channel := if_pos h

theorem closed_attend_closing {takes : Nat} (channel : Channel α) :
    (channel.attend ⟨takes, true⟩).closed = true := by
  unfold attend
  split
  next h => exact h
  next => rfl

theorem received_prefix_carried : channel.received <+: channel.carried := List.prefix_append _ _

/-- What an attempt to send finds and does. -/
theorem trySend_cases : (channel.closed = true ∧ channel.trySend item = (.closed, channel)) ∨
    channel.trySend item = (.sent, channel.push item) ∨
    channel.trySend item = (.full, channel) := by
  unfold trySend
  cases h : channel.closed with
  | true => simp
  | false =>
    by_cases hroom : channel.buffer.length < channel.bound <;> simp [hroom]

/-- What sending with patience does: the item is carried, the channel was or got
closed, or the sender was dropped before a full channel. -/
theorem send_cases (awaited : Awaited) : (∃ after, channel.send item awaited = (some .sent, after) ∧
      after.carried = channel.carried ++ [item]) ∨
    (∃ after, channel.send item awaited = (some .closed, after) ∧ after.closed = true ∧
      after.carried = channel.carried) ∨
    (awaited = .dropped ∧ channel.send item awaited = (none, channel)) := by
  unfold send
  cases h : channel.closed with
  | true => simp [h]
  | false =>
    cases awaited with
    | room takes closes =>
      exact .inl ⟨_, rfl, by rw [carried_attend, carried_push, carried_awaitFree]⟩
    | closed => exact .inr (.inl ⟨_, rfl, rfl, rfl⟩)
    | dropped =>
      by_cases hroom : channel.buffer.length < channel.bound
      · simp [hroom, carried_push]
      · simp [hroom]

theorem trySend_of_closed {channel : Channel α} (h : channel.closed = true) :
    channel.trySend item = (.closed, channel) := if_pos h

end Lemmas

end Channel

end Foundation
