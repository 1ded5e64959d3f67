import Mathlib.Algebra.Order.Group.Nat

/-! # Bounded counters

Natural numbers that stand for unsigned machine counters. An addition either
saturates at the bound or reports that the bound was passed; the counters
themselves stay ordinary naturals.
-/

namespace Foundation

/-- The largest 64-bit counter. -/
def u64Max : Nat := 2 ^ 64 - 1

/-- The largest 32-bit counter. -/
def u32Max : Nat := 2 ^ 32 - 1

def saturatingAdd (left right : Nat) : Nat := min (left + right) u64Max

def saturatingMul (left right : Nat) : Nat := min (left * right) u64Max

/-- A saturated count stays the saturated true count. -/
theorem saturatingAdd_min (count more : Nat) :
    saturatingAdd (min count u64Max) more = min (count + more) u64Max := by
  unfold saturatingAdd
  omega

def checkedAdd (left right : Nat) : Option Nat :=
  if left + right ≤ u64Max then some (left + right) else none

def checkedMul (left right : Nat) : Option Nat :=
  if left * right ≤ u64Max then some (left * right) else none

theorem checkedAdd_eq_some {left right total : Nat} :
    checkedAdd left right = some total ↔ total = left + right ∧ left + right ≤ u64Max := by
  unfold checkedAdd
  split
  next h => simp [h, eq_comm]
  next h => simp [h]

theorem checkedAdd_of_le {left right : Nat} (h : left + right ≤ u64Max) :
    checkedAdd left right = some (left + right) := if_pos h

end Foundation
