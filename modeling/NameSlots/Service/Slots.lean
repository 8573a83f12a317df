/-! The slots in which operations run. -/

namespace NameSlots.Service

/-- Slots, of which some are taken. -/
structure Slots where
  capacity : Nat
  taken : Nat := 0
  taken_le : taken ≤ capacity := by omega

namespace Slots

def isFull (slots : Slots) : Bool := slots.taken == slots.capacity

/-- Takes a slot if one is free. -/
def acquire? (slots : Slots) : Option Slots :=
  if h : slots.taken < slots.capacity then
    some { slots with taken := slots.taken + 1, taken_le := h }
  else none

/-- Gives a slot back. -/
def release (slots : Slots) : Slots :=
  { slots with
    taken := slots.taken - 1
    taken_le := Nat.le_trans (Nat.sub_le _ _) slots.taken_le }

/-- Slots of which a number are held, or all if there are fewer. -/
def held (capacity count : Nat) : Slots where
  capacity
  taken := min count capacity
  taken_le := Nat.min_le_right count capacity

end Slots

end NameSlots.Service
