/-! Ordered tables: a key stands where it was put first, and has the value that was put last. -/

namespace NameSlots.Table

variable {κ α : Type} [BEq κ]

/-- Gives a key a value: in place, or at the end. -/
def put (key : κ) (value : α) : List (κ × α) → List (κ × α)
  | [] => [(key, value)]
  | (k, v) :: rest => if k == key then (k, value) :: rest else (k, v) :: put key value rest

/-- The table without a key. -/
def drop (key : κ) (table : List (κ × α)) : List (κ × α) := table.filter fun entry => entry.1 != key

/-- The table of a list of pairs. -/
def ofPairs (pairs : List (κ × α)) : List (κ × α) :=
  pairs.foldl (fun table pair => put pair.1 pair.2 table) []

end NameSlots.Table
