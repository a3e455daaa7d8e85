/-!
Sets of characters given as tables of closed intervals of code points.
-/

namespace StubLayers

/-- A set of code points, as closed intervals in increasing order. -/
abbrev Ranges := List (Nat × Nat)

namespace Ranges

def contains (table : Ranges) (code : Nat) : Bool :=
  table.any fun range => range.1 ≤ code && code ≤ range.2

theorem contains_iff (table : Ranges) (code : Nat) :
    table.contains code = true ↔ ∃ range ∈ table, range.1 ≤ code ∧ code ≤ range.2 := by
  simp [contains, List.any_eq_true]

end Ranges

end StubLayers
