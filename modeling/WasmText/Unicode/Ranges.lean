/-!
# Sets of code points

A property of characters that no short rule gives is a table: the closed intervals of code points
that have it. The tables follow version 17.0 of the standard.
-/

namespace WasmText.Unicode

/-- A set of code points, written as closed intervals in ascending order. -/
abbrev Ranges := List (Nat × Nat)

/-- Whether a code point lies in one of the intervals. -/
def Ranges.covers (ranges : Ranges) (point : Nat) : Bool :=
  ranges.any fun (first, last) => first ≤ point && point ≤ last

theorem Ranges.covers_iff (ranges : Ranges) (point : Nat) :
    ranges.covers point = true ↔ ∃ r ∈ ranges, r.1 ≤ point ∧ point ≤ r.2 := by
  simp [covers]

end WasmText.Unicode
