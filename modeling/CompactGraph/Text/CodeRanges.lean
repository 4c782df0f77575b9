/-
# Ranges of code points

A class of characters is given by the ranges of code points that it is made of, each by its first and its
last code point.
-/

namespace CompactGraph

/-- Ranges of code points, both ends included. -/
abbrev CodeRanges := List (Nat × Nat)

namespace CodeRanges

/-- Whether a character lies in one of the ranges. -/
def contains (ranges : CodeRanges) (c : Char) : Bool :=
  ranges.any fun (low, high) => low ≤ c.toNat && c.toNat ≤ high

/-- A character lies in ranges if it lies in one of them. -/
theorem contains_of_mem {ranges : CodeRanges} {c : Char} {low high : Nat}
    (h : (low, high) ∈ ranges) (hlow : low ≤ c.toNat) (hhigh : c.toNat ≤ high) :
    ranges.contains c = true :=
  List.any_eq_true.2 ⟨(low, high), h, by simp [hlow, hhigh]⟩

end CodeRanges

end CompactGraph
