/-
# Totals

Sums of counts, and running sums that have to fit into 64 bits.
-/
import CompactGraph.Error

namespace CompactGraph

/-! ## Sums -/

/-- The sum of counts. -/
def total (counts : List Nat) : Nat := counts.foldl (fun sum count => sum + count) 0

theorem foldl_add_eq (counts : List Nat) (start : Nat) :
    counts.foldl (fun sum count => sum + count) start = start + total counts := by
  induction counts generalizing start with
  | nil => rfl
  | cons count rest ih =>
    have hrest : total (count :: rest) = 0 + count + total rest := ih (0 + count)
    rw [List.foldl_cons, ih, hrest]
    omega

@[simp] theorem total_nil : total [] = 0 := rfl

@[simp] theorem total_cons (count : Nat) (rest : List Nat) :
    total (count :: rest) = count + total rest := by
  have h : total (count :: rest) = 0 + count + total rest := foldl_add_eq rest (0 + count)
  omega

/-! ## Running sums -/

/-- Sums that need more than 64 bits are refused. -/
def offsetLimit : Nat := UInt64.size

/-- Running totals of `counts`, each of them before its count is added, and the total of all.
`before` holds the totals found so far and `sum` is the last of them. -/
def prefixSumsFrom (before : Array Nat) (sum : Nat) : List Nat → Except LoadError (Array Nat)
  | [] => .ok before
  | count :: rest =>
    if sum + count < offsetLimit then prefixSumsFrom (before.push (sum + count)) (sum + count) rest
    else .error (.capacityExceeded .offsetsOverflow)

/-- The sum of the counts before each place, and of all counts at the end. -/
def prefixSums (counts : List Nat) : Except LoadError (Array Nat) := prefixSumsFrom #[0] 0 counts

end CompactGraph
