/-
# Parallel relationships

Several relationships may connect the same ordered pair of nodes while the loaded graph keeps one
weight per pair.  A `DuplicatePolicy` says how two weights become one.
-/

namespace CompactGraph

/-- What becomes of the weights of relationships that connect the same pair. -/
inductive DuplicatePolicy where
  /-- No two weights may meet. -/
  | reject
  /-- The first weight stays. -/
  | keepFirst
  /-- Weights add up. -/
  | sum
  /-- The smallest weight stays. -/
  | least
  /-- The largest weight stays. -/
  | greatest
  deriving DecidableEq, Repr, Inhabited

/-- The smaller of two weights.  A NaN gives way to the other one, and of equal ones the first
stays. -/
def leastWeight (a b : Float) : Float := if a.isNaN || b < a then b else a

/-- The larger of two weights.  A NaN gives way to the other one, and of equal ones the first
stays. -/
def greatestWeight (a b : Float) : Float := if a.isNaN || a < b then b else a

namespace DuplicatePolicy

/-- The weight that replaces a stored one when another arrives; `none` when they may not meet. -/
def merge (policy : DuplicatePolicy) (stored arriving : Float) : Option Float :=
  match policy with
  | reject => none
  | keepFirst => some stored
  | sum => some (stored + arriving)
  | least => some (leastWeight stored arriving)
  | greatest => some (greatestWeight stored arriving)

/-- Whether a later relationship between the same pair can still matter. -/
def needsLater (policy : DuplicatePolicy) : Bool := policy != keepFirst

/-- The name by which a policy is printed and recognised. -/
def name : DuplicatePolicy → String
  | reject => "none"
  | keepFirst => "skip"
  | sum => "sum"
  | least => "min"
  | greatest => "max"

/-- The policy that a normalised word stands for. -/
def ofWord? : String → Option DuplicatePolicy
  | "none" => some reject
  | "skip" => some keepFirst
  | "sum" => some sum
  | "min" => some least
  | "max" => some greatest
  | _ => none

/-- Every policy is recognised by its own name. -/
theorem ofWord?_name (policy : DuplicatePolicy) : ofWord? policy.name = some policy := by
  cases policy <;> rfl

/-- Only rejecting leaves a conflict unresolved. -/
theorem merge_eq_none_iff {policy : DuplicatePolicy} {a b : Float} :
    policy.merge a b = none ↔ policy = reject := by
  cases policy <;> simp [merge]

end DuplicatePolicy

end CompactGraph
