/-
# Folding weights

The weights of parallel relationships are folded from the left, in order of arrival
(`foldWeights`).  A fold fails only if two weights may not meet.  Weights that arrive in several parts
may be folded part by part as long as there are no more than two of them: the policies that compute with
floating-point numbers are not associative, and two weights leave nothing to associate.
-/
import Mathlib
import CompactGraph.Duplicates

namespace CompactGraph

/-- What weights make of each other in order of arrival; `none` if there are none, or if two of them may
not meet. -/
def foldWeights (policy : DuplicatePolicy) : List Float → Option Float
  | [] => none
  | weight :: weights => weights.foldlM policy.merge weight

namespace DuplicatePolicy

/-- Under a policy that lets weights meet, two weights make one. -/
theorem exists_merge {policy : DuplicatePolicy} (h : policy ≠ reject) (stored arriving : Float) :
    ∃ merged, policy.merge stored arriving = some merged := by
  rw [← Option.ne_none_iff_exists', ne_eq, merge_eq_none_iff]
  exact h

/-- Under a policy that lets weights meet, a fold from some weight on succeeds. -/
theorem exists_foldlM_merge {policy : DuplicatePolicy} (h : policy ≠ reject) (weights : List Float) :
    ∀ weight, ∃ folded, weights.foldlM policy.merge weight = some folded := by
  induction weights with
  | nil => exact fun weight => ⟨weight, rfl⟩
  | cons arriving weights ih =>
    intro weight
    obtain ⟨merged, hmerged⟩ := exists_merge h weight arriving
    rw [List.foldlM_cons, hmerged]
    exact ih merged

/-- The first weight stays when the policy says so. -/
theorem foldlM_merge_keepFirst (weights : List Float) (weight : Float) :
    weights.foldlM keepFirst.merge weight = some weight := by
  induction weights with
  | nil => rfl
  | cons arriving weights ih => exact ih

end DuplicatePolicy

variable {policy : DuplicatePolicy}

@[simp] theorem foldWeights_nil : foldWeights policy [] = none := rfl

@[simp] theorem foldWeights_singleton (weight : Float) : foldWeights policy [weight] = some weight :=
  rfl

theorem foldWeights_cons_cons (weight arriving : Float) (weights : List Float) :
    foldWeights policy (weight :: arriving :: weights)
      = (policy.merge weight arriving).bind fun merged => foldWeights policy (merged :: weights) :=
  rfl

@[simp] theorem foldWeights_toList (held : Option Float) : foldWeights policy held.toList = held := by
  cases held <;> rfl

/-- What is made of two weights, one or both of which may be missing. -/
def DuplicatePolicy.join (policy : DuplicatePolicy) : Option Float → Option Float → Option Float
  | some first, some second => policy.merge first second
  | some first, none => some first
  | none, second => second

theorem foldWeights_join (first second : Option Float) :
    foldWeights policy (first.toList ++ second.toList) = policy.join first second := by
  cases first with
  | none => exact foldWeights_toList second
  | some first =>
    cases second with
    | none => rfl
    | some second =>
      show (policy.merge first second).bind some = policy.merge first second
      exact Option.bind_fun_some _

/-- The fold that keeps the first weight looks no further. -/
theorem foldWeights_keepFirst (weights : List Float) :
    foldWeights .keepFirst weights = weights.head? := by
  cases weights with
  | nil => rfl
  | cons weight weights => exact DuplicatePolicy.foldlM_merge_keepFirst weights weight

/-- **When weights have no fold.** -/
theorem foldWeights_eq_none_iff {weights : List Float} :
    foldWeights policy weights = none ↔
      weights = [] ∨ (policy = .reject ∧ 2 ≤ weights.length) := by
  rcases weights with _ | ⟨weight, _ | ⟨arriving, weights⟩⟩
  · simp
  · simp
  · by_cases hpolicy : policy = .reject
    · rw [foldWeights_cons_cons, hpolicy]
      simp [DuplicatePolicy.merge]
    · obtain ⟨folded, hfolded⟩ :=
        DuplicatePolicy.exists_foldlM_merge hpolicy (arriving :: weights) weight
      rw [foldWeights, hfolded]
      simp [hpolicy]

/-- Parts of one weight at most fold to their weights. -/
theorem filterMap_foldWeights {parts : List (List Float)} (h : ∀ part ∈ parts, part.length ≤ 1) :
    parts.filterMap (foldWeights policy) = parts.flatten := by
  induction parts with
  | nil => rfl
  | cons part parts ih =>
    rw [List.flatten_cons, List.filterMap_cons, ih fun other hother => h other (List.mem_cons_of_mem _ hother)]
    have hpart := h part List.mem_cons_self
    rcases part with _ | ⟨weight, _ | ⟨arriving, part⟩⟩
    · rfl
    · rfl
    · simp only [List.length_cons] at hpart
      omega

/-- Parts that hold few weights together are themselves short. -/
theorem length_le_of_flatten {parts : List (List Float)} {count : Nat}
    (h : parts.flatten.length ≤ count) : ∀ part ∈ parts, part.length ≤ count :=
  fun _ hpart => (List.sublist_flatten_of_mem hpart).length_le.trans h

/-- **Folding part by part**, when there are two weights at most, is folding them all. -/
theorem foldWeights_parts {parts : List (List Float)} (h : parts.flatten.length ≤ 2)
    (hmeet : policy = .reject → parts.flatten.length ≤ 1) :
    foldWeights policy (parts.filterMap (foldWeights policy)) = foldWeights policy parts.flatten := by
  induction parts with
  | nil => rfl
  | cons part parts ih =>
    rw [List.flatten_cons, List.length_append] at h hmeet
    rw [List.flatten_cons, List.filterMap_cons]
    rcases part with _ | ⟨weight, _ | ⟨arriving, part⟩⟩
    · exact ih (by simpa using h) (by simpa using hmeet)
    · -- the other parts hold one weight at most
      simp only [List.length_singleton] at h
      rw [foldWeights_singleton]
      show foldWeights policy (weight :: _) = foldWeights policy (weight :: _)
      rw [filterMap_foldWeights (length_le_of_flatten (by omega))]
      rfl
    · -- this part holds all there are
      simp only [List.length_cons] at h hmeet
      obtain rfl : part = [] := List.eq_nil_of_length_eq_zero (by omega)
      have hrest : parts.flatten = [] := List.eq_nil_of_length_eq_zero (by omega)
      have hpolicy : policy ≠ .reject := fun hreject => by
        have hshort := hmeet hreject
        omega
      obtain ⟨merged, hmerged⟩ := DuplicatePolicy.exists_merge hpolicy weight arriving
      have hfold : foldWeights policy [weight, arriving] = some merged := by
        rw [foldWeights_cons_cons, hmerged]
        rfl
      rw [hfold, filterMap_foldWeights (length_le_of_flatten (by rw [hrest]; exact Nat.zero_le _)),
        hrest, List.append_nil, hfold]
      rfl

end CompactGraph
