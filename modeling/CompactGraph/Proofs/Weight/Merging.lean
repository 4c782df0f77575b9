/-
# Weights that arrive in parts

When weights are written into several tables and the tables are merged, each pair holds in the end what
all its weights make of each other in order, provided that at most two weights are written under it, or
one at most if default weights are not kept.  A plain table that held a default weight would drop it
before it could meet another one, and a computation with floating-point numbers is not associative.
-/
import CompactGraph.Proofs.Weight.Folds
import CompactGraph.Proofs.Weight.Writes

namespace CompactGraph

namespace WeightRules

variable {rules : WeightRules}

/-! ## What a pair holds -/

/-- How many weights may be written under one pair so that the parts in which they arrive do not
matter. -/
def fewWeights (rules : WeightRules) : Nat := if rules.isShard then 2 else 1

theorem one_le_fewWeights (rules : WeightRules) : 1 ≤ rules.fewWeights := by
  unfold fewWeights
  split <;> omega

/-- Weights that arrive where one is held are folded into it. -/
theorem foldlM_receive_some (stored : Float) (weights : List Float) :
    weights.foldlM rules.receive (some stored)
      = (weights.foldlM rules.policy.merge stored).map some := by
  induction weights generalizing stored with
  | nil => rfl
  | cons weight weights ih =>
    rw [List.foldlM_cons, List.foldlM_cons]
    show ((rules.policy.merge stored weight).map some).bind _ = _
    cases rules.policy.merge stored weight with
    | none => rfl
    | some merged => exact ih merged

/-- Where default weights are kept, a pair holds the fold of its weights. -/
theorem foldlM_receive_shard (h : rules.isShard = true) {weights : List Float} (hne : weights ≠ []) :
    weights.foldlM rules.receive none = (foldWeights rules.policy weights).map some := by
  cases weights with
  | nil => exact absurd rfl hne
  | cons weight weights =>
    have hfirst : rules.receive none weight = some (some weight) := by
      simp [receive, h]
    rw [List.foldlM_cons, hfirst]
    exact foldlM_receive_some weight weights

/-- A single weight is held, unless it is the default one and those are not kept. -/
theorem foldlM_receive_single (weight : Float) :
    [weight].foldlM rules.receive none
      = some (if (weight == rules.defaultWeight && !rules.isShard) = true then none
        else some weight) := by
  rw [List.foldlM_cons]
  by_cases hdrop : (weight == rules.defaultWeight && !rules.isShard) = true
  · unfold receive
    rw [if_pos hdrop, if_pos hdrop]
    rfl
  · unfold receive
    rw [if_neg hdrop, if_neg hdrop]
    rfl

/-- **Weights can be written** if no two of them meet that may not. -/
theorem foldlM_receive_ne_none {weights : List Float}
    (hmeet : rules.policy = .reject → weights.length ≤ 1) :
    weights.foldlM rules.receive none ≠ none := by
  by_cases hpolicy : rules.policy = .reject
  · -- weights may not meet, and there is one at most
    rcases weights with _ | ⟨weight, _ | ⟨arriving, weights⟩⟩
    · exact Option.some_ne_none _
    · rw [foldlM_receive_single]
      exact Option.some_ne_none _
    · have hshort := hmeet hpolicy
      simp only [List.length_cons] at hshort
      omega
  · -- whatever is held, the next weight may meet it
    have hany : ∀ (weights : List Float) (held : Option Float),
        weights.foldlM rules.receive held ≠ none := by
      intro weights
      induction weights with
      | nil => exact fun held => Option.some_ne_none _
      | cons weight weights ih =>
        intro held
        rw [List.foldlM_cons]
        cases held with
        | none =>
          rw [receive]
          split
          · exact ih none
          · exact ih (some weight)
        | some stored =>
          obtain ⟨merged, hmerged⟩ := DuplicatePolicy.exists_merge hpolicy stored weight
          have hreceive : rules.receive (some stored) weight = some (some merged) := by
            rw [receive, hmerged]
            rfl
          rw [hreceive]
          exact ih (some merged)
    exact hany weights none

/-- Where default weights are kept, two weights that may not meet cannot both be written. -/
theorem length_le_of_foldlM_receive (hshard : rules.isShard = true) (hpolicy : rules.policy = .reject)
    {weights : List Float} (h : weights.foldlM rules.receive none ≠ none) : weights.length ≤ 1 := by
  by_contra hlong
  apply h
  rw [foldlM_receive_shard hshard (by rintro rfl; simp at hlong),
    foldWeights_eq_none_iff.mpr (Or.inr ⟨hpolicy, by omega⟩)]
  rfl

/-- No more weights are held than were held before or have been written. -/
theorem length_of_foldlM_receive {weights : List Float} {before held : Option Float}
    (h : weights.foldlM rules.receive before = some held) :
    held.toList.length ≤ before.toList.length + weights.length := by
  cases weights with
  | nil =>
    cases h
    exact Nat.le_refl _
  | cons weight weights =>
    have hone : held.toList.length ≤ 1 := by cases held <;> simp
    rw [List.length_cons]
    omega

/-- What a table holds may be written into an empty one as it is. -/
theorem foldlM_held {weights : List Float} {held : Option Float}
    (h : weights.foldlM rules.receive none = some held) (hfew : weights.length ≤ rules.fewWeights) :
    held.toList.foldlM rules.receive none = some held := by
  -- a table that keeps default weights takes whatever one like it holds
  by_cases hshard : rules.isShard = true
  · cases held with
    | none => rfl
    | some weight => exact foldlM_receive_shard hshard (List.cons_ne_nil weight [])
  · unfold fewWeights at hfew
    rw [if_neg hshard] at hfew
    rcases weights with _ | ⟨weight, _ | ⟨arriving, weights⟩⟩
    · obtain rfl : none = held := Option.some.inj h
      rfl
    · rw [foldlM_receive_single] at h
      rw [← Option.some.inj h]
      split
      · rfl
      · -- what was kept once is not the default, so it is kept again
        next hkept => rw [Option.toList_some, foldlM_receive_single, if_neg hkept]
    · simp only [List.length_cons] at hfew
      omega

/-! ## Parts -/

/-- What a pair holds after each part of its weights has been written into a table of its own. -/
def HeldAfter (rules : WeightRules) (parts : List (List Float)) (helds : List (Option Float)) : Prop :=
  parts.map (fun weights => weights.foldlM rules.receive none) = helds.map some

/-- Where default weights are kept, a table holds the fold of its weights. -/
theorem held_of_shard (hshard : rules.isShard = true) {weights : List Float} {held : Option Float}
    (h : weights.foldlM rules.receive none = some held) :
    held = foldWeights rules.policy weights := by
  by_cases hnil : weights = []
  · subst hnil
    exact (Option.some.inj h).symm
  · rw [foldlM_receive_shard hshard hnil] at h
    obtain ⟨folded, hfolded, rfl⟩ := Option.map_eq_some_iff.mp h
    exact hfolded.symm

theorem heldAfter_shard (hshard : rules.isShard = true) {parts : List (List Float)} :
    ∀ {helds : List (Option Float)}, rules.HeldAfter parts helds →
      helds = parts.map (foldWeights rules.policy) := by
  induction parts with
  | nil =>
    intro helds h
    cases helds with
    | nil => rfl
    | cons held helds => cases h
  | cons part parts ih =>
    intro helds h
    cases helds with
    | nil => cases h
    | cons held helds =>
      unfold HeldAfter at h
      rw [List.map_cons, List.map_cons, List.cons.injEq] at h
      rw [List.map_cons, ih h.2]
      rw [held_of_shard hshard h.1]

/-- Tables to which nothing was written hold nothing. -/
theorem heldAfter_nil {parts : List (List Float)} :
    ∀ {helds : List (Option Float)}, rules.HeldAfter parts helds → parts.flatten = [] →
      helds.flatMap Option.toList = [] := by
  induction parts with
  | nil =>
    intro helds h _
    cases helds with
    | nil => rfl
    | cons held helds => cases h
  | cons part parts ih =>
    intro helds h hnil
    cases helds with
    | nil => cases h
    | cons held helds =>
      unfold HeldAfter at h
      rw [List.map_cons, List.map_cons, List.cons.injEq] at h
      rw [List.flatten_cons, List.append_eq_nil_iff] at hnil
      obtain ⟨rfl, hnil⟩ := hnil
      obtain rfl : none = held := Option.some.inj h.1
      rw [List.flatMap_cons, ih h.2 hnil]
      rfl

/-- Where default weights are not kept, a single weight is held alike in any part. -/
theorem heldAfter_plain {parts : List (List Float)} :
    ∀ {helds : List (Option Float)}, rules.HeldAfter parts helds → parts.flatten.length ≤ 1 →
      (helds.flatMap Option.toList).foldlM rules.receive none
        = parts.flatten.foldlM rules.receive none := by
  induction parts with
  | nil =>
    intro helds h _
    cases helds with
    | nil => rfl
    | cons held helds => cases h
  | cons part parts ih =>
    intro helds h hshort
    cases helds with
    | nil => cases h
    | cons held helds =>
      unfold HeldAfter at h
      rw [List.map_cons, List.map_cons, List.cons.injEq] at h
      rw [List.flatten_cons, List.length_append] at hshort
      rw [List.flatMap_cons, List.flatten_cons]
      rcases part with _ | ⟨weight, _ | ⟨arriving, part⟩⟩
      · obtain rfl : none = held := Option.some.inj h.1
        exact ih h.2 (by omega)
      · -- no other part has a weight, so no other table holds one
        have hrest : parts.flatten = [] := List.eq_nil_of_length_eq_zero (by
          simp only [List.length_singleton] at hshort
          omega)
        have hothers : helds.flatMap Option.toList = [] := heldAfter_nil h.2 hrest
        rw [hothers, hrest, List.append_nil, List.append_nil, h.1]
        exact foldlM_held h.1 (Nat.le_trans (Nat.le_refl 1) (one_le_fewWeights rules))
      · simp only [List.length_cons] at hshort
        omega

theorem flatMap_toList_map {α β : Type} (f : α → Option β) (items : List α) :
    (items.map f).flatMap Option.toList = items.filterMap f := by
  induction items with
  | nil => rfl
  | cons item items ih =>
    rw [List.map_cons, List.flatMap_cons, ih, List.filterMap_cons]
    cases f item <;> rfl

/-- **Merging part by part**: what the parts of few weights come to is what they come to together. -/
theorem HeldAfter.foldlM {parts : List (List Float)} {helds : List (Option Float)}
    (h : rules.HeldAfter parts helds) (hfew : parts.flatten.length ≤ rules.fewWeights)
    (hmeet : rules.policy = .reject → parts.flatten.length ≤ 1) :
    (helds.flatMap Option.toList).foldlM rules.receive none
      = parts.flatten.foldlM rules.receive none := by
  by_cases hshard : rules.isShard = true
  · unfold fewWeights at hfew
    rw [if_pos hshard] at hfew
    rw [heldAfter_shard hshard h, flatMap_toList_map]
    by_cases hnil : parts.flatten = []
    · have hnone : parts.filterMap (foldWeights rules.policy) = [] := by
        rw [filterMap_foldWeights (length_le_of_flatten (by rw [hnil]; exact Nat.zero_le _)), hnil]
      rw [hnone, hnil]
    · have hfold := foldWeights_parts hfew hmeet
      have hsome : foldWeights rules.policy parts.flatten ≠ none := by
        rw [ne_eq, foldWeights_eq_none_iff, not_or]
        refine ⟨hnil, ?_⟩
        rintro ⟨hpolicy, hlong⟩
        have hshort := hmeet hpolicy
        omega
      -- some part holds a weight, since all of them together do
      have hne : parts.filterMap (foldWeights rules.policy) ≠ [] := by
        intro hnone
        rw [hnone] at hfold
        exact hsome hfold.symm
      rw [foldlM_receive_shard hshard hne, foldlM_receive_shard hshard hnil, hfold]
  · unfold fewWeights at hfew
    rw [if_neg hshard] at hfew
    exact heldAfter_plain h hfew

/-- Weights that may not meet and have been merged all the same were not more than one. -/
theorem HeldAfter.length_le {parts : List (List Float)} {helds : List (Option Float)}
    (h : rules.HeldAfter parts helds) (hshard : rules.isShard = true)
    (hpolicy : rules.policy = .reject)
    (hmerged : (helds.flatMap Option.toList).foldlM rules.receive none ≠ none) :
    parts.flatten.length ≤ 1 := by
  -- within a part no two weights have met, and then none across parts
  have hone : ∀ part ∈ parts, part.length ≤ 1 := by
    intro part hpart
    apply length_le_of_foldlM_receive hshard hpolicy
    have hmem : part.foldlM rules.receive none
        ∈ parts.map fun weights => weights.foldlM rules.receive none := List.mem_map_of_mem hpart
    rw [h] at hmem
    obtain ⟨held, _, heq⟩ := List.mem_map.mp hmem
    rw [← heq]
    exact Option.some_ne_none _
  have hall := length_le_of_foldlM_receive hshard hpolicy hmerged
  rwa [heldAfter_shard hshard h, flatMap_toList_map, filterMap_foldWeights hone] at hall

/-- **What a pair holds in the end**: the fold of its weights, unless that is the default weight. -/
theorem filter_held {weights : List Float} {held : Option Float}
    (h : weights.foldlM rules.receive none = some held) (hfew : weights.length ≤ rules.fewWeights) :
    (if rules.isShard then held.filter (· != rules.defaultWeight) else held)
      = (foldWeights rules.policy weights).filter (· != rules.defaultWeight) := by
  by_cases hshard : rules.isShard = true
  · rw [if_pos hshard, held_of_shard hshard h]
  · rw [if_neg hshard]
    unfold fewWeights at hfew
    rw [if_neg hshard] at hfew
    -- a default weight has been dropped when it was written
    rcases weights with _ | ⟨weight, _ | ⟨arriving, weights⟩⟩
    · exact (Option.some.inj h).symm
    · rw [foldlM_receive_single] at h
      rw [← Option.some.inj h, foldWeights_singleton, Option.filter_some]
      cases hdefault : weight == rules.defaultWeight <;> simp [hshard, hdefault, bne]
    · simp only [List.length_cons] at hfew
      omega

end WeightRules

end CompactGraph
