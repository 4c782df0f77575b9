/-
# Merging the weights of partitions

Merging the tables of all partitions in order writes, for each pair, the weights that the tables hold.
So if each table is what some writes have made of an empty one, the merged table answers as if all
writes had gone into one table.
-/
import CompactGraph.Proofs.Weight.Merging
import CompactGraph.Load.Run

namespace CompactGraph

namespace LoadRun

/-! ## Tables -/

/-- Merging nothing. -/
theorem mergeWeights_none {weights : List (Option WeightTable)} (h : ∀ table ∈ weights, table = none) :
    mergeWeights none weights = .ok none := by
  induction weights with
  | nil => rfl
  | cons table weights ih =>
    obtain rfl : table = none := h table List.mem_cons_self
    exact ih fun other hother => h other (List.mem_cons_of_mem _ hother)

/-- Merging more tables into one. -/
theorem mergeWeights_some {rules : WeightRules} {others : List WeightTable} :
    ∀ {table : WeightTable} {merged : Option WeightTable}, table.Sound → table.rules = rules →
      (∀ other ∈ others, other.Sound) →
      mergeWeights (some table) (others.map some) = .ok merged →
      ∃ final, merged = some final ∧ final.Sound ∧ final.rules = rules ∧
        ∀ key, (others.flatMap fun other => (other.find? key).toList).foldlM rules.receive
          (table.find? key) = some (final.find? key) := by
  induction others with
  | nil =>
    intro table merged h hrules _ hmerge
    cases hmerge
    exact ⟨table, rfl, h, hrules, fun _ => rfl⟩
  | cons other others ih =>
    intro table merged h hrules hothers hmerge
    have hother := hothers other List.mem_cons_self
    rw [List.map_cons] at hmerge
    simp only [mergeWeights] at hmerge
    cases hstep : WeightTable.mergeFrom other table with
    | error error _ =>
      rw [hstep] at hmerge
      cases hmerge
    | ok _ middle =>
      rw [hstep] at hmerge
      obtain ⟨hmiddle, hsame, hfold⟩ := h.mergeFrom hother hstep
      obtain ⟨final, hfinal, hsound, hrules', hfold'⟩ := ih hmiddle (hsame.trans hrules)
        (fun other' hother' => hothers other' (List.mem_cons_of_mem _ hother')) hmerge
      refine ⟨final, hfinal, hsound, hrules', fun key => ?_⟩
      rw [List.flatMap_cons, List.foldlM_append, ← hrules, hfold key, hrules]
      exact hfold' key

/-- Tables can be merged if no two weights meet that may not. -/
theorem exists_mergeWeights {rules : WeightRules} {others : List WeightTable} :
    ∀ {table : WeightTable}, table.Sound → table.rules = rules →
      (∀ other ∈ others, other.Sound ∧ other.rules = rules) →
      (∀ key, (others.flatMap fun other => (other.find? key).toList).foldlM rules.receive
        (table.find? key) ≠ none) →
      ∃ merged, mergeWeights (some table) (others.map some) = .ok merged := by
  induction others with
  | nil =>
    intro table _ _ _ _
    exact ⟨some table, rfl⟩
  | cons other others ih =>
    intro table h hrules hothers hfold
    obtain ⟨hother, hother'⟩ := hothers other List.mem_cons_self
    have hpolicy : other.policy = table.policy := by
      have heq := congrArg WeightRules.policy (hother'.trans hrules.symm)
      exact heq
    have hfirst : ∀ key, (other.find? key).toList.foldlM table.rules.receive (table.find? key)
        ≠ none := by
      intro key hnone
      apply hfold key
      rw [List.flatMap_cons, List.foldlM_append, ← hrules, hnone]
      rfl
    obtain ⟨middle, hstep⟩ := h.exists_mergeFrom hother hpolicy hfirst
    obtain ⟨hmiddle, hsame, hmerged⟩ := h.mergeFrom hother hstep
    rw [List.map_cons]
    simp only [mergeWeights, hstep]
    apply ih hmiddle (hsame.trans hrules)
      fun other' hother' => hothers other' (List.mem_cons_of_mem _ hother')
    -- a conflict later on would be one of all weights together
    intro key hnone
    apply hfold key
    rw [List.flatMap_cons, List.foldlM_append, ← hrules, hmerged key, hrules]
    exact hnone

/-- **Tables cannot be merged** if two weights of a pair may not meet. -/
theorem refused_of_mergeWeights {rules : WeightRules} {others : List WeightTable} {error : LoadError} :
    ∀ {table : WeightTable}, table.Sound → table.rules = rules →
      (∀ other ∈ others, other.Sound ∧ other.rules = rules) →
      mergeWeights (some table) (others.map some) = .error error →
      ∃ key, error = .duplicateRelationship key.source key.target ∧ rules.policy = .reject ∧
        2 ≤ (table.find? key).toList.length
          + (others.flatMap fun other => (other.find? key).toList).length := by
  induction others with
  | nil =>
    intro table _ _ _ hmerge
    cases hmerge
  | cons other others ih =>
    intro table h hrules hothers hmerge
    obtain ⟨hother, hother'⟩ := hothers other List.mem_cons_self
    have hpolicy : other.policy = table.policy :=
      congrArg WeightRules.policy (hother'.trans hrules.symm)
    rw [List.map_cons] at hmerge
    simp only [mergeWeights] at hmerge
    cases hstep : WeightTable.mergeFrom other table with
    | error own after =>
      rw [hstep] at hmerge
      cases hmerge
      obtain ⟨key, hown, hreject, hmany⟩ := h.refused_of_mergeFrom hother hpolicy hstep
      refine ⟨key, hown, (congrArg WeightRules.policy hrules).symm.trans hreject, ?_⟩
      rw [List.flatMap_cons, List.length_append]
      omega
    | ok _ middle =>
      rw [hstep] at hmerge
      obtain ⟨hmiddle, hsame, hfold⟩ := h.mergeFrom hother hstep
      obtain ⟨key, hown, hreject, hmany⟩ := ih hmiddle (hsame.trans hrules)
        (fun other' hother' => hothers other' (List.mem_cons_of_mem _ hother')) hmerge
      refine ⟨key, hown, hreject, ?_⟩
      have hheld := WeightRules.length_of_foldlM_receive (hfold key)
      rw [List.flatMap_cons, List.length_append]
      omega

/-! ## Partitions -/

/-- A table that writes have made of an empty one. -/
structure MadeOf (rules : WeightRules) (writes : List (PairKey × Float)) (table : WeightTable) :
    Prop where
  sound : table.Sound
  same_rules : table.rules = rules
  held : ∀ key, (weightsUnder key writes).foldlM rules.receive none = some (table.find? key)

variable {rules : WeightRules} {parts : List (List (PairKey × Float))} {tables : List WeightTable}

theorem heldAfter_of_madeOf (h : List.Forall₂ (MadeOf rules) parts tables) (key : PairKey) :
    rules.HeldAfter (parts.map (weightsUnder key)) (tables.map fun table => table.find? key) := by
  induction h with
  | nil => rfl
  | cons hmade _ ih =>
    rw [WeightRules.HeldAfter, List.map_cons, List.map_cons, List.map_cons, List.map_cons, hmade.held]
    exact congrArg _ ih

variable {part : List (PairKey × Float)} {table : WeightTable}

/-- Merging the other tables into the first is merging all of them into an empty one. -/
theorem foldlM_first (h : MadeOf rules part table) {key : PairKey}
    (hfew : (weightsUnder key part).length ≤ rules.fewWeights) :
    (((table :: tables).map fun other => other.find? key).flatMap Option.toList).foldlM
        rules.receive none
      = (tables.flatMap fun other => (other.find? key).toList).foldlM rules.receive
        (table.find? key) := by
  rw [List.map_cons, List.flatMap_cons, List.foldlM_append,
    WeightRules.foldlM_held (h.held key) hfew, List.flatMap_map]
  rfl

theorem sound_of_madeOf (h : List.Forall₂ (MadeOf rules) parts tables) :
    ∀ table ∈ tables, table.Sound ∧ table.rules = rules := by
  induction h with
  | nil => exact fun table htable => by cases htable
  | cons hmade _ ih =>
    intro table htable
    rcases List.mem_cons.mp htable with rfl | htable
    · exact ⟨hmade.sound, hmade.same_rules⟩
    · exact ih table htable

/-- The weights under a pair in all parts. -/
theorem weightsUnder_flatten (key : PairKey) (parts : List (List (PairKey × Float))) :
    weightsUnder key parts.flatten = (parts.map (weightsUnder key)).flatten := by
  induction parts with
  | nil => rfl
  | cons part parts ih => rw [List.flatten_cons, weightsUnder_append, ih, List.map_cons, List.flatten_cons]

theorem length_weightsUnder_le (key : PairKey) (part : List (PairKey × Float))
    (parts : List (List (PairKey × Float))) :
    (weightsUnder key part).length ≤ (weightsUnder key (part :: parts).flatten).length := by
  rw [List.flatten_cons, weightsUnder_append, List.length_append]
  exact Nat.le_add_right ..

/-- What tables hold are weights that were written. -/
theorem length_held_le (h : List.Forall₂ (MadeOf rules) parts tables) (key : PairKey) :
    (tables.flatMap fun table => (table.find? key).toList).length
      ≤ (weightsUnder key parts.flatten).length := by
  induction h with
  | nil => exact Nat.le_refl _
  | cons hmade _ ih =>
    have hheld := WeightRules.length_of_foldlM_receive (hmade.held key)
    rw [Option.toList_none, List.length_nil, Nat.zero_add] at hheld
    rw [List.flatMap_cons, List.length_append, List.flatten_cons, weightsUnder_append, List.length_append]
    omega

section Merged

variable (h : List.Forall₂ (MadeOf rules) (part :: parts) (table :: tables))
  (hfew : ∀ key, (weightsUnder key (part :: parts).flatten).length ≤ rules.fewWeights)

include h hfew

/-- **Merged partitions** answer as if everything had been written into one table. -/
theorem madeOf_merged {merged : Option WeightTable}
    (hmeet : rules.policy = .reject → ∀ key, (weightsUnder key (part :: parts).flatten).length ≤ 1)
    (hmerge : mergeWeights none ((table :: tables).map some) = .ok merged) :
    ∃ final, merged = some final ∧ MadeOf rules (part :: parts).flatten final := by
  obtain ⟨hfirst, hrest⟩ := List.forall₂_cons.mp h
  obtain ⟨final, hfinal, hsound, hrules, hfold⟩ := mergeWeights_some hfirst.sound hfirst.same_rules
    (fun other hother => (sound_of_madeOf hrest other hother).1) hmerge
  refine ⟨final, hfinal, hsound, hrules, fun key => ?_⟩
  have hparts := (heldAfter_of_madeOf h key).foldlM
    (by rw [← weightsUnder_flatten]; exact hfew key)
    (by rw [← weightsUnder_flatten]; exact fun hpolicy => hmeet hpolicy key)
  rw [weightsUnder_flatten, ← hparts,
    foldlM_first hfirst ((length_weightsUnder_le key part parts).trans (hfew key))]
  exact hfold key

/-- Weights that may not meet and have been merged all the same do not meet. -/
theorem meets_of_merged {merged : Option WeightTable} (hpolicy : rules.policy = .reject)
    (hmerge : mergeWeights none ((table :: tables).map some) = .ok merged) (key : PairKey) :
    (weightsUnder key (part :: parts).flatten).length ≤ 1 := by
  by_cases hshard : rules.isShard = true
  · obtain ⟨hfirst, hrest⟩ := List.forall₂_cons.mp h
    obtain ⟨final, _, _, _, hfold⟩ := mergeWeights_some hfirst.sound hfirst.same_rules
      (fun other hother => (sound_of_madeOf hrest other hother).1) hmerge
    rw [weightsUnder_flatten]
    refine (heldAfter_of_madeOf h key).length_le hshard hpolicy ?_
    rw [foldlM_first hfirst ((length_weightsUnder_le key part parts).trans (hfew key)), hfold key]
    exact Option.some_ne_none _
  · have hone := hfew key
    rwa [WeightRules.fewWeights, if_neg hshard] at hone

omit hfew in
/-- **Partitions cannot be merged** if two weights were written under a pair and may not meet. -/
theorem refused_of_merged {error : LoadError}
    (hmerge : mergeWeights none ((table :: tables).map some) = .error error) :
    ∃ key, error = .duplicateRelationship key.source key.target ∧ rules.policy = .reject ∧
      2 ≤ (weightsUnder key (part :: parts).flatten).length := by
  obtain ⟨hfirst, hrest⟩ := List.forall₂_cons.mp h
  obtain ⟨key, hown, hreject, hmany⟩ := refused_of_mergeWeights hfirst.sound hfirst.same_rules
    (sound_of_madeOf hrest) hmerge
  have hheld := length_held_le h key
  rw [List.flatMap_cons, List.length_append] at hheld
  exact ⟨key, hown, hreject, hmany.trans hheld⟩

/-- **Partitions can be merged** if no two weights meet that may not. -/
theorem exists_merged
    (hmeet : rules.policy = .reject → ∀ key, (weightsUnder key (part :: parts).flatten).length ≤ 1) :
    ∃ merged, mergeWeights none ((table :: tables).map some) = .ok merged := by
  obtain ⟨hfirst, hrest⟩ := List.forall₂_cons.mp h
  refine exists_mergeWeights hfirst.sound hfirst.same_rules (sound_of_madeOf hrest) fun key => ?_
  have hparts := (heldAfter_of_madeOf h key).foldlM
    (by rw [← weightsUnder_flatten]; exact hfew key)
    (by rw [← weightsUnder_flatten]; exact fun hpolicy => hmeet hpolicy key)
  rw [← foldlM_first hfirst ((length_weightsUnder_le key part parts).trans (hfew key)), hparts,
    ← weightsUnder_flatten]
  exact WeightRules.foldlM_receive_ne_none fun hpolicy => hmeet hpolicy key

end Merged

end LoadRun

end CompactGraph
