/-
# Targets in order

Sorting the targets of a node and dropping repetitions leaves the strictly ascending list of exactly
these targets, and a strictly ascending list is determined by what is in it.  A target buffer that is
filled one target after another and then flushed holds that list, whether or not it found out that the
targets came in order.
-/
import Mathlib
import CompactGraph.Adjacency.TargetBuffer

namespace CompactGraph

/-! ## The order of nodes -/

namespace NodeId

theorem le_iff {a b : NodeId} : a.le b = true ↔ a.index ≤ b.index := by
  rw [NodeId.le, decide_eq_true_iff, UInt32.le_iff_toNat_le]
  rfl

/-- Nodes with the same index are equal. -/
theorem ext_index {a b : NodeId} (h : a.index = b.index) : a = b := by
  obtain ⟨a⟩ := a
  obtain ⟨b⟩ := b
  exact congrArg NodeId.mk (UInt32.toNat_inj.mp h)

theorem le_trans (a b c : NodeId) (hab : a.le b = true) (hbc : b.le c = true) : a.le c = true := by
  rw [le_iff] at *
  omega

theorem le_total (a b : NodeId) : (a.le b || b.le a) = true := by
  rw [Bool.or_eq_true, le_iff, le_iff]
  omega

theorem isMapped_iff {node : NodeId} : node.isMapped = true ↔ node ≠ unmapped := by
  rw [isMapped, bne_iff_ne]

theorem index_unmapped : unmapped.index = maxNodeCount := rfl

/-- A node with a number that a graph can give is mapped. -/
theorem isMapped_ofIndex {index : Nat} (h : index < maxNodeCount) :
    (ofIndex index).isMapped = true := by
  rw [isMapped_iff]
  intro heq
  have hindex : (ofIndex index).index = index := index_ofIndex (by
    rw [maxNodeCount] at h
    rw [UInt32.size]
    omega)
  rw [heq, index_unmapped] at hindex
  omega

/-- Every node is the one at its index. -/
theorem ofIndex_index (node : NodeId) : ofIndex node.index = node := by
  apply ext_index
  exact index_ofIndex node.index_lt

end NodeId

/-- Targets in strictly ascending order. -/
def Ascending (targets : List NodeId) : Prop := targets.Pairwise fun a b => a.index < b.index

/-- Strictly ascending lists with the same members are equal. -/
theorem Ascending.eq_of_mem_iff {first second : List NodeId} (h : Ascending first)
    (h' : Ascending second) (hmem : ∀ node, node ∈ first ↔ node ∈ second) : first = second := by
  apply List.Pairwise.eq_of_mem_iff (r := fun a b : NodeId => a.index < b.index) h h'
  exact fun node => hmem node

theorem Ascending.nodup {targets : List NodeId} (h : Ascending targets) : targets.Nodup := by
  refine h.imp fun {a b} hlt heq => ?_
  rw [heq] at hlt
  exact lt_irrefl _ hlt

/-- A strictly ascending list is no longer than there are numbers below its members. -/
theorem Ascending.length_le {targets : List NodeId} (h : Ascending targets) {bound : Nat}
    (hbound : ∀ node ∈ targets, node.index < bound) : targets.length ≤ bound := by
  have hnodup : (targets.map NodeId.index).Nodup := by
    rw [List.nodup_map_iff_inj_on h.nodup]
    exact fun a _ b _ => NodeId.ext_index
  have hsubset : targets.map NodeId.index ⊆ List.range bound := by
    intro index hindex
    obtain ⟨node, hnode, rfl⟩ := List.mem_map.mp hindex
    exact List.mem_range.mpr (hbound node hnode)
  have hle := (List.subperm_of_subset hnodup hsubset).length_le
  rwa [List.length_map, List.length_range] at hle

/-! ## Sorting and dropping repetitions -/

theorem mem_sortTargets {node : NodeId} {targets : List NodeId} :
    node ∈ sortTargets targets ↔ node ∈ targets := List.mem_mergeSort

/-- Sorted targets are in order. -/
theorem sorted_sortTargets (targets : List NodeId) :
    (sortTargets targets).Pairwise fun a b => a.le b = true :=
  List.pairwise_mergeSort NodeId.le_trans NodeId.le_total targets

/-- Sorting changes nothing that is sorted. -/
theorem sortTargets_of_sorted {targets : List NodeId}
    (h : targets.Pairwise fun a b => a.le b = true) : sortTargets targets = targets :=
  List.mergeSort_of_pairwise h

/-- Collapsing runs loses no target. -/
theorem mem_compact {node : NodeId} (targets : List NodeId) :
    node ∈ compact targets ↔ node ∈ targets := by
  induction targets using compact.induct with
  | case1 => rfl
  | case2 a => rfl
  | case3 b rest ih =>
    rw [compact, if_pos rfl, ih]
    simp
  | case4 a b rest hne ih =>
    rw [compact, if_neg hne, List.mem_cons, ih]
    exact List.mem_cons.symm

/-- Collapsing runs of equal neighbours makes a sorted list strictly ascending. -/
theorem ascending_compact {targets : List NodeId} (h : targets.Pairwise fun a b => a.le b = true) :
    Ascending (compact targets) := by
  induction targets using compact.induct with
  | case1 => exact List.Pairwise.nil
  | case2 a => exact List.pairwise_singleton ..
  | case3 b rest ih =>
    rw [compact, if_pos rfl]
    exact ih (List.pairwise_cons.mp h).2
  | case4 a b rest hne ih =>
    rw [compact, if_neg hne]
    obtain ⟨hle, hrest⟩ := List.pairwise_cons.mp h
    refine List.pairwise_cons.mpr ⟨?_, ih hrest⟩
    intro node hnode
    rw [mem_compact] at hnode
    -- `a` comes before `b`, and what follows comes no sooner than `b`
    have hab := NodeId.le_iff.mp (hle b List.mem_cons_self)
    have hlt : a.index < b.index :=
      lt_of_le_of_ne hab fun heq => hne (NodeId.ext_index heq)
    rcases List.mem_cons.mp hnode with rfl | hmem
    · exact hlt
    · have hbn := NodeId.le_iff.mp ((List.pairwise_cons.mp hrest).1 node hmem)
      omega

/-- **Clean targets**: strictly ascending, and the same targets as before. -/
theorem ascending_compact_sortTargets (targets : List NodeId) :
    Ascending (compact (sortTargets targets)) := ascending_compact (sorted_sortTargets targets)

theorem mem_compact_sortTargets {node : NodeId} {targets : List NodeId} :
    node ∈ compact (sortTargets targets) ↔ node ∈ targets := by
  rw [mem_compact, mem_sortTargets]

theorem length_compact_le (targets : List NodeId) : (compact targets).length ≤ targets.length := by
  induction targets using compact.induct with
  | case1 => exact Nat.le_refl _
  | case2 a => exact Nat.le_refl _
  | case3 b rest ih =>
    rw [compact, if_pos rfl]
    exact Nat.le_succ_of_le ih
  | case4 a b rest hne ih =>
    rw [compact, if_neg hne]
    exact Nat.succ_le_succ ih

theorem length_compact_sortTargets_le (targets : List NodeId) :
    (compact (sortTargets targets)).length ≤ targets.length := by
  have hle := length_compact_le (sortTargets targets)
  rwa [sortTargets, List.length_mergeSort] at hle

/-! ## Buffers -/

namespace TargetBuffer

/-- What a buffer knows about the targets it holds: they are in order if it says so, and it remembers
the last of them. -/
structure Tracks (buffer : TargetBuffer) : Prop where
  sorted : buffer.sorted = true → buffer.targets.toList.Pairwise fun a b => a.le b = true
  previous : buffer.previous = buffer.targets.toList.getLast?.getD NodeId.unmapped
  mapped : ∀ node ∈ buffer.targets.toList, node.isMapped = true

theorem tracks_prepare (buffer : TargetBuffer) (source : NodeId) :
    (buffer.prepare source).Tracks where
  sorted := fun _ => List.Pairwise.nil
  previous := rfl
  mapped := by simp [prepare]

/-- A target is kept unless it is a repetition that may be skipped. -/
theorem Tracks.add {buffer : TargetBuffer} (h : buffer.Tracks) {target : NodeId}
    (hmapped : target.isMapped = true) : (buffer.add target).2.Tracks := by
  rw [TargetBuffer.add]
  split
  · exact h
  · refine ⟨?_, ?_, ?_⟩
    · intro hsorted
      simp only [Bool.and_eq_true, Bool.not_eq_true'] at hsorted
      obtain ⟨hbefore, hstep⟩ := hsorted
      rw [Array.toList_push, List.pairwise_append]
      refine ⟨h.sorted hbefore, List.pairwise_singleton .., ?_⟩
      intro a ha b hb
      obtain rfl := List.mem_singleton.mp hb
      -- every target is at most the last one, which the new one does not fall below
      have hprevious := h.previous
      rcases hlast : buffer.targets.toList.getLast? with _ | last
      · rw [List.getLast?_eq_none_iff] at hlast
        simp [hlast] at ha
      · rw [hlast, Option.getD_some] at hprevious
        have hmem : last ∈ buffer.targets.toList := List.mem_of_getLast? hlast
        have hlastmapped : buffer.previous.isMapped = true := hprevious ▸ h.mapped last hmem
        have hle : last.le b = true := by
          rw [hlastmapped, Bool.true_and, decide_eq_false_iff_not, UInt32.not_lt, hprevious] at hstep
          exact decide_eq_true hstep
        -- the others are in order already
        have hal : a = last ∨ a.le last = true := by
          obtain ⟨front, hfront⟩ := List.getLast?_eq_some_iff.mp hlast
          have hpairwise := h.sorted hbefore
          rw [hfront, List.pairwise_append] at hpairwise
          rw [hfront, List.mem_append, List.mem_singleton] at ha
          rcases ha with ha | ha
          · exact Or.inr (hpairwise.2.2 a ha last (List.mem_singleton.mpr rfl))
          · exact Or.inl ha
        rcases hal with rfl | hal
        · exact hle
        · exact NodeId.le_trans _ _ _ hal hle
    · simp
    · intro node hnode
      rw [Array.toList_push, List.mem_append, List.mem_singleton] at hnode
      rcases hnode with hnode | rfl
      · exact h.mapped node hnode
      · exact hmapped

/-- **A flushed buffer** holds its targets sorted and free of repetitions, whatever it knows about their
order. -/
theorem Tracks.flush {buffer : TargetBuffer} (h : buffer.Tracks) :
    buffer.flush.targets.toList = compact (sortTargets buffer.targets.toList) := by
  rw [TargetBuffer.flush]
  by_cases hsorted : buffer.sorted = true
  · simp only [if_pos hsorted]
    rw [sortTargets_of_sorted (h.sorted hsorted)]
  · simp only [if_neg hsorted]

end TargetBuffer

end CompactGraph
