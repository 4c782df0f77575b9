/-
# Partitions tile the nodes

The ranges of a partition lie side by side, from the first node to the last (`Tiles`), so working
through them in order is working through all nodes in order.
-/
import Mathlib
import CompactGraph.Load.Partition

namespace CompactGraph

/-- Ranges that lie side by side from one number to another. -/
def Tiles (start : Nat) : List NodeRange → Nat → Prop
  | [], stop => start = stop
  | range :: ranges, stop => range.start = start ∧ start ≤ range.stop ∧ Tiles range.stop ranges stop

theorem Tiles.le {ranges : List NodeRange} :
    ∀ {start stop : Nat}, Tiles start ranges stop → start ≤ stop := by
  induction ranges with
  | nil => intro start stop h; exact Nat.le_of_eq h
  | cons range ranges ih =>
    intro start stop h
    exact h.2.1.trans (ih h.2.2)

/-- Each range that lies between two numbers does so the right way round. -/
theorem Tiles.bounds {ranges : List NodeRange} :
    ∀ {start stop : Nat}, Tiles start ranges stop →
      ∀ range ∈ ranges, start ≤ range.start ∧ range.start ≤ range.stop ∧ range.stop ≤ stop := by
  induction ranges with
  | nil => intro start stop _ range hrange; cases hrange
  | cons first ranges ih =>
    rintro start stop ⟨rfl, hle, hrest⟩ range hrange
    rcases List.mem_cons.mp hrange with rfl | hrange
    · exact ⟨Nat.le_refl _, hle, hrest.le⟩
    · obtain ⟨hstart, hown, hstop⟩ := ih hrest range hrange
      exact ⟨hle.trans hstart, hown, hstop⟩

theorem tiles_rangesFrom (base : Nat) (count : Nat) :
    ∀ extra start : Nat, extra ≤ count →
      Tiles start (rangesFrom base extra start count) (start + count * base + extra) := by
  induction count with
  | zero =>
    intro extra start h
    show start = _
    omega
  | succ count ih =>
    intro extra start h
    rw [rangesFrom]
    have hle : start ≤ start + base + if extra = 0 then 0 else 1 := by omega
    refine ⟨rfl, hle, ?_⟩
    have hrest := ih (extra - 1) (start + base + if extra = 0 then 0 else 1) (by omega)
    have hstop : start + (count + 1) * base + extra
        = start + base + (if extra = 0 then 0 else 1) + count * base + (extra - 1) := by
      rw [Nat.add_mul]
      split <;> omega
    rw [hstop]
    exact hrest

/-- **The ranges of a partition lie side by side** from the first node to the last. -/
theorem tiles_partition (nodeCount concurrency minSize : Nat) :
    Tiles 0 (partition nodeCount concurrency minSize) nodeCount := by
  rw [partition]
  split
  · next hzero => exact hzero.symm
  · have hcount : 0 < partitionCount nodeCount concurrency minSize := by
      rw [partitionCount]
      omega
    have htiles := tiles_rangesFrom (nodeCount / partitionCount nodeCount concurrency minSize)
      (partitionCount nodeCount concurrency minSize) _ 0
      (Nat.le_of_lt (Nat.mod_lt nodeCount hcount))
    rw [Nat.zero_add, Nat.div_add_mod] at htiles
    exact htiles

/-- No partition is empty-handed unless there are no nodes. -/
theorem partition_eq_nil_iff {nodeCount concurrency minSize : Nat} :
    partition nodeCount concurrency minSize = [] ↔ nodeCount = 0 := by
  constructor
  · intro h
    have htiles := tiles_partition nodeCount concurrency minSize
    rw [h] at htiles
    exact htiles.symm
  · rintro rfl
    rfl

/-- The numbers of ranges that lie side by side. -/
theorem Tiles.flatMap_toList {ranges : List NodeRange} :
    ∀ {start stop : Nat}, Tiles start ranges stop →
      ranges.flatMap NodeRange.toList = List.range' start (stop - start) := by
  induction ranges with
  | nil =>
    intro start stop h
    obtain rfl : start = stop := h
    simp
  | cons range ranges ih =>
    rintro start stop ⟨rfl, hle, hrest⟩
    have hle' := hrest.le
    rw [List.flatMap_cons, ih hrest, NodeRange.toList, NodeRange.size]
    have hsize : stop - range.start = (range.stop - range.start) + (stop - range.stop) := by omega
    have hstart : range.stop = range.start + (range.stop - range.start) := by omega
    rw [hsize, ← List.range'_append_1, ← hstart]

/-- **Working through the ranges of a partition is working through all nodes.** -/
theorem flatMap_partition (nodeCount concurrency minSize : Nat) :
    (partition nodeCount concurrency minSize).flatMap NodeRange.toList = List.range nodeCount := by
  rw [(tiles_partition nodeCount concurrency minSize).flatMap_toList, List.range_eq_range',
    Nat.sub_zero]

end CompactGraph
