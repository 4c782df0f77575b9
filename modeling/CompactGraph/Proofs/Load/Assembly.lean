/-
# Putting partitions together

The lists, weights and counts of a run are those of the rows of all nodes, however the nodes are
partitioned and whatever the order in which partitions work (`LoadRun.Holds`).  With exact sizing the
regions suffice for what is written into them, and packing them leaves the same array as growing lists
do.
-/
import CompactGraph.Proofs.Load.Delivery
import CompactGraph.Proofs.Load.Merging
import CompactGraph.Proofs.Load.Region

namespace CompactGraph

open ListScan (store)

namespace LoadRun

/-! ## Plans that serve -/

/-- Growing lists have room for any nodes. -/
theorem furnished_growing (run : LoadRun) (range : NodeRange) :
    run.Furnished range run.growingPlans where
  scans := by
    unfold growingPlans
    rw [scans, List.map_map]
    rfl
  admits := by
    intro plan hplan position _ region hregion
    obtain ⟨kind, _, rfl⟩ := List.mem_map.mp hplan
    cases hregion

/-- Growing lists serve any nodes. -/
theorem serves_growing {run : LoadRun} (hlimit : run.deadline.limit = none)
    (hsizing : run.sizing = .growable) (range : NodeRange) :
    run.Serves range run.growingPlans where
  scans := (run.furnished_growing range).scans
  admits := (run.furnished_growing range).admits
  reads := fun position node _ => rowAt_growing hlimit hsizing position node

/-- The reported degree of a node in a list. -/
def degreeIn (run : LoadRun) (list node : Nat) : Nat := (run.degreesAt node)[list]?.getD 0

/-- The offsets of all nodes in a list, for the reported degrees. -/
def offsetsIn (run : LoadRun) (list : Nat) : Array Nat :=
  (offsetsOf ((List.range run.idMap.nodeCount).map (run.degreeIn list))).toArray

theorem offsetsIn_getD {run : LoadRun} (list : Nat) {node : Nat} (h : node ≤ run.idMap.nodeCount) :
    (run.offsetsIn list)[node]?.getD 0 = total ((List.range node).map (run.degreeIn list)) := by
  rw [offsetsIn, List.getElem?_toArray, getElem?_offsetsOf (by simpa using h), ← List.map_take,
    List.take_range, Nat.min_eq_left h]
  rfl

/-- The numbers below the end of a range are those below its start and those in it. -/
theorem total_range_stop (f : Nat → Nat) {range : NodeRange} (h : range.start ≤ range.stop) :
    total ((List.range range.stop).map f)
      = total ((List.range range.start).map f) + total (range.toList.map f) := by
  have hsplit : List.range range.stop = List.range range.start ++ range.toList := by
    have hsize : range.stop = range.start + range.size := by
      rw [NodeRange.size]
      omega
    conv_lhs => rw [hsize, List.range_eq_range', ← List.range'_append_1]
    unfold NodeRange.toList
    rw [List.range_eq_range', Nat.zero_add]
  rw [hsplit, List.map_append, total_append]

theorem bounds_of_mem_ranges {run : LoadRun} {range : NodeRange} (h : range ∈ run.ranges) :
    range.start ≤ range.stop ∧ range.stop ≤ run.idMap.nodeCount :=
  ((tiles_partition ..).bounds range h).2

theorem boundsIn_rangeBounds (run : LoadRun) (range : NodeRange) (list : Nat) :
    (boundsIn (run.rangeBounds range) list).toList = range.toList.map (run.degreeIn list) := by
  unfold boundsIn
  rw [rangeBounds, Array.toList_map, List.map_map]
  rfl

/-- The offsets in all lists. -/
def offsets (run : LoadRun) : List (Array Nat) := (List.range run.kinds.length).map run.offsetsIn

theorem length_offsets (run : LoadRun) : run.offsets.length = run.kinds.length := by
  unfold offsets
  rw [List.length_map, List.length_range]

/-- The plans of a partition whose targets go into reserved regions. -/
def regionPlans (run : LoadRun) (range : NodeRange) : List ListPlan :=
  run.exactPlans run.offsets range (run.rangeBounds range)

/-- The region of a partition in a list. -/
def regionOf (run : LoadRun) (list : Nat) (range : NodeRange) : Region :=
  Region.ofRange (run.offsetsIn list) range (boundsIn (run.rangeBounds range) list)

theorem bounds_regionOf (run : LoadRun) (list : Nat) (range : NodeRange) :
    (run.regionOf list range).bounds.toList = range.toList.map (run.degreeIn list) :=
  run.boundsIn_rangeBounds range list

/-- A region begins where the degrees of the nodes before it end. -/
theorem start_regionOf {run : LoadRun} (list : Nat) {range : NodeRange} (h : range ∈ run.ranges) :
    (run.regionOf list range).start = total ((List.range range.start).map (run.degreeIn list)) := by
  obtain ⟨hle, hstop⟩ := bounds_of_mem_ranges h
  exact offsetsIn_getD list (hle.trans hstop)

/-- A region ends where the degrees of its last node do. -/
theorem stop_regionOf {run : LoadRun} (list : Nat) {range : NodeRange} (h : range ∈ run.ranges) :
    (run.regionOf list range).start + (run.regionOf list range).size
      = total ((List.range range.stop).map (run.degreeIn list)) := by
  obtain ⟨hle, hstop⟩ := bounds_of_mem_ranges h
  have hsize : (run.regionOf list range).size
      = (run.offsetsIn list)[range.stop]?.getD 0 - (run.regionOf list range).start := rfl
  have hsplit := total_range_stop (run.degreeIn list) hle
  rw [hsize, offsetsIn_getD list hstop, start_regionOf list h]
  omega

/-- **A region is as large as its bounds ask for.** -/
theorem total_bounds_regionOf {run : LoadRun} (list : Nat) {range : NodeRange}
    (h : range ∈ run.ranges) :
    total (run.regionOf list range).bounds.toList = (run.regionOf list range).size := by
  have hstart := start_regionOf list h
  have hstop := stop_regionOf list h
  have hsplit := total_range_stop (run.degreeIn list) (bounds_of_mem_ranges h).1
  rw [bounds_regionOf]
  omega

/-- The plan for a list has the region of the partition in this list. -/
theorem region_of_regionPlans {run : LoadRun} {range : NodeRange} {list : Nat} {plan : ListPlan}
    (h : (run.regionPlans range)[list]? = some plan) : plan.region = some (run.regionOf list range) := by
  unfold regionPlans exactPlans at h
  rw [List.getElem?_map, List.getElem?_zipIdx] at h
  obtain ⟨⟨⟨kind, own⟩, list'⟩, hboth, rfl⟩ := Option.map_eq_some_iff.mp h
  obtain ⟨⟨kind', own'⟩, hzip, heq⟩ := Option.map_eq_some_iff.mp hboth
  cases heq
  have hown := (List.getElem?_zip_eq_some.mp hzip).2
  unfold offsets at hown
  rw [List.getElem?_map] at hown
  obtain ⟨_, hlist, rfl⟩ := Option.map_eq_some_iff.mp hown
  obtain ⟨_, rfl⟩ := List.getElem?_eq_some_iff.mp hlist
  rw [List.getElem_range, Nat.zero_add]
  rfl

/-- Reserved regions have room for the nodes of their partition. -/
theorem furnished_regions {run : LoadRun} {range : NodeRange} (hrange : range ∈ run.ranges) :
    run.Furnished range (run.regionPlans range) where
  scans := by
    have hplans : (run.regionPlans range).map ListPlan.scan
        = ((run.kinds.zip run.offsets).zipIdx.map fun both => (both.1.1, both.2)).map
          fun kind => run.scanOf kind.1 := by
      unfold regionPlans
      rw [exactPlans, List.map_map, List.map_map]
      rfl
    rw [hplans, zipIdx_zip run.length_offsets, scans]
    conv_rhs => rw [← List.zipIdx_map_fst 0 run.kinds, List.map_map]
    rfl
  admits := by
    intro plan hplan position hposition region hregion
    obtain ⟨list, hlist⟩ := List.mem_iff_getElem?.mp hplan
    obtain rfl : run.regionOf list range = region := by
      rw [region_of_regionPlans hlist] at hregion
      exact Option.some.inj hregion
    refine ⟨Nat.le_of_eq (total_bounds_regionOf list hrange), ?_⟩
    rw [← Array.length_toList, bounds_regionOf, List.length_map, NodeRange.toList, List.length_range']
    exact hposition

/-- Reserved regions serve the nodes of their partition. -/
theorem serves_regions {run : LoadRun} (hlimit : run.deadline.limit = none)
    (hsizing : run.sizing = .exact)
    (hbounds : ∀ node, node < run.idMap.nodeCount → run.nodeBounds node = .ok (run.degreesAt node))
    {range : NodeRange} (hrange : range ∈ run.ranges) : run.Serves range (run.regionPlans range) where
  scans := (furnished_regions hrange).scans
  admits := (furnished_regions hrange).admits
  reads := by
    intro position node hnode
    refine rowAt_exact hlimit hsizing run.length_offsets ?_
      (forall_ranges.mpr hbounds range hrange node (List.mem_of_getElem? hnode))
    unfold rangeBounds
    rw [List.getElem?_toArray, List.getElem?_map, hnode]
    rfl

/-- **Reservations** succeed if no list asks for more targets than an array can hold. -/
theorem reservations_eq_ok_iff {run : LoadRun} {offsets : List (Array Nat)} :
    run.reservations (run.ranges.map run.rangeBounds) = .ok offsets ↔
      (∀ list ∈ List.range run.kinds.length,
        total ((List.range run.idMap.nodeCount).map (run.degreeIn list)) ≤ maxTargets) ∧
      offsets = run.offsets := by
  unfold reservations
  apply mapM_eq_ok_iff_forall
  intro list own
  have hbounds : (run.ranges.map run.rangeBounds).flatMap (fun part => (boundsIn part list).toList)
      = (List.range run.idMap.nodeCount).map (run.degreeIn list) := by
    rw [List.flatMap_map, ← flatMap_ranges, List.map_flatMap]
    congr 1
    funext range
    exact boundsIn_rangeBounds run range list
  rw [hbounds, reserve_eq_ok_iff]
  rfl

/-! ## Lists -/

/-- The targets of all nodes in a list. -/
def targetRows (run : LoadRun) (list : Nat) : List (List NodeId) :=
  (List.range run.idMap.nodeCount).map fun node => (run.entry node list).targets

/-- The list that a run builds. -/
def listOf (run : LoadRun) (list : Nat) : AdjacencyList := .ofRows (run.targetRows list)

theorem flatMap_of_forall₂ {α β γ : Type} {f : α → List γ} {g : β → List γ} {items : List α}
    {others : List β} (h : List.Forall₂ (fun item other => g other = f item) items others) :
    others.flatMap g = items.flatMap f := by
  induction h with
  | nil => rfl
  | cons hfirst _ ih => rw [List.flatMap_cons, List.flatMap_cons, hfirst, ih]

theorem foldl_append_targets (list : Nat) (outputs : List PartitionOutput) (before : Array NodeId) :
    outputs.foldl (fun targets output => targets ++ output.targetsIn list) before
      = before ++ (outputs.flatMap fun output => (output.targetsIn list).toList).toArray := by
  induction outputs generalizing before with
  | nil => simp
  | cons output outputs ih => rw [List.foldl_cons, ih, List.flatMap_cons, ← List.append_toArray]; simp

section Lists

variable {run : LoadRun} {capacityOf : NodeRange → Nat} {outputs : List PartitionOutput} {list : Nat}
  (hdelivered : List.Forall₂ (fun range output => run.Delivered (capacityOf range) range output)
    run.ranges outputs) (hlist : list < run.kinds.length)

include hdelivered hlist

theorem flatMap_targetsIn :
    outputs.flatMap (fun output => (output.targetsIn list).toList) = (run.targetRows list).flatten := by
  rw [flatMap_of_forall₂ (hdelivered.imp fun _ _ h => h.targets list hlist), targetRows,
    ← List.flatMap_def, ← flatMap_ranges, List.flatMap_assoc]

theorem flatMap_degreesIn :
    outputs.flatMap (fun output => output.degreesIn list)
      = (run.targetRows list).map List.length := by
  rw [flatMap_of_forall₂ (hdelivered.imp fun _ _ h => h.degrees list hlist), targetRows,
    ← flatMap_ranges, List.map_flatMap, List.map_flatMap]
  simp only [List.map_map]
  rfl

/-- **Growing lists** come to the lists of all rows. -/
theorem growableList_eq (hsmall : (run.targetRows list).flatten.length < offsetLimit) :
    growableList list outputs = .ok (run.listOf list) := by
  rw [growableList, foldl_append_targets, flatMap_targetsIn hdelivered hlist,
    flatMap_degreesIn hdelivered hlist, Array.empty_append]
  exact AdjacencyList.ofDegrees_rows hsmall

end Lists

/-- Targets that fit into the reserved room are laid out in it. -/
theorem laid_regions (run : LoadRun) (list : Nat) {ranges : List NodeRange}
    {outputs : List PartitionOutput}
    (hroom : List.Forall₂ (fun (range : NodeRange) (output : PartitionOutput) =>
      (output.targetsIn list).size ≤ total (range.toList.map (run.degreeIn list))) ranges outputs) :
    ∀ {start : Nat}, Tiles start ranges run.idMap.nodeCount →
      Laid (total ((List.range run.idMap.nodeCount).map (run.degreeIn list)))
        (total ((List.range start).map (run.degreeIn list)))
        ((ranges.zip outputs).map fun (range, output) =>
          ⟨(run.offsetsIn list)[range.start]?.getD 0, output.targetsIn list⟩) := by
  induction hroom with
  | nil =>
    intro start htiles
    obtain rfl : start = run.idMap.nodeCount := htiles
    exact Nat.le_refl _
  | @cons range output ranges outputs hown _ ih =>
    rintro start ⟨rfl, hle, hrest⟩
    -- the region ends where the next one begins
    have hstop := total_range_stop (run.degreeIn list) hle
    rw [List.zip_cons_cons, List.map_cons]
    refine ⟨?_, (ih hrest).mono ?_⟩
    · show _ ≤ (run.offsetsIn list)[range.start]?.getD 0
      rw [offsetsIn_getD list (hle.trans hrest.le)]
    · show (run.offsetsIn list)[range.start]?.getD 0 + (output.targetsIn list).size ≤ _
      rw [offsetsIn_getD list (hle.trans hrest.le)]
      omega

/-- A node has no more targets than degrees were reported. -/
theorem length_targets_le {run : LoadRun} (hsizing : run.sizing = .exact) {node list : Nat}
    (hrow : run.nodeRow node = .ok (run.row node))
    (hbounds : run.nodeBounds node = .ok (run.degreesAt node)) (hlist : list < run.kinds.length) :
    (run.entry node list).targets.length ≤ run.degreeIn list node := by
  obtain ⟨id, found, hid, _, hreading, hle⟩ := entry_spec hrow (List.getElem?_eq_getElem hlist)
  have hdegrees : run.boundsOf? id = .ok (some (run.degreesAt node)) := by
    unfold nodeBounds at hbounds
    rw [hid] at hbounds
    unfold boundsOf?
    rw [hsizing]
    show some <$> run.degreesOf id = _
    rw [show run.degreesOf id = .ok (run.degreesAt node) from hbounds]
    rfl
  exact (ListScan.targets_of_reading hreading).2.1.trans (hle _ hdegrees)

/-- **Packed regions** come to the lists of all rows. -/
theorem exactList_eq {run : LoadRun} {capacityOf : NodeRange → Nat} {outputs : List PartitionOutput}
    {list : Nat} (hdelivered : List.Forall₂
      (fun range output => run.Delivered (capacityOf range) range output) run.ranges outputs)
    (hlist : list < run.kinds.length) (hsizing : run.sizing = .exact)
    (hrows : ∀ node, node < run.idMap.nodeCount → run.nodeRow node = .ok (run.row node))
    (hbounds : ∀ node, node < run.idMap.nodeCount → run.nodeBounds node = .ok (run.degreesAt node))
    (hsmall : (run.targetRows list).flatten.length < offsetLimit) :
    run.exactList (run.offsetsIn list) list outputs = .ok (run.listOf list) := by
  have hroom : List.Forall₂ (fun (range : NodeRange) (output : PartitionOutput) =>
      (output.targetsIn list).size ≤ total (range.toList.map (run.degreeIn list)))
      run.ranges outputs := by
    refine forall₂_imp_of_mem hdelivered fun range hrange output hown => ?_
    rw [← Array.length_toList, hown.targets list hlist, List.flatMap_def, ← total_map_length,
      List.map_map]
    refine total_map_le fun node hnode => ?_
    exact length_targets_le hsizing (forall_ranges.mpr hrows range hrange node hnode)
      (forall_ranges.mpr hbounds range hrange node hnode) hlist
  -- each partition has stayed in its region, so packing closes the gaps
  have hlaid := laid_regions run list hroom (tiles_partition ..)
  have hback : (run.offsetsIn list).back?.getD 0
      = total ((List.range run.idMap.nodeCount).map (run.degreeIn list)) := back_offsetsOf _
  have hpacked : ((run.ranges.zip outputs).map fun (range, output) =>
      (⟨(run.offsetsIn list)[range.start]?.getD 0, output.targetsIn list⟩ : Written)).flatMap
        (fun part => part.targets.toList) = (run.targetRows list).flatten := by
    rw [← flatMap_targetsIn hdelivered hlist, List.flatMap_map]
    conv_rhs => rw [← List.map_snd_zip (Nat.le_of_eq hdelivered.length_eq.symm), List.flatMap_map]
  have heq : run.exactList (run.offsetsIn list) list outputs
      = AdjacencyList.ofDegrees (run.targetRows list).flatten.toArray
        ((run.targetRows list).map List.length) := by
    rw [exactList, hback, pack_eq hlaid, hpacked, flatMap_degreesIn hdelivered hlist]
  rw [heq]
  exact AdjacencyList.ofDegrees_rows hsmall

end LoadRun

end CompactGraph
