/-
# Reserved regions

The regions that a run reserves in the array of a list lie side by side, in order of partitions, and fill
the array.  Whatever the store answers once it has reported degrees, no partition writes past the end of
its region at any moment, and the moves that close the gaps go down and stay in the array
(`LoadRun.StaysInRegions`).
-/
import CompactGraph.Proofs.Load.Containment
import CompactGraph.Proofs.Load.Runs
import CompactGraph.Proofs.Load.Failures

namespace CompactGraph

open PartitionWork

/-- The positions of a region in the array of its list. -/
def Region.positions (region : Region) : List Nat := List.range' region.start region.size

namespace LoadRun

variable {run : LoadRun}

/-! ## Degrees -/

/-- Degrees are reported in time or not at all. -/
theorem nodeBounds_of_boundsOf {position node : Nat} {bounds : NodeBounds}
    (h : run.boundsOf position node = .ok bounds) : run.nodeBounds node = .ok bounds := by
  obtain ⟨_, _, hreported⟩ := bind_eq_ok_iff.mp h
  exact hreported

/-- A partition that has asked for the degrees of nodes holds those of each of them. -/
theorem eq_of_finish_degreeSteps {nodes : List Nat} :
    ∀ {found after : Array NodeBounds} {first : Nat},
      finish found (run.degreeSteps nodes first) = .ok after →
      after = found ++ (nodes.map run.degreesAt).toArray := by
  induction nodes with
  | nil =>
    intro found after first h
    cases h
    rw [List.map_nil, Array.append_empty]
  | cons node nodes ih =>
    intro found after first h
    have hsteps : run.degreeSteps (node :: nodes) first
        = noteDegrees (run.boundsOf first node) :: run.degreeSteps nodes (first + 1) := rfl
    rw [hsteps] at h
    cases hbounds : run.boundsOf first node with
    | error error =>
      rw [hbounds] at h
      have hstep : noteDegrees (.error error) found = .error error found := rfl
      rw [finish_cons_of_error hstep] at h
      cases h
    | ok bounds =>
      rw [hbounds] at h
      have hstep : noteDegrees (.ok bounds) found = .ok () (found.push bounds) := rfl
      rw [finish_cons_of_ok hstep] at h
      have hown : run.degreesAt node = bounds := resultOf_ok (nodeBounds_of_boundsOf hbounds)
      rw [ih h, List.map_cons, hown, Array.push_eq_append, Array.append_assoc,
        ← List.toArray_cons]

/-- **The phase that asks for degrees** comes to those of all nodes. -/
theorem bounds_of_gather {bounds : List (Array NodeBounds)}
    (h : gather run.degreeCrew.outcomes = .ok bounds) : bounds = run.ranges.map run.rangeBounds := by
  unfold degreeCrew at h
  rw [← List.forall₂_eq_eq_eq, List.forall₂_map_right_iff]
  refine (solos_of_gather h).flip.imp ?_
  rintro found range ⟨_, number, hsolo⟩
  obtain ⟨start, hstart, hfinish⟩ := bind_eq_ok_iff.mp hsolo
  obtain ⟨_, _, hblank⟩ := map_eq_ok_iff.mp hstart
  obtain rfl : #[] = start := hblank
  rw [eq_of_finish_degreeSteps hfinish, Array.empty_append]
  rfl

/-- The room that is reserved for the degrees of all nodes. -/
theorem offsets_of_reservations {offsets : List (Array Nat)}
    (h : run.reservations (run.ranges.map run.rangeBounds) = .ok offsets) : offsets = run.offsets :=
  (reservations_eq_ok_iff.mp h).2

/-! ## Regions -/

/-- The regions of all partitions in a list, in order of partitions. -/
def regionsIn (run : LoadRun) (bounds : List (Array NodeBounds)) (own : Array Nat) (list : Nat) :
    List Region :=
  (run.ranges.zip bounds).map fun (range, part) => Region.ofRange own range (boundsIn part list)

theorem regionsIn_eq (run : LoadRun) (list : Nat) :
    run.regionsIn (run.ranges.map run.rangeBounds) (run.offsetsIn list) list
      = run.ranges.map (run.regionOf list) := by
  rw [regionsIn, zip_rangeBounds, List.map_map]
  rfl

/-- How many targets there is room for in a list. -/
theorem back_offsetsIn (run : LoadRun) (list : Nat) : (run.offsetsIn list).back?.getD 0
    = total ((List.range run.idMap.nodeCount).map (run.degreeIn list)) := back_offsetsOf _

/-- The regions of ranges that lie side by side do so, too. -/
theorem flatMap_positions (list : Nat) {ranges : List NodeRange} :
    ∀ {start stop : Nat}, Tiles start ranges stop → (∀ range ∈ ranges, range ∈ run.ranges) →
      (ranges.map (run.regionOf list)).flatMap Region.positions
        = List.range' (total ((List.range start).map (run.degreeIn list)))
          (total ((List.range stop).map (run.degreeIn list))
            - total ((List.range start).map (run.degreeIn list))) := by
  induction ranges with
  | nil =>
    rintro start stop rfl _
    rw [Nat.sub_self]
    rfl
  | cons range ranges ih =>
    rintro start stop ⟨rfl, hle, hrest⟩ hown
    obtain ⟨hrange, hothers⟩ := List.forall_mem_cons.mp hown
    have hstart := start_regionOf list hrange
    have hstop := stop_regionOf list hrange
    -- what lies behind the last region is not before it
    have hbehind : total ((List.range range.stop).map (run.degreeIn list))
        ≤ total ((List.range stop).map (run.degreeIn list)) := by
      have hsplit := @total_range_stop (run.degreeIn list) ⟨range.stop, stop⟩ hrest.le
      exact (Nat.le_add_right _ _).trans_eq hsplit.symm
    rw [List.map_cons, List.flatMap_cons, ih hrest hothers, Region.positions, hstart, ← hstop, hstart,
      List.range'_append_1]
    congr 1
    omega

/-- **Regions fill the array** side by side. -/
theorem flatMap_positions_regions (run : LoadRun) (list : Nat) :
    (run.ranges.map (run.regionOf list)).flatMap Region.positions
      = List.range ((run.offsetsIn list).back?.getD 0) := by
  have htiles : Tiles 0 run.ranges run.idMap.nodeCount := tiles_partition ..
  rw [flatMap_positions list htiles fun _ h => h, back_offsetsIn, List.range_zero, List.map_nil,
    total_nil, Nat.sub_zero, ← List.range_eq_range']

/-! ## Writes -/

/-- The work of the partitions that fill the regions of a run. -/
theorem regionWorks_eq (run : LoadRun) :
    run.regionWorks (run.ranges.map run.rangeBounds) run.offsets
      = run.fillWorks run.regionPlans (fun range => run.weightCapacity (run.rangeBounds range))
        (run.firstCursor + run.ranges.length + ·) := by
  rw [regionWorks, zip_rangeBounds, fillWorks, List.zipIdx_map, List.map_map]
  rfl

/-- Whatever turns have been taken, a partition that fills its regions is where it gets to alone. -/
theorem attains_of_regionWorks {flag : Bool} {turns : List Nat} {number : Nat} {range : NodeRange}
    {worker : Worker PartitionOutput} {output : PartitionOutput}
    (hrange : run.ranges[number]? = some range)
    (hworker : (turns.foldl Crew.advance (Crew.start flag (run.regionWorks
      (run.ranges.map run.rangeBounds) run.offsets))).workers[number]? = some worker)
    (hreached : worker.reached = some output) :
    (run.fillWork (run.firstCursor + run.ranges.length + number) range (run.regionPlans range)
      (run.weightCapacity (run.rangeBounds range))).Attains output := by
  have hwork := getElem?_map_zipIdx run.ranges (fun both =>
    run.fillWork (run.firstCursor + run.ranges.length + both.2) both.1 (run.regionPlans both.1)
      (run.weightCapacity (run.rangeBounds both.1))) number
  rw [hrange, Option.map_some] at hwork
  rw [regionWorks_eq] at hworker
  exact Crew.attains_of_turns _ turns hwork hworker hreached

section Writes

variable {range : NodeRange} {cursor capacity list : Nat} {output : PartitionOutput}
  (hrange : range ∈ run.ranges) (hlist : list < run.kinds.length)

include hrange hlist

/-- **At every moment** a partition has written no more than its region has room for. -/
theorem size_targetsIn_le_of_attains
    (h : (run.fillWork cursor range (run.regionPlans range) capacity).Attains output) :
    (output.targetsIn list).size ≤ (run.regionOf list range).size := by
  have hcontains := contains_of_attains (furnished_regions hrange) h
  obtain ⟨plan, hplan⟩ := (furnished_regions hrange).exists_plan hlist
  obtain ⟨own, hown, hcontained⟩ := getElem?_of_forall₂ hcontains hplan
  have htargets : output.targetsIn list = own.targets := by
    rw [PartitionOutput.targetsIn, hown]
    rfl
  calc (output.targetsIn list).size
      = own.targets.size := by rw [htargets]
    _ ≤ total ((run.regionOf list range).bounds.toList.take own.degrees.size) :=
      hcontained.within _ (region_of_regionPlans hplan)
    _ ≤ total (run.regionOf list range).bounds.toList := total_take_le ..
    _ = (run.regionOf list range).size := total_bounds_regionOf list hrange

end Writes

/-! ## Moves -/

/-- What partitions have written into the array of a list, in order of partitions. -/
def writtenIn (run : LoadRun) (own : Array Nat) (list : Nat) (outputs : List PartitionOutput) :
    List Written :=
  (run.ranges.zip outputs).map fun (range, output) =>
    ⟨own[range.start]?.getD 0, output.targetsIn list⟩

theorem exactList_eq_pack (run : LoadRun) (own : Array Nat) (list : Nat) (outputs : List PartitionOutput) :
    run.exactList own list outputs
      = AdjacencyList.ofDegrees (pack (own.back?.getD 0) (run.writtenIn own list outputs))
        (outputs.flatMap fun output => output.degreesIn list) := rfl

/-- Partitions that have succeeded leave their targets laid out in their regions. -/
theorem laid_of_gather {outputs : List PartitionOutput} {list : Nat}
    {capacityOf : NodeRange → Nat} {cursorOf : Nat → Nat} {schedule : List Nat}
    (h : gather (Crew.run schedule false (run.fillWorks run.regionPlans capacityOf cursorOf)).outcomes
      = .ok outputs) (hlist : list < run.kinds.length) :
    Laid ((run.offsetsIn list).back?.getD 0) 0 (run.writtenIn (run.offsetsIn list) list outputs) := by
  have hroom : List.Forall₂ (fun (range : NodeRange) (output : PartitionOutput) =>
      (output.targetsIn list).size ≤ total (range.toList.map (run.degreeIn list)))
      run.ranges outputs := by
    refine (solos_of_gather h).imp ?_
    rintro range output ⟨hrange, number, hsolo⟩
    rw [← bounds_regionOf, total_bounds_regionOf list hrange]
    exact size_targetsIn_le_of_attains hrange hlist (attains_of_solo hsolo)
  rw [back_offsetsIn]
  exact laid_regions run list hroom (tiles_partition ..)

/-! ## At every moment -/

/-- A run whose partitions stay in their regions, for the degrees that were reported and the offsets that
were reserved for them. -/
structure StaysInRegions (run : LoadRun) (bounds : List (Array NodeBounds)) (offsets : List (Array Nat)) :
    Prop where
  /-- The regions of a list lie side by side and fill its array. -/
  fill : ∀ (list : Nat) (own : Array Nat), offsets[list]? = some own →
    (run.regionsIn bounds own list).flatMap Region.positions = List.range (own.back?.getD 0)
  /-- Whatever turns have been taken, a partition has written no more than there is room for. -/
  writes : ∀ (turns : List Nat) (list number : Nat) (own : Array Nat) (region : Region)
    (worker : Worker PartitionOutput) (output : PartitionOutput), offsets[list]? = some own →
    (run.regionsIn bounds own list)[number]? = some region →
    (turns.foldl Crew.advance (Crew.start run.degreeCrew.flag
      (run.regionWorks bounds offsets))).workers[number]? = some worker →
    worker.reached = some output → (output.targetsIn list).size ≤ region.size
  /-- The moves that close the gaps go down and stay in the array. -/
  moves : ∀ (outputs : List PartitionOutput) (list : Nat) (own : Array Nat),
    gather (run.exactFillCrew run.degreeCrew.flag bounds offsets).outcomes = .ok outputs →
    offsets[list]? = some own → ∀ move ∈ movesFrom 0 (run.writtenIn own list outputs),
      move.destination ≤ move.start ∧ move.start + move.size ≤ own.back?.getD 0

/-- **Partitions stay in their regions**, whatever degrees were reported. -/
theorem staysInRegions {bounds : List (Array NodeBounds)} {offsets : List (Array Nat)}
    (hbounds : gather run.degreeCrew.outcomes = .ok bounds)
    (hoffsets : run.reservations bounds = .ok offsets) : run.StaysInRegions bounds offsets := by
  have hflag : run.degreeCrew.flag = false := flag_degreeCrew hbounds
  obtain rfl := bounds_of_gather hbounds
  obtain rfl := offsets_of_reservations hoffsets
  have hown : ∀ list own, run.offsets[list]? = some own →
      list < run.kinds.length ∧ own = run.offsetsIn list := by
    intro list own h
    unfold offsets at h
    obtain ⟨_, hlist, rfl⟩ := Option.map_eq_some_iff.mp (List.getElem?_map .. ▸ h)
    obtain ⟨hlt, rfl⟩ := List.getElem?_eq_some_iff.mp hlist
    rw [List.length_range] at hlt
    exact ⟨hlt, by rw [List.getElem_range]⟩
  constructor
  case fill =>
    intro list own h
    obtain ⟨_, rfl⟩ := hown list own h
    rw [regionsIn_eq]
    exact flatMap_positions_regions run list
  case writes =>
    intro turns list number own region worker output h hregion hworker hreached
    obtain ⟨hlist, rfl⟩ := hown list own h
    rw [regionsIn_eq, List.getElem?_map] at hregion
    obtain ⟨range, hrange, rfl⟩ := Option.map_eq_some_iff.mp hregion
    exact size_targetsIn_le_of_attains (List.mem_of_getElem? hrange) hlist
      (attains_of_regionWorks hrange hworker hreached)
  case moves =>
    intro outputs list own hgather h
    obtain ⟨hlist, rfl⟩ := hown list own h
    rw [hflag, exactFillCrew_eq] at hgather
    exact (laid_of_gather hgather hlist).moves (Nat.le_refl 0)

end LoadRun

end CompactGraph
