/-
# Reserved room for weights

With exact sizing a partition makes its weight table for as many entries as the degrees of its nodes add up
to, and for twice as many if weights are written under both orders of a pair.  A node writes no more weights
than that for each relationship that its degree allows (`LoadRun.writtenWithin_fillNode`), even if it fails
in the middle, so no partition ever makes its table grow, whatever the store answers once it has reported
degrees (`LoadRun.KeepsRoom`).
-/
import CompactGraph.Proofs.Load.Bookkeeping
import CompactGraph.Proofs.Scan.Visits
import CompactGraph.Proofs.Weight.Room

namespace CompactGraph

open PartitionWork
open WeightTable (putEach)

/-! ## Counting writes -/

/-- Weights that became of others by so many writes at most. -/
def WrittenWithin (places : Nat) (before after : Option WeightTable) : Prop :=
  ∃ writes, writes.length ≤ places ∧ after = before.map (putEach writes)

namespace WrittenWithin

variable {places places' : Nat} {before middle after : Option WeightTable}

theorem refl (places : Nat) (weights : Option WeightTable) : WrittenWithin places weights weights :=
  ⟨[], Nat.zero_le places, Option.map_id_apply.symm⟩

theorem trans (h : WrittenWithin places before middle) (h' : WrittenWithin places' middle after) :
    WrittenWithin (places + places') before after := by
  obtain ⟨writes, hfew, rfl⟩ := h
  obtain ⟨writes', hfew', rfl⟩ := h'
  refine ⟨writes ++ writes', ?_, ?_⟩
  · rw [List.length_append]
    exact Nat.add_le_add hfew hfew'
  · rw [Option.map_map]
    congr 1
    funext table
    exact (WeightTable.putEach_append writes writes' table).symm

theorem mono (h : WrittenWithin places before after) (hle : places ≤ places') :
    WrittenWithin places' before after := by
  obtain ⟨writes, hfew, hafter⟩ := h
  exact ⟨writes, hfew.trans hle, hafter⟩

end WrittenWithin

/-- The state that a step leaves, whether or not it succeeds. -/
def stateLeft {ε σ α : Type} : EStateM.Result ε σ α → σ
  | .ok _ state => state
  | .error _ state => state

/-! ## What a scan writes for a node -/

/-- Under how many pairs a weight is written at most. -/
def ScanKind.places (kind : ScanKind) : Nat := if kind.isSymmetric then 2 else 1

theorem ScanKind.length_keys_le (kind : ScanKind) (node other : NodeId) :
    (kind.keys node other).length ≤ kind.places := by
  rw [keys, places]
  cases kind.isSymmetric with
  | false => exact Nat.le_refl 1
  | true =>
    simp only [Bool.true_and, if_true]
    split
    · exact Nat.le_refl 2
    · exact Nat.le_succ 1

namespace ListScan

variable {scan : ListScan}

/-- How many weights a scan writes at most for a relationship. -/
def places (scan : ListScan) : Nat := if scan.property = none then 0 else scan.kind.places

theorem length_writes_le (scan : ListScan) (node : NodeId) (folded : List (NodeId × Float)) :
    (scan.writes node folded).length ≤ scan.kind.places * folded.length := by
  induction folded with
  | nil => exact Nat.zero_le _
  | cons entry folded ih =>
    have hkeys := scan.kind.length_keys_le node entry.1
    have hwrites : scan.writes node (entry :: folded)
        = (scan.kind.keys node entry.1).map (fun key => (key, entry.2)) ++ scan.writes node folded := rfl
    rw [hwrites, List.length_append, List.length_map, List.length_cons, Nat.mul_succ]
    omega

/-- Folding leaves no more weights than there were. -/
theorem length_folded_le {policy : DuplicatePolicy} {conflict : NodeId → LoadError}
    {pending folded : List (NodeId × Float)}
    (h : foldPending policy conflict (sortPending pending) = .ok folded) :
    folded.length ≤ pending.length := by
  have hfolds := folds_of_foldPending h
  have hsubset : folded.map Prod.fst ⊆ pending.map Prod.fst := fun target => (hfolds.mem_iff target).mp
  have hle := (List.subperm_of_subset hfolds.ascending.nodup hsubset).length_le
  rwa [List.length_map, List.length_map] at hle

theorem length_weightsOf_le {read : PropertyReader} {kept : List (NodeId × RelationshipId)}
    {weights : List (NodeId × Option Float)} (h : scan.weightsOf read kept = .ok weights) :
    weights.length ≤ kept.length := by
  unfold weightsOf at h
  split at h
  · cases h
    exact Nat.zero_le _
  · have hlength := congrArg List.length (mapM_eq_ok_iff.mp h)
    rw [List.length_map, List.length_map] at hlength
    exact hlength.ge

/-- **Relationships** bring one weight each at most. -/
theorem size_pending_of_visitAll {read : PropertyReader} {found : List RelationshipRef}
    {state after : ScanState} (h : scan.visitAll read found state = .ok () after) :
    after.pending.size ≤ state.pending.size + found.length := by
  have hreaches := visitAll_reaches scan read found state
  rw [h] at hreaches
  obtain ⟨weights, hweights, hprogress⟩ := hreaches.of_ok
  have hkept : weights.length ≤ found.length :=
    calc weights.length
        ≤ (keptAfter state.buffer.skipsRepeats state.buffer.previous (scan.arrivals
          (scan.sightings state.buffer.source state.selfLoops found))).length :=
          length_weightsOf_le hweights
      _ ≤ (scan.arrivals (scan.sightings state.buffer.source state.selfLoops found)).length :=
          (keptAfter_sublist ..).length_le
      _ ≤ (scan.sightings state.buffer.source state.selfLoops found).length :=
          (List.length_filter_le ..).trans_eq (List.length_map _)
      _ ≤ found.length := (sightings_sublist ..).length_le
  rw [← Array.length_toList, hprogress.pending, List.length_append, List.length_map,
    Array.length_toList]
  exact Nat.add_le_add_left hkept _

/-- **Finishing a node** writes each weight that is pending under so many pairs at most. -/
theorem writtenWithin_flushInto (scan : ListScan) (state : ScanState) (weights : Option WeightTable) :
    WrittenWithin (scan.places * state.pending.size) weights
      (stateLeft (scan.flushInto (state, weights))).2 := by
  by_cases hunweighted : scan.property = none ∨ weights = none
  · have hflush : ∃ targets after, scan.flushInto (state, weights) = .ok targets (after, weights) :=
      flushInto_unweighted hunweighted
    obtain ⟨targets, after, hflush⟩ := hflush
    rw [hflush]
    exact .refl _ _
  · obtain ⟨hread, hweights⟩ := not_or.mp hunweighted
    obtain ⟨name, hproperty⟩ := Option.ne_none_iff_exists'.mp hread
    obtain ⟨table, rfl⟩ := Option.ne_none_iff_exists'.mp hweights
    rw [places, if_neg hread]
    cases hfold : foldPending scan.policy (scan.conflict state.buffer.source)
        (sortPending state.pending.toList) with
    | error error =>
      obtain ⟨after, hflush⟩ := flushInto_of_conflict hproperty table hfold
      rw [hflush]
      exact .refl _ _
    | ok folded =>
      -- the writes go into the table, up to the first that is refused
      have hflush := flushInto_of_folded hproperty table hfold
      obtain ⟨before, hbefore, hleft⟩ := WeightTable.exists_left_putAll
        (scan.writes state.buffer.source folded) table
      have hafter : (stateLeft (scan.flushInto (state, some table))).2 = some (putEach before table) := by
        rw [← hleft]
        unfold VisitResult.Writes at hflush
        split at hflush
        · next stored hput =>
          obtain ⟨answer, after, hresult⟩ := hflush
          rw [hresult, hput]
          rfl
        · next error stored hput =>
          obtain ⟨after, hresult⟩ := hflush
          rw [hresult, hput]
          rfl
      refine ⟨before, ?_, hafter⟩
      calc before.length
          ≤ (scan.writes state.buffer.source folded).length := hbefore.length_le
        _ ≤ scan.kind.places * folded.length := length_writes_le ..
        _ ≤ scan.kind.places * state.pending.size := by
          rw [← Array.length_toList]
          exact Nat.mul_le_mul_left _ (length_folded_le hfold)

end ListScan

namespace LoadRun

variable {run : LoadRun}

/-! ## What a node writes -/

/-- Plans that limit the relationships of the node at a position. -/
def Limited (plans : List ListPlan) (position : Nat) : Prop :=
  ∀ plan ∈ plans, ∃ bound, plan.bound? position = some bound

/-- How many weights plans leave room for at a position. -/
def roomAt (plans : List ListPlan) (position : Nat) : Nat :=
  total (plans.map fun plan => plan.scan.places * (plan.bound? position).getD 0)

/-- A node in one list writes no more weights than the list has room for. -/
theorem writtenWithin_fillList (run : LoadRun) {plan : ListPlan} {position bound : Nat}
    (hbound : plan.bound? position = some bound) (node : Nat) (id : ExternalId) (output : ListOutput)
    (weights : Option WeightTable) :
    WrittenWithin (plan.scan.places * bound) weights
      (stateLeft (run.fillList plan position node id (output, weights))).2 := by
  rw [fillList]
  cases hfound : run.relationshipsOf plan position id with
  | error error => exact .refl _ _
  | ok found =>
    simp only
    cases hvisit : plan.scan.visitAll run.snapshot.property found
        (ListScan.prepare (NodeId.ofIndex node) output.state) with
    | error error state => exact .refl _ _
    | ok _ state =>
      simp only
      have hpending : state.pending.size ≤ bound :=
        calc state.pending.size
            ≤ 0 + found.length := ListScan.size_pending_of_visitAll hvisit
          _ = found.length := Nat.zero_add _
          _ ≤ bound := length_relationshipsOf_le hfound hbound
      have hflush := (plan.scan.writtenWithin_flushInto state weights).mono
        (Nat.mul_le_mul_left plan.scan.places hpending)
      cases hresult : plan.scan.flushInto (state, weights) with
      | error error after =>
        rw [hresult] at hflush
        exact hflush
      | ok targets after =>
        rw [hresult] at hflush
        simp only
        split <;> exact hflush

/-- **A node in all lists** writes no more weights than there is room for. -/
theorem writtenWithin_fillLists (run : LoadRun) {position : Nat} (node : Nat) (id : ExternalId)
    {plans : List ListPlan} :
    Limited plans position → ∀ (outputs : List ListOutput) (weights : Option WeightTable),
      WrittenWithin (roomAt plans position) weights
        (stateLeft (run.fillLists position node id plans (outputs, weights))).2 := by
  induction plans with
  | nil => exact fun _ outputs weights => .refl _ _
  | cons plan plans ih =>
    intro hlimited outputs weights
    obtain ⟨⟨bound, hbound⟩, hothers⟩ := List.forall_mem_cons.mp hlimited
    cases outputs with
    | nil => exact .refl _ _
    | cons output outputs =>
      have hroom : roomAt (plan :: plans) position = plan.scan.places * bound + roomAt plans position := by
        rw [roomAt, List.map_cons, total_cons, hbound, Option.getD_some, roomAt]
      have hlist := run.writtenWithin_fillList hbound node id output weights
      rw [hroom, fillLists]
      cases hfill : run.fillList plan position node id (output, weights) with
      | error error after =>
        rw [hfill] at hlist
        simp only [hfill]
        exact hlist.mono (Nat.le_add_right ..)
      | ok _ after =>
        rw [hfill] at hlist
        have hrest := ih hothers outputs after.2
        simp only [hfill]
        cases hfills : run.fillLists position node id plans (outputs, after.2) with
        | error error last =>
          rw [hfills] at hrest
          exact hlist.trans hrest
        | ok _ last =>
          rw [hfills] at hrest
          exact hlist.trans hrest

/-- **A node** writes no more weights than there is room for, whether or not it fails. -/
theorem writtenWithin_fillNode (run : LoadRun) {plans : List ListPlan} {position : Nat}
    (hlimited : Limited plans position) (node : Nat) (output : PartitionOutput) :
    WrittenWithin (roomAt plans position) output.weights
      (stateLeft (run.fillNode plans position node output)).weights := by
  rw [fillNode]
  cases run.deadline.checkAt (.reading node) position *> run.externalId node with
  | error error => exact .refl _ _
  | ok id =>
    have hlists := run.writtenWithin_fillLists node id hlimited output.lists output.weights
    simp only
    cases hfills : run.fillLists position node id plans (output.lists, output.weights) with
    | error error after =>
      rw [hfills] at hlists
      exact hlists
    | ok _ after =>
      rw [hfills] at hlists
      exact hlists

/-! ## What a partition writes -/

section Partition

variable {plans : List ListPlan} {places : Nat} {degree : Nat → Nat}

/-- Plans that limit each node of a partition, so that it writes at most so many weights for each
relationship that its degree allows. -/
def Rations (plans : List ListPlan) (places : Nat) (degree : Nat → Nat) (nodes : List Nat)
    (first : Nat) : Prop :=
  ∀ entry ∈ nodes.zipIdx first, Limited plans entry.2 ∧ roomAt plans entry.2 ≤ places * degree entry.1

theorem rations_cons {node : Nat} {nodes : List Nat} {first : Nat} :
    Rations plans places degree (node :: nodes) first ↔
      (Limited plans first ∧ roomAt plans first ≤ places * degree node) ∧
        Rations plans places degree nodes (first + 1) := by
  unfold Rations
  rw [List.zipIdx_cons, List.forall_mem_cons]

theorem rations_append {done others : List Nat} {first : Nat} :
    Rations plans places degree (done ++ others) first ↔
      Rations plans places degree done first ∧
        Rations plans places degree others (first + done.length) := by
  unfold Rations
  rw [List.zipIdx_append, List.forall_mem_append]

/-- Nodes that are read one after another write no more weights than there is room for. -/
theorem writtenWithin_finish {nodes : List Nat} :
    ∀ {first : Nat} {start reached : PartitionOutput}, Rations plans places degree nodes first →
      finish start (run.fillSteps plans nodes first) = .ok reached →
      WrittenWithin (places * total (nodes.map degree)) start.weights reached.weights := by
  induction nodes with
  | nil =>
    intro first start reached _ h
    cases h
    exact .refl _ _
  | cons node nodes ih =>
    intro first start reached hrations h
    obtain ⟨⟨hlimited, hroom⟩, hothers⟩ := rations_cons.mp hrations
    have hown := (run.writtenWithin_fillNode hlimited node start).mono hroom
    have hsteps : run.fillSteps plans (node :: nodes) first
        = run.fillNode plans first node :: run.fillSteps plans nodes (first + 1) := rfl
    rw [hsteps] at h
    cases hnode : run.fillNode plans first node start with
    | error error after =>
      rw [finish_cons_of_error hnode] at h
      cases h
    | ok _ after =>
      rw [finish_cons_of_ok hnode] at h
      rw [hnode] at hown
      rw [List.map_cons, total_cons, Nat.mul_add]
      exact hown.trans (ih hothers h)

variable {cursor capacity : Nat} {range : NodeRange}
  (hrations : Rations plans places degree range.toList 0)

include hrations

/-- After some of its nodes a partition has written no more weights than there is room for, and the room
for the other nodes is still left. -/
theorem writtenWithin_of_steps {start reached : PartitionOutput}
    {before rest : List (EStateM LoadError PartitionOutput Unit)}
    (hstart : (run.fillWork cursor range plans capacity).start = .ok start)
    (hsteps : (run.fillWork cursor range plans capacity).steps = before ++ rest)
    (hbefore : finish start before = .ok reached) :
    ∃ done others : List Nat, rest = run.fillSteps plans others done.length ∧
      Rations plans places degree others done.length ∧
      total (range.toList.map degree) = total (done.map degree) + total (others.map degree) ∧
      WrittenWithin (places * total (done.map degree)) (run.blankWeights capacity run.sharesPairs)
        reached.weights := by
  obtain ⟨_, _, hblank⟩ := map_eq_ok_iff.mp hstart
  obtain rfl : run.blankOutput plans capacity = start := hblank
  have hall : run.fillSteps plans range.toList 0 = before ++ rest := hsteps
  obtain ⟨done, others, hnodes, rfl, rfl⟩ := exists_of_fillSteps_eq_append hall
  rw [hnodes, rations_append, Nat.zero_add] at hrations
  exact ⟨done, others, by rw [Nat.zero_add], hrations.2, by rw [hnodes, List.map_append, total_append],
    writtenWithin_finish hrations.1 hbefore⟩

/-- **At every moment** a partition has written no more weights than there is room for. -/
theorem writtenWithin_of_attains {state : PartitionOutput}
    (h : (run.fillWork cursor range plans capacity).Attains state) :
    WrittenWithin (places * total (range.toList.map degree))
      (run.blankWeights capacity run.sharesPairs) state.weights := by
  cases h with
  | after hstart hsteps hbefore =>
    obtain ⟨done, others, -, -, hdegrees, hdone⟩ :=
      writtenWithin_of_steps hrations hstart hsteps hbefore
    rw [hdegrees, Nat.mul_add]
    exact hdone.mono (Nat.le_add_right ..)
  | @failing _ reached _ _ _ _ error hstart hsteps hbefore hfails =>
    obtain ⟨done, others, hrest, hothers, hdegrees, hdone⟩ :=
      writtenWithin_of_steps hrations hstart hsteps hbefore
    cases others with
    | nil => cases hrest
    | cons node others =>
      -- the node that fails has written some of its weights
      obtain ⟨rfl, -⟩ := List.cons.inj hrest
      obtain ⟨⟨hlimited, hroom⟩, -⟩ := rations_cons.mp hothers
      have hnode : run.fillNode plans done.length node reached = .error error state := hfails
      have hown := (run.writtenWithin_fillNode hlimited node reached).mono hroom
      rw [hnode] at hown
      rw [hdegrees, List.map_cons, total_cons, Nat.mul_add, Nat.mul_add]
      exact hdone.trans (hown.mono (Nat.le_add_right ..))

end Partition

/-! ## Reserved room -/

section Reserved

variable {range : NodeRange}

/-- The plan for a list limits the relationships of a node to its reported degree. -/
theorem bound?_of_regionPlans {list position node : Nat} {plan : ListPlan}
    (hplan : (run.regionPlans range)[list]? = some plan) (hnode : range.toList[position]? = some node) :
    plan.bound? position = some (run.degreeIn list node) := by
  rw [ListPlan.bound?, region_of_regionPlans hplan, Option.bind_some, ← Array.getElem?_toList,
    bounds_regionOf, List.getElem?_map, hnode, Option.map_some]

/-- Only the first plan leaves room for weights. -/
theorem exists_regionPlans (hrange : range ∈ run.ranges) :
    ∃ plan others, run.regionPlans range = plan :: others ∧ plan.scan.places ≤ run.mainKind.places ∧
      ∀ other ∈ others, other.scan.places = 0 := by
  have hscans := (furnished_regions hrange).scans
  rw [scans, run.kinds_eq.1, List.map_cons] at hscans
  obtain ⟨plan, others, hplans, hplan, hothers⟩ := List.map_eq_cons_iff.mp hscans
  refine ⟨plan, others, hplans, ?_, fun other hother => ?_⟩
  · rw [hplan, ListScan.places]
    split
    · exact Nat.zero_le _
    · exact Nat.le_refl _
  · have hscan : other.scan ∈ run.kinds.tail.map run.scanOf := hothers ▸ List.mem_map_of_mem hother
    obtain ⟨kind, hkind, hother⟩ := List.mem_map.mp hscan
    rw [ListScan.places, ← hother, if_pos (property_of_mem_tail hkind)]

/-- **Reserved regions** leave each node room for the weights that its reported degree allows. -/
theorem rations_regionPlans (hrange : range ∈ run.ranges) :
    Rations (run.regionPlans range) run.mainKind.places (run.degreeIn 0) range.toList 0 := by
  rintro ⟨node, position⟩ hentry
  have hnode : range.toList[position]? = some node := List.mk_mem_zipIdx_iff_getElem?.mp hentry
  constructor
  · intro plan hplan
    obtain ⟨list, hlist⟩ := List.mem_iff_getElem?.mp hplan
    exact ⟨_, bound?_of_regionPlans hlist hnode⟩
  · obtain ⟨plan, others, hplans, hplaces, hunread⟩ := exists_regionPlans hrange
    have hbound : plan.bound? position = some (run.degreeIn 0 node) :=
      bound?_of_regionPlans (by rw [hplans]; rfl) hnode
    have hnone : roomAt others position = 0 := by
      rw [roomAt, List.map_congr_left fun other hother => by rw [hunread other hother, Nat.zero_mul],
        total_map_const, Nat.mul_zero]
    calc roomAt (run.regionPlans range) position
        = plan.scan.places * run.degreeIn 0 node + roomAt others position := by
          rw [hplans, roomAt, List.map_cons, total_cons, hbound, Option.getD_some, roomAt]
      _ = plan.scan.places * run.degreeIn 0 node := by rw [hnone, Nat.add_zero]
      _ ≤ run.mainKind.places * run.degreeIn 0 node := Nat.mul_le_mul_right _ hplaces

/-- **The capacity that a partition asks for** is a place for each weight that it has room to write. -/
theorem weightCapacity_eq (hweighted : run.config.isWeighted = true)
    (hfew : total (range.toList.map (run.degreeIn 0)) < 2 ^ 58) :
    run.weightCapacity (run.rangeBounds range)
      = run.mainKind.places * total (range.toList.map (run.degreeIn 0)) := by
  have hmain : run.kinds.findIdx? ScanKind.isWeighted = some 0 := by
    rw [run.kinds_eq.1, List.findIdx?_cons, isWeighted_mainKind, hweighted]
    rfl
  rw [weightCapacity, hmain]
  simp only [getElem?_kinds_zero, Option.map_some, Option.getD_some, boundsIn_rangeBounds]
  rw [ScanKind.places]
  split
  · rw [UInt64.size]
    omega
  · exact (Nat.one_mul _).symm

end Reserved

/-- The table that a partition starts with has the capacity that it asks for. -/
theorem made_of_blankWeights {capacity : Nat} {isShard : Bool} {made : WeightTable}
    (h : run.blankWeights capacity isShard = some made) :
    run.config.isWeighted = true ∧ made.size = 0 ∧ made.capacity = WeightTable.capacityFor capacity := by
  unfold blankWeights at h
  split at h
  · next hweighted =>
    cases h
    exact ⟨hweighted, rfl,
      WeightTable.capacity_withCapacity capacity run.config.defaultWeight run.config.policy⟩
  · cases h

/-- A partition asks for no more than all partitions do. -/
theorem total_le_total_flatMap {α : Type} {items : List α} {item : α} (h : item ∈ items)
    (counts : α → List Nat) : total (counts item) ≤ total (items.flatMap counts) := by
  obtain ⟨before, after, rfl⟩ := List.append_of_mem h
  rw [List.flatMap_append, List.flatMap_cons, total_append, total_append]
  omega

/-- A run whose partitions have room for their weights, for the degrees that were reported and the offsets
that were reserved for them.  Whatever turns have been taken, the table of a partition came of the one it
started with by no more writes than that was made for, and none of them has made it grow. -/
def KeepsRoom (run : LoadRun) (bounds : List (Array NodeBounds)) (offsets : List (Array Nat)) : Prop :=
  ∀ (turns : List Nat) (number : Nat) (part : Array NodeBounds) (worker : Worker PartitionOutput)
    (output : PartitionOutput) (table : WeightTable), bounds[number]? = some part →
    (turns.foldl Crew.advance (Crew.start run.degreeCrew.flag
      (run.regionWorks bounds offsets))).workers[number]? = some worker →
    worker.reached = some output → output.weights = some table →
    ∃ made writes, run.blankWeights (run.weightCapacity part) run.sharesPairs = some made ∧
      made.capacity = WeightTable.capacityFor (run.weightCapacity part) ∧ table = putEach writes made ∧
      writes.length ≤ run.weightCapacity part ∧
      ∀ before, before <+: writes → (putEach before made).capacity = made.capacity

/-- **Partitions have room for their weights**, whatever degrees were reported. -/
theorem keepsRoom {bounds : List (Array NodeBounds)} {offsets : List (Array Nat)}
    (hbounds : gather run.degreeCrew.outcomes = .ok bounds)
    (hoffsets : run.reservations bounds = .ok offsets)
    (hfew : ∀ list, list < run.kinds.length →
      total (bounds.flatMap fun part => (boundsIn part list).toList) < 2 ^ 58) :
    run.KeepsRoom bounds offsets := by
  obtain rfl := bounds_of_gather hbounds
  obtain rfl := offsets_of_reservations hoffsets
  intro turns number part worker output table hpart hworker hreached htable
  rw [List.getElem?_map] at hpart
  obtain ⟨range, hrange, rfl⟩ := Option.map_eq_some_iff.mp hpart
  have hmem : range ∈ run.ranges := List.mem_of_getElem? hrange
  obtain ⟨writes, hlength, hwritten⟩ := writtenWithin_of_attains (rations_regionPlans hmem)
    (attains_of_regionWorks hrange hworker hreached)
  rw [htable] at hwritten
  obtain ⟨made, hmade, rfl⟩ := Option.map_eq_some_iff.mp hwritten.symm
  obtain ⟨hweighted, hempty, hcapacity⟩ := made_of_blankWeights hmade
  -- it asks for a place for each of its writes
  have hown : total (range.toList.map (run.degreeIn 0)) < 2 ^ 58 := by
    have hpart : run.rangeBounds range ∈ run.ranges.map run.rangeBounds := List.mem_map_of_mem hmem
    have hall := total_le_total_flatMap hpart fun part => (boundsIn part 0).toList
    rw [boundsIn_rangeBounds] at hall
    exact hall.trans_lt (hfew 0 (List.getElem?_eq_some_iff.mp run.getElem?_kinds_zero).1)
  have hasked := weightCapacity_eq hweighted hown
  rw [← hasked] at hlength
  refine ⟨made, writes, hmade, hcapacity, rfl, hlength, fun before hbefore => ?_⟩
  have hroom : run.weightCapacity (run.rangeBounds range) < 2 ^ 60 := by
    rw [hasked, ScanKind.places]
    split <;> omega
  have hsize := WeightTable.size_putEach_le writes made
  exact WeightTable.capacity_putEach_of_few hroom hcapacity (by omega) hbefore

end LoadRun

/-- **Tables that are made large enough never grow**: a table or shard that was made for so many entries,
while no more pairs are stored in it, and the tables of partitions whose room has been reserved, while the
degrees that were reported for a list add up to less than `2 ^ 58`. -/
theorem sized_tables_never_grow :
    (∀ (expected : Nat) (defaultWeight : Float) (policy : DuplicatePolicy) (made : WeightTable)
      (writes : List (PairKey × Float)), expected < 2 ^ 60 →
      made = .withCapacity expected defaultWeight policy ∨ made = .shard expected defaultWeight policy →
      {key | (putEach writes made).find? key ≠ none}.ncard ≤ expected →
      ∀ before, before <+: writes → (putEach before made).capacity = made.capacity) ∧
    ∀ (run : LoadRun) (bounds : List (Array NodeBounds)) (offsets : List (Array Nat)),
      gather run.degreeCrew.outcomes = .ok bounds → run.reservations bounds = .ok offsets →
      (∀ list, list < run.kinds.length →
        total (bounds.flatMap fun part => (LoadRun.boundsIn part list).toList) < 2 ^ 58) →
      run.KeepsRoom bounds offsets := by
  constructor
  · intro expected defaultWeight policy made writes hexpected hmade hfew before hbefore
    have hsound := WeightTable.sound_withCapacity expected defaultWeight policy
    have hcapacity := WeightTable.capacity_withCapacity expected defaultWeight policy
    rcases hmade with rfl | rfl
    · exact hsound.capacity_putEach hexpected hcapacity hfew hbefore
    · exact (hsound.withShard true).capacity_putEach hexpected hcapacity hfew hbefore
  · intro run bounds offsets hbounds hoffsets hfew
    exact LoadRun.keepsRoom hbounds hoffsets hfew

/-- A load of the nodes of `repeating` in both directions, with a weight under both orders of each pair. -/
def mirroring : LoadRun :=
  runOver repeating { concurrency := some 3, direction := .both, weightProperty := some "cost" } 1
    unreadableNodes

/-- Eleven weights just fit into sixteen slots.  Three partitions each have room for three relationships
with a weight under both orders of a pair, and get two. -/
theorem sized_tables_never_grow_repeating :
    let made := WeightTable.shard 11 0 .sum
    let writes := (List.range 11).map fun node => (PairKey.ofPair ⟨0⟩ (.ofIndex node), 1)
    (made.capacity = 16 ∧ {key | (putEach writes made).find? key ≠ none}.ncard ≤ 11 ∧
      ∀ before, before <+: writes → (putEach before made).capacity = made.capacity) ∧
    mirroring.weightCapacity #[[3, 3]] = 6 ∧
      mirroring.KeepsRoom [#[[3, 3]], #[[3, 3]], #[[3, 3]]] [#[0, 3, 6, 9], #[0, 3, 6, 9]] := by
  intro made writes
  have hsound : made.Sound := (WeightTable.sound_withCapacity 11 0 .sum).withShard true
  have hfew : {key | (putEach writes made).find? key ≠ none}.ncard ≤ 11 := by
    rw [← (WeightTable.sound_putEach writes hsound).size_eq_ncard]
    exact WeightTable.size_putEach_le writes made
  have hcapacity : made.capacity = 16 :=
    (WeightTable.capacity_withCapacity 11 0 .sum).trans (by decide)
  have hbounds : ∀ list, list < 2 → ([#[[3, 3]], #[[3, 3]], #[[3, 3]]] : List (Array NodeBounds)).flatMap
      (fun part => (LoadRun.boundsIn part list).toList) = [3, 3, 3] := by
    intro list hlist
    interval_cases list <;> simp [LoadRun.boundsIn]
  have hoffsets : mirroring.reservations [#[[3, 3]], #[[3, 3]], #[[3, 3]]]
      = .ok [#[0, 3, 6, 9], #[0, 3, 6, 9]] := by
    refine mapM_eq_ok_iff.mpr ?_
    show [reserve (List.flatMap _ _), reserve (List.flatMap _ _)] = _
    rw [hbounds 0 (by decide), hbounds 1 (by decide)]
    rfl
  refine ⟨⟨hcapacity, hfew, ?_⟩, by cbv, ?_⟩
  · exact sized_tables_never_grow.1 11 0 .sum made writes (by decide) (.inr rfl) hfew
  · refine sized_tables_never_grow.2 mirroring _ _ rfl hoffsets fun list hlist => ?_
    rw [hbounds list hlist]
    decide

end CompactGraph
