/-
# Targets stay in their regions

While a partition fills its lists, each of them holds as many targets as the degrees of its nodes add up
to, and no more than the bounds on these nodes do (`ListPlan.Contains`).  A store may contradict the
degrees that it has reported: a node with too many relationships is refused before any target of it is
written.  So this holds at every moment, also when a node has failed in the middle of its lists, and the
check that the targets of a node fit never fails (`Snapshot.Excuses`).
-/
import CompactGraph.Proofs.Load.Assembly
import CompactGraph.Proofs.Load.Errors
import CompactGraph.Proofs.Load.Moments

namespace CompactGraph

open PartitionWork

/-! ## Errors of counting -/

/-- Whether an error says that a load has lost count of its own targets or nodes. -/
def LoadError.isMiscount : LoadError → Bool
  | .sourceInconsistent .regionOverrun => true
  | .sourceInconsistent (.degreeSum _ _) => true
  | .sourceInconsistent (.listCovers _ _) => true
  | .partitionFailed _ cause => cause.isMiscount
  | _ => false

namespace Snapshot

/-- The errors that a snapshot answers with. -/
inductive Raises (snapshot : Snapshot) : LoadError → Prop where
  | opening {cursor : Nat} {error : LoadError} (h : snapshot.openCursor cursor = .error error) :
      Raises snapshot error
  | scan {label : Option String} {error : LoadError}
      (h : (snapshot.scanNodes label).failure = some error) : Raises snapshot error
  | degree {id : ExternalId} {direction : Direction} {type : Option String} {error : LoadError}
      (h : snapshot.degree id direction type = .error error) : Raises snapshot error
  | relationships {id : ExternalId} {direction : Direction} {type : Option String} {error : LoadError}
      (h : snapshot.relationships id direction type = .error error) : Raises snapshot error
  | property {id : RelationshipId} {name : String} {error : LoadError}
      (h : snapshot.property id name = .error error) : Raises snapshot error

/-- An error that a load may end with: if it says that the load has lost count, then it is the snapshot
that says so. -/
def Excuses (snapshot : Snapshot) (error : LoadError) : Prop :=
  error.isMiscount = true → snapshot.Raises error

variable {snapshot : Snapshot} {error : LoadError}

theorem Raises.excuses (h : snapshot.Raises error) : snapshot.Excuses error := fun _ => h

theorem excuses_of_eq_false (h : error.isMiscount = false) : snapshot.Excuses error := fun hcount => by
  rw [h] at hcount
  cases hcount

end Snapshot

/-! ## One list -/

/-- A list that has not left its region. -/
structure ListPlan.Contains (plan : ListPlan) (output : ListOutput) : Prop where
  written : output.targets.size = total output.degrees.toList
  within : ∀ region, plan.region = some region →
    output.targets.size ≤ total (region.bounds.toList.take output.degrees.size)

theorem Filled.contains {plan : ListPlan} {column : List NodeReading} {output : ListOutput}
    (h : Filled plan column output) : plan.Contains output where
  written := by
    rw [← Array.length_toList, h.targets, h.degrees, List.flatMap_def, ← total_map_length, List.map_map]
    rfl
  within region hregion := by
    have hcount : output.degrees.size = column.length := by
      rw [← Array.length_toList, h.degrees, List.length_map]
    rw [← Array.length_toList, h.targets, hcount]
    exact h.roomy region hregion

/-- A list is contained if nothing was written since it was. -/
theorem ListPlan.Contains.congr {plan : ListPlan} {output after : ListOutput} (h : plan.Contains output)
    (hdegrees : after.degrees = output.degrees) (htargets : after.targets = output.targets) :
    plan.Contains after where
  written := by rw [htargets, hdegrees, h.written]
  within region hregion := by
    rw [htargets, hdegrees]
    exact h.within region hregion

theorem FilledAll.contains {plans : List ListPlan} :
    ∀ {rows : List (List NodeReading)} {outputs : List ListOutput}, FilledAll plans rows outputs →
      List.Forall₂ ListPlan.Contains plans outputs := by
  induction plans with
  | nil =>
    rintro rows outputs rfl
    exact .nil
  | cons plan plans ih =>
    intro rows outputs h
    cases outputs with
    | nil => exact h.elim
    | cons output outputs => exact .cons h.1.contains (ih h.2)

/-- A partition that counts what it has written into a list: the degrees of its nodes add up to the
targets, and each of its nodes has one. -/
structure PartitionOutput.CountsIn (output : PartitionOutput) (list : Nat) (range : NodeRange) : Prop where
  targets : (output.targetsIn list).size = total (output.degreesIn list)
  degrees : (output.degreesIn list).length = range.size

namespace LoadRun

variable {run : LoadRun} {error : LoadError}

theorem excuses_of_externalId {look : Look} {position node : Nat}
    (h : run.deadline.checkAt look position *> run.externalId node = .error error) :
    run.snapshot.Excuses error := by
  rcases error_of_externalId h with ⟨limit, -, rfl⟩ | rfl
  · exact Snapshot.excuses_of_eq_false rfl
  · exact Snapshot.excuses_of_eq_false rfl

theorem excuses_of_relationshipsOf {plan : ListPlan} {position : Nat} {id : ExternalId}
    (h : run.relationshipsOf plan position id = .error error) : run.snapshot.Excuses error := by
  rcases error_of_relationshipsOf h with hfound | ⟨count, bound, rfl⟩
  · exact (Snapshot.Raises.relationships hfound).excuses
  · exact Snapshot.excuses_of_eq_false rfl

theorem excuses_of_boundsOf {position node : Nat} (h : run.boundsOf position node = .error error) :
    run.snapshot.Excuses error := by
  rcases error_of_boundsOf h with hid | ⟨id, kind, hdegree⟩
  · exact excuses_of_externalId hid
  · exact (Snapshot.Raises.degree hdegree).excuses

/-- **A node that fails in a list** writes nothing into it, and not for want of room. -/
theorem fillList_fails {plan : ListPlan} {node : Nat} {id : ExternalId} {column : List NodeReading}
    {output : ListOutput} {weights : Option WeightTable} {after : ListOutput × Option WeightTable}
    (hadmits : plan.Admits column.length) (hfilled : Filled plan column output)
    (hweights : weights = none → plan.scan.property = none)
    (h : run.fillList plan column.length node id (output, weights) = .error error after) :
    plan.Contains after.1 ∧ run.snapshot.Excuses error := by
  have hreaches := fillList_reaches run node id hadmits hfilled hweights
  rw [h] at hreaches
  simp only [fillList] at h
  split at h
  · next hfound =>
    cases h
    exact ⟨hfilled.contains, excuses_of_relationshipsOf hfound⟩
  · next found hfound =>
    split at h
    · next hvisit =>
      cases h
      obtain ⟨relationship, _, name, hread⟩ := ListScan.unreadable_of_visitAll hvisit
      exact ⟨hfilled.contains.congr rfl rfl, (Snapshot.Raises.property hread).excuses⟩
    · next hvisit =>
      split at h
      · next hflush =>
        cases h
        obtain ⟨source, target, rfl⟩ := ListScan.duplicate_of_flushInto hflush
        exact ⟨hfilled.contains.congr rfl rfl, Snapshot.excuses_of_eq_false rfl⟩
      · next hflush =>
        -- a node that has been read and flushed does not fail any more
        have hnode := ListScan.readNode_reaches run.snapshot.property (NodeId.ofIndex node) found
          hfilled.skips hweights
        simp only [hvisit, hflush] at hnode
        obtain ⟨into, hinto, -⟩ := hnode.of_ok
        have hread : run.readingInto plan column.length node id weights = .ok into := by
          rw [readingInto_eq]
          exact bind_eq_ok_iff.mpr ⟨found, hfound, hinto⟩
        rw [hread] at hreaches
        exact hreaches.elim

/-! ## All lists -/

/-- **A node that fails in one of its lists** leaves all lists contained.  Those before that list hold
its targets, the others do not. -/
theorem fillLists_fails {node : Nat} {id : ExternalId} {plans : List ListPlan} :
    ∀ {rows : List (List NodeReading)} {outputs : List ListOutput} {weights : Option WeightTable}
      {after : List ListOutput × Option WeightTable},
      (∀ plan ∈ plans, plan.Admits rows.length) → FilledAll plans rows outputs →
      (weights = none → ∀ plan ∈ plans, plan.scan.property = none) →
      run.fillLists rows.length node id plans (outputs, weights) = .error error after →
      List.Forall₂ ListPlan.Contains plans after.1 ∧ run.snapshot.Excuses error := by
  induction plans with
  | nil =>
    intro rows outputs weights after _ _ _ h
    cases h
  | cons plan plans ih =>
    intro rows outputs weights after hadmits hfilled hweights h
    cases outputs with
    | nil => exact hfilled.elim
    | cons output outputs =>
      have hlength : (rows.map fun row => row.headD default).length = rows.length := List.length_map _
      have hlength' : (rows.map List.tail).length = rows.length := List.length_map _
      have hadmits' := List.forall_mem_cons.mp hadmits
      have hunread : weights = none → plan.scan.property = none := fun hnone =>
        hweights hnone plan List.mem_cons_self
      simp only [fillLists] at h
      cases hlist : run.fillList plan rows.length node id (output, weights) with
      | error own after' =>
        rw [hlist] at h
        cases h
        obtain ⟨hcontains, hexcuses⟩ := fillList_fails (by rw [hlength]; exact hadmits'.1) hfilled.1
          hunread (by rw [hlength]; exact hlist)
        exact ⟨.cons hcontains (FilledAll.contains hfilled.2), hexcuses⟩
      | ok _ after' =>
        obtain ⟨output', weights'⟩ := after'
        rw [hlist] at h
        have hreaches := fillList_reaches run node id (by rw [hlength]; exact hadmits'.1) hfilled.1
          hunread
        rw [hlength, hlist] at hreaches
        obtain ⟨into, hinto, rfl, hfilled'⟩ := hreaches.of_ok
        have hunread' : into.2 = none → ∀ plan ∈ plans, plan.scan.property = none :=
          fun hnone plan' hplan' =>
            hweights (weights_of_readingInto hinto hnone) plan' (List.mem_cons_of_mem _ hplan')
        cases hrest : run.fillLists rows.length node id plans (outputs, into.2) with
        | ok _ _ =>
          simp only [hrest] at h
          cases h
        | error own after'' =>
          simp only [hrest] at h
          cases h
          obtain ⟨hcontains, hexcuses⟩ := ih (by rw [hlength']; exact hadmits'.2) hfilled.2 hunread'
            (by rw [hlength']; exact hrest)
          exact ⟨.cons hfilled'.contains hcontains, hexcuses⟩

/-- **A node that fails** leaves all lists contained. -/
theorem fillNode_fails {plans : List ListPlan} {rows : List (List NodeReading)} {node : Nat}
    {output after : PartitionOutput} (hadmits : ∀ plan ∈ plans, plan.Admits rows.length)
    (hfilled : FilledAll plans rows output.lists)
    (hweights : output.weights = none → ∀ plan ∈ plans, plan.scan.property = none)
    (h : run.fillNode plans rows.length node output = .error error after) :
    List.Forall₂ ListPlan.Contains plans after.lists ∧ run.snapshot.Excuses error := by
  simp only [fillNode] at h
  split at h
  · next hid =>
    cases h
    exact ⟨hfilled.contains, excuses_of_externalId hid⟩
  · split at h
    · next hlists =>
      cases h
      exact fillLists_fails hadmits hfilled hweights hlists
    · cases h

/-! ## All nodes of a partition -/

section Partition

variable {cursor capacity : Nat} {range : NodeRange} {plans : List ListPlan}
  (hfurnished : run.Furnished range plans)

include hfurnished

/-- After some of its nodes a partition has filled its lists with a row for each of them, and the other
nodes are still to be read. -/
theorem filled_of_finish {start reached : PartitionOutput}
    {before rest : List (EStateM LoadError PartitionOutput Unit)}
    (hstart : (run.fillWork cursor range plans capacity).start = .ok start)
    (hsteps : (run.fillWork cursor range plans capacity).steps = before ++ rest)
    (hbefore : finish start before = .ok reached) :
    ∃ rows nodes, rest = run.fillSteps plans nodes rows.length ∧
      rows.length + nodes.length = range.size ∧ FilledAll plans rows reached.lists ∧
      (reached.weights = none → ∀ plan ∈ plans, plan.scan.property = none) := by
  obtain ⟨_, _, hblank⟩ := map_eq_ok_iff.mp hstart
  obtain rfl : run.blankOutput plans capacity = start := hblank
  have hall : run.fillSteps plans range.toList 0 = before ++ rest := hsteps
  obtain ⟨first, nodes, hnodes, rfl, rfl⟩ := exists_of_fillSteps_eq_append hall
  have hsize : first.length + nodes.length = range.size := by
    rw [← List.length_append, ← hnodes, NodeRange.toList, List.length_range']
  obtain ⟨rows, hrows, hfilled, hstore⟩ := rows_of_finish
    (fun plan hplan position hposition => hfurnished.admits plan hplan position (by omega))
    hfurnished.unread hbefore
  have hcount : rows.length = first.length := by
    have hlength := congrArg List.length (mapM_eq_ok_iff.mp hrows)
    rw [List.length_map, List.length_zipIdx, List.length_map] at hlength
    exact hlength.symm
  refine ⟨rows, nodes, by rw [hcount, Nat.zero_add], by rw [hcount, hsize], hfilled, fun hnone => ?_⟩
  rw [hnone] at hstore
  exact hfurnished.unread (weightProperty_of_blankWeights (store_eq_none hstore))

/-- A node that fails after others leaves all lists contained. -/
theorem fails_of_finish {start reached after : PartitionOutput}
    {before rest : List (EStateM LoadError PartitionOutput Unit)}
    {step : EStateM LoadError PartitionOutput Unit}
    (hstart : (run.fillWork cursor range plans capacity).start = .ok start)
    (hsteps : (run.fillWork cursor range plans capacity).steps = before ++ step :: rest)
    (hbefore : finish start before = .ok reached) (hfails : step reached = .error error after) :
    List.Forall₂ ListPlan.Contains plans after.lists ∧ run.snapshot.Excuses error := by
  obtain ⟨rows, nodes, hrest, hsize, hfilled, hunread⟩ :=
    filled_of_finish hfurnished hstart hsteps hbefore
  cases nodes with
  | nil => cases hrest
  | cons node nodes =>
    obtain ⟨rfl, -⟩ := List.cons.inj hrest
    rw [List.length_cons] at hsize
    exact fillNode_fails (fun plan hplan => hfurnished.admits plan hplan _ (by omega)) hfilled hunread
      hfails

/-- **At every moment** the lists of a partition are contained in their regions. -/
theorem contains_of_attains {state : PartitionOutput}
    (h : (run.fillWork cursor range plans capacity).Attains state) :
    List.Forall₂ ListPlan.Contains plans state.lists := by
  cases h with
  | after hstart hsteps hbefore =>
    obtain ⟨_, _, _, _, hfilled, _⟩ := filled_of_finish hfurnished hstart hsteps hbefore
    exact hfilled.contains
  | failing hstart hsteps hbefore hfails =>
    exact (fails_of_finish hfurnished hstart hsteps hbefore hfails).1

/-- **A partition that succeeds** counts what it has written. -/
theorem countsIn_of_solo {output : PartitionOutput}
    (h : (run.fillWork cursor range plans capacity).solo = .ok output) {list : Nat}
    (hlist : list < run.kinds.length) : output.CountsIn list range := by
  obtain ⟨start, hstart, hfinish⟩ := bind_eq_ok_iff.mp h
  obtain ⟨rows, nodes, hrest, hsize, hfilled, _⟩ :=
    filled_of_finish hfurnished hstart (List.append_nil _).symm hfinish
  obtain ⟨plan, hplan⟩ := hfurnished.exists_plan hlist
  -- no node is left to be read
  have hnone : nodes = [] := by
    cases nodes with
    | nil => rfl
    | cons node nodes => cases hrest
  rw [hnone, List.length_nil, Nat.add_zero] at hsize
  constructor
  case targets =>
    rw [← Array.length_toList, PartitionOutput.targetsIn_of_filled hfilled hplan,
      PartitionOutput.degreesIn_of_filled hfilled hplan, List.flatMap_def, ← total_map_length,
      List.map_map]
    rfl
  case degrees =>
    rw [PartitionOutput.degreesIn_of_filled hfilled hplan, List.length_map, columnOf, List.length_map,
      hsize]

/-- **A partition** does not fail for want of room. -/
theorem excuses_of_fillWork (h : (run.fillWork cursor range plans capacity).FirstError error) :
    run.snapshot.Excuses error := by
  cases h with
  | opening hstart =>
    exact (Snapshot.Raises.opening (map_eq_error_iff.mp hstart)).excuses
  | step hstart hsteps hbefore hfails =>
    exact (fails_of_finish hfurnished hstart hsteps hbefore hfails).2

end Partition

/-- **A partition that asks for degrees** does not lose count. -/
theorem excuses_of_degreeWork {cursor : Nat} {range : NodeRange}
    (h : (run.degreeWork cursor range).FirstError error) : run.snapshot.Excuses error :=
  forall_of_degreeWork (fun _ hopen => (Snapshot.Raises.opening hopen).excuses)
    (fun _ _ _ hbounds => excuses_of_boundsOf hbounds) h

end LoadRun

end CompactGraph
