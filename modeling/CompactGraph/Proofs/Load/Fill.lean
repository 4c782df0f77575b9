/-
# Filling lists

A partition reads node after node into its lists.  What it has read so far is a table of readings with
one row for each node and one reading in each row for each list, and its lists hold what the readings
say (`FilledAll`).  Reading a node adds a row, fails as the readings of the node fail, or fails because a
weight may not meet the one that is stored.  So a partition alone succeeds exactly if all its nodes
have readings and their weights can be written in order of nodes.
-/
import CompactGraph.Proofs.Load.Crew
import CompactGraph.Proofs.Scan.Folding
import CompactGraph.Proofs.Weight.Writes
import CompactGraph.Proofs.Adjacency.Lists
import CompactGraph.Load.Run

namespace CompactGraph

open ListScan (store)

/-! ## One list -/

/-- The most targets that fit into the room for a column of readings: what the bounds on its nodes add
up to. -/
def ListPlan.Roomy (plan : ListPlan) (column : List NodeReading) : Prop :=
  ∀ region, plan.region = some region →
    (column.flatMap NodeReading.targets).length ≤ total (region.bounds.toList.take column.length)

/-- A list that has been filled with a column of readings. -/
structure Filled (plan : ListPlan) (column : List NodeReading) (output : ListOutput) : Prop where
  skips : output.state.buffer.skipsRepeats = plan.scan.skipsRepeats
  counts : output.state.counts = ScanCounts.total (column.map NodeReading.counts)
  degrees : output.degrees.toList = column.map fun reading => reading.targets.length
  targets : output.targets.toList = column.flatMap NodeReading.targets
  roomy : plan.Roomy column

/-- A plan with room for the node at a position: its region, if there is one, is as large as its bounds
ask for and has a bound for the node. -/
def ListPlan.Admits (plan : ListPlan) (position : Nat) : Prop :=
  ∀ region, plan.region = some region →
    total region.bounds.toList ≤ region.size ∧ position < region.bounds.size

/-- A scan that has not seen anything has filled its list with nothing. -/
theorem filled_nil (plan : ListPlan) : Filled plan [] { state := plan.scan.initial } :=
  ⟨rfl, rfl, rfl, rfl, fun _ _ => Nat.zero_le _⟩

/-- A list that takes one more reading. -/
theorem Filled.concat {plan : ListPlan} {column : List NodeReading} {output : ListOutput}
    (h : Filled plan column output) {reading : NodeReading} {state : ScanState} {answer : Array NodeId}
    (hskips : state.buffer.skipsRepeats = plan.scan.skipsRepeats)
    (hcounts : state.counts = output.state.counts.add reading.counts)
    (hanswer : answer.toList = reading.targets) (hroomy : plan.Roomy (column ++ [reading])) :
    Filled plan (column ++ [reading])
      ⟨state, output.degrees.push answer.size, output.targets ++ answer⟩ := by
  refine ⟨hskips, ?_, ?_, ?_, hroomy⟩
  · rw [hcounts, h.counts, List.map_append, ScanCounts.total_append]
    simp [ScanCounts.add_zero]
  · rw [Array.toList_push, h.degrees, ← Array.length_toList, hanswer]
    simp
  · rw [Array.toList_append, h.targets, hanswer]
    simp

namespace LoadRun

/-- What a node comes to in one list. -/
def readingAt (run : LoadRun) (plan : ListPlan) (position node : Nat) (id : ExternalId) :
    Except LoadError NodeReading := do
  let found ← run.relationshipsOf plan position id
  plan.scan.reading run.snapshot.property (NodeId.ofIndex node) found

/-- What a node comes to in one list, and the table that its weights have been written to. -/
def readingInto (run : LoadRun) (plan : ListPlan) (position node : Nat) (id : ExternalId)
    (weights : Option WeightTable) : Except LoadError (NodeReading × Option WeightTable) := do
  let reading ← run.readingAt plan position node id
  let weights ← store (plan.scan.writes (NodeId.ofIndex node) reading.folded) weights
  return (reading, weights)

/-- Relationships are asked for before they are read. -/
theorem readingInto_eq (run : LoadRun) (plan : ListPlan) (position node : Nat) (id : ExternalId)
    (weights : Option WeightTable) :
    run.readingInto plan position node id weights
      = run.relationshipsOf plan position id >>= fun found =>
        plan.scan.readInto run.snapshot.property (NodeId.ofIndex node) found weights := by
  simp only [readingInto, readingAt, ListScan.readInto, bind_assoc]

/-- No more relationships are delivered than a plan has room for. -/
theorem length_relationshipsOf_le {run : LoadRun} {plan : ListPlan} {position : Nat} {id : ExternalId}
    {found : List RelationshipRef} (h : run.relationshipsOf plan position id = .ok found) {bound : Nat}
    (hbound : plan.bound? position = some bound) : found.length ≤ bound := by
  obtain ⟨all, _, hrest⟩ := bind_eq_ok_iff.mp h
  rw [hbound] at hrest
  by_cases hlong : all.length > bound
  · simp only [hlong, if_true] at hrest
    cases hrest
  · simp only [hlong, if_false] at hrest
    cases hrest
    omega

/-- **The reserved room suffices.** -/
theorem fits_of_readingAt {run : LoadRun} {plan : ListPlan} {node : Nat} {id : ExternalId}
    {column : List NodeReading} {reading : NodeReading} (hadmits : plan.Admits column.length)
    (hroomy : plan.Roomy column) (h : run.readingAt plan column.length node id = .ok reading) :
    plan.fits ((column.flatMap NodeReading.targets).length + reading.targets.length) = true ∧
      plan.Roomy (column ++ [reading]) := by
  obtain ⟨found, hfound, hreading⟩ := bind_eq_ok_iff.mp h
  have hshort := (ListScan.targets_of_reading hreading).2.1
  cases hregion : plan.region with
  | none =>
    refine ⟨by rw [ListPlan.fits, hregion], fun region hsome => ?_⟩
    rw [hregion] at hsome
    cases hsome
  | some region =>
    obtain ⟨hsize, hposition⟩ := hadmits region hregion
    have hbefore := hroomy region hregion
    have hposition' : column.length < region.bounds.toList.length := by
      rwa [Array.length_toList]
    have hbound : plan.bound? column.length = some region.bounds.toList[column.length] := by
      unfold ListPlan.bound?
      rw [hregion, List.getElem_eq_getElem?_get]
      simp [hposition]
    have hlength := length_relationshipsOf_le hfound hbound
    -- the bound of this node is added to those of the nodes before it
    have htake : total (region.bounds.toList.take (column.length + 1))
        = total (region.bounds.toList.take column.length) + region.bounds.toList[column.length] := by
      rw [List.take_succ_eq_append_getElem hposition', total_append, total_cons, total_nil]
      omega
    have hall := total_take_le region.bounds.toList (column.length + 1)
    constructor
    · simp only [ListPlan.fits, hregion, decide_eq_true_eq]
      omega
    · intro region' hregion'
      obtain rfl : region = region' := by simpa [hregion] using hregion'
      rw [List.flatMap_append, List.length_append, List.length_append, List.length_singleton, htake]
      simp only [List.flatMap_cons, List.flatMap_nil, List.append_nil]
      omega

/-- **One node in one list.** -/
theorem fillList_reaches {plan : ListPlan} (run : LoadRun) (node : Nat) (id : ExternalId)
    {column : List NodeReading} {output : ListOutput} {weights : Option WeightTable}
    (hadmits : plan.Admits column.length) (hfilled : Filled plan column output)
    (hweights : weights = none → plan.scan.property = none) :
    Reaches (run.readingInto plan column.length node id weights)
      (run.fillList plan column.length node id (output, weights))
      fun into after => after.2 = into.2 ∧ Filled plan (column ++ [into.1]) after.1 := by
  rw [readingInto_eq]
  cases hfound : run.relationshipsOf plan column.length id with
  | error error =>
    simp only [fillList, hfound]
    exact Reaches.error_iff.mpr ⟨_, rfl⟩
  | ok found =>
    have hnode := ListScan.readNode_reaches run.snapshot.property (NodeId.ofIndex node) found
      hfilled.skips hweights
    show Reaches (plan.scan.readInto run.snapshot.property (NodeId.ofIndex node) found weights) _ _
    rw [← bind_pure (plan.scan.readInto run.snapshot.property (NodeId.ofIndex node) found weights)]
    refine Reaches.bind hnode ?_ ?_
    · -- the node fails while it is visited, or while its weights are written
      intro error after hresult
      cases hvisit : plan.scan.visitAll run.snapshot.property found
          (ListScan.prepare (NodeId.ofIndex node) output.state) with
      | error _ _ =>
        rw [hvisit] at hresult
        cases hresult
        simp only [fillList, hfound, hvisit]
        exact ⟨_, rfl⟩
      | ok _ state =>
        rw [hvisit] at hresult
        simp only [fillList, hfound, hvisit, hresult]
        exact ⟨_, rfl⟩
    · rintro ⟨reading, weights'⟩ answer ⟨state', weights''⟩ hinto hresult
        ⟨hweights', hcounts, hskips, htargets⟩
      cases hvisit : plan.scan.visitAll run.snapshot.property found
          (ListScan.prepare (NodeId.ofIndex node) output.state) with
      | error _ _ =>
        rw [hvisit] at hresult
        cases hresult
      | ok _ state =>
        rw [hvisit] at hresult
        have hanswer : answer.toList = reading.targets := by
          rw [ListScan.targets_of_flushInto hresult]
          exact htargets
        have hreading : run.readingAt plan column.length node id = .ok reading := by
          obtain ⟨own, hown, hrest⟩ := bind_eq_ok_iff.mp hinto
          obtain ⟨_, _, heq⟩ := bind_eq_ok_iff.mp hrest
          cases heq
          exact bind_eq_ok_iff.mpr ⟨found, hfound, hown⟩
        -- the targets fit, because there are no more than the store has reported
        obtain ⟨hfits, hroomy⟩ := fits_of_readingAt hadmits hfilled.roomy hreading
        rw [← hfilled.targets, ← hanswer, Array.length_toList, Array.length_toList] at hfits
        simp only [fillList, hfound, hvisit, hresult, hfits, if_true]
        exact Reaches.ok_iff.mpr ⟨(), _, rfl, hweights', hfilled.concat hskips hcounts hanswer hroomy⟩

end LoadRun

/-! ## All lists -/

/-- Lists that have been filled with a table of readings, one column of it for each list. -/
def FilledAll : List ListPlan → List (List NodeReading) → List ListOutput → Prop
  | [], _, outputs => outputs = []
  | _ :: _, _, [] => False
  | plan :: plans, rows, output :: outputs =>
    Filled plan (rows.map fun row => row.headD default) output ∧
      FilledAll plans (rows.map List.tail) outputs

/-- Scans that have not seen anything have filled their lists with nothing. -/
theorem filledAll_nil (plans : List ListPlan) :
    FilledAll plans [] (plans.map fun plan => { state := plan.scan.initial }) := by
  induction plans with
  | nil => rfl
  | cons plan plans ih => exact ⟨filled_nil plan, ih⟩

/-- A list in the middle has been filled with its column. -/
theorem FilledAll.getElem {plans : List ListPlan} :
    ∀ {rows : List (List NodeReading)} {outputs : List ListOutput} {i : Nat} {plan : ListPlan},
      FilledAll plans rows outputs → plans[i]? = some plan →
      ∃ output, outputs[i]? = some output ∧
        Filled plan (rows.map fun row => row.getD i default) output := by
  -- a list further on takes the column that is left when the first one is cut off
  induction plans with
  | nil =>
    intro rows outputs i plan _ hplan
    simp at hplan
  | cons first plans ih =>
    intro rows outputs i plan h hplan
    cases outputs with
    | nil => exact h.elim
    | cons output outputs =>
      cases i with
      | zero =>
        obtain rfl : first = plan := by simpa using hplan
        refine ⟨output, rfl, ?_⟩
        have hcolumn : (rows.map fun row => row.getD 0 default)
            = rows.map fun row => row.headD default :=
          List.map_congr_left fun row _ => by cases row <;> rfl
        rw [hcolumn]
        exact h.1
      | succ i =>
        obtain ⟨own, hown, hfilled⟩ := ih h.2 (by simpa using hplan)
        refine ⟨own, by simpa using hown, ?_⟩
        have hcolumn : (rows.map fun row => row.getD (i + 1) default)
            = (rows.map List.tail).map fun row => row.getD i default := by
          rw [List.map_map]
          exact List.map_congr_left fun row _ => by cases row <;> rfl
        rwa [hcolumn]

namespace LoadRun

/-- What a node comes to in all lists, and the table that its weights have been written to. -/
def rowInto (run : LoadRun) (position node : Nat) (id : ExternalId) :
    List ListPlan → Option WeightTable → Except LoadError (List NodeReading × Option WeightTable)
  | [], weights => .ok ([], weights)
  | plan :: plans, weights => do
    let first ← run.readingInto plan position node id weights
    let rest ← run.rowInto position node id plans first.2
    return (first.1 :: rest.1, rest.2)

/-- Whether weights are there does not change while they are written. -/
theorem store_eq_none {writes : List (PairKey × Float)} {weights : Option WeightTable}
    (h : store writes weights = .ok none) : weights = none := by
  cases weights with
  | none => rfl
  | some table =>
    rw [store] at h
    cases hput : endState (WeightTable.putAll writes) table with
    | error error =>
      rw [hput] at h
      cases h
    | ok table' =>
      rw [hput] at h
      cases h

theorem weights_of_readingInto {run : LoadRun} {plan : ListPlan} {position node : Nat} {id : ExternalId}
    {weights : Option WeightTable} {into : NodeReading × Option WeightTable}
    (h : run.readingInto plan position node id weights = .ok into) (hnone : into.2 = none) :
    weights = none := by
  obtain ⟨_, _, hrest⟩ := bind_eq_ok_iff.mp h
  obtain ⟨_, hstore, heq⟩ := bind_eq_ok_iff.mp hrest
  cases heq
  obtain rfl : _ = none := hnone
  exact store_eq_none hstore

/-- **One node in all lists.** -/
theorem fillLists_reaches {run : LoadRun} {node : Nat} {id : ExternalId} {plans : List ListPlan} :
    ∀ {rows : List (List NodeReading)} {outputs : List ListOutput} {weights : Option WeightTable},
      (∀ plan ∈ plans, plan.Admits rows.length) → FilledAll plans rows outputs →
      (weights = none → ∀ plan ∈ plans, plan.scan.property = none) →
      Reaches (run.rowInto rows.length node id plans weights)
        (run.fillLists rows.length node id plans (outputs, weights))
        fun into after => after.2 = into.2 ∧ FilledAll plans (rows ++ [into.1]) after.1 := by
  induction plans with
  | nil =>
    intro rows outputs weights _ hfilled _
    exact Reaches.ok_iff.mpr ⟨(), _, rfl, rfl, hfilled⟩
  | cons plan plans ih =>
    intro rows outputs weights hadmits hfilled hweights
    cases outputs with
    | nil => exact hfilled.elim
    | cons output outputs =>
      rw [rowInto]
      have hlength : (rows.map fun row => row.headD default).length = rows.length := List.length_map _
      have hlength' : (rows.map List.tail).length = rows.length := List.length_map _
      have hlist := fillList_reaches run node id
        (by rw [hlength]; exact hadmits plan List.mem_cons_self) hfilled.1
        fun hnone => hweights hnone plan List.mem_cons_self
      rw [hlength] at hlist
      refine Reaches.bind hlist ?_ ?_
      · rintro error ⟨output', weights'⟩ hresult
        simp only [fillLists, hresult]
        exact ⟨_, rfl⟩
      · -- the other lists take the table that the first one leaves behind
        rintro ⟨reading, weights'⟩ _ ⟨output', weights''⟩ hinto hresult ⟨rfl, hfilled'⟩
        have hadmits' : ∀ plan ∈ plans, plan.Admits (rows.map List.tail).length := by
          rw [hlength']
          exact fun plan hplan => hadmits plan (List.mem_cons_of_mem _ hplan)
        have hothers : FilledAll plans (rows.map List.tail) outputs := hfilled.2
        have hweights' : weights'' = none → ∀ plan ∈ plans, plan.scan.property = none :=
          fun hnone plan' hplan' =>
            hweights (weights_of_readingInto hinto hnone) plan' (List.mem_cons_of_mem _ hplan')
        have hrest := ih hadmits' hothers hweights'
        rw [hlength'] at hrest
        refine Reaches.bind hrest ?_ ?_
        · rintro error ⟨outputs', weights'⟩ hresult'
          simp only [fillLists, hresult, hresult']
          exact ⟨_, rfl⟩
        · rintro ⟨row, weights'⟩ _ ⟨outputs', weights''⟩ _ hresult' ⟨rfl, hfilled''⟩
          simp only [fillLists, hresult, hresult']
          refine Reaches.ok_iff.mpr ⟨(), _, rfl, rfl, ?_, ?_⟩
          · rw [List.map_append]
            exact hfilled'
          · rw [List.map_append]
            exact hfilled''

/-! ## Reading first and writing afterwards -/

/-- The weights of a node in all lists, as they are written. -/
def rowWrites (scans : List ListScan) (node : Nat) (row : List NodeReading) :
    List (PairKey × Float) :=
  (scans.zip row).flatMap fun (scan, reading) => scan.writes (NodeId.ofIndex node) reading.folded

theorem putAll_append (first second : List (PairKey × Float)) (table : WeightTable) :
    endState (WeightTable.putAll (first ++ second)) table
      = endState (WeightTable.putAll first) table >>= endState (WeightTable.putAll second) := by
  induction first generalizing table with
  | nil => rfl
  | cons write first ih =>
    rw [List.cons_append, endState, WeightTable.putAll_cons, endState, WeightTable.putAll_cons]
    cases WeightTable.put write.1 write.2 table with
    | error error table' => rfl
    | ok _ table' => exact ih table'

theorem store_append (first second : List (PairKey × Float)) (weights : Option WeightTable) :
    store (first ++ second) weights = store first weights >>= store second := by
  cases weights with
  | none => rfl
  | some table =>
    rw [store, putAll_append, store]
    cases endState (WeightTable.putAll first) table <;> rfl

@[simp] theorem store_nil (weights : Option WeightTable) : store [] weights = .ok weights := by
  cases weights <;> rfl

/-- A node whose lists can all be read is read, and then its weights are written. -/
theorem rowInto_of_readings {run : LoadRun} {position node : Nat} {id : ExternalId}
    {plans : List ListPlan} : ∀ {row : List NodeReading},
      plans.mapM (fun plan => run.readingAt plan position node id) = .ok row →
      ∀ weights, run.rowInto position node id plans weights
        = (row, ·) <$> store (rowWrites (plans.map ListPlan.scan) node row) weights := by
  induction plans with
  | nil =>
    intro row h weights
    cases h
    unfold rowWrites
    rw [List.map_nil, List.zip_nil_left, List.flatMap_nil, store_nil]
    rfl
  | cons plan plans ih =>
    intro row h weights
    rw [List.mapM_cons] at h
    obtain ⟨reading, hreading, hothers⟩ := bind_eq_ok_iff.mp h
    obtain ⟨rest, hrest, heq⟩ := bind_eq_ok_iff.mp hothers
    cases heq
    unfold rowWrites
    rw [rowInto, readingInto, hreading, List.map_cons, List.zip_cons_cons, List.flatMap_cons, store_append]
    -- the writes of the first list come before those of the others
    simp only [bind, Except.bind]
    cases store (plan.scan.writes (NodeId.ofIndex node) reading.folded) weights with
    | error error => rfl
    | ok middle =>
      simp only [pure, Except.pure, ih hrest]
      unfold rowWrites
      cases store ((plans.map ListPlan.scan).zip rest |>.flatMap fun both =>
        both.1.writes (NodeId.ofIndex node) both.2.folded) middle <;> rfl

theorem rowInto_eq_ok_iff {run : LoadRun} {position node : Nat} {id : ExternalId}
    {plans : List ListPlan} {row : List NodeReading} {weights weights' : Option WeightTable} :
    run.rowInto position node id plans weights = .ok (row, weights') ↔
      plans.mapM (fun plan => run.readingAt plan position node id) = .ok row ∧
        store (rowWrites (plans.map ListPlan.scan) node row) weights = .ok weights' := by
  constructor
  · intro h
    induction plans generalizing row weights with
    | nil =>
      cases h
      exact ⟨rfl, store_nil _⟩
    | cons plan plans ih =>
      -- the writes of the first list come before those of the others
      obtain ⟨⟨reading, middle⟩, hfirst, hrest⟩ := bind_eq_ok_iff.mp h
      obtain ⟨⟨rest, last⟩, hrow, heq⟩ := bind_eq_ok_iff.mp hrest
      cases heq
      obtain ⟨reading', hreading, hrest⟩ := bind_eq_ok_iff.mp hfirst
      obtain ⟨middle', hstore, heq⟩ := bind_eq_ok_iff.mp hrest
      cases heq
      obtain ⟨hreadings, hstore'⟩ := ih hrow
      rw [List.mapM_cons]
      refine ⟨bind_eq_ok_iff.mpr ⟨reading, hreading, bind_eq_ok_iff.mpr ⟨rest, hreadings, rfl⟩⟩, ?_⟩
      unfold rowWrites
      rw [List.map_cons, List.zip_cons_cons, List.flatMap_cons, store_append]
      exact bind_eq_ok_iff.mpr ⟨middle, hstore, hstore'⟩
  · rintro ⟨hreadings, hstore⟩
    rw [rowInto_of_readings hreadings, hstore]
    rfl

/-- The readings of a node, one for each list. -/
def rowAt (run : LoadRun) (plans : List ListPlan) (position node : Nat) :
    Except LoadError (List NodeReading) := do
  let id ← run.deadline.checkAt (.reading node) position *> run.externalId node
  plans.mapM fun plan => run.readingAt plan position node id

/-! ## All nodes of a partition -/

/-- What a node comes to, and the table that its weights have been written to. -/
def nodeInto (run : LoadRun) (plans : List ListPlan) (position node : Nat)
    (weights : Option WeightTable) : Except LoadError (List NodeReading × Option WeightTable) := do
  let id ← run.deadline.checkAt (.reading node) position *> run.externalId node
  run.rowInto position node id plans weights

theorem nodeInto_eq_ok_iff {run : LoadRun} {plans : List ListPlan} {position node : Nat}
    {row : List NodeReading} {weights weights' : Option WeightTable} :
    run.nodeInto plans position node weights = .ok (row, weights') ↔
      run.rowAt plans position node = .ok row ∧
        store (rowWrites (plans.map ListPlan.scan) node row) weights = .ok weights' := by
  unfold nodeInto
  rw [rowAt, bind_eq_ok_iff, bind_eq_ok_iff]
  simp only [rowInto_eq_ok_iff]
  constructor
  · rintro ⟨id, hid, hrow, hstore⟩
    exact ⟨⟨id, hid, hrow⟩, hstore⟩
  · rintro ⟨⟨id, hid, hrow⟩, hstore⟩
    exact ⟨id, hid, hrow, hstore⟩

theorem weights_of_nodeInto {run : LoadRun} {plans : List ListPlan} {position node : Nat}
    {weights : Option WeightTable} {into : List NodeReading × Option WeightTable}
    (h : run.nodeInto plans position node weights = .ok into) (hnone : into.2 = none) :
    weights = none := by
  obtain ⟨row, weights'⟩ := into
  obtain rfl : weights' = none := hnone
  exact store_eq_none (nodeInto_eq_ok_iff.mp h).2

/-- **One node.** -/
theorem fillNode_reaches {plans : List ListPlan} {rows : List (List NodeReading)} (run : LoadRun)
    (node : Nat) {output : PartitionOutput} (hadmits : ∀ plan ∈ plans, plan.Admits rows.length)
    (hfilled : FilledAll plans rows output.lists)
    (hweights : output.weights = none → ∀ plan ∈ plans, plan.scan.property = none) :
    Reaches (run.nodeInto plans rows.length node output.weights)
      (run.fillNode plans rows.length node output)
      fun into after => after.weights = into.2 ∧ FilledAll plans (rows ++ [into.1]) after.lists := by
  unfold nodeInto
  simp only [fillNode]
  cases run.deadline.checkAt (.reading node) rows.length *> run.externalId node with
  | error error => exact Reaches.error_iff.mpr ⟨_, rfl⟩
  | ok id =>
    show Reaches (run.rowInto rows.length node id plans output.weights) _ _
    rw [← bind_pure (run.rowInto rows.length node id plans output.weights)]
    refine Reaches.bind (fillLists_reaches hadmits hfilled hweights) ?_ ?_
    · rintro error ⟨lists, weights⟩ hresult
      simp only [hresult]
      exact ⟨_, rfl⟩
    · rintro ⟨row, weights⟩ _ ⟨lists, weights'⟩ _ hresult ⟨hweights', hfilled'⟩
      simp only [hresult]
      exact Reaches.ok_iff.mpr ⟨(), _, rfl, hweights', hfilled'⟩

/-- What nodes come to after those of some rows, and the table that all weights have been written to. -/
def nodesInto (run : LoadRun) (plans : List ListPlan) :
    List Nat → List (List NodeReading) → Option WeightTable →
      Except LoadError (List (List NodeReading) × Option WeightTable)
  | [], rows, weights => .ok (rows, weights)
  | node :: nodes, rows, weights => do
    let into ← run.nodeInto plans rows.length node weights
    run.nodesInto plans nodes (rows ++ [into.1]) into.2

/-- The steps of a partition that reads nodes after so many others. -/
def fillSteps (run : LoadRun) (plans : List ListPlan) (nodes : List Nat) (first : Nat) :
    List (EStateM LoadError PartitionOutput Unit) :=
  (nodes.zipIdx first).map fun (node, position) => run.fillNode plans position node

/-- Some of the steps are those for some of the nodes, and the others come after them. -/
theorem exists_of_fillSteps_eq_append {run : LoadRun} {plans : List ListPlan} {nodes : List Nat}
    {first : Nat} {before rest : List (EStateM LoadError PartitionOutput Unit)}
    (h : run.fillSteps plans nodes first = before ++ rest) :
    ∃ done others, nodes = done ++ others ∧ before = run.fillSteps plans done first ∧
      rest = run.fillSteps plans others (first + done.length) := by
  unfold fillSteps at h
  obtain ⟨_, _, hsplit, rfl, rfl⟩ := List.map_eq_append_iff.mp h
  obtain ⟨done, others, hnodes, rfl, rfl⟩ := List.zipIdx_eq_append_iff.mp hsplit
  exact ⟨done, others, hnodes, rfl, rfl⟩

/-- **All nodes**, one after another. -/
theorem finish_fillNode {run : LoadRun} {plans : List ListPlan} {nodes : List Nat} :
    ∀ (rows : List (List NodeReading)) (output : PartitionOutput),
      (∀ plan ∈ plans, ∀ position, position < rows.length + nodes.length → plan.Admits position) →
      FilledAll plans rows output.lists →
      (output.weights = none → ∀ plan ∈ plans, plan.scan.property = none) →
      (∀ error, run.nodesInto plans nodes rows output.weights = .error error →
        PartitionWork.finish output (run.fillSteps plans nodes rows.length) = .error error) ∧
      ∀ into, run.nodesInto plans nodes rows output.weights = .ok into →
        ∃ output', PartitionWork.finish output (run.fillSteps plans nodes rows.length) = .ok output' ∧
          output'.weights = into.2 ∧ FilledAll plans into.1 output'.lists := by
  induction nodes with
  | nil =>
    intro rows output _ hfilled _
    constructor
    · intro error h
      cases h
    · intro into h
      cases h
      exact ⟨output, rfl, rfl, hfilled⟩
  | cons node nodes ih =>
    -- the rows so far are the invariant, and the position of the node is their number
    intro rows output hadmits hfilled hweights
    have hstep := fillNode_reaches run node
      (fun plan hplan => hadmits plan hplan rows.length (by simp)) hfilled hweights
    have hsteps : run.fillSteps plans (node :: nodes) rows.length
        = run.fillNode plans rows.length node :: run.fillSteps plans nodes (rows.length + 1) := by
      rw [fillSteps, List.zipIdx_cons, List.map_cons]
      rfl
    rw [nodesInto, hsteps]
    cases hinto : run.nodeInto plans rows.length node output.weights with
    | error error =>
      rw [hinto] at hstep
      obtain ⟨after, hafter⟩ := Reaches.error_iff.mp hstep
      rw [finish_cons_of_error hafter]
      constructor
      · intro error' h
        obtain rfl : error = error' := Except.error.inj h
        rfl
      · intro into h
        cases h
    | ok into =>
      rw [hinto] at hstep
      obtain ⟨_, after, hafter, hweights', hfilled'⟩ := Reaches.ok_iff.mp hstep
      -- the other nodes go on after one more row
      rw [finish_cons_of_ok hafter]
      have hrest := ih (rows ++ [into.1]) after (by
        intro plan hplan position hposition
        refine hadmits plan hplan position ?_
        simp only [List.length_append, List.length_cons, List.length_nil] at hposition ⊢
        omega) hfilled' fun hnone => hweights (weights_of_nodeInto hinto (hweights' ▸ hnone))
      rw [List.length_append, List.length_singleton, hweights'] at hrest
      exact hrest

/-- The weights of nodes, as they are written. -/
def rowsWrites (scans : List ListScan) (nodes : List Nat) (rows : List (List NodeReading)) :
    List (PairKey × Float) :=
  (nodes.zip rows).flatMap fun (node, row) => rowWrites scans node row

theorem nodesInto_eq_ok_iff {run : LoadRun} {plans : List ListPlan} {nodes : List Nat} :
    ∀ {rows all : List (List NodeReading)} {weights weights' : Option WeightTable},
      run.nodesInto plans nodes rows weights = .ok (all, weights') ↔
        ∃ news, (nodes.zipIdx rows.length).mapM (fun (node, position) =>
            run.rowAt plans position node) = .ok news ∧ all = rows ++ news ∧
          store (rowsWrites (plans.map ListPlan.scan) nodes news) weights = .ok weights' := by
  induction nodes with
  | nil =>
    intro rows all weights weights'
    rw [nodesInto, List.zipIdx_nil, List.mapM_nil]
    constructor
    · intro h
      cases h
      exact ⟨[], rfl, (List.append_nil _).symm, store_nil _⟩
    · rintro ⟨news, hnews, rfl, hstore⟩
      cases hnews
      unfold rowsWrites at hstore
      rw [List.zip_nil_left, List.flatMap_nil, store_nil] at hstore
      cases hstore
      rw [List.append_nil]
  | cons node nodes ih =>
    intro rows all weights weights'
    rw [nodesInto, List.zipIdx_cons, List.mapM_cons]
    constructor
    · intro h
      obtain ⟨⟨row, middle⟩, hinto, hrest⟩ := bind_eq_ok_iff.mp h
      obtain ⟨hrow, hstore⟩ := nodeInto_eq_ok_iff.mp hinto
      obtain ⟨news, hnews, rfl, hstore'⟩ := ih.mp hrest
      rw [List.length_append, List.length_singleton] at hnews
      refine ⟨row :: news, ?_, by simp, ?_⟩
      · exact bind_eq_ok_iff.mpr ⟨row, hrow, bind_eq_ok_iff.mpr ⟨news, hnews, rfl⟩⟩
      · unfold rowsWrites
        rw [List.zip_cons_cons, List.flatMap_cons, store_append]
        exact bind_eq_ok_iff.mpr ⟨middle, hstore, hstore'⟩
    · rintro ⟨all, hall, rfl, hstore⟩
      obtain ⟨row, hrow, hrest⟩ := bind_eq_ok_iff.mp hall
      obtain ⟨news, hnews, heq⟩ := bind_eq_ok_iff.mp hrest
      cases heq
      unfold rowsWrites at hstore
      rw [List.zip_cons_cons, List.flatMap_cons, store_append] at hstore
      obtain ⟨middle, hfirst, hsecond⟩ := bind_eq_ok_iff.mp hstore
      refine bind_eq_ok_iff.mpr ⟨(row, middle), nodeInto_eq_ok_iff.mpr ⟨hrow, hfirst⟩, ?_⟩
      refine ih.mpr ⟨news, ?_, by simp, hsecond⟩
      rwa [List.length_append, List.length_singleton]

/-- The readings of the nodes of a partition. -/
def rowsOf (run : LoadRun) (plans : List ListPlan) (range : NodeRange) :
    Except LoadError (List (List NodeReading)) :=
  range.toList.zipIdx.mapM fun (node, position) => run.rowAt plans position node

/-- There is no table only if no weights are asked for. -/
theorem weightProperty_of_blankWeights {run : LoadRun} {capacity : Nat} {isShard : Bool}
    (h : run.blankWeights capacity isShard = none) : run.config.weightProperty = none := by
  by_contra hsome
  have hweighted : run.config.isWeighted = true := by
    rw [LoadConfig.isWeighted, Option.isSome_iff_ne_none]
    exact hsome
  simp [blankWeights, hweighted] at h

section Partition

variable {run : LoadRun} {cursor : Nat} {range : NodeRange} {plans : List ListPlan} {capacity : Nat}

/-- What a partition begins with. -/
def blankOutput (run : LoadRun) (plans : List ListPlan) (capacity : Nat) : PartitionOutput :=
  ⟨plans.map fun plan => { state := plan.scan.initial }, run.blankWeights capacity run.sharesPairs⟩

theorem solo_fillWork_eq (hopen : run.snapshot.openCursor cursor = .ok ()) :
    (run.fillWork cursor range plans capacity).solo
      = PartitionWork.finish (run.blankOutput plans capacity) (run.fillSteps plans range.toList 0) := by
  unfold PartitionWork.solo
  rw [fillWork, hopen]
  rfl

variable (capacity) in
/-- A partition alone reads its nodes in order. -/
theorem solo_fillWork (hopen : run.snapshot.openCursor cursor = .ok ())
    (hadmits : ∀ plan ∈ plans, ∀ position, position < range.size → plan.Admits position)
    (hweights : run.config.weightProperty = none → ∀ plan ∈ plans, plan.scan.property = none) :
    (∀ error, run.nodesInto plans range.toList [] (run.blankWeights capacity run.sharesPairs)
        = .error error →
      (run.fillWork cursor range plans capacity).solo = .error error) ∧
    ∀ into, run.nodesInto plans range.toList [] (run.blankWeights capacity run.sharesPairs) = .ok into →
      ∃ output, (run.fillWork cursor range plans capacity).solo = .ok output ∧
        output.weights = into.2 ∧ FilledAll plans into.1 output.lists := by
  rw [solo_fillWork_eq hopen]
  refine finish_fillNode [] (run.blankOutput plans capacity) ?_ (filledAll_nil plans) ?_
  · intro plan hplan position hposition
    refine hadmits plan hplan position ?_
    simpa [NodeRange.toList] using hposition
  · exact fun hnone => hweights (weightProperty_of_blankWeights hnone)

/-- **What a partition has read** after some of its nodes. -/
theorem rows_of_finish {nodes : List Nat}
    (hadmits : ∀ plan ∈ plans, ∀ position, position < nodes.length → plan.Admits position)
    (hweights : run.config.weightProperty = none → ∀ plan ∈ plans, plan.scan.property = none)
    {reached : PartitionOutput} (h : PartitionWork.finish (run.blankOutput plans capacity)
      (run.fillSteps plans nodes 0) = .ok reached) :
    ∃ rows, nodes.zipIdx.mapM (fun (node, position) => run.rowAt plans position node) = .ok rows ∧
      FilledAll plans rows reached.lists ∧
      store (rowsWrites (plans.map ListPlan.scan) nodes rows)
        (run.blankWeights capacity run.sharesPairs) = .ok reached.weights := by
  have hadmits' : ∀ plan ∈ plans, ∀ position,
      position < ([] : List (List NodeReading)).length + nodes.length → plan.Admits position := by
    intro plan hplan position hposition
    rw [List.length_nil, Nat.zero_add] at hposition
    exact hadmits plan hplan position hposition
  obtain ⟨hfail, hok⟩ := finish_fillNode [] (run.blankOutput plans capacity) hadmits'
    (filledAll_nil plans) fun hnone => hweights (weightProperty_of_blankWeights hnone)
  cases hinto : run.nodesInto plans nodes [] (run.blankWeights capacity run.sharesPairs) with
  | error error => cases h.symm.trans (hfail error hinto)
  | ok into =>
    obtain ⟨rows, weights⟩ := into
    obtain ⟨output, houtput, hsame, hfilled⟩ := hok _ hinto
    obtain rfl : reached = output := Except.ok.inj (h.symm.trans houtput)
    obtain ⟨news, hnews, rfl, hstore⟩ := nodesInto_eq_ok_iff.mp hinto
    exact ⟨_, hnews, hfilled, hsame ▸ hstore⟩

/-- **What a partition has read** when it succeeds alone. -/
theorem rows_of_solo_fillWork (hopen : run.snapshot.openCursor cursor = .ok ())
    (hadmits : ∀ plan ∈ plans, ∀ position, position < range.size → plan.Admits position)
    (hweights : run.config.weightProperty = none → ∀ plan ∈ plans, plan.scan.property = none)
    {output : PartitionOutput} (h : (run.fillWork cursor range plans capacity).solo = .ok output) :
    ∃ rows, run.rowsOf plans range = .ok rows ∧ FilledAll plans rows output.lists ∧
      store (rowsWrites (plans.map ListPlan.scan) range.toList rows)
        (run.blankWeights capacity run.sharesPairs) = .ok output.weights := by
  rw [solo_fillWork_eq hopen] at h
  refine rows_of_finish (fun plan hplan position hposition => hadmits plan hplan position ?_) hweights h
  rwa [NodeRange.toList, List.length_range'] at hposition

end Partition

end LoadRun

/-! ## What a filled partition holds -/

/-- The counts of a row of readings. -/
def rowCounts (row : List NodeReading) : ScanCounts := ScanCounts.total (row.map NodeReading.counts)

theorem rowCounts_eq (row : List NodeReading) :
    rowCounts row = ScanCounts.add (row.headD default).counts (rowCounts row.tail) := by
  cases row with
  | nil => rfl
  | cons reading row => exact ScanCounts.total_cons ..

/-- The counts of a column and of the columns behind it. -/
theorem total_rowCounts (rows : List (List NodeReading)) :
    ScanCounts.total (rows.map rowCounts)
      = ScanCounts.add (ScanCounts.total (rows.map fun row => (row.headD default).counts))
        (ScanCounts.total (rows.map fun row => rowCounts row.tail)) := by
  induction rows with
  | nil => rfl
  | cons row rows ih =>
    simp only [List.map_cons, ScanCounts.total_cons, ih]
    rw [rowCounts_eq row]
    simp only [ScanCounts.add, ScanCounts.mk.injEq]
    omega

/-- **The counts of a partition** are those of its rows. -/
theorem FilledAll.counts {plans : List ListPlan} :
    ∀ {rows : List (List NodeReading)} {outputs : List ListOutput}, FilledAll plans rows outputs →
      (∀ row ∈ rows, row.length = plans.length) →
      ScanCounts.total (outputs.map fun output => output.state.counts)
        = ScanCounts.total (rows.map rowCounts) := by
  induction plans with
  | nil =>
    intro rows outputs h hlength
    obtain rfl : outputs = [] := h
    induction rows with
    | nil => rfl
    | cons row rows ih =>
      have hrow : row = [] := List.eq_nil_of_length_eq_zero (hlength row List.mem_cons_self)
      rw [List.map_cons, ScanCounts.total_cons, hrow,
        ← ih fun other hother => hlength other (List.mem_cons_of_mem _ hother)]
      rfl
  | cons plan plans ih =>
    intro rows outputs h hlength
    cases outputs with
    | nil => exact h.elim
    | cons output outputs =>
      have htails : ∀ row ∈ rows.map List.tail, row.length = plans.length := by
        intro row hrow
        obtain ⟨whole, hwhole, rfl⟩ := List.mem_map.mp hrow
        rw [List.length_tail, hlength whole hwhole, List.length_cons, Nat.add_sub_cancel]
      rw [List.map_cons, ScanCounts.total_cons, ih h.2 htails, h.1.counts, total_rowCounts rows,
        List.map_map, List.map_map]
      rfl

/-- The readings of all nodes in one list. -/
def columnOf (rows : List (List NodeReading)) (list : Nat) : List NodeReading :=
  rows.map fun row => row.getD list default

namespace PartitionOutput

variable {plans : List ListPlan} {rows : List (List NodeReading)} {output : PartitionOutput}
  {list : Nat} {plan : ListPlan}

theorem targetsIn_of_filled (h : FilledAll plans rows output.lists) (hplan : plans[list]? = some plan) :
    (output.targetsIn list).toList = (columnOf rows list).flatMap NodeReading.targets := by
  obtain ⟨own, hown, hfilled⟩ := h.getElem hplan
  unfold targetsIn
  rw [hown]
  exact hfilled.targets

theorem degreesIn_of_filled (h : FilledAll plans rows output.lists) (hplan : plans[list]? = some plan) :
    output.degreesIn list = (columnOf rows list).map fun reading => reading.targets.length := by
  obtain ⟨own, hown, hfilled⟩ := h.getElem hplan
  unfold degreesIn
  rw [hown]
  exact hfilled.degrees

end PartitionOutput

end CompactGraph
