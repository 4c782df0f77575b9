/-
# Weights that a run refuses

Under the policy that refuses parallel relationships, two weights of a pair may meet while the row of a node
is read, while a partition writes the weights of its nodes, or when the tables of two partitions are merged.
A run to which its store answers everything fails in no other way (`LoadRun.Refused`): what it reports is
why a row cannot be read, or a pair under which all nodes together write two weights.
-/
import CompactGraph.Proofs.Load.Failures
import CompactGraph.Proofs.Load.Graphs

namespace CompactGraph

open ListScan (store)

namespace LoadRun

variable {run : LoadRun}

/-- Why a run may be refused: a row cannot be read, or two weights of a pair may not meet. -/
inductive Refused (run : LoadRun) (cause : LoadError) : Prop where
  | row {node : Nat} (hnode : node < run.idMap.nodeCount) (h : run.nodeRow node = .error cause)
  | pair {source target : NodeId} (hcause : cause = .duplicateRelationship source target)
      (hreject : run.config.policy = .reject) (hmany : 2 ≤ (run.pairWeights source target).length)

/-! ## Writing -/

section Writing

variable (hcount : run.idMap.nodeCount ≤ maxNodeCount)

include hcount

/-- Two weights under a key are two weights of a pair. -/
theorem refused_of_weightsUnder {key : PairKey} {cause : LoadError}
    (hcause : cause = .duplicateRelationship key.source key.target)
    (hreject : run.config.policy = .reject) (hmany : 2 ≤ (weightsUnder key run.allWrites).length) :
    run.Refused cause := by
  obtain ⟨source, target, rfl⟩ := key.exists_ofPair
  rw [PairKey.source_ofPair, PairKey.target_ofPair] at hcause
  rw [weightsUnder_eq hcount] at hmany
  exact .pair hcause hreject hmany

/-- **A partition that cannot write** has met two weights of a pair. -/
theorem refused_of_store {nodes : List Nat}
    (hsub : (nodes.flatMap run.writesOf).Sublist run.allWrites) {capacity : Nat} {cause : LoadError}
    (h : store (nodes.flatMap run.writesOf) (run.blankWeights capacity run.sharesPairs)
      = .error cause) : run.Refused cause := by
  cases hweighted : run.config.isWeighted with
  | false =>
    unfold blankWeights at h
    rw [hweighted] at h
    cases h
  | true =>
    obtain ⟨blank, hblank, hsound, hrules, hnone⟩ :=
      exists_blankWeights hweighted capacity run.sharesPairs
    rw [hblank] at h
    cases hput : WeightTable.putAll (nodes.flatMap run.writesOf) blank with
    | ok _ table =>
      simp only [store, endState, hput] at h
      cases h
    | error own after =>
      simp only [store, endState, hput] at h
      cases h
      obtain ⟨key, hcause, hreject, hmany⟩ := hsound.refused_of_putAll
        (fun write hwrite => unreserved_allWrites hcount write (hsub.subset hwrite)) hput
      rw [hnone, Option.toList_none, List.length_nil, Nat.zero_add] at hmany
      refine refused_of_weightsUnder hcount hcause ?_ (hmany.trans ((hsub.filter _).map _).length_le)
      exact (congrArg WeightRules.policy hrules).symm.trans hreject

variable {capacityOf : NodeRange → Nat}

/-- **Partitions that cannot be merged** have written two weights of a pair. -/
theorem refused_of_mergeWeights_outputs {outputs : List PartitionOutput}
    (hdelivered : List.Forall₂ (fun range output => run.Delivered (capacityOf range) range output)
      run.ranges outputs) (hranges : run.ranges ≠ []) {cause : LoadError}
    (h : mergeWeights none (outputs.map PartitionOutput.weights) = .error cause) :
    run.Refused cause := by
  cases hweighted : run.config.isWeighted with
  | false =>
    rw [mergeWeights_none (weights_eq_none hweighted hdelivered)] at h
    cases h
  | true =>
    obtain ⟨part, parts, table, tables, htables, hflatten, hmade⟩ :=
      exists_cons_tables hcount hweighted hdelivered hranges
    rw [htables] at h
    obtain ⟨key, hcause, hreject, hmany⟩ := refused_of_merged hmade h
    rw [hflatten] at hmany
    exact refused_of_weightsUnder hcount hcause hreject hmany

end Writing

/-! ## Reading -/

/-- A row that cannot be read fails with its first list. -/
def FailsFirst (run : LoadRun) : Prop := ∀ node own found reading, run.externalId node = .ok own →
  run.snapshot.relationships own run.mainKind.direction run.config.relationshipType = .ok found →
  (run.scanOf run.mainKind).reading run.snapshot.property (NodeId.ofIndex node) found = .ok reading →
  ∃ row, run.nodeRow node = .ok row

/-- What a bound lets through is what the store delivers. -/
theorem relationships_of_relationshipsOf {plan : ListPlan} {position : Nat} {id : ExternalId}
    {found : List RelationshipRef} (h : run.relationshipsOf plan position id = .ok found) :
    run.snapshot.relationships id plan.scan.kind.direction run.config.relationshipType = .ok found := by
  obtain ⟨all, hall, hrest⟩ := bind_eq_ok_iff.mp h
  split at hrest
  · split at hrest
    · cases hrest
    · cases hrest
      exact hall
  · cases hrest
    exact hall

section Reading

variable (hlimit : run.deadline.limit = none) (hfirst : run.FailsFirst) {range : NodeRange}
  {plans : List ListPlan} (hserves : run.Serves range plans)

include hfirst hserves

/-- A row that cannot be read fails before anything is written: its first list is the one that fails. -/
theorem rowInto_of_error {position node : Nat} {id : ExternalId} {error : LoadError}
    (hrow : run.nodeRow node = .error error) (hid : run.externalId node = .ok id)
    (hreadings : plans.mapM (fun plan => run.readingAt plan position node id) = .error error)
    (weights : Option WeightTable) : run.rowInto position node id plans weights = .error error := by
  have hscans := hserves.scans
  unfold scans at hscans
  rw [run.kinds_eq.1, List.map_cons] at hscans
  cases plans with
  | nil => cases hscans
  | cons plan plans =>
    rw [List.map_cons, List.cons.injEq] at hscans
    rw [List.mapM_cons] at hreadings
    rw [rowInto, readingInto]
    cases hreading : run.readingAt plan position node id with
    | error own =>
      rw [hreading] at hreadings
      cases hreadings
      rfl
    | ok reading =>
      obtain ⟨found, hfound, hreading⟩ := bind_eq_ok_iff.mp hreading
      have hdelivered := relationships_of_relationshipsOf hfound
      rw [hscans.1] at hdelivered hreading
      obtain ⟨row, hok⟩ := hfirst node id found reading hid hdelivered hreading
      rw [hrow] at hok
      cases hok

include hlimit

/-- **A node is read first**, and its weights are written afterwards. -/
theorem nodeInto_eq {position node : Nat} (hnode : range.toList[position]? = some node)
    (weights : Option WeightTable) : run.nodeInto plans position node weights = do
      let row ← run.nodeRow node
      let written ← store (run.writesOf node) weights
      return (row, written) := by
  have hrow := hserves.reads position node hnode
  cases hown : run.nodeRow node with
  | ok row =>
    rw [hown] at hrow
    obtain ⟨id, hid, hreadings⟩ := bind_eq_ok_iff.mp hrow
    have hwrites : run.writesOf node = rowWrites run.scans node row := by
      unfold writesOf
      rw [row_eq_of_ok hown]
    unfold nodeInto
    rw [hid]
    show run.rowInto position node id plans weights = _
    rw [rowInto_of_readings hreadings, hserves.scans, hwrites]
    rfl
  | error error =>
    rw [hown] at hrow
    unfold rowAt at hrow
    unfold nodeInto
    rw [Deadline.checkAt_of_no_limit hlimit] at hrow ⊢
    cases hid : run.externalId node with
    | error own =>
      rw [hid] at hrow
      cases hrow
      rfl
    | ok id =>
      rw [hid] at hrow
      exact rowInto_of_error hfirst hserves hown hid hrow weights

/-- **Nodes cannot be read** because of a row, or because of what is written for the first of them. -/
theorem error_of_nodesInto {nodes : List Nat} :
    ∀ {rows : List (List NodeReading)} {weights : Option WeightTable} {error : LoadError},
      (∀ i node, nodes[i]? = some node → range.toList[rows.length + i]? = some node) →
      run.nodesInto plans nodes rows weights = .error error →
      (∃ node ∈ nodes, run.nodeRow node = .error error) ∨
        ∃ before, before <+: nodes ∧ store (before.flatMap run.writesOf) weights = .error error := by
  induction nodes with
  | nil =>
    intro rows weights error _ h
    cases h
  | cons node nodes ih =>
    intro rows weights error hnodes h
    have hnode : range.toList[rows.length]? = some node := hnodes 0 node rfl
    rw [nodesInto, nodeInto_eq hlimit hfirst hserves hnode] at h
    cases hrow : run.nodeRow node with
    | error own =>
      rw [hrow] at h
      cases h
      exact Or.inl ⟨node, List.mem_cons_self, hrow⟩
    | ok row =>
      rw [hrow] at h
      cases hstore : store (run.writesOf node) weights with
      | error own =>
        simp only [hstore, bind, Except.bind] at h
        cases h
        refine Or.inr ⟨[node], ⟨nodes, rfl⟩, ?_⟩
        rw [List.flatMap_singleton, hstore]
      | ok middle =>
        simp only [hstore, bind, Except.bind, pure, Except.pure] at h
        -- the other nodes go on with what has been written so far
        have hnodes' : ∀ i other, nodes[i]? = some other →
            range.toList[(rows ++ [row]).length + i]? = some other := by
          intro i other hother
          rw [List.length_append, List.length_singleton, Nat.add_right_comm]
          exact hnodes (i + 1) other (by simpa using hother)
        rcases ih hnodes' h with ⟨other, hother, hfails⟩ | ⟨before, ⟨after, rfl⟩, hfails⟩
        · exact Or.inl ⟨other, List.mem_cons_of_mem _ hother, hfails⟩
        · refine Or.inr ⟨node :: before, ⟨after, rfl⟩, ?_⟩
          rw [List.flatMap_cons, store_append, hstore]
          exact hfails

variable (hopen : ∀ cursor, run.snapshot.openCursor cursor = .ok ())
  (hcount : run.idMap.nodeCount ≤ maxNodeCount)

include hopen hcount

/-- **A partition that fails alone.** -/
theorem refused_of_solo (hrange : range ∈ run.ranges) {cursor capacity : Nat} {cause : LoadError}
    (h : (run.fillWork cursor range plans capacity).solo = .error cause) : run.Refused cause := by
  obtain ⟨hfail, hok⟩ := solo_fillWork capacity (hopen cursor) hserves.admits hserves.unread
  cases hinto : run.nodesInto plans range.toList [] (run.blankWeights capacity run.sharesPairs) with
  | ok into =>
    obtain ⟨output, hsolo, _⟩ := hok into hinto
    rw [hsolo] at h
    cases h
  | error own =>
    rw [hfail own hinto] at h
    cases h
    have hnodes : ∀ i node, range.toList[i]? = some node →
        range.toList[([] : List (List NodeReading)).length + i]? = some node := by
      intro i node hnode
      rwa [List.length_nil, Nat.zero_add]
    rcases error_of_nodesInto hlimit hfirst hserves hnodes hinto with
      ⟨node, hnode, hrow⟩ | ⟨before, ⟨after, hafter⟩, hstore⟩
    · have hlt : node < run.idMap.nodeCount := by
        rw [← List.mem_range, ← flatMap_ranges]
        exact List.mem_flatMap.mpr ⟨range, hrange, hnode⟩
      exact .row hlt hrow
    · refine refused_of_store hcount ?_ hstore
      have hbefore : (before.flatMap run.writesOf).Sublist (range.toList.flatMap run.writesOf) := by
        rw [← hafter, List.flatMap_append]
        exact List.sublist_append_left ..
      refine hbefore.trans ?_
      rw [← flatten_partWrites]
      exact List.sublist_flatten_of_mem (List.mem_map_of_mem hrange)

end Reading

/-! ## Runs -/

section Runs

variable (hopen : ∀ cursor, run.snapshot.openCursor cursor = .ok ())
  (hlimit : run.deadline.limit = none) (hcount : run.idMap.nodeCount ≤ maxNodeCount)
  (hnever : run.snapshot.NeverAborts) (hfirst : run.FailsFirst)

include hopen hlimit hcount hnever hfirst

/-- **A phase that fails** reports what refuses its run. -/
theorem refused_of_fillPhase {plansOf : NodeRange → List ListPlan} {capacityOf : NodeRange → Nat}
    {cursorOf : Nat → Nat} {listsOf : List PartitionOutput → Except LoadError (List AdjacencyList)}
    (hserves : ∀ range ∈ run.ranges, run.Serves range (plansOf range)) (hranges : run.ranges ≠ [])
    (hlists : (∀ node, node < run.idMap.nodeCount → run.nodeRow node = .ok (run.row node)) →
      ∀ outputs, List.Forall₂ (fun range output => run.Delivered (capacityOf range) range output)
        run.ranges outputs →
      listsOf outputs = .ok ((List.range run.kinds.length).map run.listOf))
    {error : LoadError} (h : run.fillPhase plansOf capacityOf cursorOf listsOf = .error error) :
    ∃ cause, error.rootCause = cause.rootCause ∧ run.Refused cause := by
  unfold fillPhase at h
  cases hgather : gather (Crew.run (run.schedule .fill) false
      (run.fillWorks plansOf capacityOf cursorOf)).outcomes with
  | error failure =>
    rw [hgather] at h
    cases h
    have hown : ∀ work ∈ run.fillWorks plansOf capacityOf cursorOf, work.solo ≠ .error .aborted := by
      intro work hwork haborted
      obtain ⟨⟨range, number⟩, _, rfl⟩ := List.mem_map.mp hwork
      exact (ownError_of_fillWork (PartitionWork.firstError_iff.mpr haborted)).ne_aborted hnever rfl
    have hreports := Crew.reports_run (run.schedule .fill) hown
    obtain ⟨number, cause, work, rfl, _, hwork, hcause⟩ := hreports.fails _ hgather
    obtain ⟨⟨range, own⟩, hmem, rfl⟩ := List.mem_map.mp (List.mem_of_getElem? hwork)
    have hrange : range ∈ run.ranges := List.mem_of_getElem? (List.mem_zipIdx_iff_getElem?.mp hmem)
    exact ⟨cause, rfl, refused_of_solo hlimit hfirst (hserves range hrange) hopen hcount hrange
      (PartitionWork.firstError_iff.mp hcause)⟩
  | ok outputs =>
    obtain ⟨hrows, hdelivered⟩ := delivered_of_gather hopen hserves (run.schedule .fill) hgather
    rw [hgather] at h
    simp only [bind, Except.bind, hlists hrows outputs hdelivered, merge] at h
    split at h
    · next hmerge =>
      cases h
      exact ⟨_, rfl, refused_of_mergeWeights_outputs hcount hdelivered hranges hmerge⟩
    · cases h

variable (hvalid : run.config.validate = .ok ())
  (hreported : run.sizing = .exact →
    ∀ node, node < run.idMap.nodeCount → run.nodeBounds node = .ok (run.degreesAt node))
  (hreserved : run.sizing = .exact → ∀ list, list < run.kinds.length →
    total ((List.range run.idMap.nodeCount).map (run.degreeIn list)) ≤ maxTargets)

include hvalid hreported hreserved

/-- **A run that fails**, although its store answers and there is room for all targets, reports what refuses
it. -/
theorem refused_of_load {error : LoadError} (h : run.load = .error error) :
    ∃ cause, error.rootCause = cause.rootCause ∧ run.Refused cause := by
  have hassembled : run.assembled = .error error := by
    unfold load at h
    rw [hvalid] at h
    cases hparts : run.assembled with
    | error own =>
      rw [hparts] at h
      cases h
      rfl
    | ok parts =>
      -- what has been put together makes a graph
      obtain ⟨_, hholds⟩ := holds_of_assembled hopen hlimit hcount hparts
      rw [hparts] at h
      simp only [bind, Except.bind, graphOf_eq hholds hvalid] at h
      cases h
  unfold assembled at hassembled
  split at hassembled
  · cases hassembled
  · next hranges =>
    rw [List.isEmpty_iff] at hranges
    split at hassembled
    · next hsizing =>
      have hall := hreported hsizing
      rw [exact_eq hopen hlimit hall fun list hlist =>
        hreserved hsizing list (List.mem_range.mp hlist)] at hassembled
      exact refused_of_fillPhase hopen hlimit hcount hnever hfirst
        (fun range => serves_regions hlimit hsizing hall) hranges
        (fun hrows outputs hdelivered => exactLists_eq hrows hcount hdelivered hsizing hall) hassembled
    · next hsizing =>
      rw [growable_eq] at hassembled
      exact refused_of_fillPhase hopen hlimit hcount hnever hfirst
        (fun range _ => serves_growing hlimit hsizing range) hranges
        (fun hrows outputs hdelivered => growableLists_eq hrows hcount hdelivered) hassembled

end Runs

end LoadRun

end CompactGraph
