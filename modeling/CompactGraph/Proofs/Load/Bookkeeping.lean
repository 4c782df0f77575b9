/-
# Loads keep count

A load keeps count of what it writes: of the targets of each partition, of the degrees that they are cut
by, and of the nodes that the lists cover.  It checks this in three places, and none of these checks ever
fails, whatever the store answers (`loads_keep_count`).
-/
import CompactGraph.Proofs.Load.Reserved

namespace CompactGraph

open PartitionWork

/-! ## Outcomes that keep count -/

namespace Snapshot

/-- The errors of loads that a snapshot has answered with, or one of its cursors to a partition. -/
inductive Causes (snapshot : Snapshot) : LoadError → Prop where
  | whole {error : LoadError} (h : snapshot.Raises error) : Causes snapshot error
  | partition {cause : LoadError} (number : Nat) (h : snapshot.Raises cause) :
      Causes snapshot (.partitionFailed number cause)

/-- An outcome that holds what it should, or fails; if the error says that the load has lost count, then
it is the snapshot that says so. -/
def KeepsCount {α : Type} (snapshot : Snapshot) (holds : α → Prop) : Except LoadError α → Prop
  | .ok a => holds a
  | .error error => error.isMiscount = true → snapshot.Causes error

namespace KeepsCount

variable {α β : Type} {snapshot : Snapshot} {holds : α → Prop} {holds' : β → Prop}
  {outcome : Except LoadError α}

theorem of_error (h : ∀ error, outcome = .error error → snapshot.Excuses error)
    (hok : ∀ a, outcome = .ok a → holds a) : snapshot.KeepsCount holds outcome := by
  cases outcome with
  | ok a => exact hok a rfl
  | error error => exact fun hcount => .whole (h error rfl hcount)

/-- Computations in sequence keep count if each of them does. -/
theorem bind (h : snapshot.KeepsCount holds outcome) {next : α → Except LoadError β}
    (hnext : ∀ a, outcome = .ok a → holds a → snapshot.KeepsCount holds' (next a)) :
    snapshot.KeepsCount holds' (outcome >>= next) := by
  cases outcome with
  | ok a => exact hnext a rfl h
  | error error => exact h

/-- Computations for each element keep count if each of them does. -/
theorem mapM {f : α → Except LoadError β} {items : List α}
    (h : ∀ item ∈ items, snapshot.KeepsCount holds' (f item)) :
    snapshot.KeepsCount (fun results => ∀ result ∈ results, holds' result) (items.mapM f) := by
  induction items with
  | nil => exact fun _ hmem => nomatch hmem
  | cons item items ih =>
    rw [List.mapM_cons]
    refine (h item List.mem_cons_self).bind fun result _ hresult => ?_
    refine (ih fun other hother => h other (List.mem_cons_of_mem _ hother)).bind fun results _ hrest => ?_
    exact List.forall_mem_cons.mpr ⟨hresult, hrest⟩

/-- A check that raises an error of another kind keeps count. -/
theorem guard {fails : Prop} [Decidable fails] {error : LoadError} {next : Unit → Except LoadError β}
    (herror : error.isMiscount = false) (h : snapshot.KeepsCount holds' (next ())) :
    snapshot.KeepsCount holds' (if fails then (throw error >>= next) else next ()) := by
  split
  · intro hcount
    rw [herror] at hcount
    cases hcount
  · exact h

end KeepsCount

end Snapshot

open Snapshot (KeepsCount)

variable {snapshot : Snapshot}

/-! ## Numbering nodes -/

/-- A visit of nodes fails at one of them. -/
theorem NodeScan.exists_of_visitEach {σ : Type} {visit : ExternalId → EStateM LoadError σ Unit}
    {error : LoadError} {ids : List ExternalId} :
    ∀ {state after : σ}, visitEach visit ids state = .error error after →
      ∃ id state after, visit id state = .error error after := by
  induction ids with
  | nil => exact fun h => nomatch h
  | cons id ids ih =>
    intro state after h
    cases hvisit : visit id state with
    | error own next =>
      simp only [visitEach, bind, EStateM.bind, hvisit] at h
      cases h
      exact ⟨id, state, _, hvisit⟩
    | ok _ next =>
      simp only [visitEach, bind, EStateM.bind, hvisit] at h
      exact ih h

/-- A scan fails as a visit does, or in its own way. -/
theorem NodeScan.error_of_forEach {σ : Type} {visit : ExternalId → EStateM LoadError σ Unit}
    {scan : NodeScan} {error : LoadError} {state after : σ}
    (h : scan.forEach visit state = .error error after) :
    (∃ id state after, visit id state = .error error after) ∨ scan.failure = some error := by
  cases hvisit : visitEach visit scan.ids state with
  | error own next =>
    simp only [forEach, bind, EStateM.bind, hvisit] at h
    cases h
    exact Or.inl (exists_of_visitEach hvisit)
  | ok _ next =>
    cases hfailure : scan.failure with
    | none =>
      simp only [forEach, bind, EStateM.bind, hvisit, hfailure] at h
      cases h
    | some own =>
      simp only [forEach, bind, EStateM.bind, hvisit, hfailure] at h
      cases h
      exact Or.inr rfl

/-- A node is not numbered for want of time or of numbers. -/
theorem isMiscount_of_collectNode {deadline : Deadline} {id : ExternalId} {error : LoadError}
    {state after : Nat × IdMap.Builder} (h : collectNode deadline id state = .error error after) :
    error.isMiscount = false := by
  obtain ⟨delivered, builder⟩ := state
  cases hcheck : deadline.checkAt (.delivered (delivered + 1)) (delivered + 1) with
  | error own =>
    simp only [collectNode, hcheck] at h
    cases h
    obtain ⟨limit, -, rfl⟩ := (Deadline.expires_of_checkAt hcheck).timeout
    rfl
  | ok _ =>
    cases hadd : IdMap.Builder.add id builder with
    | ok _ _ =>
      simp only [collectNode, hcheck, hadd] at h
      cases h
    | error own _ =>
      simp only [collectNode, hcheck, hadd] at h
      cases h
      simp only [IdMap.Builder.add] at hadd
      split at hadd
      · cases hadd
      · split at hadd
        · cases hadd
          rfl
        · cases hadd

/-- **The scan of nodes** keeps count. -/
theorem keepsCount_collectNodes (snapshot : Snapshot) (label : Option String) (deadline : Deadline) :
    snapshot.KeepsCount (fun _ => True) (collectNodes snapshot label deadline) := by
  refine KeepsCount.of_error (fun error h => ?_) fun _ _ => trivial
  unfold collectNodes at h
  cases hopen : snapshot.openCursor 0 with
  | error own =>
    rw [hopen] at h
    cases h
    exact (Snapshot.Raises.opening hopen).excuses
  | ok _ =>
    simp only [hopen, bind, Except.bind] at h
    split at h
    · cases h
    · next hscan =>
      cases h
      rcases NodeScan.error_of_forEach hscan with ⟨_, _, _, hnode⟩ | hfailure
      · exact Snapshot.excuses_of_eq_false (isMiscount_of_collectNode hnode)
      · exact (Snapshot.Raises.scan hfailure).excuses

/-! ## Checking the configuration -/

theorem keepsCount_checkName (option : NameOption) (name : Option String) :
    snapshot.KeepsCount (fun _ => True) (LoadConfig.checkName option name) := by
  unfold LoadConfig.checkName
  split
  · exact fun hcount => nomatch hcount
  · trivial

/-- **The check of a configuration** keeps count. -/
theorem keepsCount_validate (config : LoadConfig) :
    snapshot.KeepsCount (fun _ => True) config.validate := by
  unfold LoadConfig.validate
  refine .guard rfl (.guard rfl (.guard rfl ?_))
  refine (keepsCount_checkName _ _).bind fun _ _ _ => ?_
  refine (keepsCount_checkName _ _).bind fun _ _ _ => ?_
  refine (keepsCount_checkName _ _).bind fun _ _ _ => ?_
  refine .guard rfl ?_
  split
  · exact fun hcount => nomatch hcount
  · trivial

/-! ## Phases -/

/-- **A phase** keeps count if each of its partitions does. -/
theorem keepsCount_gather {σ : Type} {works : List (PartitionWork σ)}
    (hworks : ∀ work ∈ works, ∀ error, work.FirstError error → snapshot.Excuses error)
    (schedule : List Nat) :
    snapshot.KeepsCount (fun values => works.map PartitionWork.solo = values.map .ok)
      (gather (Crew.run schedule false works).outcomes) := by
  cases hgather : gather (Crew.run schedule false works).outcomes with
  | ok values => exact gather_run_eq_ok_iff.mp hgather
  | error error =>
    intro hcount
    obtain ⟨number, cause, rfl, houtcome⟩ := exists_of_gather_eq_error hgather
    obtain ⟨work, hwork, hsolo | hstopped⟩ := Crew.outcome_eq_solo_or_aborted schedule houtcome
    · have hfirst := PartitionWork.firstError_iff.mpr hsolo.symm
      exact .partition number (hworks work (List.mem_of_getElem? hwork) cause hfirst hcount)
    · cases hstopped
      cases hcount

/-! ## Lists -/

/-- Running sums fail for want of bits, not of count. -/
theorem keepsCount_prefixSums (counts : List Nat) :
    snapshot.KeepsCount (fun offsets => offsets = (offsetsOf counts).toArray) (prefixSums counts) := by
  refine KeepsCount.of_error (fun error h => ?_) fun offsets h => (prefixSums_eq_ok_iff.mp h).2
  rw [overflow_of_prefixSums h]
  exact Snapshot.excuses_of_eq_false rfl

/-- **A cut by degrees** that add up to the targets covers a node for each degree. -/
theorem keepsCount_ofDegrees {targets : Array NodeId} {degrees : List Nat} {nodeCount : Nat}
    (htotal : total degrees = targets.size) (hcount : degrees.length = nodeCount) :
    snapshot.KeepsCount (fun list => list.nodeCount = nodeCount)
      (AdjacencyList.ofDegrees targets degrees) := by
  refine (keepsCount_prefixSums degrees).bind fun offsets _ hoffsets => ?_
  subst hoffsets
  rw [if_pos (by rw [back_offsetsOf, htotal])]
  show (offsetsOf degrees).toArray.size - 1 = nodeCount
  rw [List.size_toArray, length_offsetsOf, Nat.add_sub_cancel, hcount]

/-- Reserving room keeps count. -/
theorem keepsCount_reserve (bounds : List Nat) :
    snapshot.KeepsCount (fun _ => True) (reserve bounds) :=
  (keepsCount_prefixSums bounds).bind fun _ _ _ => .guard rfl trivial

/-! ## Weights -/

theorem keepsCount_mergeWeights {weights : List (Option WeightTable)} :
    ∀ (merged : Option WeightTable),
      snapshot.KeepsCount (fun _ => True) (LoadRun.mergeWeights merged weights) := by
  induction weights with
  | nil => exact fun _ => trivial
  | cons next weights ih =>
    intro merged
    cases next with
    | none =>
      cases merged with
      | none => exact ih none
      | some table => exact ih (some table)
    | some other =>
      cases merged with
      | none => exact ih (some other)
      | some table =>
        rw [LoadRun.mergeWeights]
        split
        · exact ih _
        · next hmerge =>
          simp only [WeightTable.mergeFrom] at hmerge
          split at hmerge
          · obtain ⟨source, target, rfl⟩ := WeightTable.duplicate_of_putAll hmerge
            intro hcount
            cases hcount
          · cases hmerge
            intro hcount
            cases hcount

namespace LoadRun

variable {run : LoadRun}

/-- Lists that cover all nodes. -/
def Covers (run : LoadRun) (lists : List AdjacencyList) : Prop :=
  ∀ list ∈ lists, list.nodeCount = run.idMap.nodeCount

/-- **Putting partitions together** keeps count. -/
theorem keepsCount_merge {lists : List AdjacencyList} (hcovers : run.Covers lists)
    (outputs : List PartitionOutput) :
    snapshot.KeepsCount (fun parts => run.Covers parts.lists) (run.merge lists outputs) :=
  (keepsCount_mergeWeights none).bind fun _ _ _ => hcovers

/-! ## Runs -/

section Outputs

variable {outputs : List PartitionOutput} {list : Nat}
  (hcounted : List.Forall₂ (fun range output => output.CountsIn list range) run.ranges outputs)

include hcounted

/-- The degrees of all partitions are those of all nodes. -/
theorem length_flatMap_degreesIn :
    (outputs.flatMap fun output => output.degreesIn list).length = run.idMap.nodeCount := by
  have hlengths : outputs.map (fun output => (output.degreesIn list).length)
      = run.ranges.map fun range => range.toList.length := by
    rw [← List.forall₂_eq_eq_eq, List.forall₂_map_left_iff, List.forall₂_map_right_iff]
    refine hcounted.flip.imp fun output range h => ?_
    rw [h.degrees, NodeRange.toList, List.length_range']
  calc (outputs.flatMap fun output => output.degreesIn list).length
      = (outputs.map fun output => (output.degreesIn list).length).sum := List.length_flatMap
    _ = (run.ranges.map fun range => range.toList.length).sum := by rw [hlengths]
    _ = (run.ranges.flatMap NodeRange.toList).length := List.length_flatMap.symm
    _ = run.idMap.nodeCount := by rw [flatMap_ranges, List.length_range]

/-- The degrees of all partitions add up to their targets. -/
theorem total_flatMap_degreesIn : total (outputs.flatMap fun output => output.degreesIn list)
    = (outputs.flatMap fun output => (output.targetsIn list).toList).length := by
  generalize run.ranges = ranges at hcounted
  induction hcounted with
  | nil => rfl
  | cons hfirst _ ih =>
    rw [List.flatMap_cons, List.flatMap_cons, total_append, List.length_append, ih, ← hfirst.targets]
    rfl

/-- **A growing list** keeps count. -/
theorem keepsCount_growableList :
    snapshot.KeepsCount (fun own => own.nodeCount = run.idMap.nodeCount)
      (growableList list outputs) := by
  refine keepsCount_ofDegrees ?_ (length_flatMap_degreesIn hcounted)
  rw [total_flatMap_degreesIn hcounted, foldl_append_targets, Array.empty_append, List.size_toArray]

/-- **A packed list** keeps count if targets are laid out in its array. -/
theorem keepsCount_exactList {own : Array Nat}
    (hlaid : Laid (own.back?.getD 0) 0 (run.writtenIn own list outputs)) :
    snapshot.KeepsCount (fun list => list.nodeCount = run.idMap.nodeCount)
      (run.exactList own list outputs) := by
  rw [exactList_eq_pack]
  refine keepsCount_ofDegrees ?_ (length_flatMap_degreesIn hcounted)
  have hpacked : (run.writtenIn own list outputs).flatMap (fun part => part.targets.toList)
      = outputs.flatMap fun output => (output.targetsIn list).toList := by
    rw [writtenIn, List.flatMap_map]
    conv_rhs => rw [← List.map_snd_zip (Nat.le_of_eq hcounted.length_eq.symm), List.flatMap_map]
  rw [total_flatMap_degreesIn hcounted, pack_eq hlaid, hpacked, List.size_toArray]

end Outputs

/-- **Filling lists** keeps count if the lists do that partitions are put together from. -/
theorem keepsCount_fillPhase {plansOf : NodeRange → List ListPlan} {capacityOf : NodeRange → Nat}
    {cursorOf : Nat → Nat} {listsOf : List PartitionOutput → Except LoadError (List AdjacencyList)}
    (hfurnished : ∀ range ∈ run.ranges, run.Furnished range (plansOf range))
    (hlists : ∀ outputs,
      gather (Crew.run (run.schedule .fill) false
        (run.fillWorks plansOf capacityOf cursorOf)).outcomes = .ok outputs →
      (∀ list, list < run.kinds.length →
        List.Forall₂ (fun range output => output.CountsIn list range) run.ranges outputs) →
      run.snapshot.KeepsCount run.Covers (listsOf outputs)) :
    run.snapshot.KeepsCount (fun parts => run.Covers parts.lists)
      (run.fillPhase plansOf capacityOf cursorOf listsOf) := by
  have hworks : ∀ work ∈ run.fillWorks plansOf capacityOf cursorOf, ∀ error, work.FirstError error →
      run.snapshot.Excuses error := by
    intro work hwork error hfirst
    obtain ⟨⟨range, number⟩, hmem, rfl⟩ := List.mem_map.mp hwork
    exact excuses_of_fillWork (hfurnished range (List.fst_mem_of_mem_zipIdx hmem)) hfirst
  refine (keepsCount_gather hworks (run.schedule .fill)).bind fun outputs houtputs _ => ?_
  refine (hlists outputs houtputs fun list hlist => ?_).bind fun lists _ hcovers => ?_
  · refine (solos_of_gather houtputs).imp ?_
    rintro range output ⟨hrange, number, hsolo⟩
    exact countsIn_of_solo (hfurnished range hrange) hsolo hlist
  · exact keepsCount_merge hcovers outputs

/-- **A run with growing lists** keeps count. -/
theorem keepsCount_growable (run : LoadRun) :
    run.snapshot.KeepsCount (fun parts => run.Covers parts.lists) run.growable := by
  rw [growable_eq]
  refine keepsCount_fillPhase (fun range _ => run.furnished_growing range) fun outputs _ hcounted => ?_
  exact KeepsCount.mapM fun list hlist => keepsCount_growableList (hcounted list (List.mem_range.mp hlist))

/-- The phase that fills reserved regions keeps count. -/
theorem keepsCount_exactPhase (run : LoadRun) :
    run.snapshot.KeepsCount (fun parts => run.Covers parts.lists) run.exactPhase := by
  refine keepsCount_fillPhase (fun range => furnished_regions) fun outputs houtputs hcounted => ?_
  rw [zipIdx_offsets, List.mapM_map]
  refine KeepsCount.mapM fun list hlist => ?_
  have hlt := List.mem_range.mp hlist
  exact keepsCount_exactList (hcounted list hlt) (laid_of_gather houtputs hlt)

/-- **A run with reserved regions** keeps count. -/
theorem keepsCount_exact (run : LoadRun) :
    run.snapshot.KeepsCount (fun parts => run.Covers parts.lists) run.exact := by
  have hworks : ∀ work ∈ run.degreeWorks, ∀ error, work.FirstError error →
      run.snapshot.Excuses error := by
    intro work hwork error hfirst
    obtain ⟨⟨range, number⟩, _, rfl⟩ := List.mem_map.mp hwork
    exact excuses_of_degreeWork hfirst
  have hdegrees : run.snapshot.KeepsCount _ (gather run.degreeCrew.outcomes) :=
    keepsCount_gather hworks (run.schedule .degrees)
  refine hdegrees.bind fun bounds hbounds _ => ?_
  refine (KeepsCount.mapM fun list _ => keepsCount_reserve _).bind fun offsets hoffsets _ => ?_
  have hflag : run.degreeCrew.flag = false := flag_degreeCrew hbounds
  obtain rfl := bounds_of_gather hbounds
  obtain rfl := offsets_of_reservations hoffsets
  rw [hflag, exactFillCrew_eq]
  exact run.keepsCount_exactPhase

/-- **Partitions put together** keep count. -/
theorem keepsCount_assembled (run : LoadRun) :
    run.snapshot.KeepsCount (fun parts => run.Covers parts.lists) run.assembled := by
  unfold assembled
  split
  · intro list hlist
    obtain ⟨_, _, rfl⟩ := List.mem_map.mp hlist
    exact AdjacencyList.nodeCount_isolated _
  · split
    · exact run.keepsCount_exact
    · exact run.keepsCount_growable

/-! ## Graphs -/

theorem checkCover_of_covers {lists : List AdjacencyList} (h : run.Covers lists) (direction : Direction) :
    Graph.checkCover run.idMap (run.listFor lists direction) = .ok () := by
  cases hlist : run.listFor lists direction with
  | none => rfl
  | some list =>
    obtain ⟨⟨kind, _⟩, hfound, rfl⟩ := Option.map_eq_some_iff.mp hlist
    have hmem := (List.of_mem_zip (List.mem_of_find?_eq_some hfound)).2
    rw [Graph.checkCover, if_pos (h _ hmem)]

/-- **Lists that cover all nodes** make a graph. -/
theorem exists_graphOf {parts : Assembled} (h : run.Covers parts.lists) :
    ∃ graph, run.graphOf parts = .ok graph := by
  unfold graphOf
  split
  · have hfirst : Graph.checkCover run.idMap
        (some (parts.lists.headD (.isolated run.idMap.nodeCount))) = .ok () := by
      rw [Graph.checkCover, if_pos]
      cases hlists : parts.lists with
      | nil => rw [List.headD_nil, AdjacencyList.nodeCount_isolated]
      | cons list lists => exact h list (hlists ▸ List.mem_cons_self)
    unfold Graph.ofUndirected Graph.ofParts
    rw [hfirst]
    exact ⟨_, rfl⟩
  · unfold Graph.ofParts
    rw [checkCover_of_covers h, checkCover_of_covers h]
    exact ⟨_, rfl⟩

/-! ## Loads -/

/-- **A run** keeps count. -/
theorem keepsCount_load (run : LoadRun) : run.snapshot.KeepsCount (fun _ => True) run.load := by
  refine (keepsCount_validate run.config).bind fun _ _ _ => ?_
  refine run.keepsCount_assembled.bind fun parts _ hcovers => ?_
  obtain ⟨graph, hgraph⟩ := exists_graphOf hcovers
  rw [hgraph]
  trivial

end LoadRun

/-- **A load** keeps count. -/
theorem keepsCount_loadSnapshot (snapshot : Snapshot) (config : LoadConfig) (machine : Nat)
    (schedule : Phase → List Nat) (clock : Clock) :
    snapshot.KeepsCount (fun _ => True) (loadSnapshot snapshot config machine schedule clock) := by
  refine (keepsCount_validate config).bind fun _ _ _ => ?_
  refine (keepsCount_collectNodes snapshot config.nodeLabel _).bind fun idMap _ _ => ?_
  have hdeadline : snapshot.KeepsCount (fun _ => True)
      (Deadline.check { limit := config.timeout, elapsed := clock } .numbered) := by
    refine KeepsCount.of_error (fun error h => ?_) fun _ _ => trivial
    obtain ⟨limit, -, rfl⟩ := Deadline.timeout_of_check h
    exact Snapshot.excuses_of_eq_false rfl
  refine hdeadline.bind fun _ _ _ => ?_
  exact (LoadRun.keepsCount_load (runOver snapshot config machine idMap schedule clock)).bind
    fun _ _ _ => trivial

/-- **Loads keep count.**  The partitions of a run with reserved regions stay in them.  A run, or a load
of a whole snapshot, does not end with an error that says that it has lost count, unless the store has
answered with this error.  That a load runs out of time, at whatever look, makes no difference. -/
theorem loads_keep_count (run : LoadRun) :
    (∀ bounds offsets, gather run.degreeCrew.outcomes = .ok bounds →
      run.reservations bounds = .ok offsets → run.StaysInRegions bounds offsets) ∧
    (∀ error, run.load = .error error → error.isMiscount = true → run.snapshot.Causes error) ∧
    ∀ machine clock error,
      loadSnapshot run.snapshot run.config machine run.schedule clock = .error error →
      error.isMiscount = true → run.snapshot.Causes error := by
  refine ⟨fun bounds offsets hbounds hoffsets => LoadRun.staysInRegions hbounds hoffsets,
    fun error h => ?_, fun machine clock error h => ?_⟩
  · have hkeeps := run.keepsCount_load
    rw [h] at hkeeps
    exact hkeeps
  · have hkeeps := keepsCount_loadSnapshot run.snapshot run.config machine run.schedule clock
    rw [h] at hkeeps
    exact hkeeps

/-- A store with the nodes of `unreadable` that reports three relationships for each of them.  There are
two, which lead to the same node. -/
def repeating : Snapshot where
  scanNodes := unreadable.scanNodes
  degree := fun _ _ _ => .ok 3
  relationships := fun _ _ _ => .ok [⟨⟨3⟩, 0⟩, ⟨⟨3⟩, 1⟩]
  property := fun _ _ => .ok none

/-- That store, if it says itself that a region has been overrun. -/
def overrun : Snapshot :=
  { repeating with openCursor := fun _ => .error (.sourceInconsistent .regionOverrun) }

/-- Three partitions stay in their regions, each with room for three targets and one to write.  An error
of the store is handed on. -/
theorem loads_keep_count_repeating :
    (runOver repeating { concurrency := some 3 } 1 unreadableNodes).StaysInRegions
      [#[[3]], #[[3]], #[[3]]] [#[0, 3, 6, 9]] ∧
    ((runOver overrun { concurrency := some 3 } 1 unreadableNodes).load
        = .error (.partitionFailed 0 (.sourceInconsistent .regionOverrun)) ∧
      overrun.Causes (.partitionFailed 0 (.sourceInconsistent .regionOverrun))) ∧
    loadSnapshot overrun { concurrency := some 3 } 1 (fun _ => [])
        = .error (.sourceInconsistent .regionOverrun) ∧
      overrun.Causes (.sourceInconsistent .regionOverrun) := by
  obtain ⟨hstays, _, _⟩ := loads_keep_count
    (runOver repeating { concurrency := some 3 } 1 unreadableNodes)
  obtain ⟨_, hload, hloadSnapshot⟩ := loads_keep_count
    (runOver overrun { concurrency := some 3 } 1 unreadableNodes)
  have hpartition : (runOver overrun { concurrency := some 3 } 1 unreadableNodes).load
      = .error (.partitionFailed 0 (.sourceInconsistent .regionOverrun)) :=
    LoadRun.load_of_phaseFails rfl (.degrees rfl rfl)
  have hbounds : ([#[[3]], #[[3]], #[[3]]] : List (Array NodeBounds)).flatMap
      (fun part => (LoadRun.boundsIn part 0).toList) = [3, 3, 3] := by
    simp [LoadRun.boundsIn]
  have hoffsets : (runOver repeating { concurrency := some 3 } 1 unreadableNodes).reservations
      [#[[3]], #[[3]], #[[3]]] = .ok [#[0, 3, 6, 9]] := by
    refine mapM_eq_ok_iff.mpr (congrArg (fun own => [own]) ?_)
    show reserve (List.flatMap _ _) = _
    rw [hbounds]
    rfl
  exact ⟨hstays _ _ rfl hoffsets, ⟨hpartition, hload _ hpartition rfl⟩, rfl, hloadSnapshot 1 .swift _ rfl rfl⟩

end CompactGraph
