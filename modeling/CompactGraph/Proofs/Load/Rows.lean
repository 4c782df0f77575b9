/-
# The rows of a run

What a node comes to in all lists, its row, depends on the snapshot, the configuration and the id map,
and not on the partition that reads the node (`LoadRun.nodeRow`).  A partition reads the rows of its
nodes, whether its lists grow or their room was reserved, and with exact sizing the degrees that are
reported in the first phase are those that bound the rows in the second.
-/
import CompactGraph.Proofs.Load.Fill
import CompactGraph.Proofs.Load.Nodes
import CompactGraph.Proofs.Load.Partition
import CompactGraph.Proofs.Scan.Keys

namespace CompactGraph

namespace LoadRun

/-! ## The row of a node -/

/-- The scans that build the lists. -/
def scans (run : LoadRun) : List ListScan := run.kinds.map run.scanOf

/-- The relationships that a scan reads of a node.  More of them than a bound are refused. -/
def boundedRelationships (run : LoadRun) (kind : ScanKind) (bound? : Option Nat) (id : ExternalId) :
    Except LoadError (List RelationshipRef) := do
  let found ← run.snapshot.relationships id kind.direction run.config.relationshipType
  match bound? with
  | some bound =>
    if found.length > bound then
      throw (.sourceInconsistent (.degreeExceeded id found.length kind.direction bound))
    else return found
  | none => return found

/-- What a node comes to in one list. -/
def readingWithin (run : LoadRun) (kind : ScanKind) (bound? : Option Nat) (node : Nat)
    (id : ExternalId) : Except LoadError NodeReading := do
  let found ← run.boundedRelationships kind bound? id
  (run.scanOf kind).reading run.snapshot.property (NodeId.ofIndex node) found

/-- The degrees that are reported for a node, one for each list. -/
def degreesOf (run : LoadRun) (id : ExternalId) : Except LoadError NodeBounds :=
  run.kinds.mapM fun kind => run.snapshot.degree id kind.direction run.config.relationshipType

/-- The degrees that bound the relationships of a node, if they are counted. -/
def boundsOf? (run : LoadRun) (id : ExternalId) : Except LoadError (Option NodeBounds) :=
  match run.sizing with
  | .exact => some <$> run.degreesOf id
  | .growable => .ok none

/-- **The row of a node**: what it comes to in each list. -/
def nodeRow (run : LoadRun) (node : Nat) : Except LoadError (List NodeReading) := do
  let id ← run.externalId node
  let bounds? ← run.boundsOf? id
  run.kinds.zipIdx.mapM fun (kind, list) =>
    run.readingWithin kind (bounds?.map fun bounds => bounds[list]?.getD 0) node id

/-- The row of a node that has one. -/
def row (run : LoadRun) (node : Nat) : List NodeReading := resultOf (run.nodeRow node)

/-- What a node comes to in a list. -/
def entry (run : LoadRun) (node list : Nat) : NodeReading := (run.row node).getD list default

/-- The weights that a node writes. -/
def writesOf (run : LoadRun) (node : Nat) : List (PairKey × Float) :=
  rowWrites run.scans node (run.row node)

/-! ## Rows under any plan -/

theorem readingAt_eq (run : LoadRun) (kind : ScanKind) (region : Option Region) (position node : Nat)
    (id : ExternalId) :
    run.readingAt ⟨run.scanOf kind, region⟩ position node id
      = run.readingWithin kind (region.bind fun region => region.bounds[position]?) node id := rfl

/-- The plans of a partition whose lists grow. -/
def growingPlans (run : LoadRun) : List ListPlan := run.kinds.map fun kind => ⟨run.scanOf kind, none⟩

/-- A node read into growing lists comes to its row. -/
theorem rowAt_growing {run : LoadRun} (hlimit : run.deadline.limit = none)
    (hsizing : run.sizing = .growable) (position node : Nat) :
    run.rowAt run.growingPlans position node = run.nodeRow node := by
  unfold rowAt
  rw [nodeRow, Deadline.checkAt_of_no_limit hlimit]
  show run.externalId node >>= _ = _
  congr 1
  funext id
  have hbounds : run.boundsOf? id = .ok none := by rw [boundsOf?, hsizing]
  rw [hbounds, growingPlans, List.mapM_map]
  exact (mapM_zipIdx (fun kind => run.readingWithin kind none node id) run.kinds 0).symm

/-- What stands beside the elements of a list does not change their positions. -/
theorem zipIdx_zip {α β : Type} {items : List α} {others : List β} (h : others.length = items.length) :
    (items.zip others).zipIdx.map (fun both => (both.1.1, both.2)) = items.zipIdx := by
  conv_rhs => rw [← List.map_fst_zip (Nat.le_of_eq h.symm), List.zipIdx_map]
  rfl

/-- A node read into reserved regions comes to its row, if the reported degrees bound them. -/
theorem rowAt_exact {run : LoadRun} (hlimit : run.deadline.limit = none)
    (hsizing : run.sizing = .exact) {offsets : List (Array Nat)} {range : NodeRange}
    {bounds : Array NodeBounds} {position node : Nat} {degrees : NodeBounds}
    (hoffsets : offsets.length = run.kinds.length) (hposition : bounds[position]? = some degrees)
    (hdegrees : run.externalId node >>= run.degreesOf = .ok degrees) :
    run.rowAt (run.exactPlans offsets range bounds) position node = run.nodeRow node := by
  obtain ⟨id, hid, hown⟩ := bind_eq_ok_iff.mp hdegrees
  have hbounds : run.boundsOf? id = .ok (some degrees) := by
    unfold boundsOf?
    rw [hsizing]
    show some <$> run.degreesOf id = _
    rw [hown]
    rfl
  have hleft : run.rowAt (run.exactPlans offsets range bounds) position node
      = (run.exactPlans offsets range bounds).mapM fun plan => run.readingAt plan position node id := by
    unfold rowAt
    rw [Deadline.checkAt_of_no_limit hlimit, hid]
    rfl
  have hright : run.nodeRow node = run.kinds.zipIdx.mapM fun (kind, list) =>
      run.readingWithin kind (some (degrees[list]?.getD 0)) node id := by
    unfold nodeRow
    rw [hid]
    show run.boundsOf? id >>= _ = _
    rw [hbounds]
    rfl
  rw [hleft, hright, ← zipIdx_zip hoffsets, exactPlans, List.mapM_map, List.mapM_map]
  apply mapM_congr
  rintro ⟨⟨kind, own⟩, list⟩ _
  show run.readingAt ⟨run.scanOf kind, _⟩ position node id = _
  rw [readingAt_eq]
  congr 1
  show (boundsIn bounds list)[position]? = _
  unfold boundsIn
  rw [Array.getElem?_map, hposition]
  rfl

/-! ## What a row consists of -/

section Row

variable {run : LoadRun} {node : Nat} {row : List NodeReading}

theorem row_eq_of_ok (h : run.nodeRow node = .ok row) : run.row node = row := resultOf_ok h

theorem length_of_nodeRow (h : run.nodeRow node = .ok row) : row.length = run.kinds.length := by
  obtain ⟨_, _, hrest⟩ := bind_eq_ok_iff.mp h
  obtain ⟨_, _, hrow⟩ := bind_eq_ok_iff.mp hrest
  have hlength := congrArg List.length (mapM_eq_ok_iff.mp hrow)
  rw [List.length_map, List.length_zipIdx, List.length_map] at hlength
  exact hlength.symm

/-- **Each entry of a row** is the reading of the relationships that the store delivers. -/
theorem getElem?_of_nodeRow (h : run.nodeRow node = .ok row) {list : Nat} {kind : ScanKind}
    (hkind : run.kinds[list]? = some kind) :
    ∃ id found reading, run.externalId node = .ok id ∧
      run.snapshot.relationships id kind.direction run.config.relationshipType = .ok found ∧
      (run.scanOf kind).reading run.snapshot.property (NodeId.ofIndex node) found = .ok reading ∧
      row[list]? = some reading ∧
      ∀ bounds, run.boundsOf? id = .ok (some bounds) → found.length ≤ bounds[list]?.getD 0 := by
  obtain ⟨id, hid, hrest⟩ := bind_eq_ok_iff.mp h
  obtain ⟨bounds?, hbounds, hrow⟩ := bind_eq_ok_iff.mp hrest
  have hget := congrArg (fun results => results[list]?) (mapM_eq_ok_iff.mp hrow)
  simp only [List.getElem?_map, List.getElem?_zipIdx, hkind, Option.map_some, Nat.zero_add] at hget
  obtain ⟨reading, hreading, heq⟩ := Option.map_eq_some_iff.mp hget.symm
  obtain ⟨found, hfound, hown⟩ := bind_eq_ok_iff.mp heq.symm
  obtain ⟨all, hall, hbound⟩ := bind_eq_ok_iff.mp hfound
  -- what exceeds its bound is refused, so what is there is all
  have hsame : all = found ∧ ∀ bounds, bounds? = some bounds →
      found.length ≤ bounds[list]?.getD 0 := by
    cases bounds? with
    | none =>
      cases hbound
      exact ⟨rfl, fun bounds hsome => by cases hsome⟩
    | some own =>
      simp only [Option.map_some] at hbound
      split at hbound
      · cases hbound
      · next hshort =>
        cases hbound
        refine ⟨rfl, fun bounds hsome => ?_⟩
        cases hsome
        omega
  refine ⟨id, found, reading, hid, hsame.1 ▸ hall, hown, hreading, fun bounds hsome => ?_⟩
  rw [hbounds] at hsome
  exact hsame.2 bounds (Except.ok.inj hsome)

/-- The entry of a node that has a row. -/
theorem entry_spec (h : run.nodeRow node = .ok (run.row node)) {list : Nat} {kind : ScanKind}
    (hkind : run.kinds[list]? = some kind) :
    ∃ id found, run.externalId node = .ok id ∧
      run.snapshot.relationships id kind.direction run.config.relationshipType = .ok found ∧
      (run.scanOf kind).reading run.snapshot.property (NodeId.ofIndex node) found
        = .ok (run.entry node list) ∧
      ∀ bounds, run.boundsOf? id = .ok (some bounds) → found.length ≤ bounds[list]?.getD 0 := by
  obtain ⟨id, found, reading, hid, hfound, hreading, hget, hbounds⟩ := getElem?_of_nodeRow h hkind
  have hentry : run.entry node list = reading := by
    unfold entry
    rw [List.getD_eq_getElem?_getD, hget, Option.getD_some]
  exact ⟨id, found, hid, hfound, hentry ▸ hreading, hbounds⟩

end Row

/-! ## Asking for degrees -/

/-- The degrees that are reported for a node. -/
def nodeBounds (run : LoadRun) (node : Nat) : Except LoadError NodeBounds :=
  run.externalId node >>= run.degreesOf

/-- The step that notes the degrees of a node. -/
def noteDegrees (degrees : Except LoadError NodeBounds) :
    EStateM LoadError (Array NodeBounds) Unit := do
  let bounds ← asStep degrees
  modify fun found => found.push bounds

/-- The steps of a partition that asks for the degrees of nodes after so many others. -/
def degreeSteps (run : LoadRun) (nodes : List Nat) (first : Nat) :
    List (EStateM LoadError (Array NodeBounds) Unit) :=
  (nodes.zipIdx first).map fun (node, position) => noteDegrees (run.boundsOf position node)

theorem finish_degreeSteps {run : LoadRun} (hlimit : run.deadline.limit = none) (nodes : List Nat) :
    ∀ (found : Array NodeBounds) (first : Nat),
      PartitionWork.finish found (run.degreeSteps nodes first)
        = (fun bounds => found ++ bounds.toArray) <$> nodes.mapM run.nodeBounds := by
  induction nodes with
  | nil =>
    intro found first
    show Except.ok found = Except.ok (found ++ #[])
    rw [Array.append_empty]
  | cons node nodes ih =>
    intro found first
    have hbounds : run.boundsOf first node = run.nodeBounds node := by
      unfold boundsOf
      rw [Deadline.checkAt_of_no_limit hlimit]
      rfl
    have hsteps : run.degreeSteps (node :: nodes) first
        = noteDegrees (run.nodeBounds node) :: run.degreeSteps nodes (first + 1) := by
      rw [degreeSteps, List.zipIdx_cons, List.map_cons, ← hbounds]
      rfl
    rw [hsteps, List.mapM_cons]
    cases run.nodeBounds node with
    | error error =>
      have hstep : noteDegrees (.error error) found = .error error found := rfl
      rw [finish_cons_of_error hstep]
      rfl
    | ok bounds =>
      have hstep : noteDegrees (.ok bounds) found = .ok () (found.push bounds) := rfl
      rw [finish_cons_of_ok hstep, ih]
      cases nodes.mapM run.nodeBounds with
      | error error => rfl
      | ok rest => simp [bind, Except.bind, pure, Except.pure, Functor.map, Except.map]

/-- A partition alone asks for the degrees of its nodes. -/
theorem solo_degreeWork {run : LoadRun} {cursor : Nat} (hopen : run.snapshot.openCursor cursor = .ok ())
    (hlimit : run.deadline.limit = none) (range : NodeRange) :
    (run.degreeWork cursor range).solo = List.toArray <$> range.toList.mapM run.nodeBounds := by
  have hsolo : (run.degreeWork cursor range).solo
      = PartitionWork.finish #[] (run.degreeSteps range.toList 0) := by
    unfold PartitionWork.solo
    rw [degreeWork, hopen]
    rfl
  rw [hsolo, finish_degreeSteps hlimit]
  simp

/-- The nodes of a run, in the order in which partitions read them. -/
theorem flatMap_ranges (run : LoadRun) :
    run.ranges.flatMap NodeRange.toList = List.range run.idMap.nodeCount :=
  flatMap_partition ..

/-- A statement about the nodes of all partitions is one about all nodes. -/
theorem forall_ranges {run : LoadRun} {property : Nat → Prop} :
    (∀ range ∈ run.ranges, ∀ node ∈ range.toList, property node) ↔
      ∀ node, node < run.idMap.nodeCount → property node := by
  have hmem : ∀ node, node < run.idMap.nodeCount ↔ ∃ range ∈ run.ranges, node ∈ range.toList := by
    intro node
    rw [← List.mem_range, ← flatMap_ranges, List.mem_flatMap]
  constructor
  · intro h node hnode
    obtain ⟨range, hrange, hown⟩ := (hmem node).mp hnode
    exact h range hrange node hown
  · intro h range hrange node hown
    exact h node ((hmem node).mpr ⟨range, hrange, hown⟩)

/-- The reported degrees of a node that has them. -/
def degreesAt (run : LoadRun) (node : Nat) : NodeBounds := resultOf (run.nodeBounds node)

/-- The reported degrees of the nodes of a partition. -/
def rangeBounds (run : LoadRun) (range : NodeRange) : Array NodeBounds :=
  (range.toList.map run.degreesAt).toArray

/-- **The phase that asks for degrees** succeeds if all degrees are reported. -/
theorem gather_degreeCrew_eq_ok_iff {run : LoadRun}
    (hopen : ∀ cursor, run.snapshot.openCursor cursor = .ok ())
    (hlimit : run.deadline.limit = none) {bounds : List (Array NodeBounds)} :
    gather run.degreeCrew.outcomes = .ok bounds ↔
      (∀ node, node < run.idMap.nodeCount → run.nodeBounds node = .ok (run.degreesAt node)) ∧
        bounds = run.ranges.map run.rangeBounds := by
  -- each partition alone asks for the degrees of its own nodes
  have hsolo : (run.ranges.zipIdx.map fun both =>
      run.degreeWork (run.firstCursor + both.2) both.1).map PartitionWork.solo
      = run.ranges.map fun range => List.toArray <$> range.toList.mapM run.nodeBounds := by
    rw [List.map_map]
    conv_rhs => rw [← List.zipIdx_map_fst 0 run.ranges, List.map_map]
    apply List.map_congr_left
    rintro ⟨range, number⟩ _
    exact solo_degreeWork (hopen _) hlimit range
  unfold degreeCrew
  rw [gather_run_eq_ok_iff, hsolo, ← mapM_eq_ok_iff, ← forall_ranges]
  apply mapM_eq_ok_iff_forall
  intro range own
  constructor
  · intro h
    cases hrange : range.toList.mapM run.nodeBounds with
    | error error =>
      rw [hrange] at h
      cases h
    | ok rows =>
      rw [hrange] at h
      cases h
      obtain ⟨hall, rfl⟩ := mapM_eq_ok_iff_resultOf.mp hrange
      exact ⟨hall, rfl⟩
  · rintro ⟨hall, rfl⟩
    rw [mapM_eq_ok_iff_resultOf.mpr ⟨hall, rfl⟩]
    rfl

end LoadRun

end CompactGraph
