/-
# The two sizings

With exact sizing a run asks for degrees first and refuses a node of which the store delivers more
relationships than it has reported.  In every other respect it reads nodes as a run with growing lists does
(`AgreesUnless`), however much the store has reported.  So the two come to the same as long as nothing is
refused, and if something is, the run with exact sizing fails and says that the store is inconsistent, unless
both runs fail for another reason.
-/
import CompactGraph.Proofs.Load.Degrees
import CompactGraph.Proofs.Load.Failures
import CompactGraph.Proofs.Load.Independence

namespace CompactGraph

open ListScan (store)

/-- The error of a store that contradicts itself. -/
def LoadError.IsInconsistency (error : LoadError) : Prop := ∃ finding, error = .sourceInconsistent finding

/-! ## Plans without regions -/

/-- The same plan for a list that grows. -/
def ListPlan.unbounded (plan : ListPlan) : ListPlan := { plan with region := none }

namespace LoadRun

variable {run : LoadRun}

/-- A bound only refuses what exceeds it. -/
theorem relationshipsOf_unbounded (plan : ListPlan) (position : Nat) (id : ExternalId) :
    AgreesUnless LoadError.IsInconsistency (run.relationshipsOf plan position id)
      (run.relationshipsOf plan.unbounded position id) := by
  unfold relationshipsOf
  refine (AgreesUnless.refl _ _).bind fun found _ => ?_
  cases plan.bound? position with
  | none => exact AgreesUnless.refl _ _
  | some bound =>
    by_cases hlong : found.length > bound
    · simp only [hlong, if_true]
      exact AgreesUnless.of_answer (Or.inr ⟨_, rfl⟩) fun error herror =>
        ⟨_, (Except.error.inj herror).symm⟩
    · simp only [hlong, if_false]
      exact AgreesUnless.refl _ _

theorem readingInto_unbounded (plan : ListPlan) (position node : Nat) (id : ExternalId)
    (weights : Option WeightTable) :
    AgreesUnless LoadError.IsInconsistency (run.readingInto plan position node id weights)
      (run.readingInto plan.unbounded position node id weights) := by
  unfold readingInto readingAt
  exact ((relationshipsOf_unbounded plan position id).bind fun _ _ => AgreesUnless.refl _ _).bind
    fun _ _ => AgreesUnless.refl _ _

theorem rowInto_unbounded (position node : Nat) (id : ExternalId) (plans : List ListPlan) :
    ∀ weights, AgreesUnless LoadError.IsInconsistency (run.rowInto position node id plans weights)
      (run.rowInto position node id (plans.map ListPlan.unbounded) weights) := by
  induction plans with
  | nil => exact fun _ => AgreesUnless.refl _ _
  | cons plan plans ih =>
    intro weights
    rw [List.map_cons, rowInto, rowInto]
    exact (readingInto_unbounded plan position node id weights).bind fun first _ =>
      (ih first.2).bind fun _ _ => AgreesUnless.refl _ _

/-- **Reading nodes into reserved regions** comes to what reading them into growing lists does, unless the
store is inconsistent. -/
theorem nodesInto_unbounded (run : LoadRun) (plans : List ListPlan) (nodes : List Nat) :
    ∀ rows weights, AgreesUnless LoadError.IsInconsistency (run.nodesInto plans nodes rows weights)
      (run.nodesInto (plans.map ListPlan.unbounded) nodes rows weights) := by
  induction nodes with
  | nil => exact fun _ _ => AgreesUnless.refl _ _
  | cons node nodes ih =>
    intro rows weights
    rw [nodesInto, nodesInto]
    refine AgreesUnless.bind ?_ fun into _ => ih _ _
    unfold nodeInto
    exact (AgreesUnless.refl _ _).bind fun id _ => rowInto_unbounded rows.length node id plans weights

/-- Plans that serve the nodes of a partition are those of growing lists when their regions are dropped. -/
theorem Serves.map_unbounded {range : NodeRange} {plans : List ListPlan} (h : run.Serves range plans) :
    plans.map ListPlan.unbounded = run.growingPlans := by
  have hmap : plans.map ListPlan.unbounded
      = (plans.map ListPlan.scan).map fun scan => ⟨scan, none⟩ := by
    rw [List.map_map]
    rfl
  rw [hmap, h.scans, LoadRun.scans, List.map_map]
  rfl

/-! ## A run with either sizing -/

/-- The same run with another sizing. -/
def withSizing (run : LoadRun) (sizing : Sizing) : LoadRun :=
  { run with config := { run.config with sizing } }

theorem sizing_withSizing (hcounts : run.snapshot.countsDegrees = true) (sizing : Sizing) :
    (run.withSizing sizing).sizing = sizing := by
  unfold withSizing LoadRun.sizing
  simp only [hcounts, and_true]
  cases sizing <;> rfl

theorem rowInto_withSizing (sizing : Sizing) (position node : Nat) (id : ExternalId)
    (plans : List ListPlan) : ∀ weights, (run.withSizing sizing).rowInto position node id plans weights
      = run.rowInto position node id plans weights := by
  induction plans with
  | nil => exact fun _ => rfl
  | cons plan plans ih =>
    intro weights
    rw [rowInto, rowInto]
    simp only [ih]
    rfl

/-- What nodes come to under given plans does not depend on the sizing. -/
theorem nodesInto_withSizing (sizing : Sizing) (plans : List ListPlan) (nodes : List Nat) :
    ∀ rows weights, (run.withSizing sizing).nodesInto plans nodes rows weights
      = run.nodesInto plans nodes rows weights := by
  induction nodes with
  | nil => exact fun _ _ => rfl
  | cons node nodes ih =>
    intro rows weights
    rw [nodesInto, nodesInto]
    simp only [ih, nodeInto, rowInto_withSizing]
    rfl

/-- A bound that is not exceeded makes no difference. -/
theorem readingWithin_some {kind : ScanKind} {bound : Nat} {id : ExternalId}
    (h : ∀ found, run.snapshot.relationships id kind.direction run.config.relationshipType = .ok found →
      found.length ≤ bound) (node : Nat) :
    run.readingWithin kind (some bound) node id = run.readingWithin kind none node id := by
  have hbounded : run.boundedRelationships kind (some bound) id
      = run.boundedRelationships kind none id := by
    unfold boundedRelationships
    cases hfound : run.snapshot.relationships id kind.direction run.config.relationshipType with
    | error error => rfl
    | ok found => exact if_neg (Nat.not_lt.mpr (h found hfound))
  rw [readingWithin, readingWithin, hbounded]

/-- What a row is read from. -/
theorem nodeRow_eq (run : LoadRun) {node : Nat} {own : ExternalId} {bounds? : Option NodeBounds}
    (hown : run.externalId node = .ok own) (hbounds : run.boundsOf? own = .ok bounds?) :
    run.nodeRow node = run.kinds.zipIdx.mapM fun both =>
      run.readingWithin both.1 (bounds?.map fun bounds => bounds[both.2]?.getD 0) node own := by
  simp only [nodeRow, hown, hbounds, bind, Except.bind]

section Reported

variable (hcounts : run.snapshot.countsDegrees = true) {degrees : Direction → ExternalId → Nat}
  (hreported : ∀ node own, run.externalId node = .ok own → run.Reported degrees own)

include hcounts

/-- A row that is read into growing lists. -/
theorem nodeRow_growable {node : Nat} {own : ExternalId} (hown : run.externalId node = .ok own) :
    (run.withSizing .growable).nodeRow node
      = run.kinds.zipIdx.mapM fun both => run.readingWithin both.1 none node own := by
  have hbounds : (run.withSizing .growable).boundsOf? own = .ok none := by
    unfold boundsOf?
    rw [sizing_withSizing hcounts]
  exact nodeRow_eq (run.withSizing .growable) hown hbounds

include hreported

/-- A row that is read into reserved regions. -/
theorem nodeRow_exact {node : Nat} {own : ExternalId} (hown : run.externalId node = .ok own) :
    (run.withSizing .exact).nodeRow node
      = run.kinds.zipIdx.mapM fun both =>
        run.readingWithin both.1 (some (degrees both.1.direction own)) node own := by
  have hbounds : (run.withSizing .exact).boundsOf? own
      = .ok (some (run.kinds.map fun kind => degrees kind.direction own)) := by
    unfold boundsOf?
    rw [sizing_withSizing hcounts]
    show some <$> run.degreesOf own = _
    rw [(hreported node own hown).degreesOf]
    rfl
  refine (nodeRow_eq (run.withSizing .exact) hown hbounds).trans ?_
  apply mapM_congr
  rintro ⟨kind, list⟩ hmem
  have hkind : run.kinds[list]? = some kind := List.mem_zipIdx_iff_getElem?.mp hmem
  simp only [Option.map_some, List.getElem?_map, hkind, Option.getD_some]
  rfl

/-- **The rows of a run are the same with either sizing** if no degree is exceeded. -/
theorem row_withSizing (hwithin : ∀ node own, run.externalId node = .ok own → ∀ kind ∈ run.kinds,
      ∀ found, run.snapshot.relationships own kind.direction run.config.relationshipType = .ok found →
        found.length ≤ degrees kind.direction own) :
    (run.withSizing .exact).nodeRow = (run.withSizing .growable).nodeRow := by
  funext node
  cases hown : run.externalId node with
  | error error =>
    have hfails : ∀ sizing, (run.withSizing sizing).nodeRow node = .error error := by
      intro sizing
      unfold nodeRow
      rw [show (run.withSizing sizing).externalId node = .error error from hown]
      rfl
    rw [hfails, hfails]
  | ok own =>
    rw [nodeRow_exact hcounts hreported hown, nodeRow_growable hcounts hown]
    apply mapM_congr
    rintro ⟨kind, list⟩ hmem
    have hkind : kind ∈ run.kinds :=
      List.mem_of_getElem? (List.mem_zipIdx_iff_getElem?.mp hmem)
    exact readingWithin_some (hwithin node own hown kind hkind) node

variable (hcount : run.idMap.nodeCount ≤ maxNodeCount)
  (hroom : ∀ kind ∈ run.kinds,
    total (run.idMap.externals.toList.map (degrees kind.direction)) ≤ maxTargets)

include hcount hroom

/-- **Either sizing can succeed if the other can**, if no degree is exceeded. -/
theorem complete_withSizing_iff
    (hrow : (run.withSizing .exact).nodeRow = (run.withSizing .growable).nodeRow) :
    (run.withSizing .exact).Complete ↔ (run.withSizing .growable).Complete := by
  have hsame : (run.withSizing .exact).row = (run.withSizing .growable).row := by
    unfold row
    rw [hrow]
  have hwrites : (run.withSizing .exact).allWrites = (run.withSizing .growable).allWrites := by
    unfold allWrites writesOf
    rw [hsame]
    rfl
  have hmeet : (run.withSizing .exact).Unrepeated ↔ (run.withSizing .growable).Unrepeated := by
    unfold Unrepeated
    rw [hwrites]
    rfl
  have hgrowable : (run.withSizing .growable).sizing ≠ .exact := by
    rw [sizing_withSizing hcounts]
    decide
  constructor
  · intro h
    refine ⟨?_, fun h => absurd h hgrowable, fun h => absurd h hgrowable, hmeet.mp h.unrepeated⟩
    rw [← hrow, ← hsame]
    exact h.rows
  · intro h
    refine ⟨?_, fun _ => @nodeBounds_of_reported (run.withSizing .exact) _ hcount hreported,
      fun _ => @reserved_of_reported (run.withSizing .exact) _ hcount hreported hroom,
      hmeet.mpr h.unrepeated⟩
    rw [hrow, hsame]
    exact h.rows

end Reported

/-- What a run builds depends on its rows only. -/
theorem holds_withSizing
    (hrow : (run.withSizing .exact).nodeRow = (run.withSizing .growable).nodeRow) :
    (run.withSizing .exact).graphWith = (run.withSizing .growable).graphWith ∧
      ∀ parts, (run.withSizing .exact).Holds parts → (run.withSizing .growable).Holds parts := by
  have hsame : (run.withSizing .exact).row = (run.withSizing .growable).row := by
    unfold row
    rw [hrow]
  have hentry : (run.withSizing .exact).entry = (run.withSizing .growable).entry := by
    unfold entry
    rw [hsame]
  have hlists : (run.withSizing .exact).listOf = (run.withSizing .growable).listOf := by
    unfold listOf targetRows
    rw [hentry]
    rfl
  constructor
  · unfold graphWith listToward
    rw [hlists]
    rfl
  · intro parts h
    have hpairs : (run.withSizing .exact).pairWeights = (run.withSizing .growable).pairWeights := by
      unfold pairWeights foldedFor
      rw [hentry]
      rfl
    refine ⟨?_, ?_, ?_⟩
    · rw [← hlists]
      exact h.lists
    · have hanswers := h.answers
      cases hweights : parts.weights with
      | none =>
        rw [hweights] at hanswers
        exact hanswers
      | some table =>
        rw [hweights] at hanswers
        obtain ⟨hweighted, hsound, hrules, hfind⟩ := hanswers
        refine ⟨hweighted, hsound, hrules, fun source target => ?_⟩
        rw [hfind, hpairs]
        rfl
    · rw [← hsame]
      exact h.counts

/-! ## Nodes with more relationships than were reported -/

/-- The store delivers more relationships of a node than it has reported. -/
def Exceeded (run : LoadRun) (degrees : Direction → ExternalId → Nat) : Prop :=
  ∃ node own kind found, node < run.idMap.nodeCount ∧ run.externalId node = .ok own ∧
    kind ∈ run.kinds ∧
    run.snapshot.relationships own kind.direction run.config.relationshipType = .ok found ∧
    degrees kind.direction own < found.length

/-- All nodes can be read into growing lists. -/
def Grows (run : LoadRun) : Prop := ∀ range ∈ run.ranges, ∀ capacity, ∃ into,
  run.nodesInto run.growingPlans range.toList [] (run.blankWeights capacity run.sharesPairs) = .ok into

theorem grows_of_complete (hcounts : run.snapshot.countsDegrees = true)
    (hlimit : run.deadline.limit = none) (hcount : run.idMap.nodeCount ≤ maxNodeCount)
    (h : (run.withSizing .growable).Complete) : (run.withSizing .exact).Grows := by
  intro range hrange capacity
  have hserves := @serves_growing (run.withSizing .growable) hlimit
    (sizing_withSizing hcounts .growable) range
  obtain ⟨weights, hweights⟩ := @exists_store_of_mem_ranges (run.withSizing .growable) hcount
    h.unrepeated _ hrange capacity
  have hinto := exists_nodesInto hserves (forall_ranges.mpr h.rows range hrange) hweights
  rw [nodesInto_withSizing] at hinto
  rw [nodesInto_withSizing]
  exact hinto

section Exceeded

variable (hsizing : run.sizing = .exact) {degrees : Direction → ExternalId → Nat}
  (hreported : ∀ node own, run.externalId node = .ok own → run.Reported degrees own)

include hsizing hreported

/-- A node with more relationships than were reported has no row in reserved regions. -/
theorem no_rows_of_exceeded (h : run.Exceeded degrees) :
    ¬ ∀ node, node < run.idMap.nodeCount → run.nodeRow node = .ok (run.row node) := by
  obtain ⟨node, own, kind, found, hnode, hown, hkind, hfound, hmany⟩ := h
  intro hrows
  obtain ⟨list, hlist⟩ := List.mem_iff_getElem?.mp hkind
  obtain ⟨id, found', hid, hfound', _, hbound⟩ := entry_spec (hrows node hnode) hlist
  obtain rfl : own = id := Except.ok.inj (hown.symm.trans hid)
  obtain rfl : found = found' := Except.ok.inj (hfound.symm.trans hfound')
  have hbounds : run.boundsOf? own
      = .ok (some (run.kinds.map fun kind => degrees kind.direction own)) := by
    unfold boundsOf?
    rw [hsizing, (hreported node own hown).degreesOf]
    rfl
  have hle := hbound _ hbounds
  rw [List.getElem?_map, hlist] at hle
  exact absurd hmany (Nat.not_lt.mpr hle)

variable (hopen : ∀ cursor, run.snapshot.openCursor cursor = .ok ())
  (hlimit : run.deadline.limit = none) (hcount : run.idMap.nodeCount ≤ maxNodeCount)

include hopen hlimit hcount

/-- Where lists can grow, a partition that fills regions fails only because the store is inconsistent. -/
theorem inconsistent_of_solo (h : run.Grows) {range : NodeRange} (hrange : range ∈ run.ranges)
    {cursor capacity : Nat} {error : LoadError}
    (hsolo : (run.fillWork cursor range (run.regionPlans range) capacity).solo = .error error) :
    ∃ finding, error = .sourceInconsistent finding := by
  have hserves : run.Serves range (run.regionPlans range) :=
    serves_regions hlimit hsizing (nodeBounds_of_reported hcount hreported) hrange
  obtain ⟨into, hinto⟩ := h range hrange capacity
  have hagrees := nodesInto_unbounded run (run.regionPlans range) range.toList []
    (run.blankWeights capacity run.sharesPairs)
  rw [hserves.map_unbounded] at hagrees
  obtain ⟨hfail, hok⟩ := solo_fillWork capacity (hopen cursor) hserves.admits hserves.unread
  cases hown : run.nodesInto (run.regionPlans range) range.toList []
      (run.blankWeights capacity run.sharesPairs) with
  | ok own =>
    obtain ⟨output, houtput, _⟩ := hok own hown
    rw [houtput] at hsolo
    cases hsolo
  | error own =>
    rw [hfail own hown] at hsolo
    cases hsolo
    exact hagrees.error into error hinto hown

variable (hroom : ∀ kind ∈ run.kinds,
    total (run.idMap.externals.toList.map (degrees kind.direction)) ≤ maxTargets)

include hroom

/-- **A run that refuses a node** says that the store is inconsistent, if the lists could have grown. -/
theorem inconsistent_of_exceeded (hvalid : run.config.validate = .ok ()) (h : run.Grows)
    (hexceeded : run.Exceeded degrees) {error : LoadError} (hload : run.load = .error error) :
    ∃ finding, error.rootCause = .sourceInconsistent finding := by
  have hall := nodeBounds_of_reported hcount hreported
  have hbounds := (gather_degreeCrew_eq_ok_iff hopen hlimit).mpr ⟨hall, rfl⟩
  have hoffsets := reservations_eq_ok_iff.mpr ⟨fun list hlist =>
    reserved_of_reported hcount hreported hroom list (List.mem_range.mp hlist), rfl⟩
  -- a partition that fails on its own finds the store inconsistent
  have hown : ∀ work ∈ run.fillWorks run.regionPlans
      (fun range => run.weightCapacity (run.rangeBounds range))
      (run.firstCursor + run.ranges.length + ·),
      ∀ own, work.solo = .error own → ∃ finding, own = .sourceInconsistent finding := by
    intro work hwork own hsolo
    obtain ⟨⟨range, number⟩, hmem, rfl⟩ := List.mem_map.mp hwork
    have hrange : range ∈ run.ranges := List.mem_of_getElem? (List.mem_zipIdx_iff_getElem?.mp hmem)
    exact inconsistent_of_solo hsizing hreported hopen hlimit hcount h hrange hsolo
  cases hfill : gather (run.exactFillCrew false (run.ranges.map run.rangeBounds)
      run.offsets).outcomes with
  | ok outputs =>
    -- then all nodes would have been read
    rw [exactFillCrew_eq] at hfill
    have hserves : ∀ range ∈ run.ranges, run.Serves range (run.regionPlans range) :=
      fun range => serves_regions hlimit hsizing hall
    exact absurd (delivered_of_gather hopen hserves _ hfill).1
      (no_rows_of_exceeded hsizing hreported hexceeded)
  | error failure =>
    have hphase : run.PhaseFails failure := by
      refine .regions hsizing hbounds hoffsets ?_
      rw [flag_degreeCrew hbounds]
      exact hfill
    rw [load_of_phaseFails hvalid hphase] at hload
    cases hload
    rw [exactFillCrew_eq] at hfill
    have hreports := Crew.reports_run (run.schedule .fill) fun work hwork haborted => by
      obtain ⟨_, himpossible⟩ := hown work hwork _ haborted
      cases himpossible
    obtain ⟨number, cause, work, rfl, _, hwork, hcause⟩ := hreports.fails _ hfill
    obtain ⟨finding, rfl⟩ := hown work (List.mem_of_getElem? hwork) cause
      (PartitionWork.firstError_iff.mp hcause)
    exact ⟨finding, rfl⟩

end Exceeded

end LoadRun

/-! ## Loads -/

/-- The directions in which a load reads relationships, one for each list. -/
def LoadConfig.directions (config : LoadConfig) : List Direction :=
  (ScanKind.forLoad config.direction config.isWeighted config.undirected).map ScanKind.direction

/-- Ask a store for a degree, through a cursor that has to be opened first. -/
def Snapshot.askDegree (snapshot : Snapshot) (cursor : Nat) (id : ExternalId) (direction : Direction)
    (type : Option String) : Except LoadError Nat := do
  snapshot.openCursor cursor
  snapshot.degree id direction type

/-- A store that counts degrees reports these for the nodes of a load, whichever cursor is asked, and there
is room for as many targets in each list. -/
structure Snapshot.ReportsDegrees (snapshot : Snapshot) (config : LoadConfig)
    (degrees : Direction → ExternalId → Nat) : Prop where
  countsDegrees : snapshot.countsDegrees = true
  reported : ∀ cursor, ∀ direction ∈ config.directions, ∀ id ∈ loadedIds snapshot config,
    snapshot.askDegree cursor id direction config.relationshipType = .ok (degrees direction id)
  room : ∀ direction ∈ config.directions,
    total ((loadedIds snapshot config).map (degrees direction)) ≤ 2 ^ 61 - 1

/-- The lists of adjacent nodes of two graphs are the same. -/
def Graph.SameLists (first second : Graph) : Prop :=
  first.outgoing = second.outgoing ∧ first.incoming = second.incoming

section Loads

variable {snapshot : Snapshot} {config : LoadConfig} {degrees : Direction → ExternalId → Nat}

/-- A load that cannot open a cursor to look for nodes ends with the error of the cursor. -/
theorem loadSnapshot_of_no_cursor (hvalid : config.validate = .ok ()) {error : LoadError}
    (hopen : snapshot.openCursor 0 = .error error) (machine : Nat) (schedule : Phase → List Nat) :
    loadSnapshot snapshot config machine schedule = .error error := by
  unfold loadSnapshot collectNodes
  rw [hvalid, hopen]
  rfl

/-- A load without nodes opens one cursor. -/
theorem loadSnapshot_of_no_nodes (htimeout : config.timeout = none)
    (hopen : snapshot.openCursor 0 = .ok ()) (hnone : loadedIds snapshot config = []) (machine : Nat)
    (schedule : Phase → List Nat) : loadSnapshot snapshot config machine schedule
      = loadSnapshot { snapshot with openCursor := fun _ => .ok () } config machine schedule := by
  have hcollect : collectNodes { snapshot with openCursor := fun _ => .ok () } config.nodeLabel
      { limit := config.timeout }
      = collectNodes snapshot config.nodeLabel { limit := config.timeout } := by
    unfold collectNodes
    rw [hopen]
  unfold loadSnapshot
  simp only [hcollect]
  cases hmap : collectNodes snapshot config.nodeLabel { limit := config.timeout } with
  | error error => rfl
  | ok map =>
    -- no partition has anything to do
    have hids : map.externals.toList = [] := by
      rw [(sound_of_collectNodes htimeout hmap).2]
      exact hnone
    have hcount : map.nodeCount = 0 := by
      rw [← IdMap.length_externals, hids]
      rfl
    have hempty : ∀ store, (runOver store config machine map schedule).ranges = [] := by
      intro store
      exact partition_eq_nil_iff.mpr hcount
    have hload : (runOver snapshot config machine map schedule).load
        = (runOver { snapshot with openCursor := fun _ => .ok () } config machine map schedule).load := by
      unfold LoadRun.load LoadRun.assembled
      rw [hempty, hempty]
      rfl
    simp only [bind, Except.bind, hload]

/-- What a run over the nodes of a load reads in a direction is a list of the load. -/
theorem mem_loadedIds_of_externalId {map : IdMap} (hids : map.externals.toList = loadedIds snapshot config)
    {node : Nat} {own : ExternalId}
    (hown : (runOver snapshot config 1 map).externalId node = .ok own) :
    own ∈ loadedIds snapshot config := by
  rw [← hids, Array.mem_toList_iff]
  exact Array.mem_of_getElem? (LoadRun.toExternal_of_externalId hown)

theorem directions_eq (snapshot : Snapshot) (config : LoadConfig) (map : IdMap) :
    (runOver snapshot config 1 map).kinds.map ScanKind.direction = config.directions := rfl

/-- The degrees of all nodes of a run are reported. -/
theorem Snapshot.ReportsDegrees.reported_of_run (h : snapshot.ReportsDegrees config degrees) {map : IdMap}
    (hids : map.externals.toList = loadedIds snapshot config) :
    ∀ node own, (runOver snapshot config 1 map).externalId node = .ok own →
      (runOver snapshot config 1 map).Reported degrees own := by
  intro node own hown kind hkind
  have hdirection : kind.direction ∈ config.directions :=
    directions_eq snapshot config map ▸ List.mem_map_of_mem hkind
  exact (bind_eq_ok_iff.mp (h.reported 0 kind.direction hdirection own
    (mem_loadedIds_of_externalId hids hown))).choose_spec.2

theorem Snapshot.ReportsDegrees.room_of_run (h : snapshot.ReportsDegrees config degrees) {map : IdMap}
    (hids : map.externals.toList = loadedIds snapshot config) :
    ∀ kind ∈ (runOver snapshot config 1 map).kinds,
      total (map.externals.toList.map (degrees kind.direction)) ≤ maxTargets := by
  intro kind hkind
  rw [hids]
  exact h.room kind.direction (directions_eq snapshot config map ▸ List.mem_map_of_mem hkind)

section Opened

variable (htimeout : config.timeout = none) (hopen : ∀ cursor, snapshot.openCursor cursor = .ok ())
  {sizing : Sizing} {machine machine' : Nat} {schedule schedule' : Phase → List Nat}

include htimeout hopen

/-- What a load with a sizing ends with. -/
theorem graph_of_sized {loaded : Graph × LoadSummary}
    (h : loadSnapshot snapshot { config with sizing } machine schedule = .ok loaded) :
    ∃ map parts, collectNodes snapshot config.nodeLabel { limit := config.timeout } = .ok map ∧
      map.Sound ∧ map.externals.toList = loadedIds snapshot config ∧
      ((runOver snapshot config 1 map).withSizing sizing).Complete ∧
      ((runOver snapshot config 1 map).withSizing sizing).Holds parts ∧
      loaded.1 = ((runOver snapshot config 1 map).withSizing sizing).graphWith parts.weights ∧
      loaded.2.relationshipCount = loaded.1.relationshipCount ∧
      loaded.2.storedWeights = loaded.1.storedWeights ∧ loaded.2.counts = parts.counts := by
  obtain ⟨map, parts, hmap, hcomplete, hholds, hrest⟩ :=
    @graph_of_sharedBy _ { config with sizing } htimeout hopen config.concurrency config.minPartitionSize
      _ _ _ h
  obtain ⟨hsound, hids⟩ := sound_of_collectNodes htimeout hmap
  exact ⟨map, parts, hmap, hsound, hids, hcomplete, hholds, hrest⟩

/-- A load with a sizing succeeds if its run can. -/
theorem exists_sized (machine : Nat) (schedule : Phase → List Nat)
    (hvalid : config.validate = .ok ()) {map : IdMap}
    (hmap : collectNodes snapshot config.nodeLabel { limit := config.timeout } = .ok map)
    (h : ((runOver snapshot config 1 map).withSizing sizing).Complete) :
    ∃ loaded, loadSnapshot snapshot { config with sizing } machine schedule = .ok loaded :=
  @exists_loadSnapshot _ { config with sizing } _ _ hopen htimeout hvalid _ hmap
    ((LoadRun.complete_runOver_iff snapshot { config with sizing } machine map schedule).mpr h)

/-- A load with one sizing succeeds if one with another sizing does and its run can. -/
theorem exists_sized_of_sized {sizing' : Sizing} (hvalid : config.validate = .ok ())
    (hcomplete : ∀ map : IdMap, map.Sound → map.externals.toList = loadedIds snapshot config →
      ((runOver snapshot config 1 map).withSizing sizing).Complete →
      ((runOver snapshot config 1 map).withSizing sizing').Complete) {loaded : Graph × LoadSummary}
    (h : loadSnapshot snapshot { config with sizing } machine schedule = .ok loaded) (machine' : Nat)
    (schedule' : Phase → List Nat) :
    ∃ other, loadSnapshot snapshot { config with sizing := sizing' } machine' schedule' = .ok other := by
  obtain ⟨map, _, hmap, hsound, hids, hown, _⟩ := graph_of_sized htimeout hopen h
  exact exists_sized htimeout hopen machine' schedule' hvalid hmap (hcomplete map hsound hids hown)

variable (hvalid : config.validate = .ok ()) (hdegrees : snapshot.ReportsDegrees config degrees)

include hvalid hdegrees

/-- **Both sizings come to the same** if no degree is exceeded. -/
theorem outcomesAlike_of_within
    (hwithin : ∀ direction ∈ config.directions, ∀ id ∈ loadedIds snapshot config, ∀ found,
      snapshot.relationships id direction config.relationshipType = .ok found →
      found.length ≤ degrees direction id) :
    OutcomesAlike (loadSnapshot snapshot { config with sizing := .exact } machine schedule)
        (loadSnapshot snapshot { config with sizing := .growable } machine' schedule') ∧
      ∀ first second,
        loadSnapshot snapshot { config with sizing := .exact } machine schedule = .ok first →
        loadSnapshot snapshot { config with sizing := .growable } machine' schedule' = .ok second →
        first.1.SameLists second.1 := by
  have hrow : ∀ map : IdMap, map.externals.toList = loadedIds snapshot config →
      ((runOver snapshot config 1 map).withSizing .exact).nodeRow
        = ((runOver snapshot config 1 map).withSizing .growable).nodeRow := by
    intro map hids
    apply LoadRun.row_withSizing hdegrees.countsDegrees (hdegrees.reported_of_run hids)
    intro node own hown kind hkind
    exact hwithin kind.direction
      (directions_eq snapshot config map ▸ List.mem_map_of_mem hkind) own
      (mem_loadedIds_of_externalId hids hown)
  have hcomplete : ∀ map : IdMap, map.Sound → map.externals.toList = loadedIds snapshot config →
      (((runOver snapshot config 1 map).withSizing .exact).Complete ↔
        ((runOver snapshot config 1 map).withSizing .growable).Complete) := fun map hsound hids =>
    LoadRun.complete_withSizing_iff hdegrees.countsDegrees (hdegrees.reported_of_run hids) hsound.few
      (hdegrees.room_of_run hids) (hrow map hids)
  -- if one of the loads succeeds, so does the other
  have hgrows : ∀ first, loadSnapshot snapshot { config with sizing := .exact } machine schedule
      = .ok first → ∃ second,
        loadSnapshot snapshot { config with sizing := .growable } machine' schedule' = .ok second :=
    fun _ hfirst => exists_sized_of_sized htimeout hopen hvalid
      (fun map hsound hids => (hcomplete map hsound hids).mp) hfirst _ _
  have hcounts : ∀ second, loadSnapshot snapshot { config with sizing := .growable } machine' schedule'
      = .ok second → ∃ first,
        loadSnapshot snapshot { config with sizing := .exact } machine schedule = .ok first :=
    fun _ hsecond => exists_sized_of_sized htimeout hopen hvalid
      (fun map hsound hids => (hcomplete map hsound hids).mpr) hsecond _ _
  cases hfirst : loadSnapshot snapshot { config with sizing := .exact } machine schedule with
  | error error =>
    cases hsecond : loadSnapshot snapshot { config with sizing := .growable } machine' schedule' with
    | error error' => exact ⟨trivial, fun _ _ h => nomatch h⟩
    | ok second =>
      obtain ⟨first, hok⟩ := hcounts second hsecond
      rw [hfirst] at hok
      cases hok
  | ok first =>
    obtain ⟨second, hsecond⟩ := hgrows first hfirst
    rw [hsecond]
    obtain ⟨map, parts, hmap, hsound, hids, hown, hholds, hgraph, hrelationships, hstored, hcounted⟩ :=
      graph_of_sized htimeout hopen hfirst
    obtain ⟨map', parts', hmap', _, _, _, hholds', hgraph', hrelationships', hstored', hcounted'⟩ :=
      graph_of_sized htimeout hopen hsecond
    obtain rfl : map = map' := Except.ok.inj (hmap.symm.trans hmap')
    obtain ⟨hsame, htransfer⟩ := LoadRun.holds_withSizing (hrow map hids)
    rw [hsame] at hgraph
    refine ⟨loadedAlike_of_holds (htransfer parts hholds) hholds' hgraph hgraph' hrelationships
      hrelationships' hstored hstored' hcounted hcounted', ?_⟩
    intro first' second' h h'
    cases h
    cases h'
    rw [hgraph, hgraph']
    exact ⟨rfl, rfl⟩

/-- **Exact sizing refuses** a node with more relationships than were reported. -/
theorem fails_of_exceeded {direction : Direction} (hdirection : direction ∈ config.directions)
    {id : ExternalId} (hid : id ∈ loadedIds snapshot config) {found : List RelationshipRef}
    (hfound : snapshot.relationships id direction config.relationshipType = .ok found)
    (hmany : degrees direction id < found.length) :
    ∃ error, loadSnapshot snapshot { config with sizing := .exact } machine schedule = .error error ∧
      ((∃ loaded, loadSnapshot snapshot { config with sizing := .growable } machine' schedule'
          = .ok loaded) → ∃ finding, error.rootCause = .sourceInconsistent finding) := by
  have hexceeded : ∀ map : IdMap, map.Sound → map.externals.toList = loadedIds snapshot config →
      (runOver snapshot config 1 map).Exceeded degrees := by
    intro map hsound hids
    obtain ⟨kind, hkind, rfl⟩ := List.mem_map.mp hdirection
    obtain ⟨node, hlt, hown⟩ :=
      @LoadRun.exists_node_of_mem (runOver snapshot config 1 map) id (hids ▸ hid) hsound.few
    exact ⟨node, id, kind, found, hlt, hown, hkind, hfound, hmany⟩
  cases hexact : loadSnapshot snapshot { config with sizing := .exact } machine schedule with
  | ok loaded =>
    obtain ⟨map, _, _, hsound, hids, hcomplete, _⟩ := graph_of_sized htimeout hopen hexact
    have hnone := @LoadRun.no_rows_of_exceeded ((runOver snapshot config 1 map).withSizing .exact)
      (LoadRun.sizing_withSizing hdegrees.countsDegrees .exact) _ (hdegrees.reported_of_run hids)
      (hexceeded map hsound hids)
    exact absurd hcomplete.rows hnone
  | error error =>
    refine ⟨error, rfl, ?_⟩
    rintro ⟨loaded, hgrowable⟩
    obtain ⟨map, _, hmap, hsound, hids, hcomplete, _⟩ := graph_of_sized htimeout hopen hgrowable
    have hgrows := @LoadRun.grows_of_complete (runOver snapshot config machine map schedule)
      hdegrees.countsDegrees htimeout hsound.few
      ((LoadRun.complete_runOver_iff snapshot { config with sizing := .growable } machine map
        schedule).mpr hcomplete)
    exact @LoadRun.inconsistent_of_exceeded
      ((runOver snapshot config machine map schedule).withSizing .exact)
      (LoadRun.sizing_withSizing hdegrees.countsDegrees .exact) _ (hdegrees.reported_of_run hids) hopen
      htimeout hsound.few (hdegrees.room_of_run hids) hvalid hgrows (hexceeded map hsound hids) _
      (@load_of_loadSnapshot _ { config with sizing := .exact } _ _ htimeout hvalid _ hmap _ hexact)

end Opened

/-- Where degrees are reported, cursors can be opened. -/
theorem Snapshot.ReportsDegrees.opens (h : snapshot.ReportsDegrees config degrees)
    (hids : loadedIds snapshot config ≠ []) : ∀ cursor, snapshot.openCursor cursor = .ok () := by
  intro cursor
  obtain ⟨id, ids, hcons⟩ := List.exists_cons_of_ne_nil hids
  obtain ⟨kind, rest, hkinds, _⟩ :=
    ScanKind.exists_forLoad config.direction config.isWeighted config.undirected
  have hdirection : kind.direction ∈ config.directions := by
    unfold LoadConfig.directions
    rw [hkinds]
    exact List.mem_cons_self
  have hdegree := h.reported cursor kind.direction hdirection id (hcons ▸ List.mem_cons_self)
  exact (bind_eq_ok_iff.mp hdegree).choose_spec.1

/-- **Exact sizing agrees with growing lists.**  For a store that reports degrees, the loads with either
sizing both fail or come to the same, with the same lists, as long as no more relationships of a node are
delivered than were reported, however many were.  If more are, the load with exact sizing fails, and if the
other one succeeds it says that the store is inconsistent. -/
theorem exact_agrees_with_growable (htimeout : config.timeout = none)
    (hvalid : config.validate = .ok ()) (hdegrees : snapshot.ReportsDegrees config degrees)
    (machine machine' : Nat) (schedule schedule' : Phase → List Nat) :
    ((∀ direction ∈ config.directions, ∀ id ∈ loadedIds snapshot config, ∀ found,
        snapshot.relationships id direction config.relationshipType = .ok found →
        found.length ≤ degrees direction id) →
      OutcomesAlike (loadSnapshot snapshot { config with sizing := .exact } machine schedule)
          (loadSnapshot snapshot { config with sizing := .growable } machine' schedule') ∧
        ∀ first second,
          loadSnapshot snapshot { config with sizing := .exact } machine schedule = .ok first →
          loadSnapshot snapshot { config with sizing := .growable } machine' schedule' = .ok second →
          first.1.SameLists second.1) ∧
    ((∃ direction ∈ config.directions, ∃ id ∈ loadedIds snapshot config, ∃ found,
        snapshot.relationships id direction config.relationshipType = .ok found ∧
        degrees direction id < found.length) →
      ∃ error,
        loadSnapshot snapshot { config with sizing := .exact } machine schedule = .error error ∧
        ((∃ loaded, loadSnapshot snapshot { config with sizing := .growable } machine' schedule'
            = .ok loaded) → ∃ finding, error.rootCause = .sourceInconsistent finding)) := by
  constructor
  · intro hwithin
    by_cases hids : loadedIds snapshot config = []
    · cases hopen : snapshot.openCursor 0 with
      | error error =>
        -- no load can look for nodes
        rw [@loadSnapshot_of_no_cursor _ { config with sizing := .exact } hvalid _ hopen,
          @loadSnapshot_of_no_cursor _ { config with sizing := .growable } hvalid _ hopen]
        exact ⟨trivial, fun _ _ h => nomatch h⟩
      | ok _ =>
        rw [@loadSnapshot_of_no_nodes _ { config with sizing := .exact } htimeout hopen hids,
          @loadSnapshot_of_no_nodes _ { config with sizing := .growable } htimeout hopen hids]
        refine @outcomesAlike_of_within _ _ degrees htimeout (fun _ => rfl) _ _ _ _ hvalid
          ⟨hdegrees.countsDegrees, ?_, hdegrees.room⟩ hwithin
        intro cursor direction _ id hid
        rw [show loadedIds { snapshot with openCursor := fun _ => .ok () } config = [] from hids] at hid
        cases hid
    · exact outcomesAlike_of_within htimeout (hdegrees.opens hids) hvalid hdegrees hwithin
  · rintro ⟨direction, hdirection, id, hid, found, hfound, hmany⟩
    exact fails_of_exceeded htimeout (hdegrees.opens (List.ne_nil_of_mem hid)) hvalid hdegrees hdirection
      hid hfound hmany

end Loads

/-- A store that reports one degree for every node, whatever its relationships. -/
def reporting (degree : Nat) : Snapshot where
  scanNodes := fun _ => { ids := [⟨1⟩, ⟨2⟩] }
  degree := fun _ _ _ => .ok degree
  relationships := fun id _ _ => .ok (if id = ⟨1⟩ then [⟨⟨2⟩, 0⟩, ⟨⟨2⟩, 1⟩] else [])
  property := fun _ _ => .ok none

/-- Degrees that are too high do no harm, and degrees that are too low are noticed. -/
theorem exact_agrees_with_growable_reporting :
    OutcomesAlike (loadSnapshot (reporting 5) { sizing := .exact, direction := .both } 1 fun _ => [])
        (loadSnapshot (reporting 5) { sizing := .growable, direction := .both } 2 fun _ => [1, 0]) ∧
      ∃ error, loadSnapshot (reporting 1) { sizing := .exact, direction := .both } 1 (fun _ => [])
          = .error error ∧
        ((∃ loaded, loadSnapshot (reporting 1) { sizing := .growable, direction := .both } 2
            (fun _ => [1, 0]) = .ok loaded) → ∃ finding, error.rootCause = .sourceInconsistent finding) := by
  have hids : ∀ degree, loadedIds (reporting degree) { direction := .both } = [⟨1⟩, ⟨2⟩] := fun _ => rfl
  have hdirections : ({ direction := .both } : LoadConfig).directions = [.outgoing, .incoming] := rfl
  have hdegrees : ∀ degree, degree ≤ 5 →
      (reporting degree).ReportsDegrees { direction := .both } fun _ _ => degree := by
    intro degree hdegree
    refine ⟨rfl, fun _ _ _ _ _ => rfl, fun direction _ => ?_⟩
    rw [hids]
    show 0 + degree + degree ≤ 2 ^ 61 - 1
    omega
  obtain ⟨halike, _⟩ := @exact_agrees_with_growable _ { direction := .both } _ rfl rfl
    (hdegrees 5 (by decide)) 1 2 (fun _ => []) fun _ => [1, 0]
  obtain ⟨_, hfails⟩ := @exact_agrees_with_growable _ { direction := .both } _ rfl rfl
    (hdegrees 1 (by decide)) 1 2 (fun _ => []) fun _ => [1, 0]
  refine ⟨(halike fun direction _ id _ found hfound => ?_).1,
    hfails ⟨.outgoing, by decide, ⟨1⟩, by rw [hids]; decide, _, rfl, by decide⟩⟩
  cases hfound
  split <;> decide

end CompactGraph
