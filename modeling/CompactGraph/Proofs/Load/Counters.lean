/-
# Counters of loads

The counters of a load are sums over nodes, lists and partitions of what single scans count.  Turned
around, they are counts over the relationships of the graph (`LoadSummary.Accounts`): a scan meets the
relationships that touch a loaded node at the end that it reads from, and those are unmapped whose other
end is not loaded.  A relationship in the graph is counted once for each ordered pair of loaded nodes
that it connects.
-/
import CompactGraph.Proofs.Load.Adjacency
import CompactGraph.Proofs.Source.Counting

namespace CompactGraph

/-! ## Sums over nodes -/

namespace ScanCounts

theorem total_map {α : Type} (items : List α) (f : α → ScanCounts) : total (items.map f)
    = ⟨CompactGraph.total (items.map fun item => (f item).scanned),
      CompactGraph.total (items.map fun item => (f item).unmapped),
      CompactGraph.total (items.map fun item => (f item).fallback)⟩ := by
  induction items with
  | nil => rfl
  | cons item items ih =>
    rw [List.map_cons, List.map_cons, List.map_cons, List.map_cons, total_cons, ih,
      CompactGraph.total_cons, CompactGraph.total_cons, CompactGraph.total_cons]
    rfl

theorem total_map_add {α : Type} (items : List α) (f g : α → ScanCounts) :
    total (items.map fun item => add (f item) (g item))
      = add (total (items.map f)) (total (items.map g)) := by
  induction items with
  | nil => rfl
  | cons item items ih =>
    rw [List.map_cons, List.map_cons, List.map_cons, total_cons, total_cons, total_cons, ih]
    simp only [add, ScanCounts.mk.injEq]
    omega

/-- Counts can be added up in either order. -/
theorem total_map_total {α β : Type} (rows : List α) (columns : List β) (f : α → β → ScanCounts) :
    total (rows.map fun row => total (columns.map (f row)))
      = total (columns.map fun column => total (rows.map fun row => f row column)) := by
  induction columns with
  | nil =>
    induction rows with
    | nil => rfl
    | cons row rows ih =>
      rw [List.map_cons, total_cons, ih]
      rfl
  | cons column columns ih =>
    simp only [List.map_cons, total_cons, total_map_add]
    rw [ih]

end ScanCounts

/-! ## What relationships count for -/

namespace MemoryGraph

section Specification

variable (store : MemoryGraph) (config : LoadConfig)

/-- The relationships that touch a loaded node at one end. -/
def touching (near : RelationshipRecord → ExternalId) : Nat :=
  (store.typed config.relationshipType).countP fun record =>
    near record ∈ store.nodesWith config.nodeLabel

/-- Those of them that lead out of the loaded nodes. -/
def leadingOut (near far : RelationshipRecord → ExternalId) : Nat :=
  (store.typed config.relationshipType).countP fun record =>
    near record ∈ store.nodesWith config.nodeLabel ∧ far record ∉ store.nodesWith config.nodeLabel

/-- The self-loops on loaded nodes. -/
def selfLoops : Nat :=
  (store.typed config.relationshipType).countP fun record =>
    record.source ∈ store.nodesWith config.nodeLabel ∧ record.source = record.target

/-- The relationships that scans in a direction meet, those of a scan from either end added up. -/
def scannedIn : Direction → Nat
  | .outgoing => store.touching config RelationshipRecord.source
  | .incoming => store.touching config RelationshipRecord.target
  | .both => store.touching config RelationshipRecord.source
      + store.touching config RelationshipRecord.target

/-- Those of them whose other end is not loaded. -/
def unmappedIn : Direction → Nat
  | .outgoing => store.leadingOut config RelationshipRecord.source RelationshipRecord.target
  | .incoming => store.leadingOut config RelationshipRecord.target RelationshipRecord.source
  | .both => store.leadingOut config RelationshipRecord.source RelationshipRecord.target
      + store.leadingOut config RelationshipRecord.target RelationshipRecord.source

/-- The sightings of loaded nodes whose weights are read in a direction. -/
def weighedIn (direction : Direction) : List Sighting :=
  (store.nodesWith config.nodeLabel).flatMap fun own =>
    store.weighed config (store.sightingsAt config.relationshipType direction own)

/-- The pairs of loaded nodes that are related. -/
def loadedPairs (related : ExternalId → ExternalId → Prop) : Set (ExternalId × ExternalId) :=
  {pair | pair.1 ∈ store.nodesWith config.nodeLabel ∧ pair.2 ∈ store.nodesWith config.nodeLabel ∧
    related pair.1 pair.2}

end Specification

end MemoryGraph

/-- The direction in which a load reads weights.  A load in both directions reads them where
relationships start. -/
def LoadConfig.weightDirection (config : LoadConfig) : Direction :=
  if config.undirected then .both
  else if config.direction = .incoming then .incoming
  else .outgoing

/-- **Counters that mean what they say.** -/
structure LoadSummary.Accounts (summary : LoadSummary) (store : MemoryGraph) (config : LoadConfig) :
    Prop where
  directed : config.undirected = false →
    summary.counts.scanned = store.scannedIn config config.direction ∧
    summary.counts.unmapped = store.unmappedIn config config.direction
  /-- A self-loop touches a loaded node at both ends and is scanned once. -/
  undirected : config.undirected = true →
    summary.counts.scanned + store.selfLoops config = store.scannedIn config .both ∧
    summary.counts.unmapped = store.unmappedIn config .both
  fallback : summary.counts.fallback
    = (store.weighedIn config config.weightDirection).countP fun sighting =>
        config.lacksWeight sighting.record
  directedRelationships : config.undirected = false →
    summary.relationshipCount = (store.loadedPairs config fun own other =>
      store.Related config.relationshipType own other).ncard
  undirectedRelationships : config.undirected = true →
    summary.relationshipCount = (store.loadedPairs config fun own other =>
      store.Related config.relationshipType own other ∨
        store.Related config.relationshipType other own).ncard

/-! ## Scans of all nodes -/

namespace MemoryGraph

variable {config : LoadConfig} {ids : List ExternalId} (hids : ids.Nodup)

include hids

/-- What is seen from one end is seen from one node. -/
theorem total_countP_seenFrom (store : MemoryGraph) (type : Option String)
    (near far : RelationshipRecord → ExternalId) (counts : Sighting → Bool) :
    total (ids.map fun own => (store.seenFrom type near far own).countP counts)
      = (store.typed type).countP fun record =>
          decide (near record ∈ ids) && counts ⟨far record, record⟩ := by
  rw [← total_countP_under near (fun record => counts ⟨far record, record⟩) hids]
  congr 1
  apply List.map_congr_left
  intro own _
  unfold seenFrom
  rw [List.countP_map, List.countP_filter]
  apply List.countP_congr
  intro record _
  rw [Bool.and_comm]
  rfl

/-- What both ends see, a self-loop seen from its source. -/
theorem total_countP_sightingsAt_both (store : MemoryGraph) (type : Option String)
    (counts : Sighting → Bool) :
    total (ids.map fun own => (store.sightingsAt type .both own).countP counts)
      = (store.typed type).countP (fun record =>
          decide (record.source ∈ ids) && counts ⟨record.target, record⟩)
        + (store.typed type).countP (fun record => decide (record.target ∈ ids) &&
          (decide (record.source ≠ record.target) && counts ⟨record.source, record⟩)) := by
  have hending : ∀ own, ((store.seenFrom type RelationshipRecord.target RelationshipRecord.source own).filter
      fun sighting => sighting.other ≠ own).countP counts
      = (store.seenFrom type RelationshipRecord.target RelationshipRecord.source own).countP
        fun sighting => decide (sighting.record.source ≠ sighting.record.target) && counts sighting := by
    intro own
    rw [List.countP_filter]
    apply List.countP_congr
    intro sighting hsighting
    obtain ⟨record, hrecord, rfl⟩ := List.mem_map.mp hsighting
    have hown : record.target = own := by simpa using List.of_mem_filter hrecord
    rw [hown, Bool.and_comm]
  simp only [sightingsAt, List.countP_append, hending]
  rw [total_map_add, store.total_countP_seenFrom hids, store.total_countP_seenFrom hids]

omit hids

/-- What scans of all loaded nodes count together. -/
def scanCounts (store : MemoryGraph) (config : LoadConfig) (kind : ScanKind) : ScanCounts :=
  ScanCounts.total ((store.nodesWith config.nodeLabel).map (store.countsAt config kind))

variable {store : MemoryGraph} (hloaded : (store.nodesWith config.nodeLabel).Nodup) {kind : ScanKind}

include hloaded

/-- A scan in one direction meets the relationships that touch a loaded node there. -/
theorem scanned_scanCounts (hkind : kind.isUndirected = false) :
    (store.scanCounts config kind).scanned = store.scannedIn config kind.direction := by
  have hlength : ∀ near far, total ((store.nodesWith config.nodeLabel).map fun own =>
      (store.seenFrom config.relationshipType near far own).length) = store.touching config near := by
    intro near far
    have hseen := store.total_countP_seenFrom hloaded config.relationshipType near far fun _ => true
    simp only [List.countP_true, Bool.and_true] at hseen
    exact hseen
  rw [scanCounts, ScanCounts.total_map]
  cases kind with
  | outgoing weighted => exact hlength _ _
  | symmetric => exact hlength _ _
  | incoming weighted => exact hlength _ _
  | undirected weighted => cases hkind

/-- A scan in both directions meets self-loops once. -/
theorem scanned_scanCounts_undirected (weighted : Bool) :
    (store.scanCounts config (.undirected weighted)).scanned + store.selfLoops config
      = store.scannedIn config .both := by
  have hseen := store.total_countP_sightingsAt_both hloaded config.relationshipType fun _ => true
  simp only [List.countP_true, Bool.and_true] at hseen
  -- relationships that end at a loaded node start there too or do not
  have hsplit : ∀ records : List RelationshipRecord,
      records.countP (fun record => decide (record.target ∈ store.nodesWith config.nodeLabel)
          && decide (record.source ≠ record.target))
        + records.countP (fun record => record.source ∈ store.nodesWith config.nodeLabel ∧
          record.source = record.target)
      = records.countP fun record => record.target ∈ store.nodesWith config.nodeLabel := by
    intro records
    induction records with
    | nil => rfl
    | cons record records ih =>
      simp only [List.countP_cons] at ih ⊢
      by_cases hloop : record.source = record.target
      · simp only [hloop] at ih ⊢
        simp at ih ⊢
        omega
      · simp [hloop] at ih ⊢
        omega
  rw [scanCounts, ScanCounts.total_map]
  show total ((store.nodesWith config.nodeLabel).map fun own =>
    (store.sightingsAt config.relationshipType .both own).length) + _ = _
  rw [hseen, scannedIn, touching, touching, selfLoops, ← hsplit (store.typed config.relationshipType)]
  omega

/-- What leads out of the loaded nodes is unmapped. -/
theorem unmapped_scanCounts (kind : ScanKind) :
    (store.scanCounts config kind).unmapped = store.unmappedIn config kind.direction := by
  have hseen : ∀ near far, total ((store.nodesWith config.nodeLabel).map fun own =>
      (store.seenFrom config.relationshipType near far own).countP fun sighting =>
        sighting.other ∉ store.nodesWith config.nodeLabel) = store.leadingOut config near far := by
    intro near far
    rw [total_countP_seenFrom hloaded]
    simp only [leadingOut, Bool.decide_and]
  rw [scanCounts, ScanCounts.total_map]
  cases kind with
  | outgoing weighted => exact hseen _ _
  | symmetric => exact hseen _ _
  | incoming weighted => exact hseen _ _
  | undirected weighted =>
    show total ((store.nodesWith config.nodeLabel).map fun own =>
      (store.sightingsAt config.relationshipType .both own).countP fun sighting =>
        sighting.other ∉ store.nodesWith config.nodeLabel)
      = store.leadingOut config RelationshipRecord.source RelationshipRecord.target
        + store.leadingOut config RelationshipRecord.target RelationshipRecord.source
    rw [total_countP_sightingsAt_both hloaded]
    simp only [leadingOut, Bool.decide_and]
    congr 1
    -- a self-loop does not lead out
    apply List.countP_congr
    intro record _
    simp only [Bool.and_eq_true, decide_eq_true_eq]
    refine and_congr_right fun htarget => ⟨fun h => h.2, fun hsource => ⟨?_, hsource⟩⟩
    rintro hloop
    exact hsource (hloop ▸ htarget)

omit hloaded

/-- The weights that are missing where a scan reads weights. -/
theorem fallback_scanCounts (kind : ScanKind) :
    (store.scanCounts config kind).fallback = if kind.isWeighted then
      (store.weighedIn config kind.direction).countP fun sighting => config.lacksWeight sighting.record
      else 0 := by
  rw [scanCounts, ScanCounts.total_map, weighedIn, ← total_map_countP]
  cases hweighted : kind.isWeighted with
  | false =>
    have hzero : ∀ own, (store.countsAt config kind own).fallback = 0 := by
      intro own
      rw [countsAt, hweighted]
      rfl
    simp only [hzero, LoadRun.total_map_const, Nat.mul_zero, Bool.false_eq_true, if_false]
  | true =>
    have hread : ∀ own, (store.countsAt config kind own).fallback
        = (store.weighed config (store.sightingsAt config.relationshipType kind.direction own)).countP
          fun sighting => config.lacksWeight sighting.record := by
      intro own
      rw [countsAt, hweighted]
      rfl
    simp only [hread, if_true]

end MemoryGraph

/-! ## Relationships of a graph -/

namespace Graph

variable {graph : Graph} {ids : List ExternalId} {list : AdjacencyList}
  {related : ExternalId → ExternalId → Prop}

/-- The external id of the number of a loaded node is its own. -/
theorem Numbers.toExternal_toMapped (h : graph.Numbers ids) {id : ExternalId} (hid : id ∈ ids) :
    graph.toExternal (graph.toMapped id) = some id :=
  (h.toMapped id _).mpr ⟨(h.contains id).mpr hid, rfl⟩

theorem Numbers.mem_of_toExternal (h : graph.Numbers ids) {node : NodeId} {id : ExternalId}
    (hid : graph.toExternal node = some id) : id ∈ ids ∧ graph.toMapped id = node := by
  obtain ⟨hcontains, hmapped⟩ := (h.toMapped id node).mp hid
  exact ⟨(h.contains id).mp hcontains, hmapped⟩

/-- The neighbours of a list, each with the node that it is a neighbour of. -/
def arcsOf (graph : Graph) (ids : List ExternalId) (list : AdjacencyList) : List (NodeId × NodeId) :=
  ids.flatMap fun own => (list.neighbors (graph.toMapped own)).map fun target => (graph.toMapped own, target)

variable (hnumbers : graph.Numbers ids) (h : graph.Adjoins list related)

include hnumbers h

theorem Adjoins.mem_arcsOf {arc : NodeId × NodeId} :
    arc ∈ graph.arcsOf ids list ↔ arc.2 ∈ list.neighbors arc.1 := by
  unfold arcsOf
  rw [List.mem_flatMap]
  constructor
  · rintro ⟨own, _, hown⟩
    obtain ⟨target, htarget, rfl⟩ := List.mem_map.mp hown
    exact htarget
  · intro htarget
    obtain ⟨own, other, hown, _⟩ := (h.mem_iff arc.1 arc.2).mp htarget
    obtain ⟨hmem, hmapped⟩ := hnumbers.mem_of_toExternal hown
    refine ⟨own, hmem, List.mem_map.mpr ⟨arc.2, ?_, ?_⟩⟩
    · rw [hmapped]
      exact htarget
    · rw [hmapped]

theorem Adjoins.nodup_arcsOf : (graph.arcsOf ids list).Nodup := by
  unfold arcsOf
  rw [List.nodup_flatMap]
  constructor
  · intro own _
    exact (h.ascending _).nodup.map fun first second heq => congrArg Prod.snd heq
  · -- different nodes have different numbers
    refine (List.nodup_iff_pairwise_ne.mp hnumbers.nodup).imp_of_mem ?_
    intro own other hown hother hne arc hfirst hsecond
    obtain ⟨_, _, rfl⟩ := List.mem_map.mp hfirst
    obtain ⟨_, _, heq⟩ := List.mem_map.mp hsecond
    have hsame : graph.toMapped other = graph.toMapped own := congrArg Prod.fst heq
    have hexternal := hnumbers.toExternal_toMapped hother
    rw [hsame, hnumbers.toExternal_toMapped hown] at hexternal
    exact hne (Option.some.inj hexternal)

theorem Adjoins.length_arcsOf : (graph.arcsOf ids list).length = list.relationshipCount := by
  have hdegrees : (List.range graph.nodeCount).map (fun index => list.degree (.ofIndex index))
      = ids.map fun own => (list.neighbors (graph.toMapped own)).length := by
    apply List.ext_getElem
    · rw [List.length_map, List.length_map, List.length_range, hnumbers.nodeCount]
    · intro index hindex hindex'
      rw [List.length_map, List.length_range] at hindex
      rw [List.length_map] at hindex'
      have hexternal := hnumbers.toExternal index hindex
      rw [List.getElem?_eq_getElem hindex'] at hexternal
      rw [List.getElem_map, List.getElem_map, List.getElem_range,
        (hnumbers.mem_of_toExternal hexternal).2]
      rfl
  rw [h.relationshipCount, hdegrees, arcsOf, List.flatMap_def, ← total_map_length, List.map_map]
  simp only [Function.comp_def, List.length_map]

/-- **A list has as many targets as there are related pairs.** -/
theorem Adjoins.relationshipCount_eq : list.relationshipCount
    = {pair : ExternalId × ExternalId | pair.1 ∈ ids ∧ pair.2 ∈ ids ∧ related pair.1 pair.2}.ncard := by
  rw [← h.length_arcsOf hnumbers, ← List.toFinset_card_of_nodup (h.nodup_arcsOf hnumbers),
    ← Set.ncard_coe_finset]
  symm
  refine Set.ncard_congr (fun pair _ => (graph.toMapped pair.1, graph.toMapped pair.2)) ?_ ?_ ?_
  · rintro ⟨own, other⟩ ⟨hown, hother, hrelated⟩
    rw [List.coe_toFinset]
    exact (h.mem_arcsOf hnumbers).mpr ((h.mem_iff _ _).mpr ⟨own, other,
      hnumbers.toExternal_toMapped hown, hnumbers.toExternal_toMapped hother, hrelated⟩)
  · rintro ⟨own, other⟩ ⟨own', other'⟩ ⟨hown, hother, _⟩ ⟨hown', hother', _⟩ heq
    obtain ⟨hfirst, hsecond⟩ := Prod.mk.inj heq
    have hown'' := hnumbers.toExternal_toMapped hown
    have hother'' := hnumbers.toExternal_toMapped hother
    simp only at hown'' hother''
    rw [hfirst, hnumbers.toExternal_toMapped hown'] at hown''
    rw [hsecond, hnumbers.toExternal_toMapped hother'] at hother''
    cases hown''
    cases hother''
    rfl
  · rintro ⟨node, target⟩ harc
    rw [List.coe_toFinset] at harc
    obtain ⟨own, other, hown, hother, hrelated⟩ :=
      (h.mem_iff node target).mp ((h.mem_arcsOf hnumbers).mp harc)
    obtain ⟨hmem, hnode⟩ := hnumbers.mem_of_toExternal hown
    obtain ⟨hmem', htarget⟩ := hnumbers.mem_of_toExternal hother
    exact ⟨(own, other), ⟨hmem, hmem', hrelated⟩, by rw [hnode, htarget]⟩

end Graph

/-! ## Runs -/

namespace LoadRun

variable {run : LoadRun} {store : MemoryGraph} (hstore : store.Sound)
  (hsnapshot : run.snapshot = store.answers) (hmap : run.idMap.Sound)
  (hids : run.idMap.externals.toList = store.nodesWith run.config.nodeLabel)

include hmap hids in
/-- The scans of a run are those of a load. -/
theorem scansFor (kind : ScanKind) : store.ScansFor run.config (run.scanOf kind) :=
  ⟨hmap, hids, rfl, rfl⟩

include hstore hsnapshot hmap hids

/-- The counts of a row are those of the scans of its node. -/
theorem rowCounts_row {node : Nat} {own : ExternalId} (hown : run.externalId node = .ok own)
    (hrow : run.nodeRow node = .ok (run.row node)) : rowCounts (run.row node)
      = ScanCounts.total (run.kinds.map fun kind => store.countsAt run.config kind own) := by
  unfold rowCounts
  congr 1
  apply List.ext_getElem?
  intro list
  rw [List.getElem?_map, List.getElem?_map]
  cases hkind : run.kinds[list]? with
  | none =>
    have hnone : (run.row node)[list]? = none := by
      rw [List.getElem?_eq_none_iff] at hkind ⊢
      rw [length_of_nodeRow hrow]
      exact hkind
    rw [hnone]
    rfl
  | some kind =>
    obtain ⟨id, found, reading, hid, hfound, hreading, hget, _⟩ := getElem?_of_nodeRow hrow hkind
    obtain rfl : own = id := Except.ok.inj (hown.symm.trans hid)
    rw [hsnapshot] at hfound hreading
    cases hfound
    have hcounts := (scansFor hmap hids kind).counts_of_reading hstore (toExternal_of_externalId hown)
      hreading
    rw [hget, Option.map_some, Option.map_some, hcounts]
    rfl

/-- **The counters of a run** are those of its scans. -/
theorem counts_of_holds
    (hrows : ∀ node, node < run.idMap.nodeCount → run.nodeRow node = .ok (run.row node))
    {parts : Assembled} (hholds : run.Holds parts) :
    parts.counts = ScanCounts.total (run.kinds.map (store.scanCounts run.config)) := by
  have hnodes : (List.range run.idMap.nodeCount).map (fun node => rowCounts (run.row node))
      = (store.nodesWith run.config.nodeLabel).map fun own =>
        ScanCounts.total (run.kinds.map fun kind => store.countsAt run.config kind own) := by
    rw [← hids]
    apply map_range_eq_map_externals hmap.few
    intro node own hnode hown
    exact rowCounts_row hstore hsnapshot hmap hids hown (hrows node hnode)
  rw [hholds.counts, hnodes, ScanCounts.total_map_total]
  rfl

end LoadRun

/-! ## Loads -/

/-- Weights are read in the direction of the first scan. -/
theorem LoadRun.direction_mainKind (run : LoadRun) :
    run.mainKind.direction = run.config.weightDirection := by
  unfold mainKind LoadConfig.weightDirection
  rw [kinds]
  cases run.config.undirected with
  | true => rfl
  | false =>
    cases run.config.direction with
    | outgoing => rfl
    | incoming => rfl
    | both => cases run.config.isWeighted <;> rfl

/-- The counts of the scans of a load that keeps directions apart. -/
theorem ScanCounts.total_forLoad (counts : ScanKind → ScanCounts) (direction : Direction)
    (weighted : Bool) : total ((ScanKind.forLoad direction weighted false).map counts)
      = match direction with
        | .outgoing => counts (.outgoing weighted)
        | .incoming => counts (.incoming weighted)
        | .both => add (counts (if weighted then .symmetric else .outgoing false))
            (counts (.incoming false)) := by
  cases direction with
  | outgoing => exact (total_cons ..).trans (add_zero _)
  | incoming => exact (total_cons ..).trans (add_zero _)
  | both =>
    refine (total_cons ..).trans (congrArg _ ?_)
    exact (total_cons ..).trans (add_zero _)

namespace LoadRun

variable {store : MemoryGraph} {run : LoadRun} (hstore : store.Sound)

/-- What all scans of a run count. -/
def scansCount (run : LoadRun) (store : MemoryGraph) : ScanCounts :=
  ScanCounts.total (run.kinds.map (store.scanCounts run.config))

include hstore

/-- A load that keeps directions apart scans what touches loaded nodes there. -/
theorem scanned_of_directed (hundirected : run.config.undirected = false) :
    (run.scansCount store).scanned = store.scannedIn run.config run.config.direction ∧
    (run.scansCount store).unmapped = store.unmappedIn run.config run.config.direction := by
  have hloaded := hstore.nodup_nodesWith run.config.nodeLabel
  have hscanned : ∀ kind : ScanKind, kind.isUndirected = false →
      (store.scanCounts run.config kind).scanned = store.scannedIn run.config kind.direction :=
    fun _ => MemoryGraph.scanned_scanCounts hloaded
  have hunmapped := MemoryGraph.unmapped_scanCounts hloaded
  unfold scansCount
  rw [kinds, hundirected, ScanCounts.total_forLoad]
  cases run.config.direction with
  | outgoing => exact ⟨hscanned _ rfl, hunmapped (.outgoing _)⟩
  | incoming => exact ⟨hscanned _ rfl, hunmapped (.incoming _)⟩
  | both =>
    -- whether it reads weights or not, the first scan reads relationships where they start
    have hmain : ∀ weighted : Bool,
        (if weighted then ScanKind.symmetric else .outgoing false).isUndirected = false ∧
        (if weighted then ScanKind.symmetric else .outgoing false).direction = .outgoing := by
      decide
    obtain ⟨hkind, hdirection⟩ := hmain run.config.isWeighted
    have hfirst := hscanned _ hkind
    have hfirst' := hunmapped (if run.config.isWeighted then ScanKind.symmetric else .outgoing false)
    rw [hdirection] at hfirst hfirst'
    exact ⟨congrArg₂ _ hfirst (hscanned (.incoming false) rfl),
      congrArg₂ _ hfirst' (hunmapped (.incoming false))⟩

/-- An undirected load scans self-loops once. -/
theorem scanned_of_undirected (hundirected : run.config.undirected = true) :
    (run.scansCount store).scanned + store.selfLoops run.config = store.scannedIn run.config .both ∧
    (run.scansCount store).unmapped = store.unmappedIn run.config .both := by
  have hloaded := hstore.nodup_nodesWith run.config.nodeLabel
  have hone : run.scansCount store = store.scanCounts run.config (.undirected run.config.isWeighted) := by
    unfold scansCount
    rw [kinds, hundirected]
    exact (ScanCounts.total_cons ..).trans (ScanCounts.add_zero _)
  rw [hone]
  exact ⟨MemoryGraph.scanned_scanCounts_undirected hloaded _, MemoryGraph.unmapped_scanCounts hloaded _⟩

omit hstore

/-- The scan that reads weights counts those that are missing. -/
theorem fallback_scansCount (run : LoadRun) (store : MemoryGraph) : (run.scansCount store).fallback
    = (store.weighedIn run.config run.config.weightDirection).countP fun sighting =>
        run.config.lacksWeight sighting.record := by
  obtain ⟨hkinds, htail⟩ := run.kinds_eq
  have hrest : (ScanCounts.total (run.kinds.tail.map (store.scanCounts run.config))).fallback = 0 := by
    rw [ScanCounts.total_map]
    have hzero : ∀ kind ∈ run.kinds.tail, (store.scanCounts run.config kind).fallback = 0 := by
      intro kind hkind
      rw [MemoryGraph.fallback_scanCounts, htail kind hkind]
      rfl
    rw [List.map_congr_left hzero, total_map_const, Nat.mul_zero]
  have hsplit : (run.scansCount store).fallback
      = (store.scanCounts run.config run.mainKind).fallback
        + (ScanCounts.total (run.kinds.tail.map (store.scanCounts run.config))).fallback := by
    unfold scansCount
    rw [hkinds, List.map_cons, ScanCounts.total_cons]
    rfl
  rw [hsplit, hrest, Nat.add_zero, MemoryGraph.fallback_scanCounts, direction_mainKind,
    isWeighted_mainKind]
  cases hweighted : run.config.isWeighted with
  | true => rfl
  | false =>
    -- a load that reads no weights misses none
    have hnone : run.config.weightProperty = none :=
      Option.isNone_iff_eq_none.mp (Option.isSome_eq_false_iff.mp hweighted)
    simp [LoadConfig.lacksWeight, hnone]

end LoadRun

/-- **The relationships of a graph** that reflects a store, counted. -/
theorem Graph.Reflects.relationshipCount_eq {graph : Graph} {store : MemoryGraph} {config : LoadConfig}
    (h : graph.Reflects store config) :
    (config.undirected = false → graph.relationshipCount = (store.loadedPairs config fun own other =>
      store.Related config.relationshipType own other).ncard) ∧
    (config.undirected = true → graph.relationshipCount = (store.loadedPairs config fun own other =>
      store.Related config.relationshipType own other ∨
        store.Related config.relationshipType other own).ncard) := by
  constructor
  · intro hundirected
    unfold relationshipCount
    cases houtgoing : graph.outgoing with
    | some list => exact (h.outgoing hundirected list houtgoing).relationshipCount_eq h.numbers
    | none =>
      -- relationships that are read at their targets are the same, turned around
      have hnone : ¬(config.direction = .outgoing ∨ config.direction = .both) := by
        rw [← h.hasOutgoing hundirected, houtgoing]
        exact Bool.false_ne_true
      have hdirection : config.direction = .incoming := by
        cases hdirection : config.direction with
        | incoming => rfl
        | outgoing => exact absurd (Or.inl hdirection) hnone
        | both => exact absurd (Or.inr hdirection) hnone
      obtain ⟨list, hlist⟩ := Option.isSome_iff_exists.mp
        ((h.hasIncoming hundirected).mpr (Or.inl hdirection))
      rw [hlist]
      refine ((h.incoming hundirected list hlist).relationshipCount_eq h.numbers).trans ?_
      rw [← Set.ncard_image_of_injective _ Prod.swap_injective]
      congr 1
      ext pair
      rw [Set.image_swap_eq_preimage_swap]
      exact and_left_comm
  · intro hundirected
    obtain ⟨_, list, hlist, hadjoins⟩ := h.undirected hundirected
    unfold relationshipCount
    rw [hlist]
    exact hadjoins.relationshipCount_eq h.numbers

section Loads

variable (writes : List MemoryGraph.Write) (config : LoadConfig) (machine : Nat)
  (schedule : Phase → List Nat)

/-- **Counters of loads.**  A graph in memory can be loaded unless two weights meet that may not.  The
counters of the load are those of the relationships of the requested type, however many workers there are,
whatever turns they take, and whether room is reserved or lists grow. -/
theorem accounts_of_loadSource (htimeout : config.timeout = none) :
    (config.validate = .ok () → (MemoryGraph.ofWrites writes).Loadable config.nodeLabel →
      config.weightProperty = none ∨ config.policy ≠ .reject →
      ∃ loaded, loadSource (MemoryGraph.ofWrites writes).snapshot config machine schedule = .ok loaded) ∧
    ∀ graph summary,
      loadSource (MemoryGraph.ofWrites writes).snapshot config machine schedule = .ok (graph, summary) →
      summary.Accounts (MemoryGraph.ofWrites writes) config := by
  have hstore := MemoryGraph.sound_ofWrites writes
  constructor
  · intro hvalid hloadable hmeet
    exact exists_loadSource hstore htimeout hvalid hloadable hmeet
  · intro graph summary h
    rw [loadSource_eq hstore] at h
    obtain ⟨map, parts, _, hmap, hids, hcomplete, hholds, rfl, hrelationships, _, hcounts⟩ :=
      graph_of_loadSnapshot (fun _ => rfl) htimeout h
    rw [loadedIds_answers hstore] at hids
    have hscans : summary.counts
        = (runOver (MemoryGraph.ofWrites writes).answers config machine map schedule).scansCount
          (MemoryGraph.ofWrites writes) :=
      hcounts.trans (LoadRun.counts_of_holds hstore rfl hmap hids hcomplete.rows hholds)
    obtain ⟨hdirected, hundirected⟩ :=
      (LoadRun.reflects_graphWith hstore rfl hmap hids hcomplete.rows parts.weights).relationshipCount_eq
    refine ⟨fun h => ?_, fun h => ?_, ?_, fun h => ?_, fun h => ?_⟩
    · rw [hscans]
      exact LoadRun.scanned_of_directed hstore h
    · rw [hscans]
      exact LoadRun.scanned_of_undirected hstore h
    · rw [hscans]
      exact LoadRun.fallback_scansCount _ _
    · exact hrelationships.trans (hdirected h)
    · exact hrelationships.trans (hundirected h)

end Loads

theorem nodesWith_townWrites :
    (MemoryGraph.ofWrites townWrites).nodesWith (some "Person") = [⟨10⟩, ⟨20⟩] := by
  simp [MemoryGraph.ofWrites, townWrites, MemoryGraph.write, MemoryGraph.addNode, MemoryGraph.insert,
    MemoryGraph.empty, Std.HashMap.getElem_insert, MemoryGraph.nodesWith, MemoryGraph.hasLabel]

theorem relationships_townWrites : (MemoryGraph.ofWrites townWrites).relationships.toList =
    [⟨⟨10⟩, ⟨20⟩, "KNOWS", .empty⟩, ⟨⟨20⟩, ⟨10⟩, "KNOWS", .empty⟩, ⟨⟨20⟩, ⟨20⟩, "KNOWS", .empty⟩,
      ⟨⟨10⟩, ⟨30⟩, "LIVES_IN", .empty⟩] := by
  simp [MemoryGraph.ofWrites, townWrites, MemoryGraph.write, MemoryGraph.addNode, MemoryGraph.insert,
    MemoryGraph.empty]

/-- The people and the town that one of them lives in are sighted six times.  Of the five sightings of
people one repeats the person before it, and nobody knows since when. -/
theorem accounts_of_people : ∃ graph summary,
    loadSource (MemoryGraph.ofWrites townWrites).snapshot
      { nodeLabel := some "Person", direction := .both, undirected := true, policy := .keepFirst,
        weightProperty := some "since" } 2 (fun _ => []) = .ok (graph, summary) ∧
    summary.counts = ⟨6, 1, 4⟩ := by
  obtain ⟨hsucceeds, haccounts⟩ := accounts_of_loadSource townWrites
    { nodeLabel := some "Person", direction := .both, undirected := true, policy := .keepFirst,
      weightProperty := some "since" } 2 (fun _ => []) rfl
  obtain ⟨⟨graph, summary⟩, hload⟩ := hsucceeds rfl loadable_townWrites (by decide)
  obtain ⟨_, hundirected, hfallback, _, _⟩ := haccounts graph summary hload
  obtain ⟨hscanned, hunmapped⟩ := hundirected rfl
  refine ⟨graph, summary, hload, ?_⟩
  simp only [MemoryGraph.selfLoops, MemoryGraph.scannedIn, MemoryGraph.unmappedIn, MemoryGraph.touching,
    MemoryGraph.leadingOut, MemoryGraph.weighedIn, MemoryGraph.weighed, MemoryGraph.sightingsAt,
    MemoryGraph.seenFrom, MemoryGraph.typed, nodesWith_townWrites, relationships_townWrites]
    at hscanned hunmapped hfallback
  have hscanned' : summary.counts.scanned = 6 := Nat.succ.inj hscanned
  have hunmapped' : summary.counts.unmapped = 1 := hunmapped
  have hfallback' : summary.counts.fallback = 4 := hfallback.trans (by decide +kernel)
  calc summary.counts
      = ⟨summary.counts.scanned, summary.counts.unmapped, summary.counts.fallback⟩ := rfl
    _ = ⟨6, 1, 4⟩ := by rw [hscanned', hunmapped', hfallback']

end CompactGraph
