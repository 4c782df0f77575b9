/-
# What a node sees of another

What is read of a node of a graph in memory are the relationships of the graph that start or end at the
node.  So the targets and weights of a node can be said in terms of the relationships alone: a target is
seen if some relationship connects the two nodes, and its weights are those of all relationships between
them, in order of insertion.
-/
import CompactGraph.Config
import CompactGraph.Proofs.IdMap
import CompactGraph.Proofs.Scan.Loops
import CompactGraph.Proofs.Source.MemoryGraph

namespace CompactGraph

/-! ## Relationships between loaded nodes -/

/-- The weight of a relationship for a load. -/
def LoadConfig.weightOf (config : LoadConfig) (record : RelationshipRecord) : Float :=
  ((config.weightProperty.bind record.properties.find?).bind PropertyValue.asWeight).getD
    config.defaultWeight

namespace MemoryGraph

/-- The relationships of a type from one node to another, in order of insertion. -/
def between (graph : MemoryGraph) (type : Option String) (source target : ExternalId) :
    List RelationshipRecord :=
  graph.relationships.toList.filter fun record =>
    hasType type record && (record.source = source && record.target = target)

/-- Whether a relationship of a type leads from one node to another. -/
def Related (graph : MemoryGraph) (type : Option String) (source target : ExternalId) : Prop :=
  ∃ record ∈ graph.relationships,
    hasType type record = true ∧ record.source = source ∧ record.target = target

theorem between_ne_nil_iff {graph : MemoryGraph} {type : Option String} {source target : ExternalId} :
    graph.between type source target ≠ [] ↔ graph.Related type source target := by
  unfold between
  rw [ne_eq, List.filter_eq_nil_iff, Related]
  push Not
  simp only [Array.mem_toList_iff, Bool.and_eq_true, decide_eq_true_eq]

/-- The weights of the relationships from one node to another, in order of insertion. -/
def weightsBetween (graph : MemoryGraph) (config : LoadConfig) (source target : ExternalId) :
    List Float :=
  (graph.between config.relationshipType source target).map config.weightOf

/-- What relationships of a type that satisfy a condition are, apart from their numbers. -/
theorem map_filter_ofType {α : Type} (graph : MemoryGraph) (type : Option String)
    (suits : RelationshipRecord → Bool) (f : RelationshipRecord → α) :
    ((graph.ofType type).filter fun both => suits both.1).map (fun both => f both.1)
      = (graph.relationships.toList.filter fun record => hasType type record && suits record).map f := by
  conv_rhs => rw [← List.zipIdx_map_fst 0 graph.relationships.toList, List.filter_map, List.map_map]
  unfold ofType
  rw [List.filter_filter]
  simp only [Bool.and_comm, Function.comp_def]

variable {graph : MemoryGraph} {scan : ListScan} {id other : ExternalId} {target : NodeId}
  {type : Option String}

section Leading

variable (hmap : scan.idMap.Sound) (htarget : scan.idMap.toExternal target = some other)

include hmap htarget

theorem toMapped_eq_iff (id : ExternalId) : scan.idMap.toMapped id = target ↔ id = other := by
  rw [hmap.toMapped_eq_iff (hmap.isMapped_of_toExternal htarget), htarget, Option.some.injEq, eq_comm]

/-- The relationships that lead from a node to a target. -/
theorem leadingTo_leaving (type : Option String) (id : ExternalId) :
    scan.leadingTo target (graph.leaving type id)
      = ((graph.ofType type).filter fun both => both.1.source = id && both.1.target = other).map
        fun both => ⟨both.1.target, both.2⟩ := by
  unfold ListScan.leadingTo
  rw [leaving, List.filter_map, List.filter_filter]
  congr 2
  funext both
  simp only [Function.comp_apply, toMapped_eq_iff hmap htarget]
  exact Bool.and_comm ..

/-- The relationships that lead to a node from a target. -/
theorem leadingTo_arriving (type : Option String) (id : ExternalId) :
    scan.leadingTo target (graph.arriving type id)
      = ((graph.ofType type).filter fun both => both.1.source = other && both.1.target = id).map
        fun both => ⟨both.1.source, both.2⟩ := by
  unfold ListScan.leadingTo
  rw [arriving, List.filter_map, List.filter_filter]
  congr 2
  funext both
  simp only [Function.comp_apply, toMapped_eq_iff hmap htarget]

/-- Some relationship leads from a node to a target if the graph has one between them. -/
theorem leadingTo_leaving_ne_nil_iff (type : Option String) (id : ExternalId) :
    scan.leadingTo target (graph.leaving type id) ≠ [] ↔ graph.Related type id other := by
  rw [← between_ne_nil_iff, leadingTo_leaving hmap htarget, between, ne_eq, ne_eq, List.map_eq_nil_iff,
    ← List.map_eq_nil_iff (f := fun both : RelationshipRecord × RelationshipId => both.1),
    map_filter_ofType graph type (fun record => record.source = id && record.target = other) fun r => r,
    List.map_id']

theorem leadingTo_arriving_ne_nil_iff (type : Option String) (id : ExternalId) :
    scan.leadingTo target (graph.arriving type id) ≠ [] ↔ graph.Related type other id := by
  rw [← between_ne_nil_iff, leadingTo_arriving hmap htarget, between, ne_eq, ne_eq, List.map_eq_nil_iff,
    ← List.map_eq_nil_iff (f := fun both : RelationshipRecord × RelationshipId => both.1),
    map_filter_ofType graph type (fun record => record.source = other && record.target = id) fun r => r,
    List.map_id']

end Leading

/-! ## Weights -/

/-- The weights of relationships of a type that satisfy a condition. -/
theorem weights_filter_ofType {config : LoadConfig} {name : String}
    (hname : config.weightProperty = some name) (hdefault : scan.defaultWeight = config.defaultWeight)
    (suits : RelationshipRecord → Bool) :
    ((graph.ofType type).filter fun both => suits both.1).map
        (fun both => scan.weightIn graph.property name both.2)
      = (graph.relationships.toList.filter fun record => hasType type record && suits record).map
        config.weightOf := by
  rw [← map_filter_ofType]
  apply List.map_congr_left
  intro both hboth
  have hget := (mem_ofType_iff.mp (List.mem_of_mem_filter hboth)).1
  unfold ListScan.weightIn
  rw [property, hget, LoadConfig.weightOf, hname, hdefault]
  rfl

section Weights

variable {config : LoadConfig} {name : String} (hmap : scan.idMap.Sound)
  (htarget : scan.idMap.toExternal target = some other) (hname : config.weightProperty = some name)
  (hdefault : scan.defaultWeight = config.defaultWeight)

include hmap htarget hname hdefault

/-- The weights of the relationships that lead from a node to a target. -/
theorem weights_leaving (id : ExternalId) :
    (scan.leadingTo target (graph.leaving config.relationshipType id)).map
        (fun relationship => scan.weightIn graph.property name relationship.id)
      = graph.weightsBetween config id other := by
  rw [leadingTo_leaving hmap htarget, List.map_map]
  exact weights_filter_ofType hname hdefault fun record => record.source = id && record.target = other

/-- The weights of the relationships that lead to a node from a target. -/
theorem weights_arriving (id : ExternalId) :
    (scan.leadingTo target (graph.arriving config.relationshipType id)).map
        (fun relationship => scan.weightIn graph.property name relationship.id)
      = graph.weightsBetween config other id := by
  rw [leadingTo_arriving hmap htarget, List.map_map]
  exact weights_filter_ofType hname hdefault fun record => record.source = other && record.target = id

end Weights

/-! ## Self-loops -/

/-- A self-loop ends where it starts. -/
theorem mem_leaving_of_loop {relationship : RelationshipRef} (h : relationship ∈ graph.arriving type id)
    (hloop : relationship.other = id) : relationship ∈ graph.leaving type id := by
  obtain ⟨both, hboth, rfl⟩ := List.mem_map.mp h
  obtain ⟨hmem, hends⟩ := List.mem_filter.mp hboth
  have htarget : both.1.target = id := by simpa using hends
  have hsource : both.1.source = id := hloop
  refine List.mem_map.mpr ⟨both, List.mem_filter.mpr ⟨hmem, by simpa using hsource⟩, ?_⟩
  rw [hsource, htarget]

/-- Relationships are sighted by different numbers. -/
theorem nodup_leaving (graph : MemoryGraph) (type : Option String) (id : ExternalId) :
    ((graph.leaving type id).map RelationshipRef.id).Nodup := by
  unfold leaving
  rw [List.map_map]
  have hsub : (((graph.ofType type).filter fun both => both.1.source = id).map Prod.snd).Sublist
      (graph.relationships.toList.zipIdx.map Prod.snd) :=
    (List.filter_sublist.trans List.filter_sublist).map Prod.snd
  rw [List.zipIdx_map_snd] at hsub
  exact hsub.nodup List.nodup_range'

/-- **A self-loop is sighted twice and counts once**, as it starts. -/
theorem sightings_of_both {node : NodeId} (hmap : scan.idMap.Sound)
    (hnode : scan.idMap.toExternal node = some id) (hundirected : scan.kind.isUndirected = true)
    (type : Option String) :
    scan.sightings node [] (graph.leaving type id ++ graph.arriving type id)
      = graph.leaving type id
        ++ (graph.arriving type id).filter fun relationship => relationship.other ≠ id := by
  have hmeets : ∀ relationship : RelationshipRef,
      scan.meetsTwice node relationship = decide (relationship.other = id) := by
    intro relationship
    unfold ListScan.meetsTwice
    rw [hundirected, Bool.true_and, Bool.eq_iff_iff, beq_iff_eq, decide_eq_true_eq]
    exact toMapped_eq_iff hmap hnode relationship.other
  rw [ListScan.sightings_twice (graph.nodup_leaving type id) fun relationship hmem hloop =>
    mem_leaving_of_loop hmem (of_decide_eq_true ((hmeets relationship).symm.trans hloop))]
  simp only [hmeets, decide_not]

/-! ## What a node sees of another -/

/-- Whether a relationship of a type connects two nodes, as seen from the first. -/
def Connects (graph : MemoryGraph) (type : Option String) (direction : Direction)
    (own other : ExternalId) : Prop :=
  match direction with
  | .outgoing => graph.Related type own other
  | .incoming => graph.Related type other own
  | .both => graph.Related type own other ∨ graph.Related type other own

/-- The weights of the relationships that connect two nodes, in the order in which the first sees them.
A self-loop is seen once. -/
def seenWeights (graph : MemoryGraph) (config : LoadConfig) (direction : Direction)
    (own other : ExternalId) : List Float :=
  match direction with
  | .outgoing => graph.weightsBetween config own other
  | .incoming => graph.weightsBetween config other own
  | .both => graph.weightsBetween config own other
      ++ if own = other then [] else graph.weightsBetween config other own

/-- The weights that belong to a pair of nodes, in a load that keeps pairs apart from their reverses: those
of the relationships that lead from the first to the second, or either way in an undirected load. -/
def weightsFor (graph : MemoryGraph) (config : LoadConfig) (source target : ExternalId) : List Float :=
  if config.undirected then graph.seenWeights config .both source target
  else graph.weightsBetween config source target

section Sighted

variable {node : NodeId} {own : ExternalId} (h : graph.Sound) (hmap : scan.idMap.Sound)
  (htarget : scan.idMap.toExternal target = some other)

include h hmap htarget

/-- **A target is seen** if a relationship connects it. -/
theorem leadingTo_ne_nil_iff (type : Option String) :
    scan.leadingTo target (graph.relationshipsOf own scan.kind.direction type) ≠ []
      ↔ graph.Connects type scan.kind.direction own other := by
  rw [h.relationshipsOf_eq]
  cases scan.kind.direction with
  | outgoing => exact leadingTo_leaving_ne_nil_iff hmap htarget type own
  | incoming => exact leadingTo_arriving_ne_nil_iff hmap htarget type own
  | both =>
    show scan.leadingTo target (graph.leaving type own ++ graph.arriving type own) ≠ [] ↔ _
    rw [ListScan.leadingTo_append, ne_eq, List.append_eq_nil_iff, not_and_or]
    exact or_congr (leadingTo_leaving_ne_nil_iff hmap htarget type own)
      (leadingTo_arriving_ne_nil_iff hmap htarget type own)

/-- **The weights that are seen.** -/
theorem weights_sighted (hnode : scan.idMap.toExternal node = some own) {config : LoadConfig}
    {name : String} (hname : config.weightProperty = some name)
    (hdefault : scan.defaultWeight = config.defaultWeight) :
    (scan.leadingTo target (scan.sightings node []
        (graph.relationshipsOf own scan.kind.direction config.relationshipType))).map
        (fun relationship => scan.weightIn graph.property name relationship.id)
      = graph.seenWeights config scan.kind.direction own other := by
  have hleaving : (scan.leadingTo target (graph.leaving config.relationshipType own)).map
      (fun relationship => scan.weightIn graph.property name relationship.id)
      = graph.weightsBetween config own other := weights_leaving hmap htarget hname hdefault own
  have harriving : (scan.leadingTo target (graph.arriving config.relationshipType own)).map
      (fun relationship => scan.weightIn graph.property name relationship.id)
      = graph.weightsBetween config other own := weights_arriving hmap htarget hname hdefault own
  rw [h.relationshipsOf_eq]
  cases hkind : scan.kind with
  | outgoing weighted =>
    rw [ListScan.sightings_of_directed (by rw [hkind]; rfl)]
    exact hleaving
  | symmetric =>
    rw [ListScan.sightings_of_directed (by rw [hkind]; rfl)]
    exact hleaving
  | incoming weighted =>
    rw [ListScan.sightings_of_directed (by rw [hkind]; rfl)]
    exact harriving
  | undirected weighted =>
    have hundirected : scan.kind.isUndirected = true := by
      rw [hkind]
      rfl
    show (scan.leadingTo target (scan.sightings node [] (graph.leaving _ own ++ graph.arriving _ own))).map _
      = graph.weightsBetween config own other
        ++ if own = other then [] else graph.weightsBetween config other own
    have hcounted : scan.leadingTo target ((graph.arriving config.relationshipType own).filter
        fun relationship => relationship.other ≠ own)
        = if own = other then [] else scan.leadingTo target (graph.arriving config.relationshipType own) := by
      unfold ListScan.leadingTo
      rw [List.filter_filter]
      simp only [toMapped_eq_iff hmap htarget]
      split
      · next heq =>
        rw [List.filter_eq_nil_iff]
        simp [heq]
      · next hne =>
        -- what leads to another node is no self-loop
        apply List.filter_congr
        intro relationship _
        by_cases hother : relationship.other = other
        · simp [hother, Ne.symm hne]
        · simp [hother]
    rw [sightings_of_both hmap hnode hundirected, ListScan.leadingTo_append, hcounted, List.map_append,
      hleaving]
    split
    · rfl
    · rw [harriving]

end Sighted

end MemoryGraph

end CompactGraph
