/-
# What the scan of a node counts

What a scan of a node of a graph in memory counts can be told by the relationships of the graph alone
(`MemoryGraph.countsAt`).  The node sights the relationships that start or end at it, and a self-loop
once.  The sightings of nodes that are not loaded are unmapped.  The others are asked for their weights,
but where the first weight of a pair is kept, a sighting of the same node as the one before is passed
over.
-/
import CompactGraph.Proofs.Source.Sighted

namespace CompactGraph

/-! ## Missing weights -/

/-- Whether a value is a finite number. -/
def PropertyValue.isFiniteNumber : PropertyValue → Bool
  | integer _ => true
  | float value => value.isFinite
  | text _ | boolean _ => false

theorem PropertyValue.isNone_asWeight (value : PropertyValue) :
    value.asWeight.isNone = !value.isFiniteNumber := by
  cases value with
  | integer value => rfl
  | float value => cases h : value.isFinite <;> simp [asWeight, isFiniteNumber, h]
  | text value => rfl
  | boolean value => rfl

/-- Whether a load that reads weights finds none in a relationship: the property is absent or not a finite
number. -/
def LoadConfig.lacksWeight (config : LoadConfig) (record : RelationshipRecord) : Bool :=
  config.weightProperty.any fun name =>
    !(record.properties.find? name).any PropertyValue.isFiniteNumber

/-! ## Sightings -/

/-- A relationship as a node sights it. -/
structure Sighting where
  /-- The endpoint that is not the node. -/
  other : ExternalId
  record : RelationshipRecord

namespace MemoryGraph

/-- The relationships of a type, in order of insertion. -/
def typed (graph : MemoryGraph) (type : Option String) : List RelationshipRecord :=
  graph.relationships.toList.filter (hasType type)

/-- The relationships that a node sights from one of their ends. -/
def seenFrom (graph : MemoryGraph) (type : Option String) (near far : RelationshipRecord → ExternalId)
    (own : ExternalId) : List Sighting :=
  ((graph.typed type).filter fun record => near record = own).map fun record => ⟨far record, record⟩

/-- The relationships that a node sights in a direction.  In both directions a self-loop is sighted as it
starts. -/
def sightingsAt (graph : MemoryGraph) (type : Option String) (direction : Direction)
    (own : ExternalId) : List Sighting :=
  let starting := graph.seenFrom type RelationshipRecord.source RelationshipRecord.target own
  let ending := graph.seenFrom type RelationshipRecord.target RelationshipRecord.source own
  match direction with
  | .outgoing => starting
  | .incoming => ending
  | .both => starting ++ ending.filter fun sighting => sighting.other ≠ own

/-- The sightings of a node whose weights are read: those of loaded nodes, and where the first weight of a
pair is kept only those of another node than the one before. -/
def weighed (graph : MemoryGraph) (config : LoadConfig) (sightings : List Sighting) : List Sighting :=
  let mapped := sightings.filter fun sighting => sighting.other ∈ graph.nodesWith config.nodeLabel
  if config.policy = .keepFirst then mapped.destutter fun before next => before.other ≠ next.other
  else mapped

/-- **What the scan of a node counts.** -/
def countsAt (graph : MemoryGraph) (config : LoadConfig) (kind : ScanKind) (own : ExternalId) :
    ScanCounts :=
  let sightings := graph.sightingsAt config.relationshipType kind.direction own
  { scanned := sightings.length
    unmapped := sightings.countP fun sighting => sighting.other ∉ graph.nodesWith config.nodeLabel
    fallback :=
      if kind.isWeighted then
        (graph.weighed config sightings).countP fun sighting => config.lacksWeight sighting.record
      else 0 }

/-! ## References and what they refer to -/

/-- What a reference refers to. -/
def sighted (graph : MemoryGraph) (relationship : RelationshipRef) : Sighting :=
  ⟨relationship.other, graph.relationships[relationship.id]?.getD default⟩

variable {graph : MemoryGraph} {type : Option String} {own : ExternalId}

/-- What references to relationships that satisfy a condition refer to. -/
theorem map_sighted_filter_ofType (graph : MemoryGraph) (type : Option String)
    (suits : RelationshipRecord → Bool) (other : RelationshipRecord → ExternalId) :
    (((graph.ofType type).filter fun both => suits both.1).map fun both =>
        (⟨other both.1, both.2⟩ : RelationshipRef)).map graph.sighted
      = ((graph.typed type).filter suits).map fun record => ⟨other record, record⟩ := by
  have hrecords := map_filter_ofType graph type suits fun record =>
    (⟨other record, record⟩ : Sighting)
  rw [List.map_map, typed, List.filter_filter]
  simp only [Bool.and_comm] at hrecords ⊢
  rw [← hrecords]
  apply List.map_congr_left
  intro both hboth
  have hget := (mem_ofType_iff.mp (List.mem_of_mem_filter hboth)).1
  simp only [Function.comp_apply, sighted, hget, Option.getD_some]

theorem map_sighted_leaving (graph : MemoryGraph) (type : Option String) (own : ExternalId) :
    (graph.leaving type own).map graph.sighted
      = graph.seenFrom type RelationshipRecord.source RelationshipRecord.target own :=
  map_sighted_filter_ofType graph type (fun record => record.source = own) RelationshipRecord.target

theorem map_sighted_arriving (graph : MemoryGraph) (type : Option String) (own : ExternalId) :
    (graph.arriving type own).map graph.sighted
      = graph.seenFrom type RelationshipRecord.target RelationshipRecord.source own :=
  map_sighted_filter_ofType graph type (fun record => record.target = own) RelationshipRecord.source

/-- Without a weight in the store a scan falls back on the default one. -/
theorem isNone_weight {config : LoadConfig} {name : String} (hname : config.weightProperty = some name)
    (relationship : RelationshipRef) :
    ((graph.property relationship.id name).bind PropertyValue.asWeight).isNone
      = config.lacksWeight (graph.sighted relationship).record := by
  unfold LoadConfig.lacksWeight
  rw [hname, Option.any_some, sighted, property]
  cases graph.relationships[relationship.id]? with
  | none => rfl
  | some record =>
    show ((record.properties.find? name).bind PropertyValue.asWeight).isNone
      = !(record.properties.find? name).any PropertyValue.isFiniteNumber
    cases record.properties.find? name with
    | none => rfl
    | some value => exact value.isNone_asWeight

/-! ## Readings -/

section Reading

variable {scan : ListScan} {node : NodeId} {config : LoadConfig} (h : graph.Sound)
  (hmap : scan.idMap.Sound)

include h hmap

/-- **A scan counts the sightings of the node.** -/
theorem map_sighted_sightings (hnode : scan.idMap.toExternal node = some own) (type : Option String) :
    (scan.sightings node [] (graph.relationshipsOf own scan.kind.direction type)).map graph.sighted
      = graph.sightingsAt type scan.kind.direction own := by
  rw [h.relationshipsOf_eq]
  cases hundirected : scan.kind.isUndirected with
  | false =>
    rw [ListScan.sightings_of_directed hundirected]
    cases hkind : scan.kind with
    | outgoing weighted => exact graph.map_sighted_leaving type own
    | symmetric => exact graph.map_sighted_leaving type own
    | incoming weighted => exact graph.map_sighted_arriving type own
    | undirected weighted =>
      rw [hkind] at hundirected
      cases hundirected
  | true =>
    have hdirection : scan.kind.direction = .both := by
      cases hkind : scan.kind with
      | undirected weighted => rfl
      | outgoing weighted | incoming weighted | symmetric =>
        rw [hkind] at hundirected
        cases hundirected
    rw [hdirection]
    show (scan.sightings node [] (graph.leaving type own ++ graph.arriving type own)).map graph.sighted
      = graph.sightingsAt type .both own
    rw [sightings_of_both hmap hnode hundirected, List.map_append, map_sighted_leaving, sightingsAt,
      ← map_sighted_arriving, List.filter_map]
    rfl

end Reading

/-- A scan that a load of a graph makes. -/
structure ScansFor (graph : MemoryGraph) (config : LoadConfig) (scan : ListScan) : Prop where
  sound : scan.idMap.Sound
  ids : scan.idMap.externals.toList = graph.nodesWith config.nodeLabel
  weightProperty : scan.weightProperty = config.weightProperty
  policy : scan.policy = config.policy

namespace ScansFor

variable {scan : ListScan} {node : NodeId} {config : LoadConfig} (hscan : graph.ScansFor config scan)

include hscan

/-- The loaded nodes have numbers. -/
theorem isMapped_eq (id : ExternalId) :
    (scan.idMap.toMapped id).isMapped = decide (id ∈ graph.nodesWith config.nodeLabel) := by
  rw [Bool.eq_iff_iff, decide_eq_true_eq, hscan.sound.isMapped_toMapped_iff, hscan.ids]

/-- Repeated sightings are passed over where the first weight counts, and where none is read. -/
theorem skipsRepeats_eq {name : String} (hproperty : scan.property = some name) :
    scan.skipsRepeats = decide (config.policy = .keepFirst) := by
  unfold ListScan.skipsRepeats
  rw [hproperty, hscan.policy, DuplicatePolicy.needsLater]
  cases config.policy <;> rfl

/-- **The sightings whose weights are read** are those that are kept. -/
theorem exists_kept {name : String} (hproperty : scan.property = some name)
    (sightings : List RelationshipRef) : ∃ weighed : List RelationshipRef,
      weighed.map graph.sighted = graph.weighed config (sightings.map graph.sighted) ∧
      scan.kept sightings
        = weighed.map fun relationship => (scan.idMap.toMapped relationship.other, relationship.id) := by
  set arrive : RelationshipRef → NodeId × RelationshipId :=
    fun relationship => (scan.idMap.toMapped relationship.other, relationship.id) with harrive
  set mapped := sightings.filter fun relationship => (arrive relationship).1.isMapped with hmapped
  have harrivals : scan.arrivals sightings = mapped.map arrive := List.filter_map ..
  have hsighted : (sightings.map graph.sighted).filter (fun sighting =>
      sighting.other ∈ graph.nodesWith config.nodeLabel) = mapped.map graph.sighted := by
    rw [List.filter_map, hmapped]
    congr 2
    funext relationship
    exact (hscan.isMapped_eq relationship.other).symm
  have hmem : ∀ relationship ∈ mapped, (arrive relationship).1.isMapped = true :=
    fun relationship hrelationship => (List.mem_filter.mp hrelationship).2
  unfold ListScan.kept weighed
  rw [hscan.skipsRepeats_eq hproperty, harrivals, hsighted]
  by_cases hfirst : config.policy = .keepFirst
  · -- endpoints repeat exactly where their numbers do
    rw [if_pos hfirst, decide_eq_true hfirst, ListScan.keptAfter_true]
    · refine ⟨mapped.destutter fun before next => before.other ≠ next.other, ?_, ?_⟩
      · exact List.map_destutter fun before _ next _ => Iff.rfl
      · refine (List.map_destutter fun before hbefore next _ => ?_).symm
        have hexternal := (hscan.sound.toMapped_eq_iff (hmem before hbefore)).mp rfl
        rw [ne_comm, ne_eq, ← toMapped_eq_iff hscan.sound hexternal, ← ne_eq, ne_comm]
    · intro arrival harrival
      obtain ⟨relationship, hrelationship, rfl⟩ := List.mem_map.mp harrival
      exact NodeId.isMapped_iff.mp (hmem relationship hrelationship)
  · rw [if_neg hfirst, decide_eq_false hfirst, ListScan.keptAfter_false]
    exact ⟨mapped, rfl, rfl⟩

/-- **The counts of a reading.** -/
theorem counts_of_reading (h : graph.Sound) (hnode : scan.idMap.toExternal node = some own)
    {reading : NodeReading}
    (hreading : scan.reading (fun id name => .ok (graph.property id name)) node
      (graph.relationshipsOf own scan.kind.direction config.relationshipType) = .ok reading) :
    reading.counts = graph.countsAt config scan.kind own := by
  obtain ⟨weights, hweights, _, _, hcounts⟩ := ListScan.reading_eq_ok hreading
  set sightings := scan.sightings node []
    (graph.relationshipsOf own scan.kind.direction config.relationshipType)
  have hsighted : sightings.map graph.sighted
      = graph.sightingsAt config.relationshipType scan.kind.direction own :=
    map_sighted_sightings h hscan.sound hnode config.relationshipType
  rw [hcounts, countsAt, ← hsighted, ListScan.countsOf, ScanCounts.mk.injEq]
  refine ⟨(List.length_map _).symm, ?_, ?_⟩
  · rw [List.countP_map]
    apply List.countP_congr
    intro relationship _
    show (!(scan.idMap.toMapped relationship.other).isMapped) = true
      ↔ decide (relationship.other ∉ graph.nodesWith config.nodeLabel) = true
    rw [hscan.isMapped_eq, Bool.not_eq_true', decide_eq_false_iff_not, decide_eq_true_eq]
  · cases hproperty : scan.property with
    | none =>
      rw [ListScan.weightsOf_unread hproperty] at hweights
      cases hweights
      -- either the scan reads no weights, or the load does not
      unfold ListScan.property at hproperty
      split at hproperty
      · rw [hscan.weightProperty] at hproperty
        simp [LoadConfig.lacksWeight, hproperty]
      · next hunweighted => rw [if_neg hunweighted, List.countP_nil]
    | some name =>
      rw [ListScan.weightsOf_eq (fun _ _ => rfl) hproperty] at hweights
      cases hweights
      obtain ⟨weighed, hweighed, hkept⟩ := hscan.exists_kept hproperty sightings
      unfold ListScan.property at hproperty
      split at hproperty
      case isFalse => cases hproperty
      next hweighted =>
      rw [hscan.weightProperty] at hproperty
      rw [if_pos hweighted, ← hweighed, hkept, List.map_map, List.countP_map, List.countP_map]
      apply List.countP_congr
      intro relationship _
      exact Bool.eq_iff_iff.mp (isNone_weight hproperty relationship)

end ScansFor

end MemoryGraph

end CompactGraph
