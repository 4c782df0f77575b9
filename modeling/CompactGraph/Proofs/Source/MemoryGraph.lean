/-
# Graphs in memory

Whatever is written into a graph in memory, each of its nodes is stored once and knows the numbers of
the relationships that start and end at it, in order of insertion (`MemoryGraph.Sound`).  So what the
graph answers about the relationships of a node can be read off the relationships alone.
-/
import CompactGraph.Proofs.Adjacency.Lists
import CompactGraph.Source.MemoryGraph

namespace CompactGraph

namespace MemoryGraph

/-! ## Writes -/

/-- What can be written into a graph. -/
inductive Write where
  | addNode (record : NodeRecord)
  | insert (record : RelationshipRecord)
  | setProperty (id : RelationshipId) (name : String) (value : PropertyValue)
  | withoutDegreeCounts

/-- The graph after a write.  A write that fails changes nothing. -/
def write (graph : MemoryGraph) : Write → MemoryGraph
  | .addNode record => graph.addNode record
  | .insert record =>
    match graph.insert record with
    | .ok (_, written) => written
    | .error _ => graph
  | .setProperty id name value =>
    match graph.setProperty id name value with
    | .ok written => written
    | .error _ => graph
  | .withoutDegreeCounts => graph.withoutDegreeCounts

/-- The graph of a sequence of writes. -/
def ofWrites (writes : List Write) : MemoryGraph := writes.foldl write empty

/-- A write adds one node at most, and one relationship at most. -/
theorem size_write_le (graph : MemoryGraph) (new : Write) :
    (graph.write new).nodes.size ≤ graph.nodes.size + 1 ∧
      (graph.write new).relationships.size ≤ graph.relationships.size + 1 := by
  cases new with
  | addNode record =>
    rw [write, addNode]
    split
    · exact ⟨by rw [Array.size_modify]; exact Nat.le_succ _, Nat.le_succ _⟩
    · exact ⟨by rw [Array.size_push], Nat.le_succ _⟩
  | insert record =>
    rw [write, insert]
    cases graph.positions[record.source]? with
    | none => exact ⟨Nat.le_succ _, Nat.le_succ _⟩
    | some source =>
      cases graph.positions[record.target]? with
      | none => exact ⟨Nat.le_succ _, Nat.le_succ _⟩
      | some target =>
        refine ⟨?_, by rw [Array.size_push]⟩
        rw [Array.size_modify, Array.size_modify]
        exact Nat.le_succ _
  | setProperty id name value =>
    rw [write, setProperty]
    by_cases hid : id < graph.relationships.size
    · rw [if_pos hid]
      exact ⟨Nat.le_succ _, by rw [Array.size_modify]; exact Nat.le_succ _⟩
    · rw [if_neg hid]
      exact ⟨Nat.le_succ _, Nat.le_succ _⟩
  | withoutDegreeCounts => exact ⟨Nat.le_succ _, Nat.le_succ _⟩

theorem size_foldl_write_le (writes : List Write) :
    ∀ graph : MemoryGraph, (writes.foldl write graph).nodes.size ≤ graph.nodes.size + writes.length ∧
      (writes.foldl write graph).relationships.size ≤ graph.relationships.size + writes.length := by
  induction writes with
  | nil => exact fun graph => ⟨Nat.le_refl _, Nat.le_refl _⟩
  | cons new writes ih =>
    intro graph
    obtain ⟨hnodes, hrelationships⟩ := ih (graph.write new)
    obtain ⟨hnode, hrelationship⟩ := size_write_le graph new
    rw [List.foldl_cons, List.length_cons]
    exact ⟨by omega, by omega⟩

/-- A graph has no more nodes, and no more relationships, than were written. -/
theorem size_ofWrites_le (writes : List Write) :
    (ofWrites writes).nodes.size ≤ writes.length ∧
      (ofWrites writes).relationships.size ≤ writes.length := by
  obtain ⟨hnodes, hrelationships⟩ := size_foldl_write_le writes empty
  unfold ofWrites
  exact ⟨hnodes.trans (Nat.zero_add _).le, hrelationships.trans (Nat.zero_add _).le⟩

theorem length_nodesWith_le (graph : MemoryGraph) (label : Option String) :
    (graph.nodesWith label).length ≤ graph.nodes.size := by
  rw [nodesWith, List.length_map, ← Array.length_toList]
  exact List.length_filter_le ..

/-! ## Numbers of relationships -/

/-- The positions at which an id stands. -/
def numbersOf (endpoints : List ExternalId) (id : ExternalId) : List RelationshipId :=
  (endpoints.zipIdx.filter fun both => both.1 = id).map Prod.snd

theorem numbersOf_concat (endpoints : List ExternalId) (new id : ExternalId) :
    numbersOf (endpoints ++ [new]) id
      = numbersOf endpoints id ++ if new = id then [endpoints.length] else [] := by
  rw [numbersOf, List.zipIdx_append, List.filter_append, List.map_append, numbersOf]
  congr 1
  rw [List.zipIdx_singleton, Nat.zero_add]
  by_cases hid : new = id
  · rw [if_pos hid, List.filter_cons_of_pos (by simpa using hid)]
    rfl
  · rw [if_neg hid, List.filter_cons_of_neg (by simpa using hid)]
    rfl

theorem numbersOf_eq_nil {endpoints : List ExternalId} {id : ExternalId} (h : id ∉ endpoints) :
    numbersOf endpoints id = [] := by
  unfold numbersOf
  rw [List.map_eq_nil_iff, List.filter_eq_nil_iff]
  rintro ⟨other, position⟩ hmem heq
  obtain rfl : other = id := by simpa using heq
  exact h (List.mem_of_getElem? (List.mem_zipIdx_iff_getElem?.mp hmem))

/-- The sources of all relationships. -/
def sources (graph : MemoryGraph) : List ExternalId :=
  graph.relationships.toList.map RelationshipRecord.source

/-- The targets of all relationships. -/
def targets (graph : MemoryGraph) : List ExternalId :=
  graph.relationships.toList.map RelationshipRecord.target

/-! ## The invariant -/

/-- The invariant of graphs in memory. -/
structure Sound (graph : MemoryGraph) : Prop where
  isOpen : graph.isOpen = true
  positions : ∀ id position, graph.positions[id]? = some position ↔
    graph.nodes[position]?.map StoredNode.id = some id
  outgoing : ∀ node ∈ graph.nodes, node.outgoing.toList = numbersOf graph.sources node.id
  incoming : ∀ node ∈ graph.nodes, node.incoming.toList = numbersOf graph.targets node.id
  endpoints : ∀ id, id ∈ graph.sources ∨ id ∈ graph.targets → id ∈ graph.positions

theorem sound_empty : empty.Sound where
  isOpen := rfl
  positions id position := by simp [empty]
  outgoing node hnode := by simp [empty] at hnode
  incoming node hnode := by simp [empty] at hnode
  endpoints id hid := by simp [sources, targets, empty] at hid

/-- Changing the node at the position of an id is changing the node with that id. -/
theorem modify_eq_map {nodes : Array StoredNode} {id : ExternalId} {position : Nat}
    (h : ∀ other : Nat, nodes[other]?.map StoredNode.id = some id ↔ other = position)
    (f : StoredNode → StoredNode) :
    nodes.modify position f = nodes.map fun node => if node.id = id then f node else node := by
  apply Array.ext_getElem?
  intro other
  rw [Array.getElem?_modify, Array.getElem?_map]
  cases hnode : nodes[other]? with
  | none => simp
  | some node =>
    have hiff : node.id = id ↔ other = position := by
      rw [← h other, hnode]
      simp
    by_cases hother : other = position
    · rw [if_pos hother.symm, Option.map_some, Option.map_some, if_pos (hiff.mpr hother)]
    · rw [if_neg (Ne.symm hother), Option.map_some, if_neg fun hid => hother (hiff.mp hid)]

section Steps

variable {graph : MemoryGraph}

theorem mem_positions_iff {id : ExternalId} :
    id ∈ graph.positions ↔ ∃ position, graph.positions[id]? = some position := by
  rw [Std.HashMap.mem_iff_isSome_getElem?, Option.isSome_iff_exists]

/-- The position of a stored id is the one place where it stands. -/
theorem Sound.position_iff (h : graph.Sound) {id : ExternalId} {position : Nat}
    (hid : graph.positions[id]? = some position) (other : Nat) :
    graph.nodes[other]?.map StoredNode.id = some id ↔ other = position := by
  rw [← h.positions, hid, Option.some.injEq, eq_comm]

/-- An id that is not stored is no endpoint. -/
theorem Sound.not_mem_endpoints (h : graph.Sound) {id : ExternalId} (hid : id ∉ graph.positions) :
    id ∉ graph.sources ∧ id ∉ graph.targets :=
  ⟨fun hmem => hid (h.endpoints id (Or.inl hmem)), fun hmem => hid (h.endpoints id (Or.inr hmem))⟩

/-- Changing nodes, but neither their ids nor the relationships that they know, keeps the invariant. -/
theorem Sound.map_nodes (h : graph.Sound) {change : StoredNode → StoredNode}
    (hid : ∀ node, (change node).id = node.id)
    (hout : ∀ node ∈ graph.nodes, (change node).outgoing = node.outgoing)
    (hin : ∀ node ∈ graph.nodes, (change node).incoming = node.incoming) :
    { graph with nodes := graph.nodes.map change }.Sound where
  isOpen := h.isOpen
  positions id position := by
    rw [h.positions, Array.getElem?_map, Option.map_map]
    have hsame : StoredNode.id ∘ change = StoredNode.id := funext hid
    rw [hsame]
  outgoing node hnode := by
    obtain ⟨old, hold, rfl⟩ := Array.mem_map.mp hnode
    rw [hout old hold, hid]
    exact h.outgoing old hold
  incoming node hnode := by
    obtain ⟨old, hold, rfl⟩ := Array.mem_map.mp hnode
    rw [hin old hold, hid]
    exact h.incoming old hold
  endpoints := h.endpoints

/-- **Adding a node** keeps the invariant. -/
theorem Sound.addNode (h : graph.Sound) (record : NodeRecord) : (graph.addNode record).Sound := by
  rw [MemoryGraph.addNode]
  split
  · -- a known node takes new labels and keeps its place
    next position hposition =>
    rw [modify_eq_map (h.position_iff hposition)]
    refine h.map_nodes (fun node => ?_) (fun node _ => ?_) fun node _ => ?_
    · split <;> rfl
    · split <;> rfl
    · split <;> rfl
  · -- a new node comes last, and no relationship ends there yet
    next hnone =>
    have hfresh : record.id ∉ graph.positions := by
      rw [mem_positions_iff, hnone]
      simp
    obtain ⟨hsource, htarget⟩ := h.not_mem_endpoints hfresh
    refine ⟨h.isOpen, fun id position => ?_, fun node hnode => ?_, fun node hnode => ?_,
      fun other hother => ?_⟩
    · show (graph.positions.insert record.id graph.nodes.size)[id]? = _ ↔ _
      rw [Std.HashMap.getElem?_insert, Array.getElem?_push]
      have hlast : graph.nodes[graph.nodes.size]? = none := Array.getElem?_eq_none (Nat.le_refl _)
      have hold := h.positions id position
      by_cases hid : record.id = id
      · subst hid
        rw [hnone] at hold
        by_cases hsize : position = graph.nodes.size
        · simp [hsize]
        · simp [hsize, Ne.symm hsize, ← hold]
      · by_cases hsize : position = graph.nodes.size
        · rw [hsize, hlast] at hold
          simp [hid, hsize, hold]
        · simp [hid, hsize, hold]
    · rcases Array.mem_push.mp hnode with hold | rfl
      · exact h.outgoing node hold
      · exact (numbersOf_eq_nil hsource).symm
    · rcases Array.mem_push.mp hnode with hold | rfl
      · exact h.incoming node hold
      · exact (numbersOf_eq_nil htarget).symm
    · exact Std.HashMap.mem_insert.mpr (Or.inr (h.endpoints other hother))

/-- A node after a relationship was inserted: its endpoints note the number of the relationship. -/
def noted (record : RelationshipRecord) (id : RelationshipId) (node : StoredNode) : StoredNode :=
  { node with
    outgoing := if node.id = record.source then node.outgoing.push id else node.outgoing
    incoming := if node.id = record.target then node.incoming.push id else node.incoming }

/-- What inserting a relationship comes to. -/
theorem Sound.insert_eq (h : graph.Sound) {record : RelationshipRecord} {id : RelationshipId}
    {written : MemoryGraph} (hinsert : graph.insert record = .ok (id, written)) :
    record.source ∈ graph.positions ∧ record.target ∈ graph.positions ∧
      written = { graph with
        nodes := graph.nodes.map (noted record graph.relationships.size)
        relationships := graph.relationships.push record } := by
  rw [MemoryGraph.insert] at hinsert
  split at hinsert
  · next source target hsource htarget =>
    cases hinsert
    refine ⟨mem_positions_iff.mpr ⟨source, hsource⟩, mem_positions_iff.mpr ⟨target, htarget⟩, ?_⟩
    -- noting the number at the source moves no node
    have hids : ∀ other : Nat, (graph.nodes.map fun node =>
        if node.id = record.source then
          { node with outgoing := node.outgoing.push graph.relationships.size }
        else node)[other]?.map StoredNode.id = graph.nodes[other]?.map StoredNode.id := by
      intro other
      rw [Array.getElem?_map, Option.map_map]
      congr 1
      funext node
      show StoredNode.id (if _ then _ else _) = _
      split <;> rfl
    congr 1
    rw [modify_eq_map (h.position_iff hsource), modify_eq_map fun other => by
      rw [hids]
      exact h.position_iff htarget other, Array.map_map]
    congr 1
    funext node
    simp only [Function.comp_apply, noted]
    by_cases hout : node.id = record.source
    · by_cases hin : node.id = record.target
      · simp only [if_pos hout, if_pos hin]
      · simp only [if_pos hout, if_neg hin]
    · by_cases hin : node.id = record.target
      · simp only [if_neg hout, if_pos hin]
      · simp only [if_neg hout, if_neg hin]
  · cases hinsert

/-- **Inserting a relationship** keeps the invariant. -/
theorem Sound.insert (h : graph.Sound) {record : RelationshipRecord} {id : RelationshipId}
    {written : MemoryGraph} (hinsert : graph.insert record = .ok (id, written)) : written.Sound := by
  obtain ⟨hsource, htarget, rfl⟩ := h.insert_eq hinsert
  have hsources : (graph.relationships.push record).toList.map RelationshipRecord.source
      = graph.sources ++ [record.source] := by
    rw [Array.toList_push, List.map_append]
    rfl
  have htargets : (graph.relationships.push record).toList.map RelationshipRecord.target
      = graph.targets ++ [record.target] := by
    rw [Array.toList_push, List.map_append]
    rfl
  refine ⟨h.isOpen, fun id position => ?_, fun node hnode => ?_, fun node hnode => ?_,
    fun other hother => ?_⟩
  · rw [h.positions, Array.getElem?_map, Option.map_map]
    rfl
  · obtain ⟨old, hold, rfl⟩ := Array.mem_map.mp hnode
    show (if old.id = record.source then _ else _ : Array RelationshipId).toList
      = numbersOf ((graph.relationships.push record).toList.map RelationshipRecord.source) old.id
    rw [hsources, numbersOf_concat, ← h.outgoing old hold, sources, List.length_map,
      Array.length_toList]
    by_cases hid : old.id = record.source
    · rw [if_pos hid, if_pos hid.symm, Array.toList_push]
    · rw [if_neg hid, if_neg (Ne.symm hid), List.append_nil]
  · obtain ⟨old, hold, rfl⟩ := Array.mem_map.mp hnode
    show (if old.id = record.target then _ else _ : Array RelationshipId).toList
      = numbersOf ((graph.relationships.push record).toList.map RelationshipRecord.target) old.id
    rw [htargets, numbersOf_concat, ← h.incoming old hold, targets, List.length_map,
      Array.length_toList]
    by_cases hid : old.id = record.target
    · rw [if_pos hid, if_pos hid.symm, Array.toList_push]
    · rw [if_neg hid, if_neg (Ne.symm hid), List.append_nil]
  · rw [sources, targets, hsources, htargets, List.mem_append, List.mem_append, List.mem_singleton,
      List.mem_singleton] at hother
    rcases hother with (hold | rfl) | (hold | rfl)
    · exact h.endpoints other (Or.inl hold)
    · exact hsource
    · exact h.endpoints other (Or.inr hold)
    · exact htarget

/-- Properties have nothing to do with endpoints. -/
theorem map_modify_endpoint (endpoint : RelationshipRecord → ExternalId)
    (h : ∀ record properties, endpoint { record with properties } = endpoint record)
    (relationships : Array RelationshipRecord) (id : RelationshipId) (name : String)
    (value : PropertyValue) :
    (relationships.modify id fun record =>
      { record with properties := record.properties.insert name value }).toList.map endpoint
      = relationships.toList.map endpoint := by
  apply List.ext_getElem?
  intro position
  rw [List.getElem?_map, List.getElem?_map, Array.getElem?_toList, Array.getElem?_toList,
    Array.getElem?_modify]
  split
  · rw [Option.map_map]
    congr 1
    funext record
    exact h record _
  · rfl

/-- **Setting a property** keeps the invariant. -/
theorem Sound.setProperty (h : graph.Sound) {id : RelationshipId} {name : String}
    {value : PropertyValue} {written : MemoryGraph}
    (hset : graph.setProperty id name value = .ok written) : written.Sound := by
  have hsources := map_modify_endpoint RelationshipRecord.source (fun _ _ => rfl)
    graph.relationships id name value
  have htargets := map_modify_endpoint RelationshipRecord.target (fun _ _ => rfl)
    graph.relationships id name value
  rw [MemoryGraph.setProperty] at hset
  split at hset
  · cases hset
    refine ⟨h.isOpen, h.positions, fun node hnode => ?_, fun node hnode => ?_, fun other hother => ?_⟩
    · rw [h.outgoing node hnode, sources, sources, hsources]
    · rw [h.incoming node hnode, targets, targets, htargets]
    · unfold sources at hother
      rw [targets, hsources, htargets] at hother
      exact h.endpoints other hother
  · cases hset

/-- **Writes** keep the invariant. -/
theorem Sound.write (h : graph.Sound) (write : Write) : (graph.write write).Sound := by
  cases write with
  | addNode record => exact h.addNode record
  | insert record =>
    rw [MemoryGraph.write]
    split
    · next hinsert => exact h.insert hinsert
    · exact h
  | setProperty id name value =>
    rw [MemoryGraph.write]
    split
    · next hset => exact h.setProperty hset
    · exact h
  | withoutDegreeCounts => exact ⟨h.isOpen, h.positions, h.outgoing, h.incoming, h.endpoints⟩

end Steps

/-- **Every graph that can be written** satisfies the invariant. -/
theorem sound_ofWrites (writes : List Write) : (ofWrites writes).Sound :=
  List.foldlRecOn writes write sound_empty fun _ h write _ => h.write write

/-! ## Reading -/

/-- The relationships that pass a filter on types, with their numbers. -/
def ofType (graph : MemoryGraph) (type : Option String) : List (RelationshipRecord × RelationshipId) :=
  graph.relationships.toList.zipIdx.filter fun both => hasType type both.1

/-- The relationships that start at a node, seen from there. -/
def leaving (graph : MemoryGraph) (type : Option String) (id : ExternalId) : List RelationshipRef :=
  ((graph.ofType type).filter fun both => both.1.source = id).map fun both => ⟨both.1.target, both.2⟩

/-- The relationships that end at a node, seen from there. -/
def arriving (graph : MemoryGraph) (type : Option String) (id : ExternalId) : List RelationshipRef :=
  ((graph.ofType type).filter fun both => both.1.target = id).map fun both => ⟨both.1.source, both.2⟩

variable {graph : MemoryGraph}

theorem mem_ofType_iff {type : Option String} {both : RelationshipRecord × RelationshipId} :
    both ∈ graph.ofType type ↔
      graph.relationships[both.2]? = some both.1 ∧ hasType type both.1 = true := by
  unfold ofType
  rw [List.mem_filter, List.mem_zipIdx_iff_getElem?, Array.getElem?_toList]

theorem mem_relationships_of_mem_ofType {type : Option String}
    {both : RelationshipRecord × RelationshipId} (h : both ∈ graph.ofType type) :
    both.1 ∈ graph.relationships.toList :=
  Array.mem_toList_iff.mpr (Array.mem_of_getElem? (mem_ofType_iff.mp h).1)

theorem references_eq {ids : Array RelationshipId} (endpoint : RelationshipRecord → ExternalId)
    {id : ExternalId} (hids : ids.toList = numbersOf (graph.relationships.toList.map endpoint) id)
    (type : Option String) (other : RelationshipRecord → ExternalId) :
    graph.references ids type other
      = ((graph.ofType type).filter fun both => endpoint both.1 = id).map
        fun both => ⟨other both.1, both.2⟩ := by
  have hget : ∀ both ∈ graph.relationships.toList.zipIdx.filter (fun both => endpoint both.1 = id),
      graph.relationships[both.2]? = some both.1 := by
    intro both hboth
    rw [← Array.getElem?_toList]
    exact List.mem_zipIdx_iff_getElem?.mp (List.mem_of_mem_filter hboth)
  unfold references
  rw [hids, numbersOf, List.zipIdx_map, List.filter_map, List.map_map, List.filterMap_map]
  refine (List.filterMap_congr (g := fun both : RelationshipRecord × RelationshipId =>
    if hasType type both.1 then some ⟨other both.1, both.2⟩ else none) fun both hboth => ?_).trans ?_
  · simp only [Function.comp_apply, Prod.map_snd, id_eq, hget both hboth]
  rw [ofType, ← List.filterMap_eq_map, List.filterMap_filter, List.filterMap_filter,
    List.filterMap_filter]
  congr 1
  funext both
  by_cases htype : hasType type both.1 = true
  · simp [htype]
  · simp [htype]

/-- A node that is stored is found. -/
theorem Sound.find?_eq_some_iff (h : graph.Sound) {id : ExternalId} {node : StoredNode} :
    graph.find? id = some node ↔ node ∈ graph.nodes ∧ node.id = id := by
  unfold find?
  rw [Option.bind_eq_some_iff]
  constructor
  · rintro ⟨position, hposition, hnode⟩
    have hid := (h.positions id position).mp hposition
    rw [hnode] at hid
    exact ⟨Array.mem_of_getElem? hnode, Option.some.inj hid⟩
  · rintro ⟨hnode, rfl⟩
    obtain ⟨position, hlt, rfl⟩ := Array.getElem_of_mem hnode
    refine ⟨position, (h.positions _ _).mpr ?_, Array.getElem?_eq_getElem hlt⟩
    rw [Array.getElem?_eq_getElem hlt]
    rfl

/-- **The relationships of a node** are those of the graph that start or end at it, in order of
insertion. -/
theorem Sound.relationshipsOf_eq (h : graph.Sound) (id : ExternalId) (direction : Direction)
    (type : Option String) :
    graph.relationshipsOf id direction type = match direction with
      | .outgoing => graph.leaving type id
      | .incoming => graph.arriving type id
      | .both => graph.leaving type id ++ graph.arriving type id := by
  unfold relationshipsOf
  cases hfind : graph.find? id with
  | some node =>
    obtain ⟨hnode, rfl⟩ := h.find?_eq_some_iff.mp hfind
    simp only [references_eq RelationshipRecord.source (h.outgoing node hnode),
      references_eq RelationshipRecord.target (h.incoming node hnode)]
    rfl
  | none =>
    -- no relationship ends at an id that is not stored
    have hid : id ∉ graph.positions := by
      rw [mem_positions_iff]
      rintro ⟨position, hposition⟩
      obtain ⟨node, hnode, rfl⟩ := Option.map_eq_some_iff.mp ((h.positions id position).mp hposition)
      rw [h.find?_eq_some_iff.mpr ⟨Array.mem_of_getElem? hnode, rfl⟩] at hfind
      cases hfind
    obtain ⟨hsource, htarget⟩ := h.not_mem_endpoints hid
    have hleaving : graph.leaving type id = [] := by
      unfold leaving
      rw [List.map_eq_nil_iff, List.filter_eq_nil_iff]
      intro both hboth heq
      exact hsource (List.mem_map.mpr ⟨both.1, mem_relationships_of_mem_ofType hboth, by simpa using heq⟩)
    have harriving : graph.arriving type id = [] := by
      unfold arriving
      rw [List.map_eq_nil_iff, List.filter_eq_nil_iff]
      intro both hboth heq
      exact htarget (List.mem_map.mpr ⟨both.1, mem_relationships_of_mem_ofType hboth, by simpa using heq⟩)
    rw [hleaving, harriving]
    cases direction <;> rfl

/-- Elements are counted once if they are counted under different ids. -/
theorem total_length_filter_le {α : Type} (f : α → ExternalId) {ids : List ExternalId} (items : List α)
    (h : ids.Nodup) :
    total (ids.map fun id => (items.filter fun item => f item = id).length) ≤ items.length := by
  have hunder := total_countP_under f (fun _ => true) h items
  simp only [Bool.and_true, List.countP_eq_length_filter] at hunder
  rw [hunder]
  exact List.length_filter_le ..

/-- Each relationship has one node at its start, and one at its end. -/
theorem total_meeting_le (graph : MemoryGraph) (type : Option String)
    (endpoint : RelationshipRecord → ExternalId) {ids : List ExternalId} (h : ids.Nodup) :
    total (ids.map fun id =>
      ((graph.ofType type).filter fun relationship => endpoint relationship.1 = id).length)
      ≤ graph.relationships.size := by
  have hlength : (graph.ofType type).length ≤ graph.relationships.size := by
    refine (List.length_filter_le ..).trans ?_
    rw [List.length_zipIdx, Array.length_toList]
  exact (total_length_filter_le (endpoint ∘ Prod.fst) (graph.ofType type) h).trans hlength

/-- Each relationship has two ends. -/
theorem Sound.total_relationshipsOf_le (h : graph.Sound) (direction : Direction)
    (type : Option String) {ids : List ExternalId} (hids : ids.Nodup) :
    total (ids.map fun id => (graph.relationshipsOf id direction type).length)
      ≤ 2 * graph.relationships.size := by
  have hleaving := graph.total_meeting_le type RelationshipRecord.source hids
  have harriving := graph.total_meeting_le type RelationshipRecord.target hids
  simp only [h.relationshipsOf_eq, leaving, arriving]
  cases direction with
  | outgoing =>
    simp only [List.length_map]
    omega
  | incoming =>
    simp only [List.length_map]
    omega
  | both =>
    simp only [List.length_append, List.length_map, total_map_add]
    omega

/-- The nodes that pass a filter on labels are all different. -/
theorem Sound.nodup_nodesWith (h : graph.Sound) (label : Option String) :
    (graph.nodesWith label).Nodup := by
  have hall : (graph.nodes.toList.map StoredNode.id).Nodup := by
    rw [List.nodup_iff_getElem?_ne_getElem?]
    intro first second hlt hsecond heq
    have hid := List.getElem?_eq_getElem hsecond
    have hplace : ∀ position : Nat, (graph.nodes.toList.map StoredNode.id)[position]?
        = graph.nodes[position]?.map StoredNode.id := by
      intro position
      rw [List.getElem?_map, Array.getElem?_toList]
    have hleft := (h.positions _ _).mpr ((hplace first).symm.trans (heq.trans hid))
    have hright := (h.positions _ _).mpr ((hplace second).symm.trans hid)
    have hsame := Option.some.inj (hleft.symm.trans hright)
    omega
  exact ((List.filter_sublist (l := graph.nodes.toList)).map StoredNode.id).nodup hall

/-- What an open graph answers. -/
def answers (graph : MemoryGraph) : Snapshot where
  countsDegrees := graph.countsDegrees
  scanNodes := fun label => { ids := graph.nodesWith label }
  degree := fun id direction type => .ok (graph.relationshipsOf id direction type).length
  relationships := fun id direction type => .ok (graph.relationshipsOf id direction type)
  property := fun id name => .ok (graph.property id name)

theorem Sound.snapshot_eq (h : graph.Sound) : graph.snapshot = .ok graph.answers := if_pos h.isOpen

end MemoryGraph

end CompactGraph
