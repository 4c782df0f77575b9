/-
# Tables and graphs in memory

The tables of a stored graph say the same as a graph in memory into which the same was written
(`Mirrors`): the nodes with their labels, the relationships with their numbers, and at each node the
relationships that start and end there, in order of their numbers.  A write succeeds in both or in none.
-/
import CompactGraph.Proofs.Source.MemoryGraph
import CompactGraph.Proofs.Store.Tables

namespace CompactGraph

namespace MemoryGraph

/-! ## Labels and indexes of graphs in memory -/

/-- The labels of a stored node. -/
def labelsAt (graph : MemoryGraph) (id : ExternalId) : Option (List String) :=
  (graph.find? id).map StoredNode.labels

/-- The relationships at a node, as an index would hold them. -/
def indexed (graph : MemoryGraph) (endpoint other : RelationshipRecord → ExternalId)
    (token : String → TypeToken) (id : ExternalId) : List IndexEntry :=
  (graph.relationships.toList.zipIdx.filter fun both => endpoint both.1 = id).map fun both =>
    ⟨both.2, other both.1, token both.1.type⟩

variable {graph : MemoryGraph}

theorem relationships_addNode (graph : MemoryGraph) (record : NodeRecord) :
    (graph.addNode record).relationships = graph.relationships := by
  unfold addNode
  split <;> rfl

theorem Sound.mem_positions_iff_labelsAt (h : graph.Sound) {id : ExternalId} :
    id ∈ graph.positions ↔ ∃ labels, graph.labelsAt id = some labels := by
  simp only [labelsAt, Option.map_eq_some_iff, h.find?_eq_some_iff]
  rw [mem_positions_iff]
  constructor
  · rintro ⟨position, hposition⟩
    obtain ⟨node, hnode, hid⟩ := Option.map_eq_some_iff.mp ((h.positions id position).mp hposition)
    exact ⟨node.labels, node, ⟨Array.mem_of_getElem? hnode, hid⟩, rfl⟩
  · rintro ⟨labels, node, ⟨hnode, rfl⟩, -⟩
    obtain ⟨position, hlt, rfl⟩ := Array.getElem_of_mem hnode
    exact ⟨position, (h.positions _ _).mpr (by rw [Array.getElem?_eq_getElem hlt]; rfl)⟩

/-- A node has the labels that it was given last. -/
theorem Sound.labelsAt_addNode (h : graph.Sound) (record : NodeRecord) (id : ExternalId) :
    (graph.addNode record).labelsAt id
      = if record.id = id then some record.labels else graph.labelsAt id := by
  unfold MemoryGraph.addNode labelsAt find?
  split
  · next position hposition =>
    by_cases hid : record.id = id
    · subst hid
      obtain ⟨node, hnode, -⟩ := Option.map_eq_some_iff.mp ((h.positions _ _).mp hposition)
      simp [hposition, hnode, Array.getElem?_modify]
    · cases hother : graph.positions[id]? with
      | none => simp [hid]
      | some other =>
        have hne : position ≠ other := by
          rintro rfl
          exact hid (Option.some.inj
            (((h.positions _ _).mp hposition).symm.trans ((h.positions _ _).mp hother)))
        simp [hid, hne, Array.getElem?_modify]
  · next hnone =>
    simp only [Std.HashMap.getElem?_insert, beq_iff_eq]
    by_cases hid : record.id = id
    · simp [hid]
    · cases hother : graph.positions[id]? with
      | none => simp [hid]
      | some other =>
        obtain ⟨node, hnode, -⟩ := Option.map_eq_some_iff.mp ((h.positions _ _).mp hother)
        have hlt := (Array.getElem?_eq_some_iff.mp hnode).1
        simp [hid, Array.getElem?_push, hlt.ne]

/-- A relationship can be inserted exactly between stored nodes. -/
theorem insert_eq_cases (graph : MemoryGraph) (record : RelationshipRecord) :
    (record.source ∈ graph.positions ∧ record.target ∈ graph.positions ∧
      ∃ written, graph.insert record = .ok (graph.relationships.size, written)) ∨
    (¬ (record.source ∈ graph.positions ∧ record.target ∈ graph.positions) ∧
      ∃ error, graph.insert record = .error error) := by
  rw [mem_positions_iff, mem_positions_iff, insert]
  cases hsource : graph.positions[record.source]? with
  | none => exact Or.inr ⟨by simp, _, rfl⟩
  | some source =>
    cases htarget : graph.positions[record.target]? with
    | none => exact Or.inr ⟨by simp, _, rfl⟩
    | some target => exact Or.inl ⟨⟨source, rfl⟩, ⟨target, rfl⟩, _, rfl⟩

/-- Inserting a relationship changes no labels. -/
theorem Sound.labelsAt_insert (h : graph.Sound) {record : RelationshipRecord} {number : RelationshipId}
    {written : MemoryGraph} (hinsert : graph.insert record = .ok (number, written)) (id : ExternalId) :
    written.labelsAt id = graph.labelsAt id := by
  obtain ⟨-, -, rfl⟩ := h.insert_eq hinsert
  unfold labelsAt find?
  simp only [Array.getElem?_map]
  cases graph.positions[id]? with
  | none => rfl
  | some position =>
    cases hnode : graph.nodes[position]? with
    | none => simp [hnode]
    | some node => simp [hnode, noted]

/-- A relationship that is inserted comes last at its endpoint. -/
theorem indexed_push {record : RelationshipRecord} {written : MemoryGraph}
    (hwritten : written.relationships = graph.relationships.push record)
    (endpoint other : RelationshipRecord → ExternalId) (token : String → TypeToken)
    (id : ExternalId) :
    written.indexed endpoint other token id = graph.indexed endpoint other token id ++
      if endpoint record = id then [⟨graph.relationships.size, other record, token record.type⟩]
      else [] := by
  unfold indexed
  rw [hwritten, Array.toList_push, List.zipIdx_append, List.filter_append, List.map_append]
  congr 1
  rw [List.zipIdx_singleton, Nat.zero_add, Array.length_toList]
  by_cases hid : endpoint record = id
  · simp [hid]
  · simp [hid]

theorem indexed_congr {first second : String → TypeToken}
    (h : ∀ record ∈ graph.relationships, first record.type = second record.type)
    (endpoint other : RelationshipRecord → ExternalId) (id : ExternalId) :
    graph.indexed endpoint other first id = graph.indexed endpoint other second id := by
  unfold indexed
  apply List.map_congr_left
  rintro ⟨record, number⟩ hmem
  have hget := List.mem_zipIdx_iff_getElem?.mp (List.mem_of_mem_filter hmem)
  rw [Array.getElem?_toList] at hget
  rw [h record (Array.mem_of_getElem? hget)]

end MemoryGraph

/-! ## The relation -/

/-- A relationship as the tables store it. -/
def Tables.rowOf (tables : Tables) (record : RelationshipRecord) : RelationshipRow :=
  ⟨record.source, record.target, tables.tokenOf record.type, record.properties⟩

/-- Tables that say the same as a graph in memory. -/
structure Mirrors (tables : Tables) (graph : MemoryGraph) : Prop where
  sound : tables.Sound
  memory : graph.Sound
  nodes : ∀ id, tables.nodes[id]? = graph.labelsAt id
  nextRelationship : tables.nextRelationship = graph.relationships.size
  known : ∀ record ∈ graph.relationships, ∃ token, tables.types[record.type]? = some token
  relationships : ∀ id : RelationshipId,
    tables.relationships[id]? = graph.relationships[id]?.map tables.rowOf
  outgoing : ∀ id, tables.entriesOf .outgoing id
    = graph.indexed RelationshipRecord.source RelationshipRecord.target tables.tokenOf id
  incoming : ∀ id, tables.entriesOf .incoming id
    = graph.indexed RelationshipRecord.target RelationshipRecord.source tables.tokenOf id

theorem mirrors_empty : Mirrors .empty .empty where
  sound := Tables.sound_empty
  memory := MemoryGraph.sound_empty
  nodes id := by simp [Tables.empty, MemoryGraph.empty, MemoryGraph.labelsAt, MemoryGraph.find?]
  nextRelationship := rfl
  known record hrecord := by simp [MemoryGraph.empty] at hrecord
  relationships id := by simp [Tables.empty, MemoryGraph.empty]
  outgoing id := by
    simp [Tables.entriesOf, Cursor.index, Tables.empty, MemoryGraph.indexed, MemoryGraph.empty]
  incoming id := by
    simp [Tables.entriesOf, Cursor.index, Tables.empty, MemoryGraph.indexed, MemoryGraph.empty]

namespace Mirrors

variable {tables : Tables} {graph : MemoryGraph}

theorem mem_nodes_iff (h : Mirrors tables graph) (id : ExternalId) :
    id ∈ tables.nodes ↔ id ∈ graph.positions := by
  rw [h.memory.mem_positions_iff_labelsAt, Std.TreeMap.mem_iff_isSome_getElem?, h.nodes,
    Option.isSome_iff_exists]

/-! ## Writing nodes -/

/-- **Writing a node** into both keeps them the same. -/
theorem writeNode (h : Mirrors tables graph) (record : NodeRecord) :
    Mirrors (tables.writeNode record) (graph.addNode record) := by
  have hsame := graph.relationships_addNode record
  refine ⟨h.sound.writeNode record, h.memory.addNode record, fun id => ?_, ?_, ?_, ?_, ?_, ?_⟩
  · rw [Tables.nodes_writeNode, h.memory.labelsAt_addNode, h.nodes]
  · rw [hsame]
    exact h.nextRelationship
  · rw [hsame]
    exact h.known
  · rw [hsame]
    exact h.relationships
  · unfold MemoryGraph.indexed
    rw [hsame]
    exact h.outgoing
  · unfold MemoryGraph.indexed
    rw [hsame]
    exact h.incoming

theorem writeNodes (records : List NodeRecord) :
    ∀ {tables : Tables} {graph : MemoryGraph}, Mirrors tables graph →
      Mirrors (records.foldl Tables.writeNode tables) (records.foldl MemoryGraph.addNode graph) := by
  induction records with
  | nil => exact fun h => h
  | cons record records ih => exact fun h => ih (h.writeNode record)

/-! ## Writing relationships -/

/-- The type of a relationship is given a token first, which changes no other token. -/
theorem internType (h : Mirrors tables graph) (type : String) :
    Mirrors (tables.internType type).2 graph := by
  have hsound := h.sound.internType type
  obtain ⟨types, nextToken, hnew⟩ := tables.exists_internType_eq type
  have hkeeps : ∀ record ∈ graph.relationships,
      (tables.internType type).2.tokenOf record.type = tables.tokenOf record.type := by
    intro record hrecord
    obtain ⟨token, htoken⟩ := h.known record hrecord
    rw [Tables.tokenOf_eq htoken, Tables.tokenOf_eq (Tables.types_internType_of_some htoken)]
  have hentries : ∀ part id, (tables.internType type).2.entriesOf part id = tables.entriesOf part id := by
    intro part id
    rw [hnew]
    cases part <;> rfl
  refine ⟨hsound, h.memory, ?_, ?_, fun record hrecord => ?_, fun id => ?_, fun id => ?_, fun id => ?_⟩
  · rw [hnew]
    exact h.nodes
  · rw [hnew]
    exact h.nextRelationship
  · obtain ⟨token, htoken⟩ := h.known record hrecord
    exact ⟨token, Tables.types_internType_of_some htoken⟩
  · have hrows : (tables.internType type).2.relationships = tables.relationships := by rw [hnew]
    rw [hrows, h.relationships]
    cases hget : graph.relationships[id]? with
    | none => rfl
    | some record =>
      have htoken := hkeeps record (Array.mem_of_getElem? hget)
      simp only [Option.map_some, Tables.rowOf, htoken]
  · rw [hentries, h.outgoing, MemoryGraph.indexed_congr hkeeps]
  · rw [hentries, h.incoming, MemoryGraph.indexed_congr hkeeps]

/-- The row of a relationship whose type has a token is written. -/
theorem addRow (h : Mirrors tables graph) {record : RelationshipRecord} {token : TypeToken}
    (htoken : tables.types[record.type]? = some token) {number : RelationshipId} {written : MemoryGraph}
    (hinsert : graph.insert record = .ok (number, written)) :
    Mirrors (tables.addRow ⟨record.source, record.target, token, record.properties⟩).2 written := by
  have hrelationships : written.relationships = graph.relationships.push record := by
    rw [(h.memory.insert_eq hinsert).2.2]
  have hrow : (⟨record.source, record.target, token, record.properties⟩ : RelationshipRow)
      = tables.rowOf record := by
    rw [Tables.rowOf, Tables.tokenOf_eq htoken]
  rw [hrow]
  have hpositive : (tables.rowOf record).token ≠ allTypes := by
    rw [Tables.rowOf, Tables.tokenOf_eq htoken]
    exact (h.sound.tokens _ _ htoken).1.ne'
  refine ⟨h.sound.addRow hpositive, h.memory.insert hinsert, fun id => ?_, ?_, ?_, fun id => ?_,
    fun id => ?_, fun id => ?_⟩
  · rw [h.memory.labelsAt_insert hinsert]
    exact h.nodes id
  · rw [hrelationships, Array.size_push]
    exact congrArg (· + 1) h.nextRelationship
  · -- no type is new, since the token was handed out before
    rw [hrelationships]
    intro other hother
    rcases Array.mem_push.mp hother with hold | rfl
    · exact h.known other hold
    · exact ⟨token, htoken⟩
  · show (tables.relationships.insert tables.nextRelationship (tables.rowOf record))[id]?
      = written.relationships[id]?.map tables.rowOf
    rw [hrelationships, Std.TreeMap.getElem?_insert, Array.getElem?_push, h.relationships,
      h.nextRelationship]
    simp only [Std.LawfulEqCmp.compare_eq_iff_eq, eq_comm (a := id)]
    split <;> rfl
  · rw [(tables.entriesOf_addRow _ id).1, h.outgoing, MemoryGraph.indexed_push hrelationships,
      h.nextRelationship]
    rfl
  · rw [(tables.entriesOf_addRow _ id).2, h.incoming, MemoryGraph.indexed_push hrelationships,
      h.nextRelationship]
    rfl

/-- **Writing a relationship** succeeds in both with the same number, which keeps them the same, or
fails in both. -/
theorem writeRelationship (h : Mirrors tables graph) (record : RelationshipRecord) :
    (∃ id new written, tables.writeRelationship record = .ok (id, new) ∧
      graph.insert record = .ok (id, written) ∧ Mirrors new written) ∨
    ((∃ error, tables.writeRelationship record = .error error) ∧
      ∃ error, graph.insert record = .error error) := by
  rcases tables.writeRelationship_eq record with ⟨hsource, htarget, hwrite⟩ | ⟨hmissing, herror⟩
  · rcases graph.insert_eq_cases record with ⟨-, -, written, hinsert⟩ | ⟨hmissing, -⟩
    · have hinterned := h.internType record.type
      have hnew := hinterned.addRow (tables.types_internType record.type) hinsert
      refine Or.inl ⟨graph.relationships.size, _, written, ?_, hinsert, hnew⟩
      rw [hwrite, ← hinterned.nextRelationship]
      rfl
    · rw [h.mem_nodes_iff] at hsource htarget
      exact absurd ⟨hsource, htarget⟩ hmissing
  · rw [h.mem_nodes_iff, h.mem_nodes_iff] at hmissing
    rcases graph.insert_eq_cases record with ⟨hsource, htarget, -⟩ | ⟨-, herror'⟩
    · exact absurd ⟨hsource, htarget⟩ hmissing
    · exact Or.inr ⟨herror, herror'⟩

/-- **Writing a batch** succeeds in both or in none. -/
theorem writeRelationships (records : List RelationshipRecord) :
    ∀ {tables : Tables} {graph : MemoryGraph}, Mirrors tables graph →
    (∃ new written,
      records.foldlM (fun tables record => Prod.snd <$> tables.writeRelationship record) tables
        = .ok new ∧
      records.foldlM (fun graph record => Prod.snd <$> graph.insert record) graph = .ok written ∧
      Mirrors new written) ∨
    ((∃ error,
      records.foldlM (fun tables record => Prod.snd <$> tables.writeRelationship record) tables
        = .error error) ∧
      ∃ error, records.foldlM (fun graph record => Prod.snd <$> graph.insert record) graph
        = .error error) := by
  induction records with
  | nil => exact fun h => Or.inl ⟨_, _, rfl, rfl, h⟩
  | cons record records ih =>
    intro tables graph h
    rw [List.foldlM_cons, List.foldlM_cons]
    rcases h.writeRelationship record with ⟨id, new, written, hwrite, hinsert, hnew⟩ |
      ⟨⟨error, hwrite⟩, ⟨error', hinsert⟩⟩
    · rw [hwrite, hinsert]
      exact ih hnew
    · rw [hwrite, hinsert]
      exact Or.inr ⟨⟨error, rfl⟩, ⟨error', rfl⟩⟩

end Mirrors

end CompactGraph
