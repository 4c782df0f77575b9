/-
# Batches of records

A batch is written whole or not at all.  It is written whole exactly if each of its relationships
joins nodes that are stored or that the batch brings along, and then it comes to the same as writing
its nodes and then its relationships one at a time.  A batch that fails leaves no trace: whatever is
called afterwards has the effect and the answers that it has without the batch.
-/
import CompactGraph.Proofs.Store.Consistency

namespace CompactGraph

/-! ## Answers of calls -/

/-- What a call on a graph store answers. -/
inductive StoreReply where
  | done
  | number (id : RelationshipId)
  | counts (counts : ImportCounts)
  | released (found : Bool)
  | failed (error : LoadError)

/-- The answer of a call. -/
def StoreCall.reply (store : GraphStore) : StoreCall → StoreReply
  | .insertNode _ | .hold _ | .reopen => .done
  | .insertRelationship record =>
    match store.insertRelationship record with
    | .ok (id, _) => .number id
    | .error error => .failed error
  | .importRecords nodes relationships =>
    match store.importRecords nodes relationships with
    | .ok (counts, _) => .counts counts
    | .error error => .failed error
  | .release name => .released (store.release name).1
  | .compact =>
    match store.compact with
    | .ok _ => .done
    | .error error => .failed error

namespace GraphStore

/-- The answers of calls, one after another. -/
def replies (store : GraphStore) : List StoreCall → List StoreReply
  | [] => []
  | call :: calls => call.reply store :: (store.after [call]).replies calls

theorem after_cons (store : GraphStore) (call : StoreCall) (calls : List StoreCall) :
    store.after (call :: calls) = (store.after [call]).after calls :=
  after_append calls [call] store

theorem replies_append (second : List StoreCall) :
    ∀ (first : List StoreCall) (store : GraphStore),
      store.replies (first ++ second) = store.replies first ++ (store.after first).replies second
  | [], _ => rfl
  | call :: first, store => by
    rw [List.cons_append, replies, replies, replies_append second first, ← after_cons,
      List.cons_append]

end GraphStore

/-! ## The nodes of a batch -/

namespace Tables

variable {tables next : Tables}

theorem mem_writeNode {id : ExternalId} {record : NodeRecord} :
    id ∈ (tables.writeNode record).nodes ↔ id = record.id ∨ id ∈ tables.nodes := by
  rw [writeNode, Std.TreeMap.mem_insert, Std.LawfulEqCmp.compare_eq_iff_eq, eq_comm]

/-- A batch brings along the nodes of its records. -/
theorem mem_writeNodes {id : ExternalId} (nodes : List NodeRecord) :
    ∀ {tables : Tables}, id ∈ (nodes.foldl writeNode tables).nodes ↔
      id ∈ tables.nodes ∨ id ∈ nodes.map NodeRecord.id := by
  induction nodes with
  | nil => simp
  | cons record nodes ih =>
    intro tables
    rw [List.foldl_cons, ih, mem_writeNode, List.map_cons, List.mem_cons]
    tauto

theorem nodeCount_writeNode (tables : Tables) (record : NodeRecord) :
    (tables.writeNode record).nodeCount
      = tables.nodeCount + if record.id ∈ tables.nodes then 0 else 1 := by
  rw [nodeCount, writeNode, Std.TreeMap.size_insert, nodeCount]
  simp only [Std.TreeMap.contains_iff_mem]
  split <;> rfl

theorem relationshipCount_writeNodes (nodes : List NodeRecord) :
    ∀ tables : Tables,
      (nodes.foldl writeNode tables).relationshipCount = tables.relationshipCount := by
  induction nodes with
  | nil => exact fun _ => rfl
  | cons record nodes ih => exact fun tables => ih (tables.writeNode record)

/-- The nodes of a batch that are not stored yet. -/
def newNodes (tables : Tables) (nodes : List NodeRecord) : Finset ExternalId :=
  {id ∈ (nodes.map NodeRecord.id).toFinset | id ∉ tables.nodes}

theorem mem_newNodes {id : ExternalId} {nodes : List NodeRecord} :
    id ∈ tables.newNodes nodes ↔ id ∈ nodes.map NodeRecord.id ∧ id ∉ tables.nodes := by
  rw [newNodes, Finset.mem_filter, List.mem_toFinset]

/-- A batch adds the nodes that are not stored yet, each of them once. -/
theorem nodeCount_writeNodes (nodes : List NodeRecord) :
    ∀ tables : Tables, (nodes.foldl writeNode tables).nodeCount
      = tables.nodeCount + (tables.newNodes nodes).card := by
  induction nodes with
  | nil => exact fun _ => rfl
  | cons record nodes ih =>
    intro tables
    rw [List.foldl_cons, ih, nodeCount_writeNode, Nat.add_assoc]
    congr 1
    by_cases hstored : record.id ∈ tables.nodes
    · have hsame : (tables.writeNode record).newNodes nodes = tables.newNodes (record :: nodes) := by
        ext id
        simp only [mem_newNodes, mem_writeNode, List.map_cons, List.mem_cons]
        grind
      rw [if_pos hstored, Nat.zero_add, hsame]
    · -- the first record is new, and no later one with its id is
      have hinsert : tables.newNodes (record :: nodes)
          = insert record.id ((tables.writeNode record).newNodes nodes) := by
        ext id
        simp only [Finset.mem_insert, mem_newNodes, mem_writeNode, List.map_cons, List.mem_cons]
        grind
      have hfresh : record.id ∉ (tables.writeNode record).newNodes nodes := by
        simp [mem_newNodes, mem_writeNode]
      rw [if_neg hstored, hinsert, Finset.card_insert_of_notMem hfresh, Nat.add_comm]

/-! ## The relationships of a batch -/

/-- A relationship between nodes that are stored or that a batch brings along. -/
def Joins (tables : Tables) (nodes : List NodeRecord) (record : RelationshipRecord) : Prop :=
  ∀ endpoint ∈ [record.source, record.target],
    endpoint ∈ tables.nodes ∨ endpoint ∈ nodes.map NodeRecord.id

theorem joins_iff {nodes : List NodeRecord} {record : RelationshipRecord} :
    tables.Joins nodes record ↔ (nodes.foldl writeNode tables).missingEndpoint? record = none := by
  rw [missingEndpoint?_eq_none_iff, Joins, List.forall_mem_cons, List.forall_mem_singleton,
    mem_writeNodes, mem_writeNodes]

/-- A missing endpoint is one of the two, and it is not stored. -/
theorem not_mem_of_missingEndpoint? {record : RelationshipRecord} {endpoint : ExternalId}
    (h : tables.missingEndpoint? record = some endpoint) :
    endpoint ∈ [record.source, record.target] ∧ endpoint ∉ tables.nodes := by
  refine ⟨List.mem_of_find?_eq_some h, ?_⟩
  have hmissing := List.find?_some h
  rwa [Bool.not_eq_true', ← Bool.not_eq_true, Std.TreeMap.contains_iff_mem] at hmissing

/-- **Writing a relationship** between stored nodes takes the next number and leaves the nodes
alone. -/
theorem Linked.writeRelationship_eq_ok (h : tables.Linked) {record : RelationshipRecord}
    (hstored : tables.missingEndpoint? record = none) :
    ∃ next, tables.writeRelationship record = .ok (tables.relationshipCount, next) ∧
      next.Linked ∧ next.nodes = tables.nodes ∧
      next.relationshipCount = tables.relationshipCount + 1 := by
  rcases tables.writeRelationship_eq record with ⟨-, -, hok⟩ | ⟨hmissing, -⟩
  · have hnext := h.writeRelationship hok
    obtain ⟨types, nextToken, hnew⟩ := tables.exists_internType_eq record.type
    refine ⟨_, ?_, hnext, ?_, ?_⟩
    · rw [hok, hnew, ← h.nextRelationship]
      rfl
    · rw [hnew]
    · rw [← hnext.nextRelationship, ← h.nextRelationship, hnew]
  · exact absurd (missingEndpoint?_eq_none_iff.mp hstored) hmissing

/-- The error of a relationship that cannot be written for want of an endpoint. -/
def missingError (record : RelationshipRecord) (endpoint : ExternalId) : LoadError :=
  .sourceInconsistent (.missingEndpoint record.source record.target endpoint)

/-- Writing relationships fails at one with a missing endpoint, if there is one.  What was written
before it does not make up for the endpoint, since no node was added. -/
theorem Linked.writeRelationships_eq_error (relationships : List RelationshipRecord) :
    ∀ {tables : Tables}, tables.Linked →
      (∃ record ∈ relationships, tables.missingEndpoint? record ≠ none) →
      ∃ record ∈ relationships, ∃ endpoint, tables.missingEndpoint? record = some endpoint ∧
        relationships.foldlM (fun tables record => Prod.snd <$> tables.writeRelationship record) tables
          = .error (missingError record endpoint) := by
  induction relationships with
  | nil => exact fun _ hsome => absurd hsome (by simp)
  | cons record relationships ih =>
    intro tables h hsome
    rw [List.foldlM_cons]
    cases hrecord : tables.missingEndpoint? record with
    | some endpoint =>
      refine ⟨record, List.mem_cons_self, endpoint, hrecord, ?_⟩
      rw [Tables.writeRelationship, hrecord]
      rfl
    | none =>
      obtain ⟨next, hwrite, hnext, hnodes, -⟩ := h.writeRelationship_eq_ok hrecord
      have hsame : ∀ other, next.missingEndpoint? other = tables.missingEndpoint? other := fun other => by
        rw [missingEndpoint?, hnodes, missingEndpoint?]
      have hlater : ∃ other ∈ relationships, next.missingEndpoint? other ≠ none := by
        obtain ⟨other, hother, hmissing⟩ := hsome
        rcases List.mem_cons.mp hother with rfl | hother
        · exact absurd hrecord hmissing
        · exact ⟨other, hother, by rwa [hsame]⟩
      obtain ⟨other, hother, endpoint, hmissing, herror⟩ := ih hnext hlater
      refine ⟨other, List.mem_cons_of_mem _ hother, endpoint, by rwa [← hsame], ?_⟩
      rw [hwrite]
      exact herror

end Tables

/-! ## One record at a time -/

namespace GraphStore

theorem after_insertNodes (nodes : List NodeRecord) :
    ∀ store : GraphStore, store.after (nodes.map .insertNode)
      = { store with tables := nodes.foldl Tables.writeNode store.tables } := by
  induction nodes with
  | nil => exact fun _ => rfl
  | cons record nodes ih => exact fun store => ih (store.insertNode record)

theorem replies_insertNodes (nodes : List NodeRecord) :
    ∀ store : GraphStore, store.replies (nodes.map .insertNode)
      = List.replicate nodes.length .done := by
  induction nodes with
  | nil => exact fun _ => rfl
  | cons record nodes ih => exact fun store => congrArg (StoreReply.done :: ·) (ih _)

/-- **Relationships between stored nodes** are written one at a time as they are in one go.  Their
numbers follow on one another. -/
theorem after_insertRelationships (relationships : List RelationshipRecord) :
    ∀ store : GraphStore, store.tables.Linked →
      (∀ record ∈ relationships, store.tables.missingEndpoint? record = none) →
      ∃ tables,
        relationships.foldlM (fun tables record => Prod.snd <$> tables.writeRelationship record)
          store.tables = .ok tables ∧
        store.after (relationships.map .insertRelationship) = { store with tables } ∧
        store.replies (relationships.map .insertRelationship)
          = (List.range' store.tables.relationshipCount relationships.length).map .number ∧
        tables.nodes = store.tables.nodes ∧
        tables.relationshipCount = store.tables.relationshipCount + relationships.length := by
  induction relationships with
  | nil => exact fun _ _ _ => ⟨_, rfl, rfl, rfl, rfl, rfl⟩
  | cons record relationships ih =>
    intro store h hstored
    rw [List.forall_mem_cons] at hstored
    obtain ⟨next, hwrite, hnext, hnodes, hcount⟩ := h.writeRelationship_eq_ok hstored.1
    have hinsert : store.insertRelationship record
        = .ok (store.tables.relationshipCount, { store with tables := next }) := by
      rw [insertRelationship, hwrite]
      rfl
    have hafter : store.after [.insertRelationship record] = { store with tables := next } := by
      rw [after, StoreCall.perform, hinsert]
      rfl
    obtain ⟨tables, hwrites, hall, hreplies, hsame, htotal⟩ :=
      ih { store with tables := next } hnext fun other hother => by
        rw [Tables.missingEndpoint?, hnodes]
        exact hstored.2 other hother
    refine ⟨tables, ?_, ?_, ?_, hsame.trans hnodes, ?_⟩
    · rw [List.foldlM_cons, hwrite]
      exact hwrites
    · rw [List.map_cons, after_cons, hafter]
      exact hall
    · rw [List.map_cons, replies, hafter, hreplies, StoreCall.reply, hinsert, hcount,
        List.length_cons, List.range'_succ, List.map_cons]
    · rw [htotal, hcount, List.length_cons, Nat.add_assoc, Nat.add_comm 1]

/-! ## Batches -/

section Batches

variable {store : GraphStore} {nodes : List NodeRecord} {relationships : List RelationshipRecord}

/-- A batch whose relationships join nodes that are stored or that it brings along is written as its records
are, one at a time. -/
theorem importRecords_of_joins (hlinked : store.tables.Linked)
    (hjoins : ∀ record ∈ relationships, store.tables.Joins nodes record) :
    ∃ next, store.importRecords nodes relationships
        = .ok (⟨nodes.length, relationships.length⟩, next) ∧
      next = store.after (nodes.map .insertNode ++ relationships.map .insertRelationship) ∧
      store.replies (nodes.map .insertNode ++ relationships.map .insertRelationship)
        = List.replicate nodes.length .done ++
          (List.range' store.tables.relationshipCount relationships.length).map .number ∧
      next.tables.relationshipCount = store.tables.relationshipCount + relationships.length ∧
      next.tables.nodeCount = store.tables.nodeCount + (store.tables.newNodes nodes).card := by
  have hcount : (nodes.foldl Tables.writeNode store.tables).relationshipCount
      = store.tables.relationshipCount := by
    rw [Tables.relationshipCount_writeNodes]
  obtain ⟨tables, hwrite, hafter, hreplies, hsame, htotal⟩ :=
    after_insertRelationships relationships
      { store with tables := nodes.foldl Tables.writeNode store.tables } (hlinked.writeNodes nodes)
      fun record hrecord => Tables.joins_iff.mp (hjoins record hrecord)
  refine ⟨{ store with tables }, ?_, ?_, ?_, ?_, ?_⟩
  · rw [importRecords, Tables.writeBatch, hwrite]
    rfl
  · rw [after_append, after_insertNodes, hafter]
  · rw [replies_append, replies_insertNodes, after_insertNodes, hreplies, hcount]
  · rw [htotal, hcount]
  · rw [Tables.nodeCount, hsame]
    exact Tables.nodeCount_writeNodes nodes store.tables

/-- A batch with a relationship that does not join such nodes is refused for want of an endpoint. -/
theorem importRecords_of_not_joins (hlinked : store.tables.Linked)
    (hjoins : ¬ ∀ record ∈ relationships, store.tables.Joins nodes record) :
    ∃ record ∈ relationships, ∃ endpoint ∈ [record.source, record.target],
      endpoint ∉ store.tables.nodes ∧ endpoint ∉ nodes.map NodeRecord.id ∧
      store.importRecords nodes relationships = .error (Tables.missingError record endpoint) := by
  have hsome : ∃ record ∈ relationships,
      (nodes.foldl Tables.writeNode store.tables).missingEndpoint? record ≠ none := by
    simpa [Tables.joins_iff] using hjoins
  obtain ⟨record, hrecord, endpoint, hmissing, herror⟩ :=
    (hlinked.writeNodes nodes).writeRelationships_eq_error relationships hsome
  obtain ⟨hendpoint, hnowhere⟩ := Tables.not_mem_of_missingEndpoint? hmissing
  rw [Tables.mem_writeNodes, not_or] at hnowhere
  refine ⟨record, hrecord, endpoint, hendpoint, hnowhere.1, hnowhere.2, ?_⟩
  rw [importRecords, Tables.writeBatch, herror]
  rfl

/-- A batch that is refused leaves no trace: later calls come to the same as without it. -/
theorem refused_batch_leaves_no_trace {error : LoadError}
    (h : store.importRecords nodes relationships = .error error) (later : List StoreCall) :
    store.after (.importRecords nodes relationships :: later) = store.after later ∧
      store.replies (.importRecords nodes relationships :: later)
        = .failed error :: store.replies later := by
  have hafter : store.after [.importRecords nodes relationships] = store := by
    rw [after, StoreCall.perform, h]
    rfl
  constructor
  · rw [after_cons, hafter]
  · rw [replies, hafter, StoreCall.reply, h]

end Batches

/-- **A batch is written whole or not at all**, in every state that calls on an empty store lead to.
It is written exactly if all of its relationships join nodes that are stored or that it brings along.
The store is then the one that its records lead to one at a time, the relationships under the numbers
that follow on those in use.  Otherwise all later calls come to the same as without the batch. -/
theorem batch_written_whole_or_not_at_all (calls : List StoreCall) (nodes : List NodeRecord)
    (relationships : List RelationshipRecord) :
    let store := empty.after calls
    let singly := nodes.map .insertNode ++ relationships.map .insertRelationship
    ((∀ record ∈ relationships, store.tables.Joins nodes record) ∧
      ∃ next, store.importRecords nodes relationships
          = .ok (⟨nodes.length, relationships.length⟩, next) ∧
        next = store.after singly ∧
        store.replies singly = List.replicate nodes.length .done ++
          (List.range' store.tables.relationshipCount relationships.length).map .number ∧
        next.tables.relationshipCount = store.tables.relationshipCount + relationships.length ∧
        next.tables.nodeCount = store.tables.nodeCount + (store.tables.newNodes nodes).card) ∨
    (∃ record ∈ relationships, ∃ endpoint ∈ [record.source, record.target],
      endpoint ∉ store.tables.nodes ∧ endpoint ∉ nodes.map NodeRecord.id ∧
      store.importRecords nodes relationships = .error (Tables.missingError record endpoint) ∧
      ∀ later, store.after (.importRecords nodes relationships :: later) = store.after later ∧
        store.replies (.importRecords nodes relationships :: later)
          = .failed (Tables.missingError record endpoint) :: store.replies later) := by
  intro store singly
  have hlinked : store.tables.Linked := linked_after calls Tables.linked_empty
  by_cases hjoins : ∀ record ∈ relationships, store.tables.Joins nodes record
  · exact Or.inl ⟨hjoins, importRecords_of_joins hlinked hjoins⟩
  · obtain ⟨record, hrecord, endpoint, hendpoint, hstored, hbrought, herror⟩ :=
      importRecords_of_not_joins hlinked hjoins
    exact Or.inr ⟨record, hrecord, endpoint, hendpoint, hstored, hbrought, herror,
      refused_batch_leaves_no_trace herror⟩

/-- The number that the half-written batch had taken is given to the next relationship. -/
example : empty.replies [
    .importRecords [{ id := ⟨1⟩ }] [
      { source := ⟨1⟩, target := ⟨1⟩, type := "KNOWS" },
      { source := ⟨1⟩, target := ⟨9⟩, type := "LIKES" }],
    .insertNode { id := ⟨1⟩ },
    .insertRelationship { source := ⟨1⟩, target := ⟨1⟩, type := "LIKES" }] = [
    .failed (.sourceInconsistent (.missingEndpoint ⟨1⟩ ⟨9⟩ ⟨9⟩)), .done, .number 0] := by
  rfl

end GraphStore

end CompactGraph
