/-
# Consistent tables

A relationship is stored three times over: as a row, as an entry at the node where it starts, and as an
entry at the node where it ends.  It is counted four times besides, under its type and under all types
at either end.  No calls on a store, whether they succeed or fail, let these tables fall apart.
-/
import CompactGraph.Proofs.Store.Calls

namespace CompactGraph

namespace Tables

/-! ## What consistent tables are -/

/-- The index of a direction holds an entry for each relationship at the node where `near` finds it,
which names the endpoint that `far` finds.  It holds nothing else, and no entry twice. -/
structure Indexes (tables : Tables) (part : Direction) (near far : RelationshipRow → ExternalId) :
    Prop where
  mem_iff : ∀ node entry, entry ∈ tables.entriesOf part node ↔
    ∃ row, tables.relationships[entry.id]? = some row ∧ near row = node ∧
      far row = entry.other ∧ row.token = entry.token
  ascending : ∀ node, (tables.entriesOf part node).Pairwise fun first second => first.id < second.id

/-- Tables that agree with each other. -/
structure Consistent (tables : Tables) : Prop where
  numbered : ∀ id, id ∈ tables.relationships ↔ id < tables.relationshipCount
  outgoing : tables.Indexes .outgoing RelationshipRow.source RelationshipRow.target
  incoming : tables.Indexes .incoming RelationshipRow.target RelationshipRow.source
  endpoints : ∀ (id : RelationshipId) row, tables.relationships[id]? = some row →
    row.source ∈ tables.nodes ∧ row.target ∈ tables.nodes
  typed : ∀ (id : RelationshipId) row, tables.relationships[id]? = some row →
    ∃ type : String, tables.types[type]? = some row.token
  tokens : ∀ (type : String) token, tables.types[type]? = some token → token ≠ allTypes
  distinct : ∀ (first second : String) token,
    tables.types[first]? = some token → tables.types[second]? = some token → first = second
  degrees : ∀ node direction token, direction ≠ .both →
    tables.degrees.getD ⟨node, direction, token⟩ 0 =
      if token = allTypes then (tables.entriesOf direction node).length
      else (tables.entriesOf direction node).countP fun entry => entry.token = token
  counted : ∀ key ∈ tables.degrees, key.direction ≠ .both
  labels : ∀ label node, node ∈ tables.labels.getD label {} ↔
    ∃ current, tables.nodes[node]? = some current ∧ label ∈ current

/-- The invariant behind it: the next number is the number of relationships, and the next token is
above all others. -/
structure Linked (tables : Tables) : Prop extends tables.Sound where
  nextRelationship : tables.nextRelationship = tables.relationshipCount
  numbered : ∀ id, id ∈ tables.relationships ↔ id < tables.nextRelationship
  outgoing : tables.Indexes .outgoing RelationshipRow.source RelationshipRow.target
  incoming : tables.Indexes .incoming RelationshipRow.target RelationshipRow.source
  endpoints : ∀ (id : RelationshipId) row, tables.relationships[id]? = some row →
    row.source ∈ tables.nodes ∧ row.target ∈ tables.nodes
  typed : ∀ (id : RelationshipId) row, tables.relationships[id]? = some row →
    ∃ type : String, tables.types[type]? = some row.token
  counted : ∀ key ∈ tables.degrees, key.direction ≠ .both

theorem indexes_empty (part : Direction) (near far : RelationshipRow → ExternalId) :
    empty.Indexes part near far := by
  have hentries : ∀ node, empty.entriesOf part node = [] := by
    intro node
    cases part <;> simp [empty, entriesOf, Cursor.index]
  refine ⟨fun node entry => ?_, fun node => ?_⟩
  · rw [hentries]
    simp [empty]
  · rw [hentries]
    exact List.Pairwise.nil

theorem linked_empty : empty.Linked where
  toSound := sound_empty
  nextRelationship := rfl
  numbered id := by simp [empty]
  outgoing := indexes_empty ..
  incoming := indexes_empty ..
  endpoints id row h := by simp [empty] at h
  typed id row h := by simp [empty] at h
  counted key h := by simp [empty] at h

/-! ## What every write keeps -/

section Writes

variable {tables next : Tables} {part : Direction} {near far : RelationshipRow → ExternalId}

/-- A node that is stored stays stored. -/
theorem mem_nodes_writeNode (record : NodeRecord) {id : ExternalId} (h : id ∈ tables.nodes) :
    id ∈ (tables.writeNode record).nodes := by
  rw [writeNode, Std.TreeMap.mem_insert]
  exact Or.inr h

/-- **Writing a node** leaves the relationships and their endpoints in place. -/
theorem Linked.writeNode (h : tables.Linked) (record : NodeRecord) :
    (tables.writeNode record).Linked where
  toSound := h.toSound.writeNode record
  nextRelationship := h.nextRelationship
  numbered := h.numbered
  outgoing := ⟨h.outgoing.mem_iff, h.outgoing.ascending⟩
  incoming := ⟨h.incoming.mem_iff, h.incoming.ascending⟩
  endpoints id row hrow :=
    ⟨mem_nodes_writeNode record (h.endpoints id row hrow).1,
      mem_nodes_writeNode record (h.endpoints id row hrow).2⟩
  typed := h.typed
  counted := h.counted

/-- **Handing out a token** leaves all rows typed. -/
theorem Linked.internType (h : tables.Linked) (type : String) :
    (tables.internType type).2.Linked := by
  have hsound := h.toSound.internType type
  have htyped : ∀ (id : RelationshipId) row, tables.relationships[id]? = some row →
      ∃ other : String, (tables.internType type).2.types[other]? = some row.token := by
    intro id row hrow
    obtain ⟨other, hother⟩ := h.typed id row hrow
    exact ⟨other, types_internType_of_some hother⟩
  obtain ⟨types, nextToken, hnew⟩ := tables.exists_internType_eq type
  rw [hnew] at hsound htyped ⊢
  exact ⟨hsound, h.nextRelationship, h.numbered, ⟨h.outgoing.mem_iff, h.outgoing.ascending⟩,
    ⟨h.incoming.mem_iff, h.incoming.ascending⟩, h.endpoints, htyped, h.counted⟩

/-- A row that is written under the next number comes last in an index. -/
theorem Indexes.push (h : tables.Indexes part near far) {row : RelationshipRow}
    (hnumbered : ∀ id, id ∈ tables.relationships ↔ id < tables.nextRelationship)
    (hrows : next.relationships = tables.relationships.insert tables.nextRelationship row)
    (hentries : ∀ node, next.entriesOf part node = tables.entriesOf part node ++
      if near row = node then [⟨tables.nextRelationship, far row, row.token⟩] else []) :
    next.Indexes part near far := by
  have hold : ∀ {node entry}, entry ∈ tables.entriesOf part node →
      entry.id < tables.nextRelationship := by
    intro node entry hentry
    obtain ⟨old, hrow, -⟩ := (h.mem_iff node entry).mp hentry
    exact (hnumbered entry.id).mp (Std.TreeMap.mem_iff_isSome_getElem?.mpr (by rw [hrow]; rfl))
  refine ⟨fun node entry => ?_, fun node => ?_⟩
  · rw [hentries, List.mem_append, hrows, Std.TreeMap.getElem?_insert]
    simp only [Std.LawfulEqCmp.compare_eq_iff_eq]
    by_cases hid : tables.nextRelationship = entry.id
    · -- the number is new, so the entry is that of the row
      have hfresh : entry ∉ tables.entriesOf part node := fun hentry =>
        (hold hentry).ne' hid
      obtain ⟨id, other, token⟩ := entry
      subst hid
      by_cases hnode : near row = node
      · simp [hfresh, hnode, eq_comm]
      · simp [hfresh, hnode]
    · have hother : entry ∉ if near row = node
          then [⟨tables.nextRelationship, far row, row.token⟩] else [] := by
        intro hentry
        split at hentry
        · exact hid (by rw [List.mem_singleton.mp hentry])
        · cases hentry
      rw [if_neg hid, h.mem_iff]
      exact or_iff_left hother
  · rw [hentries, List.pairwise_append]
    refine ⟨h.ascending node, ?_, fun first hfirst second hsecond => ?_⟩
    · split
      · exact List.pairwise_singleton _ _
      · exact List.Pairwise.nil
    · split at hsecond
      · rw [List.mem_singleton.mp hsecond]
        exact hold hfirst
      · cases hsecond

theorem mem_countDegree {node : ExternalId} {direction : Direction} {token : TypeToken}
    {degrees : Std.HashMap DegreeKey Nat} {key : DegreeKey}
    (h : key ∈ countDegree node direction token degrees) :
    key.direction = direction ∨ key ∈ degrees := by
  simp only [countDegree, List.foldl_cons, List.foldl_nil, Std.HashMap.mem_insert, beq_iff_eq] at h
  rcases h with rfl | rfl | h
  · exact Or.inl rfl
  · exact Or.inl rfl
  · exact Or.inr h

/-- **Writing a row** between stored nodes, with the token of a type, keeps the tables linked. -/
theorem Linked.addRow (h : tables.Linked) {row : RelationshipRow} {type : String}
    (htype : tables.types[type]? = some row.token)
    (hsource : row.source ∈ tables.nodes) (htarget : row.target ∈ tables.nodes) :
    (tables.addRow row).2.Linked := by
  have hfresh : tables.nextRelationship ∉ tables.relationships := by
    rw [h.numbered]
    exact Nat.lt_irrefl _
  have hrow : ∀ (id : RelationshipId) (other : RelationshipRow),
      (tables.relationships.insert tables.nextRelationship row)[id]? = some other →
        other = row ∨ tables.relationships[id]? = some other := by
    intro id other hother
    rw [Std.TreeMap.getElem?_insert] at hother
    split at hother
    · exact Or.inl (Option.some.inj hother).symm
    · exact Or.inr hother
  refine ⟨h.toSound.addRow (h.tokens type row.token htype).1.ne', ?_, fun id => ?_,
    h.outgoing.push h.numbered rfl fun node => (tables.entriesOf_addRow row node).1,
    h.incoming.push h.numbered rfl fun node => (tables.entriesOf_addRow row node).2,
    fun id other hother => ?_, fun id other hother => ?_, fun key hkey => ?_⟩
  · show tables.nextRelationship + 1 = (tables.relationships.insert _ row).size
    rw [Std.TreeMap.size_insert, if_neg (by rwa [Std.TreeMap.contains_iff_mem]), h.nextRelationship,
      relationshipCount]
  · show id ∈ tables.relationships.insert tables.nextRelationship row ↔ id < tables.nextRelationship + 1
    rw [Std.TreeMap.mem_insert, h.numbered, Std.LawfulEqCmp.compare_eq_iff_eq, Nat.lt_succ_iff_lt_or_eq,
      or_comm, eq_comm]
  · rcases hrow id other hother with rfl | hold
    · exact ⟨hsource, htarget⟩
    · exact h.endpoints id other hold
  · rcases hrow id other hother with rfl | hold
    · exact ⟨type, htype⟩
    · exact h.typed id other hold
  · rcases mem_countDegree hkey with hincoming | hkey
    · rw [hincoming]
      decide
    · rcases mem_countDegree hkey with houtgoing | hkey
      · rw [houtgoing]
        decide
      · exact h.counted key hkey

/-- **Writing a relationship** keeps the tables linked, if it succeeds. -/
theorem Linked.writeRelationship (h : tables.Linked) {record : RelationshipRecord}
    {id : RelationshipId} (hwrite : tables.writeRelationship record = .ok (id, next)) :
    next.Linked := by
  rcases tables.writeRelationship_eq record with ⟨hsource, htarget, hok⟩ | ⟨-, error, herror⟩
  · rw [hok] at hwrite
    obtain ⟨-, rfl⟩ := Prod.mk.inj (Except.ok.inj hwrite)
    have hinterned := h.internType record.type
    have htype := tables.types_internType record.type
    obtain ⟨types, nextToken, hnew⟩ := tables.exists_internType_eq record.type
    have hnodes : (tables.internType record.type).2.nodes = tables.nodes := by rw [hnew]
    exact hinterned.addRow htype (by rwa [hnodes]) (by rwa [hnodes])
  · rw [herror] at hwrite
    cases hwrite

theorem Linked.writeNodes (records : List NodeRecord) :
    ∀ {tables : Tables}, tables.Linked → (records.foldl Tables.writeNode tables).Linked := by
  induction records with
  | nil => exact fun h => h
  | cons record records ih => exact fun h => ih (h.writeNode record)

theorem Linked.writeRelationships (records : List RelationshipRecord) :
    ∀ {tables : Tables}, tables.Linked →
      records.foldlM (fun tables record => Prod.snd <$> tables.writeRelationship record) tables
        = .ok next → next.Linked := by
  induction records with
  | nil =>
    intro tables h hwrite
    cases hwrite
    exact h
  | cons record records ih =>
    intro tables h hwrite
    rw [List.foldlM_cons] at hwrite
    cases hfirst : tables.writeRelationship record with
    | error error =>
      rw [hfirst] at hwrite
      cases hwrite
    | ok written =>
      rw [hfirst] at hwrite
      exact ih (h.writeRelationship hfirst) hwrite

/-- **Writing a batch** keeps the tables linked, if all of it succeeds. -/
theorem Linked.writeBatch (h : tables.Linked) {nodes : List NodeRecord}
    {relationships : List RelationshipRecord}
    (hwrite : tables.writeBatch nodes relationships = .ok next) : next.Linked :=
  (h.writeNodes nodes).writeRelationships relationships hwrite

end Writes

/-! ## From the invariant to agreement -/

/-- **Linked tables are consistent.** -/
theorem Linked.consistent {tables : Tables} (h : tables.Linked) : tables.Consistent where
  numbered id := by
    rw [h.numbered, h.nextRelationship]
  outgoing := h.outgoing
  incoming := h.incoming
  endpoints := h.endpoints
  typed := h.typed
  tokens type token htoken := (h.tokens type token htoken).1.ne'
  distinct := h.types
  degrees node direction token hdirection := by
    rw [h.degrees node direction token hdirection]
    by_cases htoken : token = allTypes
    · rw [if_pos htoken, List.filter_eq_self.mpr]
      intro entry _
      simp [passes, htoken]
    · rw [if_neg htoken, List.countP_eq_length_filter]
      congr 2
      funext entry
      rw [passes, beq_eq_false_iff_ne.mpr htoken, Bool.false_or, Bool.eq_iff_iff,
        beq_iff_eq, decide_eq_true_iff, eq_comm]
  counted := h.counted
  labels label node := by
    rw [h.labels, labelsOf, Std.TreeMap.getD_eq_getD_getElem?]
    cases tables.nodes[node]? with
    | none => simp
    | some current => simp

end Tables

/-! ## Runs -/

namespace GraphStore

variable {store next : GraphStore}

/-- **A call** that succeeds keeps the tables linked. -/
theorem linked_perform (h : store.tables.Linked) {call : StoreCall}
    (hcall : call.perform store = .ok next) : next.tables.Linked := by
  cases call with
  | insertNode record =>
    cases hcall
    exact h.writeNode record
  | insertRelationship record =>
    rw [StoreCall.perform, insertRelationship] at hcall
    cases hwrite : store.tables.writeRelationship record with
    | error error => rw [hwrite] at hcall; cases hcall
    | ok written => rw [hwrite] at hcall; cases hcall; exact h.writeRelationship hwrite
  | importRecords nodes relationships =>
    rw [StoreCall.perform, importRecords] at hcall
    cases hwrite : store.tables.writeBatch nodes relationships with
    | error error => rw [hwrite] at hcall; cases hcall
    | ok written => rw [hwrite] at hcall; cases hcall; exact h.writeBatch hwrite
  | hold name =>
    cases hcall
    exact h
  | release name =>
    cases hcall
    exact h
  | compact =>
    rw [StoreCall.perform, compact] at hcall
    split at hcall
    · cases hcall
      exact h
    · cases hcall
  | reopen =>
    cases hcall
    exact h

/-- **Calls**, those that fail among them, keep the tables linked. -/
theorem linked_after (calls : List StoreCall) :
    ∀ {store : GraphStore}, store.tables.Linked → (store.after calls).tables.Linked := by
  induction calls with
  | nil => exact fun h => h
  | cons call calls ih =>
    intro store h
    rw [after]
    cases hcall : call.perform store with
    | error error => exact ih h
    | ok next => exact ih (linked_perform h hcall)

/-- **The tables of a store are consistent** in every state that calls on an empty store lead to. -/
theorem consistent_after (calls : List StoreCall) : (empty.after calls).tables.Consistent :=
  (linked_after calls Tables.linked_empty).consistent

end GraphStore

end CompactGraph
