/-
# Answers of a stored graph

A cursor on tables that say the same as a graph in memory answers as the graph does, whatever it was
asked before: the type that it remembers is one of the tables it reads.  Its scans deliver the nodes of
the graph by ascending ids.
-/
import CompactGraph.Proofs.Store.Mirroring

namespace CompactGraph

/-! ## Questions -/

/-- A question about the relationships of a graph. -/
inductive Question where
  | degree (id : ExternalId) (direction : Direction) (type : Option String)
  | relationships (id : ExternalId) (direction : Direction) (type : Option String)
  | property (id : RelationshipId) (name : String)

/-- An answer to a question. -/
inductive Answer where
  | count (degree : Nat)
  | references (found : List RelationshipRef)
  | value (found : Option PropertyValue)

/-- What a snapshot answers. -/
def Snapshot.answer (snapshot : Snapshot) : Question → Except LoadError Answer
  | .degree id direction type => .count <$> snapshot.degree id direction type
  | .relationships id direction type => .references <$> snapshot.relationships id direction type
  | .property id name => .value <$> snapshot.property id name

/-- What a cursor on tables answers. -/
def Cursor.answer : Question → StateM Cursor Answer
  | .degree id direction type => .count <$> Cursor.degree id direction type
  | .relationships id direction type => .references <$> Cursor.relationships id direction type
  | .property id name => do return .value ((← get).tables.property id name)

/-- Tables that answer as a snapshot does: a cursor, asked one question after another, and a scan,
which delivers the same nodes by ascending ids. -/
structure Tables.Agrees (tables : Tables) (snapshot : Snapshot) : Prop where
  answers : ∀ questions : List Question,
    ((questions.mapM Cursor.answer).run (.openOn tables)).1.map .ok = questions.map snapshot.answer
  scans : ∀ label,
    (tables.snapshot.scanNodes label).failure = (snapshot.scanNodes label).failure ∧
      (tables.snapshot.scanNodes label).ids.Perm (snapshot.scanNodes label).ids
  ascending : ∀ label,
    (tables.snapshot.scanNodes label).ids.Pairwise fun first second => first.val < second.val

/-! ## The order of scans -/

namespace Tables

/-- **A scan goes by ascending ids.** -/
theorem ascending_nodesWith (tables : Tables) (label : Option String) :
    (tables.nodesWith label).Pairwise fun first second => first.val < second.val := by
  have hlt : ∀ first second : ExternalId, compare first second = .lt → first.val < second.val := by
    intro first second hcompare
    rw [compare_externalId] at hcompare
    exact Std.compare_eq_lt.mp hcompare
  cases label with
  | none => exact Std.TreeMap.ordered_keys.imp (hlt _ _)
  | some label => exact Std.TreeSet.ordered_toList.imp (hlt _ _)

end Tables

/-! ## The remembered type -/

namespace Tables

/-- The token by which relationships are filtered. -/
def filterToken (tables : Tables) : Option String → Option TypeToken
  | none => some allTypes
  | some name => tables.types[name]?

end Tables

namespace Cursor

/-- A cursor on tables that remembers, if anything, what they say of a type. -/
structure Reads (cursor : Cursor) (tables : Tables) : Prop where
  same : cursor.tables = tables
  resolved : ∀ name token, cursor.resolved = some (name, token) → token = tables.types[name]?

theorem reads_openOn (tables : Tables) : (openOn tables).Reads tables where
  same := rfl
  resolved name token h := by cases h

/-- **Looking up a type** answers what the tables say, also if it is remembered. -/
theorem Reads.token {cursor : Cursor} {tables : Tables} (h : cursor.Reads tables)
    (type : Option String) :
    ((token type).run cursor).1 = tables.filterToken type ∧ ((token type).run cursor).2.Reads tables := by
  obtain ⟨rfl, hresolved⟩ := h
  have hlookup : ∀ name : String,
      ({ cursor with resolved := some (name, cursor.tables.types[name]?) } : Cursor).Reads
        cursor.tables := by
    refine fun name => ⟨rfl, fun known token hknown => ?_⟩
    obtain ⟨rfl, rfl⟩ := Prod.mk.inj (Option.some.inj hknown)
    rfl
  cases type with
  | none => exact ⟨rfl, rfl, hresolved⟩
  | some name =>
    show (Cursor.token (some name) cursor).1 = _ ∧ (Cursor.token (some name) cursor).2.Reads _
    unfold Cursor.token
    cases hremembered : cursor.resolved with
    | none => exact ⟨rfl, hlookup name⟩
    | some entry =>
      obtain ⟨known, token⟩ := entry
      by_cases hknown : known = name
      · subst hknown
        simp only [if_pos]
        exact ⟨hresolved known token hremembered, rfl, hresolved⟩
      · simp only [if_neg hknown]
        exact ⟨rfl, hlookup name⟩

/-- What is answered once the type is looked up. -/
theorem run_degree (cursor : Cursor) (id : ExternalId) (direction : Direction) (type : Option String) :
    (degree id direction type).run cursor =
      (match ((token type).run cursor).1 with
        | none => 0
        | some token => counted ((Cursor.token type).run cursor).2.tables id direction token,
      ((token type).run cursor).2) := by
  unfold degree
  rw [StateT.run_bind]
  show (match ((token type).run cursor).1 with | none => _ | some token => _ : StateM Cursor Nat).run _ = _
  cases ((token type).run cursor).1 with
  | none => rfl
  | some token => rfl

/-- What is read into a buffer once the type is looked up does not depend on what the buffer held. -/
theorem run_readInto (cursor : Cursor) (id : ExternalId) (direction : Direction) (type : Option String)
    (buffer : Array RelationshipRef) :
    (readInto id direction type buffer).run cursor =
      (match ((token type).run cursor).1 with
        | none => #[]
        | some token =>
          ((parts direction).flatMap (entriesIn ((Cursor.token type).run cursor).2.tables id token)).toArray,
      ((token type).run cursor).2) := by
  have hcleared : buffer.shrink 0 = #[] := by
    rw [← Array.size_eq_zero_iff, Array.size_shrink, Nat.zero_min]
  unfold readInto
  rw [hcleared, StateT.run_bind]
  show (match ((token type).run cursor).1 with
    | none => _
    | some token => _ : StateM Cursor (Array RelationshipRef)).run _ = _
  cases ((token type).run cursor).1 with
  | none => rfl
  | some token =>
    have hfilled : ∀ entries : Direction → List RelationshipRef,
        (parts direction).foldl (fun (found : Array RelationshipRef) part => found ++ entries part) #[]
          = ((parts direction).flatMap entries).toArray := by
      cases direction <;> simp [parts]
    exact congrArg (fun found => (found, ((Cursor.token type).run cursor).2)) (hfilled _)

theorem run_relationships (cursor : Cursor) (id : ExternalId) (direction : Direction)
    (type : Option String) :
    (relationships id direction type).run cursor =
      (match ((token type).run cursor).1 with
        | none => []
        | some token =>
          (parts direction).flatMap (entriesIn ((Cursor.token type).run cursor).2.tables id token),
      ((token type).run cursor).2) := by
  have hrun := cursor.run_readInto id direction type #[]
  unfold relationships
  rw [StateT.run_map, hrun]
  cases ((token type).run cursor).1 with
  | none => rfl
  | some token => rfl

end Cursor

/-! ## Answers -/

/-- **The counts are those of the entries found**, whatever these are filtered by. -/
theorem Tables.Sound.counted_eq {tables : Tables} (h : tables.Sound) (id : ExternalId)
    (direction : Direction) (token : TypeToken) :
    Cursor.counted tables id direction token
      = ((Cursor.parts direction).flatMap (Cursor.entriesIn tables id token)).length := by
  have hdegree : ∀ part, part ≠ .both → tables.degrees.getD ⟨id, part, token⟩ 0
      = (Cursor.entriesIn tables id token part).length := by
    intro part hpart
    rw [h.degrees id part token hpart]
    exact (List.length_map _).symm
  unfold Cursor.counted
  cases direction with
  | outgoing => simp [Cursor.parts, hdegree .outgoing]
  | incoming => simp [Cursor.parts, hdegree .incoming]
  | both => simp [Cursor.parts, hdegree .outgoing, hdegree .incoming]

namespace Mirrors

variable {tables : Tables} {graph : MemoryGraph}

/-- Types are told apart by their tokens. -/
theorem passes_iff (h : Mirrors tables graph) {type : Option String} {token : TypeToken}
    (htoken : tables.filterToken type = some token) {record : RelationshipRecord}
    (hrecord : record ∈ graph.relationships) (entry : IndexEntry)
    (hentry : entry.token = tables.tokenOf record.type) :
    Tables.passes token entry = MemoryGraph.hasType type record := by
  obtain ⟨own, hown⟩ := h.known record hrecord
  rw [Tables.tokenOf_eq hown] at hentry
  unfold Tables.passes MemoryGraph.hasType
  rw [hentry]
  cases type with
  | none =>
    obtain rfl : allTypes = token := Option.some.inj htoken
    rfl
  | some name =>
    have hname : tables.types[name]? = some token := htoken
    have hpositive : token ≠ allTypes := (h.sound.tokens name token hname).1.ne'
    have hiff : token = own ↔ record.type = name := by
      constructor
      · rintro rfl
        exact h.sound.types _ _ _ hown hname
      · rintro rfl
        exact Option.some.inj (hname.symm.trans hown)
    rw [Bool.eq_iff_iff]
    simp [hpositive, hiff]

/-- The entries that pass a filter are the relationships that pass it. -/
theorem entries_eq (h : Mirrors tables graph) {type : Option String} {token : TypeToken}
    (htoken : tables.filterToken type = some token) (endpoint other : RelationshipRecord → ExternalId)
    (id : ExternalId) :
    ((graph.indexed endpoint other tables.tokenOf id).filter (Tables.passes token)).map
        (fun entry => (⟨entry.other, entry.id⟩ : RelationshipRef))
      = ((graph.ofType type).filter fun both => endpoint both.1 = id).map
        fun both => ⟨other both.1, both.2⟩ := by
  unfold MemoryGraph.indexed MemoryGraph.ofType
  rw [List.filter_map, List.map_map, List.filter_filter, List.filter_filter]
  congr 1
  apply List.filter_congr
  rintro ⟨record, number⟩ hmem
  have hget := List.mem_zipIdx_iff_getElem?.mp hmem
  rw [Array.getElem?_toList] at hget
  rw [Function.comp_apply, h.passes_iff htoken (Array.mem_of_getElem? hget) _ rfl, Bool.and_comm]

/-- **What an index holds** for a node are the relationships of the graph there. -/
theorem entriesIn_eq (h : Mirrors tables graph) {type : Option String} {token : TypeToken}
    (htoken : tables.filterToken type = some token) (id : ExternalId) :
    Cursor.entriesIn tables id token .outgoing = graph.leaving type id ∧
      Cursor.entriesIn tables id token .incoming = graph.arriving type id := by
  have hentries : ∀ part, Cursor.entriesIn tables id token part
      = ((tables.entriesOf part id).filter (Tables.passes token)).map
        fun entry => ⟨entry.other, entry.id⟩ := fun _ => rfl
  rw [hentries, hentries, h.outgoing, h.incoming]
  exact ⟨h.entries_eq htoken _ _ id, h.entries_eq htoken _ _ id⟩

theorem flatMap_entriesIn_eq (h : Mirrors tables graph) {type : Option String} {token : TypeToken}
    (htoken : tables.filterToken type = some token) (id : ExternalId) (direction : Direction) :
    (Cursor.parts direction).flatMap (Cursor.entriesIn tables id token)
      = graph.relationshipsOf id direction type := by
  obtain ⟨hout, hin⟩ := h.entriesIn_eq htoken id
  rw [h.memory.relationshipsOf_eq]
  cases direction with
  | outgoing => simp [Cursor.parts, hout]
  | incoming => simp [Cursor.parts, hin]
  | both => simp [Cursor.parts, hout, hin]

/-- The counts are those of the relationships found. -/
theorem counted_eq (h : Mirrors tables graph) {type : Option String} {token : TypeToken}
    (htoken : tables.filterToken type = some token) (id : ExternalId) (direction : Direction) :
    Cursor.counted tables id direction token = (graph.relationshipsOf id direction type).length := by
  rw [h.sound.counted_eq, h.flatMap_entriesIn_eq htoken]

/-- A type that was never written has no relationships. -/
theorem relationshipsOf_eq_nil (h : Mirrors tables graph) {type : Option String}
    (htoken : tables.filterToken type = none) (id : ExternalId) (direction : Direction) :
    graph.relationshipsOf id direction type = [] := by
  have hnone : graph.ofType type = [] := by
    cases type with
    | none => cases htoken
    | some name =>
      rw [List.eq_nil_iff_forall_not_mem]
      intro both hboth
      obtain ⟨token, htype⟩ := h.known both.1
        (Array.mem_toList_iff.mp (MemoryGraph.mem_relationships_of_mem_ofType hboth))
      obtain rfl : both.1.type = name := by
        simpa [MemoryGraph.hasType] using (MemoryGraph.mem_ofType_iff.mp hboth).2
      have hunknown : tables.types[both.1.type]? = none := htoken
      rw [htype] at hunknown
      cases hunknown
  rw [h.memory.relationshipsOf_eq]
  cases direction <;> simp [MemoryGraph.leaving, MemoryGraph.arriving, hnone]

/-- The same relationships have the same properties. -/
theorem property_eq (h : Mirrors tables graph) (id : RelationshipId) (name : String) :
    tables.property id name = graph.property id name := by
  unfold Tables.property MemoryGraph.property
  rw [h.relationships]
  cases graph.relationships[id]? with
  | none => rfl
  | some record => rfl

/-- **A cursor answers** as the graph does, whatever it was asked before. -/
theorem answer_eq (h : Mirrors tables graph) {cursor : Cursor} (hreads : cursor.Reads tables)
    (question : Question) :
    .ok ((Cursor.answer question).run cursor).1 = graph.answers.answer question ∧
      ((Cursor.answer question).run cursor).2.Reads tables := by
  cases question with
  | degree id direction type =>
    obtain ⟨htoken, hnext⟩ := hreads.token type
    have hrun := cursor.run_degree id direction type
    rw [htoken, hnext.same] at hrun
    show Except.ok (Answer.count ((Cursor.degree id direction type).run cursor).1)
      = .ok (.count (graph.relationshipsOf id direction type).length) ∧
        ((Cursor.degree id direction type).run cursor).2.Reads tables
    rw [hrun]
    cases hfilter : tables.filterToken type with
    | none =>
      rw [h.relationshipsOf_eq_nil hfilter]
      exact ⟨rfl, hnext⟩
    | some token =>
      rw [← h.counted_eq hfilter]
      exact ⟨rfl, hnext⟩
  | relationships id direction type =>
    obtain ⟨htoken, hnext⟩ := hreads.token type
    have hrun := cursor.run_relationships id direction type
    rw [htoken, hnext.same] at hrun
    show Except.ok (Answer.references ((Cursor.relationships id direction type).run cursor).1)
      = .ok (.references (graph.relationshipsOf id direction type)) ∧
        ((Cursor.relationships id direction type).run cursor).2.Reads tables
    rw [hrun]
    cases hfilter : tables.filterToken type with
    | none =>
      rw [h.relationshipsOf_eq_nil hfilter]
      exact ⟨rfl, hnext⟩
    | some token =>
      rw [← h.flatMap_entriesIn_eq hfilter]
      exact ⟨rfl, hnext⟩
  | property id name =>
    refine ⟨?_, hreads⟩
    show Except.ok (Answer.value (cursor.tables.property id name)) = .ok (.value (graph.property id name))
    rw [hreads.same, h.property_eq]

/-- **One cursor, asked again and again**, answers as the graph does. -/
theorem answers_eq (h : Mirrors tables graph) (questions : List Question) :
    ∀ {cursor : Cursor}, cursor.Reads tables →
      ((questions.mapM Cursor.answer).run cursor).1.map .ok = questions.map graph.answers.answer := by
  induction questions with
  | nil => exact fun _ => rfl
  | cons question questions ih =>
    intro cursor hreads
    obtain ⟨hanswer, hnext⟩ := h.answer_eq hreads question
    rw [List.mapM_cons, List.map_cons, ← hanswer, ← ih hnext]
    rfl

/-! ## Scans -/

theorem mem_nodesWith_iff (h : Mirrors tables graph) (label : Option String) (id : ExternalId) :
    id ∈ tables.nodesWith label ↔ id ∈ graph.nodesWith label := by
  have hgraph : id ∈ graph.nodesWith label ↔
      ∃ labels, graph.labelsAt id = some labels ∧ label.all labels.contains = true := by
    simp only [MemoryGraph.nodesWith, MemoryGraph.labelsAt, List.mem_map, List.mem_filter,
      Option.map_eq_some_iff, h.memory.find?_eq_some_iff, Array.mem_toList_iff]
    constructor
    · rintro ⟨node, ⟨hnode, hlabel⟩, hid⟩
      exact ⟨node.labels, ⟨node, ⟨hnode, hid⟩, rfl⟩, hlabel⟩
    · rintro ⟨labels, ⟨node, ⟨hnode, hid⟩, rfl⟩, hlabel⟩
      exact ⟨node, ⟨hnode, hlabel⟩, hid⟩
  rw [hgraph]
  cases label with
  | none =>
    show id ∈ tables.nodes.keys ↔ _
    rw [Std.TreeMap.mem_keys, Std.TreeMap.mem_iff_isSome_getElem?, h.nodes, Option.isSome_iff_exists]
    simp
  | some label =>
    show id ∈ (tables.labels.getD label {}).toList ↔ _
    rw [Std.TreeSet.mem_toList, h.sound.labels, Tables.labelsOf, Std.TreeMap.getD_eq_getD_getElem?,
      h.nodes]
    cases graph.labelsAt id with
    | none => simp
    | some labels => simp

/-- **Tables that say the same as a graph** answer as it does. -/
theorem agrees (h : Mirrors tables graph) : tables.Agrees graph.answers where
  answers questions := h.answers_eq questions (Cursor.reads_openOn tables)
  scans label := by
    refine ⟨rfl, ?_⟩
    have hdistinct : (tables.nodesWith label).Nodup := by
      refine (tables.ascending_nodesWith label).imp ?_
      rintro first second hlt rfl
      exact UInt64.lt_irrefl _ hlt
    exact (List.perm_ext_iff_of_nodup hdistinct (h.memory.nodup_nodesWith label)).mpr
      (h.mem_nodesWith_iff label)
  ascending := tables.ascending_nodesWith

end Mirrors

end CompactGraph
