/-
# Cursors that remember

A cursor remembers the type that it was asked about last, also one that no relationship has.  Nobody can
tell: whatever was asked before, a cursor on tables answers as one that was just opened on them
(`Cursor.Reads.reply_eq`), and what the caller's buffer held before is gone.  That degrees are the numbers of
the relationships found is a matter of the tables; it holds of those that a store has now and of all that
it keeps as snapshots.
-/
import CompactGraph.Proofs.Store.Consistency

namespace CompactGraph

/-! ## Queries -/

/-- A query of a cursor.  Relationships are read into a buffer of the caller. -/
inductive CursorQuery where
  | degree (id : ExternalId) (direction : Direction) (type : Option String)
  | relationships (id : ExternalId) (direction : Direction) (type : Option String)
    (buffer : Array RelationshipRef)

/-- What a query comes back with: a number, or the buffer as it is then. -/
inductive CursorReply where
  | count (degree : Nat)
  | filled (buffer : Array RelationshipRef)

/-- Ask a cursor. -/
def Cursor.reply : CursorQuery → StateM Cursor CursorReply
  | .degree id direction type => .count <$> Cursor.degree id direction type
  | .relationships id direction type buffer => .filled <$> Cursor.readInto id direction type buffer

namespace CursorQuery

/-- The same query with an empty buffer. -/
def emptied : CursorQuery → CursorQuery
  | degree id direction type => degree id direction type
  | relationships id direction type _ => relationships id direction type #[]

/-- The reply of a cursor on tables that has not been asked anything. -/
def afresh (tables : Tables) (query : CursorQuery) : CursorReply :=
  ((Cursor.reply query).run (.openOn tables)).1

end CursorQuery

/-! ## What a cursor replies -/

namespace Tables

/-- The relationships of a node, found by the token of their type. -/
def referencesOf (tables : Tables) (id : ExternalId) (direction : Direction) (type : Option String) :
    List RelationshipRef :=
  match tables.filterToken type with
  | none => []
  | some token => (Cursor.parts direction).flatMap (Cursor.entriesIn tables id token)

end Tables

namespace Cursor

variable {cursor : Cursor} {tables : Tables}

/-- **A degree is the number of relationships found**, and asking for it keeps what a cursor remembers
true. -/
theorem Reads.run_degree (h : cursor.Reads tables) (hsound : tables.Sound) (id : ExternalId)
    (direction : Direction) (type : Option String) :
    ((degree id direction type).run cursor).1 = (tables.referencesOf id direction type).length ∧
      ((degree id direction type).run cursor).2.Reads tables := by
  obtain ⟨htoken, hnext⟩ := h.token type
  rw [cursor.run_degree, htoken, hnext.same, Tables.referencesOf]
  refine ⟨?_, hnext⟩
  cases tables.filterToken type with
  | none => rfl
  | some token => exact hsound.counted_eq id direction token

/-- **The buffer holds the relationships found**, and nothing that it held before. -/
theorem Reads.run_readInto (h : cursor.Reads tables) (id : ExternalId) (direction : Direction)
    (type : Option String) (buffer : Array RelationshipRef) :
    ((readInto id direction type buffer).run cursor).1
        = (tables.referencesOf id direction type).toArray ∧
      ((readInto id direction type buffer).run cursor).2.Reads tables := by
  obtain ⟨htoken, hnext⟩ := h.token type
  rw [cursor.run_readInto, htoken, hnext.same, Tables.referencesOf]
  refine ⟨?_, hnext⟩
  cases tables.filterToken type with
  | none => rfl
  | some token => rfl

/-- **A cursor replies** as one that was just opened, and so will it afterwards. -/
theorem Reads.reply_eq (h : cursor.Reads tables) (hsound : tables.Sound) (query : CursorQuery) :
    ((reply query).run cursor).1 = query.emptied.afresh tables ∧
      ((reply query).run cursor).2.Reads tables := by
  have hopen := reads_openOn tables
  cases query with
  | degree id direction type =>
    obtain ⟨hdegree, hnext⟩ := h.run_degree hsound id direction type
    refine ⟨?_, hnext⟩
    show CursorReply.count ((degree id direction type).run cursor).1
      = .count ((degree id direction type).run (openOn tables)).1
    rw [hdegree, (hopen.run_degree hsound id direction type).1]
  | relationships id direction type buffer =>
    obtain ⟨hfound, hnext⟩ := h.run_readInto id direction type buffer
    refine ⟨?_, hnext⟩
    show CursorReply.filled ((readInto id direction type buffer).run cursor).1
      = .filled ((readInto id direction type #[]).run (openOn tables)).1
    rw [hfound, (hopen.run_readInto id direction type #[]).1]

/-- **A cursor that is asked again and again** replies as one that was just opened each time. -/
theorem Reads.replies_eq (hsound : tables.Sound) (queries : List CursorQuery) :
    ∀ {cursor : Cursor}, cursor.Reads tables →
      ((queries.mapM reply).run cursor).1 = queries.map fun query => query.emptied.afresh tables := by
  induction queries with
  | nil => exact fun _ => rfl
  | cons query queries ih =>
    intro cursor h
    obtain ⟨hreply, hnext⟩ := h.reply_eq hsound query
    rw [List.mapM_cons, List.map_cons, ← hreply, ← ih hnext]
    rfl

end Cursor

/-! ## Snapshots that a store keeps -/

namespace GraphStore

variable {store next : GraphStore}

/-- A kept snapshot was kept before, or it is of the tables as they were. -/
theorem mem_held_perform {call : StoreCall} (hcall : call.perform store = .ok next)
    {entry : String × Tables} (hentry : entry ∈ next.held) :
    entry ∈ store.held ∨ entry.2 = store.tables := by
  cases call with
  | insertNode record =>
    cases hcall
    exact Or.inl hentry
  | insertRelationship record =>
    rw [StoreCall.perform, insertRelationship] at hcall
    cases hwrite : store.tables.writeRelationship record with
    | error error => rw [hwrite] at hcall; cases hcall
    | ok written => rw [hwrite] at hcall; cases hcall; exact Or.inl hentry
  | importRecords nodes relationships =>
    rw [StoreCall.perform, importRecords] at hcall
    cases hwrite : store.tables.writeBatch nodes relationships with
    | error error => rw [hwrite] at hcall; cases hcall
    | ok written => rw [hwrite] at hcall; cases hcall; exact Or.inl hentry
  | hold name =>
    cases hcall
    rcases List.mem_cons.mp hentry with rfl | hold
    · exact Or.inr rfl
    · exact Or.inl (List.mem_filter.mp hold).1
  | release name =>
    cases hcall
    exact Or.inl (List.mem_filter.mp hentry).1
  | compact =>
    rw [StoreCall.perform, compact] at hcall
    split at hcall
    · cases hcall
      exact Or.inl hentry
    · cases hcall
  | reopen =>
    cases hcall
    exact (List.not_mem_nil hentry).elim

/-- **Kept snapshots are linked** as the tables are. -/
theorem linked_held_after (calls : List StoreCall) :
    ∀ {store : GraphStore}, store.tables.Linked → (∀ entry ∈ store.held, entry.2.Linked) →
      ∀ entry ∈ (store.after calls).held, entry.2.Linked := by
  induction calls with
  | nil => exact fun _ hheld => hheld
  | cons call calls ih =>
    intro store h hheld
    rw [after]
    cases hcall : call.perform store with
    | error error => exact ih h hheld
    | ok next =>
      refine ih (linked_perform h hcall) fun entry hentry => ?_
      rcases mem_held_perform hcall hentry with hkept | htaken
      · exact hheld entry hkept
      · rw [htaken]
        exact h

/-- All that readers see is linked, whether it is kept or current. -/
theorem linked_view (calls : List StoreCall) (name : Option String) :
    ((empty.after calls).view name).Linked := by
  have hempty : empty.tables.Linked := Tables.linked_empty
  have hnone : ∀ entry ∈ empty.held, entry.2.Linked := fun _ hentry => (List.not_mem_nil hentry).elim
  have hcurrent := linked_after calls hempty
  have hheld := linked_held_after calls hempty hnone
  rw [view]
  cases hfound : name.bind fun name => (empty.after calls).held.lookup name with
  | none => exact hcurrent
  | some tables =>
    obtain ⟨name, rfl, hlookup⟩ := Option.bind_eq_some_iff.mp hfound
    obtain ⟨before, later, hsplit, -⟩ := List.lookup_eq_some_iff.mp hlookup
    refine hheld (name, tables) ?_
    rw [hsplit]
    exact List.mem_append_right before List.mem_cons_self

/-- **What a cursor remembers cannot be told from its replies**, in every state of a store and on every
snapshot of it: each query, whatever was asked before and whatever its buffer held, comes back with what a
cursor just opened puts into an empty buffer.  A degree is the number of relationships that are read. -/
theorem cursors_reply_afresh (calls : List StoreCall) (name : Option String)
    (queries : List CursorQuery) :
    let tables := (empty.after calls).view name
    ((queries.mapM Cursor.reply).run (.openOn tables)).1
        = queries.map (fun query => query.emptied.afresh tables) ∧
      ∀ id direction type, ∃ found,
        (CursorQuery.relationships id direction type #[]).afresh tables = .filled found ∧
          (CursorQuery.degree id direction type).afresh tables = .count found.size := by
  intro tables
  have hsound : tables.Sound := (linked_view calls name).toSound
  have hopen := Cursor.reads_openOn tables
  refine ⟨Cursor.Reads.replies_eq hsound queries hopen, fun id direction type => ?_⟩
  refine ⟨(tables.referencesOf id direction type).toArray, ?_, ?_⟩
  · exact congrArg CursorReply.filled (hopen.run_readInto id direction type #[]).1
  · rw [List.size_toArray]
    exact congrArg CursorReply.count (hopen.run_degree hsound id direction type).1

end GraphStore

end CompactGraph
