/-
# Runs of a graph store

Whatever calls a graph store has seen, its tables say the same as a graph in memory into which the
writes of the calls that succeeded were written.  A snapshot that is kept stays as it was when it was
taken, so it goes on answering as that graph does.
-/
import CompactGraph.Proofs.Store.Answers
import CompactGraph.Store.GraphStore

namespace CompactGraph

namespace MemoryGraph

/-! ## Writes that may fail -/

/-- The graph after a write, or the error of the write. -/
def attempt (graph : MemoryGraph) : Write → Except LoadError MemoryGraph
  | .addNode record => .ok (graph.addNode record)
  | .insert record => Prod.snd <$> graph.insert record
  | .setProperty id name value => graph.setProperty id name value
  | .withoutDegreeCounts => .ok graph.withoutDegreeCounts

/-- The graph after a sequence of writes, or the error of the first that fails. -/
def attemptAll (graph : MemoryGraph) (writes : List Write) : Except LoadError MemoryGraph :=
  writes.foldlM attempt graph

theorem attemptAll_append (graph : MemoryGraph) (first second : List Write) :
    graph.attemptAll (first ++ second) = graph.attemptAll first >>= fun next => next.attemptAll second :=
  List.foldlM_append

theorem attemptAll_nodes (nodes : List NodeRecord) :
    ∀ graph : MemoryGraph, graph.attemptAll (nodes.map .addNode) = .ok (nodes.foldl addNode graph) := by
  induction nodes with
  | nil => exact fun _ => rfl
  | cons record nodes ih => exact fun graph => ih (graph.addNode record)

theorem attemptAll_batch (graph : MemoryGraph) (nodes : List NodeRecord)
    (relationships : List RelationshipRecord) :
    graph.attemptAll (nodes.map .addNode ++ relationships.map .insert)
      = relationships.foldlM (fun graph record => Prod.snd <$> graph.insert record)
        (nodes.foldl addNode graph) := by
  rw [attemptAll_append, attemptAll_nodes]
  exact List.foldlM_map

end MemoryGraph

/-! ## Calls -/

/-- A call on a graph store. -/
inductive StoreCall where
  | insertNode (record : NodeRecord)
  | insertRelationship (record : RelationshipRecord)
  | importRecords (nodes : List NodeRecord) (relationships : List RelationshipRecord)
  | hold (name : String)
  | release (name : String)
  | compact
  | reopen

namespace StoreCall

/-- The store after a call, or the error of the call. -/
def perform (store : GraphStore) : StoreCall → Except LoadError GraphStore
  | .insertNode record => .ok (store.insertNode record)
  | .insertRelationship record => Prod.snd <$> store.insertRelationship record
  | .importRecords nodes relationships => Prod.snd <$> store.importRecords nodes relationships
  | .hold name => .ok (store.hold name)
  | .release name => .ok (store.release name).2
  | .compact => store.compact
  | .reopen => .ok store.reopen

/-- What a call writes if it succeeds. -/
def writes : StoreCall → List MemoryGraph.Write
  | .insertNode record => [.addNode record]
  | .insertRelationship record => [.insert record]
  | .importRecords nodes relationships => nodes.map .addNode ++ relationships.map .insert
  | .hold _ | .release _ | .compact | .reopen => []

/-- Whether a call leaves the snapshot with a name alone. -/
def keeps (name : String) : StoreCall → Bool
  | .hold other | .release other => other != name
  | .reopen => false
  | _ => true

end StoreCall

namespace GraphStore

/-- The store after calls.  A call that fails changes nothing. -/
def after (store : GraphStore) : List StoreCall → GraphStore
  | [] => store
  | call :: calls =>
    match call.perform store with
    | .ok next => next.after calls
    | .error _ => store.after calls

/-- The writes of the calls that succeed, in order. -/
def written (store : GraphStore) : List StoreCall → List MemoryGraph.Write
  | [] => []
  | call :: calls =>
    match call.perform store with
    | .ok next => call.writes ++ next.written calls
    | .error _ => store.written calls

theorem after_append (second : List StoreCall) :
    ∀ (first : List StoreCall) (store : GraphStore),
      store.after (first ++ second) = (store.after first).after second
  | [], _ => rfl
  | call :: first, store => by
    rw [List.cons_append, after, after]
    split
    · exact after_append second first _
    · exact after_append second first _

/-! ## Writing into both -/

/-- A store and a graph that accept the same relationships, under the same numbers, and the same
batches. -/
structure WritesAs (store : GraphStore) (graph : MemoryGraph) : Prop where
  relationships : ∀ record id, (∃ next, store.insertRelationship record = .ok (id, next)) ↔
    ∃ next, graph.insert record = .ok (id, next)
  imports : ∀ nodes relationships,
    (∃ counts next, store.importRecords nodes relationships = .ok (counts, next)) ↔
      ∃ next, graph.attemptAll (StoreCall.importRecords nodes relationships).writes = .ok next

end GraphStore

namespace Mirrors

variable {tables : Tables} {store next : GraphStore} {graph : MemoryGraph}

/-- **Writing a batch** succeeds in both, which keeps them the same, or fails in both. -/
theorem writeBatch (h : Mirrors tables graph) (nodes : List NodeRecord)
    (relationships : List RelationshipRecord) :
    (∃ new written, tables.writeBatch nodes relationships = .ok new ∧
      graph.attemptAll (StoreCall.importRecords nodes relationships).writes = .ok written ∧
      Mirrors new written) ∨
    ((∃ error, tables.writeBatch nodes relationships = .error error) ∧
      ∃ error, graph.attemptAll (StoreCall.importRecords nodes relationships).writes = .error error) := by
  rw [StoreCall.writes, MemoryGraph.attemptAll_batch]
  exact (h.writeNodes nodes).writeRelationships relationships

/-- The same can be written into both. -/
theorem writesAs (h : Mirrors store.tables graph) : store.WritesAs graph where
  relationships record id := by
    unfold GraphStore.insertRelationship
    rcases h.writeRelationship record with ⟨number, new, written, hwrite, hinsert, -⟩ |
      ⟨⟨error, hwrite⟩, ⟨error', hinsert⟩⟩
    · rw [hwrite, hinsert]
      constructor
      · rintro ⟨next, hnext⟩
        cases hnext
        exact ⟨written, rfl⟩
      · rintro ⟨next, hnext⟩
        cases hnext
        exact ⟨_, rfl⟩
    · rw [hwrite, hinsert]
      constructor <;> rintro ⟨next, hnext⟩ <;> cases hnext
  imports nodes relationships := by
    unfold GraphStore.importRecords
    rcases h.writeBatch nodes relationships with ⟨new, written, hwrite, hattempt, -⟩ |
      ⟨⟨error, hwrite⟩, ⟨error', hattempt⟩⟩
    · rw [hwrite, hattempt]
      exact ⟨fun _ => ⟨written, rfl⟩, fun _ => ⟨_, _, rfl⟩⟩
    · rw [hwrite, hattempt]
      constructor
      · rintro ⟨counts, next, hnext⟩
        cases hnext
      · rintro ⟨next, hnext⟩
        cases hnext

/-- **A call** that succeeds writes the same into both. -/
theorem perform (h : Mirrors store.tables graph) {call : StoreCall}
    (hcall : call.perform store = .ok next) :
    ∃ written, graph.attemptAll call.writes = .ok written ∧ Mirrors next.tables written := by
  cases call with
  | insertNode record =>
    cases hcall
    exact ⟨_, rfl, h.writeNode record⟩
  | insertRelationship record =>
    rw [StoreCall.perform, GraphStore.insertRelationship] at hcall
    rcases h.writeRelationship record with ⟨id, new, written, hwrite, hinsert, hnew⟩ |
      ⟨⟨error, hwrite⟩, -⟩
    · rw [hwrite] at hcall
      cases hcall
      refine ⟨written, ?_, hnew⟩
      rw [StoreCall.writes, MemoryGraph.attemptAll, List.foldlM_cons, MemoryGraph.attempt, hinsert]
      rfl
    · rw [hwrite] at hcall
      cases hcall
  | importRecords nodes relationships =>
    rw [StoreCall.perform, GraphStore.importRecords] at hcall
    rcases h.writeBatch nodes relationships with ⟨new, written, hwrite, hattempt, hnew⟩ |
      ⟨⟨error, hwrite⟩, -⟩
    · rw [hwrite] at hcall
      cases hcall
      exact ⟨written, hattempt, hnew⟩
    · rw [hwrite] at hcall
      cases hcall
  | hold name =>
    cases hcall
    exact ⟨graph, rfl, h⟩
  | release name =>
    cases hcall
    exact ⟨graph, rfl, h⟩
  | compact =>
    rw [StoreCall.perform, GraphStore.compact] at hcall
    split at hcall
    · cases hcall
      exact ⟨graph, rfl, h⟩
    · cases hcall
  | reopen =>
    cases hcall
    exact ⟨graph, rfl, h⟩

/-- **Calls** write the same into both, as far as they succeed. -/
theorem after (calls : List StoreCall) :
    ∀ {store : GraphStore} {graph : MemoryGraph}, Mirrors store.tables graph →
      ∃ written, graph.attemptAll (store.written calls) = .ok written ∧
        Mirrors (store.after calls).tables written := by
  induction calls with
  | nil => exact fun h => ⟨_, rfl, h⟩
  | cons call calls ih =>
    intro store graph h
    rw [GraphStore.written, GraphStore.after]
    cases hcall : call.perform store with
    | error error => exact ih h
    | ok next =>
      obtain ⟨between, hbetween, hnext⟩ := h.perform hcall
      obtain ⟨written, hwritten, hafter⟩ := ih hnext
      refine ⟨written, ?_, hafter⟩
      rw [MemoryGraph.attemptAll_append, hbetween]
      exact hwritten

end Mirrors

/-! ## Snapshots -/

namespace GraphStore

variable {store next : GraphStore} {name : String} {tables : Tables}

theorem lookup_filter_of_ne {name other : String} (hne : other ≠ name) :
    ∀ held : List (String × Tables),
      (held.filter fun entry => entry.1 != other).lookup name = held.lookup name
  | [] => rfl
  | (kept, tables) :: held => by
    have ih := lookup_filter_of_ne hne held
    by_cases hkept : kept = other
    · subst hkept
      simp [List.lookup_cons, ih, beq_eq_false_iff_ne.mpr (Ne.symm hne)]
    · simp [hkept, List.lookup_cons, ih]

/-- A snapshot is taken of the tables as they are. -/
theorem lookup_hold (store : GraphStore) (name : String) :
    (store.hold name).held.lookup name = some store.tables := by
  simp [hold]

/-- A call leaves the snapshots alone that it neither takes nor gives up. -/
theorem lookup_perform {call : StoreCall} (hkeeps : call.keeps name = true)
    (hcall : call.perform store = .ok next) (hheld : store.held.lookup name = some tables) :
    next.held.lookup name = some tables := by
  cases call with
  | insertNode record =>
    cases hcall
    exact hheld
  | insertRelationship record =>
    rw [StoreCall.perform, insertRelationship] at hcall
    cases hwrite : store.tables.writeRelationship record with
    | error error => rw [hwrite] at hcall; cases hcall
    | ok written => rw [hwrite] at hcall; cases hcall; exact hheld
  | importRecords nodes relationships =>
    rw [StoreCall.perform, importRecords] at hcall
    cases hwrite : store.tables.writeBatch nodes relationships with
    | error error => rw [hwrite] at hcall; cases hcall
    | ok written => rw [hwrite] at hcall; cases hcall; exact hheld
  | hold other =>
    cases hcall
    have hne : other ≠ name := by simpa [StoreCall.keeps] using hkeeps
    rw [hold, List.lookup_cons, beq_eq_false_iff_ne.mpr (Ne.symm hne)]
    exact (lookup_filter_of_ne hne _).trans hheld
  | release other =>
    cases hcall
    have hne : other ≠ name := by simpa [StoreCall.keeps] using hkeeps
    exact (lookup_filter_of_ne hne _).trans hheld
  | compact =>
    rw [StoreCall.perform, compact] at hcall
    split at hcall
    · cases hcall
      exact hheld
    · cases hcall
  | reopen => cases hkeeps

/-- **A kept snapshot** stays as it was. -/
theorem lookup_after (calls : List StoreCall) :
    ∀ {store : GraphStore}, (∀ call ∈ calls, call.keeps name = true) →
      store.held.lookup name = some tables → (store.after calls).held.lookup name = some tables := by
  induction calls with
  | nil => exact fun _ hheld => hheld
  | cons call calls ih =>
    intro store hkeeps hheld
    have hrest : ∀ call ∈ calls, call.keeps name = true := fun other hother =>
      hkeeps other (List.mem_cons_of_mem _ hother)
    rw [after]
    cases hcall : call.perform store with
    | error error => exact ih hrest hheld
    | ok next => exact ih hrest (lookup_perform (hkeeps call List.mem_cons_self) hcall hheld)

/-- **A snapshot of a graph store**, whatever is written after it is taken, answers as a graph in memory
does that received the writes which had succeeded.  All of these succeed in memory too, and from there
the store and the graph accept the same relationships, under the same numbers, and the same batches. -/
theorem snapshots_agree_with_memory (before later : List StoreCall) (name : String)
    (hkept : ∀ call ∈ later, call.keeps name = true) :
    ∃ graph snapshot, MemoryGraph.empty.attemptAll (empty.written before) = .ok graph ∧
      graph.snapshot = .ok snapshot ∧
      ((empty.after (before ++ .hold name :: later)).view (some name)).Agrees snapshot ∧
      (empty.after before).WritesAs graph := by
  have hempty : Mirrors empty.tables .empty := mirrors_empty
  obtain ⟨graph, hgraph, hmirrors⟩ := hempty.after before
  have hview : (empty.after (before ++ .hold name :: later)).view (some name)
      = (empty.after before).tables := by
    have hheld := lookup_after later hkept ((empty.after before).lookup_hold name)
    rw [after_append]
    show (((empty.after before).hold name).after later |>.held.lookup name).getD _ = _
    rw [hheld]
    rfl
  refine ⟨graph, graph.answers, hgraph, hmirrors.memory.snapshot_eq, ?_, hmirrors.writesAs⟩
  rw [hview]
  exact hmirrors.agrees

/-- A call that failed wrote nothing, and what is written after the snapshot is taken does not reach
it. -/
theorem early_snapshot_agrees_with_memory :
    let before : List StoreCall := [
      .insertNode { id := ⟨1⟩, labels := ["Person"] },
      .insertRelationship { source := ⟨1⟩, target := ⟨9⟩, type := "KNOWS" },
      .importRecords [{ id := ⟨2⟩ }] [{ source := ⟨2⟩, target := ⟨2⟩, type := "KNOWS" }]]
    let later : List StoreCall := [
      .insertNode { id := ⟨1⟩, labels := ["City"] },
      .insertRelationship { source := ⟨1⟩, target := ⟨2⟩, type := "KNOWS" },
      .compact]
    empty.written before = [
        .addNode { id := ⟨1⟩, labels := ["Person"] }, .addNode { id := ⟨2⟩ },
        .insert { source := ⟨2⟩, target := ⟨2⟩, type := "KNOWS" }] ∧
      (∀ call ∈ later, call.keeps "early" = true) ∧
      ∃ graph snapshot, MemoryGraph.empty.attemptAll (empty.written before) = .ok graph ∧
        graph.snapshot = .ok snapshot ∧
        ((empty.after (before ++ .hold "early" :: later)).view (some "early")).Agrees snapshot ∧
        (empty.after before).WritesAs graph := by
  intro before later
  have hkept : ∀ call ∈ later, call.keeps "early" = true := by
    decide
  exact ⟨rfl, hkept, snapshots_agree_with_memory before later "early" hkept⟩

end GraphStore

end CompactGraph
