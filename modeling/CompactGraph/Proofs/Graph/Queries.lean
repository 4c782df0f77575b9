/-
# Queries agree

The neighbours of a node in a direction are those of the lists that the direction reads, one list after the
other.  A graph can be asked for them, for their number, and to hand them to a visitor, with or without
weights.  All these ways go through the same neighbours in the same order, and a visitor that refuses one of
them is not handed any other, not even from another list.
-/
import CompactGraph.Graph.Graph
import CompactGraph.Proofs.Adjacency.Lists
import CompactGraph.Proofs.Outcomes

namespace CompactGraph

/-! ## Visitors -/

section Visitors

variable {α β σ : Type}

/-- The state of a visitor that has been handed some elements, whatever it has answered. -/
def afterVisits (visit : α → σ → σ × Bool) (elements : List α) (state : σ) : σ :=
  elements.foldl (fun state a => (visit a state).1) state

/-- The elements that a visitor is handed of those that there are: it takes all of them but the last, and
if they are not all there are, it refuses the last. -/
structure HandedOut (visit : α → σ → σ × Bool) (all handed : List α) (state : σ) : Prop where
  front : handed <+: all
  taken : ∀ before a after, handed = before ++ a :: after → after ≠ [] →
    (visit a (afterVisits visit before state)).2 = true
  ends : handed = all ∨ ∃ before a, handed = before ++ [a] ∧
    (visit a (afterVisits visit before state)).2 = false

/-- A visitor that takes the first element is handed what it would be handed of the others. -/
theorem HandedOut.cons {visit : α → σ → σ × Bool} {all handed : List α} {a : α} {state next : σ}
    (hvisit : visit a state = (next, true)) (h : HandedOut visit all handed next) :
    HandedOut visit (a :: all) (a :: handed) state := by
  have hnext : ∀ elements, afterVisits visit (a :: elements) state = afterVisits visit elements next := by
    intro elements
    rw [afterVisits, List.foldl_cons, hvisit]
    rfl
  refine ⟨List.prefix_cons_inj a |>.mpr h.front, fun before b after hsplit hafter => ?_, ?_⟩
  · cases before with
    | nil =>
      obtain ⟨rfl, -⟩ := List.cons.inj hsplit
      exact congrArg Prod.snd hvisit
    | cons first before =>
      obtain ⟨rfl, hrest⟩ := List.cons.inj hsplit
      rw [hnext]
      exact h.taken before b after hrest hafter
  · rcases h.ends with rfl | ⟨before, b, rfl, hrefused⟩
    · exact .inl rfl
    · exact .inr ⟨a :: before, b, rfl, by rw [hnext]; exact hrefused⟩

/-- **A visit stops** at the first element that is refused, and leaves the state that the visitor has
reached then. -/
theorem exists_handedOut (visit : α → σ → σ × Bool) (all : List α) :
    ∀ state, ∃ handed, HandedOut visit all handed state ∧
      (visitWhile visit all state).1 = afterVisits visit handed state := by
  induction all with
  | nil => exact fun state => ⟨[], ⟨List.prefix_rfl, by simp, .inl rfl⟩, rfl⟩
  | cons a all ih =>
    intro state
    rcases hvisit : visit a state with ⟨next, taken⟩
    cases taken with
    | false =>
      refine ⟨[a], ⟨⟨all, rfl⟩, fun before b after hsplit hafter => ?_, .inr ⟨[], a, rfl, ?_⟩⟩, ?_⟩
      · have hlength := congrArg List.length hsplit
        simp only [List.length_append, List.length_cons, List.length_nil] at hlength
        exact absurd (List.length_eq_zero_iff.mp (by omega)) hafter
      · exact congrArg Prod.snd hvisit
      · simp only [visitWhile, hvisit, afterVisits, List.foldl_cons, List.foldl_nil]
    | true =>
      obtain ⟨handed, hhanded, hstate⟩ := ih next
      refine ⟨a :: handed, hhanded.cons hvisit, ?_⟩
      simp only [visitWhile, hvisit, hstate, afterVisits, List.foldl_cons]

theorem visitWhile_append (visit : α → σ → σ × Bool) (first second : List α) :
    ∀ state, visitWhile visit (first ++ second) state =
      match visitWhile visit first state with
      | (state, true) => visitWhile visit second state
      | (state, false) => (state, false) := by
  induction first with
  | nil => exact fun _ => rfl
  | cons a first ih =>
    intro state
    rw [List.cons_append, visitWhile, visitWhile]
    obtain ⟨next, taken⟩ := visit a state
    cases taken with
    | false => rfl
    | true => exact ih next

theorem visitWhile_map (visit : β → σ → σ × Bool) (f : α → β) (elements : List α) :
    visitWhile visit (elements.map f) = visitWhile (fun a => visit (f a)) elements := by
  induction elements with
  | nil => rfl
  | cons a elements ih =>
    funext state
    rw [List.map_cons, visitWhile, visitWhile, ih]

/-- **Visits within a visit** are one visit of all elements: a refusal ends both. -/
theorem visitWhile_flatMap (visit : β → σ → σ × Bool) (elements : α → List β) (items : List α) :
    ∀ state, visitWhile visit (items.flatMap elements) state
      = visitWhile (fun item => visitWhile visit (elements item)) items state := by
  induction items with
  | nil => exact fun _ => rfl
  | cons item items ih =>
    intro state
    rw [List.flatMap_cons, visitWhile_append, visitWhile]
    obtain ⟨next, taken⟩ := visitWhile visit (elements item) state
    cases taken with
    | false => rfl
    | true => exact ih next

end Visitors

/-! ## Asking a graph -/

/-- The neighbours of a node in a list, if there is one. -/
def AdjacencyList.neighborsIn? (list : Option AdjacencyList) (node : NodeId) : List NodeId :=
  match list with
  | some list => list.neighbors node
  | none => []

namespace Graph

/-- What a graph tells about the neighbours of a node in a direction, however it is asked.  The first of them
are targets of relationships that start at the node or, in an undirected graph, have it as an end; the others
are sources of relationships that end at the node. -/
structure Tells (graph : Graph) (node : NodeId) (direction : Direction) (targets sources : List NodeId) :
    Prop where
  neighbors : graph.neighbors node direction = targets ++ sources
  degree : graph.degree node direction = targets.length + sources.length
  each : ∀ {σ : Type} (visit : NodeId → NodeId → σ → σ × Bool) (state : σ), ∃ handed,
    HandedOut (visit node) (targets ++ sources) handed state ∧
      graph.forEachNeighbor node direction visit state = afterVisits (visit node) handed state
  eachWeighted : ∀ {σ : Type} (visit : NodeId → NodeId → Float → σ → σ × Bool) (state : σ), ∃ handed,
    HandedOut (fun neighbor => visit node neighbor.1 neighbor.2)
        (targets.map (fun other => (other, graph.weight node other))
          ++ sources.map fun other => (other, graph.weight other node)) handed state ∧
      graph.forEachWeighted node direction visit state
        = afterVisits (fun neighbor => visit node neighbor.1 neighbor.2) handed state

/-- The neighbours of a node in a direction, with the weights between them. -/
def weightedNeighbors (graph : Graph) (node : NodeId) (direction : Direction) : List (NodeId × Float) :=
  (graph.listsRead direction).flatMap fun list =>
    (graph.targets node list).map fun other => (other, graph.weightIn list node other)

theorem map_fst_weightedNeighbors (graph : Graph) (node : NodeId) (direction : Direction) :
    (graph.weightedNeighbors node direction).map Prod.fst = graph.neighbors node direction := by
  rw [weightedNeighbors, neighbors, List.map_flatMap]
  simp only [List.map_map, Function.comp_def, List.map_id']

/-- The degree of a node is the number of its neighbours. -/
theorem degree_eq_length (graph : Graph) (node : NodeId) (direction : Direction) :
    graph.degree node direction = (graph.neighbors node direction).length := by
  have hlist : ∀ list, ((graph.list? list).map fun list => list.degree node).getD 0
      = (graph.targets node list).length := by
    intro list
    rw [targets]
    cases graph.list? list <;> rfl
  rw [degree, neighbors, List.flatMap_def, ← total_map_length, List.map_map]
  simp only [hlist]
  rfl

/-- Neighbours are handed out with their weights as they are listed. -/
theorem forEachWeighted_eq {σ : Type} (graph : Graph) (node : NodeId) (direction : Direction)
    (visit : NodeId → NodeId → Float → σ → σ × Bool) (state : σ) :
    graph.forEachWeighted node direction visit state
      = (visitWhile (fun neighbor => visit node neighbor.1 neighbor.2)
        (graph.weightedNeighbors node direction) state).1 := by
  rw [weightedNeighbors, visitWhile_flatMap, forEachWeighted]
  simp only [visitWhile_map]

/-- **A graph tells** what is in the lists that it reads. -/
theorem tells_of_eq {graph : Graph} {node : NodeId} {direction : Direction} {targets sources : List NodeId}
    (h : graph.weightedNeighbors node direction
      = targets.map (fun other => (other, graph.weight node other))
        ++ sources.map fun other => (other, graph.weight other node)) :
    graph.Tells node direction targets sources := by
  have hneighbors : graph.neighbors node direction = targets ++ sources := by
    rw [← map_fst_weightedNeighbors, h, List.map_append, List.map_map, List.map_map]
    simp only [Function.comp_def, List.map_id']
  refine ⟨hneighbors, ?_, fun visit state => ?_, fun visit state => ?_⟩
  · rw [degree_eq_length, hneighbors, List.length_append]
  · rw [forEachNeighbor, hneighbors]
    exact exists_handedOut (visit node) _ state
  · rw [forEachWeighted_eq, h]
    exact exists_handedOut _ _ state

/-! ## Graphs that are put together -/

variable {idMap : IdMap} {weights : Option WeightTable} {defaultWeight : Float} {graph : Graph}

theorem ofParts_eq_ok {outgoing incoming : Option AdjacencyList} {direction : Direction}
    (h : ofParts idMap outgoing incoming weights defaultWeight direction = .ok graph) :
    graph = ⟨idMap, outgoing, incoming, weights, defaultWeight, direction, false⟩ := by
  obtain ⟨_, _, h⟩ := bind_eq_ok_iff.mp h
  obtain ⟨_, _, h⟩ := bind_eq_ok_iff.mp h
  exact (Except.ok.inj h).symm

theorem ofUndirected_eq_ok {list : AdjacencyList}
    (h : ofUndirected idMap list weights defaultWeight = .ok graph) :
    graph = ⟨idMap, some list, none, weights, defaultWeight, .both, true⟩ := by
  obtain ⟨_, hparts, h⟩ := bind_eq_ok_iff.mp h
  obtain rfl := ofParts_eq_ok hparts
  exact (Except.ok.inj h).symm

theorem targets_eq (node : NodeId) (direction : Direction) :
    graph.targets node direction = AdjacencyList.neighborsIn? (graph.list? direction) node := by
  rw [targets]
  cases graph.list? direction <;> rfl

/-- **All queries of a graph agree.**  A graph with a list for each direction tells about any node what the
list of the direction holds, and in both directions first the targets and then the sources.  An undirected
graph tells in every direction what its one list holds.  Weights are looked up by source and target. -/
theorem queries_agree (idMap : IdMap) (weights : Option WeightTable) (defaultWeight : Float)
    (graph : Graph) (node : NodeId) :
    (∀ outgoing incoming direction,
      ofParts idMap outgoing incoming weights defaultWeight direction = .ok graph →
      graph.Tells node .outgoing (AdjacencyList.neighborsIn? outgoing node) [] ∧
      graph.Tells node .incoming [] (AdjacencyList.neighborsIn? incoming node) ∧
      graph.Tells node .both (AdjacencyList.neighborsIn? outgoing node)
        (AdjacencyList.neighborsIn? incoming node) ∧
      ∀ source target, graph.weight source target
        = (weights.map fun table => table.get (.ofPair source target)).getD defaultWeight) ∧
    ∀ list, ofUndirected idMap list weights defaultWeight = .ok graph →
      (∀ direction, graph.Tells node direction (list.neighbors node) []) ∧
      ∀ source target, graph.weight source target
        = (weights.map fun table => table.get (.ofPair source target)).getD defaultWeight := by
  have hweight : ∀ source target, graph.weight source target
      = (graph.weights.map fun table => table.get (.ofPair source target)).getD graph.defaultWeight := by
    intro source target
    rw [weight]
    cases graph.weights <;> rfl
  constructor
  · intro outgoing incoming direction h
    obtain rfl := ofParts_eq_ok h
    refine ⟨tells_of_eq ?_, tells_of_eq ?_, tells_of_eq ?_, hweight⟩ <;>
      simp [weightedNeighbors, listsRead, targets_eq, list?, weightIn]
  · intro list h
    obtain rfl := ofUndirected_eq_ok h
    refine ⟨fun direction => tells_of_eq ?_, hweight⟩
    simp [weightedNeighbors, listsRead, targets_eq, list?, weightIn, AdjacencyList.neighborsIn?]

/-- The numbers of three nodes. -/
def threeNodes : IdMap :=
  IdMap.Builder.build { externals := #[⟨100⟩, ⟨200⟩, ⟨300⟩], highest := ⟨300⟩, capacity := 3 }

/-- Node 1 has one neighbour in each direction, and in an undirected graph node 2 has two. -/
theorem queries_agree_three : ∃ graph undirected,
    ofParts threeNodes (some (.ofRows [[⟨1⟩, ⟨2⟩], [⟨2⟩], []])) (some (.ofRows [[], [⟨0⟩], [⟨0⟩, ⟨1⟩]]))
      (some (.empty 1 .keepFirst)) 1 .both = .ok graph ∧
    graph.Tells ⟨1⟩ .both [⟨2⟩] [⟨0⟩] ∧
    ofUndirected threeNodes (.ofRows [[⟨1⟩, ⟨2⟩], [⟨0⟩, ⟨2⟩], [⟨0⟩, ⟨1⟩]]) none 1 = .ok undirected ∧
    undirected.Tells ⟨2⟩ .incoming [⟨0⟩, ⟨1⟩] [] :=
  ⟨_, _, rfl,
    ((queries_agree threeNodes (some (.empty 1 .keepFirst)) 1 _ ⟨1⟩).1
      (some (.ofRows [[⟨1⟩, ⟨2⟩], [⟨2⟩], []])) (some (.ofRows [[], [⟨0⟩], [⟨0⟩, ⟨1⟩]])) .both rfl).2.2.1,
    rfl,
    ((queries_agree threeNodes none 1 _ ⟨2⟩).2
      (.ofRows [[⟨1⟩, ⟨2⟩], [⟨0⟩, ⟨2⟩], [⟨0⟩, ⟨1⟩]]) rfl).1 .incoming⟩

end Graph

end CompactGraph
