/-
# Weights of loads

The weight of a pair of loaded nodes is folded from the weights of the relationships between them, in
order of insertion.  Where both directions are loaded, a pair and its reverse have one weight, made of
what either direction folds to.  A weight is stored unless it is the default one, which is read wherever
nothing is stored.
-/
import CompactGraph.Proofs.Load.Memory

namespace CompactGraph

/-! ## What tables say -/

namespace Graph

/-- What a graph has for a pair whose weights fold to `folded`: it stores the weight, unless that is the
default one, and reads the default one where nothing is stored. -/
structure Weighs (graph : Graph) (source target : NodeId) (folded : Option Float) : Prop where
  weight : graph.weight source target
    = (folded.filter (· != graph.defaultWeight)).getD graph.defaultWeight
  stored : ∀ weight, (PairKey.ofPair source target, weight) ∈ graph.storedEntries ↔
    folded = some weight ∧ (weight != graph.defaultWeight) = true

/-- Weights are stored for pairs of loaded nodes, one for a pair, and never the default one. -/
structure StoresSparsely (graph : Graph) : Prop where
  isWeighted : graph.isWeighted = true
  nodup : (graph.storedEntries.map Prod.fst).Nodup
  loaded : ∀ entry ∈ graph.storedEntries, ∃ source target own other,
    entry.1 = .ofPair source target ∧
    graph.toExternal source = some own ∧ graph.toExternal target = some other
  explicit : ∀ entry ∈ graph.storedEntries, (entry.2 != graph.defaultWeight) = true

end Graph

/-! ## Tables of runs -/

namespace LoadRun

variable {run : LoadRun} {store : MemoryGraph}

/-- A pair of nodes that are not both loaded has no weight. -/
theorem foldPair_eq_none {source target : NodeId}
    (h : run.idMap.toExternal source = none ∨ run.idMap.toExternal target = none) :
    run.foldPair store source target = none := by
  have hforth : run.foldSeen store source target = none := by
    rcases h with h | h
    · unfold foldSeen
      rw [h]
      rfl
    · unfold foldSeen
      rw [h]
      exact Option.bind_fun_none _
  have hback : run.foldSeen store target source = none := by
    rcases h with h | h
    · unfold foldSeen
      rw [h]
      exact Option.bind_fun_none _
    · unfold foldSeen
      rw [h]
      rfl
  unfold foldPair
  split
  · exact hback
  · rw [hforth, hback]
    simp [DuplicatePolicy.join]
  · exact hforth

section Tables

variable (hstore : store.Sound) (hsnapshot : run.snapshot = store.answers) (hmap : run.idMap.Sound)
  (hrows : ∀ node, node < run.idMap.nodeCount → run.nodeRow node = .ok (run.row node))
  (hweighted : run.config.isWeighted = true) {parts : Assembled} (hholds : run.Holds parts)

include hstore hsnapshot hmap hrows hweighted hholds

/-- **The weights of a run** over a graph in memory. -/
theorem exists_table : ∃ table, parts.weights = some table ∧ table.Sound ∧
    table.defaultWeight = run.config.defaultWeight ∧
    ∀ source target, table.find? (.ofPair source target)
      = (run.foldPair store source target).filter (· != run.config.defaultWeight) := by
  have hanswers := hholds.answers
  cases hweights : parts.weights with
  | none =>
    rw [hweights] at hanswers
    have hunweighted : run.config.isWeighted = false := hanswers
    rw [hweighted] at hunweighted
    cases hunweighted
  | some table =>
    rw [hweights] at hanswers
    obtain ⟨_, hsound, hrules, hfind⟩ := hanswers
    obtain ⟨name, hname⟩ := Option.isSome_iff_exists.mp hweighted
    have hkind := run.isWeighted_mainKind.trans hweighted
    refine ⟨table, rfl, hsound, congrArg WeightRules.defaultWeight hrules, fun source target => ?_⟩
    rw [hfind, foldWeights_pairWeights hstore hsnapshot hmap hname hkind hrows]

/-- Each pair has the weight that its relationships fold to. -/
theorem weighs_graphWith (source target : NodeId) :
    (run.graphWith parts.weights).Weighs source target (run.foldPair store source target) := by
  obtain ⟨table, hweights, hsound, hdefault, hfind⟩ :=
    exists_table hstore hsnapshot hmap hrows hweighted hholds
  rw [hweights]
  refine ⟨?_, fun weight => ?_⟩
  · show (table.find? (.ofPair source target)).getD table.defaultWeight = _
    rw [hfind, hdefault]
    rfl
  · show (PairKey.ofPair source target, weight) ∈ table.entries ↔ _
    rw [hsound.mem_entries_iff, hfind, Option.filter_eq_some_iff]
    rfl

theorem storesSparsely_graphWith : (run.graphWith parts.weights).StoresSparsely := by
  have hweighs := weighs_graphWith hstore hsnapshot hmap hrows hweighted hholds
  obtain ⟨table, hweights, hsound, _, _⟩ :=
    exists_table hstore hsnapshot hmap hrows hweighted hholds
  rw [hweights] at hweighs ⊢
  refine ⟨rfl, hsound.placed.nodup_keys, ?_, ?_⟩
  · rintro ⟨key, weight⟩ hentry
    obtain ⟨source, target, rfl⟩ := key.exists_ofPair
    obtain ⟨hfolded, _⟩ := ((hweighs source target).stored weight).mp hentry
    -- a weight is stored for loaded nodes only
    have hloaded : run.idMap.toExternal source ≠ none ∧ run.idMap.toExternal target ≠ none := by
      rw [← not_or]
      intro hnone
      rw [foldPair_eq_none hnone] at hfolded
      cases hfolded
    obtain ⟨own, hown⟩ := Option.ne_none_iff_exists'.mp hloaded.1
    obtain ⟨other, hother⟩ := Option.ne_none_iff_exists'.mp hloaded.2
    exact ⟨source, target, own, other, rfl, hown, hother⟩
  · rintro ⟨key, weight⟩ hentry
    obtain ⟨source, target, rfl⟩ := key.exists_ofPair
    exact (((hweighs source target).stored weight).mp hentry).2

end Tables

/-! ## Pairs of loaded nodes -/

section Pairs

variable (store) {source target : NodeId} {own other : ExternalId}
  (hsource : run.idMap.toExternal source = some own) (htarget : run.idMap.toExternal target = some other)

include hsource htarget

theorem foldSeen_of_toExternal : run.foldSeen store source target = foldWeights run.config.policy
    (store.seenWeights run.config run.mainKind.direction own other) := by
  unfold foldSeen
  rw [hsource, htarget]
  rfl

/-- **A pair in both directions** has what its nodes fold, the one with the smaller number first. -/
theorem foldPair_of_symmetric (hkind : run.mainKind = .symmetric) (hlt : source.index < target.index) :
    run.foldPair store source target = run.config.policy.join
        (foldWeights run.config.policy (store.weightsBetween run.config own other))
        (foldWeights run.config.policy (store.weightsBetween run.config other own)) ∧
      run.foldPair store target source = run.foldPair store source target := by
  have hne : source ≠ target := fun heq => by
    rw [heq] at hlt
    exact Nat.lt_irrefl _ hlt
  have hforth := foldSeen_of_toExternal store hsource htarget
  have hback := foldSeen_of_toExternal store htarget hsource
  simp only [hkind, ScanKind.direction, MemoryGraph.seenWeights] at hforth hback
  simp only [foldPair, hkind, if_neg hne, if_neg (Ne.symm hne), if_pos hlt,
    if_neg (Nat.lt_asymm hlt), hforth, hback, and_self]

omit htarget in
/-- A node has for itself what it folds. -/
theorem foldPair_self (hkind : run.mainKind = .symmetric) :
    run.foldPair store source source
      = foldWeights run.config.policy (store.weightsBetween run.config own own) := by
  have hown := foldSeen_of_toExternal store hsource hsource
  simp only [hkind, ScanKind.direction, MemoryGraph.seenWeights] at hown
  simp only [foldPair, hkind, if_pos, hown]

/-- **A pair in one direction**, or in either, has what one of its nodes folds. -/
theorem foldPair_of_single (hsingle : run.config.undirected = true ∨ run.config.direction ≠ .both) :
    run.foldPair store source target
      = foldWeights run.config.policy (store.weightsFor run.config own other) := by
  have hforth := foldSeen_of_toExternal store hsource htarget
  have hback := foldSeen_of_toExternal store htarget hsource
  cases hundirected : run.config.undirected with
  | true =>
    have hkind : run.mainKind = .undirected run.config.isWeighted := by
      unfold mainKind
      rw [kinds, hundirected]
      rfl
    rw [hkind] at hforth
    unfold foldPair
    rw [hkind, MemoryGraph.weightsFor, if_pos hundirected]
    exact hforth
  | false =>
    unfold MemoryGraph.weightsFor
    rw [if_neg (by rw [hundirected]; exact Bool.false_ne_true)]
    cases hdirection : run.config.direction with
    | outgoing =>
      have hkind : run.mainKind = .outgoing run.config.isWeighted := by
        unfold mainKind
        rw [kinds, hundirected, hdirection]
        rfl
      rw [hkind] at hforth
      unfold foldPair
      rw [hkind]
      exact hforth
    | incoming =>
      have hkind : run.mainKind = .incoming run.config.isWeighted := by
        unfold mainKind
        rw [kinds, hundirected, hdirection]
        rfl
      rw [hkind] at hback
      unfold foldPair
      rw [hkind]
      exact hback
    | both =>
      rw [hundirected, hdirection] at hsingle
      simp at hsingle

end Pairs

end LoadRun

/-! ## Loads -/

section Loads

variable (writes : List MemoryGraph.Write) (config : LoadConfig) (machine : Nat)
  (schedule : Phase → List Nat)

/-- **Weights of loads in both directions.**  A pair of nodes and its reverse have one weight.  It is made
of what the relationships in each direction fold to, first those that start at the node with the smaller
number.  The weight that a node has for itself is folded from its self-loops. -/
theorem mirrored_weights_of_loadSource (htimeout : config.timeout = none)
    (hweighted : config.isWeighted = true) (hdirection : config.direction = .both)
    (hdirected : config.undirected = false) :
    (config.validate = .ok () → (MemoryGraph.ofWrites writes).Loadable config.nodeLabel →
      config.policy ≠ .reject →
      ∃ loaded, loadSource (MemoryGraph.ofWrites writes).snapshot config machine schedule = .ok loaded) ∧
    ∀ graph summary,
      loadSource (MemoryGraph.ofWrites writes).snapshot config machine schedule = .ok (graph, summary) →
      graph.StoresSparsely ∧ graph.defaultWeight = config.defaultWeight ∧
      (∀ source target own other, graph.toExternal source = some own →
        graph.toExternal target = some other → source.index < target.index →
        let forth := foldWeights config.policy ((MemoryGraph.ofWrites writes).weightsBetween config own other)
        let back := foldWeights config.policy ((MemoryGraph.ofWrites writes).weightsBetween config other own)
        graph.Weighs source target (config.policy.join forth back) ∧
          graph.Weighs target source (config.policy.join forth back)) ∧
      ∀ node own, graph.toExternal node = some own → graph.Weighs node node
        (foldWeights config.policy ((MemoryGraph.ofWrites writes).weightsBetween config own own)) := by
  have hstore := MemoryGraph.sound_ofWrites writes
  constructor
  · intro hvalid hloadable hpolicy
    exact exists_loadSource hstore htimeout hvalid hloadable (Or.inr hpolicy)
  · intro graph summary h
    obtain ⟨map, parts, hmap, _, hcomplete, hholds, rfl⟩ := graph_of_loadSource hstore htimeout h
    have hkind : (runOver (MemoryGraph.ofWrites writes).answers config machine map schedule).mainKind
        = .symmetric := by
      unfold LoadRun.mainKind
      rw [LoadRun.kinds, runOver, hdirected, hdirection, hweighted]
      rfl
    have hweighs := LoadRun.weighs_graphWith hstore rfl hmap hcomplete.rows hweighted hholds
    refine ⟨LoadRun.storesSparsely_graphWith hstore rfl hmap hcomplete.rows hweighted hholds, rfl, ?_, ?_⟩
    · intro source target own other hsource htarget hlt
      obtain ⟨hforth, hback⟩ :=
        LoadRun.foldPair_of_symmetric (MemoryGraph.ofWrites writes) hsource htarget hkind hlt
      have hpair := hweighs source target
      have hreverse := hweighs target source
      rw [hback] at hreverse
      rw [hforth] at hpair hreverse
      exact ⟨hpair, hreverse⟩
    · intro node own hnode
      have hpair := hweighs node node
      rw [LoadRun.foldPair_self _ hnode hkind] at hpair
      exact hpair

/-- Two roads from one place to another, and one back whose cost is not known. -/
def roadWrites : List MemoryGraph.Write :=
  [.addNode ⟨⟨1⟩, []⟩, .addNode ⟨⟨2⟩, []⟩, .insert ⟨⟨1⟩, ⟨2⟩, "ROAD", ⟨[("cost", .float 2)]⟩⟩,
    .insert ⟨⟨2⟩, ⟨1⟩, "ROAD", .empty⟩, .insert ⟨⟨1⟩, ⟨2⟩, "ROAD", ⟨[("cost", .float 3)]⟩⟩]

theorem loadable_roadWrites : (MemoryGraph.ofWrites roadWrites).Loadable none := by
  obtain ⟨hnodes, hrelationships⟩ := MemoryGraph.size_ofWrites_le roadWrites
  have hlength : roadWrites.length = 5 := rfl
  have hlabel := (MemoryGraph.ofWrites roadWrites).length_nodesWith_le none
  exact ⟨by rw [maxNodeCount]; omega, by omega⟩

theorem nodesWith_roadWrites : (MemoryGraph.ofWrites roadWrites).nodesWith none = [⟨1⟩, ⟨2⟩] := by
  simp [MemoryGraph.ofWrites, roadWrites, MemoryGraph.write, MemoryGraph.addNode, MemoryGraph.insert,
    MemoryGraph.empty, Std.HashMap.getElem_insert, MemoryGraph.nodesWith, MemoryGraph.hasLabel]

theorem relationships_roadWrites : (MemoryGraph.ofWrites roadWrites).relationships.toList =
    [⟨⟨1⟩, ⟨2⟩, "ROAD", ⟨[("cost", .float 2)]⟩⟩, ⟨⟨2⟩, ⟨1⟩, "ROAD", .empty⟩,
      ⟨⟨1⟩, ⟨2⟩, "ROAD", ⟨[("cost", .float 3)]⟩⟩] := by
  simp [MemoryGraph.ofWrites, roadWrites, MemoryGraph.write, MemoryGraph.addNode, MemoryGraph.insert,
    MemoryGraph.empty]

/-- Both places are loaded, in order. -/
theorem toExternal_of_roads {config : LoadConfig} {machine : Nat} {schedule : Phase → List Nat}
    (htimeout : config.timeout = none) (hlabel : config.nodeLabel = none) {graph : Graph}
    {summary : LoadSummary}
    (h : loadSource (MemoryGraph.ofWrites roadWrites).snapshot config machine schedule
      = .ok (graph, summary)) (node : NodeId) :
    graph.toExternal node = ([⟨1⟩, ⟨2⟩] : List ExternalId)[node.index]? := by
  rw [toExternal_of_loadSource (MemoryGraph.sound_ofWrites roadWrites) htimeout h, hlabel,
    nodesWith_roadWrites]

/-- The roads there and back cost five together, whichever way. -/
theorem mirrored_weights_of_roads : ∃ graph summary,
    loadSource (MemoryGraph.ofWrites roadWrites).snapshot
      { direction := .both, weightProperty := some "cost", policy := .sum } 1 (fun _ => [])
      = .ok (graph, summary) ∧
    graph.weight (.ofIndex 0) (.ofIndex 1) = 5 ∧ graph.weight (.ofIndex 1) (.ofIndex 0) = 5 := by
  obtain ⟨hsucceeds, hspec⟩ := mirrored_weights_of_loadSource roadWrites
    { direction := .both, weightProperty := some "cost", policy := .sum } 1 (fun _ => []) rfl rfl rfl rfl
  obtain ⟨⟨graph, summary⟩, hload⟩ := hsucceeds rfl loadable_roadWrites (by decide)
  obtain ⟨_, hdefault, hpairs, _⟩ := hspec graph summary hload
  have hexternal := toExternal_of_roads rfl rfl hload
  obtain ⟨hforth, hback⟩ := hpairs (.ofIndex 0) (.ofIndex 1) ⟨1⟩ ⟨2⟩ (hexternal _) (hexternal _) (by decide)
  have hforward := hforth.weight
  have hbackward := hback.weight
  rw [hdefault, MemoryGraph.weightsBetween, MemoryGraph.weightsBetween, MemoryGraph.between,
    MemoryGraph.between, relationships_roadWrites] at hforward hbackward
  exact ⟨graph, summary, hload, hforward.trans (by decide +kernel), hbackward.trans (by decide +kernel)⟩

/-- The weights of a load that keeps pairs apart from their reverses. -/
theorem weighs_of_loadSource {store : MemoryGraph} (hstore : store.Sound) (htimeout : config.timeout = none)
    (hweighted : config.isWeighted = true) (hsingle : config.undirected = true ∨ config.direction ≠ .both)
    {graph : Graph} {summary : LoadSummary}
    (h : loadSource store.snapshot config machine schedule = .ok (graph, summary)) :
    graph.StoresSparsely ∧ graph.defaultWeight = config.defaultWeight ∧
      ∀ source target own other, graph.toExternal source = some own →
        graph.toExternal target = some other → graph.Weighs source target
          (foldWeights config.policy (store.weightsFor config own other)) := by
  obtain ⟨map, parts, hmap, _, hcomplete, hholds, rfl⟩ := graph_of_loadSource hstore htimeout h
  refine ⟨LoadRun.storesSparsely_graphWith hstore rfl hmap hcomplete.rows hweighted hholds, rfl, ?_⟩
  intro source target own other hsource htarget
  have hpair := LoadRun.weighs_graphWith hstore rfl hmap hcomplete.rows hweighted hholds source target
  rw [LoadRun.foldPair_of_single _ hsource htarget hsingle] at hpair
  exact hpair

/-- **Weights of other loads.**  The weight of a pair is folded from the relationships that lead from its
source to its target, or in an undirected load from those that lead either way.  It is the same whether
relationships are read from their sources or from their targets. -/
theorem weights_of_loadSource (htimeout : config.timeout = none) (hweighted : config.isWeighted = true)
    (hsingle : config.undirected = true ∨ config.direction ≠ .both) :
    (config.validate = .ok () → (MemoryGraph.ofWrites writes).Loadable config.nodeLabel →
      config.policy ≠ .reject →
      ∃ loaded, loadSource (MemoryGraph.ofWrites writes).snapshot config machine schedule = .ok loaded) ∧
    ∀ graph summary,
      loadSource (MemoryGraph.ofWrites writes).snapshot config machine schedule = .ok (graph, summary) →
      graph.StoresSparsely ∧ graph.defaultWeight = config.defaultWeight ∧
      (∀ source target own other, graph.toExternal source = some own →
        graph.toExternal target = some other → graph.Weighs source target
          (foldWeights config.policy ((MemoryGraph.ofWrites writes).weightsFor config own other))) ∧
      ∀ direction machine' schedule' graph' summary', config.undirected = false → direction ≠ .both →
        loadSource (MemoryGraph.ofWrites writes).snapshot { config with direction } machine' schedule'
          = .ok (graph', summary') →
        ∀ source target own other, graph.toExternal source = some own →
          graph.toExternal target = some other →
          graph'.weight source target = graph.weight source target := by
  have hstore := MemoryGraph.sound_ofWrites writes
  constructor
  · intro hvalid hloadable hpolicy
    exact exists_loadSource hstore htimeout hvalid hloadable (Or.inr hpolicy)
  · intro graph summary h
    obtain ⟨hsparse, hdefault, hweighs⟩ :=
      weighs_of_loadSource config machine schedule hstore htimeout hweighted hsingle h
    refine ⟨hsparse, hdefault, hweighs, ?_⟩
    intro direction machine' schedule' graph' summary' hdirected hdirection h' source target own other
      hsource htarget
    have htimeout' : { config with direction }.timeout = none := htimeout
    have hweighted' : { config with direction }.isWeighted = true := hweighted
    obtain ⟨_, hdefault', hweighs'⟩ :=
      weighs_of_loadSource _ machine' schedule' hstore htimeout' hweighted' (Or.inr hdirection) h'
    -- both loads number the same nodes, and fold the same weights for them
    have hsame : ∀ node, graph'.toExternal node = graph.toExternal node := by
      intro node
      rw [toExternal_of_loadSource hstore htimeout h, toExternal_of_loadSource hstore htimeout' h']
    have hforward := (hweighs source target own other hsource htarget).weight
    have hbackward := (hweighs' source target own other ((hsame source).trans hsource)
      ((hsame target).trans htarget)).weight
    have hweights : (MemoryGraph.ofWrites writes).weightsFor { config with direction } own other
        = (MemoryGraph.ofWrites writes).weightsFor config own other := by
      simp only [MemoryGraph.weightsFor, hdirected, Bool.false_eq_true, if_false]
      rfl
    rw [hweights, hdefault'] at hbackward
    rw [hdefault] at hforward
    exact hbackward.trans hforward.symm

end Loads

/-- The roads there cost five together, and the one back costs nothing. -/
theorem weights_of_roads : ∃ graph summary,
    loadSource (MemoryGraph.ofWrites roadWrites).snapshot
      { weightProperty := some "cost", policy := .sum } 1 (fun _ => []) = .ok (graph, summary) ∧
    graph.weight (.ofIndex 0) (.ofIndex 1) = 5 ∧ graph.weight (.ofIndex 1) (.ofIndex 0) = 0 := by
  obtain ⟨hsucceeds, hspec⟩ := weights_of_loadSource roadWrites
    { weightProperty := some "cost", policy := .sum } 1 (fun _ => []) rfl rfl (Or.inr (by decide))
  obtain ⟨⟨graph, summary⟩, hload⟩ := hsucceeds rfl loadable_roadWrites (by decide)
  obtain ⟨_, hdefault, hpairs, _⟩ := hspec graph summary hload
  have hexternal := toExternal_of_roads rfl rfl hload
  have hforward := (hpairs (.ofIndex 0) (.ofIndex 1) ⟨1⟩ ⟨2⟩ (hexternal _) (hexternal _)).weight
  have hbackward := (hpairs (.ofIndex 1) (.ofIndex 0) ⟨2⟩ ⟨1⟩ (hexternal _) (hexternal _)).weight
  rw [hdefault, MemoryGraph.weightsFor, if_neg Bool.false_ne_true, MemoryGraph.weightsBetween,
    MemoryGraph.between, relationships_roadWrites] at hforward hbackward
  exact ⟨graph, summary, hload, hforward.trans (by decide +kernel), hbackward.trans (by decide +kernel)⟩

end CompactGraph
