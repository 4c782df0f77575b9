/-
# The weights of a run

What all nodes write under a pair comes from the endpoints of the pair (`LoadRun.weightsUnder_writes`).
Only the first list of a run reads weights.  If its scan is not symmetric, one endpoint alone writes the
pair, and once at most; if it is, each endpoint does, the one with the smaller number first.  So the
tables of all partitions can be merged without regard to where the partitions begin and end.
-/
import CompactGraph.Proofs.Load.Delivery
import CompactGraph.Proofs.Load.Merging

namespace CompactGraph

open ListScan (store shareOf foldedAt)

/-! ## Concatenations over a range -/

/-- A concatenation in which a single number contributes. -/
theorem flatMap_range_one {α : Type} {f : Nat → List α} {a : Nat} (n : Nat) :
    (∀ i, i < n → i ≠ a → f i = []) → (List.range n).flatMap f = if a < n then f a else [] := by
  induction n with
  | zero => simp
  | succ n ih =>
    intro h
    rw [List.range_succ, List.flatMap_append, ih fun i hi => h i (by omega), List.flatMap_singleton]
    by_cases ha : n = a
    · subst ha
      simp
    · rw [h n (by omega) ha, List.append_nil]
      by_cases hlt : a < n
      · rw [if_pos hlt, if_pos (by omega)]
      · rw [if_neg hlt, if_neg (by omega)]

/-- A concatenation in which two numbers contribute. -/
theorem flatMap_range_two {α : Type} {f : Nat → List α} {a b : Nat} (hab : a < b) (n : Nat) :
    (∀ i, i < n → i ≠ a → i ≠ b → f i = []) →
      (List.range n).flatMap f = (if a < n then f a else []) ++ if b < n then f b else [] := by
  induction n with
  | zero => simp
  | succ n ih =>
    intro h
    rw [List.range_succ, List.flatMap_append, ih fun i hi => h i (by omega), List.flatMap_singleton]
    by_cases hb : n = b
    · subst hb
      rw [if_pos hab, if_neg (Nat.lt_irrefl n), if_pos (by omega), if_pos (by omega), List.append_nil]
    · by_cases ha : n = a
      · subst ha
        rw [if_neg (Nat.lt_irrefl n), if_neg (by omega), if_pos (by omega), if_neg (by omega)]
        simp
      · rw [h n (by omega) ha hb, List.append_nil]
        congr 1
        · by_cases hlt : a < n
          · rw [if_pos hlt, if_pos (by omega)]
          · rw [if_neg hlt, if_neg (by omega)]
        · by_cases hlt : b < n
          · rw [if_pos hlt, if_pos (by omega)]
          · rw [if_neg hlt, if_neg (by omega)]

namespace ScanKind

/-- **Only the first list of a load reads weights.** -/
theorem exists_forLoad (direction : Direction) (weighted undirected : Bool) :
    ∃ kind rest, forLoad direction weighted undirected = kind :: rest ∧
      ∀ other ∈ rest, other.isWeighted = false := by
  cases undirected with
  | true => exact ⟨.undirected weighted, [], rfl, List.forall_mem_nil _⟩
  | false =>
    cases direction with
    | outgoing => exact ⟨.outgoing weighted, [], rfl, List.forall_mem_nil _⟩
    | incoming => exact ⟨.incoming weighted, [], rfl, List.forall_mem_nil _⟩
    | both =>
      refine ⟨if weighted then .symmetric else .outgoing false, [.incoming false], rfl, ?_⟩
      intro other hother
      obtain rfl := List.mem_singleton.mp hother
      rfl

end ScanKind

namespace LoadRun

variable {run : LoadRun}

/-- The kind of the scan that reads weights, if any does. -/
def mainKind (run : LoadRun) : ScanKind := run.kinds.headD default

theorem kinds_eq (run : LoadRun) :
    run.kinds = run.mainKind :: run.kinds.tail ∧
      ∀ other ∈ run.kinds.tail, other.isWeighted = false := by
  obtain ⟨kind, rest, hkinds, hrest⟩ := ScanKind.exists_forLoad run.config.direction
    run.config.isWeighted run.config.undirected
  unfold mainKind
  rw [kinds, hkinds]
  exact ⟨rfl, hrest⟩

theorem getElem?_kinds_zero (run : LoadRun) : run.kinds[0]? = some run.mainKind := by
  rw [run.kinds_eq.1]
  rfl

/-- The other lists read no weights. -/
theorem property_of_mem_tail {kind : ScanKind} (h : kind ∈ run.kinds.tail) :
    (run.scanOf kind).property = none := if_neg (Bool.not_eq_true _ ▸ run.kinds_eq.2 kind h)

/-- The first list of a weighted load reads weights. -/
theorem isWeighted_mainKind (run : LoadRun) : run.mainKind.isWeighted = run.config.isWeighted := by
  unfold mainKind
  rw [kinds]
  cases run.config.undirected with
  | true => rfl
  | false =>
    cases run.config.direction with
    | outgoing => rfl
    | incoming => rfl
    | both => cases run.config.isWeighted <;> rfl

/-- Pairs are shared between partitions if the main scan is symmetric. -/
theorem sharesPairs_eq (run : LoadRun) : run.sharesPairs = run.mainKind.isSymmetric := by
  unfold sharesPairs
  rw [run.kinds_eq.1, List.any_cons]
  have hrest : run.kinds.tail.any ScanKind.isSymmetric = false := by
    rw [List.any_eq_false]
    intro other hother hsymmetric
    have hunweighted := run.kinds_eq.2 other hother
    cases other with
    | symmetric => cases hunweighted
    | outgoing weighted => cases hsymmetric
    | incoming weighted => cases hsymmetric
    | undirected weighted => cases hsymmetric
  rw [hrest, Bool.or_false]

/-! ## What a node writes -/

/-- A scan that reads no weights folds none. -/
theorem folded_of_unread {scan : ListScan} {read : PropertyReader} {node : NodeId}
    {found : List RelationshipRef} {reading : NodeReading} (hproperty : scan.property = none)
    (h : scan.reading read node found = .ok reading) : reading.folded = [] := by
  obtain ⟨weights, hweights, hfolds, _⟩ := ListScan.reading_eq_ok h
  rw [ListScan.weightsOf_unread hproperty] at hweights
  cases hweights
  cases hfolded : reading.folded with
  | nil => rfl
  | cons entry folded =>
    have hmem := (hfolds.mem_iff entry.1).mp (by rw [hfolded]; exact List.mem_cons_self)
    cases hmem

/-- What cannot be read has an empty row, and so it has folded nothing. -/
theorem row_eq_nil {node : Nat} (h : run.nodeRow node ≠ .ok (run.row node)) : run.row node = [] := by
  cases hrow : run.nodeRow node with
  | ok row => exact absurd (by rw [hrow, row_eq_of_ok hrow]) h
  | error error =>
    unfold row
    rw [hrow]
    rfl

theorem folded_eq_nil {node : Nat} (h : run.nodeRow node ≠ .ok (run.row node)) :
    (run.entry node 0).folded = [] := by
  unfold entry
  rw [row_eq_nil h]
  rfl

/-- **A node writes the weights of its first list.** -/
theorem writesOf_eq (node : Nat) :
    run.writesOf node = (run.scanOf run.mainKind).writes (NodeId.ofIndex node)
      (run.entry node 0).folded := by
  by_cases h : run.nodeRow node = .ok (run.row node)
  case neg =>
    rw [folded_eq_nil h, writesOf, row_eq_nil h]
    unfold rowWrites
    rw [List.zip_nil_right]
    rfl
  have hlength := length_of_nodeRow h
  have hfirst : run.row node = run.entry node 0 :: (run.row node).tail := by
    cases hrow : run.row node with
    | nil =>
      rw [hrow, run.kinds_eq.1] at hlength
      cases hlength
    | cons reading rest =>
      unfold entry
      rw [hrow]
      rfl
  -- the other lists read no weights, so they write none
  have hothers : ((run.kinds.tail.map run.scanOf).zip (run.row node).tail).flatMap
      (fun both => both.1.writes (NodeId.ofIndex node) both.2.folded) = [] := by
    rw [List.flatMap_eq_nil_iff]
    rintro ⟨scan, reading⟩ hmem
    obtain ⟨list, hlist⟩ := List.mem_iff_getElem?.mp hmem
    rw [List.getElem?_zip_eq_some, List.getElem?_map, List.getElem?_tail, List.getElem?_tail] at hlist
    obtain ⟨hscan, hreading⟩ := hlist
    obtain ⟨kind, hkind, rfl⟩ := Option.map_eq_some_iff.mp hscan
    obtain ⟨_, found, _, _, hown, _⟩ := entry_spec h hkind
    have hproperty : (run.scanOf kind).property = none := by
      apply property_of_mem_tail
      rw [← List.getElem?_tail] at hkind
      exact List.mem_of_getElem? hkind
    have hentry : run.entry node (list + 1) = reading := by
      unfold entry
      rw [List.getD_eq_getElem?_getD, hreading, Option.getD_some]
    rw [hentry] at hown
    show ListScan.writes _ _ reading.folded = []
    rw [folded_of_unread hproperty hown]
    rfl
  rw [writesOf, rowWrites, scans, run.kinds_eq.1, List.map_cons, hfirst, List.zip_cons_cons,
    List.flatMap_cons]
  show _ ++ ((run.kinds.tail.map run.scanOf).zip (run.row node).tail).flatMap
    (fun both => both.1.writes (NodeId.ofIndex node) both.2.folded) = _
  rw [hothers, List.append_nil]

/-- The folded weights of a node come in strictly ascending order of targets. -/
theorem ascending_folded (node : Nat) : Ascending ((run.entry node 0).folded.map Prod.fst) := by
  by_cases h : run.nodeRow node = .ok (run.row node)
  case neg =>
    rw [folded_eq_nil h]
    exact List.Pairwise.nil
  obtain ⟨_, _, _, _, hreading, _⟩ := entry_spec h run.getElem?_kinds_zero
  obtain ⟨_, _, hfolds, _⟩ := ListScan.reading_eq_ok hreading
  exact hfolds.ascending

/-- A node writes no weight under the reserved pair. -/
theorem ne_reserved_of_mem_writes {scan : ListScan} {node : NodeId} (h : node.isMapped = true)
    {folded : List (NodeId × Float)} {write : PairKey × Float}
    (hwrite : write ∈ scan.writes node folded) : write.1 ≠ PairKey.reserved := by
  obtain ⟨weight, _, hkeys⟩ := List.mem_flatMap.mp hwrite
  obtain ⟨key, hkey, rfl⟩ := List.mem_map.mp hkeys
  have hcount : 0 < (scan.kind.keys node weight.1).count key := List.count_pos_iff.mpr hkey
  obtain ⟨source, target, rfl⟩ := key.exists_ofPair
  rw [ListScan.count_keys] at hcount
  have hnode : node = source ∨ node = target := by
    by_contra hnone
    rw [not_or] at hnone
    cases hkind : scan.kind <;> simp [hkind, hnone.1, hnone.2] at hcount
  rcases hnode with rfl | rfl
  · exact PairKey.ofPair_ne_reserved (Or.inl h)
  · exact PairKey.ofPair_ne_reserved (Or.inr h)

/-! ## What all nodes write -/

/-- What all nodes write, in order. -/
def allWrites (run : LoadRun) : List (PairKey × Float) :=
  (List.range run.idMap.nodeCount).flatMap run.writesOf

/-- The weight that a node has folded for a target, if it has one. -/
def foldedFor (run : LoadRun) (node target : NodeId) : List Float :=
  if node.index < run.idMap.nodeCount then foldedAt (run.entry node.index 0).folded target else []

/-- **What is written under a pair**, in order: the weights that its endpoints have folded for each
other, as far as the kind of the main scan asks for them. -/
def pairWeights (run : LoadRun) (source target : NodeId) : List Float :=
  match run.mainKind with
  | .incoming _ => run.foldedFor target source
  | .symmetric =>
    if source = target then run.foldedFor source target
    else if source.index < target.index then
      run.foldedFor source target ++ run.foldedFor target source
    else run.foldedFor target source ++ run.foldedFor source target
  | _ => run.foldedFor source target

section Writes

/-- What is written under a pair, node by node. -/
theorem weightsUnder_allWrites (source target : NodeId) :
    weightsUnder (.ofPair source target) run.allWrites
      = (List.range run.idMap.nodeCount).flatMap fun node =>
        shareOf run.mainKind (NodeId.ofIndex node) (run.entry node 0).folded source target := by
  unfold allWrites
  rw [weightsUnder_flatMap, List.flatMap_def, List.flatMap_def]
  congr 1
  apply List.map_congr_left
  intro node _
  rw [writesOf_eq node, ListScan.weightsUnder_writes (ascending_folded node)]
  rfl

variable (hcount : run.idMap.nodeCount ≤ maxNodeCount)

include hcount

/-- **What is written under a pair** comes from its endpoints. -/
theorem weightsUnder_eq (source target : NodeId) :
    weightsUnder (.ofPair source target) run.allWrites = run.pairWeights source target := by
  have hother : ∀ node, node < run.idMap.nodeCount → ∀ endpoint : NodeId, node ≠ endpoint.index →
      NodeId.ofIndex node ≠ endpoint := by
    intro node hnode endpoint hne heq
    apply hne
    rw [← heq, NodeId.index_ofIndex]
    unfold maxNodeCount at hcount
    rw [UInt32.size]
    omega
  have hone : ∀ endpoint other : NodeId,
      ((List.range run.idMap.nodeCount).flatMap fun node =>
        if NodeId.ofIndex node = endpoint then foldedAt (run.entry node 0).folded other else [])
        = run.foldedFor endpoint other := by
    intro endpoint other
    rw [flatMap_range_one (a := endpoint.index) _ fun node hnode hne =>
      if_neg (hother node hnode endpoint hne), NodeId.ofIndex_index, if_pos rfl, foldedFor]
  rw [weightsUnder_allWrites, pairWeights]
  cases run.mainKind with
  | outgoing weighted => exact hone source target
  | undirected weighted => exact hone source target
  | incoming weighted => exact hone target source
  | symmetric =>
    simp only [shareOf]
    by_cases hloop : source = target
    · have hnot : ∀ node, ¬ (NodeId.ofIndex node = target ∧ source ≠ target) :=
        fun node hboth => hboth.2 hloop
      simp only [if_neg (hnot _), List.append_nil, if_pos hloop]
      exact hone source target
    · -- only the two endpoints write the pair, in the order of their numbers
      have hown : ∀ node, node < run.idMap.nodeCount → node ≠ source.index → node ≠ target.index →
          ((if NodeId.ofIndex node = source then foldedAt (run.entry node 0).folded target else [])
            ++ if NodeId.ofIndex node = target ∧ source ≠ target
              then foldedAt (run.entry node 0).folded source else []) = [] := by
        intro node hnode hsource htarget
        rw [if_neg (hother node hnode source hsource),
          if_neg fun hboth => hother node hnode target htarget hboth.1, List.append_nil]
      have hindex : source.index ≠ target.index := fun heq => hloop (NodeId.ext_index heq)
      rw [if_neg hloop]
      by_cases hlt : source.index < target.index
      · rw [if_pos hlt, flatMap_range_two hlt _ hown, foldedFor, foldedFor]
        simp only [NodeId.ofIndex_index, if_true, hloop, Ne.symm hloop, ne_eq, not_false_eq_true,
          and_true, if_false, List.append_nil, List.nil_append]
      · rw [if_neg hlt, flatMap_range_two (by omega : target.index < source.index) _
          fun node hnode htarget hsource => hown node hnode hsource htarget, foldedFor, foldedFor]
        simp only [NodeId.ofIndex_index, if_true, hloop, Ne.symm hloop, ne_eq, not_false_eq_true,
          and_true, if_false, List.append_nil, List.nil_append]

/-- No two nodes write one pair, except the endpoints of the pair under a symmetric scan. -/
theorem length_weightsUnder (key : PairKey) :
    (weightsUnder key run.allWrites).length ≤ if run.sharesPairs then 2 else 1 := by
  have hone : ∀ node target : NodeId, (run.foldedFor node target).length ≤ 1 := by
    intro node target
    unfold foldedFor
    split
    · unfold foldedAt
      cases (run.entry node.index 0).folded.lookup target <;> simp
    · simp
  obtain ⟨source, target, rfl⟩ := key.exists_ofPair
  rw [weightsUnder_eq hcount, pairWeights, sharesPairs_eq]
  have hfirst := hone source target
  have hsecond := hone target source
  cases run.mainKind with
  | outgoing weighted => exact hfirst
  | undirected weighted => exact hfirst
  | incoming weighted => exact hsecond
  | symmetric =>
    simp only [ScanKind.isSymmetric, if_true]
    split
    · omega
    · split
      · rw [List.length_append]
        omega
      · rw [List.length_append]
        omega

/-- No node of the run writes the reserved pair. -/
theorem unreserved_allWrites : ∀ write ∈ run.allWrites, write.1 ≠ PairKey.reserved := by
  intro write hwrite
  obtain ⟨node, hnode, hown⟩ := List.mem_flatMap.mp hwrite
  rw [List.mem_range] at hnode
  rw [writesOf_eq node] at hown
  exact ne_reserved_of_mem_writes (NodeId.isMapped_ofIndex (by omega)) hown

end Writes

/-! ## Tables -/

/-- The rules by which all partitions write. -/
def rules (run : LoadRun) : WeightRules :=
  ⟨run.config.defaultWeight, run.config.policy, run.sharesPairs⟩

/-- Whether no two weights meet that may not. -/
def Unrepeated (run : LoadRun) : Prop :=
  run.config.policy = .reject → ∀ key, (weightsUnder key run.allWrites).length ≤ 1

section Store

variable {writes : List (PairKey × Float)} {capacity : Nat}
  (hweighted : run.config.isWeighted = true) (hkeys : ∀ write ∈ writes, write.1 ≠ PairKey.reserved)

include hweighted

/-- The table that a partition of a weighted load starts with. -/
theorem exists_blankWeights (capacity : Nat) (isShard : Bool) :
    ∃ table, run.blankWeights capacity isShard = some table ∧ table.Sound ∧
      table.rules = { run.rules with isShard } ∧ ∀ key, table.find? key = none := by
  refine ⟨_, if_pos hweighted, (WeightTable.sound_withCapacity ..).withShard isShard, rfl, ?_⟩
  exact WeightTable.find?_withCapacity capacity run.config.defaultWeight run.config.policy

include hkeys

/-- What a partition has written. -/
theorem madeOf_of_store {weights : Option WeightTable}
    (h : store writes (run.blankWeights capacity run.sharesPairs) = .ok weights) :
    ∃ table, weights = some table ∧ MadeOf run.rules writes table := by
  obtain ⟨blank, hblank, hsound, hrules, hnone⟩ :=
    exists_blankWeights hweighted capacity run.sharesPairs
  rw [hblank] at h
  cases hput : WeightTable.putAll writes blank with
  | error error _ =>
    simp only [store, endState, hput] at h
    cases h
  | ok _ table =>
    simp only [store, endState, hput] at h
    cases h
    obtain ⟨htable, hsame, hheld⟩ := hsound.putAll hkeys hput
    refine ⟨table, rfl, htable, hsame.trans hrules, fun key => ?_⟩
    rw [← hheld key, hrules, hnone]
    rfl

/-- A partition can write if no two of its weights meet that may not. -/
theorem exists_store
    (hmeet : run.config.policy = .reject → ∀ key, (weightsUnder key writes).length ≤ 1) :
    ∃ weights, store writes (run.blankWeights capacity run.sharesPairs) = .ok weights := by
  obtain ⟨blank, hblank, hsound, hrules, hnone⟩ :=
    exists_blankWeights hweighted capacity run.sharesPairs
  rw [hblank]
  obtain ⟨table, hput⟩ := hsound.exists_putAll hkeys (by
    intro key
    rw [hrules, hnone]
    exact WeightRules.foldlM_receive_ne_none fun hpolicy => hmeet hpolicy key)
  refine ⟨some table, ?_⟩
  simp only [store, endState, hput]
  rfl

end Store

/-- **The weights that a run answers**: for each pair the fold of what is written under it, where the
default weight is not stored. -/
def Answers (run : LoadRun) : Option WeightTable → Prop
  | none => run.config.isWeighted = false
  | some table => run.config.isWeighted = true ∧ table.Sound ∧
      table.rules = { run.rules with isShard := false } ∧
      ∀ source target, table.find? (.ofPair source target)
        = (foldWeights run.config.policy (run.pairWeights source target)).filter
          (· != run.config.defaultWeight)

/-- An empty table answers for a run that writes nothing. -/
theorem answers_blankWeights (hempty : run.idMap.nodeCount = 0) (capacity : Nat) :
    run.Answers (run.blankWeights capacity false) := by
  cases hweighted : run.config.isWeighted with
  | false =>
    unfold blankWeights
    rw [hweighted]
    exact hweighted
  | true =>
    obtain ⟨table, htable, hsound, hrules, hnone⟩ := exists_blankWeights hweighted capacity false
    rw [htable]
    refine ⟨hweighted, hsound, hrules, fun source target => ?_⟩
    have hfolded : ∀ node other, run.foldedFor node other = [] := by
      intro node other
      unfold foldedFor
      rw [if_neg (by omega)]
    have hnil : run.pairWeights source target = [] := by
      unfold pairWeights
      split <;> simp only [hfolded, List.append_nil, ite_self]
    rw [hnone, hnil]
    rfl

section Merged

variable (hcount : run.idMap.nodeCount ≤ maxNodeCount) {capacityOf : NodeRange → Nat}

/-- What the partitions write. -/
def partWrites (run : LoadRun) : List (List (PairKey × Float)) :=
  run.ranges.map fun range => range.toList.flatMap run.writesOf

theorem flatten_partWrites (run : LoadRun) : run.partWrites.flatten = run.allWrites := by
  unfold partWrites
  rw [allWrites, ← flatMap_ranges, List.flatMap_assoc, List.flatMap_def]

include hcount

/-- The writes of a partition do not include the reserved pair. -/
theorem unreserved_of_mem_ranges {range : NodeRange} (hrange : range ∈ run.ranges) :
    ∀ write ∈ range.toList.flatMap run.writesOf, write.1 ≠ PairKey.reserved := by
  intro write hwrite
  apply unreserved_allWrites hcount
  rw [← flatten_partWrites]
  exact List.mem_flatten_of_mem (List.mem_map_of_mem hrange) hwrite

/-- Each partition can write if no two weights meet that may not. -/
theorem exists_store_of_mem_ranges (hmeet : run.Unrepeated) {range : NodeRange}
    (hrange : range ∈ run.ranges) (capacity : Nat) :
    ∃ weights, store (range.toList.flatMap run.writesOf)
      (run.blankWeights capacity run.sharesPairs) = .ok weights := by
  cases hweighted : run.config.isWeighted with
  | false =>
    refine ⟨none, ?_⟩
    unfold blankWeights
    rw [hweighted]
    rfl
  | true =>
    refine exists_store hweighted (unreserved_of_mem_ranges hcount hrange) fun hpolicy key => ?_
    refine Nat.le_trans ?_ (hmeet hpolicy key)
    -- what meets in a partition meets in the run
    have hsub : (range.toList.flatMap run.writesOf).Sublist run.allWrites := by
      rw [← flatten_partWrites]
      exact List.sublist_flatten_of_mem (List.mem_map_of_mem hrange)
    exact ((hsub.filter _).map _).length_le

/-- The tables that the partitions of a weighted load deliver. -/
theorem exists_tables (hweighted : run.config.isWeighted = true) {outputs : List PartitionOutput}
    (hdelivered : List.Forall₂ (fun range output => run.Delivered (capacityOf range) range output)
      run.ranges outputs) :
    ∃ tables, outputs.map PartitionOutput.weights = tables.map some ∧
      List.Forall₂ (MadeOf run.rules) run.partWrites tables := by
  have hmade : List.Forall₂ (fun range output => ∃ table, PartitionOutput.weights output = some table ∧
      MadeOf run.rules (range.toList.flatMap run.writesOf) table) run.ranges outputs :=
    forall₂_imp_of_mem hdelivered fun range hrange output hown =>
      madeOf_of_store hweighted (unreserved_of_mem_ranges hcount hrange) hown.weights
  unfold partWrites
  clear hdelivered
  generalize run.ranges = ranges at hmade
  induction hmade with
  | nil => exact ⟨[], rfl, List.Forall₂.nil⟩
  | cons hfirst _ ih =>
    obtain ⟨table, htable, hown⟩ := hfirst
    obtain ⟨tables, htables, hrest⟩ := ih
    refine ⟨table :: tables, ?_, List.Forall₂.cons hown hrest⟩
    rw [List.map_cons, List.map_cons, htable, htables]

/-- The tables of a weighted load, of which there is at least one. -/
theorem exists_cons_tables (hweighted : run.config.isWeighted = true)
    {outputs : List PartitionOutput}
    (hdelivered : List.Forall₂ (fun range output => run.Delivered (capacityOf range) range output)
      run.ranges outputs) (hranges : run.ranges ≠ []) :
    ∃ part parts table tables, outputs.map PartitionOutput.weights = (table :: tables).map some ∧
      (part :: parts).flatten = run.allWrites ∧
      List.Forall₂ (MadeOf run.rules) (part :: parts) (table :: tables) := by
  obtain ⟨tables, htables, hmade⟩ := exists_tables hcount hweighted hdelivered
  have hparts : run.partWrites ≠ [] := by
    unfold partWrites
    rw [ne_eq, List.map_eq_nil_iff]
    exact hranges
  obtain ⟨part, parts, hcons⟩ := List.exists_cons_of_ne_nil hparts
  rw [hcons] at hmade
  obtain ⟨table, others, hfirst, hrest, rfl⟩ := List.forall₂_cons_left_iff.mp hmade
  refine ⟨part, parts, table, others, htables, ?_, List.Forall₂.cons hfirst hrest⟩
  rw [← hcons, flatten_partWrites]

omit hcount in
/-- The partitions of an unweighted load deliver no tables. -/
theorem weights_eq_none (hunweighted : run.config.isWeighted = false)
    {outputs : List PartitionOutput}
    (hdelivered : List.Forall₂ (fun range output => run.Delivered (capacityOf range) range output)
      run.ranges outputs) : ∀ table ∈ outputs.map PartitionOutput.weights, table = none := by
  intro table htable
  obtain ⟨output, houtput, rfl⟩ := List.mem_map.mp htable
  obtain ⟨range, _, hown⟩ := exists_of_forall₂ hdelivered.flip houtput
  have hweights := hown.weights
  unfold blankWeights at hweights
  rw [hunweighted] at hweights
  exact (Except.ok.inj hweights).symm

omit hcount in
/-- The nodes of an unweighted load write nothing. -/
theorem unrepeated_of_unweighted (hunweighted : run.config.isWeighted = false) : run.Unrepeated := by
  have hnil : run.allWrites = [] := by
    unfold allWrites
    rw [List.flatMap_eq_nil_iff]
    intro node _
    rw [writesOf_eq node]
    by_cases hrow : run.nodeRow node = .ok (run.row node)
    case neg =>
      rw [folded_eq_nil hrow]
      rfl
    obtain ⟨_, _, _, _, hreading, _⟩ := entry_spec hrow run.getElem?_kinds_zero
    have hproperty : (run.scanOf run.mainKind).property = none := by
      unfold ListScan.property
      rw [LoadConfig.isWeighted, Option.isSome_eq_false_iff, Option.isNone_iff_eq_none] at hunweighted
      split
      · exact hunweighted
      · rfl
    rw [folded_of_unread hproperty hreading]
    rfl
  intro _ key
  rw [hnil]
  exact Nat.zero_le 1

/-- **The weights of all partitions can be merged** if no two weights meet that may not. -/
theorem exists_mergeWeights_outputs (hmeet : run.Unrepeated) {outputs : List PartitionOutput}
    (hdelivered : List.Forall₂ (fun range output => run.Delivered (capacityOf range) range output)
      run.ranges outputs) (hranges : run.ranges ≠ []) :
    ∃ merged, mergeWeights none (outputs.map PartitionOutput.weights) = .ok merged := by
  cases hweighted : run.config.isWeighted with
  | false => exact ⟨none, mergeWeights_none (weights_eq_none hweighted hdelivered)⟩
  | true =>
    obtain ⟨part, parts, table, tables, htables, hflatten, hmade⟩ :=
      exists_cons_tables hcount hweighted hdelivered hranges
    rw [htables]
    apply exists_merged hmade
    · rw [hflatten]
      exact length_weightsUnder hcount
    · rw [hflatten]
      exact hmeet

/-- **Merged weights** answer for the run, and no two of them meet that may not. -/
theorem answers_of_mergeWeights {outputs : List PartitionOutput}
    (hdelivered : List.Forall₂ (fun range output => run.Delivered (capacityOf range) range output)
      run.ranges outputs) (hranges : run.ranges ≠ []) {merged : Option WeightTable}
    (hmerge : mergeWeights none (outputs.map PartitionOutput.weights) = .ok merged) :
    run.Unrepeated ∧ run.Answers (merged.map WeightTable.freeze <|> run.blankWeights 0 false) := by
  cases hweighted : run.config.isWeighted with
  | false =>
    rw [mergeWeights_none (weights_eq_none hweighted hdelivered)] at hmerge
    cases hmerge
    refine ⟨unrepeated_of_unweighted hweighted, ?_⟩
    unfold blankWeights
    rw [hweighted]
    exact hweighted
  | true =>
    obtain ⟨part, parts, table, tables, htables, hflatten, hmade⟩ :=
      exists_cons_tables hcount hweighted hdelivered hranges
    have hfew : ∀ key, (weightsUnder key (part :: parts).flatten).length ≤ run.rules.fewWeights := by
      rw [hflatten]
      exact length_weightsUnder hcount
    rw [htables] at hmerge
    -- weights that may not meet would have stopped the merge
    have hmeet : run.Unrepeated := by
      intro hpolicy key
      rw [← hflatten]
      exact meets_of_merged hmade hfew hpolicy hmerge key
    obtain ⟨final, rfl, hown⟩ := madeOf_merged hmade hfew (by rw [hflatten]; exact hmeet) hmerge
    obtain ⟨hsound, hrules, hfind⟩ := hown.sound.freeze
    refine ⟨hmeet, hweighted, hsound, ?_, fun source target => ?_⟩
    · rw [hrules, hown.same_rules]
    · have hheld := hown.held (.ofPair source target)
      have hshard : final.isShard = run.rules.isShard := congrArg WeightRules.isShard hown.same_rules
      have hdefault : final.defaultWeight = run.rules.defaultWeight :=
        congrArg WeightRules.defaultWeight hown.same_rules
      show final.freeze.find? _ = _
      rw [hfind, hshard, hdefault, WeightRules.filter_held hheld (hfew _), hflatten,
        weightsUnder_eq hcount]
      rfl

end Merged

end LoadRun

end CompactGraph
