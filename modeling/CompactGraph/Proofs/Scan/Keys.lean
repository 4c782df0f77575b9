/-
# Which pairs a node writes

A pair of nodes can be read back from its key, and every key is that of a pair.  A node writes the fold
of its weights to a target under the pair of both, in the order that the kind of the scan asks for.  A
symmetric scan writes it under the pair in the other order as well, except for a self-loop, so a pair of
two different nodes is written by both of them and no pair is written by a third.
-/
import CompactGraph.Proofs.Scan.Folding
import CompactGraph.Proofs.Weight.Writes

namespace CompactGraph

namespace PairKey

/-- A key as a number: the source counts 2³² times as much as the target. -/
theorem toNat_ofPair (source target : NodeId) :
    (ofPair source target).val.toNat = source.index * 2 ^ 32 + target.index := by
  have hsource := source.index_lt
  have htarget := target.index_lt
  unfold ofPair
  show (source.val.toUInt64 <<< 32 ||| target.val.toUInt64).toNat = _
  rw [UInt64.toNat_or, UInt64.toNat_shiftLeft, UInt32.toNat_toUInt64, UInt32.toNat_toUInt64]
  have hshift : (32 : UInt64).toNat % 64 = 32 := rfl
  rw [hshift, Nat.mod_eq_of_lt, Nat.shiftLeft_eq]
  · rw [mul_comm, ← Nat.two_pow_add_eq_or_of_lt htarget]
    ring_nf
    rfl
  · rw [Nat.shiftLeft_eq]
    show source.index * 2 ^ 32 < 2 ^ 64
    rw [UInt32.size] at hsource
    omega

/-- **A pair can be read back from its key.** -/
theorem ofPair_inj {source target source' target' : NodeId} :
    ofPair source target = ofPair source' target' ↔ source = source' ∧ target = target' := by
  constructor
  · intro heq
    have hval := congrArg (fun key => key.val.toNat) heq
    simp only [toNat_ofPair] at hval
    have htarget := target.index_lt
    have htarget' := target'.index_lt
    rw [UInt32.size] at htarget htarget'
    exact ⟨NodeId.ext_index (by omega), NodeId.ext_index (by omega)⟩
  · rintro ⟨rfl, rfl⟩
    rfl

theorem source_ofPair (source target : NodeId) : (ofPair source target).source = source := by
  have hsource := source.index_lt
  have htarget := target.index_lt
  rw [UInt32.size] at hsource htarget
  apply NodeId.ext_index
  show ((ofPair source target).val >>> 32).toUInt32.toNat = source.index
  have hshift : (32 : UInt64).toNat % 64 = 32 := rfl
  rw [UInt64.toNat_toUInt32, UInt64.toNat_shiftRight, toNat_ofPair, hshift, Nat.shiftRight_eq_div_pow]
  omega

theorem target_ofPair (source target : NodeId) : (ofPair source target).target = target := by
  have htarget := target.index_lt
  rw [UInt32.size] at htarget
  apply NodeId.ext_index
  show (ofPair source target).val.toUInt32.toNat = target.index
  rw [UInt64.toNat_toUInt32, toNat_ofPair]
  omega

/-- Every key is that of a pair. -/
theorem exists_ofPair (key : PairKey) : ∃ source target, key = ofPair source target := by
  have hlt := key.val.toNat_lt
  refine ⟨.ofIndex (key.val.toNat / 2 ^ 32), .ofIndex (key.val.toNat % 2 ^ 32), ?_⟩
  have hval : key.val.toNat = (ofPair (.ofIndex (key.val.toNat / 2 ^ 32))
      (.ofIndex (key.val.toNat % 2 ^ 32))).val.toNat := by
    rw [toNat_ofPair, NodeId.index_ofIndex (by rw [UInt32.size]; omega),
      NodeId.index_ofIndex (by rw [UInt32.size]; omega)]
    omega
  obtain ⟨own⟩ := key
  exact congrArg PairKey.mk (UInt64.toNat_inj.mp hval)

theorem reserved_eq : reserved = ofPair .unmapped .unmapped := rfl

/-- A pair with a node in it is not the reserved one. -/
theorem ofPair_ne_reserved {source target : NodeId}
    (h : source.isMapped = true ∨ target.isMapped = true) : ofPair source target ≠ reserved := by
  rw [reserved_eq, ne_eq, ofPair_inj, not_and_or]
  rcases h with h | h
  · exact Or.inl (NodeId.isMapped_iff.mp h)
  · exact Or.inr (NodeId.isMapped_iff.mp h)

end PairKey

namespace ListScan

/-- The weight of a target among folded weights, if it has one. -/
def foldedAt (folded : List (NodeId × Float)) (target : NodeId) : List Float :=
  (folded.lookup target).toList

/-- A target has one folded weight at most. -/
theorem weightsTo_folded {folded : List (NodeId × Float)} (h : Ascending (folded.map Prod.fst))
    (target : NodeId) : weightsTo target folded = foldedAt folded target := by
  induction folded with
  | nil => rfl
  | cons entry folded ih =>
    obtain ⟨own, weight⟩ := entry
    obtain ⟨hfirst, hrest⟩ := List.pairwise_cons.mp h
    by_cases heq : own = target
    · subst heq
      have hnone : weightsTo own folded = [] := by
        rw [weightsTo_eq_nil_iff]
        exact fun hmem => lt_irrefl _ (hfirst own hmem)
      rw [weightsTo_cons_self, hnone, foldedAt, List.lookup_cons_self]
      rfl
    · rw [weightsTo_cons_of_ne heq, ih hrest, foldedAt, foldedAt, List.lookup_cons,
        beq_eq_false_iff_ne.mpr (Ne.symm heq)]

theorem weightsUnder_map_key (key : PairKey) (keys : List PairKey) (weight : Float) :
    weightsUnder key (keys.map fun key => (key, weight)) = List.replicate (keys.count key) weight := by
  induction keys with
  | nil => rfl
  | cons own keys ih =>
    rw [List.map_cons, List.count_cons]
    by_cases heq : own = key
    · rw [heq, weightsUnder_cons_self, ih, if_pos (by simp), List.replicate_succ]
    · rw [weightsUnder_cons_of_ne heq, ih, if_neg (by simpa using heq), Nat.add_zero]

/-- A node writes the weight of a target under a pair as often as the pair is among the keys of the
target. -/
theorem weightsUnder_writes_eq (scan : ListScan) (node : NodeId) (folded : List (NodeId × Float))
    (key : PairKey) :
    weightsUnder key (scan.writes node folded) = folded.flatMap fun weight =>
      List.replicate ((scan.kind.keys node weight.1).count key) weight.2 := by
  unfold writes
  rw [weightsUnder_flatMap]
  congr 1
  funext weight
  exact weightsUnder_map_key key _ weight.2

/-- What is written under a pair that is a key of one target only. -/
theorem weightsUnder_writes_of_count {scan : ListScan} {node target : NodeId} {key : PairKey}
    {folded : List (NodeId × Float)} (h : Ascending (folded.map Prod.fst))
    (hcount : ∀ other, (scan.kind.keys node other).count key = if other = target then 1 else 0) :
    weightsUnder key (scan.writes node folded) = foldedAt folded target := by
  rw [weightsUnder_writes_eq, ← weightsTo_folded h]
  clear h
  induction folded with
  | nil => rfl
  | cons entry folded ih =>
    obtain ⟨own, weight⟩ := entry
    rw [List.flatMap_cons, ih, hcount]
    by_cases heq : own = target
    · rw [if_pos heq, heq, weightsTo_cons_self]
      rfl
    · rw [if_neg heq, weightsTo_cons_of_ne heq]
      rfl

/-- Nothing is written under a pair that is a key of no target. -/
theorem weightsUnder_writes_of_count_zero {scan : ListScan} {node : NodeId} {key : PairKey}
    (folded : List (NodeId × Float)) (hcount : ∀ other, (scan.kind.keys node other).count key = 0) :
    weightsUnder key (scan.writes node folded) = [] := by
  rw [weightsUnder_writes_eq, List.flatMap_eq_nil_iff]
  intro weight _
  rw [hcount]
  rfl

/-- The weights that a node writes under a pair. -/
def shareOf (kind : ScanKind) (node : NodeId) (folded : List (NodeId × Float))
    (source target : NodeId) : List Float :=
  match kind with
  | .incoming _ => if node = target then foldedAt folded source else []
  | .symmetric =>
    (if node = source then foldedAt folded target else [])
      ++ if node = target ∧ source ≠ target then foldedAt folded source else []
  | _ => if node = source then foldedAt folded target else []

/-- How often a pair is among the keys of a target. -/
theorem count_keys (kind : ScanKind) (node other source target : NodeId) :
    (kind.keys node other).count (.ofPair source target)
      = match kind with
        | .incoming _ => if node = target ∧ other = source then 1 else 0
        | .symmetric => (if node = source ∧ other = target then 1 else 0)
          + if node = target ∧ other = source ∧ source ≠ target then 1 else 0
        | _ => if node = source ∧ other = target then 1 else 0 := by
  have hsingle : ∀ source' target' : NodeId,
      [PairKey.ofPair source' target'].count (PairKey.ofPair source target)
        = if source' = source ∧ target' = target then 1 else 0 := by
    intro source' target'
    rw [List.count_singleton]
    simp only [beq_iff_eq, PairKey.ofPair_inj]
  cases kind with
  | outgoing weighted => exact hsingle node other
  | undirected weighted => exact hsingle node other
  | incoming weighted =>
    show [PairKey.ofPair other node].count _ = _
    rw [hsingle]
    simp only [and_comm]
  | symmetric =>
    by_cases hloop : other = node
    · -- a self-loop has one key
      have hkeys : ScanKind.symmetric.keys node other = [.ofPair node other] := by
        simp [ScanKind.keys, ScanKind.endpoints, ScanKind.isSymmetric, hloop]
      rw [hkeys, hsingle]
      have hnot : ¬ (node = target ∧ other = source ∧ source ≠ target) := by
        rintro ⟨rfl, rfl, hne⟩
        exact hne hloop
      simp only [if_neg hnot, Nat.add_zero]
    · -- any other target has one for each direction
      have hkeys : ScanKind.symmetric.keys node other
          = [.ofPair node other] ++ [.ofPair other node] := by
        simp [ScanKind.keys, ScanKind.endpoints, ScanKind.isSymmetric, hloop]
      rw [hkeys, List.count_append, hsingle, hsingle]
      congr 2
      rw [eq_iff_iff]
      constructor
      · rintro ⟨rfl, rfl⟩
        exact ⟨rfl, rfl, hloop⟩
      · rintro ⟨rfl, rfl, _⟩
        exact ⟨rfl, rfl⟩

/-- What is written under a pair that is a key of one target if a condition holds, and of none if not. -/
theorem weightsUnder_writes_of_owner {scan : ListScan} {node target : NodeId} {key : PairKey}
    {folded : List (NodeId × Float)} (h : Ascending (folded.map Prod.fst)) {owns : Prop} [Decidable owns]
    (hcount : ∀ other,
      (scan.kind.keys node other).count key = if owns ∧ other = target then 1 else 0) :
    weightsUnder key (scan.writes node folded) = if owns then foldedAt folded target else [] := by
  by_cases howns : owns
  · rw [if_pos howns]
    refine weightsUnder_writes_of_count h fun other => ?_
    rw [hcount]
    simp only [howns, true_and]
  · rw [if_neg howns]
    refine weightsUnder_writes_of_count_zero folded fun other => ?_
    rw [hcount, if_neg fun hboth => howns hboth.1]

/-- **The weights that a node writes under a pair** are its share of that pair. -/
theorem weightsUnder_writes {scan : ListScan} {folded : List (NodeId × Float)}
    (h : Ascending (folded.map Prod.fst)) (node source target : NodeId) :
    weightsUnder (.ofPair source target) (scan.writes node folded)
      = shareOf scan.kind node folded source target := by
  cases hkind : scan.kind with
  | outgoing weighted =>
    exact weightsUnder_writes_of_owner h fun other => by rw [hkind, count_keys]
  | undirected weighted =>
    exact weightsUnder_writes_of_owner h fun other => by rw [hkind, count_keys]
  | incoming weighted =>
    exact weightsUnder_writes_of_owner h fun other => by rw [hkind, count_keys]
  | symmetric =>
    -- a node is one end of the pair or the other, and both only if the pair is a self-loop
    by_cases hsource : node = source
    · have hnot : ¬ (node = target ∧ source ≠ target) := by
        rintro ⟨rfl, hne⟩
        exact hne hsource.symm
      simp only [shareOf, if_neg hnot, List.append_nil]
      refine weightsUnder_writes_of_owner h fun other => ?_
      have hnot' : ¬ (node = target ∧ other = source ∧ source ≠ target) := by
        rintro ⟨heq, _, hne⟩
        exact hnot ⟨heq, hne⟩
      rw [hkind, count_keys]
      simp only [if_neg hnot', Nat.add_zero]
    · simp only [shareOf, if_neg hsource, List.nil_append]
      refine weightsUnder_writes_of_owner h fun other => ?_
      have hfirst : ¬ (node = source ∧ other = target) := fun hboth => hsource hboth.1
      rw [hkind, count_keys]
      simp only [if_neg hfirst, Nat.zero_add]
      congr 1
      rw [eq_iff_iff]
      constructor
      · rintro ⟨heq, hother, hne⟩
        exact ⟨⟨heq, hne⟩, hother⟩
      · rintro ⟨⟨heq, hne⟩, hother⟩
        exact ⟨heq, hother, hne⟩

end ListScan

end CompactGraph
