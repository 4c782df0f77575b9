/-
# Lists laid out in arrays

An array of targets can be cut into lists if the lengths of the lists add up to its size.  The lists are
then read back one after another, nodes outside have none, and no look-up leaves the arrays.  Lists that are
cleaned and laid out are read back in strictly ascending order, each with the targets that it was made of,
unless one of them has so many that 32 bits cannot tell its degree.
-/
import CompactGraph.Proofs.Adjacency.Lists
import CompactGraph.Proofs.Adjacency.Targets

namespace CompactGraph

/-! ## Sums -/

theorem total_eq_sum (counts : List Nat) : total counts = counts.sum := by
  induction counts with
  | nil => rfl
  | cons count counts ih => rw [total_cons, ih, List.sum_cons]

/-- A sum of 32-bit counts has 64 bits if there are no more counts than such numbers. -/
theorem sum_lt_offsetLimit {counts : List Nat} (hlength : counts.length < UInt32.size)
    (h : ∀ count ∈ counts, count ≤ UInt32.size) : counts.sum < offsetLimit := by
  have hsum : counts.sum ≤ counts.length * UInt32.size := by
    simpa using List.sum_le_card_nsmul counts UInt32.size h
  have hproduct : counts.length * UInt32.size < UInt32.size * UInt32.size :=
    Nat.mul_lt_mul_of_pos_right hlength (by decide)
  exact Nat.lt_of_le_of_lt hsum hproduct

/-- **Running sums** are there if the sum of all counts has 64 bits: one more than there are counts, each
of them the sum of the counts before it. -/
theorem prefixSums_spec (counts : List Nat) :
    ((∃ offsets, prefixSums counts = .ok offsets) ↔ counts.sum < 2 ^ 64) ∧
      ∀ offsets, prefixSums counts = .ok offsets → offsets.size = counts.length + 1 ∧
        ∀ i, i ≤ counts.length → offsets[i]? = some (counts.take i).sum := by
  refine ⟨?_, fun offsets h => ?_⟩
  · simp only [prefixSums_eq_ok_iff, exists_and_left, exists_eq, and_true, total_eq_sum]
    exact Iff.rfl
  · obtain ⟨-, rfl⟩ := prefixSums_eq_ok_iff.mp h
    refine ⟨by rw [List.size_toArray, length_offsetsOf], fun i hi => ?_⟩
    rw [List.getElem?_toArray, getElem?_offsetsOf hi, total_eq_sum]

namespace AdjacencyList

/-! ## Look-ups -/

/-- Whatever node is looked up, its offsets are in order and lie within the targets. -/
def InBounds (list : AdjacencyList) : Prop :=
  ∀ (node : NodeId) (start stop : Nat), list.offsets[node.index]? = some start →
    list.offsets[node.index + 1]? = some stop → start ≤ stop ∧ stop ≤ list.targets.size

theorem inBounds_ofRows (rows : List (List NodeId)) : (ofRows rows).InBounds := by
  intro node start stop hstart hstop
  have hlt : node.index + 1 < (offsetsOf (rows.map List.length)).length :=
    (List.getElem?_eq_some_iff.mp (List.getElem?_toArray.symm.trans hstop)).1
  rw [length_offsetsOf] at hlt
  have hfirst : start = total ((rows.map List.length).take node.index) := by
    rw [ofRows, List.getElem?_toArray, getElem?_offsetsOf (by omega)] at hstart
    exact (Option.some.inj hstart).symm
  have hsecond : stop = total ((rows.map List.length).take (node.index + 1)) := by
    rw [ofRows, List.getElem?_toArray, getElem?_offsetsOf (by omega)] at hstop
    exact (Option.some.inj hstop).symm
  rw [hfirst, hsecond]
  refine ⟨total_take_mono _ (Nat.le_succ _), ?_⟩
  calc total ((rows.map List.length).take (node.index + 1))
      ≤ total (rows.map List.length) := total_take_le _ _
    _ = (ofRows rows).targets.size := by rw [total_map_length, ofRows, List.size_toArray]

/-- Nodes outside a list have no targets. -/
theorem neighbors_ofRows_of_le {rows : List (List NodeId)} {node : NodeId}
    (h : rows.length ≤ node.index) : (ofRows rows).neighbors node = [] := by
  rw [neighbors_ofRows, List.getElem?_eq_none_iff.mpr h, Option.getD_none]

/-- The lists of all nodes, one after another, are the rows. -/
theorem flatMap_neighbors_ofRows {rows : List (List NodeId)} (h : rows.length < UInt32.size) :
    (List.range rows.length).flatMap (fun index => (ofRows rows).neighbors (.ofIndex index))
      = rows.flatten := by
  have hrows : (List.range rows.length).map (fun index => (ofRows rows).neighbors (.ofIndex index))
      = rows := by
    apply List.ext_getElem
    · rw [List.length_map, List.length_range]
    · intro index hindex hrow
      rw [List.getElem_map, List.getElem_range, neighbors_ofRows,
        NodeId.index_ofIndex (Nat.lt_trans hrow h), List.getElem?_eq_getElem hrow, Option.getD_some]
  rw [List.flatMap_def, hrows]

theorem neighbors_isolated (nodeCount : Nat) (node : NodeId) :
    (isolated nodeCount).neighbors node = [] := by
  rw [isolated_eq_ofRows, neighbors_ofRows, List.getElem?_replicate]
  split <;> rfl

/-! ## Cutting by degrees -/

/-- An adjacency list in which every node has the piece of the targets that its degree asks for. -/
structure Cuts (list : AdjacencyList) (targets : List NodeId) (degrees : List Nat) : Prop where
  nodeCount : list.nodeCount = degrees.length
  degree : ∀ (node : NodeId) (degree : Nat), degrees[node.index]? = some degree →
    (list.neighbors node).length = degree
  pieces : (List.range degrees.length).flatMap (fun index => list.neighbors (.ofIndex index)) = targets
  outside : ∀ node : NodeId, degrees.length ≤ node.index → list.neighbors node = []
  inBounds : list.InBounds

/-- **A list cut by degrees** is laid out of the pieces that the degrees ask for. -/
theorem ofDegrees_eq_ok_iff_ofRows {targets : Array NodeId} {degrees : List Nat}
    {list : AdjacencyList} (h : degrees.sum < offsetLimit) :
    ofDegrees targets degrees = .ok list ↔
      degrees.sum = targets.size ∧ list = ofRows (degrees.splitLengths targets.toList) := by
  rw [ofDegrees_eq_ok_iff, total_eq_sum]
  constructor
  · rintro ⟨-, hsum, rfl⟩
    rw [ofRows, List.map_splitLengths_length _ _ (Nat.le_of_eq hsum),
      List.flatten_splitLengths _ _ (Nat.le_of_eq hsum.symm)]
    exact ⟨hsum, rfl⟩
  · rintro ⟨hsum, rfl⟩
    rw [ofRows, List.map_splitLengths_length _ _ (Nat.le_of_eq hsum),
      List.flatten_splitLengths _ _ (Nat.le_of_eq hsum.symm)]
    exact ⟨h, hsum, rfl⟩

theorem cuts_splitLengths {targets : List NodeId} {degrees : List Nat}
    (hsum : degrees.sum = targets.length) (hlength : degrees.length < UInt32.size) :
    (ofRows (degrees.splitLengths targets)).Cuts targets degrees := by
  have hrows : (degrees.splitLengths targets).length = degrees.length := List.length_splitLengths ..
  refine ⟨by rw [nodeCount_ofRows, hrows], fun node degree hdegree => ?_, ?_, fun node hnode => ?_,
    inBounds_ofRows _⟩
  · have hlengths : ((degrees.splitLengths targets).map List.length)[node.index]? = some degree := by
      rw [List.map_splitLengths_length _ _ (Nat.le_of_eq hsum), hdegree]
    rw [List.getElem?_map] at hlengths
    obtain ⟨row, hrow, rfl⟩ := Option.map_eq_some_iff.mp hlengths
    rw [neighbors_ofRows, hrow, Option.getD_some]
  · have hfew : (degrees.splitLengths targets).length < UInt32.size := hrows ▸ hlength
    have hpieces := flatMap_neighbors_ofRows hfew
    rwa [hrows, List.flatten_splitLengths _ _ (Nat.le_of_eq hsum.symm)] at hpieces
  · exact neighbors_ofRows_of_le (by rwa [hrows])

/-- **Degrees that do not add up** to the number of targets are refused. -/
theorem ofDegrees_eq_error {targets : Array NodeId} {degrees : List Nat}
    (h : total degrees < offsetLimit) (hne : total degrees ≠ targets.size) :
    ofDegrees targets degrees
      = .error (.sourceInconsistent (.degreeSum (total degrees) targets.size)) := by
  unfold ofDegrees
  rw [prefixSums_eq_ok_iff.mpr ⟨h, rfl⟩]
  simp only [bind, Except.bind, back_offsetsOf, if_neg hne]

/-! ## Laying out lists -/

theorem narrowed_eq_mod (degree : Nat) : narrowed degree = degree % UInt32.size :=
  UInt32.toNat_ofNat'

theorem narrowed_le (degree : Nat) : narrowed degree ≤ degree := by
  rw [narrowed_eq_mod]
  exact Nat.mod_le ..

/-- Nothing is lost of a degree that has 32 bits. -/
theorem narrowed_of_lt {degree : Nat} (h : degree < UInt32.size) : narrowed degree = degree := by
  rw [narrowed_eq_mod, Nat.mod_eq_of_lt h]

/-- The targets of a list without repetitions are no more than there are numbers. -/
theorem length_clean_le (targets : List NodeId) :
    (compact (sortTargets targets)).length ≤ UInt32.size :=
  (ascending_compact_sortTargets targets).length_le fun node _ => node.index_lt

/-- **Degrees have 32 bits** unless every number there is occurs among the targets. -/
theorem length_clean_lt_iff {targets : List NodeId} :
    (compact (sortTargets targets)).length < UInt32.size ↔ ∃ node, node ∉ targets := by
  have hascending := ascending_compact_sortTargets targets
  constructor
  · intro hlt
    by_contra hall
    push Not at hall
    have hsubset : List.range UInt32.size ⊆ (compact (sortTargets targets)).map NodeId.index := by
      intro index hindex
      refine List.mem_map.mpr ⟨.ofIndex index, mem_compact_sortTargets.mpr (hall _), ?_⟩
      exact NodeId.index_ofIndex (List.mem_range.mp hindex)
    have hle := (List.subperm_of_subset List.nodup_range hsubset).length_le
    rw [List.length_range, List.length_map] at hle
    omega
  · rintro ⟨absent, habsent⟩
    -- the absent number and the targets are together no more than there are numbers
    have hnodup : (absent :: compact (sortTargets targets)).map NodeId.index |>.Nodup := by
      rw [List.nodup_map_iff fun _ _ => NodeId.ext_index, List.nodup_cons, mem_compact_sortTargets]
      exact ⟨habsent, hascending.nodup⟩
    have hsubset : (absent :: compact (sortTargets targets)).map NodeId.index
        ⊆ List.range UInt32.size := by
      intro index hindex
      obtain ⟨node, _, rfl⟩ := List.mem_map.mp hindex
      exact List.mem_range.mpr node.index_lt
    have hle := (List.subperm_of_subset hnodup hsubset).length_le
    rw [List.length_range, List.length_map, List.length_cons] at hle
    omega

/-- What the narrowed degrees of lists add up to can be counted if there are fewer lists than numbers of
nodes, or if all targets can be counted. -/
theorem total_narrowed_lt {lists : List (List NodeId)}
    (h : lists.length < 2 ^ 32 ∨ lists.flatten.length < 2 ^ 64) :
    total (lists.map fun list => narrowed (compact (sortTargets list)).length) < offsetLimit := by
  rcases h with hfew | hshort
  · rw [total_eq_sum]
    refine sum_lt_offsetLimit (by rwa [List.length_map]) fun count hcount => ?_
    obtain ⟨targets, _, rfl⟩ := List.mem_map.mp hcount
    exact (narrowed_le _).trans (length_clean_le targets)
  · -- neither cleaning nor narrowing adds to a length
    have hle : total (lists.map fun list => narrowed (compact (sortTargets list)).length)
        ≤ total (lists.map List.length) :=
      total_map_le fun targets _ => (narrowed_le _).trans (length_compact_sortTargets_le targets)
    rw [total_map_length] at hle
    exact Nat.lt_of_le_of_lt hle hshort

/-- **Lists can be laid out** if each of them misses a number. -/
theorem ofLists_eq_ok {lists : List (List NodeId)}
    (h : lists.length < 2 ^ 32 ∨ lists.flatten.length < 2 ^ 64)
    (hmiss : ∀ targets ∈ lists, ∃ node, node ∉ targets) :
    ofLists lists = .ok (ofRows (lists.map fun list => compact (sortTargets list))) := by
  have hdegrees : (lists.map fun list => narrowed (compact (sortTargets list)).length)
      = (lists.map fun list => compact (sortTargets list)).map List.length := by
    rw [List.map_map]
    exact List.map_congr_left fun targets htargets =>
      narrowed_of_lt (length_clean_lt_iff.mpr (hmiss targets htargets))
  have hlimit := total_narrowed_lt h
  rw [hdegrees, total_map_length] at hlimit
  rw [ofLists, List.map_map, ← ofDegrees_rows hlimit, ← hdegrees]
  rfl

/-- **Lists cannot be laid out** if one of them has every number: in 32 bits its degree is lost, and the
degrees add up to less than there are targets. -/
theorem ofLists_eq_error {lists : List (List NodeId)}
    (h : lists.length < 2 ^ 32 ∨ lists.flatten.length < 2 ^ 64) {targets : List NodeId}
    (hmem : targets ∈ lists) (hall : ∀ node, node ∈ targets) :
    total (lists.map fun list => narrowed (compact (sortTargets list)).length)
        < (lists.flatMap fun list => compact (sortTargets list)).length ∧
      ofLists lists = .error (.sourceInconsistent (.degreeSum
        (total (lists.map fun list => narrowed (compact (sortTargets list)).length))
        (lists.flatMap fun list => compact (sortTargets list)).length)) := by
  have hlength : UInt32.size ≤ (compact (sortTargets targets)).length := by
    by_contra hlt
    obtain ⟨node, hnode⟩ := length_clean_lt_iff.mp (Nat.lt_of_not_le hlt)
    exact hnode (hall node)
  have hless : total (lists.map fun list => narrowed (compact (sortTargets list)).length)
      < (lists.flatMap fun list => compact (sortTargets list)).length := by
    rw [total_eq_sum, List.length_flatMap]
    refine List.sum_lt_sum _ _ (fun list _ => narrowed_le _) ⟨targets, hmem, ?_⟩
    rw [narrowed_eq_mod]
    exact (Nat.mod_lt _ (by decide)).trans_le hlength
  refine ⟨hless, ?_⟩
  have hne : total (lists.map fun list => narrowed (compact (sortTargets list)).length)
      ≠ (lists.flatMap fun list => compact (sortTargets list)).toArray.size := by
    rw [List.size_toArray]
    exact hless.ne
  have herror := ofDegrees_eq_error (total_narrowed_lt h) hne
  rw [List.size_toArray] at herror
  rw [← herror, ofLists, List.map_map, List.flatMap_def]
  rfl

/-- An adjacency list in which every node has the targets of its list, each once, in strictly ascending
order, and no more of them than a degree can tell. -/
structure Tidies (list : AdjacencyList) (lists : List (List NodeId)) : Prop where
  nodeCount : list.nodeCount = lists.length
  ascending : ∀ node : NodeId, Ascending (list.neighbors node)
  mem_iff : ∀ node target : NodeId,
    target ∈ list.neighbors node ↔ ∃ targets, lists[node.index]? = some targets ∧ target ∈ targets
  degree_lt : ∀ node : NodeId, list.degree node < 2 ^ 32
  inBounds : list.InBounds

theorem tidies_ofRows {lists : List (List NodeId)}
    (hmiss : ∀ targets ∈ lists, ∃ node, node ∉ targets) :
    (ofRows (lists.map fun list => compact (sortTargets list))).Tidies lists := by
  have hneighbors : ∀ node : NodeId,
      (ofRows (lists.map fun list => compact (sortTargets list))).neighbors node
        = compact (sortTargets (lists[node.index]?.getD [])) := by
    intro node
    rw [neighbors_ofRows, List.getElem?_map]
    cases lists[node.index]? with
    | none => simp [sortTargets, compact]
    | some targets => rfl
  refine ⟨by rw [nodeCount_ofRows, List.length_map], fun node => ?_, fun node target => ?_,
    fun node => ?_, inBounds_ofRows _⟩
  · rw [hneighbors]
    exact ascending_compact_sortTargets _
  · rw [hneighbors, mem_compact_sortTargets]
    cases lists[node.index]? with
    | none => simp
    | some targets => simp
  · rw [degree, hneighbors]
    refine length_clean_lt_iff.mpr ?_
    cases hrow : lists[node.index]? with
    | none => exact ⟨node, List.not_mem_nil⟩
    | some targets => exact hmiss targets (List.mem_of_getElem? hrow)

/-- **Lists laid out one after another**: exactly if each of them misses a number, and every node then has
the targets of its list.  Otherwise the degrees tell of fewer targets than there are. -/
theorem ofLists_spec {lists : List (List NodeId)}
    (h : lists.length < 2 ^ 32 ∨ lists.flatten.length < 2 ^ 64) :
    ((∃ list, ofLists lists = .ok list) ↔ ∀ targets ∈ lists, ∃ node, node ∉ targets) ∧
      (∀ list, ofLists lists = .ok list → list.Tidies lists) ∧
      ∀ error, ofLists lists = .error error →
        ∃ told held, told < held ∧ error = .sourceInconsistent (.degreeSum told held) := by
  by_cases hmiss : ∀ targets ∈ lists, ∃ node, node ∉ targets
  · simp only [ofLists_eq_ok h hmiss, Except.ok.injEq, reduceCtorEq, exists_eq', true_iff, forall_eq',
      false_implies, implies_true, and_true]
    exact ⟨hmiss, tidies_ofRows hmiss⟩
  · obtain ⟨targets, hmem, hall⟩ : ∃ targets ∈ lists, ∀ node, node ∈ targets := by
      simpa only [not_forall, not_exists, not_not, exists_prop] using hmiss
    obtain ⟨hless, herror⟩ := ofLists_eq_error h hmem hall
    simp only [herror, hmiss, reduceCtorEq, exists_false, false_implies, implies_true, true_and,
      Except.error.injEq]
    rintro _ rfl
    exact ⟨_, _, hless, rfl⟩

/-! ## Lists and arrays -/

/-- **Lists are laid out in arrays.**  Targets can be cut by 32-bit degrees exactly if the degrees add up to
their number, and every node has its piece of them.  Lists can be laid out one after another exactly if none
of them has every number, that of no node included, and every node has the targets of its list in strictly
ascending order; otherwise the degrees tell of fewer targets than there are.  In a list of isolated nodes, or
of none, there is nothing to find.  Offsets can be counted exactly if all counts together have 64 bits. -/
theorem laid_out_in_arrays :
    (∀ (targets : Array NodeId) (degrees : List UInt32), degrees.length < 2 ^ 32 →
      ((∃ list, ofDegrees targets (degrees.map UInt32.toNat) = .ok list) ↔
        (degrees.map UInt32.toNat).sum = targets.size) ∧
      ∀ list, ofDegrees targets (degrees.map UInt32.toNat) = .ok list →
        list.Cuts targets.toList (degrees.map UInt32.toNat) ∧ list.neighbors .unmapped = []) ∧
    (∀ lists : List (List NodeId), lists.length < 2 ^ 32 ∨ lists.flatten.length < 2 ^ 64 →
      ((∃ list, ofLists lists = .ok list) ↔ ∀ targets ∈ lists, ∃ node, node ∉ targets) ∧
      (∀ list, ofLists lists = .ok list → list.Tidies lists) ∧
      ∀ error, ofLists lists = .error error →
        ∃ told held, told < held ∧ error = .sourceInconsistent (.degreeSum told held)) ∧
    (∀ list : AdjacencyList, list = {} ∨ (∃ nodeCount, list = isolated nodeCount) →
      list.InBounds ∧ ∀ node, list.neighbors node = []) ∧
    ∀ counts : List Nat, ((∃ offsets, prefixSums counts = .ok offsets) ↔ counts.sum < 2 ^ 64) ∧
      ∀ offsets, prefixSums counts = .ok offsets → offsets.size = counts.length + 1 ∧
        ∀ i, i ≤ counts.length → offsets[i]? = some (counts.take i).sum := by
  refine ⟨fun targets degrees hfew => ?_, fun lists h => ofLists_spec h, ?_, prefixSums_spec⟩
  · have hfew' : (degrees.map UInt32.toNat).length < UInt32.size := by rwa [List.length_map]
    have hsum : (degrees.map UInt32.toNat).sum < offsetLimit := by
      refine sum_lt_offsetLimit hfew' fun count hcount => ?_
      obtain ⟨degree, _, rfl⟩ := List.mem_map.mp hcount
      exact Nat.le_of_lt degree.toNat_lt
    simp only [ofDegrees_eq_ok_iff_ofRows hsum]
    refine ⟨by simp only [exists_and_left, exists_eq, and_true], ?_⟩
    rintro list ⟨htotal, rfl⟩
    have hcuts := cuts_splitLengths (htotal.trans targets.length_toList.symm) hfew'
    refine ⟨hcuts, hcuts.outside .unmapped ?_⟩
    rw [NodeId.index_unmapped, maxNodeCount]
    rw [UInt32.size] at hfew'
    omega
  · rintro list (rfl | ⟨nodeCount, rfl⟩)
    · refine ⟨fun node start stop hstart _ => ?_, fun node => rfl⟩
      cases hstart
    · exact ⟨isolated_eq_ofRows nodeCount ▸ inBounds_ofRows _, neighbors_isolated nodeCount⟩

/-- Two targets for the first of three nodes, one for the second and none for the last. -/
theorem laid_out_in_arrays_three : ∃ list, ofDegrees #[⟨1⟩, ⟨2⟩, ⟨2⟩] [2, 1, 0] = .ok list ∧
    list.Cuts [⟨1⟩, ⟨2⟩, ⟨2⟩] [2, 1, 0] ∧ list.neighbors .unmapped = [] ∧
    (∃ tidy, ofLists [[⟨3⟩, ⟨1⟩, ⟨3⟩], [], [⟨0⟩]] = .ok tidy ∧
      tidy.Tidies [[⟨3⟩, ⟨1⟩, ⟨3⟩], [], [⟨0⟩]]) ∧
    (isolated 2).neighbors ⟨1⟩ = [] ∧
    ∃ offsets, prefixSums [2, 0, 3] = .ok offsets ∧ offsets.size = 4 ∧ offsets[3]? = some 5 := by
  obtain ⟨hcut, hlists, hnone, hsums⟩ := laid_out_in_arrays
  obtain ⟨hiff, hspec⟩ := hcut #[⟨1⟩, ⟨2⟩, ⟨2⟩] [2, 1, 0] (by decide)
  obtain ⟨list, hlist⟩ := hiff.mpr rfl
  obtain ⟨hcuts, hunmapped⟩ := hspec list hlist
  obtain ⟨hlaid, htidies, -⟩ := hlists [[⟨3⟩, ⟨1⟩, ⟨3⟩], [], [⟨0⟩]] (.inl (by decide))
  obtain ⟨tidy, htidy⟩ := hlaid.mpr fun targets htargets =>
    ⟨⟨2⟩, by revert targets; decide⟩
  obtain ⟨hexists, hoffsets⟩ := hsums [2, 0, 3]
  obtain ⟨offsets, hok⟩ := hexists.mpr (by decide)
  obtain ⟨hsize, hget⟩ := hoffsets offsets hok
  exact ⟨list, hlist, hcuts, hunmapped, ⟨tidy, htidy, htidies tidy htidy⟩,
    (hnone (isolated 2) (.inr ⟨2, rfl⟩)).2 ⟨1⟩, offsets, hok, hsize, hget 3 (by decide)⟩

/-- A list of all `2 ^ 32` numbers: no degree is left of it in 32 bits, and it cannot be laid out. -/
theorem ofLists_every_number :
    ofLists [(List.range (2 ^ 32)).map NodeId.ofIndex]
      = .error (.sourceInconsistent (.degreeSum 0 (2 ^ 32))) := by
  have hall : ∀ node, node ∈ (List.range (2 ^ 32)).map NodeId.ofIndex := fun node =>
    List.mem_map.mpr ⟨node.index, List.mem_range.mpr node.index_lt, NodeId.ofIndex_index node⟩
  have hlength : (compact (sortTargets ((List.range (2 ^ 32)).map NodeId.ofIndex))).length = 2 ^ 32 := by
    refine Nat.le_antisymm (length_clean_le _) (Nat.le_of_not_lt fun hlt => ?_)
    obtain ⟨node, hnode⟩ := length_clean_lt_iff.mp hlt
    exact hnode (hall node)
  obtain ⟨-, herror⟩ := ofLists_eq_error (.inl (by decide)) (List.mem_singleton_self _) hall
  have hlost : narrowed (2 ^ 32) = 0 := (narrowed_eq_mod _).trans (Nat.mod_self _)
  rw [herror, List.map_singleton, List.flatMap_singleton, hlength, total_cons, total_nil, hlost]

end AdjacencyList

end CompactGraph
