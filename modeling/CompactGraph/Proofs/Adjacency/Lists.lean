/-
# Lists in one array

Running sums succeed exactly if the sum of all counts stays below their limit, and are the sums of the
counts before each place.  An adjacency list that is cut out of an array by degrees gives every node
the piece of the array that its degree asks for, so lists that were laid out one after another are read
back as they were.
-/
import Mathlib
import CompactGraph.Adjacency.AdjacencyList

namespace CompactGraph

/-! ## Sums -/

theorem total_append (first second : List Nat) :
    total (first ++ second) = total first + total second := by
  induction first with
  | nil => simp
  | cons count first ih =>
    rw [List.cons_append, total_cons, total_cons, ih]
    omega

/-- Counts that are no greater one by one are no greater in total. -/
theorem total_map_le {α : Type} {items : List α} {f g : α → Nat}
    (h : ∀ item ∈ items, f item ≤ g item) : total (items.map f) ≤ total (items.map g) := by
  induction items with
  | nil => exact Nat.le_refl _
  | cons item items ih =>
    have hitem := h item List.mem_cons_self
    have hitems := ih fun other hother => h other (List.mem_cons_of_mem _ hother)
    rw [List.map_cons, List.map_cons, total_cons, total_cons]
    omega

theorem total_map_add {α : Type} (items : List α) (f g : α → Nat) :
    total (items.map fun item => f item + g item) = total (items.map f) + total (items.map g) := by
  induction items with
  | nil => rfl
  | cons item items ih =>
    simp only [List.map_cons, total_cons, ih]
    omega

/-- The lengths of lists add up to the length of all of them together. -/
theorem total_map_length {α : Type} (lists : List (List α)) :
    total (lists.map List.length) = lists.flatten.length := by
  induction lists with
  | nil => rfl
  | cons list lists ih =>
    rw [List.map_cons, total_cons, ih, List.flatten_cons, List.length_append]

/-- What is counted for each of some lists is counted in all of them. -/
theorem total_map_countP {α β : Type} (items : List α) (lists : α → List β) (counts : β → Bool) :
    total (items.map fun item => (lists item).countP counts) = (items.flatMap lists).countP counts := by
  induction items with
  | nil => rfl
  | cons item items ih => rw [List.map_cons, total_cons, ih, List.flatMap_cons, List.countP_append]

/-- What is counted under different ids is counted once. -/
theorem total_countP_under {α β : Type} [DecidableEq β] (f : α → β) (counts : α → Bool) {ids : List β}
    (h : ids.Nodup) (items : List α) :
    total (ids.map fun id => items.countP fun item => decide (f item = id) && counts item)
      = items.countP fun item => decide (f item ∈ ids) && counts item := by
  induction ids with
  | nil => simp
  | cons id ids ih =>
    obtain ⟨hfresh, hnodup⟩ := List.nodup_cons.mp h
    rw [List.map_cons, total_cons, ih hnodup]
    clear ih
    induction items with
    | nil => rfl
    | cons item items ih =>
      -- an item is counted under the first id or under a later one
      have hsplit : (if (decide (f item ∈ id :: ids) && counts item) = true then 1 else 0)
          = (if (decide (f item = id) && counts item) = true then 1 else 0)
            + if (decide (f item ∈ ids) && counts item) = true then 1 else 0 := by
        by_cases hitem : f item = id
        · simp [hitem, hfresh]
        · simp [hitem]
      simp only [List.countP_cons]
      omega

theorem total_take_le (counts : List Nat) (i : Nat) : total (counts.take i) ≤ total counts := by
  conv_rhs => rw [← List.take_append_drop i counts, total_append]
  omega

/-- The sums before later places are no smaller. -/
theorem total_take_mono (counts : List Nat) {i j : Nat} (h : i ≤ j) :
    total (counts.take i) ≤ total (counts.take j) := by
  have hle := total_take_le (counts.take j) i
  rwa [List.take_take, Nat.min_eq_left h] at hle

/-! ## Running sums -/

/-- The sum of the counts before each place, and of all counts. -/
def offsetsOf (counts : List Nat) : List Nat :=
  (List.range (counts.length + 1)).map fun i => total (counts.take i)

/-- Each offset is the sum of the counts before its place. -/
theorem getElem?_offsetsOf {counts : List Nat} {i : Nat} (h : i ≤ counts.length) :
    (offsetsOf counts)[i]? = some (total (counts.take i)) := by
  unfold offsetsOf
  rw [List.getElem?_map, List.getElem?_range (by omega)]
  rfl

@[simp] theorem length_offsetsOf (counts : List Nat) :
    (offsetsOf counts).length = counts.length + 1 := by
  simp [offsetsOf]

/-- One more count at the front is added to all offsets after the first. -/
theorem offsetsOf_cons (count : Nat) (counts : List Nat) :
    offsetsOf (count :: counts) = 0 :: (offsetsOf counts).map (count + ·) := by
  rw [offsetsOf, offsetsOf, List.length_cons, List.range_succ_eq_map, List.map_cons, List.map_map,
    List.map_map]
  simp [Function.comp_def, List.take_succ_cons]

/-- Running sums from some sum on. -/
theorem prefixSumsFrom_eq_ok_iff {counts : List Nat} :
    ∀ {before offsets : Array Nat} {sum : Nat}, sum < offsetLimit →
      (prefixSumsFrom before sum counts = .ok offsets ↔
        sum + total counts < offsetLimit ∧
          offsets = before ++ ((offsetsOf counts).tail.map (sum + ·)).toArray) := by
  induction counts with
  | nil =>
    intro before offsets sum hsum
    rw [prefixSumsFrom, total_nil]
    simp [offsetsOf, hsum, eq_comm]
  | cons count counts ih =>
    intro before offsets sum hsum
    rw [prefixSumsFrom, total_cons]
    by_cases hlt : sum + count < offsetLimit
    · -- the sum so far is the first offset, and the others are counted from it
      have htail : (offsetsOf (count :: counts)).tail.map (sum + ·)
          = (sum + count) :: (offsetsOf counts).tail.map (sum + count + ·) := by
        rw [offsetsOf_cons, List.tail_cons, List.map_map]
        cases hoffsets : offsetsOf counts with
        | nil =>
          have hlength := length_offsetsOf counts
          rw [hoffsets] at hlength
          simp at hlength
        | cons first rest =>
          have hfirst : first = 0 := by
            have hget := getElem?_offsetsOf (Nat.zero_le counts.length)
            rw [hoffsets] at hget
            simpa using hget
          rw [List.map_cons, List.tail_cons, hfirst]
          simp [Function.comp_def, Nat.add_assoc]
      rw [if_pos hlt, ih hlt, htail]
      simp [Nat.add_assoc]
    · rw [if_neg hlt]
      constructor
      · intro h
        cases h
      · rintro ⟨hsmall, _⟩
        omega

/-- **Running sums** succeed exactly if the sum of all counts stays below the limit. -/
theorem prefixSums_eq_ok_iff {counts : List Nat} {offsets : Array Nat} :
    prefixSums counts = .ok offsets ↔
      total counts < offsetLimit ∧ offsets = (offsetsOf counts).toArray := by
  have hlimit : 0 < offsetLimit := by decide
  unfold prefixSums
  rw [prefixSumsFrom_eq_ok_iff hlimit, Nat.zero_add]
  have hcons : offsetsOf counts = 0 :: (offsetsOf counts).tail := by
    cases counts with
    | nil => rfl
    | cons count counts => rw [offsetsOf_cons, List.tail_cons]
  have harray : #[0] ++ ((offsetsOf counts).tail.map (0 + ·)).toArray
      = (offsetsOf counts).toArray := by
    conv_rhs => rw [hcons]
    simp
  rw [harray]

/-- Running sums fail only for want of bits. -/
theorem overflow_of_prefixSumsFrom {counts : List Nat} {error : LoadError} :
    ∀ {before : Array Nat} {sum : Nat}, prefixSumsFrom before sum counts = .error error →
      error = .capacityExceeded .offsetsOverflow := by
  induction counts with
  | nil => exact fun h => nomatch h
  | cons count counts ih =>
    intro before sum h
    rw [prefixSumsFrom] at h
    split at h
    · exact ih h
    · cases h
      rfl

theorem overflow_of_prefixSums {counts : List Nat} {error : LoadError}
    (h : prefixSums counts = .error error) : error = .capacityExceeded .offsetsOverflow :=
  overflow_of_prefixSumsFrom h

/-- The last offset is the sum of all counts. -/
theorem back_offsetsOf (counts : List Nat) :
    (offsetsOf counts).toArray.back?.getD 0 = total counts := by
  rw [Array.back?_eq_getElem?, List.size_toArray, length_offsetsOf, List.getElem?_toArray,
    Nat.add_sub_cancel, getElem?_offsetsOf (Nat.le_refl _), List.take_length]
  rfl

/-! ## Cutting an array by degrees -/

namespace AdjacencyList

/-- **Cutting an array** succeeds exactly if the degrees add up to its size, and that size can be
counted. -/
theorem ofDegrees_eq_ok_iff {targets : Array NodeId} {degrees : List Nat} {list : AdjacencyList} :
    ofDegrees targets degrees = .ok list ↔
      total degrees < offsetLimit ∧ total degrees = targets.size ∧
        list = ⟨(offsetsOf degrees).toArray, targets⟩ := by
  unfold ofDegrees
  constructor
  · intro h
    cases hsums : prefixSums degrees with
    | error error =>
      rw [hsums] at h
      cases h
    | ok offsets =>
      obtain ⟨hlimit, rfl⟩ := prefixSums_eq_ok_iff.mp hsums
      rw [hsums] at h
      simp only [bind, Except.bind, back_offsetsOf] at h
      split at h
      · next heq =>
        cases h
        exact ⟨hlimit, heq, rfl⟩
      · cases h
  · rintro ⟨hlimit, heq, rfl⟩
    rw [prefixSums_eq_ok_iff.mpr ⟨hlimit, rfl⟩]
    simp only [bind, Except.bind, back_offsetsOf, if_pos heq]

/-- The lists laid out one after another. -/
def ofRows (rows : List (List NodeId)) : AdjacencyList :=
  ⟨(offsetsOf (rows.map List.length)).toArray, rows.flatten.toArray⟩

/-- Rows that follow each other in an array are cut apart again by their lengths. -/
theorem ofDegrees_rows {rows : List (List NodeId)}
    (h : rows.flatten.length < offsetLimit) :
    ofDegrees rows.flatten.toArray (rows.map List.length) = .ok (ofRows rows) := by
  rw [ofDegrees_eq_ok_iff, total_map_length]
  exact ⟨h, List.size_toArray.symm, rfl⟩

@[simp] theorem nodeCount_ofRows (rows : List (List NodeId)) :
    (ofRows rows).nodeCount = rows.length := by
  simp [nodeCount, ofRows]

theorem relationshipCount_ofRows (rows : List (List NodeId)) :
    (ofRows rows).relationshipCount = total (rows.map List.length) := by
  rw [relationshipCount, ofRows, List.size_toArray, total_map_length]

/-- The piece of a concatenation that one of its lists makes up. -/
theorem extract_flatten {rows : List (List NodeId)} {i : Nat} {row : List NodeId}
    (h : rows[i]? = some row) :
    (rows.flatten.take (total ((rows.map List.length).take (i + 1)))).drop
      (total ((rows.map List.length).take i)) = row := by
  induction rows generalizing i with
  | nil => simp at h
  | cons first rows ih =>
    cases i with
    | zero =>
      obtain rfl : first = row := by simpa using h
      simp
    | succ i =>
      rw [List.getElem?_cons_succ] at h
      simp only [List.map_cons, List.take_succ_cons, total_cons, List.flatten_cons] at ih ⊢
      rw [List.take_length_add_append, List.drop_length_add_append]
      exact ih h

/-- **Rows are read back** as they were laid out, and nodes outside have none. -/
theorem neighbors_ofRows (rows : List (List NodeId)) (node : NodeId) :
    (ofRows rows).neighbors node = rows[node.index]?.getD [] := by
  unfold neighbors
  rw [ofRows]
  simp only [List.getElem?_toArray]
  by_cases hlt : node.index < rows.length
  · have hrow := List.getElem?_eq_getElem hlt
    have hmono := total_take_mono (rows.map List.length) (Nat.le_succ node.index)
    rw [getElem?_offsetsOf (by rw [List.length_map]; omega),
      getElem?_offsetsOf (by rw [List.length_map]; omega), hrow, Option.getD_some]
    simp only [Array.toList_extract, List.extract_eq_take_drop]
    rw [← extract_flatten hrow, List.drop_take]
  · have hnone : (offsetsOf (rows.map List.length))[node.index + 1]? = none := by
      rw [List.getElem?_eq_none_iff, length_offsetsOf, List.length_map]
      omega
    have hrow : rows[node.index]? = none := List.getElem?_eq_none_iff.mpr (by omega)
    rw [hnone, hrow]
    cases (offsetsOf (rows.map List.length))[node.index]? <;> rfl

/-- Isolated nodes are laid out as empty lists. -/
theorem isolated_eq_ofRows (nodeCount : Nat) :
    isolated nodeCount = ofRows (List.replicate nodeCount []) := by
  have hzero : ∀ i, total (((List.replicate nodeCount ([] : List NodeId)).map List.length).take i)
      = 0 := by
    intro i
    rw [List.map_replicate, List.take_replicate]
    generalize min i nodeCount = count
    induction count with
    | zero => rfl
    | succ count ih => rw [List.replicate_succ, total_cons, ih, List.length_nil]
  unfold isolated
  rw [ofRows, offsetsOf, List.flatten_replicate_nil]
  simp only [hzero, List.length_map, List.length_replicate, List.map_const', List.length_range]
  rw [List.toArray_replicate]

@[simp] theorem nodeCount_isolated (nodeCount : Nat) : (isolated nodeCount).nodeCount = nodeCount := by
  rw [isolated_eq_ofRows, nodeCount_ofRows, List.length_replicate]

end AdjacencyList

end CompactGraph
