/-
# Packing regions

The targets that partitions wrote into their regions are moved down to close the gaps.  A move goes to
a place not above the one it starts from, and so it destroys nothing that is still to be moved.  In the
end the targets of all partitions stand one after another.
-/
import CompactGraph.Proofs.Adjacency.Lists
import CompactGraph.Proofs.Outcomes
import CompactGraph.Load.Region

namespace CompactGraph

/-! ## Writing into an array -/

theorem foldl_writes (values : List NodeId) (position : Nat) :
    ∀ (array : Array NodeId) (first i : Nat),
      ((values.zipIdx first).foldl (fun array (value, index) =>
        array.setIfInBounds (position + index) value) array)[i]?
        = if position + first ≤ i ∧ i < position + first + values.length ∧ i < array.size
          then values[i - (position + first)]? else array[i]? := by
  induction values with
  | nil =>
    intro array first i
    rw [if_neg (by rw [List.length_nil]; omega)]
    rfl
  | cons value values ih =>
    intro array first i
    rw [List.zipIdx_cons, List.foldl_cons, ih, Array.size_setIfInBounds, Array.getElem?_setIfInBounds]
    -- later values are written further on
    by_cases hi : i = position + first
    · subst hi
      rw [if_neg (by omega), if_pos rfl]
      by_cases hsize : position + first < array.size
      · rw [if_pos hsize, if_pos (by simp [hsize]), Nat.sub_self]
        rfl
      · rw [if_neg hsize, if_neg (by omega)]
        exact (Array.getElem?_eq_none (by omega)).symm
    · rw [if_neg (Ne.symm hi)]
      by_cases hrange : position + first ≤ i ∧ i < position + first + (value :: values).length ∧
          i < array.size
      · rw [if_pos hrange]
        rw [List.length_cons] at hrange
        rw [if_pos (by omega)]
        have hindex : i - (position + first) = (i - (position + (first + 1))) + 1 := by omega
        rw [hindex, List.getElem?_cons_succ]
      · rw [if_neg hrange]
        rw [List.length_cons] at hrange
        rw [if_neg (by omega)]

/-- What stands in an array after values have been written into it. -/
theorem getElem?_writeAt (values array : Array NodeId) (position i : Nat) :
    (writeAt values array position)[i]?
      = if position ≤ i ∧ i < position + values.size ∧ i < array.size
        then values[i - position]? else array[i]? := by
  have h := foldl_writes values.toList position array 0 i
  rw [Nat.add_zero, Array.length_toList] at h
  unfold writeAt
  rw [← Array.foldl_toList, Array.toList_zipIdx, h, Array.getElem?_toList]

theorem size_writeAt (values array : Array NodeId) (position : Nat) :
    (writeAt values array position).size = array.size := by
  unfold writeAt
  rw [← Array.foldl_toList]
  generalize values.zipIdx.toList = writes
  induction writes generalizing array with
  | nil => rfl
  | cons write writes ih => rw [List.foldl_cons, ih, Array.size_setIfInBounds]

/-- An array that holds values from a position on. -/
def Holds (array : Array NodeId) (position : Nat) (values : List NodeId) : Prop :=
  ∀ k, k < values.length → array[position + k]? = values[k]?

theorem holds_writeAt {values array : Array NodeId} {position : Nat}
    (h : position + values.size ≤ array.size) :
    Holds (writeAt values array position) position values.toList := by
  intro k hk
  rw [Array.length_toList] at hk
  rw [getElem?_writeAt, if_pos (by omega), Nat.add_sub_cancel_left, Array.getElem?_toList]

/-- What a write does not touch. -/
theorem getElem?_writeAt_of_not {values array : Array NodeId} {position i : Nat}
    (h : i < position ∨ position + values.size ≤ i) :
    (writeAt values array position)[i]? = array[i]? := by
  rw [getElem?_writeAt, if_neg (by omega)]

theorem extract_of_holds {array : Array NodeId} {position : Nat} {values : Array NodeId}
    (h : Holds array position values.toList) (hsize : position + values.size ≤ array.size) :
    array.extract position (position + values.size) = values := by
  apply Array.ext
  · rw [Array.size_extract]
    omega
  · intro k hk hk'
    have hget := h k (by rwa [Array.length_toList])
    rw [Array.getElem?_toList] at hget
    rw [Array.getElem_extract]
    rw [Array.getElem?_eq_getElem (by omega), Array.getElem?_eq_getElem hk'] at hget
    exact Option.some.inj hget

/-! ## Regions and moves -/

/-- Targets laid out in order from a position on, with gaps between them, in an array of some size. -/
def Laid (size position : Nat) : List Written → Prop
  | [] => position ≤ size
  | part :: parts => position ≤ part.start ∧ Laid size (part.start + part.targets.size) parts

theorem Laid.le {size : Nat} {parts : List Written} :
    ∀ {position : Nat}, Laid size position parts → position ≤ size := by
  induction parts with
  | nil => exact fun h => h
  | cons part parts ih =>
    intro position h
    have hle := ih h.2
    have hstart := h.1
    omega

/-- What is laid out from a position on is so from any position before it. -/
theorem Laid.mono {size position position' : Nat} {parts : List Written} (h : Laid size position parts)
    (hle : position' ≤ position) : Laid size position' parts := by
  cases parts with
  | nil => exact hle.trans h
  | cons part parts => exact ⟨hle.trans h.1, h.2⟩

theorem Laid.start_le {size : Nat} {parts : List Written} :
    ∀ {position : Nat}, Laid size position parts → ∀ part ∈ parts, position ≤ part.start := by
  induction parts with
  | nil => intro position _ part hpart; cases hpart
  | cons first parts ih =>
    intro position h part hpart
    have hstart := h.1
    rcases List.mem_cons.mp hpart with rfl | hpart
    · exact hstart
    · have hle := ih h.2 part hpart
      omega

/-- After all partitions have written, each region holds what was written into it. -/
theorem holds_foldl_writeAt {size : Nat} {parts : List Written} :
    ∀ {position : Nat} {array : Array NodeId}, array.size = size → Laid size position parts →
      let written := parts.foldl (fun array part => writeAt part.targets array part.start) array
      written.size = size ∧ (∀ i, i < position → written[i]? = array[i]?) ∧
        ∀ part ∈ parts, Holds written part.start part.targets.toList := by
  induction parts with
  | nil =>
    intro position array hsize _
    exact ⟨hsize, fun _ _ => rfl, fun part hpart => by cases hpart⟩
  | cons part parts ih =>
    intro position array hsize hlaid
    have hstart := hlaid.1
    have hle := hlaid.2.le
    have hwritten : (writeAt part.targets array part.start).size = size := by
      rw [size_writeAt, hsize]
    obtain ⟨hsize', hbefore, hheld⟩ := ih hwritten hlaid.2
    refine ⟨hsize', fun i hi => ?_, fun other hother => ?_⟩
    · rw [List.foldl_cons, hbefore i (by omega), getElem?_writeAt_of_not (by omega)]
    · rcases List.mem_cons.mp hother with rfl | hother
      · intro k hk
        rw [List.foldl_cons, hbefore _ (by rw [Array.length_toList] at hk; omega)]
        exact holds_writeAt (by omega) k hk
      · exact hheld other hother

/-- The moves close all gaps. -/
theorem holds_foldl_moves {size : Nat} {parts : List Written} :
    ∀ {filled position : Nat} {array : Array NodeId}, array.size = size → Laid size position parts →
      filled ≤ position → (∀ part ∈ parts, Holds array part.start part.targets.toList) →
      let moved := (movesFrom filled parts).foldl
        (fun array move => copyWithin array move.start move.size move.destination) array
      moved.size = size ∧ (∀ i, i < filled → moved[i]? = array[i]?) ∧
        Holds moved filled (parts.flatMap fun part => part.targets.toList) ∧
        filled + (parts.flatMap fun part => part.targets.toList).length ≤ size := by
  induction parts with
  | nil =>
    intro filled position array hsize hlaid hfilled _
    have hle := hlaid.le
    refine ⟨hsize, fun _ _ => rfl, fun k hk => absurd hk (Nat.not_lt_zero k), ?_⟩
    simp only [List.flatMap_nil, List.length_nil]
    omega
  | cons part parts ih =>
    intro filled position array hsize hlaid hfilled hheld
    have hstart := hlaid.1
    have hle := hlaid.2.le
    -- the targets move towards the front, into room that is done with
    have hcopy : copyWithin array part.start part.targets.size filled
        = writeAt part.targets array filled := by
      unfold copyWithin
      rw [extract_of_holds (hheld part List.mem_cons_self) (by omega)]
    -- regions further on have not been touched
    have hrest : ∀ other ∈ parts,
        Holds (writeAt part.targets array filled) other.start other.targets.toList := by
      intro other hother k hk
      have hbeyond := hlaid.2.start_le other hother
      rw [getElem?_writeAt_of_not (by omega)]
      exact hheld other (List.mem_cons_of_mem _ hother) k hk
    have hwritten : (writeAt part.targets array filled).size = size := by
      rw [size_writeAt, hsize]
    have hclosed : filled + part.targets.size ≤ part.start + part.targets.size := by omega
    obtain ⟨hsize', hbefore, hall, hroom⟩ := ih hwritten hlaid.2 hclosed hrest
    rw [movesFrom, List.foldl_cons]
    simp only [hcopy]
    refine ⟨hsize', fun i hi => ?_, fun k hk => ?_, ?_⟩
    · rw [hbefore i (by omega), getElem?_writeAt_of_not (by omega)]
    · rw [List.flatMap_cons]
      by_cases hk' : k < part.targets.size
      · rw [hbefore _ (by omega), List.getElem?_append_left (by rwa [Array.length_toList])]
        exact holds_writeAt (by omega) k (by rwa [Array.length_toList])
      · rw [List.flatMap_cons, List.length_append, Array.length_toList] at hk
        rw [List.getElem?_append_right (by rw [Array.length_toList]; omega), Array.length_toList,
          ← hall _ (by omega)]
        congr 1
        omega
    · rw [List.flatMap_cons, List.length_append, Array.length_toList]
      omega

/-- **A move** goes down and stays in the array. -/
theorem Laid.moves {size : Nat} {parts : List Written} :
    ∀ {filled position : Nat}, Laid size position parts → filled ≤ position →
      ∀ move ∈ movesFrom filled parts, move.destination ≤ move.start ∧ move.start + move.size ≤ size := by
  induction parts with
  | nil => exact fun _ _ _ hmove => nomatch hmove
  | cons part parts ih =>
    intro filled position h hfilled move hmove
    have hdown : filled ≤ part.start := hfilled.trans h.1
    rcases List.mem_cons.mp hmove with rfl | hmove
    · exact ⟨hdown, h.2.le⟩
    · exact ih h.2 (Nat.add_le_add_right hdown _) move hmove

/-- **Packing** puts the targets of all partitions one after another. -/
theorem pack_eq {size : Nat} {parts : List Written} (h : Laid size 0 parts) :
    pack size parts = (parts.flatMap fun part => part.targets.toList).toArray := by
  have hblank : (Array.replicate size (⟨0⟩ : NodeId)).size = size := Array.size_replicate
  obtain ⟨hsize, _, hheld⟩ := holds_foldl_writeAt hblank h
  obtain ⟨hsize', _, hall, hroom⟩ := holds_foldl_moves hsize h (Nat.le_refl 0) hheld
  rw [Nat.zero_add] at hroom
  have htotal : total (parts.map fun part => part.targets.size)
      = (parts.flatMap fun part => part.targets.toList).length := by
    rw [List.flatMap_def, ← total_map_length, List.map_map]
    rfl
  have htake : ∀ (array : Array NodeId) (count : Nat),
      (array.take count).toList = array.toList.take count := by
    intro array count
    simp
  unfold pack
  rw [backing, htotal]
  apply Array.ext'
  apply List.ext_getElem?
  intro k
  by_cases hk : k < (parts.flatMap fun part => part.targets.toList).length
  · have hget := hall k hk
    rw [Nat.zero_add] at hget
    rw [htake, List.getElem?_take_of_lt hk, Array.getElem?_toList]
    exact hget
  · rw [List.getElem?_eq_none (by rw [htake, List.length_take]; exact (Nat.min_le_left ..).trans (by omega)),
      List.getElem?_eq_none (by rw [List.toList_toArray]; omega)]

/-! ## Reserving -/

/-- **Room is reserved** if no list asks for more targets than an array can hold. -/
theorem reserve_eq_ok_iff {bounds : List Nat} {offsets : Array Nat} :
    reserve bounds = .ok offsets ↔
      total bounds ≤ maxTargets ∧ offsets = (offsetsOf bounds).toArray := by
  have hlimit : maxTargets < offsetLimit := by decide
  unfold reserve
  rw [bind_eq_ok_iff]
  constructor
  · rintro ⟨own, hown, hrest⟩
    obtain ⟨_, rfl⟩ := prefixSums_eq_ok_iff.mp hown
    simp only [back_offsetsOf] at hrest
    by_cases hlarge : total bounds > maxTargets
    · rw [if_pos hlarge] at hrest
      cases hrest
    · rw [if_neg hlarge] at hrest
      cases hrest
      exact ⟨by omega, rfl⟩
  · rintro ⟨hsmall, rfl⟩
    refine ⟨_, prefixSums_eq_ok_iff.mpr ⟨by omega, rfl⟩, ?_⟩
    simp only [back_offsetsOf]
    rw [if_neg (by omega)]
    rfl

end CompactGraph
