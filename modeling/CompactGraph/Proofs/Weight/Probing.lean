/-
# Probing

Looking for a pair among the slots of a weight table goes from the slot that the pair's hash names to
the first slot that is empty or holds the pair.  This file says which slot that is, when there is one,
and what writing into a slot does to the searches for all pairs.

The invariant is `Placed`: every entry lies in the slot in which its pair is found.  It implies that no
pair lies in two slots, and it is kept by filling the empty slot that a search has ended in.
-/
import Mathlib
import CompactGraph.Weight.WeightTable

namespace CompactGraph

namespace WeightSlots

/-! ## Where a search ends -/

/-- The pair that lies in a slot, the reserved one if the slot is empty. -/
def keyAt (slots : Array WeightSlot) (slot : Nat) : Option PairKey := slots[slot]?.map Prod.fst

/-- A search goes past a slot that another pair lies in. -/
def Passes (slots : Array WeightSlot) (key : PairKey) (slot : Nat) : Prop :=
  ∃ held, keyAt slots slot = some held ∧ held ≠ key ∧ held ≠ PairKey.reserved

/-- A search ends in a slot that is empty or that the pair itself lies in. -/
def Stops (slots : Array WeightSlot) (key : PairKey) (slot : Nat) : Prop :=
  keyAt slots slot = some PairKey.reserved ∨ keyAt slots slot = some key

/-- A slot is either passed or ends the search. -/
theorem passes_or_stops {slots : Array WeightSlot} (key : PairKey) {slot : Nat}
    (h : slot < slots.size) : Passes slots key slot ∨ Stops slots key slot := by
  have hget : keyAt slots slot = some slots[slot].1 := by
    rw [keyAt, Array.getElem?_eq_getElem h]
    rfl
  by_cases hempty : slots[slot].1 = PairKey.reserved
  · exact Or.inr (Or.inl (by rw [hget, hempty]))
  · by_cases hkey : slots[slot].1 = key
    · exact Or.inr (Or.inr (by rw [hget, hkey]))
    · exact Or.inl ⟨_, hget, hkey, hempty⟩

theorem not_stops_of_passes {slots : Array WeightSlot} {key : PairKey} {slot : Nat}
    (h : Passes slots key slot) : ¬ Stops slots key slot := by
  obtain ⟨held, hheld, hkey, hreserved⟩ := h
  rintro (hempty | hown)
  · rw [hheld] at hempty
    exact hreserved (Option.some.inj hempty)
  · rw [hheld] at hown
    exact hkey (Option.some.inj hown)

/-- A search goes on after a slot that it passes. -/
theorem probe_of_passes {slots : Array WeightSlot} {key : PairKey} {slot : Nat}
    (h : Passes slots key slot) (tries : Nat) :
    probe slots key (tries + 1) slot = probe slots key tries ((slot + 1) % slots.size) := by
  obtain ⟨held, hheld, hkey, hreserved⟩ := h
  obtain ⟨⟨_, weight⟩, hget, rfl⟩ := Option.map_eq_some_iff.mp hheld
  rw [probe, hget]
  simp only [if_neg (not_or.mpr ⟨hkey, hreserved⟩)]

/-- A search ends in a slot that stops it. -/
theorem probe_of_stops {slots : Array WeightSlot} {key : PairKey} {slot : Nat}
    (h : Stops slots key slot) (tries : Nat) : probe slots key (tries + 1) slot = some slot := by
  rcases h with hempty | hown
  · obtain ⟨⟨_, weight⟩, hget, rfl⟩ := Option.map_eq_some_iff.mp hempty
    rw [probe, hget]
    simp only [or_true, if_true]
  · obtain ⟨⟨_, weight⟩, hget, rfl⟩ := Option.map_eq_some_iff.mp hown
    rw [probe, hget]
    simp only [true_or, if_true]

theorem lt_size_of_keyAt {slots : Array WeightSlot} {slot : Nat} {held : PairKey}
    (h : keyAt slots slot = some held) : slot < slots.size := by
  obtain ⟨_, hget, -⟩ := Option.map_eq_some_iff.mp h
  exact (Array.getElem?_eq_some_iff.mp hget).1

/-- Going on from the next slot is going one slot further. -/
theorem wrap_succ (slot distance size : Nat) :
    ((slot + 1) % size + distance) % size = (slot + (distance + 1)) % size := by
  rw [Nat.mod_add_mod]
  congr 1
  omega

/-- **The end of a search.**  A search from `slot` ends in the first slot that stops it, as long as it
gets there within its tries. -/
theorem probe_eq_some_iff {slots : Array WeightSlot} {key : PairKey} :
    ∀ {tries slot found : Nat}, slot < slots.size →
      (probe slots key tries slot = some found ↔
        ∃ distance < tries, (∀ d < distance, Passes slots key ((slot + d) % slots.size)) ∧
          Stops slots key found ∧ found = (slot + distance) % slots.size) := by
  intro tries
  induction tries with
  | zero => intro slot found _; simp [probe]
  | succ tries ih =>
    intro slot found hslot
    have hwrap : slot % slots.size = slot := Nat.mod_eq_of_lt hslot
    have hnext : (slot + 1) % slots.size < slots.size := Nat.mod_lt _ (by omega)
    rcases passes_or_stops key hslot with hpass | hstop
    · -- the slot is passed: distances from the next slot are shorter by one
      rw [probe_of_passes hpass, ih hnext]
      constructor
      · rintro ⟨distance, hlt, hbefore, hend, rfl⟩
        refine ⟨distance + 1, by omega, ?_, hend, wrap_succ ..⟩
        intro d hd
        rcases d with _ | d
        · rwa [Nat.add_zero, hwrap]
        · rw [← wrap_succ]
          exact hbefore d (by omega)
      · rintro ⟨distance, hlt, hbefore, hend, rfl⟩
        rcases distance with _ | distance
        · rw [Nat.add_zero, hwrap] at hend
          exact absurd hend (not_stops_of_passes hpass)
        · refine ⟨distance, by omega, ?_, hend, (wrap_succ ..).symm⟩
          intro d hd
          rw [wrap_succ]
          exact hbefore (d + 1) (by omega)
    · -- the slot stops the search: the distance is 0, and no other will do
      rw [probe_of_stops hstop]
      constructor
      · intro h
        obtain rfl : slot = found := by simpa using h
        exact ⟨0, by omega, by omega, hstop, by rw [Nat.add_zero, hwrap]⟩
      · rintro ⟨distance, hlt, hbefore, hend, rfl⟩
        rcases distance with _ | distance
        · rw [Nat.add_zero, hwrap]
        · have hfirst := hbefore 0 (by omega)
          rw [Nat.add_zero, hwrap] at hfirst
          exact absurd hstop (not_stops_of_passes hfirst)

/-! ## The slot where a search begins -/

/-- The number of slots is a power of two, and large enough for the shift that a hash is cut by. -/
def FitsHash (size : Nat) : Prop := ∃ k, 4 ≤ k ∧ size = 2 ^ k

theorem FitsHash.pos {size : Nat} (h : FitsHash size) : 0 < size := by
  obtain ⟨k, _, rfl⟩ := h
  positivity

theorem FitsHash.double {size : Nat} (h : FitsHash size) : FitsHash (2 * size) := by
  obtain ⟨k, hk, rfl⟩ := h
  exact ⟨k + 1, by omega, by rw [pow_succ]; ring⟩

/-- A search begins at a slot of the table. -/
theorem start_lt {size : Nat} (h : FitsHash size) (key : PairKey) : start size key < size := by
  obtain ⟨k, hk, rfl⟩ := h
  rw [start, UInt64.toNat_shiftRight, Nat.log2_two_pow, Nat.toUInt64_eq, UInt64.toNat_ofNat']
  set hash := (key.val * multiplier).toNat with hhash
  have hlt : hash < 2 ^ 64 := (key.val * multiplier).toNat_lt
  have hshift : (64 - k) % 2 ^ 64 % 64 = 64 - k := by omega
  rw [hshift, Nat.shiftRight_eq_div_pow]
  by_cases hk64 : k ≤ 64
  · apply Nat.div_lt_of_lt_mul
    rwa [← pow_add, Nat.sub_add_cancel hk64]
  · have hle : 2 ^ 64 ≤ 2 ^ k := Nat.pow_le_pow_right (by norm_num) (by omega)
    exact lt_of_le_of_lt (Nat.div_le_self ..) (by omega)

/-- The slot that a search ends in stops it. -/
theorem stops_of_find {slots : Array WeightSlot} (hsize : FitsHash slots.size) {key : PairKey}
    {slot : Nat} (h : find slots key = some slot) : Stops slots key slot := by
  obtain ⟨_, _, _, hstop, _⟩ := (probe_eq_some_iff (start_lt hsize key)).mp h
  exact hstop

/-- **A search ends** as long as one slot is empty. -/
theorem exists_find {slots : Array WeightSlot} (hsize : FitsHash slots.size) (key : PairKey)
    {hole : Nat} (hhole : keyAt slots hole = some PairKey.reserved) :
    ∃ slot, find slots key = some slot := by
  classical
  set first := start slots.size key with hfirst
  have hlt : first < slots.size := start_lt hsize key
  have hholelt : hole < slots.size := lt_size_of_keyAt hhole
  have hreach : ∃ d, d < slots.size ∧ Stops slots key ((first + d) % slots.size) := by
    by_cases hle : first ≤ hole
    · refine ⟨hole - first, by omega, ?_⟩
      rw [show first + (hole - first) = hole from by omega, Nat.mod_eq_of_lt hholelt]
      exact Or.inl hhole
    · refine ⟨hole + slots.size - first, by omega, ?_⟩
      rw [show first + (hole + slots.size - first) = hole + slots.size from by omega,
        Nat.add_mod_right, Nat.mod_eq_of_lt hholelt]
      exact Or.inl hhole
  -- the least such distance is the one at which the search ends
  have hspec := Nat.find_spec hreach
  refine ⟨(first + Nat.find hreach) % slots.size, ?_⟩
  rw [find, probe_eq_some_iff (start_lt hsize key)]
  refine ⟨Nat.find hreach, hspec.1, ?_, hspec.2, rfl⟩
  intro d hd
  have hmin := Nat.find_min hreach hd
  have hdlt : d < slots.size := lt_trans hd hspec.1
  have hslot : (first + d) % slots.size < slots.size := Nat.mod_lt _ (by omega)
  rcases passes_or_stops key hslot with hpass | hstop
  · exact hpass
  · exact absurd ⟨hdlt, hstop⟩ hmin

/-! ## Writing into a slot -/

/-- A search looks at nothing but the pairs in the slots. -/
theorem find_eq_of_keys {slots slots' : Array WeightSlot}
    (h : slots'.map Prod.fst = slots.map Prod.fst) (key : PairKey) :
    find slots' key = find slots key := by
  have hsize : slots'.size = slots.size := by
    simpa using congrArg Array.size h
  have hkeys : ∀ slot, keyAt slots' slot = keyAt slots slot := by
    intro slot
    rw [keyAt, keyAt, ← Array.getElem?_map, ← Array.getElem?_map, h]
  have hprobe : ∀ tries slot, probe slots' key tries slot = probe slots key tries slot := by
    intro tries
    induction tries with
    | zero => exact fun _ => rfl
    | succ tries ih =>
      intro slot
      by_cases hslot : slot < slots.size
      · rcases passes_or_stops key hslot with hpass | hstop
        · have hpass' : Passes slots' key slot := by rwa [Passes, hkeys]
          rw [probe_of_passes hpass, probe_of_passes hpass', hsize, ih]
        · have hstop' : Stops slots' key slot := by rwa [Stops, hkeys]
          rw [probe_of_stops hstop, probe_of_stops hstop']
      · rw [probe, probe, Array.getElem?_eq_none (by omega), Array.getElem?_eq_none (by omega)]
  rw [find, find, hsize, hprobe]

/-- A search keeps its end when the slots it passes are still passed and its end still stops it. -/
theorem find_congr {slots slots' : Array WeightSlot} (hsize : FitsHash slots.size)
    (hsame : slots'.size = slots.size) {key : PairKey} {slot : Nat}
    (hfind : find slots key = some slot)
    (hpass : ∀ other, other ≠ slot → Passes slots key other → Passes slots' key other)
    (hstop : Stops slots' key slot) : find slots' key = some slot := by
  have hsize' : FitsHash slots'.size := by rwa [hsame]
  rw [find, probe_eq_some_iff (start_lt hsize key)] at hfind
  rw [find, probe_eq_some_iff (start_lt hsize' key), hsame]
  obtain ⟨distance, hlt, hbefore, hend, hslot⟩ := hfind
  -- the slots before the end are passed, so none of them is the end itself
  refine ⟨distance, hlt, ?_, hstop, hslot⟩
  intro d hd
  have hpassed := hbefore d hd
  apply hpass _ _ hpassed
  intro heq
  exact not_stops_of_passes (heq ▸ hpassed) hend

/-- Every entry lies in the slot in which its pair is found. -/
def Placed (slots : Array WeightSlot) : Prop :=
  ∀ slot entry, slots[slot]? = some entry → entry.1 ≠ PairKey.reserved →
    find slots entry.1 = some slot

theorem placed_blank (capacity : Nat) : Placed (blank capacity) := by
  intro slot entry h hkey
  obtain ⟨hlt, hget⟩ := Array.getElem?_eq_some_iff.mp h
  refine absurd ?_ hkey
  rw [← hget]
  simp [blank]

/-- No pair lies in two slots. -/
theorem Placed.slot_unique {slots : Array WeightSlot} (h : Placed slots) {slot slot' : Nat}
    {key : PairKey} (hkey : key ≠ PairKey.reserved) {weight weight' : Float}
    (hslot : slots[slot]? = some (key, weight)) (hslot' : slots[slot']? = some (key, weight')) :
    slot = slot' := by
  have hfind := h slot _ hslot hkey
  rw [h slot' _ hslot' hkey] at hfind
  simpa using hfind.symm

/-- **Filling the empty slot in which a search ended** leaves every entry where it is found. -/
theorem Placed.fill {slots : Array WeightSlot} (h : Placed slots) (hsize : FitsHash slots.size)
    {entry : PairKey × Float} {slot : Nat} (hfind : find slots entry.1 = some slot)
    (hempty : keyAt slots slot = some PairKey.reserved) :
    Placed (slots.setIfInBounds slot entry) := by
  have hlt : slot < slots.size := lt_size_of_keyAt hempty
  have hother : ∀ {other : Nat}, other ≠ slot →
      (slots.setIfInBounds slot entry)[other]? = slots[other]? := by
    intro other hne
    rw [Array.getElem?_setIfInBounds_ne (Ne.symm hne)]
  have hpass : ∀ key other, other ≠ slot → Passes slots key other →
      Passes (slots.setIfInBounds slot entry) key other := by
    intro key other hne hpassed
    rwa [Passes, keyAt, hother hne]
  intro held e he hkey
  have hown : keyAt (slots.setIfInBounds slot entry) held = some e.1 := by
    rw [keyAt, he]
    rfl
  by_cases hheld : held = slot
  · subst hheld
    have hentry : e = entry := by
      rw [Array.getElem?_setIfInBounds_self_of_lt hlt] at he
      exact (Option.some.inj he).symm
    subst hentry
    exact find_congr hsize Array.size_setIfInBounds hfind (hpass e.1) (Or.inr hown)
  · rw [hother hheld] at he
    apply find_congr hsize Array.size_setIfInBounds (h held e he hkey) _ (Or.inr hown)
    intro other hne hpassed
    -- a slot that is passed is not the empty one
    apply hpass e.1 other _ hpassed
    rintro rfl
    exact not_stops_of_passes hpassed (Or.inl hempty)

/-- Another weight for the pair of a slot leaves the pairs in their slots. -/
theorem keys_overwrite {slots : Array WeightSlot} {slot : Nat} {key : PairKey} {weight : Float}
    (h : slots[slot]? = some (key, weight)) (weight' : Float) :
    (slots.setIfInBounds slot (key, weight')).map Prod.fst = slots.map Prod.fst := by
  obtain ⟨hlt, hget⟩ := Array.getElem?_eq_some_iff.mp h
  apply Array.ext_getElem?
  intro other
  rw [Array.getElem?_map, Array.getElem?_map]
  by_cases heq : other = slot
  · subst heq
    rw [Array.getElem?_setIfInBounds_self_of_lt hlt, h]
    rfl
  · rw [Array.getElem?_setIfInBounds_ne (Ne.symm heq)]

/-- **Writing another weight under the pair of a slot** leaves every entry where it is found. -/
theorem Placed.overwrite {slots : Array WeightSlot} (h : Placed slots) {key : PairKey}
    {weight : Float} {slot : Nat} (hslot : slots[slot]? = some (key, weight)) (weight' : Float) :
    Placed (slots.setIfInBounds slot (key, weight')) := by
  have hlt : slot < slots.size := (Array.getElem?_eq_some_iff.mp hslot).1
  intro held e he hkey
  rw [find_eq_of_keys (keys_overwrite hslot weight')]
  by_cases hheld : held = slot
  · subst hheld
    rw [Array.getElem?_setIfInBounds_self_of_lt hlt] at he
    obtain rfl := Option.some.inj he
    exact h held (key, weight) hslot hkey
  · rw [Array.getElem?_setIfInBounds_ne (Ne.symm hheld)] at he
    exact h held e he hkey

end WeightSlots

end CompactGraph
