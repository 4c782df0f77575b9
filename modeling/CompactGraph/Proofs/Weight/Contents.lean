/-
# What a weight table holds

A weight table stands for a partial map from pairs to weights.  Its invariant `Sound` says that the
slots are as the hash needs them, that every entry lies where it is found, and that a quarter of the
slots is empty.  Each operation keeps the invariant, and what it does to the partial map is said for
every pair on its own: writing a weight changes what one pair holds, in the way `WeightRules.receive`
tells, and nothing else.

It follows that a pair holds, after many writes, what the weights written under it make of each other
in their order, whatever is written under other pairs in between.
-/
import CompactGraph.Proofs.Weight.Probing

namespace CompactGraph

namespace WeightSlots

/-! ## Entries -/

theorem mem_entries_iff {slots : Array WeightSlot} {entry : PairKey × Float} :
    entry ∈ entries slots ↔
      (∃ slot : Nat, slots[slot]? = some entry) ∧ entry.1 ≠ PairKey.reserved := by
  rw [entries, List.mem_filter, bne_iff_ne, Array.mem_toList_iff, Array.mem_iff_getElem?]

theorem entries_blank (capacity : Nat) : entries (blank capacity) = [] := by
  simp [entries, blank]

/-- With fewer entries than slots, some slot is empty. -/
theorem exists_hole {slots : Array WeightSlot} (h : (entries slots).length < slots.size) :
    ∃ hole, keyAt slots hole = some PairKey.reserved := by
  by_contra hfull
  push Not at hfull
  have hall : ∀ held ∈ slots.toList, (held.1 != PairKey.reserved) = true := by
    intro held hmem
    obtain ⟨slot, hslot⟩ := Array.mem_iff_getElem?.mp (Array.mem_toList_iff.mp hmem)
    rw [bne_iff_ne]
    intro hempty
    refine hfull slot ?_
    rw [keyAt, hslot, Option.map_some, hempty]
  rw [entries, List.filter_eq_self.mpr hall, Array.length_toList] at h
  exact Nat.lt_irrefl _ h

/-- The slots around one of them. -/
theorem toList_split {slots : Array WeightSlot} {slot : Nat} {held : WeightSlot}
    (h : slots[slot]? = some held) :
    slots.toList = slots.toList.take slot ++ held :: slots.toList.drop (slot + 1) ∧
      ∀ new, (slots.setIfInBounds slot new).toList
        = slots.toList.take slot ++ new :: slots.toList.drop (slot + 1) := by
  obtain ⟨hlt, hget⟩ := Array.getElem?_eq_some_iff.mp h
  have hlist : slot < slots.toList.length := by simpa using hlt
  constructor
  · conv_lhs => rw [← List.take_append_drop slot slots.toList, List.drop_eq_getElem_cons hlist]
    rw [Array.getElem_toList, hget]
  · intro new
    rw [Array.toList_setIfInBounds, List.set_eq_take_append_cons_drop, if_pos hlist]

/-- Filling an empty slot adds one entry. -/
theorem entries_fill {slots : Array WeightSlot} {slot : Nat}
    (h : keyAt slots slot = some PairKey.reserved) {entry : PairKey × Float}
    (hkey : entry.1 ≠ PairKey.reserved) :
    (entries (slots.setIfInBounds slot entry)).Perm (entry :: entries slots) := by
  obtain ⟨⟨_, weight⟩, hget, rfl⟩ := Option.map_eq_some_iff.mp h
  obtain ⟨hold, hnew⟩ := toList_split hget
  rw [entries, entries, hnew]
  conv_rhs => rw [hold]
  rw [List.filter_append, List.filter_append, List.filter_cons_of_pos (by simpa using hkey),
    List.filter_cons_of_neg (by simp)]
  exact List.perm_middle

/-- Overwriting a weight changes one entry. -/
theorem mem_entries_overwrite {slots : Array WeightSlot} (hplaced : Placed slots) {slot : Nat}
    {key : PairKey} (hkey : key ≠ PairKey.reserved) {weight : Float}
    (h : slots[slot]? = some (key, weight)) (weight' : Float) (entry : PairKey × Float) :
    entry ∈ entries (slots.setIfInBounds slot (key, weight')) ↔
      entry = (key, weight') ∨ (entry ∈ entries slots ∧ entry.1 ≠ key) := by
  have hlt : slot < slots.size := (Array.getElem?_eq_some_iff.mp h).1
  rw [mem_entries_iff, mem_entries_iff]
  constructor
  · rintro ⟨⟨other, hother⟩, hentry⟩
    by_cases heq : other = slot
    · subst heq
      rw [Array.getElem?_setIfInBounds_self_of_lt hlt] at hother
      exact Or.inl (Option.some.inj hother).symm
    · rw [Array.getElem?_setIfInBounds_ne (Ne.symm heq)] at hother
      -- the pair lies in no slot but its own
      refine Or.inr ⟨⟨⟨other, hother⟩, hentry⟩, ?_⟩
      rintro rfl
      exact heq (hplaced.slot_unique hkey hother h)
  · rintro (rfl | ⟨⟨⟨other, hother⟩, hentry⟩, hne⟩)
    · exact ⟨⟨slot, Array.getElem?_setIfInBounds_self_of_lt hlt⟩, hkey⟩
    · refine ⟨⟨other, ?_⟩, hentry⟩
      rw [Array.getElem?_setIfInBounds_ne]
      · exact hother
      · rintro rfl
        rw [h] at hother
        obtain rfl := Option.some.inj hother
        exact hne rfl

/-- Overwriting a weight keeps the number of entries. -/
theorem length_entries_overwrite {slots : Array WeightSlot} {slot : Nat} {key : PairKey}
    {weight : Float} (h : slots[slot]? = some (key, weight)) (weight' : Float) :
    (entries (slots.setIfInBounds slot (key, weight'))).length = (entries slots).length := by
  have hcount : ∀ slots : Array WeightSlot, (entries slots).length
      = (slots.map Prod.fst).toList.countP fun key => key != PairKey.reserved := by
    intro slots
    rw [entries, ← List.countP_eq_length_filter, Array.toList_map, List.countP_map]
    rfl
  rw [hcount, hcount, keys_overwrite h]

/-- The pairs of placed entries are all different. -/
theorem Placed.nodup_keys {slots : Array WeightSlot} (h : Placed slots) :
    ((entries slots).map Prod.fst).Nodup := by
  rw [List.nodup_iff_pairwise_ne, List.pairwise_map, entries, List.pairwise_filter,
    List.pairwise_iff_getElem]
  intro i j hi hj hij hkey _ heq
  have hget : ∀ {i : Nat} (hi : i < slots.toList.length), slots[i]? = some slots.toList[i] := by
    intro i hi
    rw [← Array.getElem?_toList, List.getElem?_eq_getElem hi]
  -- two entries of one pair would lie in one slot
  have hfirst := hget hi
  have hsecond := hget hj
  have hslot : i = j := h.slot_unique (bne_iff_ne.mp hkey) hfirst (by rw [heq]; exact hsecond)
  omega

/-! ## Placing entries again -/

theorem size_place (slots : Array WeightSlot) (entry : PairKey × Float) :
    (place slots entry).size = slots.size := by
  unfold place
  split
  · rw [Array.size_setIfInBounds]
  · rfl

/-- Placing an entry whose pair is absent adds it. -/
theorem place_absent {slots : Array WeightSlot} (hsize : FitsHash slots.size)
    (hplaced : Placed slots) (hroom : (entries slots).length < slots.size)
    {entry : PairKey × Float} (hkey : entry.1 ≠ PairKey.reserved)
    (habsent : entry.1 ∉ (entries slots).map Prod.fst) :
    Placed (place slots entry) ∧ (entries (place slots entry)).Perm (entry :: entries slots) := by
  obtain ⟨hole, hhole⟩ := exists_hole hroom
  obtain ⟨slot, hslot⟩ := exists_find hsize entry.1 hhole
  have hempty : keyAt slots slot = some PairKey.reserved := by
    rcases stops_of_find hsize hslot with hempty | hown
    · exact hempty
    · obtain ⟨held, hheld, heq⟩ := Option.map_eq_some_iff.mp hown
      refine absurd ?_ habsent
      exact List.mem_map.mpr ⟨held, mem_entries_iff.mpr ⟨⟨slot, hheld⟩, heq ▸ hkey⟩, heq⟩
  unfold place
  rw [hslot]
  exact ⟨hplaced.fill hsize hslot hempty, entries_fill hempty hkey⟩

/-- Placing entries whose pairs are absent adds them all. -/
theorem foldl_place (news : List (PairKey × Float)) :
    ∀ {slots : Array WeightSlot}, FitsHash slots.size → Placed slots →
      (∀ entry ∈ news, entry.1 ≠ PairKey.reserved) →
      (entries slots).length + news.length < slots.size →
      ((news ++ entries slots).map Prod.fst).Nodup →
      (news.foldl place slots).size = slots.size ∧ Placed (news.foldl place slots) ∧
        (entries (news.foldl place slots)).Perm (news ++ entries slots) := by
  induction news with
  | nil => intro slots _ hplaced _ _ _; exact ⟨rfl, hplaced, List.Perm.refl _⟩
  | cons entry news ih =>
    intro slots hsize hplaced hkeys hroom hnodup
    simp only [List.cons_append, List.map_cons, List.nodup_cons, List.length_cons] at hnodup hroom
    obtain ⟨hfresh, hnodup⟩ := hnodup
    have habsent : entry.1 ∉ (entries slots).map Prod.fst := by
      intro hmem
      exact hfresh (by rw [List.map_append]; exact List.mem_append_right _ hmem)
    obtain ⟨hplaced', hperm⟩ :=
      place_absent hsize hplaced (by omega) (hkeys entry List.mem_cons_self) habsent
    have hlength := hperm.length_eq
    rw [List.length_cons] at hlength
    -- the entry goes from those to come to those that are placed
    have hmid : (news ++ entries (place slots entry)).Perm (entry :: (news ++ entries slots)) :=
      (List.Perm.append_left news hperm).trans List.perm_middle
    have hnodup' : ((news ++ entries (place slots entry)).map Prod.fst).Nodup := by
      rw [(hmid.map Prod.fst).nodup_iff, List.map_cons, List.nodup_cons]
      exact ⟨hfresh, hnodup⟩
    have hfits : FitsHash (place slots entry).size := by rwa [size_place]
    obtain ⟨hsize', hplaced'', hperm'⟩ := ih hfits hplaced'
      (fun e he => hkeys e (List.mem_cons_of_mem _ he)) (by rw [size_place]; omega) hnodup'
    exact ⟨by rw [List.foldl_cons, hsize', size_place], hplaced'', hperm'.trans hmid⟩

/-- Doubling the slots keeps the entries. -/
theorem double_spec {slots : Array WeightSlot} (hsize : FitsHash slots.size)
    (hplaced : Placed slots) :
    (double slots).size = 2 * slots.size ∧ Placed (double slots) ∧
      (entries (double slots)).Perm (entries slots) := by
  have hlength : (entries slots).length ≤ slots.size := by
    rw [entries, ← Array.length_toList]
    exact List.length_filter_le ..
  have hpos := hsize.pos
  have hblank : (blank (2 * slots.size)).size = 2 * slots.size := by simp [blank]
  have hfits : FitsHash (blank (2 * slots.size)).size := by
    rw [hblank]
    exact hsize.double
  have hspec := foldl_place (entries slots) hfits (placed_blank _)
    (fun entry hentry => (mem_entries_iff.mp hentry).2)
    (by rw [entries_blank, hblank]; simp only [List.length_nil]; omega)
    (by rw [entries_blank, List.append_nil]; exact hplaced.nodup_keys)
  rwa [entries_blank, List.append_nil, hblank] at hspec

end WeightSlots

/-! ## Sound tables -/

/-- What a table does with a weight that arrives: its default weight, its policy, and whether it keeps
default weights. -/
structure WeightRules where
  defaultWeight : Float
  policy : DuplicatePolicy
  isShard : Bool

/-- What a pair holds once a weight has arrived under it; `none` if the weight may not meet the one that
is held. -/
def WeightRules.receive (rules : WeightRules) (held : Option Float) (weight : Float) :
    Option (Option Float) :=
  match held with
  | some stored => (rules.policy.merge stored weight).map some
  | none => if weight == rules.defaultWeight && !rules.isShard then some none else some (some weight)

namespace WeightTable

open WeightSlots

/-- The rules of a table. -/
def rules (table : WeightTable) : WeightRules :=
  ⟨table.defaultWeight, table.policy, table.isShard⟩

/-- The invariant of all tables. -/
structure Sound (table : WeightTable) : Prop where
  fits : FitsHash table.slots.size
  placed : Placed table.slots
  size_eq : table.size = table.entries.length
  roomy : 4 * table.size < 3 * table.slots.size

/-- The least power of two for a number is not below it. -/
theorem le_powerOfTwoFor (number : Nat) : number ≤ powerOfTwoFor number := by
  unfold powerOfTwoFor
  split
  · assumption
  · have hlt : number - 1 < 2 ^ ((number - 1).log2 + 1) := Nat.lt_log2_self
    rw [Nat.pow_eq]
    omega

theorem exists_powerOfTwoFor (number : Nat) : ∃ k, powerOfTwoFor number = 2 ^ k := by
  unfold powerOfTwoFor
  split
  · exact ⟨0, rfl⟩
  · exact ⟨_, rfl⟩

theorem fitsHash_capacityFor (expected : Nat) : FitsHash (capacityFor expected) := by
  obtain ⟨k, hk⟩ := exists_powerOfTwoFor
    (max minCapacity (min (expected * 4) (UInt64.size - 1) / 3 + 1))
  have hle : minCapacity ≤ capacityFor expected :=
    le_trans (le_max_left _ _) (le_powerOfTwoFor _)
  refine ⟨k, ?_, hk⟩
  by_contra hsmall
  have hpow : 2 ^ k ≤ 2 ^ 3 := Nat.pow_le_pow_right (by norm_num) (by omega)
  unfold capacityFor at hle
  rw [hk, minCapacity] at hle
  omega

/-- A new table holds nothing. -/
@[simp] theorem entries_withCapacity (expected : Nat) (defaultWeight : Float)
    (policy : DuplicatePolicy) : (withCapacity expected defaultWeight policy).entries = [] := by
  rw [entries, withCapacity, entries_blank]

/-- A new table is sound. -/
theorem sound_withCapacity (expected : Nat) (defaultWeight : Float) (policy : DuplicatePolicy) :
    (withCapacity expected defaultWeight policy).Sound where
  fits := by
    unfold withCapacity
    rw [blank, Array.size_replicate]
    exact fitsHash_capacityFor expected
  placed := placed_blank _
  size_eq := by
    rw [entries_withCapacity]
    rfl
  roomy := by
    have hpos := (fitsHash_capacityFor expected).pos
    show 4 * 0 < 3 * (blank (capacityFor expected)).size
    unfold blank
    rw [Array.size_replicate]
    omega

variable {table : WeightTable}

/-- Whether a table is a shard does not matter to the invariant. -/
theorem Sound.withShard (h : table.Sound) (isShard : Bool) : { table with isShard }.Sound :=
  ⟨h.fits, h.placed, h.size_eq, h.roomy⟩

/-- The reserved pair has no entry. -/
theorem unreserved (table : WeightTable) : ∀ entry ∈ table.entries, entry.1 ≠ PairKey.reserved :=
  fun _ hentry => (WeightSlots.mem_entries_iff.mp hentry).2

theorem Sound.exists_hole (h : table.Sound) :
    ∃ hole, keyAt table.slots hole = some PairKey.reserved := by
  have hroomy := h.roomy
  apply WeightSlots.exists_hole
  rw [← entries, ← h.size_eq]
  omega

/-- The search for a pair ends, at an empty slot or at the pair. -/
theorem Sound.exists_slot (h : table.Sound) (key : PairKey) :
    ∃ slot, find table.slots key = some slot ∧ Stops table.slots key slot := by
  obtain ⟨hole, hhole⟩ := h.exists_hole
  obtain ⟨slot, hslot⟩ := exists_find h.fits key hhole
  exact ⟨slot, hslot, stops_of_find h.fits hslot⟩

/-- **The entries are what is found.** -/
theorem Sound.mem_entries_iff (h : table.Sound) {key : PairKey} {weight : Float} :
    (key, weight) ∈ table.entries ↔ table.find? key = some weight := by
  rw [entries, WeightSlots.mem_entries_iff]
  constructor
  · rintro ⟨⟨slot, hslot⟩, hkey⟩
    have hfind := h.placed slot _ hslot hkey
    rw [find?, if_neg hkey, hfind]
    simp [hslot]
  · intro hfound
    obtain ⟨slot, hfind, -⟩ := h.exists_slot key
    rw [find?, hfind] at hfound
    split at hfound
    · cases hfound
    · next hkey =>
      obtain ⟨⟨held, stored⟩, hheld, rfl⟩ := Option.map_eq_some_iff.mp hfound
      obtain ⟨hslot, hown⟩ := Option.filter_eq_some_iff.mp hheld
      obtain rfl : held = key := beq_iff_eq.mp hown
      exact ⟨⟨slot, hslot⟩, hkey⟩

/-- A pair that is not found has no entry. -/
theorem Sound.find?_eq_none_iff (h : table.Sound) {key : PairKey} :
    table.find? key = none ↔ key ∉ table.entries.map Prod.fst := by
  rw [List.mem_map, Option.eq_none_iff_forall_ne_some]
  constructor
  · rintro hnone ⟨⟨_, weight⟩, hmem, rfl⟩
    exact hnone weight (h.mem_entries_iff.mp hmem)
  · rintro hnot weight hfound
    exact hnot ⟨(key, weight), h.mem_entries_iff.mpr hfound, rfl⟩

theorem find?_withCapacity (expected : Nat) (defaultWeight : Float) (policy : DuplicatePolicy)
    (key : PairKey) : (withCapacity expected defaultWeight policy).find? key = none := by
  rw [(sound_withCapacity ..).find?_eq_none_iff, entries_withCapacity]
  simp

/-- What is found is what an entry list says, if two tables agree on it. -/
theorem Sound.find?_congr {table' : WeightTable} (h : table.Sound) (h' : table'.Sound)
    {key : PairKey}
    (hsame : ∀ weight, (key, weight) ∈ table'.entries ↔ (key, weight) ∈ table.entries) :
    table'.find? key = table.find? key := by
  apply Option.ext
  intro weight
  rw [← h.mem_entries_iff, ← h'.mem_entries_iff]
  exact hsame weight

theorem Sound.nodup_entries (h : table.Sound) : table.entries.Nodup :=
  List.Nodup.of_map Prod.fst h.placed.nodup_keys

/-- **Tables that answer alike hold the same entries**, if in another order. -/
theorem Sound.entries_perm {table' : WeightTable} (h : table.Sound) (h' : table'.Sound)
    (hsame : ∀ key, table'.find? key = table.find? key) : table'.entries.Perm table.entries := by
  rw [List.perm_ext_iff_of_nodup h'.nodup_entries h.nodup_entries]
  rintro ⟨key, weight⟩
  rw [h.mem_entries_iff, h'.mem_entries_iff, hsame]

theorem Sound.size_congr {table' : WeightTable} (h : table.Sound) (h' : table'.Sound)
    (hsame : ∀ key, table'.find? key = table.find? key) : table'.size = table.size := by
  rw [h.size_eq, h'.size_eq, (h.entries_perm h' hsame).length_eq]

end WeightTable

end CompactGraph
