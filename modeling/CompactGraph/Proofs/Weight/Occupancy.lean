/-
# Weight tables never fill

A search for a pair goes around the slots until one of them stops it, however far that is (`Leads`).  It
ends because a weight table is never more than three quarters full, whatever has been done to it
(`WeightTable.Uncrowded`): not in a call that fails, not by writes under the reserved pair, and not while
its entries are placed anew in twice as many slots.
-/
import CompactGraph.Proofs.Weight.Refinement

namespace CompactGraph

namespace WeightSlots

/-! ## Searches without a bound -/

/-- A slot that some pair lies in. -/
def Occupied (slots : Array WeightSlot) (slot : Nat) : Prop :=
  ∃ held, keyAt slots slot = some held ∧ held ≠ PairKey.reserved

/-- A search that has come to a slot leads to the first one from there on that stops it. -/
inductive Leads (slots : Array WeightSlot) (key : PairKey) : Nat → Nat → Prop where
  | stop {slot : Nat} (h : Stops slots key slot) : Leads slots key slot slot
  | pass {slot found : Nat} (h : Passes slots key slot)
      (rest : Leads slots key ((slot + 1) % slots.size) found) : Leads slots key slot found

variable {slots : Array WeightSlot} {key : PairKey}

theorem occupied_of_passes {slot : Nat} (h : Passes slots key slot) : Occupied slots slot := by
  obtain ⟨held, hheld, -, hreserved⟩ := h
  exact ⟨held, hheld, hreserved⟩

theorem Leads.unique {slot found found' : Nat} (h : Leads slots key slot found)
    (h' : Leads slots key slot found') : found = found' := by
  induction h with
  | stop hstop =>
    cases h' with
    | stop => rfl
    | pass hpass => exact absurd hstop (not_stops_of_passes hpass)
  | pass hpass _ ih =>
    cases h' with
    | stop hstop => exact absurd hstop (not_stops_of_passes hpass)
    | pass _ hrest => exact ih hrest

/-- A search that ends within its tries would have ended there without them. -/
theorem leads_of_probe {found : Nat} (tries : Nat) :
    ∀ {slot : Nat}, slot < slots.size → probe slots key tries slot = some found →
      Leads slots key slot found := by
  induction tries with
  | zero =>
    intro slot _ hprobe
    cases hprobe
  | succ tries ih =>
    intro slot hslot hprobe
    rcases passes_or_stops key hslot with hpass | hstop
    · rw [probe_of_passes hpass] at hprobe
      exact .pass hpass (ih (Nat.mod_lt _ (Nat.zero_lt_of_lt hslot)) hprobe)
    · rw [probe_of_stops hstop] at hprobe
      obtain rfl := Option.some.inj hprobe
      exact .stop hstop

/-- **The bound on the tries does not matter** as long as one slot is empty. -/
theorem find_eq_some_iff_leads (hsize : FitsHash slots.size) {hole : Nat}
    (hhole : keyAt slots hole = some PairKey.reserved) {found : Nat} :
    find slots key = some found ↔ Leads slots key (start slots.size key) found := by
  have hfind : ∀ {slot}, find slots key = some slot → Leads slots key (start slots.size key) slot :=
    fun h => leads_of_probe _ (start_lt hsize key) h
  refine ⟨hfind, fun hleads => ?_⟩
  obtain ⟨slot, hslot⟩ := exists_find hsize key hhole
  rw [hslot, (hfind hslot).unique hleads]

/-- All slots between the one where the search for a pair begins and the one where it ends are occupied. -/
theorem exists_distance_of_find (hsize : FitsHash slots.size) {found : Nat}
    (h : find slots key = some found) :
    ∃ distance < slots.size, found = (start slots.size key + distance) % slots.size ∧
      ∀ d < distance, Occupied slots ((start slots.size key + d) % slots.size) := by
  obtain ⟨distance, hlt, hbefore, -, hfound⟩ := (probe_eq_some_iff (start_lt hsize key)).mp h
  exact ⟨distance, hlt, hfound, fun d hd => occupied_of_passes (hbefore d hd)⟩

theorem find_of_keyAt (hplaced : Placed slots) (hkey : key ≠ PairKey.reserved) {slot : Nat}
    (h : keyAt slots slot = some key) : find slots key = some slot := by
  obtain ⟨entry, hentry, rfl⟩ := Option.map_eq_some_iff.mp h
  exact hplaced slot entry hentry hkey

/-- **Searches end while entries are placed anew** in twice as many slots, however many of them have been
placed already. -/
theorem Placed.exists_leads_of_doubling (hplaced : Placed slots) (hsize : FitsHash slots.size)
    {before : List (PairKey × Float)} (hbefore : before <+: entries slots) (key : PairKey) :
    ∃ found, Leads (before.foldl place (blank (2 * slots.size))) key
      (start (2 * slots.size) key) found := by
  have hblank : (blank (2 * slots.size)).size = 2 * slots.size := Array.size_replicate
  have hfits : FitsHash (blank (2 * slots.size)).size := by
    rw [hblank]
    exact hsize.double
  have hroom : before.length < 2 * slots.size := by
    have hlength : (entries slots).length ≤ slots.size := by
      rw [entries, ← Array.length_toList]
      exact List.length_filter_le ..
    have hpos := hsize.pos
    have hle := hbefore.length_le
    omega
  have hnone : before ++ entries (blank (2 * slots.size)) = before := by
    rw [entries_blank, List.append_nil]
  obtain ⟨hsame, -, hperm⟩ := foldl_place before hfits (placed_blank _)
    (fun entry hentry => (mem_entries_iff.mp (hbefore.mem hentry)).2)
    (by rw [entries_blank, hblank]; simpa using hroom)
    (by rw [hnone]; exact hplaced.nodup_keys.sublist (hbefore.sublist.map Prod.fst))
  rw [hnone] at hperm
  rw [hblank] at hsame
  obtain ⟨hole, hhole⟩ : ∃ hole, keyAt (before.foldl place (blank (2 * slots.size))) hole
      = some PairKey.reserved := by
    apply exists_hole
    rw [hperm.length_eq, hsame]
    exact hroom
  have hfits' : FitsHash (before.foldl place (blank (2 * slots.size))).size := by
    rw [hsame]
    exact hsize.double
  obtain ⟨found, hfound⟩ := exists_find hfits' key hhole
  rw [find_eq_some_iff_leads hfits' hhole, hsame] at hfound
  exact ⟨found, hfound⟩

end WeightSlots

namespace WeightTable

open WeightSlots

/-! ## Tables that are not crowded -/

/-- A weight table in which there is room enough for every search to end.  Pairs are looked for from a slot
of the table onwards, and each pair that is stored lies in a single slot, which no empty one comes before. -/
structure Uncrowded (table : WeightTable) : Prop where
  powerOfTwo : ∃ exponent, table.capacity = 2 ^ exponent
  minCapacity_le : minCapacity ≤ table.capacity
  keys : (table.slots.map Prod.fst).size = table.capacity
  weights : (table.slots.map Prod.snd).size = table.capacity
  size : table.size = table.slots.countP fun slot => slot.1 != PairKey.reserved
  roomy : 4 * table.size < 3 * table.capacity
  start_lt : ∀ key, start table.capacity key < table.capacity
  slot_unique : ∀ key ≠ PairKey.reserved, ∀ slot slot', keyAt table.slots slot = some key →
    keyAt table.slots slot' = some key → slot = slot'
  chained : ∀ key ≠ PairKey.reserved, ∀ slot, keyAt table.slots slot = some key →
    ∃ distance < table.capacity, slot = (start table.capacity key + distance) % table.capacity ∧
      ∀ d < distance, Occupied table.slots ((start table.capacity key + d) % table.capacity)
  find_iff : ∀ key slot, find table.slots key = some slot ↔
    Leads table.slots key (start table.capacity key) slot
  /-- The search for a stored pair ends in its slot. -/
  find_stored : ∀ key ≠ PairKey.reserved, ∀ slot, keyAt table.slots slot = some key →
    find table.slots key = some slot
  /-- The search for any other pair, the reserved one among them, ends in an empty slot. -/
  find_absent : ∀ key, (key ≠ PairKey.reserved → ∀ slot, keyAt table.slots slot ≠ some key) →
    ∃ slot, find table.slots key = some slot ∧ keyAt table.slots slot = some PairKey.reserved

/-- **A sound table is not crowded.** -/
theorem Sound.uncrowded {table : WeightTable} (h : table.Sound) : table.Uncrowded := by
  obtain ⟨hole, hhole⟩ := h.exists_hole
  obtain ⟨exponent, hlarge, hpower⟩ := h.fits
  refine ⟨⟨exponent, hpower⟩, ?_, Array.size_map, Array.size_map, ?_, h.roomy, start_lt h.fits,
    fun key hkey slot slot' hslot hslot' => ?_, fun key hkey slot hslot => ?_,
    fun key slot => find_eq_some_iff_leads h.fits hhole,
    fun key hkey slot hslot => find_of_keyAt h.placed hkey hslot, fun key habsent => ?_⟩
  · rw [capacity, hpower]
    exact Nat.pow_le_pow_right Nat.zero_lt_two hlarge
  · rw [h.size_eq, entries, WeightSlots.entries, ← List.countP_eq_length_filter, Array.countP_toList]
  · have hfind := find_of_keyAt h.placed hkey hslot
    rw [find_of_keyAt h.placed hkey hslot'] at hfind
    exact (Option.some.inj hfind).symm
  · exact exists_distance_of_find h.fits (find_of_keyAt h.placed hkey hslot)
  · obtain ⟨slot, hfind, hempty | hown⟩ := h.exists_slot key
    · exact ⟨slot, hfind, hempty⟩
    · -- a search ends at its own pair only if that is the mark of an empty slot
      by_cases hkey : key = PairKey.reserved
      · exact ⟨slot, hfind, hkey ▸ hown⟩
      · exact absurd hown (habsent hkey slot)

end WeightTable

/-- **Weight tables never fill**, so every search in them ends, whatever their history. -/
theorem TableHistory.never_fills (history : TableHistory) : history.table.Uncrowded :=
  history.sound.uncrowded

end CompactGraph
