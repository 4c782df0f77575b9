/-
# Weights in empty slots

The reserved pair marks the empty slots of a weight table, so that a weight that is written under it comes
to lie in one of them.  Tables that differ in such weights only (`Alike`) give the same answers, and they
still do after the same has been done to both.
-/
import CompactGraph.Proofs.Weight.Writes

namespace CompactGraph

namespace WeightSlots

/-! ## What is seen of slots -/

/-- What is seen of a slot: its entry, if there is one. -/
def seen (slot : WeightSlot) : Option (PairKey × Float) :=
  if slot.1 = PairKey.reserved then none else some slot

/-- Nothing is seen of an empty slot, whatever weight is left in it. -/
theorem seen_empty (weight : Float) : seen (PairKey.reserved, weight) = none := if_pos rfl

/-- Everything is seen of a slot with an entry. -/
theorem seen_of_ne {slot : WeightSlot} (h : slot.1 ≠ PairKey.reserved) : seen slot = some slot :=
  if_neg h

/-- The entries of slots are what is seen of them. -/
theorem entries_eq_seen (slots : Array WeightSlot) :
    entries slots = (slots.map seen).toList.filterMap id := by
  rw [entries, Array.toList_map, List.filterMap_map, ← List.filterMap_eq_filter]
  congr 1
  funext slot
  by_cases hempty : slot.1 = PairKey.reserved
  · simp [seen, hempty]
  · simp [seen, hempty, Option.guard]

variable {slots slots' : Array WeightSlot}

/-- Slots of which the same is seen have the same keys. -/
theorem keys_eq_of_seen (h : slots.map seen = slots'.map seen) :
    slots.map Prod.fst = slots'.map Prod.fst := by
  have hkeys : ∀ slots : Array WeightSlot, slots.map Prod.fst
      = (slots.map seen).map fun entry => (entry.map Prod.fst).getD PairKey.reserved := by
    intro slots
    rw [Array.map_map]
    congr 1
    funext slot
    by_cases hempty : slot.1 = PairKey.reserved
    · simp [seen, hempty]
    · simp [seen, hempty]
  rw [hkeys, hkeys, h]

theorem size_eq_of_seen (h : slots.map seen = slots'.map seen) : slots.size = slots'.size := by
  simpa using congrArg Array.size h

/-- What lies in a slot of one array lies there in the other, if it is seen. -/
theorem getElem?_of_seen (h : slots.map seen = slots'.map seen) {slot : Nat} {held : WeightSlot}
    (hslot : slots[slot]? = some held) :
    ∃ held', slots'[slot]? = some held' ∧ held.1 = held'.1 ∧
      (held.1 ≠ PairKey.reserved → held = held') := by
  have hget := congrArg (fun seen => seen[slot]?) h
  simp only [Array.getElem?_map, hslot, Option.map_some] at hget
  obtain ⟨held', hslot', hseen⟩ := Option.map_eq_some_iff.mp hget.symm
  refine ⟨held', hslot', ?_⟩
  by_cases hempty : held.1 = PairKey.reserved
  · have hempty' : held'.1 = PairKey.reserved := by
      by_contra hne
      rw [seen, seen, if_neg hne, if_pos hempty] at hseen
      cases hseen
    exact ⟨hempty.trans hempty'.symm, fun hne => absurd hempty hne⟩
  · have hne' : held'.1 ≠ PairKey.reserved := by
      intro hempty'
      rw [seen, seen, if_pos hempty', if_neg hempty] at hseen
      cases hseen
    rw [seen_of_ne hempty, seen_of_ne hne'] at hseen
    obtain rfl := Option.some.inj hseen
    exact ⟨rfl, fun _ => rfl⟩

/-- Another slot is seen in place of the one that was there. -/
theorem map_seen_set (slots : Array WeightSlot) (slot : Nat) (held : WeightSlot) :
    (slots.setIfInBounds slot held).map seen = (slots.map seen).setIfInBounds slot (seen held) := by
  simp

/-- Another weight in an empty slot is not seen. -/
theorem map_seen_overwrite_empty {slot : Nat} {weight : Float}
    (h : slots[slot]? = some (PairKey.reserved, weight)) (weight' : Float) :
    (slots.setIfInBounds slot (PairKey.reserved, weight')).map seen = slots.map seen := by
  obtain ⟨hlt, hget⟩ := Array.getElem?_eq_some_iff.mp h
  apply Array.ext_getElem?
  intro other
  rw [map_seen_set, seen_empty]
  by_cases heq : other = slot
  · subst heq
    rw [Array.getElem?_setIfInBounds_self_of_lt (by simpa using hlt), Array.getElem?_map, h,
      Option.map_some, seen_empty]
  · rw [Array.getElem?_setIfInBounds_ne (Ne.symm heq)]

end WeightSlots

namespace WeightTable

open WeightSlots

/-! ## Tables that look alike -/

/-- Tables that differ in nothing but weights in empty slots. -/
structure Alike (table table' : WeightTable) : Prop where
  slots : table.slots.map seen = table'.slots.map seen
  size : table.size = table'.size
  rules : table.rules = table'.rules

/-- What a call answers. -/
def answer : EStateM.Result LoadError WeightTable Unit → Except LoadError Unit
  | .ok () _ => .ok ()
  | .error error _ => .error error

/-- The table that a call leaves. -/
def left : EStateM.Result LoadError WeightTable Unit → WeightTable
  | .ok () table => table
  | .error _ table => table

variable {table table' : WeightTable}

theorem alike_refl (table : WeightTable) : table.Alike table := ⟨rfl, rfl, rfl⟩

namespace Alike

theorem symm (h : table.Alike table') : table'.Alike table :=
  ⟨h.slots.symm, h.size.symm, h.rules.symm⟩

theorem trans {table'' : WeightTable} (h : table.Alike table') (h' : table'.Alike table'') :
    table.Alike table'' :=
  ⟨h.slots.trans h'.slots, h.size.trans h'.size, h.rules.trans h'.rules⟩

theorem defaultWeight (h : table.Alike table') : table.defaultWeight = table'.defaultWeight :=
  congrArg WeightRules.defaultWeight h.rules

theorem policy (h : table.Alike table') : table.policy = table'.policy :=
  congrArg WeightRules.policy h.rules

theorem isShard (h : table.Alike table') : table.isShard = table'.isShard :=
  congrArg WeightRules.isShard h.rules

theorem capacity (h : table.Alike table') : table.capacity = table'.capacity :=
  size_eq_of_seen h.slots

/-- Tables that look alike have the same entries in the same order. -/
theorem entries (h : table.Alike table') : table.entries = table'.entries := by
  rw [WeightTable.entries, WeightTable.entries, entries_eq_seen, entries_eq_seen, h.slots]

/-- A search ends at the same slot. -/
theorem find_eq (h : table.Alike table') (key : PairKey) :
    find table.slots key = find table'.slots key :=
  find_eq_of_keys (keys_eq_of_seen h.slots) key

theorem find? (h : table.Alike table') (key : PairKey) : table.find? key = table'.find? key := by
  unfold WeightTable.find?
  rw [h.find_eq key]
  split
  · rfl
  · next hkey =>
    cases find table'.slots key with
    | none => rfl
    | some slot =>
      show ((table.slots[slot]?).filter _).map _ = ((table'.slots[slot]?).filter _).map _
      cases hslot : table.slots[slot]? with
      | none =>
        have hbound := Array.getElem?_eq_none_iff.mp hslot
        rw [size_eq_of_seen h.slots] at hbound
        rw [Array.getElem?_eq_none hbound]
      | some held =>
        obtain ⟨held', hslot', hsame, hseen⟩ := getElem?_of_seen h.slots hslot
        rw [hslot']
        by_cases hown : held.1 = key
        · rw [hseen (hown ▸ hkey)]
        · rw [Option.filter_some, Option.filter_some, if_neg (by simpa using hown),
            if_neg (by simpa using hsame ▸ hown)]

/-- The same weight is told for each pair. -/
theorem get (h : table.Alike table') (key : PairKey) : table.get key = table'.get key := by
  rw [WeightTable.get, WeightTable.get, h.find?, h.defaultWeight]

/-- A table that looks like a sound one is sound. -/
theorem sound (h : table.Alike table') (hsound : table.Sound) : table'.Sound where
  fits := size_eq_of_seen h.slots ▸ hsound.fits
  placed slot entry hslot hkey := by
    obtain ⟨entry', hslot', -, hseen⟩ := getElem?_of_seen h.slots.symm hslot
    obtain rfl := hseen hkey
    rw [← h.find_eq]
    exact hsound.placed slot entry hslot' hkey
  size_eq := by
    rw [← h.size, ← h.entries]
    exact hsound.size_eq
  roomy := by
    rw [← h.size, ← size_eq_of_seen h.slots]
    exact hsound.roomy

end Alike

/-! ## What is done to both -/

/-- Calls that answer the same and leave tables that look alike. -/
def Agree (result result' : EStateM.Result LoadError WeightTable Unit) : Prop :=
  answer result = answer result' ∧ (left result).Alike (left result')

namespace Alike

/-- The same is written into the same slot. -/
theorem set (h : table.Alike table') (slot : Nat) {held held' : WeightSlot}
    (hheld : seen held = seen held') :
    { table with slots := table.slots.setIfInBounds slot held }.Alike
      { table' with slots := table'.slots.setIfInBounds slot held' } where
  slots := by rw [map_seen_set, map_seen_set, h.slots, hheld]
  size := h.size
  rules := h.rules

/-- An entry that is new makes both tables grow, or neither. -/
theorem occupy (h : table.Alike table') (slot : Nat) (entry : PairKey × Float) :
    (table.occupy slot entry).Alike (table'.occupy slot entry) where
  slots := by
    have hset := h.set slot (rfl : seen entry = seen entry)
    have hentries : WeightSlots.entries (table.slots.setIfInBounds slot entry)
        = WeightSlots.entries (table'.slots.setIfInBounds slot entry) := hset.entries
    simp only [WeightTable.occupy, double, hentries, size_eq_of_seen hset.slots, h.size]
    split
    · rfl
    · exact hset.slots
  size := congrArg (· + 1) h.size
  rules := h.rules

/-- **A write** is answered the same. -/
theorem put (h : table.Alike table') (key : PairKey) (weight : Float) :
    Agree (WeightTable.put key weight table) (WeightTable.put key weight table') := by
  unfold WeightTable.put
  rw [h.find_eq key]
  cases find table'.slots key with
  | none => exact ⟨rfl, h⟩
  | some slot =>
    simp only
    cases hslot : table.slots[slot]? with
    | none =>
      have hbound := Array.getElem?_eq_none_iff.mp hslot
      rw [size_eq_of_seen h.slots] at hbound
      rw [Array.getElem?_eq_none hbound]
      exact ⟨rfl, h⟩
    | some entry =>
      obtain ⟨⟨held', stored'⟩, hslot', hsame, hseen⟩ := getElem?_of_seen h.slots hslot
      obtain ⟨held, stored⟩ := entry
      obtain rfl : held = held' := hsame
      rw [hslot', ← h.policy, ← h.defaultWeight, ← h.isShard]
      simp only
      by_cases hown : held = key
      · subst hown
        rw [if_pos rfl, if_pos rfl]
        by_cases hempty : held = PairKey.reserved
        · -- the weights that are merged may differ, and are not seen
          have hnone : seen (held, stored) = none := if_pos hempty
          cases hmerge : table.policy.merge stored weight with
          | none =>
            rw [DuplicatePolicy.merge_eq_none_iff.mpr (DuplicatePolicy.merge_eq_none_iff.mp hmerge)]
            exact ⟨rfl, h⟩
          | some merged =>
            cases hmerge' : table.policy.merge stored' weight with
            | none =>
              rw [DuplicatePolicy.merge_eq_none_iff.mpr
                (DuplicatePolicy.merge_eq_none_iff.mp hmerge')] at hmerge
              cases hmerge
            | some merged' =>
              have hsame : seen (held, merged) = seen (held, merged') := by
                rw [seen, seen, if_pos hempty, if_pos hempty]
              exact ⟨rfl, (h.set slot hsame).slots, h.size, rfl⟩
        · obtain rfl : stored = stored' := congrArg Prod.snd (hseen hempty)
          cases table.policy.merge stored weight with
          | none => exact ⟨rfl, h⟩
          | some merged =>
            have hset := h.set slot (rfl : seen (held, merged) = seen (held, merged))
            exact ⟨rfl, hset.slots, h.size, rfl⟩
      · rw [if_neg hown, if_neg hown]
        split
        · exact ⟨rfl, h⟩
        · exact ⟨rfl, h.occupy slot (key, weight)⟩

/-- Writes one after another are answered the same. -/
theorem putAll (writes : List (PairKey × Float)) :
    ∀ {table table' : WeightTable}, table.Alike table' →
      Agree (WeightTable.putAll writes table) (WeightTable.putAll writes table') := by
  induction writes with
  | nil => exact fun h => ⟨rfl, h⟩
  | cons write writes ih =>
    intro table table' h
    obtain ⟨hanswer, hleft⟩ := h.put write.1 write.2
    rw [putAll_cons, putAll_cons]
    cases hput : WeightTable.put write.1 write.2 table with
    | ok _ next =>
      cases hput' : WeightTable.put write.1 write.2 table' with
      | ok _ next' =>
        rw [hput, hput'] at hleft
        exact ih hleft
      | error error next' =>
        rw [hput, hput'] at hanswer
        cases hanswer
    | error error next =>
      cases hput' : WeightTable.put write.1 write.2 table' with
      | ok _ next' =>
        rw [hput, hput'] at hanswer
        cases hanswer
      | error error' next' =>
        rw [hput, hput'] at hanswer hleft
        exact ⟨hanswer, hleft⟩

/-- **Merging** tables that look alike into tables that look alike is answered the same. -/
theorem mergeFrom {other other' : WeightTable} (h : table.Alike table') (hother : other.Alike other') :
    Agree (WeightTable.mergeFrom other table) (WeightTable.mergeFrom other' table') := by
  unfold WeightTable.mergeFrom
  rw [← h.policy, ← hother.policy, ← hother.entries]
  split
  · exact putAll _ h
  · exact ⟨rfl, h⟩

/-- **Freezing** leaves tables that look alike. -/
theorem freeze (h : table.Alike table') : table.freeze.Alike table'.freeze := by
  have hexplicit : table.explicitEntries = table'.explicitEntries := by
    rw [explicitEntries, explicitEntries, h.entries, h.defaultWeight]
  unfold WeightTable.freeze
  rw [hexplicit, ← h.isShard, ← h.defaultWeight, ← h.policy]
  split
  · exact alike_refl _
  · exact h

end Alike

/-! ## Writing under the reserved pair -/

/-- **A write under the reserved pair** leaves a table that looks as it did. -/
theorem Sound.put_reserved (h : table.Sound) (weight : Float) :
    (left (WeightTable.put PairKey.reserved weight table)).Alike table := by
  obtain ⟨slot, hfind, hstop⟩ := h.exists_slot PairKey.reserved
  have hempty : keyAt table.slots slot = some PairKey.reserved := or_self_iff.mp hstop
  obtain ⟨⟨_, residue⟩, hslot, rfl⟩ := Option.map_eq_some_iff.mp hempty
  simp only [WeightTable.put, hfind, hslot, if_true]
  cases table.policy.merge residue weight with
  | none => exact alike_refl _
  | some merged => exact ⟨map_seen_overwrite_empty hslot merged, rfl, rfl⟩

end WeightTable

end CompactGraph
