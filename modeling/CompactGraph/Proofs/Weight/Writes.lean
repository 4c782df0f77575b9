/-
# Writing into weight tables

The effect of each operation of a weight table on the partial map that the table stands for.  Writing
weights one after another is, for each pair on its own, the left fold of `WeightRules.receive` over the
weights written under that pair; merging tables writes for each pair the weight that the other table
holds; freezing forgets the weights that are the default one.
-/
import CompactGraph.Proofs.Weight.Contents

namespace CompactGraph

/-- The weights written under a pair, in order. -/
def weightsUnder (key : PairKey) (writes : List (PairKey × Float)) : List Float :=
  (writes.filter fun write => write.1 = key).map Prod.snd

theorem weightsUnder_cons_self (key : PairKey) (weight : Float)
    (writes : List (PairKey × Float)) :
    weightsUnder key ((key, weight) :: writes) = weight :: weightsUnder key writes := by
  simp [weightsUnder]

theorem weightsUnder_cons_of_ne {key other : PairKey} (h : other ≠ key) (weight : Float)
    (writes : List (PairKey × Float)) :
    weightsUnder key ((other, weight) :: writes) = weightsUnder key writes := by
  simp [weightsUnder, h]

theorem weightsUnder_append (key : PairKey) (first second : List (PairKey × Float)) :
    weightsUnder key (first ++ second) = weightsUnder key first ++ weightsUnder key second := by
  simp [weightsUnder]

theorem weightsUnder_flatMap {α : Type} (key : PairKey) (items : List α)
    (writes : α → List (PairKey × Float)) :
    weightsUnder key (items.flatMap writes)
      = items.flatMap fun item => weightsUnder key (writes item) := by
  induction items with
  | nil => rfl
  | cons item items ih => rw [List.flatMap_cons, weightsUnder_append, ih, List.flatMap_cons]

/-- Nothing is written under a pair that no write names. -/
theorem weightsUnder_eq_nil {key : PairKey} {writes : List (PairKey × Float)}
    (h : ∀ write ∈ writes, write.1 ≠ key) : weightsUnder key writes = [] := by
  rw [weightsUnder, List.map_eq_nil_iff, List.filter_eq_nil_iff]
  intro write hwrite
  simpa using h write hwrite

namespace WeightTable

open WeightSlots

variable {table : WeightTable}

/-! ## One write -/

/-- The slots after an empty one was filled, whether or not there are twice as many then. -/
theorem Sound.slots_occupy (h : table.Sound) (entry : PairKey × Float) {slot : Nat}
    (hkey : entry.1 ≠ PairKey.reserved) (hfind : find table.slots entry.1 = some slot)
    (hempty : keyAt table.slots slot = some PairKey.reserved) :
    FitsHash (table.occupy slot entry).slots.size ∧ Placed (table.occupy slot entry).slots ∧
      (table.occupy slot entry).entries.Perm (entry :: table.entries) ∧
      4 * (table.size + 1) < 3 * (table.occupy slot entry).slots.size := by
  have hplaced := h.placed.fill h.fits hfind hempty
  have hperm := entries_fill hempty hkey
  have hsize : (table.slots.setIfInBounds slot entry).size = table.slots.size :=
    Array.size_setIfInBounds
  have hfits : FitsHash (table.slots.setIfInBounds slot entry).size := by
    rw [hsize]
    exact h.fits
  have hroomy := h.roomy
  by_cases hcrowded : (table.size + 1) * 4 ≥ table.slots.size * 3
  · -- there are sixteen slots at least, so twice as many leave enough of them empty
    obtain ⟨k, hk, hpow⟩ := h.fits
    have hlarge : 2 ^ 4 ≤ table.slots.size := hpow ▸ Nat.pow_le_pow_right (by norm_num) hk
    obtain ⟨hdouble, hplaced', hperm'⟩ := double_spec hfits hplaced
    have hslots : (table.occupy slot entry).slots
        = double (table.slots.setIfInBounds slot entry) := by
      simp only [WeightTable.occupy, hsize, hcrowded, if_true]
    rw [entries, hslots, hdouble]
    refine ⟨hfits.double, hplaced', hperm'.trans hperm, ?_⟩
    rw [hsize]
    omega
  · have hslots : (table.occupy slot entry).slots
        = table.slots.setIfInBounds slot entry := by
      simp only [WeightTable.occupy, hsize, hcrowded, if_false]
    rw [entries, hslots]
    refine ⟨hfits, hplaced, hperm, ?_⟩
    rw [hsize]
    omega

/-- Filling the empty slot that the search for a pair has ended in adds its entry. -/
theorem Sound.occupy (h : table.Sound) (entry : PairKey × Float) {slot : Nat}
    (hkey : entry.1 ≠ PairKey.reserved) (hfind : find table.slots entry.1 = some slot)
    (hempty : keyAt table.slots slot = some PairKey.reserved) :
    (table.occupy slot entry).Sound ∧ (table.occupy slot entry).rules = table.rules ∧
      (table.occupy slot entry).entries.Perm (entry :: table.entries) := by
  obtain ⟨hfits, hplaced, hperm, hroomy⟩ := h.slots_occupy entry hkey hfind hempty
  refine ⟨⟨hfits, hplaced, ?_, hroomy⟩, rfl, hperm⟩
  rw [hperm.length_eq, List.length_cons, ← h.size_eq]
  rfl

/-- An added entry is found, and every other pair is found as before. -/
theorem Sound.find?_of_entries_cons {table' : WeightTable} (h : table.Sound)
    (h' : table'.Sound) {key : PairKey} {weight : Float}
    (hperm : table'.entries.Perm ((key, weight) :: table.entries)) :
    table'.find? key = some weight ∧
      ∀ other, other ≠ key → table'.find? other = table.find? other := by
  constructor
  · exact h'.mem_entries_iff.mp (hperm.mem_iff.mpr List.mem_cons_self)
  · intro other hne
    apply h.find?_congr h'
    intro w
    rw [hperm.mem_iff, List.mem_cons, Prod.mk.injEq]
    simp [hne]

/-- Overwriting the weight in the slot of a pair changes what that pair holds. -/
theorem Sound.overwrite (h : table.Sound) {key : PairKey} (hkey : key ≠ PairKey.reserved)
    {stored : Float} {slot : Nat} (hslot : table.slots[slot]? = some (key, stored)) (weight : Float) :
    let table' := { table with slots := table.slots.setIfInBounds slot (key, weight) }
    table'.Sound ∧ table'.find? key = some weight ∧
      ∀ other, other ≠ key → table'.find? other = table.find? other := by
  intro table'
  -- the table holds the new entry and those of the other pairs
  have hmem : ∀ e, e ∈ table'.entries ↔ e = (key, weight) ∨ (e ∈ table.entries ∧ e.1 ≠ key) :=
    mem_entries_overwrite h.placed hkey hslot weight
  have hsound : table'.Sound := by
    refine ⟨?_, h.placed.overwrite hslot weight, ?_, ?_⟩
    · rw [Array.size_setIfInBounds]
      exact h.fits
    · exact h.size_eq.trans (length_entries_overwrite hslot weight).symm
    · rw [Array.size_setIfInBounds]
      exact h.roomy
  refine ⟨hsound, hsound.mem_entries_iff.mp ((hmem _).mpr (Or.inl rfl)), ?_⟩
  intro other hne
  apply h.find?_congr hsound
  intro w
  rw [hmem, Prod.mk.injEq]
  simp [hne]

/-- **One write.**  What the pair holds afterwards is what `receive` says, a refused write is refused by
the policy, and no other pair is touched. -/
theorem Sound.put (h : table.Sound) {key : PairKey} (hkey : key ≠ PairKey.reserved)
    (weight : Float) :
    (table.rules.receive (table.find? key) weight = none ∧
      put key weight table = .error (.duplicateRelationship key.source key.target) table) ∨
    ∃ held table', table.rules.receive (table.find? key) weight = some held ∧
      put key weight table = .ok () table' ∧ table'.Sound ∧ table'.rules = table.rules ∧
      table'.find? key = held ∧ ∀ other, other ≠ key → table'.find? other = table.find? other := by
  obtain ⟨slot, hfind, hempty | hown⟩ := h.exists_slot key
  · -- the search ends in an empty slot: the pair is absent
    obtain ⟨⟨_, residue⟩, hslot, rfl⟩ := Option.map_eq_some_iff.mp hempty
    have habsent : table.find? key = none := by
      rw [find?, if_neg hkey, hfind]
      simp [hslot, Ne.symm hkey]
    rw [habsent]
    right
    by_cases hdrop : (weight == table.defaultWeight && !table.isShard) = true
    · -- the weight is the default and is not kept
      refine ⟨none, table, ?_, ?_, h, rfl, habsent, fun _ _ => rfl⟩
      · exact if_pos hdrop
      · simp only [WeightTable.put, hfind, hslot, if_neg (Ne.symm hkey), if_pos hdrop]
    · obtain ⟨hsound, hrules, hperm⟩ := h.occupy (key, weight) hkey hfind hempty
      obtain ⟨hself, hother⟩ := h.find?_of_entries_cons hsound hperm
      refine ⟨some weight, _, ?_, ?_, hsound, hrules, hself, hother⟩
      · exact if_neg hdrop
      · simp only [WeightTable.put, hfind, hslot, if_neg (Ne.symm hkey), if_neg hdrop]
  · -- the search ends in the slot of the pair: the two weights are merged
    obtain ⟨⟨_, stored⟩, hslot, rfl⟩ := Option.map_eq_some_iff.mp hown
    have hpresent : table.find? _ = some stored :=
      h.mem_entries_iff.mp (WeightSlots.mem_entries_iff.mpr ⟨⟨slot, hslot⟩, hkey⟩)
    rw [hpresent]
    cases hmerge : table.policy.merge stored weight with
    | none =>
      left
      constructor
      · show (table.policy.merge stored weight).map some = none
        rw [hmerge]
        rfl
      · simp only [WeightTable.put, hfind, hslot, hmerge, if_true]
    | some merged =>
      right
      obtain ⟨hsound, hself, hother⟩ := h.overwrite hkey hslot merged
      refine ⟨some merged, _, ?_, ?_, hsound, rfl, hself, hother⟩
      · show (table.policy.merge stored weight).map some = some (some merged)
        rw [hmerge]
        rfl
      · simp only [WeightTable.put, hfind, hslot, hmerge, if_true]

/-! ## Many writes -/

theorem putAll_cons (write : PairKey × Float) (writes : List (PairKey × Float)) :
    putAll (write :: writes) table
      = match put write.1 write.2 table with
        | .ok () table' => putAll writes table'
        | .error error table' => .error error table' := by
  show EStateM.bind _ _ _ = _
  rw [EStateM.bind]
  cases put write.1 write.2 table <;> rfl

/-- **Many writes** leave each pair with what the weights written under it make of each other. -/
theorem Sound.putAll {writes : List (PairKey × Float)} :
    ∀ {table table' : WeightTable}, table.Sound → (∀ write ∈ writes, write.1 ≠ PairKey.reserved) →
      putAll writes table = .ok () table' →
      table'.Sound ∧ table'.rules = table.rules ∧
        ∀ key, (weightsUnder key writes).foldlM table.rules.receive (table.find? key)
          = some (table'.find? key) := by
  induction writes with
  | nil =>
    intro table table' h _ hput
    obtain rfl : table = table' := by
      simpa [WeightTable.putAll, pure, EStateM.pure] using hput
    exact ⟨h, rfl, fun _ => rfl⟩
  | cons write writes ih =>
    obtain ⟨key, weight⟩ := write
    intro table table' h hkeys hput
    rw [putAll_cons] at hput
    have hkey : key ≠ PairKey.reserved := hkeys _ List.mem_cons_self
    rcases h.put hkey weight with ⟨_, herror⟩ | ⟨held, middle, hreceive, hok, hmiddle, hrules, hself,
      hother⟩
    · simp only [herror] at hput
      cases hput
    · simp only [hok] at hput
      obtain ⟨hsound, hrules', hfold⟩ :=
        ih hmiddle (fun w hw => hkeys w (List.mem_cons_of_mem _ hw)) hput
      refine ⟨hsound, hrules'.trans hrules, ?_⟩
      intro k
      rw [← hfold k, hrules]
      -- the first write counts for its own pair and for no other
      by_cases hk : k = key
      · subst hk
        rw [weightsUnder_cons_self, List.foldlM_cons, hreceive, hself]
        rfl
      · rw [weightsUnder_cons_of_ne (Ne.symm hk), hother k hk]

/-- **When many writes succeed**: when no weight meets one that it may not meet. -/
theorem Sound.exists_putAll {writes : List (PairKey × Float)} :
    ∀ {table : WeightTable}, table.Sound → (∀ write ∈ writes, write.1 ≠ PairKey.reserved) →
      (∀ key, (weightsUnder key writes).foldlM table.rules.receive (table.find? key) ≠ none) →
      ∃ table', WeightTable.putAll writes table = .ok () table' := by
  induction writes with
  | nil => intro table _ _ _; exact ⟨table, rfl⟩
  | cons write writes ih =>
    obtain ⟨key, weight⟩ := write
    intro table h hkeys hfold
    have hkey : key ≠ PairKey.reserved := hkeys _ List.mem_cons_self
    rw [putAll_cons]
    rcases h.put hkey weight with ⟨hrefused, _⟩ | ⟨held, middle, hreceive, hok, hmiddle, hrules, hself,
      hother⟩
    · refine absurd ?_ (hfold key)
      rw [weightsUnder_cons_self, List.foldlM_cons, hrefused]
      rfl
    · simp only [hok]
      apply ih hmiddle (fun w hw => hkeys w (List.mem_cons_of_mem _ hw))
      -- no weight to come meets one that it may not meet
      intro k
      rw [hrules]
      by_cases hk : k = key
      · subst hk
        have hk := hfold k
        rw [weightsUnder_cons_self, List.foldlM_cons, hreceive] at hk
        rwa [hself]
      · have hk' := hfold k
        rwa [weightsUnder_cons_of_ne (Ne.symm hk), ← hother k hk] at hk'

/-- **When a write is refused**: when another weight is there that it may not meet. -/
theorem Sound.refused_of_put (h : table.Sound) {key : PairKey} (hkey : key ≠ PairKey.reserved)
    {weight : Float} {error : LoadError} {after : WeightTable}
    (hput : WeightTable.put key weight table = .error error after) :
    error = .duplicateRelationship key.source key.target ∧ table.policy = .reject ∧
      (table.find? key).isSome = true := by
  rcases h.put hkey weight with ⟨hrefused, herror⟩ | ⟨_, _, _, hok, _⟩
  · rw [herror] at hput
    cases hput
    cases hstored : table.find? key with
    | none =>
      rw [hstored, WeightRules.receive] at hrefused
      split at hrefused <;> cases hrefused
    | some stored =>
      rw [hstored, WeightRules.receive, Option.map_eq_none_iff] at hrefused
      exact ⟨rfl, DuplicatePolicy.merge_eq_none_iff.mp hrefused, rfl⟩
  · rw [hok] at hput
    cases hput

/-- **When many writes are refused**: when two weights come to one pair, one of which may have been there
before. -/
theorem Sound.refused_of_putAll {writes : List (PairKey × Float)} :
    ∀ {table : WeightTable}, table.Sound → (∀ write ∈ writes, write.1 ≠ PairKey.reserved) →
      ∀ {error after}, WeightTable.putAll writes table = .error error after →
      ∃ key, error = .duplicateRelationship key.source key.target ∧ table.policy = .reject ∧
        2 ≤ (table.find? key).toList.length + (weightsUnder key writes).length := by
  induction writes with
  | nil =>
    intro table _ _ error after hput
    cases hput
  | cons write writes ih =>
    obtain ⟨key, weight⟩ := write
    intro table h hkeys error after hput
    have hkey : key ≠ PairKey.reserved := hkeys _ List.mem_cons_self
    rw [putAll_cons] at hput
    cases hfirst : WeightTable.put key weight table with
    | error own table' =>
      simp only [hfirst] at hput
      cases hput
      obtain ⟨rfl, hreject, hstored⟩ := h.refused_of_put hkey hfirst
      obtain ⟨stored, hstored⟩ := Option.isSome_iff_exists.mp hstored
      refine ⟨key, rfl, hreject, ?_⟩
      rw [hstored, weightsUnder_cons_self, Option.toList_some, List.length_singleton, List.length_cons]
      omega
    | ok _ middle =>
      simp only [hfirst] at hput
      rcases h.put hkey weight with ⟨_, herror⟩ | ⟨held, _, _, hok, hmiddle, hrules, hself, hother⟩
      · rw [herror] at hfirst
        cases hfirst
      · rw [hok] at hfirst
        cases hfirst
        obtain ⟨other, rfl, hreject, hmany⟩ :=
          ih hmiddle (fun w hw => hkeys w (List.mem_cons_of_mem _ hw)) hput
        refine ⟨other, rfl, (congrArg WeightRules.policy hrules).symm.trans hreject, ?_⟩
        -- a pair holds one weight at most
        by_cases hsame : other = key
        · subst hsame
          have hone : (middle.find? other).toList.length ≤ 1 := by
            cases middle.find? other <;> simp
          rw [weightsUnder_cons_self, List.length_cons]
          omega
        · rwa [weightsUnder_cons_of_ne (Ne.symm hsame), ← hother other hsame]

/-! ## Merging and freezing -/

/-- Under each pair, a sound table lists the weight that is found. -/
theorem Sound.weightsUnder_entries (h : table.Sound) (key : PairKey) :
    weightsUnder key table.entries = (table.find? key).toList := by
  have hnodup := h.placed.nodup_keys
  rw [← entries] at hnodup
  cases hfind : table.find? key with
  | none =>
    apply weightsUnder_eq_nil
    intro write hwrite heq
    exact h.find?_eq_none_iff.mp hfind (heq ▸ List.mem_map_of_mem hwrite)
  | some weight =>
    obtain ⟨before, after, hsplit⟩ := List.append_of_mem (h.mem_entries_iff.mpr hfind)
    rw [hsplit, List.map_append, List.map_cons, List.nodup_append] at hnodup
    obtain ⟨_, htail, hdisjoint⟩ := hnodup
    -- no other entry has this pair
    have hbefore : weightsUnder key before = [] := by
      apply weightsUnder_eq_nil
      intro write hwrite
      exact hdisjoint _ (List.mem_map_of_mem hwrite) _ List.mem_cons_self
    have hafter : weightsUnder key after = [] := by
      apply weightsUnder_eq_nil
      intro write hwrite heq
      have hmem : write.1 ∈ after.map Prod.fst := List.mem_map_of_mem hwrite
      rw [heq] at hmem
      exact (List.nodup_cons.mp htail).1 hmem
    rw [hsplit, weightsUnder_append, weightsUnder_cons_self, hbefore, hafter]
    rfl

/-- Merging a table writes for each pair the weight that it holds. -/
theorem Sound.mergeFrom {other table' : WeightTable} (h : table.Sound) (hother : other.Sound)
    (hmerge : WeightTable.mergeFrom other table = .ok () table') :
    table'.Sound ∧ table'.rules = table.rules ∧
      ∀ key, (other.find? key).toList.foldlM table.rules.receive (table.find? key)
        = some (table'.find? key) := by
  rw [WeightTable.mergeFrom] at hmerge
  split at hmerge
  · obtain ⟨hsound, hrules, hfold⟩ := h.putAll other.unreserved hmerge
    refine ⟨hsound, hrules, fun key => ?_⟩
    rw [← hother.weightsUnder_entries]
    exact hfold key
  · cases hmerge

/-- A table cannot be merged if two weights of a pair may not meet. -/
theorem Sound.refused_of_mergeFrom {other after : WeightTable} (h : table.Sound) (hother : other.Sound)
    (hpolicy : other.policy = table.policy) {error : LoadError}
    (hmerge : WeightTable.mergeFrom other table = .error error after) :
    ∃ key, error = .duplicateRelationship key.source key.target ∧ table.policy = .reject ∧
      2 ≤ (table.find? key).toList.length + (other.find? key).toList.length := by
  rw [WeightTable.mergeFrom, if_pos hpolicy] at hmerge
  obtain ⟨key, hown, hreject, hmany⟩ := h.refused_of_putAll other.unreserved hmerge
  rw [hother.weightsUnder_entries] at hmany
  exact ⟨key, hown, hreject, hmany⟩

theorem Sound.exists_mergeFrom {other : WeightTable} (h : table.Sound) (hother : other.Sound)
    (hpolicy : other.policy = table.policy)
    (hfold : ∀ key, (other.find? key).toList.foldlM table.rules.receive (table.find? key) ≠ none) :
    ∃ table', WeightTable.mergeFrom other table = .ok () table' := by
  rw [WeightTable.mergeFrom, if_pos hpolicy]
  apply h.exists_putAll other.unreserved
  intro key
  rw [hother.weightsUnder_entries]
  exact hfold key

/-- Adding entries whose pairs are absent adds them all. -/
theorem Sound.foldl_insertFresh (news : List (PairKey × Float)) :
    ∀ {table : WeightTable}, table.Sound → (∀ entry ∈ news, entry.1 ≠ PairKey.reserved) →
      ((news ++ table.entries).map Prod.fst).Nodup →
      (news.foldl insertFresh table).Sound ∧
        (news.foldl insertFresh table).rules = table.rules ∧
        (news.foldl insertFresh table).entries.Perm (news ++ table.entries) := by
  induction news with
  | nil => intro table h _ _; exact ⟨h, rfl, List.Perm.refl _⟩
  | cons entry news ih =>
    intro table h hkeys hnodup
    simp only [List.cons_append, List.map_cons, List.nodup_cons] at hnodup
    obtain ⟨hfresh, hnodup⟩ := hnodup
    have hnotin : entry.1 ∉ table.entries.map Prod.fst := by
      intro hmem
      exact hfresh (by rw [List.map_append]; exact List.mem_append_right _ hmem)
    obtain ⟨slot, hfind, hstop⟩ := h.exists_slot entry.1
    have hkey := hkeys entry List.mem_cons_self
    have hempty : keyAt table.slots slot = some PairKey.reserved := by
      rcases hstop with hempty | hown
      · exact hempty
      · obtain ⟨held, hheld, heq⟩ := Option.map_eq_some_iff.mp hown
        refine absurd ?_ hnotin
        exact List.mem_map.mpr
          ⟨held, WeightSlots.mem_entries_iff.mpr ⟨⟨slot, hheld⟩, heq ▸ hkey⟩, heq⟩
    obtain ⟨hsound, hrules, hperm⟩ := h.occupy entry hkey hfind hempty
    have hinsert : table.insertFresh entry = table.occupy slot entry := by
      simp only [insertFresh, hfind]
    -- the entry goes from those to come to those of the table
    have hmid : (news ++ (table.occupy slot entry).entries).Perm
        (entry :: (news ++ table.entries)) :=
      (List.Perm.append_left news hperm).trans List.perm_middle
    obtain ⟨hsound', hrules', hperm'⟩ := ih hsound
      (fun e he => hkeys e (List.mem_cons_of_mem _ he)) (by
        rw [(hmid.map Prod.fst).nodup_iff, List.map_cons, List.nodup_cons]
        exact ⟨hfresh, hnodup⟩)
    rw [List.foldl_cons, hinsert]
    exact ⟨hsound', hrules'.trans hrules, hperm'.trans hmid⟩

/-- **Freezing** forgets the default weights of a shard, and changes no plain table. -/
theorem Sound.freeze (h : table.Sound) :
    table.freeze.Sound ∧ table.freeze.rules = { table.rules with isShard := false } ∧
      ∀ key, table.freeze.find? key
        = if table.isShard then (table.find? key).filter (· != table.defaultWeight)
          else table.find? key := by
  by_cases hshard : table.isShard = true
  · -- a shard is built anew from the entries that are not the default
    have hmem : ∀ e, e ∈ table.explicitEntries ↔
        e ∈ table.entries ∧ (e.2 != table.defaultWeight) = true := by
      intro e
      rw [explicitEntries, List.mem_filter]
    have hnodup : (table.explicitEntries.map Prod.fst).Nodup :=
      h.placed.nodup_keys.sublist (List.filter_sublist.map Prod.fst)
    rw [WeightTable.freeze, if_pos hshard]
    obtain ⟨hsound, hrules, hperm⟩ := (sound_withCapacity table.explicitEntries.length
      table.defaultWeight table.policy).foldl_insertFresh table.explicitEntries
      (fun e he => table.unreserved e ((hmem e).mp he).1)
      (by rwa [entries_withCapacity, List.append_nil])
    rw [entries_withCapacity, List.append_nil] at hperm
    refine ⟨hsound, hrules, ?_⟩
    intro key
    rw [if_pos hshard]
    apply Option.ext
    intro weight
    rw [← hsound.mem_entries_iff, hperm.mem_iff, hmem, h.mem_entries_iff,
      Option.filter_eq_some_iff]
  · have hplain : table.isShard = false := by simpa using hshard
    rw [WeightTable.freeze, if_neg hshard]
    refine ⟨h, ?_, fun key => by rw [if_neg hshard]⟩
    simp [rules, hplain]

end WeightTable

end CompactGraph
