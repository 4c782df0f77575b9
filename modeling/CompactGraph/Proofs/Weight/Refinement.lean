/-
# Weight tables are partial maps

A weight table is made empty; then weights are written into it, other tables are merged into it, and it
may be frozen (`TableHistory`).  Whatever its history, it answers as a partial map from pairs to weights
does, and each of these steps does to the table what it does to the map.  Where the entries lie, how
many slots there are and what was written under the reserved pair makes no difference.
-/
import CompactGraph.Proofs.Weight.Residues

namespace CompactGraph

/-! ## Partial maps -/

/-- A partial map from pairs to weights, and the rules by which it takes weights in. -/
structure WeightMap where
  rules : WeightRules
  held : PairKey → Option Float

namespace WeightMap

/-- A map that holds nothing. -/
def empty (rules : WeightRules) : WeightMap := ⟨rules, fun _ => none⟩

/-- The map after a write.  An absent pair gets the weight, unless that is the default one and is not
kept.  A present pair gets what the policy makes of both weights; `none` if they may not meet. -/
def put (map : WeightMap) (key : PairKey) (weight : Float) : Option WeightMap :=
  match map.held key with
  | none =>
    if weight == map.rules.defaultWeight && !map.rules.isShard then some map
    else some { map with held := Function.update map.held key (some weight) }
  | some stored =>
    (map.rules.policy.merge stored weight).map fun merged =>
      { map with held := Function.update map.held key (some merged) }

/-- What a pair holds after what another map holds under it has been written. -/
def offered (map other : WeightMap) (key : PairKey) : Option (Option Float) :=
  match other.held key with
  | none => some (map.held key)
  | some weight => (map.put key weight).map fun next => next.held key

/-- A map is what became of another one when it was offered all that a third one holds. -/
structure Merged (map other next : WeightMap) : Prop where
  rules : next.rules = map.rules
  held : ∀ key, map.offered other key = some (next.held key)

/-- What a merge comes to depends on nothing but the two maps. -/
theorem Merged.unique {map other first second : WeightMap} (h : map.Merged other first)
    (h' : map.Merged other second) : first = second := by
  have hheld : first.held = second.held := by
    funext key
    exact Option.some.inj ((h.held key).symm.trans (h'.held key))
  cases first
  cases second
  obtain rfl := h.rules.trans h'.rules.symm
  obtain rfl := hheld
  rfl

/-- Some pair holds a weight in both maps. -/
def Overlap (map other : WeightMap) : Prop := ∃ key, map.held key ≠ none ∧ other.held key ≠ none

/-- The map without the weights that only a shard keeps. -/
def freeze (map : WeightMap) : WeightMap :=
  if map.rules.isShard then
    { rules := { map.rules with isShard := false }
      held := fun key => (map.held key).filter (· != map.rules.defaultWeight) }
  else map

/-- A write changes what one pair holds. -/
theorem put_eq (map : WeightMap) (key : PairKey) (weight : Float) :
    map.put key weight = (map.rules.receive (map.held key) weight).map fun held =>
      { map with held := Function.update map.held key held } := by
  unfold put WeightRules.receive
  cases hheld : map.held key with
  | none =>
    simp only
    split
    · have hsame : Function.update map.held key none = map.held := by
        rw [← hheld, Function.update_eq_self]
      rw [Option.map_some, hsame]
    · rfl
  | some stored =>
    simp only
    rw [Option.map_map]
    rfl

theorem offered_eq (map other : WeightMap) (key : PairKey) :
    map.offered other key
      = (other.held key).toList.foldlM map.rules.receive (map.held key) := by
  unfold offered
  cases other.held key with
  | none => rfl
  | some weight =>
    rw [Option.toList_some, List.foldlM_cons]
    simp only [put_eq, Option.map_map, Function.comp_def, Function.update_self]
    cases map.rules.receive (map.held key) weight <;> rfl

/-- A pair is refused only where weights may not meet and both maps hold one. -/
theorem offered_eq_none_iff {map other : WeightMap} {key : PairKey} :
    map.offered other key = none ↔
      map.rules.policy = .reject ∧ map.held key ≠ none ∧ other.held key ≠ none := by
  unfold offered put
  cases other.held key with
  | none => simp
  | some weight =>
    cases map.held key with
    | none =>
      simp only
      split <;> simp
    | some stored => simp [DuplicatePolicy.merge_eq_none_iff]

/-- A map that was merged into another one shares no pair with it if weights may not meet. -/
theorem Merged.not_overlap {map other next : WeightMap} (h : map.Merged other next)
    (hpolicy : map.rules.policy = .reject) : ¬ map.Overlap other := by
  rintro ⟨key, hheld, hother⟩
  have hnone := offered_eq_none_iff.mpr ⟨hpolicy, hheld, hother⟩
  rw [h.held key] at hnone
  cases hnone

end WeightMap

namespace WeightTable

/-! ## Reading a map -/

/-- A table whose answers are those of a partial map.  Its entries are those of the map, each once. -/
structure Reads (table : WeightTable) (map : WeightMap) : Prop where
  rules : table.rules = map.rules
  find? : ∀ key, table.find? key = map.held key
  get : ∀ key, table.get key = (map.held key).getD map.rules.defaultWeight
  mem_entries_iff : ∀ key weight, (key, weight) ∈ table.entries ↔ map.held key = some weight
  nodup_keys : (table.entries.map Prod.fst).Nodup
  size : table.size = {key | map.held key ≠ none}.ncard
  unreserved : map.held PairKey.reserved = none

variable {table table' : WeightTable} {map : WeightMap}

theorem find?_reserved (table : WeightTable) : table.find? PairKey.reserved = none := if_pos rfl

/-- **A sound table reads a map**: that of what is found in it. -/
theorem Sound.reads (h : table.Sound) (hrules : table.rules = map.rules)
    (hheld : ∀ key, table.find? key = map.held key) : table.Reads map where
  rules := hrules
  find? := hheld
  get key := by
    rw [WeightTable.get, hheld, ← hrules]
    rfl
  mem_entries_iff key weight := by rw [h.mem_entries_iff, hheld]
  nodup_keys := h.placed.nodup_keys
  size := by
    have hnodup : (table.entries.map Prod.fst).Nodup := h.placed.nodup_keys
    have hkeys : {key | map.held key ≠ none}
        = ((table.entries.map Prod.fst).toFinset : Set PairKey) := by
      ext key
      show map.held key ≠ none ↔ _
      rw [Finset.mem_coe, List.mem_toFinset, ← hheld, ne_eq, h.find?_eq_none_iff, not_not]
    rw [hkeys, Set.ncard_coe_finset, List.toFinset_card_of_nodup hnodup, List.length_map, h.size_eq]
  unreserved := by rw [← hheld, find?_reserved]

/-! ## Doing to the table what is done to the map -/

/-- A write is refused by both, which leaves the table as it is, or done to both. -/
theorem Sound.put_reads (h : table.Sound) (hreads : table.Reads map) {key : PairKey}
    (hkey : key ≠ PairKey.reserved) (weight : Float) :
    (map.put key weight = none ∧
      WeightTable.put key weight table
        = .error (.duplicateRelationship key.source key.target) table) ∨
    ∃ next table', map.put key weight = some next ∧
      WeightTable.put key weight table = .ok () table' ∧ table'.Reads next := by
  rw [WeightMap.put_eq, ← hreads.rules, ← hreads.find?]
  rcases h.put hkey weight with ⟨hreceive, herror⟩ | ⟨held, table', hreceive, hok, hsound, hrules,
    hself, hother⟩
  · rw [hreceive]
    exact Or.inl ⟨rfl, herror⟩
  · rw [hreceive]
    refine Or.inr ⟨_, table', rfl, hok, hsound.reads hrules fun other => ?_⟩
    show table'.find? other = Function.update map.held key held other
    by_cases heq : other = key
    · subst heq
      rw [Function.update_self, hself]
    · rw [Function.update_of_ne heq, hother other heq, hreads.find?]

theorem Reads.offered_eq {other : WeightTable} {omap : WeightMap} (hreads : table.Reads map)
    (hother : other.Reads omap) (key : PairKey) :
    (other.find? key).toList.foldlM table.rules.receive (table.find? key) = map.offered omap key := by
  rw [WeightMap.offered_eq, hother.find?, hreads.find?, hreads.rules]

/-- A table with the same policy is merged into the table as its map is into the map, or refused because
both hold a weight under one pair. -/
theorem Sound.merge_reads {other : WeightTable} {omap : WeightMap} (h : table.Sound)
    (hreads : table.Reads map) (hsound : other.Sound) (hother : other.Reads omap)
    (hpolicy : other.policy = table.policy) :
    (∃ table' next, WeightTable.mergeFrom other table = .ok () table' ∧ table'.Reads next ∧
      map.Merged omap next) ∨
    (map.rules.policy = .reject ∧ map.Overlap omap ∧
      ∃ error table', WeightTable.mergeFrom other table = .error error table') := by
  cases hmerge : WeightTable.mergeFrom other table with
  | ok _ table' =>
    obtain ⟨hsound', hrules, hfold⟩ := h.mergeFrom hsound hmerge
    refine Or.inl ⟨table', ⟨map.rules, table'.find?⟩, rfl,
      hsound'.reads (hrules.trans hreads.rules) fun _ => rfl, rfl, fun key => ?_⟩
    rw [← hreads.offered_eq hother]
    exact hfold key
  | error error table' =>
    have hrefused : ∃ key, map.offered omap key = none := by
      by_contra hall
      push Not at hall
      obtain ⟨merged, hmerged⟩ := h.exists_mergeFrom hsound hpolicy fun key => by
        rw [hreads.offered_eq hother]
        exact hall key
      rw [hmerged] at hmerge
      cases hmerge
    obtain ⟨key, hnone⟩ := hrefused
    obtain ⟨hreject, hheld, hothers⟩ := WeightMap.offered_eq_none_iff.mp hnone
    exact Or.inr ⟨hreject, ⟨key, hheld, hothers⟩, error, table', rfl⟩

theorem Sound.freeze_reads (h : table.Sound) (hreads : table.Reads map) :
    table.freeze.Reads map.freeze := by
  obtain ⟨hsound, hrules, hfind⟩ := h.freeze
  have hshard : table.isShard = map.rules.isShard := congrArg WeightRules.isShard hreads.rules
  have hdefault : table.defaultWeight = map.rules.defaultWeight :=
    congrArg WeightRules.defaultWeight hreads.rules
  unfold WeightMap.freeze
  split
  · next hyes =>
    refine hsound.reads (by rw [hrules, hreads.rules]) fun key => ?_
    rw [hfind, hshard, if_pos hyes, hreads.find?, hdefault]
  · next hno =>
    refine hsound.reads ?_ fun key => ?_
    · rw [hrules, hreads.rules, ← Bool.eq_false_iff.mpr hno]
    · rw [hfind, hshard, if_neg hno, hreads.find?]

/-! ## What every call leaves -/

/-- A write, refused or not, leaves a sound table. -/
theorem Sound.left_put (h : table.Sound) (key : PairKey) (weight : Float) :
    (left (WeightTable.put key weight table)).Sound := by
  by_cases hkey : key = PairKey.reserved
  · subst hkey
    exact (h.put_reserved weight).symm.sound h
  · rcases h.put hkey weight with ⟨-, herror⟩ | ⟨held, table', -, hok, hsound, -⟩
    · rw [herror]
      exact h
    · rw [hok]
      exact hsound

theorem Sound.left_putAll (writes : List (PairKey × Float)) :
    ∀ {table : WeightTable}, table.Sound → (left (WeightTable.putAll writes table)).Sound := by
  induction writes with
  | nil => exact fun h => h
  | cons write writes ih =>
    intro table h
    have hleft := h.left_put write.1 write.2
    rw [putAll_cons]
    cases hput : WeightTable.put write.1 write.2 table with
    | ok _ next =>
      rw [hput] at hleft
      exact ih hleft
    | error error next =>
      rw [hput] at hleft
      exact hleft

/-- Merging leaves a sound table, also if it fails half way. -/
theorem Sound.left_mergeFrom (h : table.Sound) (other : WeightTable) :
    (left (WeightTable.mergeFrom other table)).Sound := by
  unfold WeightTable.mergeFrom
  split
  · exact left_putAll _ h
  · exact h

end WeightTable

/-! ## Histories -/

/-- How a table came about: it was made, and then weights were written into it, other tables were merged
into it, and it was frozen, whether or not these calls succeeded. -/
inductive TableHistory where
  | empty (defaultWeight : Float) (policy : DuplicatePolicy)
  | withCapacity (expected : Nat) (defaultWeight : Float) (policy : DuplicatePolicy)
  | shard (expected : Nat) (defaultWeight : Float) (policy : DuplicatePolicy)
  | put (before : TableHistory) (key : PairKey) (weight : Float)
  | mergeFrom (before other : TableHistory)
  | freeze (before : TableHistory)

namespace TableHistory

open WeightTable

/-- The table that came about. -/
def table : TableHistory → WeightTable
  | .empty defaultWeight policy => .empty defaultWeight policy
  | .withCapacity expected defaultWeight policy => .withCapacity expected defaultWeight policy
  | .shard expected defaultWeight policy => .shard expected defaultWeight policy
  | .put before key weight => left (WeightTable.put key weight before.table)
  | .mergeFrom before other => left (WeightTable.mergeFrom other.table before.table)
  | .freeze before => before.table.freeze

/-- The same history without the writes under the reserved pair, those into the merged tables among
them. -/
def unreserved : TableHistory → TableHistory
  | .put before key weight =>
    if key = PairKey.reserved then before.unreserved else .put before.unreserved key weight
  | .mergeFrom before other => .mergeFrom before.unreserved other.unreserved
  | .freeze before => .freeze before.unreserved
  | made => made

/-- A table that has a history is sound. -/
theorem sound (history : TableHistory) : history.table.Sound := by
  induction history with
  | empty defaultWeight policy => exact sound_withCapacity 0 defaultWeight policy
  | withCapacity expected defaultWeight policy => exact sound_withCapacity expected defaultWeight policy
  | shard expected defaultWeight policy =>
    exact (sound_withCapacity expected defaultWeight policy).withShard true
  | put before key weight ih => exact ih.left_put key weight
  | mergeFrom before other ih _ => exact ih.left_mergeFrom other.table
  | freeze before ih => exact ih.freeze.1

/-- The writes under the reserved pair cannot be seen in the table. -/
theorem alike_unreserved (history : TableHistory) :
    history.table.Alike history.unreserved.table := by
  induction history with
  | empty defaultWeight policy => exact alike_refl _
  | withCapacity expected defaultWeight policy => exact alike_refl _
  | shard expected defaultWeight policy => exact alike_refl _
  | put before key weight ih =>
    rw [unreserved]
    split
    · next hkey =>
      subst hkey
      exact (before.sound.put_reserved weight).trans ih
    · exact (ih.put key weight).2
  | mergeFrom before other ih ih' => exact (ih.mergeFrom ih').2
  | freeze before ih => exact ih.freeze

end TableHistory

namespace WeightTable

/-! ## Refinement -/

/-- A table that reads a map and takes writes, other tables and freezing as the map does. -/
structure Refines (table : WeightTable) (map : WeightMap) : Prop extends table.Reads map where
  put : ∀ key weight next, key ≠ PairKey.reserved → map.put key weight = some next →
    ∃ table', WeightTable.put key weight table = .ok () table' ∧ table'.Reads next
  put_refused : ∀ key weight, key ≠ PairKey.reserved → map.put key weight = none →
    WeightTable.put key weight table
      = .error (.duplicateRelationship key.source key.target) table
  merge : ∀ (other : TableHistory) omap, other.table.Reads omap → ∀ table',
    WeightTable.mergeFrom other.table table = .ok () table' →
      ∃ next, table'.Reads next ∧ map.Merged omap next
  merge_refused : ∀ (other : TableHistory) omap, other.table.Reads omap →
    omap.rules.policy = map.rules.policy →
      ((∃ error table', WeightTable.mergeFrom other.table table = .error error table') ↔
        map.rules.policy = .reject ∧ map.Overlap omap)
  merge_mixed : ∀ (other : TableHistory) omap, other.table.Reads omap →
    omap.rules.policy ≠ map.rules.policy →
      WeightTable.mergeFrom other.table table
        = .error (.configuration (.mixedPolicies omap.rules.policy map.rules.policy)) table
  freeze : table.freeze.Reads map.freeze
  freeze_plain : map.rules.isShard = false → table.freeze = table

/-- Tables that cannot be told apart: they show the same, and whatever is written or merged into them, or
they are merged into, is answered the same. -/
structure AnswersAs (table table' : WeightTable) : Prop where
  rules : table.rules = table'.rules
  find? : ∀ key, table.find? key = table'.find? key
  get : ∀ key, table.get key = table'.get key
  entries : table.entries = table'.entries
  size : table.size = table'.size
  capacity : table.capacity = table'.capacity
  put : ∀ key weight,
    answer (WeightTable.put key weight table) = answer (WeightTable.put key weight table')
  mergeFrom : ∀ other,
    answer (WeightTable.mergeFrom other table) = answer (WeightTable.mergeFrom other table')
  mergeInto : ∀ receiver,
    answer (WeightTable.mergeFrom table receiver) = answer (WeightTable.mergeFrom table' receiver)

variable {table table' : WeightTable} {map : WeightMap}

/-- Tables that look alike cannot be told apart. -/
theorem Alike.answersAs (h : table.Alike table') : table.AnswersAs table' where
  rules := h.rules
  find? := h.find?
  get := h.get
  entries := h.entries
  size := h.size
  capacity := h.capacity
  put key weight := (h.put key weight).1
  mergeFrom other := (h.mergeFrom (alike_refl other)).1
  mergeInto receiver := ((alike_refl receiver).mergeFrom h).1

theorem Reads.policy (h : table.Reads map) : table.policy = map.rules.policy :=
  congrArg WeightRules.policy h.rules

/-- **A sound table refines the map that it reads.** -/
theorem Sound.refines (h : table.Sound) (hreads : table.Reads map) : table.Refines map where
  toReads := hreads
  put key weight next hkey hnext := by
    rcases h.put_reads hreads hkey weight with ⟨hnone, -⟩ | ⟨next', table', hput, hok, hreads'⟩
    · rw [hnext] at hnone
      cases hnone
    · rw [hnext] at hput
      obtain rfl := Option.some.inj hput
      exact ⟨table', hok, hreads'⟩
  put_refused key weight hkey hnone := by
    rcases h.put_reads hreads hkey weight with ⟨-, herror⟩ | ⟨next, table', hput, -⟩
    · exact herror
    · rw [hnone] at hput
      cases hput
  merge other omap hother table' hmerge := by
    have hpolicy : other.table.policy = table.policy := by
      by_contra hmixed
      rw [WeightTable.mergeFrom, if_neg hmixed] at hmerge
      cases hmerge
    rcases h.merge_reads hreads other.sound hother hpolicy with
      ⟨table'', next, hok, hreads', hmerged⟩ | ⟨-, -, error, table'', herror⟩
    · rw [hok] at hmerge
      cases hmerge
      exact ⟨next, hreads', hmerged⟩
    · rw [herror] at hmerge
      cases hmerge
  merge_refused other omap hother hpolicy := by
    rw [← hother.policy, ← hreads.policy] at hpolicy
    rcases h.merge_reads hreads other.sound hother hpolicy with
      ⟨table', next, hok, -, hmerged⟩ | ⟨hreject, hoverlap, herror⟩
    · constructor
      · rintro ⟨error, table'', herror⟩
        rw [hok] at herror
        cases herror
      · rintro ⟨hreject, hoverlap⟩
        exact absurd hoverlap (hmerged.not_overlap hreject)
    · exact ⟨fun _ => ⟨hreject, hoverlap⟩, fun _ => herror⟩
  merge_mixed other omap hother hmixed := by
    rw [← hother.policy, ← hreads.policy] at hmixed ⊢
    rw [WeightTable.mergeFrom, if_neg hmixed]
  freeze := h.freeze_reads hreads
  freeze_plain hplain := by
    have hshard : table.isShard = false := (congrArg WeightRules.isShard hreads.rules).trans hplain
    rw [WeightTable.freeze, if_neg (by rw [hshard]; exact Bool.false_ne_true)]

end WeightTable

namespace TableHistory

/-- **Weight tables refine partial maps.**  A table that is made holds nothing.  Whatever its history, a
table answers as a map does and takes every call as the map does, and it cannot be told apart from the
table that has the same history but for the writes under the reserved pair. -/
theorem refines_map :
    (∀ expected defaultWeight policy,
      (WeightTable.empty defaultWeight policy).Reads (.empty ⟨defaultWeight, policy, false⟩) ∧
      (WeightTable.withCapacity expected defaultWeight policy).Reads
        (.empty ⟨defaultWeight, policy, false⟩) ∧
      (WeightTable.shard expected defaultWeight policy).Reads
        (.empty ⟨defaultWeight, policy, true⟩)) ∧
    ∀ history : TableHistory, (∃ map, history.table.Refines map) ∧
      history.table.AnswersAs history.unreserved.table := by
  refine ⟨fun expected defaultWeight policy => ⟨?_, ?_, ?_⟩, fun history => ⟨?_, ?_⟩⟩
  · have hsound := WeightTable.sound_withCapacity 0 defaultWeight policy
    exact hsound.reads rfl (WeightTable.find?_withCapacity 0 defaultWeight policy)
  · have hsound := WeightTable.sound_withCapacity expected defaultWeight policy
    exact hsound.reads rfl (WeightTable.find?_withCapacity expected defaultWeight policy)
  · have hsound := WeightTable.sound_withCapacity expected defaultWeight policy
    exact (hsound.withShard true).reads rfl
      (WeightTable.find?_withCapacity expected defaultWeight policy)
  · have hreads : history.table.Reads ⟨history.table.rules, history.table.find?⟩ :=
      history.sound.reads rfl fun _ => rfl
    exact ⟨_, history.sound.refines hreads⟩
  · exact history.alike_unreserved.answersAs

end TableHistory

end CompactGraph
