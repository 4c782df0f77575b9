/-
# Room for weights

A weight table gets more slots when a write leaves too few of them empty.  A table that was made for so many
entries does not until there are more of them (`WeightTable.capacity_putEach_of_few`), whatever is written
how often, and whether or not the writes are refused.
-/
import CompactGraph.Proofs.Weight.Refinement

namespace CompactGraph

namespace WeightTable

open WeightSlots

variable {table : WeightTable} {writes before : List (PairKey × Float)}

/-! ## Writes, refused or not -/

/-- Write weights one after another, going on after those that are refused. -/
def putEach (writes : List (PairKey × Float)) (table : WeightTable) : WeightTable :=
  writes.foldl (fun table write => left (put write.1 write.2 table)) table

theorem putEach_cons (write : PairKey × Float) (writes : List (PairKey × Float)) (table : WeightTable) :
    putEach (write :: writes) table = putEach writes (left (put write.1 write.2 table)) := rfl

theorem putEach_append (first second : List (PairKey × Float)) (table : WeightTable) :
    putEach (first ++ second) table = putEach second (putEach first table) := List.foldl_append

/-- Writing up to the first weight that is refused is writing the weights up to there. -/
theorem exists_left_putAll (writes : List (PairKey × Float)) :
    ∀ table, ∃ before, before <+: writes ∧ left (putAll writes table) = putEach before table := by
  induction writes with
  | nil => exact fun table => ⟨[], List.prefix_rfl, rfl⟩
  | cons write writes ih =>
    intro table
    rw [putAll_cons]
    cases hput : put write.1 write.2 table with
    | ok _ next =>
      obtain ⟨before, hbefore, hleft⟩ := ih next
      refine ⟨write :: before, (List.prefix_cons_inj write).mpr hbefore, ?_⟩
      rw [putEach_cons, hput]
      exact hleft
    | error error next =>
      refine ⟨[write], ⟨writes, rfl⟩, ?_⟩
      rw [putEach_cons, hput]
      rfl

theorem sound_putEach (writes : List (PairKey × Float)) :
    ∀ {table : WeightTable}, table.Sound → (putEach writes table).Sound := by
  induction writes with
  | nil => exact fun h => h
  | cons write writes ih => exact fun h => ih (h.left_put write.1 write.2)

/-! ## Size and capacity -/

/-- **A write** adds no entry, or it adds one, and that leaves the capacity alone if there are few enough
then. -/
theorem left_put_cases (key : PairKey) (weight : Float) (table : WeightTable) :
    ((left (put key weight table)).size = table.size ∧
      (left (put key weight table)).capacity = table.capacity) ∨
    ((left (put key weight table)).size = table.size + 1 ∧
      (4 * (table.size + 1) < 3 * table.capacity →
        (left (put key weight table)).capacity = table.capacity)) := by
  unfold put
  cases find table.slots key with
  | none => exact .inl ⟨rfl, rfl⟩
  | some slot =>
    simp only
    cases table.slots[slot]? with
    | none => exact .inl ⟨rfl, rfl⟩
    | some held =>
      simp only
      by_cases hown : held.1 = key
      · rw [if_pos hown]
        cases table.policy.merge held.2 weight with
        | none => exact .inl ⟨rfl, rfl⟩
        | some merged => exact .inl ⟨rfl, Array.size_setIfInBounds⟩
      · rw [if_neg hown]
        by_cases hdrop : (weight == table.defaultWeight && !table.isShard) = true
        · rw [if_pos hdrop]
          exact .inl ⟨rfl, rfl⟩
        · rw [if_neg hdrop]
          refine .inr ⟨rfl, fun hroomy => ?_⟩
          have hcalm : ¬ (table.size + 1) * 4 ≥ table.slots.size * 3 := by
            rw [capacity] at hroomy
            omega
          show (table.occupy slot (key, weight)).slots.size = table.slots.size
          simp only [occupy, Array.size_setIfInBounds, if_neg hcalm]

theorem size_le_size_putEach (writes : List (PairKey × Float)) :
    ∀ table, table.size ≤ (putEach writes table).size := by
  induction writes with
  | nil => exact fun _ => Nat.le_refl _
  | cons write writes ih =>
    intro table
    have hrest := ih (left (put write.1 write.2 table))
    rw [putEach_cons]
    rcases left_put_cases write.1 write.2 table with ⟨hsize, -⟩ | ⟨hsize, -⟩ <;> omega

/-- Writes add no more entries than there are writes. -/
theorem size_putEach_le (writes : List (PairKey × Float)) :
    ∀ table, (putEach writes table).size ≤ table.size + writes.length := by
  induction writes with
  | nil => exact fun _ => Nat.le_refl _
  | cons write writes ih =>
    intro table
    have hrest := ih (left (put write.1 write.2 table))
    rw [putEach_cons, List.length_cons]
    rcases left_put_cases write.1 write.2 table with ⟨hsize, -⟩ | ⟨hsize, -⟩ <;> omega

/-- **Writes leave the capacity alone** if there are few enough entries after them. -/
theorem capacity_putEach (writes : List (PairKey × Float)) :
    ∀ {table : WeightTable}, 4 * (putEach writes table).size < 3 * table.capacity →
      (putEach writes table).capacity = table.capacity := by
  induction writes with
  | nil => exact fun _ => rfl
  | cons write writes ih =>
    intro table hroomy
    rw [putEach_cons] at hroomy ⊢
    have hsmaller := size_le_size_putEach writes (left (put write.1 write.2 table))
    have hown : (left (put write.1 write.2 table)).capacity = table.capacity := by
      rcases left_put_cases write.1 write.2 table with ⟨-, hsame⟩ | ⟨hsize, hsame⟩
      · exact hsame
      · exact hsame (by omega)
    rw [← hown] at hroomy ⊢
    exact ih hroomy

/-- A table that is made for so many entries keeps more than a quarter of its slots empty with them. -/
theorem lt_capacityFor {expected : Nat} (h : expected < 2 ^ 60) :
    4 * expected < 3 * capacityFor expected := by
  have hpower := le_powerOfTwoFor (max minCapacity (min (expected * 4) (UInt64.size - 1) / 3 + 1))
  have hwords : expected * 4 ≤ UInt64.size - 1 := by
    rw [UInt64.size]
    omega
  rw [Nat.min_eq_left hwords] at hpower
  rw [capacityFor, Nat.min_eq_left hwords]
  omega

/-- A table keeps the capacity that it was made with while it holds no more entries than it was made for. -/
theorem capacity_putEach_of_few {expected : Nat} (hexpected : expected < 2 ^ 60)
    (hmade : table.capacity = capacityFor expected) (hfew : (putEach writes table).size ≤ expected)
    (hbefore : before <+: writes) : (putEach before table).capacity = table.capacity := by
  have hsmaller : (putEach before table).size ≤ (putEach writes table).size := by
    obtain ⟨rest, rfl⟩ := hbefore
    rw [putEach_append]
    exact size_le_size_putEach rest _
  have hroom := lt_capacityFor hexpected
  apply capacity_putEach
  rw [hmade]
  omega

theorem capacity_withCapacity (expected : Nat) (defaultWeight : Float) (policy : DuplicatePolicy) :
    (withCapacity expected defaultWeight policy).capacity = capacityFor expected := Array.size_replicate

/-- The size of a table is the number of pairs that are found in it. -/
theorem Sound.size_eq_ncard (h : table.Sound) : table.size = {key | table.find? key ≠ none}.ncard := by
  have hreads : table.Reads ⟨table.rules, table.find?⟩ := h.reads rfl fun _ => rfl
  exact hreads.size

/-- **A table keeps its capacity** while no more pairs are found in it than it was made for. -/
theorem Sound.capacity_putEach (h : table.Sound) {expected : Nat} (hexpected : expected < 2 ^ 60)
    (hmade : table.capacity = capacityFor expected)
    (hfew : {key | (putEach writes table).find? key ≠ none}.ncard ≤ expected)
    (hbefore : before <+: writes) : (putEach before table).capacity = table.capacity := by
  rw [← (sound_putEach writes h).size_eq_ncard] at hfew
  exact capacity_putEach_of_few hexpected hmade hfew hbefore

end WeightTable

end CompactGraph
