/-
# Numbering external ids

However often an external id is added, its number is its position among the ids that were added, each of
them counted where it occurred first.  A frozen map leads from these ids to their numbers and back
(`IdMap.Numbers`), whichever way forth it has, and it leads nowhere from any other id.
-/
import CompactGraph.Proofs.IdMap

namespace CompactGraph

namespace IdMap

/-! ## Positions -/

variable {ids before : List ExternalId} {id : ExternalId}

/-- A number is a position. -/
theorem index_numberIn (hfew : ids.length ≤ maxNodeCount) (h : id ∈ ids) :
    (numberIn ids id).index = ids.idxOf id := by
  obtain ⟨index, hindex⟩ := Option.ne_none_iff_exists'.mp
    fun hnone => List.idxOf?_eq_none_iff.mp hnone h
  obtain ⟨hlt, hid, hfirst⟩ := List.idxOf?_eq_some_iff.mp hindex
  have hposition : ids.idxOf id = index := by
    rw [List.idxOf_eq_getD_idxOf?, hindex]
    rfl
  have hsmall : index < UInt32.size := by
    unfold maxNodeCount at hfew
    rw [UInt32.size]
    omega
  rw [numberIn, hindex, hposition]
  exact NodeId.index_ofIndex hsmall

/-- Ids that come later leave a number alone. -/
theorem numberIn_append_of_mem (h : id ∈ before) (ids : List ExternalId) :
    numberIn (before ++ ids) id = numberIn before id := by
  obtain ⟨index, hindex⟩ := Option.ne_none_iff_exists'.mp
    fun hnone => List.idxOf?_eq_none_iff.mp hnone h
  have happend : (before ++ ids).idxOf? id = some index := by
    show List.findIdx? (· == id) (before ++ ids) = some index
    rw [List.findIdx?_append, show List.findIdx? (· == id) before = some index from hindex]
    rfl
  rw [numberIn, numberIn, happend, hindex]

/-- What was numbered before stands in front of what is added. -/
theorem exists_eraseDups_append (h : before.Nodup) (ids : List ExternalId) :
    ∃ added, (before ++ ids).eraseDups = before ++ added :=
  ⟨_, by rw [List.eraseDups_append, eraseDups_of_nodup h]⟩

/-! ## One id after another -/

namespace Builder

theorem addAll_cons {builder builder' : Builder} {number : NodeId}
    (h : add id builder = .ok number builder') {numbers : List NodeId} {builder'' : Builder}
    (hrest : addAll ids builder' = .ok numbers builder'') :
    addAll (id :: ids) builder = .ok (number :: numbers) builder'' := by
  have hbind : addAll (id :: ids) = (do
      let number ← add id
      let numbers ← addAll ids
      return number :: numbers) := List.mapM_cons
  rw [hbind]
  simp only [bind, EStateM.bind, h, hrest]
  rfl

/-- **Adding ids** one after another.  Each gets its position among all of them. -/
theorem Sound.addAll (ids : List ExternalId) : ∀ {builder : Builder}, builder.Sound →
    (builder.externals.toList ++ ids).eraseDups.length ≤ maxNodeCount →
    ∃ builder', Builder.addAll ids builder
        = .ok (ids.map (numberIn (builder.externals.toList ++ ids).eraseDups)) builder' ∧
      builder'.Sound ∧ builder'.externals.toList = (builder.externals.toList ++ ids).eraseDups := by
  induction ids with
  | nil =>
    intro builder h _
    refine ⟨builder, rfl, h, ?_⟩
    rw [List.append_nil, eraseDups_of_nodup h.nodup]
  | cons id ids ih =>
    intro builder h hfew
    by_cases hmem : id ∈ builder.externals.toList
    · -- an id that was numbered before keeps its number
      have hsame := eraseDups_append_cons_of_mem hmem ids
      rw [hsame] at hfew ⊢
      obtain ⟨builder', hadd, hsound, hall⟩ := ih h hfew
      obtain ⟨added, hadded⟩ := exists_eraseDups_append h.nodup ids
      refine ⟨builder', ?_, hsound, hall⟩
      have hown := h.add_of_mem hmem
      rw [← numberIn_append_of_mem hmem added, ← hadded] at hown
      exact addAll_cons hown hadd
    · -- a new id comes right after those that were numbered before
      have hsplit : builder.externals.toList ++ id :: ids = builder.externals.toList ++ [id] ++ ids := by
        rw [List.append_assoc, List.singleton_append]
      have hnodup := nodup_concat h.nodup hmem
      obtain ⟨added, hadded⟩ := exists_eraseDups_append hnodup ids
      rw [hsplit] at hfew ⊢
      have hroom : builder.size < maxNodeCount := by
        rw [hadded, List.length_append, List.length_append, List.length_singleton,
          length_externals] at hfew
        omega
      obtain ⟨between, hadd, hbetween, hexternals⟩ := h.add_of_new hmem hroom
      rw [← hexternals] at hfew ⊢
      obtain ⟨builder', hrest, hsound, hall⟩ := ih hbetween hfew
      refine ⟨builder', ?_, hsound, hall⟩
      have hown : numberIn (between.externals.toList ++ ids).eraseDups id = NodeId.ofIndex builder.size := by
        rw [hexternals, hadded, numberIn_append_of_mem (List.mem_append_right _ List.mem_cons_self),
          numberIn, idxOf?_concat, List.idxOf?_eq_none_iff.mpr hmem, length_externals]
        simp
      rw [← hown] at hadd
      exact addAll_cons hadd hrest

theorem sound_withCapacity (capacity : Nat) : (withCapacity capacity).Sound :=
  ⟨sound_empty.nodup, sound_empty.few, sound_empty.index, sound_empty.highest⟩

end Builder

/-! ## The bijection -/

/-- An id map between different ids and their positions. -/
structure Numbers (map : IdMap) (ids : List ExternalId) : Prop where
  nodeCount : map.nodeCount = ids.length
  toMapped : ∀ id ∈ ids, (map.toMapped id).index = ids.idxOf id
  toMapped_of_not_mem : ∀ id, id ∉ ids → map.toMapped id = NodeId.unmapped
  toExternal : ∀ node, map.toExternal node = ids[node.index]?
  /-- The two ways undo each other. -/
  inverse : ∀ id node, map.toExternal node = some id ↔ map.toMapped id = node ∧ node ≠ NodeId.unmapped
  contains : ∀ id, map.contains id = true ↔ id ∈ ids

theorem Sound.numbering {map : IdMap} (h : map.Sound) : map.Numbers map.externals.toList where
  nodeCount := map.length_externals.symm
  toMapped id hid := by
    rw [h.forward, index_numberIn (by rw [length_externals]; exact h.few) hid]
  toMapped_of_not_mem id hid := by rw [h.forward, numberIn_of_not_mem hid]
  toExternal node := by rw [IdMap.toExternal, Array.getElem?_toList]
  inverse id node := by
    constructor
    · intro hid
      have hmapped := h.isMapped_of_toExternal hid
      exact ⟨(h.toMapped_eq_iff hmapped).mpr hid, NodeId.isMapped_iff.mp hmapped⟩
    · rintro ⟨hnode, hmapped⟩
      exact (h.toMapped_eq_iff (NodeId.isMapped_iff.mpr hmapped)).mp hnode
  contains id := h.isMapped_toMapped_iff

/-- **External ids are numbered in order of their first occurrence**, by a bijection that does not depend
on the way forth.  Adding an id again answers its number and changes nothing. -/
theorem numbers_in_order_of_occurrence (capacity : Nat) (ids : List ExternalId)
    (hfew : ids.eraseDups.length ≤ maxNodeCount) :
    ∃ numbers builder, Builder.addAll ids (.withCapacity capacity) = .ok numbers builder ∧
      numbers.map NodeId.index = ids.map ids.eraseDups.idxOf ∧
      (∀ id ∈ ids, ∃ number, number.index = ids.eraseDups.idxOf id ∧
        Builder.add id builder = .ok number builder) ∧
      builder.build.Numbers ids.eraseDups ∧
      ∀ forward ∈ builder.indexes, (builder.freeze forward).Numbers ids.eraseDups := by
  obtain ⟨builder, hadd, hsound, hexternals⟩ :=
    Builder.Sound.addAll ids (Builder.sound_withCapacity capacity) hfew
  have hall : builder.externals.toList = ids.eraseDups := hexternals
  have hmem : ∀ id ∈ ids, id ∈ ids.eraseDups := fun id => List.mem_eraseDups.mpr
  refine ⟨_, builder, hadd, ?_, fun id hid => ?_, ?_, fun forward hforward => ?_⟩
  · rw [List.map_map]
    exact List.map_congr_left fun id hid => index_numberIn hfew (hmem id hid)
  · refine ⟨numberIn ids.eraseDups id, index_numberIn hfew (hmem id hid), ?_⟩
    rw [← hall]
    exact hsound.add_of_mem (hall ▸ hmem id hid)
  · rw [← hall]
    exact hsound.build.numbering
  · rw [← hall]
    exact (hsound.freeze hforward).numbering

/-- The largest id takes a hash index, and its repetition no number. -/
theorem numbers_of_spread_ids :
    let ids : List ExternalId := [⟨0xFFFFFFFFFFFFFFFF⟩, ⟨0⟩, ⟨0xFFFFFFFFFFFFFFFF⟩, ⟨4096⟩]
    ids.eraseDups.length ≤ maxNodeCount ∧
      ∃ numbers builder, Builder.addAll ids (.withCapacity 2) = .ok numbers builder ∧
        numbers.map NodeId.index = [0, 1, 0, 2] ∧
        (∀ id ∈ ids, ∃ number, number.index = ids.eraseDups.idxOf id ∧
          Builder.add id builder = .ok number builder) ∧
        builder.build.Numbers ids.eraseDups ∧
        ∀ forward ∈ builder.indexes, (builder.freeze forward).Numbers ids.eraseDups := by
  intro ids
  have hfew : ids.eraseDups.length ≤ maxNodeCount := by decide
  exact ⟨hfew, numbers_in_order_of_occurrence 2 ids hfew⟩

end IdMap

end CompactGraph
