/-
# Id maps as bijections

A builder numbers external ids in order of their first occurrence (`IdMap.Builder.Sound`).  Whichever
way the frozen map looks ids up, it answers the position of an id among those that were numbered
(`IdMap.Sound`), and that a node is at a position is the same as that its external id is there.
-/
import CompactGraph.IdMap
import CompactGraph.Proofs.Adjacency.Targets

namespace CompactGraph

/-! ## Page tables -/

namespace PageTable

/-- The invariant of page tables: kept pages have all their places. -/
def Full (table : PageTable) : Prop :=
  ∀ (number : Nat) (page : Array NodeId), table.pages[number]? = some (some page) →
    page.size = pageSize

theorem full_upTo (highest : ExternalId) : (upTo highest).Full := by
  intro number page hpage
  unfold upTo at hpage
  rw [Array.getElem?_replicate] at hpage
  split at hpage
  · cases Option.some.inj hpage
  · cases hpage

@[simp] theorem size_set (table : PageTable) (id : ExternalId) (node : NodeId) :
    (table.set id node).pages.size = table.pages.size := by
  simp [set]

theorem Full.set {table : PageTable} (h : table.Full) (id : ExternalId) (node : NodeId) :
    (table.set id node).Full := by
  intro number page hpage
  rw [PageTable.set, Array.getElem?_modify] at hpage
  split at hpage
  · obtain ⟨old, hold, heq⟩ := Option.map_eq_some_iff.mp hpage
    cases heq
    rw [Array.size_setIfInBounds]
    cases old with
    | none => exact Array.size_replicate
    | some old => exact h number old (by assumption)
  · exact h number page hpage

/-- An external id is known by its page and its place. -/
theorem eq_of_place {id other : ExternalId} (hpage : pageOf id = pageOf other)
    (hslot : slotOf id = slotOf other) : id = other := by
  obtain ⟨id⟩ := id
  obtain ⟨other⟩ := other
  rw [pageOf, pageOf] at hpage
  rw [slotOf, slotOf] at hslot
  have hval : id.toNat = other.toNat := by
    rw [← Nat.div_add_mod id.toNat pageSize, hpage, hslot, Nat.div_add_mod]
  exact congrArg ExternalId.mk (UInt64.toNat_inj.mp hval)

theorem pageOf_mono {id highest : ExternalId} (h : id.val ≤ highest.val) : pageOf id ≤ pageOf highest :=
  Nat.div_le_div_right (UInt64.le_iff_toNat_le.mp h)

theorem slotOf_lt (id : ExternalId) : slotOf id < pageSize := Nat.mod_lt _ (by decide)

/-- **Writing into a page table** changes the answer for one external id. -/
theorem get_set {table : PageTable} (h : table.Full) {id : ExternalId}
    (hid : pageOf id < table.pages.size) (node : NodeId) (other : ExternalId) :
    (table.set id node).get other = if id = other then node else table.get other := by
  rw [get, set, Array.getElem?_modify]
  by_cases hpage : pageOf id = pageOf other
  · rw [if_pos hpage, ← hpage, Array.getElem?_eq_getElem hid]
    have hsize : (table.pages[pageOf id].getD blankPage).size = pageSize := by
      cases hold : table.pages[pageOf id] with
      | none => exact Array.size_replicate
      | some old => exact h (pageOf id) old (by rw [Array.getElem?_eq_getElem hid, hold])
    -- both ids share a page, which is blank if nothing was written to it
    by_cases hslot : slotOf id = slotOf other
    · rw [if_pos (eq_of_place hpage hslot), ← hslot]
      have hlt : slotOf id < (table.pages[pageOf id].getD blankPage).size := by
        rw [hsize]
        exact slotOf_lt id
      show (Array.setIfInBounds _ _ node)[slotOf id]?.getD _ = node
      rw [Array.getElem?_setIfInBounds_self_of_lt hlt]
      rfl
    · have hne : id ≠ other := fun heq => hslot (congrArg slotOf heq)
      rw [if_neg hne, get, ← hpage, Array.getElem?_eq_getElem hid]
      show (Array.setIfInBounds _ _ node)[slotOf other]?.getD _ = _
      rw [Array.getElem?_setIfInBounds_ne hslot]
      cases table.pages[pageOf id] with
      | none =>
        show blankPage[slotOf other]?.getD _ = _
        rw [blankPage, Array.getElem?_replicate, if_pos (slotOf_lt other)]
        rfl
      | some old => rfl
  · have hne : id ≠ other := fun heq => hpage (congrArg pageOf heq)
    rw [if_neg hpage, if_neg hne, get]

/-- A new table maps no id. -/
theorem get_upTo (highest id : ExternalId) : (upTo highest).get id = NodeId.unmapped := by
  unfold get
  rw [upTo, Array.getElem?_replicate]
  split
  · next page hpage =>
    split at hpage
    · cases Option.some.inj hpage
    · cases hpage
  · rfl

/-- Writing consecutive nodes at different external ids. -/
theorem get_foldl_set {ids : List ExternalId} :
    ∀ {table : PageTable} {first : Nat}, table.Full → (∀ id ∈ ids, pageOf id < table.pages.size) →
      ids.Nodup → ∀ id, ((ids.zipIdx first).foldl
        (fun table entry => table.set entry.1 (NodeId.ofIndex entry.2)) table).get id
        = ((ids.idxOf? id).map fun index => NodeId.ofIndex (first + index)).getD (table.get id) := by
  induction ids with
  | nil => intro table first _ _ _ id; rfl
  | cons new ids ih =>
    intro table first h hreach hnodup id
    obtain ⟨hfresh, hnodup⟩ := List.nodup_cons.mp hnodup
    have hnew := hreach new List.mem_cons_self
    have hrest : ∀ id ∈ ids, pageOf id < (table.set new (NodeId.ofIndex first)).pages.size := by
      intro id hid
      rw [size_set]
      exact hreach id (List.mem_cons_of_mem _ hid)
    rw [List.zipIdx_cons, List.foldl_cons, ih (h.set new _) hrest hnodup, get_set h hnew,
      List.idxOf?_cons]
    -- later writes leave the number of `new` alone, since it is not among the ids to come
    by_cases hid : new = id
    · subst hid
      rw [List.idxOf?_eq_none_iff.mpr hfresh]
      simp
    · rw [if_neg hid, if_neg (by simpa using hid), Option.map_map]
      congr 2
      funext index
      show NodeId.ofIndex (first + 1 + index) = NodeId.ofIndex (first + (index + 1))
      congr 1
      omega

end PageTable

/-! ## Repetitions -/

theorem nodup_concat {ids : List ExternalId} (h : ids.Nodup) {id : ExternalId} (hnew : id ∉ ids) :
    (ids ++ [id]).Nodup := by
  rw [← List.concat_eq_append]
  exact h.concat hnew

theorem eraseDups_of_nodup {ids : List ExternalId} (h : ids.Nodup) : ids.eraseDups = ids := by
  induction ids with
  | nil => rfl
  | cons id ids ih =>
    obtain ⟨hfresh, hnodup⟩ := List.nodup_cons.mp h
    rw [List.eraseDups_cons, List.filter_eq_self.mpr, ih hnodup]
    intro other hother
    have hne : other ≠ id := fun heq => hfresh (heq ▸ hother)
    simpa using hne

/-- An id that occurred before adds nothing. -/
theorem eraseDups_append_cons_of_mem {before : List ExternalId} {id : ExternalId} (h : id ∈ before)
    (ids : List ExternalId) : (before ++ id :: ids).eraseDups = (before ++ ids).eraseDups := by
  rw [List.eraseDups_append, List.eraseDups_append]
  congr 2
  simp [List.removeAll, h]

namespace IdMap

/-! ## Numbering -/

/-- The number that stands for an external id when these ids were numbered. -/
def numberIn (ids : List ExternalId) (id : ExternalId) : NodeId :=
  ((ids.idxOf? id).map NodeId.ofIndex).getD NodeId.unmapped

theorem numberIn_of_not_mem {ids : List ExternalId} {id : ExternalId} (h : id ∉ ids) :
    numberIn ids id = NodeId.unmapped := by
  unfold numberIn
  rw [List.idxOf?_eq_none_iff.mpr h]
  rfl

/-- Where ids are all different, an id has the number of its position. -/
theorem idxOf?_eq_some_iff_of_nodup {ids : List ExternalId} (h : ids.Nodup) {id : ExternalId}
    {index : Nat} : ids.idxOf? id = some index ↔ ids[index]? = some id := by
  rw [List.idxOf?_eq_some_iff]
  constructor
  · rintro ⟨hlt, hid, _⟩
    rw [List.getElem?_eq_getElem hlt, hid]
  · intro hget
    obtain ⟨hlt, hid⟩ := List.getElem?_eq_some_iff.mp hget
    refine ⟨hlt, hid, fun other hother heq => ?_⟩
    have hsame := h.getElem_inj_iff.mp (heq.trans hid.symm)
    omega

/-- A node is the number of an id exactly if the id lies at its index. -/
theorem numberIn_eq_iff {ids : List ExternalId} (h : ids.Nodup) (hfew : ids.length ≤ maxNodeCount)
    {id : ExternalId} {node : NodeId} (hnode : node.isMapped = true) :
    numberIn ids id = node ↔ ids[node.index]? = some id := by
  rw [← idxOf?_eq_some_iff_of_nodup h, numberIn]
  cases hindex : ids.idxOf? id with
  | none =>
    have hne : NodeId.unmapped ≠ node := (NodeId.isMapped_iff.mp hnode).symm
    simpa using hne
  | some index =>
    have hlt : index < UInt32.size := by
      obtain ⟨hlt, _⟩ := List.idxOf?_eq_some_iff.mp hindex
      unfold maxNodeCount at hfew
      rw [UInt32.size]
      omega
    simp only [Option.map_some, Option.getD_some, Option.some.injEq]
    constructor
    · rintro rfl
      exact (NodeId.index_ofIndex hlt).symm
    · rintro rfl
      exact NodeId.ofIndex_index node

/-- An id has a number of a node exactly if it occurs. -/
theorem isMapped_numberIn_iff {ids : List ExternalId} (hfew : ids.length ≤ maxNodeCount)
    {id : ExternalId} : (numberIn ids id).isMapped = true ↔ id ∈ ids := by
  constructor
  · intro h
    by_contra hmem
    rw [numberIn_of_not_mem hmem, NodeId.isMapped_iff] at h
    exact h rfl
  · intro hmem
    obtain ⟨index, hindex⟩ := Option.ne_none_iff_exists'.mp
      fun hnone => List.idxOf?_eq_none_iff.mp hnone hmem
    obtain ⟨hlt, _⟩ := List.idxOf?_eq_some_iff.mp hindex
    unfold numberIn
    rw [hindex]
    exact NodeId.isMapped_ofIndex (by omega)

theorem idxOf?_concat (ids : List ExternalId) (new id : ExternalId) :
    (ids ++ [new]).idxOf? id = (ids.idxOf? id).or (if new = id then some ids.length else none) := by
  show List.findIdx? (· == id) (ids ++ [new]) = (List.findIdx? (· == id) ids).or _
  rw [List.findIdx?_append]
  by_cases hid : new = id
  · simp [hid]
  · simp [hid]

/-! ## Builders -/

namespace Builder

/-- The invariant of builders. -/
structure Sound (builder : Builder) : Prop where
  nodup : builder.externals.toList.Nodup
  few : builder.size ≤ maxNodeCount
  index : ∀ id, builder.index[id]? = (builder.externals.toList.idxOf? id).map NodeId.ofIndex
  highest : ∀ id ∈ builder.externals.toList, id.val ≤ builder.highest.val

theorem sound_empty : Builder.empty.Sound where
  nodup := List.nodup_nil
  few := Nat.zero_le _
  index _ := Std.HashMap.getElem?_empty
  highest _ h := by cases h

variable {builder : Builder} {id : ExternalId}

theorem length_externals (builder : Builder) : builder.externals.toList.length = builder.size :=
  Array.length_toList

/-- An id that was numbered before keeps its number. -/
theorem Sound.add_of_mem (h : builder.Sound) (hmem : id ∈ builder.externals.toList) :
    add id builder = .ok (numberIn builder.externals.toList id) builder := by
  obtain ⟨index, hindex⟩ := Option.ne_none_iff_exists'.mp
    fun hnone => List.idxOf?_eq_none_iff.mp hnone hmem
  rw [add, h.index, numberIn, hindex]
  rfl

/-- A new id is refused when all numbers are taken. -/
theorem Sound.add_of_full (h : builder.Sound) (hnew : id ∉ builder.externals.toList)
    (hfull : maxNodeCount ≤ builder.size) :
    add id builder = .error (.capacityExceeded .tooManyNodes) builder := by
  rw [add, h.index, List.idxOf?_eq_none_iff.mpr hnew]
  exact if_pos hfull

/-- **A new id** gets the next number. -/
theorem Sound.add_of_new (h : builder.Sound) (hnew : id ∉ builder.externals.toList)
    (hroom : builder.size < maxNodeCount) :
    ∃ builder', add id builder = .ok (NodeId.ofIndex builder.size) builder' ∧ builder'.Sound ∧
      builder'.externals.toList = builder.externals.toList ++ [id] := by
  rw [add, h.index, List.idxOf?_eq_none_iff.mpr hnew]
  refine ⟨_, if_neg (by omega), ⟨?_, ?_, fun other => ?_, ?_⟩, Array.toList_push⟩
  · rw [Array.toList_push]
    exact nodup_concat h.nodup hnew
  · show (builder.externals.push id).size ≤ maxNodeCount
    rw [Array.size_push]
    exact hroom
  · show (builder.index.insert id (NodeId.ofIndex builder.size))[other]? = _
    rw [Std.HashMap.getElem?_insert, h.index, Array.toList_push, idxOf?_concat]
    -- the new id comes after all others, so its position is their number
    by_cases hid : id = other
    · subst hid
      rw [List.idxOf?_eq_none_iff.mpr hnew, length_externals]
      simp
    · simp [hid]
  · intro other hother
    show other.val ≤ (if builder.highest.val < id.val then id else builder.highest).val
    rw [Array.toList_push, List.mem_append, List.mem_singleton] at hother
    rcases hother with hold | rfl
    · have hle := h.highest other hold
      split
      · next hlt => exact UInt64.le_trans hle (UInt64.le_of_lt hlt)
      · exact hle
    · split
      · exact UInt64.le_refl _
      · next hlt => exact UInt64.not_lt.mp hlt

/-- The page table of a builder answers the numbers of its ids. -/
theorem Sound.get_pageTable (h : builder.Sound) (id : ExternalId) :
    builder.pageTable.get id = numberIn builder.externals.toList id := by
  have htable : builder.pageTable = (builder.externals.toList.zipIdx 0).foldl
      (fun table entry => table.set entry.1 (NodeId.ofIndex entry.2))
      (PageTable.upTo builder.highest) := by
    unfold pageTable
    rw [← Array.foldl_toList, Array.toList_zipIdx]
  have hreach : ∀ id ∈ builder.externals.toList,
      PageTable.pageOf id < (PageTable.upTo builder.highest).pages.size := by
    intro id hid
    unfold PageTable.upTo
    rw [Array.size_replicate]
    exact Nat.lt_succ_of_le (PageTable.pageOf_mono (h.highest id hid))
  rw [htable, PageTable.get_foldl_set (PageTable.full_upTo _) hreach h.nodup, PageTable.get_upTo,
    numberIn]
  simp only [Nat.zero_add]

end Builder

/-! ## Frozen maps -/

/-- The invariant of id maps. -/
structure Sound (map : IdMap) : Prop where
  nodup : map.externals.toList.Nodup
  few : map.nodeCount ≤ maxNodeCount
  forward : ∀ id, map.toMapped id = numberIn map.externals.toList id

namespace Builder

/-- The ways forth between which a builder chooses when it is frozen. -/
def indexes (builder : Builder) : List ForwardIndex := [.paged builder.pageTable, .hashed builder.index]

/-- The map that a builder leaves behind with a given way forth. -/
def freeze (builder : Builder) (forward : ForwardIndex) : IdMap := { builder.build with forward }

theorem forward_build_mem (builder : Builder) : builder.build.forward ∈ builder.indexes := by
  rw [build]
  by_cases hdense : builder.isDense = true
  · simp [hdense, indexes]
  · simp [hdense, indexes]

/-- **Freezing** keeps all numbers, whichever way the map looks them up. -/
theorem Sound.freeze {builder : Builder} (h : builder.Sound) {forward : ForwardIndex}
    (hforward : forward ∈ builder.indexes) : (builder.freeze forward).Sound where
  nodup := h.nodup
  few := h.few
  forward := by
    intro id
    show (builder.freeze forward).toMapped id = numberIn builder.externals.toList id
    rw [toMapped]
    split
    · -- an id beyond the highest one was never numbered
      next habsent =>
      refine (numberIn_of_not_mem fun hmem => ?_).symm
      rcases Bool.or_eq_true_iff.mp habsent with hlarge | hempty
      · have hle := h.highest id hmem
        exact UInt64.not_lt.mpr hle (of_decide_eq_true hlarge)
      · have hnone : builder.externals = #[] := Array.isEmpty_iff.mp hempty
        rw [hnone] at hmem
        cases hmem
    · rcases List.mem_pair.mp hforward with rfl | rfl
      · exact h.get_pageTable id
      · show builder.index.getD id NodeId.unmapped = _
        rw [Std.HashMap.getD_eq_getD_getElem?, h.index, numberIn]

/-- The map that a builder is frozen to. -/
theorem Sound.build {builder : Builder} (h : builder.Sound) : builder.build.Sound :=
  h.freeze builder.forward_build_mem

end Builder

variable {map : IdMap}

theorem length_externals (map : IdMap) : map.externals.toList.length = map.nodeCount :=
  Array.length_toList

/-- **A node has an external id** exactly if the id leads to the node. -/
theorem Sound.toMapped_eq_iff (h : map.Sound) {id : ExternalId} {node : NodeId}
    (hnode : node.isMapped = true) : map.toMapped id = node ↔ map.toExternal node = some id := by
  rw [h.forward, numberIn_eq_iff h.nodup (by rw [length_externals]; exact h.few) hnode, toExternal,
    Array.getElem?_toList]

theorem Sound.isMapped_toMapped_iff (h : map.Sound) {id : ExternalId} :
    (map.toMapped id).isMapped = true ↔ id ∈ map.externals.toList := by
  rw [h.forward, isMapped_numberIn_iff (by rw [length_externals]; exact h.few)]

/-- A node below the node count has an external id. -/
theorem exists_toExternal {node : NodeId} (h : node.index < map.nodeCount) :
    ∃ id, map.toExternal node = some id := ⟨_, Array.getElem?_eq_getElem h⟩

theorem index_lt_of_toExternal {node : NodeId} {id : ExternalId} (h : map.toExternal node = some id) :
    node.index < map.nodeCount := (Array.getElem?_eq_some_iff.mp h).1

/-- A node that has an external id is mapped. -/
theorem Sound.isMapped_of_toExternal (h : map.Sound) {node : NodeId} {id : ExternalId}
    (hid : map.toExternal node = some id) : node.isMapped = true := by
  have hlt := index_lt_of_toExternal hid
  rw [← NodeId.ofIndex_index node]
  exact NodeId.isMapped_ofIndex (hlt.trans_le h.few)

end IdMap

end CompactGraph
