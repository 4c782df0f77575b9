/-
# Tables that repeat each other

Some tables of a stored graph repeat what others hold, so that a question is answered without a search.
The index of labels repeats the labels of the nodes, and the counts of degrees repeat the indexes of
relationships; the tokens in the indexes stand for names of types, each for one.  Every write keeps
them in step (`Tables.Sound`).
-/
import Mathlib
import CompactGraph.Store.Cursor

namespace CompactGraph

/-! ## The order of external ids -/

theorem compare_externalId (a b : ExternalId) : compare a b = compare a.val b.val := rfl

instance : Std.TransOrd ExternalId where
  eq_swap := by
    intro a b
    rw [compare_externalId, compare_externalId]
    exact Std.OrientedCmp.eq_swap
  isLE_trans := by
    intro a b c
    rw [compare_externalId, compare_externalId, compare_externalId]
    exact Std.TransCmp.isLE_trans

instance : Std.LawfulEqOrd ExternalId where
  eq_of_compare := by
    rintro ⟨a⟩ ⟨b⟩ h
    have hval : compare a b = .eq := h
    rw [Std.LawfulEqCmp.eq_of_compare hval]

namespace Tables

/-! ## What the tables say -/

/-- The labels of a node, none for a node that is not stored. -/
def labelsOf (tables : Tables) (id : ExternalId) : List String := tables.nodes.getD id []

/-- The token of a type; a type without one has that of all types. -/
def tokenOf (tables : Tables) (type : String) : TypeToken := tables.types.getD type allTypes

/-- What the index for a stored direction holds for a node. -/
def entriesOf (tables : Tables) (part : Direction) (id : ExternalId) : List IndexEntry :=
  ((Cursor.index tables part).getD id #[]).toList

/-- Whether an entry is counted under a token. -/
def passes (token : TypeToken) (entry : IndexEntry) : Bool := token == allTypes || token == entry.token

/-- The invariant of the tables. -/
structure Sound (tables : Tables) : Prop where
  labels : ∀ label id, id ∈ tables.labels.getD label {} ↔ label ∈ tables.labelsOf id
  tokens : ∀ (type : String) token,
    tables.types[type]? = some token → allTypes < token ∧ token < tables.nextToken
  nextToken : allTypes < tables.nextToken
  types : ∀ (first second : String) token,
    tables.types[first]? = some token → tables.types[second]? = some token → first = second
  degrees : ∀ id part token, part ≠ .both →
    tables.degrees.getD ⟨id, part, token⟩ 0 = ((tables.entriesOf part id).filter (passes token)).length

theorem sound_empty : empty.Sound where
  labels label id := by
    simp [empty, labelsOf]
  tokens type token h := by simp [empty] at h
  nextToken := Nat.zero_lt_one
  types first second token h := by simp [empty] at h
  degrees id part token _ := by
    cases part <;> simp [empty, entriesOf, Cursor.index]

/-! ## Writing nodes -/

section Labels

variable {id other : ExternalId} {label : String}

theorem mem_unlabel (labels : Std.TreeMap String (Std.TreeSet ExternalId)) (gone : String) :
    other ∈ (unlabel id labels gone).getD label {} ↔
      other ∈ labels.getD label {} ∧ ¬ (other = id ∧ label = gone) := by
  rw [unlabel, Std.TreeMap.getD_insert]
  by_cases hlabel : gone = label
  · subst hlabel
    rw [if_pos Std.ReflCmp.compare_self, Std.TreeSet.mem_erase, Std.LawfulEqCmp.compare_eq_iff_eq.ne]
    simp [and_comm, eq_comm]
  · rw [if_neg (by rwa [Std.LawfulEqCmp.compare_eq_iff_eq])]
    simp [Ne.symm hlabel]

theorem mem_label (labels : Std.TreeMap String (Std.TreeSet ExternalId)) (added : String) :
    other ∈ (Tables.label id labels added).getD label {} ↔
      other ∈ labels.getD label {} ∨ (other = id ∧ label = added) := by
  rw [Tables.label, Std.TreeMap.getD_insert]
  by_cases hlabel : added = label
  · subst hlabel
    rw [if_pos Std.ReflCmp.compare_self, Std.TreeSet.mem_insert, Std.LawfulEqCmp.compare_eq_iff_eq]
    simp [or_comm, eq_comm]
  · rw [if_neg (by rwa [Std.LawfulEqCmp.compare_eq_iff_eq])]
    simp [Ne.symm hlabel]

/-- A node is taken out of the nodes with its former labels, and out of no others. -/
theorem mem_foldl_unlabel (former : List String) :
    ∀ labels : Std.TreeMap String (Std.TreeSet ExternalId),
      other ∈ (former.foldl (unlabel id) labels).getD label {} ↔
        other ∈ labels.getD label {} ∧ ¬ (other = id ∧ label ∈ former) := by
  induction former with
  | nil => simp
  | cons gone former ih =>
    intro labels
    rw [List.foldl_cons, ih, mem_unlabel, List.mem_cons]
    tauto

/-- A node is added to the nodes with its new labels, and to no others. -/
theorem mem_foldl_label (new : List String) :
    ∀ labels : Std.TreeMap String (Std.TreeSet ExternalId),
      other ∈ (new.foldl (Tables.label id) labels).getD label {} ↔
        other ∈ labels.getD label {} ∨ (other = id ∧ label ∈ new) := by
  induction new with
  | nil => simp
  | cons added new ih =>
    intro labels
    rw [List.foldl_cons, ih, mem_label, List.mem_cons]
    tauto

end Labels

theorem nodes_writeNode (tables : Tables) (record : NodeRecord) (id : ExternalId) :
    (tables.writeNode record).nodes[id]?
      = if record.id = id then some record.labels else tables.nodes[id]? := by
  unfold writeNode
  rw [Std.TreeMap.getElem?_insert]
  simp only [Std.LawfulEqCmp.compare_eq_iff_eq]

theorem labelsOf_writeNode (tables : Tables) (record : NodeRecord) (id : ExternalId) :
    (tables.writeNode record).labelsOf id
      = if record.id = id then record.labels else tables.labelsOf id := by
  unfold labelsOf
  rw [Std.TreeMap.getD_eq_getD_getElem?, Std.TreeMap.getD_eq_getD_getElem?, nodes_writeNode]
  split <;> rfl

/-- **Writing a node** keeps the invariant: its former labels are taken out of the index. -/
theorem Sound.writeNode {tables : Tables} (h : tables.Sound) (record : NodeRecord) :
    (tables.writeNode record).Sound where
  labels label id := by
    rw [labelsOf_writeNode]
    show id ∈ (record.labels.foldl (Tables.label record.id) _).getD label {} ↔ _
    rw [mem_foldl_label, mem_foldl_unlabel, h.labels]
    by_cases hid : record.id = id
    · -- all former labels are taken out, so only the new ones are left
      subst hid
      have hformer : tables.nodes.getD record.id [] = tables.labelsOf record.id := rfl
      simp [hformer]
    · simp [hid, Ne.symm hid]
  tokens := h.tokens
  nextToken := h.nextToken
  types := h.types
  degrees := h.degrees

/-! ## Writing relationships -/

section Rows

variable {tables : Tables}

/-- The token of a type that has one. -/
theorem tokenOf_eq {type : String} {token : TypeToken} (h : tables.types[type]? = some token) :
    tables.tokenOf type = token := by
  rw [tokenOf, Std.TreeMap.getD_eq_getD_getElem?, h]
  rfl

/-- Handing out a token changes nothing else. -/
theorem exists_internType_eq (tables : Tables) (type : String) :
    ∃ types nextToken, (tables.internType type).2 = { tables with types, nextToken } := by
  unfold internType
  split
  · exact ⟨tables.types, tables.nextToken, rfl⟩
  · exact ⟨_, _, rfl⟩

/-- After a token is handed out, its type has it. -/
theorem types_internType (tables : Tables) (type : String) :
    (tables.internType type).2.types[type]? = some (tables.internType type).1 := by
  unfold internType
  split
  · assumption
  · exact Std.TreeMap.getElem?_insert_self

/-- A type keeps the token that it has. -/
theorem types_internType_of_some {type other : String} {token : TypeToken}
    (h : tables.types[other]? = some token) :
    (tables.internType type).2.types[other]? = some token := by
  unfold internType
  split
  · exact h
  · next hnone =>
    show (tables.types.insert type tables.nextToken)[other]? = some token
    have hne : type ≠ other := by
      rintro rfl
      rw [hnone] at h
      cases h
    rw [Std.TreeMap.getElem?_insert, if_neg (by rwa [Std.LawfulEqCmp.compare_eq_iff_eq]), h]

/-- **Handing out a token** keeps the invariant. -/
theorem Sound.internType (h : tables.Sound) (type : String) : (tables.internType type).2.Sound := by
  unfold Tables.internType
  split
  · exact h
  · -- the new token is above all others
    have hnew : ∀ (other : String) token,
        (tables.types.insert type tables.nextToken)[other]? = some token →
          (other = type ∧ token = tables.nextToken) ∨ tables.types[other]? = some token := by
      intro other token hother
      rw [Std.TreeMap.getElem?_insert] at hother
      by_cases htype : type = other
      · rw [if_pos (Std.LawfulEqCmp.compare_eq_iff_eq.mpr htype)] at hother
        exact Or.inl ⟨htype.symm, (Option.some.inj hother).symm⟩
      · rw [if_neg (by rwa [Std.LawfulEqCmp.compare_eq_iff_eq])] at hother
        exact Or.inr hother
    refine ⟨h.labels, fun other token hother => ?_, Nat.lt_succ_of_lt h.nextToken,
      fun first second token hfirst hsecond => ?_, h.degrees⟩
    · show allTypes < token ∧ token < tables.nextToken + 1
      rcases hnew other token hother with ⟨-, rfl⟩ | hold
      · exact ⟨h.nextToken, Nat.lt_succ_self _⟩
      · exact ⟨(h.tokens other token hold).1, Nat.lt_succ_of_lt (h.tokens other token hold).2⟩
    · rcases hnew first token hfirst with ⟨rfl, htoken⟩ | hold
      · rcases hnew second token hsecond with ⟨rfl, -⟩ | hold'
        · rfl
        · exact absurd (h.tokens second token hold').2 (htoken ▸ Nat.lt_irrefl _)
      · rcases hnew second token hsecond with ⟨rfl, htoken⟩ | hold'
        · exact absurd (h.tokens first token hold).2 (htoken ▸ Nat.lt_irrefl _)
        · exact h.types first second token hold hold'

theorem getD_addEntry (node id : ExternalId) (entry : IndexEntry) (index : RelationshipIndex) :
    ((addEntry node entry index).getD id #[]).toList
      = (index.getD id #[]).toList ++ if node = id then [entry] else [] := by
  unfold addEntry
  rw [Std.HashMap.getD_insert]
  by_cases hid : node = id
  · subst hid
    rw [if_pos BEq.rfl, if_pos rfl, Array.toList_push]
  · rw [if_neg (by simpa using hid), if_neg hid, List.append_nil]

/-- One relationship more is counted for its type and for all types. -/
theorem getD_countDegree {node : ExternalId} {direction : Direction} {token : TypeToken}
    (htoken : token ≠ allTypes) (degrees : Std.HashMap DegreeKey Nat) (key : DegreeKey) :
    (countDegree node direction token degrees).getD key 0 = degrees.getD key 0 +
      if key.node = node ∧ key.direction = direction ∧ (key.token = allTypes ∨ key.token = token)
        then 1 else 0 := by
  obtain ⟨id, part, counted⟩ := key
  simp only [countDegree, List.foldl_cons, List.foldl_nil, Std.HashMap.getD_insert, beq_iff_eq,
    DegreeKey.mk.injEq]
  by_cases hplace : node = id ∧ direction = part
  · obtain ⟨rfl, rfl⟩ := hplace
    by_cases hall : counted = allTypes
    · subst hall
      simp [htoken]
    · by_cases hcounted : counted = token
      · subst hcounted
        simp [Ne.symm hall]
      · simp [hall, hcounted, Ne.symm hall, Ne.symm hcounted]
  · have hplace' : ¬ (id = node ∧ part = direction) := fun both => hplace ⟨both.1.symm, both.2.symm⟩
    grind

theorem length_filter_concat (entries : List IndexEntry) (entry : IndexEntry) (here : Prop)
    [Decidable here] (p : IndexEntry → Bool) :
    ((entries ++ if here then [entry] else []).filter p).length
      = (entries.filter p).length + if here ∧ p entry = true then 1 else 0 := by
  by_cases hhere : here
  · by_cases hp : p entry = true
    · simp [hhere, hp]
    · simp [hhere, hp]
  · simp [hhere]

theorem entriesOf_addRow (tables : Tables) (row : RelationshipRow) (id : ExternalId) :
    (tables.addRow row).2.entriesOf .outgoing id = tables.entriesOf .outgoing id ++
        (if row.source = id then [⟨tables.nextRelationship, row.target, row.token⟩] else []) ∧
      (tables.addRow row).2.entriesOf .incoming id = tables.entriesOf .incoming id ++
        (if row.target = id then [⟨tables.nextRelationship, row.source, row.token⟩] else []) :=
  ⟨getD_addEntry .., getD_addEntry ..⟩

/-- **Writing a row** with a token of its own type keeps the invariant: an entry is counted wherever
it is found. -/
theorem Sound.addRow (h : tables.Sound) {row : RelationshipRow} (htoken : row.token ≠ allTypes) :
    (tables.addRow row).2.Sound where
  labels := h.labels
  tokens := h.tokens
  nextToken := h.nextToken
  types := h.types
  degrees id part token hpart := by
    obtain ⟨houtgoing, hincoming⟩ := tables.entriesOf_addRow row id
    show (countDegree row.target .incoming row.token
      (countDegree row.source .outgoing row.token tables.degrees)).getD ⟨id, part, token⟩ 0 = _
    rw [getD_countDegree htoken, getD_countDegree htoken, h.degrees id part token hpart]
    cases part with
    | outgoing =>
      rw [houtgoing, length_filter_concat]
      simp [passes, eq_comm (a := id)]
    | incoming =>
      rw [hincoming, length_filter_concat]
      simp [passes, eq_comm (a := id)]
    | both => exact absurd rfl hpart

/-- No endpoint is missing exactly if both are stored. -/
theorem missingEndpoint?_eq_none_iff {record : RelationshipRecord} :
    tables.missingEndpoint? record = none ↔
      record.source ∈ tables.nodes ∧ record.target ∈ tables.nodes := by
  simp [missingEndpoint?, Std.TreeMap.contains_iff_mem]

/-- What writing a relationship comes to: it needs both endpoints, and nothing else. -/
theorem writeRelationship_eq (tables : Tables) (record : RelationshipRecord) :
    (record.source ∈ tables.nodes ∧ record.target ∈ tables.nodes ∧
      tables.writeRelationship record = .ok ((tables.internType record.type).2.addRow
        ⟨record.source, record.target, (tables.internType record.type).1, record.properties⟩)) ∨
    (¬ (record.source ∈ tables.nodes ∧ record.target ∈ tables.nodes) ∧
      ∃ error, tables.writeRelationship record = .error error) := by
  unfold writeRelationship
  split
  · next endpoint hsome =>
    refine Or.inr ⟨fun both => ?_, _, rfl⟩
    rw [missingEndpoint?_eq_none_iff.mpr both] at hsome
    cases hsome
  · next hnone =>
    obtain ⟨hsource, htarget⟩ := missingEndpoint?_eq_none_iff.mp hnone
    exact Or.inl ⟨hsource, htarget, rfl⟩

end Rows

end Tables

end CompactGraph
