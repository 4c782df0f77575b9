/-
# Converting import files

The records of a file come to what is stored only as a whole: a container as the value of a property
anywhere in the file, or an endpoint that is neither stored nor in the file, keeps all of its records out
(`Flawed.refused`).  Of equal names in an object the last one counts, so a container counts unless its name
is given another value later.
-/
import CompactGraph.Import.ImportFile
import CompactGraph.Proofs.Outcomes
import CompactGraph.Proofs.Store.Batches

namespace CompactGraph

/-! ## Properties of a relationship -/

namespace Properties

variable {α : Type} {name : String} {value : α} {entries : List (String × α)}

theorem mem_put_self (name : String) (value : α) (entries : List (String × α)) :
    (name, value) ∈ put name value entries := by
  induction entries with
  | nil => exact List.mem_singleton.mpr rfl
  | cons entry entries ih =>
    obtain ⟨other, old⟩ := entry
    unfold put
    split
    · exact List.mem_cons_self
    · split
      · exact List.mem_cons_self
      · exact List.mem_cons_of_mem _ ih

/-- What has another name stays. -/
theorem mem_put_of_ne {entry : String × α} (h : entry ∈ entries) (hname : entry.1 ≠ name) :
    entry ∈ put name value entries := by
  induction entries with
  | nil => cases h
  | cons first entries ih =>
    obtain ⟨other, old⟩ := first
    unfold put
    split
    · exact List.mem_cons_of_mem _ h
    · rcases List.mem_cons.mp h with rfl | hrest
      · split
        · next heq => exact absurd heq.symm hname
        · exact List.mem_cons_self
      · split
        · exact List.mem_cons_of_mem _ hrest
        · exact List.mem_cons_of_mem _ (ih hrest)

end Properties

namespace ImportRelationship

variable {relationship : ImportRelationship}

/-- What was put before stays if nothing of its name comes after it. -/
theorem mem_foldl_put {entry : String × JsonValue} (later : List (String × JsonValue))
    (hlast : ∀ other ∈ later, other.1 ≠ entry.1) :
    ∀ settled : List (String × JsonValue), entry ∈ settled →
      entry ∈ later.foldl (fun settled (name, value) => Properties.put name value settled) settled := by
  induction later with
  | nil => exact fun _ h => h
  | cons first later ih =>
    rw [List.forall_mem_cons] at hlast
    exact fun _ h => ih hlast.2 _ (Properties.mem_put_of_ne h (Ne.symm hlast.1))

/-- **The last of equal names counts.** -/
theorem mem_settled {before after : List (String × JsonValue)} {name : String} {value : JsonValue}
    (hproperties : relationship.properties = before ++ (name, value) :: after)
    (hlast : ∀ other ∈ after, other.1 ≠ name) : (name, value) ∈ relationship.settled := by
  rw [settled, hproperties, List.foldl_append, List.foldl_cons]
  exact mem_foldl_put after hlast _ (Properties.mem_put_self name value _)

/-- **Properties can be converted** if none of them is a container. -/
theorem exists_convert_iff (entries : List (String × JsonValue)) :
    ∀ properties, (∃ converted, convert properties entries = .ok converted) ↔
      ∀ entry ∈ entries, entry.2.isScalar = true := by
  induction entries with
  | nil => exact fun properties => iff_of_true ⟨properties, rfl⟩ (List.forall_mem_nil _)
  | cons entry entries ih =>
    obtain ⟨name, value⟩ := entry
    intro properties
    rw [List.forall_mem_cons]
    cases value with
    | null => exact (ih _).trans (iff_and_self.mpr fun _ => rfl)
    | boolean value => exact (ih _).trans (iff_and_self.mpr fun _ => rfl)
    | number value => exact (ih _).trans (iff_and_self.mpr fun _ => rfl)
    | text value => exact (ih _).trans (iff_and_self.mpr fun _ => rfl)
    | array elements => exact iff_of_false (fun ⟨_, h⟩ => nomatch h) fun h => nomatch h.1
    | object members => exact iff_of_false (fun ⟨_, h⟩ => nomatch h) fun h => nomatch h.1

/-- A relationship keeps its endpoints. -/
theorem endpoints_of_toRecord {record : RelationshipRecord} (h : relationship.toRecord = .ok record) :
    record.source = relationship.source ∧ record.target = relationship.target := by
  obtain ⟨_, _, h⟩ := bind_eq_ok_iff.mp h
  cases h
  exact ⟨rfl, rfl⟩

/-- A relationship one of whose properties is a container. -/
def HoldsContainer (relationship : ImportRelationship) : Prop :=
  ∃ before name value after, relationship.properties = before ++ (name, value) :: after ∧
    (∀ other ∈ after, other.1 ≠ name) ∧ value.isScalar = false

/-- Such a relationship is no record. -/
theorem HoldsContainer.toRecord_ne_ok (h : relationship.HoldsContainer) (record : RelationshipRecord) :
    relationship.toRecord ≠ .ok record := by
  obtain ⟨before, name, value, after, hproperties, hlast, hcontainer⟩ := h
  intro hrecord
  obtain ⟨converted, hconverted, _⟩ := bind_eq_ok_iff.mp hrecord
  have hscalar := (exists_convert_iff _ _).mp ⟨converted, hconverted⟩ _ (mem_settled hproperties hlast)
  rw [hcontainer] at hscalar
  cases hscalar

end ImportRelationship

/-! ## Whole files -/

/-- What the records of a file are, if they can be read. -/
theorem exists_file_of_readImport {bytes : List UInt8} {nodes : List NodeRecord}
    {relationships : List RelationshipRecord} (h : readImport bytes = .ok (nodes, relationships)) :
    ∃ file, ImportFile.ofBytes bytes = .ok file ∧ nodes = file.nodes ∧
      file.relationships.map ImportRelationship.toRecord = relationships.map .ok := by
  obtain ⟨file, hfile, h⟩ := bind_eq_ok_iff.mp h
  obtain ⟨records, hrecords, h⟩ := bind_eq_ok_iff.mp h
  cases h
  exact ⟨file, hfile, rfl, mapM_eq_ok_iff.mp hrecords⟩

/-- What keeps a file from being imported into a stored graph. -/
inductive Flawed (stored : Tables) (bytes : List UInt8) : Prop where
  /-- It is no list of nodes and relationships. -/
  | malformed {error : LoadError} (h : ImportFile.ofBytes bytes = .error error)
  /-- A property of a relationship is a container. -/
  | container {file : ImportFile} {relationship : ImportRelationship}
      (hfile : ImportFile.ofBytes bytes = .ok file) (hmem : relationship ∈ file.relationships)
      (h : relationship.HoldsContainer)
  /-- An endpoint of a relationship is neither stored nor in the file. -/
  | endpoint {file : ImportFile} {relationship : ImportRelationship} {endpoint : ExternalId}
      (hfile : ImportFile.ofBytes bytes = .ok file) (hmem : relationship ∈ file.relationships)
      (hends : endpoint = relationship.source ∨ endpoint = relationship.target)
      (hstored : endpoint ∉ stored.nodes) (hnew : ∀ node ∈ file.nodes, node.id ≠ endpoint)

/-- **A flawed file** brings no records, or they cannot be written. -/
theorem Flawed.refused {stored : Tables} {bytes : List UInt8} (h : Flawed stored bytes)
    (hlinked : stored.Linked) {nodes : List NodeRecord} {relationships : List RelationshipRecord}
    (hread : readImport bytes = .ok (nodes, relationships)) (next : Tables) :
    stored.writeBatch nodes relationships ≠ .ok next := by
  obtain ⟨own, hown, rfl, hrecords⟩ := exists_file_of_readImport hread
  -- each relationship of the file is one of the records
  have hrecord : ∀ relationship ∈ own.relationships, ∃ record ∈ relationships,
      relationship.toRecord = .ok record := by
    intro relationship hmem
    obtain ⟨record, hrecord, heq⟩ := List.mem_map.mp (hrecords ▸ List.mem_map_of_mem hmem)
    exact ⟨record, hrecord, heq.symm⟩
  cases h with
  | malformed h =>
    rw [h] at hown
    cases hown
  | container hfile hmem h =>
    obtain rfl := Except.ok.inj (hfile.symm.trans hown)
    obtain ⟨record, _, hok⟩ := hrecord _ hmem
    exact absurd hok (h.toRecord_ne_ok record)
  | @endpoint file relationship missing hfile hmem hends hstored hnew =>
    obtain rfl := Except.ok.inj (hfile.symm.trans hown)
    obtain ⟨record, hmember, hok⟩ := hrecord _ hmem
    obtain ⟨hsource, htarget⟩ := ImportRelationship.endpoints_of_toRecord hok
    have hmissing : (file.nodes.foldl Tables.writeNode stored).missingEndpoint? record ≠ none := by
      rw [ne_eq, ← Tables.joins_iff]
      intro hjoins
      have hmember : missing ∈ [record.source, record.target] := by
        rcases hends with rfl | rfl
        · rw [hsource]
          exact List.mem_cons_self
        · rw [htarget]
          exact List.mem_cons_of_mem _ List.mem_cons_self
      rcases hjoins missing hmember with hthere | hthere
      · exact hstored hthere
      · obtain ⟨node, hnode, heq⟩ := List.mem_map.mp hthere
        exact hnew node hnode heq
    obtain ⟨_, _, _, _, herror⟩ := Tables.Linked.writeRelationships_eq_error relationships
      (Tables.Linked.writeNodes file.nodes hlinked) ⟨record, hmember, hmissing⟩
    intro hnext
    rw [Tables.writeBatch, herror] at hnext
    cases hnext

end CompactGraph
