/-
# Records of an import file

Reading an import document gives its nodes and its relationships, in the order of the document, if no
property is a container (`readImport_of_isDocument`).  Each relationship carries the last value written under
a name, unless that is null (`Converts`): truth values and texts as they are, and numbers as integers or
floating-point numbers that stand for a weight.
-/
import CompactGraph.Proofs.Import.Conversion
import CompactGraph.Proofs.Import.Documents
import CompactGraph.Proofs.Import.Numbers

namespace CompactGraph

/-! ## Properties under their names -/

namespace Properties

variable {α : Type} {name : String} {value : α} {entries : List (String × α)}

theorem lookup_put_of_ne {other : String} (h : other ≠ name) :
    (put name value entries).lookup other = entries.lookup other := by
  have hne : (other == name) = false := beq_eq_false_iff_ne.mpr h
  induction entries with
  | nil => simp [put, List.lookup_cons, hne]
  | cons entry entries ih =>
    obtain ⟨first, old⟩ := entry
    unfold put
    split
    · rw [List.lookup_cons, hne]
    · split
      · next heq =>
        subst heq
        rw [List.lookup_cons, List.lookup_cons, hne]
      · rw [List.lookup_cons, List.lookup_cons, ih]

/-- Names in ascending order, so that none occurs twice. -/
def Ascending (entries : List (String × α)) : Prop :=
  entries.Pairwise fun first second => first.1 < second.1

theorem eq_or_mem_of_mem_put {entry : String × α} (h : entry ∈ put name value entries) :
    entry = (name, value) ∨ entry ∈ entries := by
  induction entries with
  | nil => exact .inl (List.mem_singleton.mp h)
  | cons first entries ih =>
    obtain ⟨other, old⟩ := first
    unfold put at h
    split at h
    · exact List.mem_cons.mp h
    · split at h
      · exact (List.mem_cons.mp h).imp_right (List.mem_cons_of_mem _)
      · rcases List.mem_cons.mp h with rfl | hrest
        · exact .inr List.mem_cons_self
        · exact (ih hrest).imp_right (List.mem_cons_of_mem _)

/-- Putting a value under a name keeps the names in order. -/
theorem ascending_put (h : Ascending entries) (name : String) (value : α) :
    Ascending (put name value entries) := by
  induction entries with
  | nil => exact List.pairwise_singleton _ _
  | cons first entries ih =>
    obtain ⟨other, old⟩ := first
    obtain ⟨hfirst, hrest⟩ := List.pairwise_cons.mp h
    unfold put
    split
    · next hlt =>
      refine List.pairwise_cons.mpr ⟨fun entry hentry => ?_, h⟩
      rcases List.mem_cons.mp hentry with rfl | hentry
      · exact hlt
      · exact lt_trans hlt (hfirst entry hentry)
    · next hnot =>
      split
      · next heq =>
        subst heq
        exact List.pairwise_cons.mpr ⟨hfirst, hrest⟩
      · next hne =>
        have hlt : other < name := lt_of_le_of_ne (not_lt.mp hnot) (Ne.symm hne)
        refine List.pairwise_cons.mpr ⟨fun entry hentry => ?_, ih hrest⟩
        rcases eq_or_mem_of_mem_put hentry with rfl | hentry
        · exact hlt
        · exact hfirst entry hentry

theorem lookup_eq_some_of_mem (h : Ascending entries) (hmem : (name, value) ∈ entries) :
    entries.lookup name = some value := by
  induction entries with
  | nil => cases hmem
  | cons first entries ih =>
    obtain ⟨hfirst, hrest⟩ := List.pairwise_cons.mp h
    rw [List.lookup_cons]
    rcases List.mem_cons.mp hmem with rfl | hmem
    · simp
    · rw [beq_eq_false_iff_ne.mpr (ne_of_gt (hfirst _ hmem))]
      exact ih hrest hmem

end Properties

/-- The last of the values under a name. -/
def lastUnder {α : Type} (entries : List (String × α)) (name : String) : Option α :=
  entries.reverse.lookup name

namespace ImportRelationship

variable {relationship : ImportRelationship}

theorem lookup_foldl_put {α : Type} (entries : List (String × α)) (name : String) :
    ∀ settled : List (String × α),
      (entries.foldl (fun settled (name, value) => Properties.put name value settled) settled).lookup name =
        (lastUnder entries name).or (settled.lookup name) := by
  induction entries with
  | nil => exact fun _ => rfl
  | cons entry entries ih =>
    intro settled
    obtain ⟨other, value⟩ := entry
    rw [List.foldl_cons, ih, lastUnder, lastUnder, List.reverse_cons, List.lookup_append, Option.or_assoc]
    congr 1
    simp only [List.lookup_cons, List.lookup_nil]
    cases hname : name == other with
    | false => exact Properties.lookup_put_of_ne (beq_eq_false_iff_ne.mp hname)
    | true =>
      obtain rfl := eq_of_beq hname
      exact Properties.lookup_put_self name value settled

/-- Under each name stands the last value that is written there. -/
theorem lookup_settled (name : String) :
    relationship.settled.lookup name = lastUnder relationship.properties name := by
  rw [settled, lookup_foldl_put]
  exact Option.or_none

theorem ascending_foldl_put {α : Type} (entries : List (String × α)) :
    ∀ settled : List (String × α), Properties.Ascending settled → Properties.Ascending
      (entries.foldl (fun settled (name, value) => Properties.put name value settled) settled) := by
  induction entries with
  | nil => exact fun _ h => h
  | cons entry entries ih => exact fun _ h => ih _ (Properties.ascending_put h entry.1 entry.2)

theorem ascending_settled : Properties.Ascending relationship.settled :=
  ascending_foldl_put _ _ List.Pairwise.nil

end ImportRelationship

/-! ## Values -/

/-- Not a container. -/
def JsonTree.isScalar : JsonTree → Bool
  | .array _ | .object _ => false
  | _ => true

/-- The property that a scalar stands for: null stands for none. -/
def JsonValue.property? : JsonValue → Option PropertyValue
  | .boolean value => some (.boolean value)
  | .number value => some value.toProperty
  | .text value => some (.text value)
  | .null | .array _ | .object _ => none

/-- Scalars are converted to the properties that they stand for, and containers are not. -/
theorem JsonValue.toProperty_eq_ok_iff {name : String} {value : JsonValue}
    {property : Option PropertyValue} :
    value.toProperty name = .ok property ↔ value.isScalar = true ∧ property = value.property? := by
  cases value <;> simp [JsonValue.toProperty, JsonValue.isScalar, JsonValue.property?, eq_comm]

/-- What a relationship carries under a name, by the last value written there. -/
inductive Carries : Option JsonTree → Option PropertyValue → Prop
  | missing : Carries none none
  | null : Carries (some .null) none
  | boolean {value : Bool} : Carries (some (.boolean value)) (some (.boolean value))
  | text {body : List UInt8} {text : String} (h : JsonText.decode? body = some text) :
      Carries (some (.text body)) (some (.text text))
  | integer {literal : NumberLiteral} {value : Int64} (h : literal.integer? = some value) :
      Carries (some (.number literal)) (some (.integer value))
  | float {literal : NumberLiteral} {number : JsonNumber} (hinteger : literal.integer? = none)
      (hvalue : literal.value? = some number) (hfinite : number.asFloat.isFinite = true) :
      Carries (some (.number literal)) (some (.float number.asFloat))

variable {tree : JsonTree} {value : JsonValue}

theorem isScalar_of_propertyValue? (h : propertyValue? tree = some value) :
    value.isScalar = tree.isScalar := by
  cases tree with
  | null | boolean =>
    cases h
    rfl
  | number | text | array | object =>
    obtain ⟨_, _, rfl⟩ := Option.map_eq_some_iff.mp h
    rfl

/-- A scalar is carried as the property that it stands for. -/
theorem carries_of_propertyValue? (h : propertyValue? tree = some value) (hscalar : tree.isScalar = true) :
    Carries (some tree) value.property? := by
  cases tree with
  | null =>
    cases h
    exact .null
  | boolean =>
    cases h
    exact .boolean
  | number literal =>
    obtain ⟨number, hnumber, rfl⟩ := Option.map_eq_some_iff.mp h
    rw [JsonValue.property?]
    rcases NumberLiteral.toProperty_of_value? hnumber with ⟨value, hinteger, heq⟩ | ⟨hnone, heq, hfinite⟩
    · rw [heq]
      exact .integer hinteger
    · rw [heq]
      exact .float hnone hnumber hfinite
  | text body =>
    obtain ⟨text, htext, rfl⟩ := Option.map_eq_some_iff.mp h
    exact .text htext
  | array | object => cases hscalar

/-- **Numbers stand for weights**, and nothing else does. -/
theorem Carries.isSome_asWeight_iff {written : Option JsonTree} {property : PropertyValue}
    (h : Carries written (some property)) :
    property.asWeight.isSome = true ↔ ∃ literal, written = some (.number literal) := by
  cases h with
  | boolean | text => simp [PropertyValue.asWeight]
  | integer => simp [PropertyValue.asWeight]
  | float _ _ hfinite => simp [PropertyValue.asWeight, hfinite]

/-! ## Relationships -/

/-- A relationship none of whose properties is a container. -/
def WrittenRelationship.IsPlain (written : WrittenRelationship) : Prop :=
  ∀ name tree, lastUnder written.members name = some tree → tree.isScalar = true

/-- A relationship as it is written, and the record that it becomes. -/
structure Converts (written : WrittenRelationship) (record : RelationshipRecord) : Prop where
  source : record.source = written.source
  target : record.target = written.target
  type : record.type = written.type
  /-- No name occurs twice. -/
  ascending : Properties.Ascending record.properties.entries
  carried : ∀ name, Carries (lastUnder written.members name) (record.properties.find? name)
  weights : ∀ name property, record.properties.find? name = some property →
    (property.asWeight.isSome = true ↔ ∃ literal, lastUnder written.members name = some (.number literal))

namespace ImportRelationship

variable {relationship : ImportRelationship} {written : WrittenRelationship}

/-- Under each name stands the property of the value that is converted, if it stands for one. -/
theorem find?_of_convert (name : String) : ∀ {entries : List (String × JsonValue)}
    {properties converted : Properties}, Properties.Ascending entries →
    convert properties entries = .ok converted →
      converted.find? name = ((entries.lookup name).bind JsonValue.property?).or (properties.find? name) := by
  intro entries
  induction entries with
  | nil =>
    intro properties converted _ h
    cases h
    rfl
  | cons entry entries ih =>
    intro properties converted hascending h
    obtain ⟨first, value⟩ := entry
    obtain ⟨hfirst, hrest⟩ := List.pairwise_cons.mp hascending
    have hnone : entries.lookup first = none :=
      List.lookup_eq_none_iff.mpr fun other hother => bne_iff_ne.mpr (ne_of_lt (hfirst other hother))
    rw [convert] at h
    rw [List.lookup_cons]
    split at h
    · cases h
    · next hnull =>
      rw [ih hrest h]
      cases hname : name == first with
      | false => rfl
      | true =>
        obtain rfl := eq_of_beq hname
        have hproperty : value.property? = none := (JsonValue.toProperty_eq_ok_iff.mp hnull).2.symm
        rw [hnone]
        show none.or _ = value.property?.or _
        rw [hproperty]
    · next property hproperty =>
      rw [ih hrest h]
      cases hname : name == first with
      | false =>
        have hkept : (properties.insert first property).find? name = properties.find? name :=
          Properties.lookup_put_of_ne (beq_eq_false_iff_ne.mp hname)
        rw [hkept]
      | true =>
        obtain rfl := eq_of_beq hname
        have hfound : value.property? = some property := (JsonValue.toProperty_eq_ok_iff.mp hproperty).2.symm
        rw [hnone, Properties.find?_insert_self]
        show none.or (some property) = value.property?.or _
        rw [hfound]
        rfl

theorem ascending_of_convert : ∀ {entries : List (String × JsonValue)} {properties converted : Properties},
    Properties.Ascending properties.entries → convert properties entries = .ok converted →
      Properties.Ascending converted.entries := by
  intro entries
  induction entries with
  | nil =>
    intro properties converted hascending h
    cases h
    exact hascending
  | cons entry entries ih =>
    intro properties converted hascending h
    obtain ⟨name, value⟩ := entry
    rw [convert] at h
    split at h
    · cases h
    · exact ih hascending h
    · exact ih (Properties.ascending_put hascending _ _) h

/-- What is read stands under the names under which it is written. -/
theorem lastUnder_cases (h : ReadsAs written relationship) (name : String) :
    (lastUnder written.members name = none ∧ lastUnder relationship.properties name = none) ∨
      ∃ tree value, lastUnder written.members name = some tree ∧
        lastUnder relationship.properties name = some value ∧ propertyValue? tree = some value := by
  have hlookup : ∀ {members : List (String × JsonTree)} {properties : List (String × JsonValue)},
      List.Forall₂ (fun member property => property.1 = member.1 ∧
        propertyValue? member.2 = some property.2) members properties →
      (members.lookup name = none ∧ properties.lookup name = none) ∨
        ∃ tree value, members.lookup name = some tree ∧ properties.lookup name = some value ∧
          propertyValue? tree = some value := by
    intro members properties hread
    induction hread with
    | nil => exact .inl ⟨rfl, rfl⟩
    | @cons member property _ _ hentry _ ih =>
      obtain ⟨other, tree⟩ := member
      obtain ⟨_, value⟩ := property
      obtain ⟨heq, hvalue⟩ := hentry
      cases heq
      simp only [List.lookup_cons]
      cases name == other with
      | false => exact ih
      | true => exact .inr ⟨tree, value, rfl, rfl, hvalue⟩
  exact hlookup (List.forall₂_reverse_iff.mpr h.properties)

/-- **A relationship becomes a record** exactly if none of its properties is a container. -/
theorem exists_toRecord_iff (h : ReadsAs written relationship) :
    (∃ record, relationship.toRecord = .ok record) ↔ written.IsPlain := by
  have hconvert : (∃ record, relationship.toRecord = .ok record) ↔
      ∃ converted, convert Properties.empty relationship.settled = .ok converted := by
    constructor
    · rintro ⟨record, hrecord⟩
      obtain ⟨converted, hconverted, _⟩ := bind_eq_ok_iff.mp hrecord
      exact ⟨converted, hconverted⟩
    · rintro ⟨converted, hconverted⟩
      exact ⟨_, bind_eq_ok_iff.mpr ⟨converted, hconverted, rfl⟩⟩
  rw [hconvert, exists_convert_iff]
  constructor
  · intro hall name tree htree
    rcases lastUnder_cases h name with ⟨hnone, _⟩ | ⟨tree', value, htree', hlast, hvalue⟩
    · rw [hnone] at htree
      cases htree
    · obtain rfl := Option.some.inj (htree.symm.trans htree')
      obtain ⟨before, after, hsplit, _⟩ := List.lookup_eq_some_iff.mp ((lookup_settled name).trans hlast)
      rw [← isScalar_of_propertyValue? hvalue]
      exact hall (name, value) (hsplit ▸ List.mem_append_right _ List.mem_cons_self)
  · rintro hplain ⟨name, value⟩ hmem
    have hlast : lastUnder relationship.properties name = some value :=
      (lookup_settled name).symm.trans (Properties.lookup_eq_some_of_mem ascending_settled hmem)
    rcases lastUnder_cases h name with ⟨_, hnone⟩ | ⟨tree, value', htree, hlast', hvalue⟩
    · rw [hnone] at hlast
      cases hlast
    · obtain rfl := Option.some.inj (hlast.symm.trans hlast')
      exact (isScalar_of_propertyValue? hvalue).trans (hplain name tree htree)

/-- **The record** that a relationship becomes. -/
theorem converts_of_toRecord (h : ReadsAs written relationship) {record : RelationshipRecord}
    (hrecord : relationship.toRecord = .ok record) : Converts written record := by
  have hplain : written.IsPlain := (exists_toRecord_iff h).mp ⟨record, hrecord⟩
  obtain ⟨converted, hconverted, heq⟩ := bind_eq_ok_iff.mp hrecord
  cases heq
  have hcarried : ∀ name, Carries (lastUnder written.members name) (converted.find? name) := by
    intro name
    have hfind : converted.find? name = (lastUnder relationship.properties name).bind JsonValue.property? := by
      rw [find?_of_convert name ascending_settled hconverted, lookup_settled]
      exact Option.or_none
    rw [hfind]
    rcases lastUnder_cases h name with ⟨htree, hlast⟩ | ⟨tree, value, htree, hlast, hvalue⟩
    · rw [htree, hlast]
      exact .missing
    · rw [htree, hlast]
      exact carries_of_propertyValue? hvalue (hplain name tree htree)
  exact {
    source := h.source
    target := h.target
    type := h.type
    ascending := ascending_of_convert List.Pairwise.nil hconverted
    carried := hcarried
    weights := fun name property hfind => (hfind ▸ hcarried name).isSome_asWeight_iff }

end ImportRelationship

/-! ## Whole documents -/

/-- What is written as a relationship can be read. -/
theorem exists_readsAs {tree : JsonTree} {written : WrittenRelationship} (h : IsRelationship tree written) :
    ∃ relationship, ReadsAs written relationship := by
  obtain ⟨fields, _, hfields⟩ := h
  obtain ⟨values, hvalues⟩ : ∃ values : List (String × JsonValue), List.Forall₂ (fun member property =>
      property.1 = member.1 ∧ propertyValue? member.2 = some property.2) written.members values := by
    refine exists_forall₂_of_forall fun member hmember => ?_
    obtain ⟨_, properties, ⟨_, _, _, hread⟩, hmem⟩ := exists_of_mem_getD hfields.properties hmember
    obtain ⟨value, hvalue⟩ := hread member hmem
    exact ⟨(member.1, value), rfl, hvalue⟩
  exact ⟨⟨written.source, written.target, written.type, values⟩, rfl, rfl, rfl, hvalues⟩

variable {bytes : List UInt8} {document : WrittenDocument}

/-- A document of the right shape is read. -/
theorem exists_file_of_isDocument (hbytes : JsonTree.ofBytes? bytes = some tree)
    (hdocument : IsDocument tree document) : ∃ relationships,
      List.Forall₂ ReadsAs (document.relationships.getD []) relationships ∧ ImportFile.ofBytes bytes =
        .ok { nodes := (document.nodes.getD []).map WrittenNode.record, relationships } := by
  obtain ⟨_, _, hfields⟩ := id hdocument
  obtain ⟨relationships, hreads⟩ : ∃ relationships,
      List.Forall₂ ReadsAs (document.relationships.getD []) relationships := by
    refine exists_forall₂_of_forall fun written hwritten => ?_
    obtain ⟨_, items, ⟨elements, _, hitems⟩, hmem⟩ := exists_of_mem_getD hfields.relationships hwritten
    obtain ⟨element, _, helement⟩ := exists_of_forall₂ hitems.flip hmem
    exact exists_readsAs helement
  have hfile : tree.importFile? =
      some { nodes := (document.nodes.getD []).map WrittenNode.record, relationships } :=
    JsonTree.importFile?_eq_some_iff.mpr ⟨document, hdocument, rfl, hreads⟩
  refine ⟨relationships, hreads, ?_⟩
  rw [ImportFile.ofBytes, hbytes, Option.bind_eq_bind, Option.bind_some, hfile]

/-- **Importing a document.**  It is converted exactly if none of its relationships has a container as a
property.  The records are then those of the document, in its order: nodes without labels have the empty list
of them, and relationships carry the last of the values written under each name, unless it is null. -/
theorem readImport_of_isDocument (hbytes : JsonTree.ofBytes? bytes = some tree)
    (hdocument : IsDocument tree document) :
    ((∃ records, readImport bytes = .ok records) ↔
      ∀ written ∈ document.relationships.getD [], written.IsPlain) ∧
    ∀ nodes relationships, readImport bytes = .ok (nodes, relationships) →
      nodes = (document.nodes.getD []).map WrittenNode.record ∧
        List.Forall₂ Converts (document.relationships.getD []) relationships := by
  obtain ⟨read, hreads, hfile⟩ := exists_file_of_isDocument hbytes hdocument
  have himport : readImport bytes = (read.mapM ImportRelationship.toRecord >>= fun records =>
      .ok ((document.nodes.getD []).map WrittenNode.record, records)) := by
    rw [readImport, hfile]
    rfl
  rw [himport]
  constructor
  · constructor
    · rintro ⟨_, h⟩ written hwritten
      obtain ⟨records, hrecords, _⟩ := bind_eq_ok_iff.mp h
      obtain ⟨relationship, hmem, hread⟩ := exists_of_forall₂ hreads hwritten
      obtain ⟨record, _, hrecord⟩ := exists_of_forall₂ (map_eq_map_ok_iff.mp (mapM_eq_ok_iff.mp hrecords)) hmem
      exact (ImportRelationship.exists_toRecord_iff hread).mp ⟨record, hrecord⟩
    · intro hplain
      obtain ⟨records, hrecords⟩ : ∃ records, read.mapM ImportRelationship.toRecord = .ok records := by
        refine exists_mapM_of_forall fun relationship hmem => ?_
        obtain ⟨written, hwritten, hread⟩ := exists_of_forall₂ hreads.flip hmem
        exact (ImportRelationship.exists_toRecord_iff hread).mpr (hplain written hwritten)
      exact ⟨_, bind_eq_ok_iff.mpr ⟨records, hrecords, rfl⟩⟩
  · intro nodes relationships h
    obtain ⟨records, hrecords, heq⟩ := bind_eq_ok_iff.mp h
    cases heq
    have hboth := forall₂_exists_iff.mpr ⟨read, hreads, map_eq_map_ok_iff.mp (mapM_eq_ok_iff.mp hrecords)⟩
    exact ⟨rfl, hboth.imp fun _ _ ⟨_, hread, hrecord⟩ =>
      ImportRelationship.converts_of_toRecord hread hrecord⟩

/-- A document that gives its records as arrays, and one property twice. -/
def listedImport : List UInt8 :=
  "[[[7]],[[7,7,\"KNOWS\",\x7b\"since\":1,\"since\":2,\"note\":null\x7d]]]".toUTF8.toList

/-- Such a document has the shape of an import document, and is converted. -/
theorem readImport_listedImport : ∃ tree document, JsonTree.ofBytes? listedImport = some tree ∧
    IsDocument tree document ∧ (∀ written ∈ document.relationships.getD [], written.IsPlain) ∧
    ∃ nodes relationships, readImport listedImport = .ok (nodes, relationships) ∧
      nodes = (document.nodes.getD []).map WrittenNode.record ∧
        List.Forall₂ Converts (document.relationships.getD []) relationships := by
  have hsome : (JsonTree.ofBytes? listedImport >>= JsonTree.importFile?).isSome = true := by decide +kernel
  have hok : (readImport listedImport).isOk = true := by decide +kernel
  obtain ⟨file, hfile⟩ := Option.isSome_iff_exists.mp hsome
  obtain ⟨tree, htree, hfile⟩ := Option.bind_eq_some_iff.mp hfile
  obtain ⟨document, hdocument, _⟩ := JsonTree.importFile?_eq_some_iff.mp hfile
  obtain ⟨hiff, hrecords⟩ := readImport_of_isDocument htree hdocument
  cases hread : readImport listedImport with
  | error error =>
    rw [hread] at hok
    cases hok
  | ok records =>
    exact ⟨tree, document, htree, hdocument, hiff.mp ⟨_, hread⟩, _, _, rfl, hrecords _ _ hread⟩

end CompactGraph
