/-
# The shape of import documents

What a JSON document has to look like to be an import file, said of the document as it is written: which
fields a record has (`HasFields`), and which nodes and relationships stand in the document, in its order
(`IsNode`, `IsRelationship`, `IsDocument`).  The reader accepts exactly the documents of that shape
(`JsonTree.importFile?_eq_some_iff`).
-/
import CompactGraph.Import.ImportFile
import CompactGraph.Proofs.Outcomes

namespace CompactGraph

/-! ## Lists that are read -/

section Lists

variable {α β : Type}

/-- What is in a list that may be missing is in a list that is there. -/
theorem exists_of_mem_getD {relates : α → List β → Prop} {field : Option α} {written : Option (List β)}
    (h : Option.Rel relates field written) {b : β} (hb : b ∈ written.getD []) :
    ∃ a items, relates a items ∧ b ∈ items := by
  cases h with
  | none => cases hb
  | some hrelates => exact ⟨_, _, hrelates, hb⟩

end Lists

/-! ## Fields of a record -/

/-- A member of an object stands under the text of its key. -/
def IsMember (member : List UInt8 × JsonTree) (named : String × JsonTree) : Prop :=
  JsonText.decode? member.1 = some named.1 ∧ member.2 = named.2

/-- The members with names that are known. -/
def knownMembers (known : List String) (named : List (String × JsonTree)) : List (String × JsonTree) :=
  named.filter fun member => known.contains member.1

theorem reverse_knownMembers_cons {known : List String} {member : String × JsonTree}
    (h : member.1 ∈ known) (named found : List (String × JsonTree)) :
    (knownMembers known (member :: named)).reverse ++ found =
      (knownMembers known named).reverse ++ member :: found := by
  rw [knownMembers, List.filter_cons_of_pos (by simpa using h), List.reverse_cons, List.append_assoc]
  rfl

theorem knownMembers_cons_of_notMem {known : List String} {member : String × JsonTree}
    (h : member.1 ∉ known) (named : List (String × JsonTree)) :
    knownMembers known (member :: named) = knownMembers known named :=
  List.filter_cons_of_neg (by simpa using h)

/-- The known fields of a record: members of an object, none of them twice, or the elements of an array in
the order of the names.  Only an open record has other members. -/
inductive HasFields (known : List String) (isOpen : Bool) : JsonTree → List (String × JsonTree) → Prop
  | object {members : List (List UInt8 × JsonTree)} {named : List (String × JsonTree)}
      (hmembers : List.Forall₂ IsMember members named)
      (hknown : isOpen = false → ∀ member ∈ named, member.1 ∈ known)
      (honce : ((knownMembers known named).map Prod.fst).Nodup) :
      HasFields known isOpen (.object members) (knownMembers known named)
  | array {elements : List JsonTree} (hlength : elements.length ≤ known.length) :
      HasFields known isOpen (.array elements) (known.zip elements)

namespace JsonTree

variable {known : List String} {isOpen : Bool}

/-- A field is added unless its name occurs twice or is not expected. -/
theorem addField?_eq_some_iff {found next : List (String × JsonTree)} {member : List UInt8 × JsonTree} :
    addField? known isOpen found member = some next ↔ ∃ named, IsMember member named ∧
      ((named.1 ∉ known ∧ isOpen = true ∧ next = found) ∨
        (named.1 ∈ known ∧ named.1 ∉ found.map Prod.fst ∧ next = named :: found)) := by
  cases hkey : JsonText.decode? member.1 with
  | none => simp [addField?, IsMember, hkey]
  | some name =>
    have hadd : addField? known isOpen found member = some next ↔
        ((name ∉ known ∧ isOpen = true ∧ next = found) ∨
          (name ∈ known ∧ name ∉ found.map Prod.fst ∧ next = (name, member.2) :: found)) := by
      have hthere : (found.any fun field => field.1 == name) = true ↔ name ∈ found.map Prod.fst := by
        simp
      rw [addField?, hkey, Option.bind_eq_bind, Option.bind_some]
      by_cases hknown : name ∈ known
      · by_cases hfound : name ∈ found.map Prod.fst
        · simp [hknown, hthere.mpr hfound, hfound]
        · simp [hknown, mt hthere.mp hfound, hfound, @eq_comm _ _ next]
      · cases isOpen <;> simp [hknown, @eq_comm _ found next]
    rw [hadd]
    constructor
    · exact fun h => ⟨(name, member.2), ⟨hkey, rfl⟩, h⟩
    · rintro ⟨⟨_, _⟩, ⟨hname, rfl⟩, h⟩
      obtain rfl := Option.some.inj (hkey.symm.trans hname)
      exact h

/-- Adding the members of an object one after the other. -/
theorem foldlM_addField?_eq_some_iff {members : List (List UInt8 × JsonTree)} :
    ∀ {found fields : List (String × JsonTree)}, (found.map Prod.fst).Nodup →
      (members.foldlM (addField? known isOpen) found = some fields ↔
        ∃ named, List.Forall₂ IsMember members named ∧
          (isOpen = false → ∀ member ∈ named, member.1 ∈ known) ∧
          (((knownMembers known named).reverse ++ found).map Prod.fst).Nodup ∧
          fields = (knownMembers known named).reverse ++ found) := by
  induction members with
  | nil =>
    intro found fields hfound
    simp [knownMembers, hfound, eq_comm]
  | cons member members ih =>
    intro found fields hfound
    rw [List.foldlM_cons, Option.bind_eq_bind, Option.bind_eq_some_iff]
    constructor
    · rintro ⟨next, hnext, h⟩
      obtain ⟨named, hmember, ⟨hunknown, hopen, rfl⟩ | ⟨hknown, hnew, rfl⟩⟩ := addField?_eq_some_iff.mp hnext
      · obtain ⟨rest, hrest, hall, hnodup, rfl⟩ := (ih hfound).mp h
        rw [← knownMembers_cons_of_notMem hunknown] at hnodup ⊢
        refine ⟨named :: rest, .cons hmember hrest, fun hclosed => ?_, hnodup, rfl⟩
        rw [hopen] at hclosed
        cases hclosed
      · have hnext' : ((named :: found).map Prod.fst).Nodup := List.nodup_cons.mpr ⟨hnew, hfound⟩
        obtain ⟨rest, hrest, hall, hnodup, rfl⟩ := (ih hnext').mp h
        rw [← reverse_knownMembers_cons hknown] at hnodup ⊢
        exact ⟨named :: rest, .cons hmember hrest,
          fun hclosed => List.forall_mem_cons.mpr ⟨hknown, hall hclosed⟩, hnodup, rfl⟩
    · rintro ⟨_, hmembers, hall, hnodup, rfl⟩
      obtain ⟨named, rest, hmember, hrest, rfl⟩ := List.forall₂_cons_left_iff.mp hmembers
      have hall' : isOpen = false → ∀ member ∈ rest, member.1 ∈ known :=
        fun hclosed => (List.forall_mem_cons.mp (hall hclosed)).2
      by_cases hknown : named.1 ∈ known
      · rw [reverse_knownMembers_cons hknown] at hnodup ⊢
        have hnext : ((named :: found).map Prod.fst).Nodup := by
          rw [List.map_append] at hnodup
          exact hnodup.of_append_right
        exact ⟨named :: found,
          addField?_eq_some_iff.mpr ⟨named, hmember, .inr ⟨hknown, (List.nodup_cons.mp hnext).1, rfl⟩⟩,
          (ih hnext).mpr ⟨rest, hrest, hall', hnodup, rfl⟩⟩
      · rw [knownMembers_cons_of_notMem hknown] at hnodup ⊢
        have hopen : isOpen = true := by
          by_contra hclosed
          exact hknown ((List.forall_mem_cons.mp (hall (Bool.eq_false_iff.mpr hclosed))).1)
        exact ⟨found, addField?_eq_some_iff.mpr ⟨named, hmember, .inl ⟨hknown, hopen, rfl⟩⟩,
          (ih hfound).mpr ⟨rest, hrest, hall', hnodup, rfl⟩⟩

/-- The order of fields does not matter to looking them up if none occurs twice. -/
theorem lookup_reverse {α : Type} {entries : List (String × α)} (h : (entries.map Prod.fst).Nodup)
    (name : String) : entries.reverse.lookup name = entries.lookup name := by
  induction entries with
  | nil => rfl
  | cons entry entries ih =>
    obtain ⟨other, value⟩ := entry
    obtain ⟨hnew, hrest⟩ := List.nodup_cons.mp h
    rw [List.reverse_cons, List.lookup_append, ih hrest]
    simp only [List.lookup_cons, List.lookup_nil]
    cases hname : name == other with
    | false => simp
    | true =>
      obtain rfl := eq_of_beq hname
      have hnone : entries.lookup name = none := by
        rw [List.lookup_eq_none_iff]
        intro other hother
        exact bne_iff_ne.mpr fun heq => hnew (List.mem_map.mpr ⟨other, hother, heq.symm⟩)
      simp [hnone]

/-- **The fields of a record** are found if it has some, and only then. -/
theorem exists_fields_iff (suits : (String → Option JsonTree) → Prop) {tree : JsonTree} :
    (∃ found, tree.fields? known isOpen = some found ∧ suits fun name => found.lookup name) ↔
      ∃ fields, HasFields known isOpen tree fields ∧ suits fun name => fields.lookup name := by
  have hempty : (([] : List (String × JsonTree)).map Prod.fst).Nodup := List.nodup_nil
  constructor
  · rintro ⟨found, hfound, hsuits⟩
    cases tree with
    | object members =>
      obtain ⟨named, hmembers, hall, hnodup, rfl⟩ := (foldlM_addField?_eq_some_iff hempty).mp hfound
      rw [List.append_nil] at hsuits hnodup
      rw [List.map_reverse, List.nodup_reverse] at hnodup
      simp only [lookup_reverse hnodup] at hsuits
      exact ⟨_, .object hmembers hall hnodup, hsuits⟩
    | array elements =>
      obtain ⟨hlength, heq⟩ := Option.ite_none_right_eq_some.mp hfound
      obtain rfl := Option.some.inj heq
      exact ⟨_, .array hlength, hsuits⟩
    | null | boolean | number | text => cases hfound
  · rintro ⟨fields, hfields, hsuits⟩
    cases hfields with
    | @object members named hmembers hall hnodup =>
      refine ⟨(knownMembers known named).reverse, ?_, ?_⟩
      · refine (foldlM_addField?_eq_some_iff hempty).mpr ⟨named, hmembers, hall, ?_, ?_⟩
        · rw [List.append_nil, List.map_reverse, List.nodup_reverse]
          exact hnodup
        · rw [List.append_nil]
      · simpa only [lookup_reverse hnodup] using hsuits
    | array hlength => exact ⟨_, if_pos hlength, hsuits⟩

end JsonTree

/-! ## The shape of a document -/

/-- A node as it is written: it may have no labels. -/
structure WrittenNode where
  id : ExternalId
  labels : Option (List String)

/-- A relationship as it is written: it may have no properties.  Of equal names each is still there. -/
structure WrittenRelationship where
  source : ExternalId
  target : ExternalId
  type : String
  properties : Option (List (String × JsonTree))

/-- An import document: either of its lists may be missing. -/
structure WrittenDocument where
  nodes : Option (List WrittenNode)
  relationships : Option (List WrittenRelationship)

/-- A list, each element of which stands for an item. -/
def IsList {α : Type} (relates : JsonTree → α → Prop) (tree : JsonTree) (items : List α) : Prop :=
  ∃ elements, tree = .array elements ∧ List.Forall₂ relates elements items

/-- A record, the fields of which stand for something. -/
def IsRecord {α : Type} (known : List String) (isOpen : Bool)
    (relates : (String → Option JsonTree) → α → Prop) (tree : JsonTree) (a : α) : Prop :=
  ∃ fields, HasFields known isOpen tree fields ∧ relates (fun name => fields.lookup name) a

/-- The fields of a node. -/
structure NodeFields (field : String → Option JsonTree) (node : WrittenNode) : Prop where
  id : (field "id").bind JsonTree.id? = some node.id
  labels : Option.Rel (IsList fun tree label => tree.text? = some label) (field "labels") node.labels

/-- A node may have fields that are not known. -/
def IsNode : JsonTree → WrittenNode → Prop := IsRecord ["id", "labels"] true NodeFields

/-- The value of a property, as far as it can be read: numbers are in range, strings are text, and nothing
is nested too deeply. -/
def propertyValue? (tree : JsonTree) : Option JsonValue := JsonValue.ofTree? (JsonTree.maxDepth - 4) tree

/-- Properties are the members of an object. -/
def IsProperties (tree : JsonTree) (properties : List (String × JsonTree)) : Prop :=
  ∃ members, tree = .object members ∧ List.Forall₂ IsMember members properties ∧
    ∀ property ∈ properties, ∃ value, propertyValue? property.2 = some value

/-- The fields of a relationship. -/
structure RelationshipFields (field : String → Option JsonTree) (relationship : WrittenRelationship) :
    Prop where
  source : (field "source").bind JsonTree.id? = some relationship.source
  target : (field "target").bind JsonTree.id? = some relationship.target
  type : (field "type").bind JsonTree.text? = some relationship.type
  properties : Option.Rel IsProperties (field "properties") relationship.properties

/-- A relationship has no other fields. -/
def IsRelationship : JsonTree → WrittenRelationship → Prop :=
  IsRecord ["source", "target", "type", "properties"] false RelationshipFields

/-- The fields of a document. -/
structure DocumentFields (field : String → Option JsonTree) (document : WrittenDocument) : Prop where
  nodes : Option.Rel (IsList IsNode) (field "nodes") document.nodes
  relationships : Option.Rel (IsList IsRelationship) (field "relationships") document.relationships

/-- **The shape of an import document.** -/
def IsDocument : JsonTree → WrittenDocument → Prop :=
  IsRecord ["nodes", "relationships"] false DocumentFields

/-! ## What is read -/

/-- The node that is read: without labels it has the empty list of them. -/
def WrittenNode.record (node : WrittenNode) : NodeRecord := { id := node.id, labels := node.labels.getD [] }

/-- The properties of a relationship as they are written, in their order. -/
def WrittenRelationship.members (relationship : WrittenRelationship) : List (String × JsonTree) :=
  relationship.properties.getD []

/-- The relationship that is read: it has the values of the properties, under their names. -/
structure ReadsAs (written : WrittenRelationship) (relationship : ImportRelationship) : Prop where
  source : relationship.source = written.source
  target : relationship.target = written.target
  type : relationship.type = written.type
  properties : List.Forall₂ (fun member property => property.1 = member.1 ∧
    propertyValue? member.2 = some property.2) written.members relationship.properties

namespace JsonTree

section Parts

variable {α β : Type} {found : List (String × JsonTree)} {name : String} {tree : JsonTree}
  {reads : β → α → Prop}

/-- The elements of an array, each of which is read as what it stands for. -/
theorem elements?_eq_some_iff {read : JsonTree → Option α} {relates : JsonTree → β → Prop}
    (hread : ∀ tree a, read tree = some a ↔ ∃ b, relates tree b ∧ reads b a) (tree : JsonTree)
    (items : List α) : elements? read tree = some items ↔
      ∃ written, IsList relates tree written ∧ List.Forall₂ reads written items := by
  cases tree with
  | array elements =>
    rw [elements?, mapM_eq_some_iff]
    simp only [hread, forall₂_exists_iff]
    constructor
    · rintro ⟨written, hwritten, hreads⟩
      exact ⟨written, ⟨elements, rfl, hwritten⟩, hreads⟩
    · rintro ⟨written, ⟨_, heq, hwritten⟩, hreads⟩
      cases heq
      exact ⟨written, hwritten, hreads⟩
  | null | boolean | number | text | object =>
    refine iff_of_false (fun h => nomatch h) ?_
    rintro ⟨_, ⟨_, heq, _⟩, _⟩
    cases heq

/-- A list that may be missing is read as what it stands for, or as the empty one. -/
theorem optional?_eq_some_iff {read : JsonTree → Option (List α)} {relates : JsonTree → List β → Prop}
    (hread : ∀ tree items, read tree = some items ↔
      ∃ written, relates tree written ∧ List.Forall₂ reads written items) {items : List α} :
    optional? found name [] read = some items ↔ ∃ written,
      Option.Rel relates (found.lookup name) written ∧ List.Forall₂ reads (written.getD []) items := by
  rw [optional?]
  cases found.lookup name with
  | none =>
    constructor
    · intro h
      obtain rfl := Option.some.inj h
      exact ⟨none, .none, .nil⟩
    · rintro ⟨_, hnone, hreads⟩
      cases hnone
      cases hreads
      rfl
  | some tree =>
    refine (hread tree items).trans ?_
    constructor
    · rintro ⟨written, hwritten, hreads⟩
      exact ⟨some written, .some hwritten, hreads⟩
    · rintro ⟨_, hsome, hreads⟩
      cases hsome with
      | some hwritten => exact ⟨_, hwritten, hreads⟩

/-- A record is read as what its fields stand for. -/
theorem exists_record_iff {known : List String} {isOpen : Bool}
    {relates : (String → Option JsonTree) → β → Prop} {suits : β → Prop} :
    (∃ found, tree.fields? known isOpen = some found ∧
        ∃ written, relates (fun name => found.lookup name) written ∧ suits written) ↔
      ∃ written, IsRecord known isOpen relates tree written ∧ suits written := by
  rw [exists_fields_iff fun field => ∃ written, relates field written ∧ suits written]
  constructor
  · rintro ⟨fields, hfields, written, hwritten, hsuits⟩
    exact ⟨written, ⟨fields, hfields, hwritten⟩, hsuits⟩
  · rintro ⟨written, ⟨fields, hfields, hwritten⟩, hsuits⟩
    exact ⟨fields, hfields, written, hwritten, hsuits⟩

end Parts

theorem node?_eq_some_iff (tree : JsonTree) (node : NodeRecord) :
    tree.node? = some node ↔ ∃ written, IsNode tree written ∧ written.record = node := by
  have htext : ∀ (tree : JsonTree) (text : String),
      tree.text? = some text ↔ ∃ label, tree.text? = some label ∧ label = text := by simp
  rw [IsNode, ← exists_record_iff, node?, Option.bind_eq_bind, Option.bind_eq_some_iff]
  refine exists_congr fun found => and_congr_right fun _ => ?_
  constructor
  · intro h
    obtain ⟨id, hid, h⟩ := Option.bind_eq_some_iff.mp h
    obtain ⟨labels, hlabels, h⟩ := Option.bind_eq_some_iff.mp h
    obtain rfl := Option.some.inj h
    obtain ⟨written, hwritten, hread⟩ := (optional?_eq_some_iff (elements?_eq_some_iff htext)).mp hlabels
    rw [List.forall₂_eq_eq_eq] at hread
    exact ⟨⟨id, written⟩, ⟨hid, hwritten⟩, by rw [WrittenNode.record, hread]⟩
  · rintro ⟨written, ⟨hid, hlabels⟩, rfl⟩
    refine Option.bind_eq_some_iff.mpr ⟨_, hid, Option.bind_eq_some_iff.mpr ⟨_,
      (optional?_eq_some_iff (elements?_eq_some_iff htext)).mpr ⟨_, hlabels, ?_⟩, rfl⟩⟩
    rw [List.forall₂_eq_eq_eq]

theorem ofMembers?_eq_some_iff {depth : Nat} {members : List (List UInt8 × JsonTree)}
    {properties : List (String × JsonValue)} :
    JsonValue.ofMembers? depth members = some properties ↔ ∃ written,
      List.Forall₂ IsMember members written ∧ List.Forall₂ (fun member property =>
        property.1 = member.1 ∧ JsonValue.ofTree? depth member.2 = some property.2) written properties := by
  rw [← forall₂_exists_iff]
  induction members generalizing properties with
  | nil => simp [JsonValue.ofMembers?, eq_comm]
  | cons member members ih =>
    obtain ⟨key, tree⟩ := member
    rw [List.forall₂_cons_left_iff, JsonValue.ofMembers?, Option.bind_eq_bind, Option.bind_eq_some_iff]
    constructor
    · rintro ⟨name, hname, h⟩
      obtain ⟨value, hvalue, h⟩ := Option.bind_eq_some_iff.mp h
      obtain ⟨rest, hrest, h⟩ := Option.bind_eq_some_iff.mp h
      exact ⟨(name, value), rest, ⟨(name, tree), ⟨hname, rfl⟩, rfl, hvalue⟩, ih.mp hrest,
        (Option.some.inj h).symm⟩
    · rintro ⟨⟨_, value⟩, rest, ⟨⟨name, _⟩, ⟨hname, rfl⟩, rfl, hvalue⟩, hrest, rfl⟩
      refine ⟨_, hname, Option.bind_eq_some_iff.mpr ⟨value, hvalue, ?_⟩⟩
      exact Option.bind_eq_some_iff.mpr ⟨rest, ih.mpr hrest, rfl⟩

theorem properties?_eq_some_iff (tree : JsonTree) (properties : List (String × JsonValue)) :
    tree.properties? = some properties ↔ ∃ written, IsProperties tree written ∧
      List.Forall₂ (fun member property => property.1 = member.1 ∧
        propertyValue? member.2 = some property.2) written properties := by
  cases tree with
  | object members =>
    rw [properties?, ofMembers?_eq_some_iff]
    constructor
    · rintro ⟨written, hwritten, hread⟩
      refine ⟨written, ⟨members, rfl, hwritten, fun member hmember => ?_⟩, hread⟩
      obtain ⟨property, _, _, hvalue⟩ := exists_of_forall₂ hread hmember
      exact ⟨property.2, hvalue⟩
    · rintro ⟨written, ⟨_, heq, hwritten, _⟩, hread⟩
      cases heq
      exact ⟨written, hwritten, hread⟩
  | null | boolean | number | text | array =>
    refine iff_of_false (fun h => nomatch h) ?_
    rintro ⟨_, ⟨_, heq, _⟩, _⟩
    cases heq

theorem relationship?_eq_some_iff (tree : JsonTree) (relationship : ImportRelationship) :
    tree.relationship? = some relationship ↔
      ∃ written, IsRelationship tree written ∧ ReadsAs written relationship := by
  rw [IsRelationship, ← exists_record_iff, relationship?, Option.bind_eq_bind, Option.bind_eq_some_iff]
  refine exists_congr fun found => and_congr_right fun _ => ?_
  constructor
  · intro h
    obtain ⟨source, hsource, h⟩ := Option.bind_eq_some_iff.mp h
    obtain ⟨target, htarget, h⟩ := Option.bind_eq_some_iff.mp h
    obtain ⟨type, htype, h⟩ := Option.bind_eq_some_iff.mp h
    obtain ⟨properties, hproperties, h⟩ := Option.bind_eq_some_iff.mp h
    obtain rfl := Option.some.inj h
    obtain ⟨written, hwritten, hread⟩ := (optional?_eq_some_iff properties?_eq_some_iff).mp hproperties
    exact ⟨⟨source, target, type, written⟩, ⟨hsource, htarget, htype, hwritten⟩, rfl, rfl, rfl, hread⟩
  · rintro ⟨written, ⟨hsource, htarget, htype, hproperties⟩, hread⟩
    obtain ⟨source, target, type, properties⟩ := relationship
    obtain ⟨rfl, rfl, rfl, hread⟩ := hread
    refine Option.bind_eq_some_iff.mpr ⟨_, hsource, Option.bind_eq_some_iff.mpr ⟨_, htarget,
      Option.bind_eq_some_iff.mpr ⟨_, htype, Option.bind_eq_some_iff.mpr ⟨properties, ?_, rfl⟩⟩⟩⟩
    exact (optional?_eq_some_iff properties?_eq_some_iff).mpr ⟨_, hproperties, hread⟩

/-- **The reader accepts** exactly the documents of the shape of import documents. -/
theorem importFile?_eq_some_iff {tree : JsonTree} {file : ImportFile} :
    tree.importFile? = some file ↔ ∃ document, IsDocument tree document ∧
      (document.nodes.getD []).map WrittenNode.record = file.nodes ∧
      List.Forall₂ ReadsAs (document.relationships.getD []) file.relationships := by
  have hmap : ∀ {written : List WrittenNode} {nodes : List NodeRecord},
      List.Forall₂ (fun written node => written.record = node) written nodes ↔
        written.map WrittenNode.record = nodes := by
    intro written nodes
    rw [← List.forall₂_map_left_iff, List.forall₂_eq_eq_eq]
  rw [IsDocument, ← exists_record_iff, importFile?, Option.bind_eq_bind, Option.bind_eq_some_iff]
  refine exists_congr fun found => and_congr_right fun _ => ?_
  constructor
  · intro h
    obtain ⟨nodes, hnodes, h⟩ := Option.bind_eq_some_iff.mp h
    obtain ⟨relationships, hrelationships, h⟩ := Option.bind_eq_some_iff.mp h
    obtain rfl := Option.some.inj h
    obtain ⟨nodes, hnodes, hread⟩ :=
      (optional?_eq_some_iff (elements?_eq_some_iff node?_eq_some_iff)).mp hnodes
    obtain ⟨relationships, hrelationships, hread'⟩ :=
      (optional?_eq_some_iff (elements?_eq_some_iff relationship?_eq_some_iff)).mp hrelationships
    exact ⟨⟨nodes, relationships⟩, ⟨hnodes, hrelationships⟩, hmap.mp hread, hread'⟩
  · rintro ⟨document, ⟨hnodes, hrelationships⟩, hread, hread'⟩
    refine Option.bind_eq_some_iff.mpr ⟨file.nodes, ?_, Option.bind_eq_some_iff.mpr ⟨file.relationships, ?_, rfl⟩⟩
    · exact (optional?_eq_some_iff (elements?_eq_some_iff node?_eq_some_iff)).mpr
        ⟨_, hnodes, hmap.mpr hread⟩
    · exact (optional?_eq_some_iff (elements?_eq_some_iff relationship?_eq_some_iff)).mpr
        ⟨_, hrelationships, hread'⟩

end JsonTree

end CompactGraph
