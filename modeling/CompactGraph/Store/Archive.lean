/-
# Archives of stored graphs

A stored graph is kept in a file as a mark followed by the records that write the graph again.  Numbers
take eight bytes, the lowest first; texts and lists begin with their length.
-/
import CompactGraph.Store.Tables

namespace CompactGraph

/-- A way to write values as bytes and to read them again.  Reading leaves the bytes that follow. -/
structure ByteForm (α : Type) where
  write : α → List UInt8
  read : List UInt8 → Option (α × List UInt8)

namespace ByteForm

/-! ## Forms of plain values -/

/-- The lowest bytes of a number. -/
def lowBytes : Nat → Nat → List UInt8
  | 0, _ => []
  | width + 1, n => n.toUInt8 :: lowBytes width (n / 256)

/-- The number whose lowest bytes these are. -/
def ofLowBytes : List UInt8 → Nat
  | [] => 0
  | b :: rest => b.toNat + 256 * ofLowBytes rest

/-- A number in eight bytes. -/
def word : ByteForm UInt64 where
  write n := lowBytes 8 n.toNat
  read bytes :=
    if bytes.length < 8 then none
    else some ((ofLowBytes (bytes.take 8)).toUInt64, bytes.drop 8)

/-- Values that a form of other values can stand for. -/
def via {α β : Type} (form : ByteForm α) (toForm : β → α) (ofForm? : α → Option β) : ByteForm β where
  write value := form.write (toForm value)
  read bytes := do
    let (value, rest) ← form.read bytes
    return (← ofForm? value, rest)

/-- One value after another. -/
def pair {α β : Type} (first : ByteForm α) (second : ByteForm β) : ByteForm (α × β) where
  write value := first.write value.1 ++ second.write value.2
  read bytes := do
    let (a, rest) ← first.read bytes
    let (b, rest) ← second.read rest
    return ((a, b), rest)

/-- Read a number of values. -/
def readMany {α : Type} (form : ByteForm α) : Nat → List UInt8 → Option (List α × List UInt8)
  | 0, bytes => some ([], bytes)
  | count + 1, bytes => do
    let (value, rest) ← form.read bytes
    let (values, rest) ← readMany form count rest
    return (value :: values, rest)

/-- A list, which begins with its length. -/
def list {α : Type} (form : ByteForm α) : ByteForm (List α) where
  write values := word.write values.length.toUInt64 ++ values.flatMap form.write
  read bytes := do
    let (count, rest) ← word.read bytes
    readMany form count.toNat rest

/-- A single byte. -/
def byte : ByteForm UInt8 where
  write b := [b]
  read
    | [] => none
    | b :: rest => some (b, rest)

/-- A text in UTF-8. -/
def text : ByteForm String :=
  (list byte).via (fun s => s.toUTF8.toList) fun bytes => String.fromUTF8? ⟨bytes.toArray⟩

/-! ## Forms of records -/

/-- The number of a node. -/
def externalId : ByteForm ExternalId := word.via ExternalId.val fun n => some ⟨n⟩

/-- A property value, after a byte that tells its kind. -/
def propertyValue : ByteForm PropertyValue where
  write
    | .integer value => 0 :: word.write value.toUInt64
    | .float value => 1 :: word.write value.toBits
    | .text value => 2 :: text.write value
    | .boolean value => [3, if value then 1 else 0]
  read
    | 0 :: rest => (word.read rest).map fun (n, rest) => (.integer n.toInt64, rest)
    | 1 :: rest => (word.read rest).map fun (n, rest) => (.float (Float.ofBits n), rest)
    | 2 :: rest => (text.read rest).map fun (s, rest) => (.text s, rest)
    | 3 :: b :: rest => some (.boolean (b ≠ 0), rest)
    | _ => none

/-- A node. -/
def nodeRecord : ByteForm NodeRecord :=
  (externalId.pair (list text)).via (fun record => (record.id, record.labels))
    fun (id, labels) => some { id, labels }

/-- A relationship. -/
def relationshipRecord : ByteForm RelationshipRecord :=
  ((externalId.pair externalId).pair (text.pair (list (text.pair propertyValue)))).via
    (fun record => ((record.source, record.target), (record.type, record.properties.entries)))
    fun ((source, target), (type, entries)) =>
      some { source, target, type, properties := Properties.ofList entries }

end ByteForm

namespace Tables

/-- The first bytes of an archive; they are not text. -/
def archiveMark : List UInt8 := [0x72, 0x65, 0x64, 0x62, 0x1A, 0x0A, 0xA9, 0x0D, 0x0A]

/-- The records of an archive. -/
def archiveForm : ByteForm (List NodeRecord × List RelationshipRecord) :=
  (ByteForm.list .nodeRecord).pair (ByteForm.list .relationshipRecord)

/-- The archive of a stored graph. -/
def archive (tables : Tables) : List UInt8 :=
  archiveMark ++ archiveForm.write (tables.nodeRecords, tables.relationshipRecords)

/-- The stored graph that an archive holds, if the bytes are an archive and nothing else. -/
def ofArchive? (bytes : List UInt8) : Option Tables :=
  if archiveMark.isPrefixOf bytes then
    match archiveForm.read (bytes.drop archiveMark.length) with
    | some ((nodes, relationships), []) => (empty.writeBatch nodes relationships).toOption
    | _ => none
  else none

end Tables

end CompactGraph
