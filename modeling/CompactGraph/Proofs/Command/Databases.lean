/-
# Which commands change a database

A database is what inits and imports have made of it.  An init that succeeds leaves an empty graph, an import
that succeeds adds the records of its file, and any other command leaves the disk as it was, whether it only
looks at the database or fails (`Turn.Effect`).  So what is stored after a sequence of commands is told by the
last init that has succeeded and the imports after it (`databases_replay_imports`).
-/
import CompactGraph.Proofs.Command.Actions

namespace CompactGraph

/-! ## One command -/

/-- A command line that is carried out on a disk, however long that takes. -/
structure Turn where
  line : CommandLine
  machine : Nat
  disk : Disk
  clock : Clock := .swift

namespace Turn

/-- What the command leaves behind. -/
def outcome (turn : Turn) : Outcome := turn.line.run turn.machine turn.disk turn.clock

/-- Whether the command succeeds. -/
def Succeeds (turn : Turn) : Prop := turn.outcome.exitCode = 0

instance (turn : Turn) : Decidable turn.Succeeds := inferInstanceAs (Decidable (_ = _))

/-- Whether the command is an init that succeeds. -/
def Initializes (turn : Turn) : Prop := turn.Succeeds ∧ ∃ force, turn.line.command = .init force

/-- The records that the command writes: those in its file, if it is an import that succeeds. -/
def written? (turn : Turn) : Option (List NodeRecord × List RelationshipRecord) :=
  match turn.line.command with
  | .importRecords file =>
    if turn.Succeeds then (Session.recordsOf turn.disk file).toOption else none
  | _ => none

/-- What a command does. -/
inductive Effect (turn : Turn) : Prop where
  | created {force : Bool} (hcommand : turn.line.command = .init force) (hsucceeds : turn.Succeeds)
      (hnames : PathText.NamesFile turn.line.database)
      (hfind : turn.outcome.disk.find turn.line.database = .ok (.database .empty))
      (htree : turn.outcome.disk.IsTree)
  | imported {file : String} {records : List NodeRecord × List RelationshipRecord}
      {former next : Tables} (hcommand : turn.line.command = .importRecords file)
      (hsucceeds : turn.Succeeds) (hrecords : Session.recordsOf turn.disk file = .ok records)
      (hformer : turn.disk.find turn.line.database = .ok (.database former))
      (hnext : former.writeBatch records.1 records.2 = .ok next)
      (hdisk : turn.outcome.disk = turn.disk.write turn.line.database (.database next))
      (hfind : turn.outcome.disk.find turn.line.database = .ok (.database next))
  | idle (hdisk : turn.outcome.disk = turn.disk)
      (hidle : turn.Succeeds → (∀ force, turn.line.command ≠ .init force) ∧
        ∀ file, turn.line.command ≠ .importRecords file)

variable {turn : Turn}

/-- A command leaves what its action leaves, and succeeds if its action does. -/
theorem outcome_eq (turn : Turn) :
    turn.outcome.disk = (Session.ending
        (Session.perform turn.machine turn.clock turn.line { disk := turn.disk })).2 ∧
      (turn.Succeeds ↔ (Session.ending
        (Session.perform turn.machine turn.clock turn.line { disk := turn.disk })).1 = true) := by
  unfold Succeeds outcome CommandLine.run
  cases Session.perform turn.machine turn.clock turn.line { disk := turn.disk } with
  | ok printout session => exact ⟨rfl, iff_of_true rfl rfl⟩
  | error error session => exact ⟨rfl, iff_of_false nofun nofun⟩

theorem outcome_init {force : Bool} (hcommand : turn.line.command = .init force) :
    turn.outcome.disk = (Session.ending (Session.init turn.line.database force { disk := turn.disk })).2 ∧
      (turn.Succeeds ↔
        (Session.ending (Session.init turn.line.database force { disk := turn.disk })).1 = true) := by
  have hperform : Session.perform turn.machine turn.clock turn.line
      = Session.init turn.line.database force := by
    unfold Session.perform
    rw [hcommand]
  exact hperform ▸ turn.outcome_eq

theorem outcome_import {file : String} (hcommand : turn.line.command = .importRecords file) :
    turn.outcome.disk
        = (Session.ending (Session.importRecords turn.line.database file { disk := turn.disk })).2 ∧
      (turn.Succeeds ↔
        (Session.ending (Session.importRecords turn.line.database file { disk := turn.disk })).1 = true) := by
  have hperform : Session.ending (Session.perform turn.machine turn.clock turn.line { disk := turn.disk })
      = Session.ending (Session.importRecords turn.line.database file { disk := turn.disk }) := by
    unfold Session.perform
    rw [hcommand]
    exact Session.ending_map _ _ _
  exact hperform ▸ turn.outcome_eq

/-- An import that succeeds writes the records of its file. -/
theorem written?_of_import {file : String} {records : List NodeRecord × List RelationshipRecord}
    (hcommand : turn.line.command = .importRecords file) (hsucceeds : turn.Succeeds)
    (hrecords : Session.recordsOf turn.disk file = .ok records) : turn.written? = some records := by
  unfold written?
  rw [hcommand]
  dsimp only
  rw [if_pos hsucceeds, hrecords]
  rfl

/-- **Each command** stores an empty graph, or writes the records of a file, or leaves the disk alone. -/
theorem effect (hkept : turn.disk.Kept turn.line.database) (htree : turn.disk.IsTree) : turn.Effect := by
  cases hcommand : turn.line.command with
  | init force =>
    obtain ⟨hdisk, hsucceeds⟩ := outcome_init hcommand
    rcases Session.ending_init_cases hkept htree force with hfails | ⟨hnames, hok, hfind, hafter⟩
    · rw [hfails] at hdisk hsucceeds
      exact .idle hdisk fun hown => nomatch hsucceeds.mp hown
    · exact .created hcommand (hsucceeds.mpr hok) hnames (hdisk ▸ hfind) (hdisk ▸ hafter)
  | importRecords file =>
    obtain ⟨hdisk, hsucceeds⟩ := outcome_import hcommand
    rcases Session.ending_import_cases hkept file with
      hfails | ⟨records, former, next, hrecords, hformer, hnext, hok⟩
    · rw [hfails] at hdisk hsucceeds
      exact .idle hdisk fun hown => nomatch hsucceeds.mp hown
    · rw [hok] at hdisk hsucceeds
      exact .imported hcommand (hsucceeds.mpr rfl) hrecords hformer hnext hdisk
        (hdisk ▸ hkept.find_write hformer next)
  | _ =>
    have hinit : ∀ force, turn.line.command ≠ .init force := by
      rw [hcommand]
      exact nofun
    have himport : ∀ file, turn.line.command ≠ .importRecords file := by
      rw [hcommand]
      exact nofun
    have hdisk := turn.outcome_eq.1
    rw [Session.onlyLooks_perform hkept.onlyLooks_openExisting rfl hinit himport _ rfl] at hdisk
    exact .idle hdisk fun _ => ⟨hinit, himport⟩

/-- What a command leaves alone. -/
structure Spares (turn : Turn) : Prop where
  /-- A command that fails changes nothing. -/
  failed : ¬turn.Succeeds → turn.outcome.disk = turn.disk
  /-- Neither does a command that only looks at the database. -/
  looked : (∀ force, turn.line.command ≠ .init force) →
    (∀ file, turn.line.command ≠ .importRecords file) → turn.outcome.disk = turn.disk
  /-- No command but an init makes a file, or a database of something else. -/
  made : (∀ force, turn.line.command ≠ .init force) → ∀ path,
    turn.outcome.disk.find path = turn.disk.find path ∨ ∃ former next,
      turn.disk.find path = .ok (.database former) ∧ turn.outcome.disk.find path = .ok (.database next)
  /-- An import fails if its file is flawed, or if there is nothing to import into. -/
  refused : ∀ file, turn.line.command = .importRecords file →
    (∀ bytes stored, turn.disk.readFile file Session.maxImportSize = .ok bytes →
      turn.disk.find turn.line.database = .ok (.database stored) → Flawed stored bytes) →
    ¬turn.Succeeds

theorem Effect.spares (h : turn.Effect) (hkept : turn.disk.Kept turn.line.database) : turn.Spares := by
  cases h with
  | created hcommand hsucceeds _ _ _ =>
    refine ⟨fun hfails => absurd hsucceeds hfails, fun hinit _ => absurd hcommand (hinit _),
      fun hinit => absurd hcommand (hinit _), fun file hfile => ?_⟩
    rw [hcommand] at hfile
    cases hfile
  | @imported own records former next hcommand hsucceeds hrecords hformer hnext hdisk _ =>
    refine ⟨fun hfails => absurd hsucceeds hfails, fun _ himport => absurd hcommand (himport _),
      fun _ path => ?_, fun file hfile hflawed => ?_⟩
    · have hnext : DiskEntry.database next ≠ .directory := nofun
      rw [hdisk]
      rcases Disk.find_overwrite hformer nofun hnext path with hsame | hchanged
      · exact .inl hsame
      · exact .inr ⟨former, next, hchanged⟩
    · rw [hcommand] at hfile
      cases hfile
      obtain ⟨bytes, hbytes, hread⟩ := bind_eq_ok_iff.mp hrecords
      have hlinked := (hkept.of_find hformer).1
      exact absurd hnext ((hflawed bytes former hbytes hformer).refused hlinked hread next)
  | idle hdisk hidle =>
    refine ⟨fun _ => hdisk, fun _ _ => hdisk, fun _ path => .inl (hdisk ▸ rfl), fun file hfile _ hsucceeds => ?_⟩
    exact absurd hfile ((hidle hsucceeds).2 file)

/-- **What commands leave stays so.** -/
theorem Effect.kept (h : turn.Effect) (hkept : turn.disk.Kept turn.line.database) :
    turn.outcome.disk.Kept turn.line.database := by
  cases h with
  | created _ _ hnames hfind _ => exact .stored hfind Tables.linked_empty hnames
  | imported _ _ _ hformer hnext _ hfind =>
    obtain ⟨hlinked, hnames⟩ := hkept.of_find hformer
    exact .stored hfind (hlinked.writeBatch hnext) hnames
  | idle hdisk _ => exact hdisk ▸ hkept

/-- A command leaves a tree. -/
theorem Effect.isTree (h : turn.Effect) (hkept : turn.disk.Kept turn.line.database)
    (htree : turn.disk.IsTree) : turn.outcome.disk.IsTree := by
  cases h with
  | created _ _ _ _ hafter => exact hafter
  | imported _ _ _ hformer _ hdisk _ =>
    have hdirectory : turn.disk.find turn.line.database ≠ .ok .directory := by
      rw [hformer]
      exact nofun
    have hplace := Disk.checkPlace_of_find (hkept.of_find hformer).2 hformer
    exact hdisk ▸ htree.write hplace hdirectory _
  | idle hdisk _ => exact hdisk ▸ htree

end Turn

/-! ## Batches -/

/-- Write batches of records, one after another. -/
def Tables.writeBatches (tables : Tables) (batches : List (List NodeRecord × List RelationshipRecord)) :
    Except LoadError Tables :=
  batches.foldlM (fun tables batch => tables.writeBatch batch.1 batch.2) tables

theorem Tables.writeBatches_append (tables : Tables)
    (first second : List (List NodeRecord × List RelationshipRecord)) :
    tables.writeBatches (first ++ second)
      = tables.writeBatches first >>= fun next => next.writeBatches second := List.foldlM_append ..

/-- **A command that is no init** adds to a stored graph what it writes, and stores none where there is
none. -/
theorem Turn.Effect.adds {turn : Turn} (h : turn.Effect) (hinit : ¬turn.Initializes) :
    (turn.disk.Vacant turn.line.database → turn.outcome.disk = turn.disk) ∧
    ∀ former, turn.disk.find turn.line.database = .ok (.database former) →
      ∃ next, former.writeBatches turn.written?.toList = .ok next ∧
        turn.outcome.disk.find turn.line.database = .ok (.database next) := by
  cases h with
  | created hcommand hsucceeds _ _ _ => exact absurd ⟨hsucceeds, _, hcommand⟩ hinit
  | @imported file records former next hcommand hsucceeds hrecords hformer hnext _ hfind =>
    refine ⟨fun hvacant => absurd (hvacant _ hformer) nofun, fun own hown => ?_⟩
    obtain rfl : former = own := by
      rw [hformer] at hown
      cases hown
      rfl
    refine ⟨next, ?_, hfind⟩
    rw [Turn.written?_of_import hcommand hsucceeds hrecords, Option.toList_some, Tables.writeBatches,
      List.foldlM_cons, hnext]
    rfl
  | idle hdisk hidle =>
    have hwritten : turn.written? = none := by
      unfold Turn.written?
      split
      · next file hcommand => exact if_neg fun hsucceeds => (hidle hsucceeds).2 file hcommand
      · rfl
    refine ⟨fun _ => hdisk, fun former hformer => ⟨former, ?_, hdisk ▸ hformer⟩⟩
    rw [hwritten]
    rfl

/-! ## Sequences of commands -/

/-- Commands on one database that are carried out one after another, the first of them after a disk has been
found.  Between two commands files may come and go, but the path of the database leads to what it led to. -/
def Consecutive (path : String) : Disk → List Turn → Prop
  | _, [] => True
  | disk, turn :: turns => turn.line.database = path ∧ turn.disk.IsTree ∧
      turn.disk.find path = disk.find path ∧ Consecutive path turn.outcome.disk turns

/-- Commands that are carried out one after another with nothing in between. -/
def turnsFrom (machine : Nat) : Disk → List CommandLine → List Turn
  | _, [] => []
  | disk, line :: lines =>
    let turn : Turn := { line, machine, disk }
    turn :: turnsFrom machine turn.outcome.disk lines

/-- The disk that commands leave in the end. -/
def diskAfter : Disk → List Turn → Disk
  | disk, [] => disk
  | _, turn :: turns => diskAfter turn.outcome.disk turns

theorem consecutive_append {path : String} {first second : List Turn} :
    ∀ {disk : Disk}, Consecutive path disk (first ++ second) ↔
      Consecutive path disk first ∧ Consecutive path (diskAfter disk first) second := by
  induction first with
  | nil => exact ⟨fun h => ⟨trivial, h⟩, fun h => h.2⟩
  | cons turn first ih =>
    intro disk
    simp only [List.cons_append, Consecutive, diskAfter, ih, and_assoc]

theorem diskAfter_append (first second : List Turn) :
    ∀ disk, diskAfter disk (first ++ second) = diskAfter (diskAfter disk first) second := by
  induction first with
  | nil => exact fun _ => rfl
  | cons turn first ih => exact fun _ => ih turn.outcome.disk

/-- What there can be at a path can be there as long as the path leads to the same. -/
theorem Disk.Kept.congr {disk other : Disk} {path : String} (h : disk.Kept path)
    (hsame : other.find path = disk.find path) : other.Kept path := by
  cases h with
  | vacant h => exact .vacant fun entry hentry => h entry (hsame ▸ hentry)
  | stored hfind hlinked hnames => exact .stored (hsame.trans hfind) hlinked hnames

variable {path : String}

/-- **What is left in the end** is what commands leave, and each of them spares what it does not change. -/
theorem kept_diskAfter (turns : List Turn) : ∀ {disk : Disk}, disk.Kept path → Consecutive path disk turns →
    (diskAfter disk turns).Kept path ∧ ∀ turn ∈ turns, turn.Spares := by
  induction turns with
  | nil => exact fun hkept _ => ⟨hkept, List.forall_mem_nil _⟩
  | cons turn turns ih =>
    rintro disk hkept ⟨rfl, htree, hsame, hrest⟩
    have hown := hkept.congr hsame
    have heffect := Turn.effect hown htree
    obtain ⟨hafter, hspares⟩ := ih (heffect.kept hown) hrest
    exact ⟨hafter, List.forall_mem_cons.mpr ⟨heffect.spares hown, hspares⟩⟩

/-- With nothing in between, commands on one database find what commands have left. -/
theorem consecutive_turnsFrom {machine : Nat} (lines : List CommandLine)
    (hlines : ∀ line ∈ lines, line.database = path) : ∀ {disk : Disk}, disk.Kept path → disk.IsTree →
    Consecutive path disk (turnsFrom machine disk lines) := by
  induction lines with
  | nil => exact fun _ _ => trivial
  | cons line lines ih =>
    intro disk hkept htree
    obtain ⟨rfl, hlines⟩ := List.forall_mem_cons.mp hlines
    have heffect := @Turn.effect { line, machine, disk } hkept htree
    exact ⟨rfl, htree, rfl, ih hlines (heffect.kept hkept) (heffect.isTree hkept htree)⟩

/-- **Commands without an init** add to a stored graph what they write, one after another, and store none
where there is none. -/
theorem adds_diskAfter (turns : List Turn) : ∀ {disk : Disk}, disk.Kept path →
    Consecutive path disk turns → (∀ turn ∈ turns, ¬turn.Initializes) →
    (disk.Vacant path → (diskAfter disk turns).find path = disk.find path) ∧
    ∀ former, disk.find path = .ok (.database former) →
      ∃ next, former.writeBatches (turns.filterMap Turn.written?) = .ok next ∧
        (diskAfter disk turns).find path = .ok (.database next) := by
  induction turns with
  | nil => exact fun _ _ _ => ⟨fun _ => rfl, fun former hformer => ⟨former, rfl, hformer⟩⟩
  | cons turn turns ih =>
    rintro disk hkept ⟨rfl, htree, hsame, hrest⟩ hinits
    rw [List.forall_mem_cons] at hinits
    have hown := hkept.congr hsame
    have heffect := Turn.effect hown htree
    obtain ⟨hvacant, hadds⟩ := heffect.adds hinits.1
    obtain ⟨hvacant', hadds'⟩ := ih (heffect.kept hown) hrest hinits.2
    constructor
    · intro hnone
      have hdisk := hvacant fun entry hentry => hnone entry (hsame ▸ hentry)
      have hnone' : turn.outcome.disk.Vacant turn.line.database := by
        rw [hdisk]
        exact fun entry hentry => hnone entry (hsame ▸ hentry)
      rw [diskAfter, hvacant' hnone', hdisk, hsame]
    · intro former hformer
      obtain ⟨middle, hmiddle, hfound⟩ := hadds former (hsame.trans hformer)
      obtain ⟨next, hnext, hlast⟩ := hadds' middle hfound
      refine ⟨next, ?_, hlast⟩
      have hwritten : (turn :: turns).filterMap Turn.written?
          = turn.written?.toList ++ turns.filterMap Turn.written? := by
        rw [List.filterMap_cons]
        cases turn.written? <;> rfl
      rw [hwritten, Tables.writeBatches_append, hmiddle]
      exact hnext

/-! ## A disk with an input file -/

/-- A file of two nodes and a relationship between them. -/
def pairFile : List UInt8 :=
  ("\x7b\"nodes\":[\x7b\"id\":1\x7d,\x7b\"id\":2\x7d]," ++
    "\"relationships\":[\x7b\"source\":1,\"target\":2,\"type\":\"R\"\x7d]\x7d").toUTF8.toList

/-- The records in that file. -/
def pairRecords : List NodeRecord × List RelationshipRecord :=
  ([⟨⟨1⟩, []⟩, ⟨⟨2⟩, []⟩], [⟨⟨1⟩, ⟨2⟩, "R", .empty⟩])

/-- A disk with a single file. -/
def inputDisk (bytes : List UInt8) : Disk := ⟨[(⟨some 0, ["in"]⟩, .file bytes)]⟩

theorem isTree_inputDisk (bytes : List UInt8) : (inputDisk bytes).IsTree := by
  intro place entry hentry hfile below hmem _
  obtain rfl := List.mem_singleton.mp hmem
  have hput := Disk.mem_of_lookup (Disk.lookup_of_file hentry hfile)
  exact congrArg Prod.fst (List.mem_singleton.mp hput).symm

theorem vacant_inputDisk (bytes : List UInt8) : (inputDisk bytes).Vacant "db" := by
  have hfind : (inputDisk bytes).find "db" = .error .nothingThere := by cbv
  intro entry hentry
  rw [hfind] at hentry
  cases hentry

theorem recordsOf_pairFile (tables : Tables) :
    Session.recordsOf ((inputDisk pairFile).write "db" (.database tables)) "in" = .ok pairRecords := by
  have hresolve : ∀ bytes, ((inputDisk bytes).write "db" (.database tables)).resolve "in"
      = .ok (.file bytes) := by
    intro bytes
    cbv
  have hshort : pairFile.length ≤ Session.maxImportSize := by
    have hlength : pairFile.length = 82 := by cbv
    rw [hlength]
    decide
  have hread : readImport pairFile = .ok pairRecords := by cbv
  unfold Session.recordsOf Disk.readFile
  rw [hresolve]
  dsimp only [DiskEntry.bytes?]
  rw [if_neg (Nat.not_lt.mpr hshort)]
  exact hread

/-- A command on the database beside that file. -/
def lineOf (command : Command) : CommandLine := ⟨false, false, false, "db", command⟩

theorem init_inputDisk (bytes : List UInt8) :
    Turn.Initializes ⟨lineOf (.init false), 1, inputDisk bytes, .swift⟩ ∧
      (Turn.mk (lineOf (.init false)) 1 (inputDisk bytes) .swift).outcome.disk
        = (inputDisk bytes).write "db" (.database .empty) := by
  have hending : Session.ending (Session.init "db" false { disk := inputDisk bytes })
      = (true, (inputDisk bytes).write "db" (.database .empty)) := by cbv
  obtain ⟨hdisk, hsucceeds⟩ :=
    @Turn.outcome_init ⟨lineOf (.init false), 1, inputDisk bytes, .swift⟩ false rfl
  exact ⟨⟨hsucceeds.mpr (congrArg Prod.fst hending), false, rfl⟩, hdisk.trans (congrArg Prod.snd hending)⟩

theorem written?_pairFile :
    Turn.written? ⟨lineOf (.importRecords "in"), 1,
      (inputDisk pairFile).write "db" (.database .empty), .swift⟩ = some pairRecords := by
  have hfind : ∀ bytes, ((inputDisk bytes).write "db" (.database .empty)).find "db"
      = .ok (.database .empty) := by
    intro bytes
    cbv
  have hrecords := recordsOf_pairFile .empty
  have hending := Session.ending_import_of_stored (hfind pairFile) "in"
  have hwrite : (Tables.empty.writeBatch pairRecords.1 pairRecords.2).isOk = true := by decide +kernel
  cases hnext : Tables.empty.writeBatch pairRecords.1 pairRecords.2 with
  | error error =>
    rw [hnext] at hwrite
    cases hwrite
  | ok next =>
    have hwritten : (Session.recordsOf ((inputDisk pairFile).write "db" (.database .empty)) "in"
        >>= fun records => Tables.empty.writeBatch records.1 records.2) = .ok next :=
      bind_eq_ok_iff.mpr ⟨pairRecords, hrecords, hnext⟩
    rw [hwritten] at hending
    exact Turn.written?_of_import rfl ((Turn.outcome_import rfl).2.mpr (congrArg Prod.fst hending)) hrecords

/-! ## All commands -/

/-- **Databases replay imports.**  What is stored after commands on a path without a file is what the imports
that have succeeded since the last init have written into an empty graph, one after another, and nothing if
no init has succeeded.  Commands that fail and commands that only look leave the disk as it was, none but an
init makes a database, and a flawed file is not imported at all. -/
theorem databases_replay_imports {start : Disk} (hvacant : start.Vacant path) (turns : List Turn)
    (h : Consecutive path start turns) :
    ((∀ turn ∈ turns, ¬turn.Initializes) → (diskAfter start turns).find path = start.find path) ∧
    (∀ before init after, turns = before ++ init :: after → init.Initializes →
      (∀ turn ∈ after, ¬turn.Initializes) →
      ∃ tables, Tables.empty.writeBatches (after.filterMap Turn.written?) = .ok tables ∧
        (diskAfter start turns).find path = .ok (.database tables)) ∧
    ∀ turn ∈ turns, turn.Spares := by
  have hkept : start.Kept path := .vacant hvacant
  refine ⟨fun hinits => (adds_diskAfter turns hkept h hinits).1 hvacant, ?_, (kept_diskAfter turns hkept h).2⟩
  rintro before init after rfl hinit hafter
  obtain ⟨hbefore, hpath, htree, hsame, hrest⟩ := consecutive_append.mp h
  subst hpath
  have hown := (kept_diskAfter before hkept hbefore).1.congr hsame
  have heffect := Turn.effect hown htree
  have hempty : init.outcome.disk.find init.line.database = .ok (.database .empty) := by
    obtain ⟨hsucceeds, force, hcommand⟩ := hinit
    cases heffect with
    | created _ _ _ hfind _ => exact hfind
    | imported himport _ _ _ _ _ _ =>
      rw [hcommand] at himport
      cases himport
    | idle _ hidle => exact absurd hcommand ((hidle hsucceeds).1 force)
  rw [diskAfter_append]
  exact (adds_diskAfter after (heffect.kept hown) hrest hafter).2 _ hempty

/-- After an init, an import and a look, the records of the file are stored. -/
theorem databases_replay_imports_of_pair : ∃ tables,
    Tables.empty.writeBatches [pairRecords] = .ok tables ∧
      (diskAfter (inputDisk pairFile) (turnsFrom 1 (inputDisk pairFile)
        [lineOf (.init false), lineOf (.importRecords "in"), lineOf .status])).find "db"
          = .ok (.database tables) := by
  have hvacant := vacant_inputDisk pairFile
  have hconsecutive := @consecutive_turnsFrom "db" 1
    [lineOf (.init false), lineOf (.importRecords "in"), lineOf .status] (by simp [lineOf])
    _ (.vacant hvacant) (isTree_inputDisk pairFile)
  obtain ⟨hinit, hdisk⟩ := init_inputDisk pairFile
  obtain ⟨_, hreplay, _⟩ := databases_replay_imports hvacant _ hconsecutive
  obtain ⟨tables, htables, hfind⟩ := hreplay [] _ _ rfl hinit (by simp [turnsFrom, Turn.Initializes, lineOf])
  have hwritten := written?_pairFile
  rw [← hdisk] at hwritten
  have hall : (turnsFrom 1 (Turn.mk (lineOf (.init false)) 1 (inputDisk pairFile) .swift).outcome.disk
      [lineOf (.importRecords "in"), lineOf .status]).filterMap Turn.written? = [pairRecords] := by
    rw [turnsFrom, List.filterMap_cons, hwritten]
    rfl
  exact ⟨tables, hall ▸ htables, hfind⟩

end CompactGraph
