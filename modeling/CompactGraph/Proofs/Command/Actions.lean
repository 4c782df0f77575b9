/-
# How commands end

A command ends with success or failure, and it leaves a disk.  What only looks at a database leaves the disk
as it was (`Session.onlyLooks_perform`).  An init and an import leave it as it was as well, unless they
succeed: an init leaves an empty graph then, and an import the stored graph with all records of its file
(`Session.ending_init_cases`, `Session.ending_import_cases`).  This takes a path at which there is no file but
what commands have left there (`Disk.Kept`).
-/
import CompactGraph.Command.Session
import CompactGraph.Proofs.Command.Paths
import CompactGraph.Proofs.Import.Conversion

namespace CompactGraph

/-! ## How actions end -/

namespace Session

variable {α β : Type}

/-- Whether an action has succeeded, and the disk that it has left. -/
def ending : EStateM.Result LoadError Session α → Bool × Disk
  | .ok _ session => (true, session.disk)
  | .error _ session => (false, session.disk)

/-- An action goes on in the session that the one before it has left. -/
theorem bind_eq (first : Action α) (next : α → Action β) (session : Session) :
    (first >>= next) session = match first session with
      | .ok a session => next a session
      | .error error session => .error error session := by
  show EStateM.bind _ _ _ = _
  rw [EStateM.bind]
  cases first session <;> rfl

/-- Mapping what an action returns changes neither how it ends nor the disk. -/
theorem ending_map (f : α → β) (action : Action α) (session : Session) :
    ending ((f <$> action) session) = ending (action session) := by
  show ending (EStateM.map _ _ _) = _
  rw [EStateM.map]
  cases action session <;> rfl

theorem lift_eq (result : Except LoadError α) (session : Session) : lift result session =
    match result with
    | .ok a => .ok a session
    | .error error => .error error session := by
  cases result <;> rfl

theorem onDisk_eq (ask : Disk → Except LoadError α) (session : Session) :
    onDisk ask session = lift (ask session.disk) session := rfl

/-! ## Opening a database -/

/-- Opening a database changes the disk and nothing else of a session. -/
theorem openDatabase_eq (path : String) (session : Session) : openDatabase path session =
    match session.disk.openDatabase path with
    | .ok (tables, disk) => .ok tables { session with disk }
    | .error error => .error error session := by
  unfold openDatabase
  rw [bind_eq, onDisk_eq, lift_eq]
  cases session.disk.openDatabase path <;> rfl

theorem openExisting_eq (path : String) (session : Session) : openExisting path session =
    if session.disk.contains path then openDatabase path session
    else .error (.sourceUnavailable (.databaseMissing path)) session := by
  unfold openExisting
  rw [bind_eq]
  show (if (!session.disk.contains path) = true then _ else _ : Action Tables) session = _
  cases session.disk.contains path <;> rfl

/-- A stored graph is opened as it is. -/
theorem openExisting_of_stored {path : String} {session : Session} {tables : Tables}
    (h : session.disk.find path = .ok (.database tables)) :
    openExisting path session = .ok tables session := by
  have hcontains : session.disk.contains path = true := by
    unfold Disk.contains
    rw [h]
    rfl
  have hopen : session.disk.openDatabase path = .ok (tables, session.disk) := by
    unfold Disk.openDatabase
    rw [h]
  rw [openExisting_eq, if_pos hcontains, openDatabase_eq, hopen]

/-- Where there is no file, nothing is opened. -/
theorem openExisting_of_vacant {path : String} {session : Session}
    (h : ∀ entry, session.disk.find path = .ok entry → entry = .directory) :
    ∃ error, openExisting path session = .error error session := by
  rw [openExisting_eq]
  cases hfind : session.disk.find path with
  | error problem =>
    have hcontains : session.disk.contains path = false := by
      unfold Disk.contains
      rw [hfind]
      rfl
    rw [hcontains]
    exact ⟨_, rfl⟩
  | ok entry =>
    obtain rfl := h entry hfind
    have hcontains : session.disk.contains path = true := by
      unfold Disk.contains
      rw [hfind]
      rfl
    have hopen : session.disk.openDatabase path
        = .error (.io (.cannotOpen PathProblem.isADirectory.text)) := by
      unfold Disk.openDatabase
      rw [hfind]
    rw [if_pos hcontains, openDatabase_eq, hopen]
    exact ⟨_, rfl⟩

/-! ## Commands that only look -/

/-- An action that leaves a disk as it is. -/
def OnlyLooks (disk : Disk) (action : Action α) : Prop :=
  ∀ session : Session, session.disk = disk → (ending (action session)).2 = disk

section Looking

variable {disk : Disk}

/-- Actions in sequence only look if each of them does. -/
theorem OnlyLooks.bind {first : Action α} {next : α → Action β} (h : OnlyLooks disk first)
    (hnext : ∀ a, OnlyLooks disk (next a)) : OnlyLooks disk (first >>= next) := by
  intro session hdisk
  have hfirst := h session hdisk
  rw [bind_eq]
  cases hresult : first session with
  | error error after =>
    rw [hresult] at hfirst
    exact hfirst
  | ok a after =>
    rw [hresult] at hfirst
    exact hnext a after hfirst

theorem OnlyLooks.map {action : Action α} (h : OnlyLooks disk action) (f : α → β) :
    OnlyLooks disk (f <$> action) := by
  intro session hdisk
  rw [ending_map]
  exact h session hdisk

theorem onlyLooks_pure (a : α) : OnlyLooks disk (pure a : Action α) := fun _ h => h

theorem onlyLooks_report (events : List LogEvent) : OnlyLooks disk (report events) := fun _ h => h

theorem onlyLooks_lift (result : Except LoadError α) : OnlyLooks disk (lift result) := by
  intro session hdisk
  rw [lift_eq]
  cases result <;> exact hdisk

theorem onlyLooks_onDisk (ask : Disk → Except LoadError α) : OnlyLooks disk (onDisk ask) :=
  fun session => onlyLooks_lift (ask session.disk) session

theorem onlyLooks_configure (flags : FlagOptions) : OnlyLooks disk (configure flags) := by
  unfold configure
  cases flags.file with
  | none => exact onlyLooks_lift _
  | some path =>
    exact (onlyLooks_onDisk _).bind fun _ => (onlyLooks_lift _).bind fun _ => onlyLooks_lift _

variable {path : String} (hopen : OnlyLooks disk (openExisting path))

include hopen

theorem onlyLooks_loadGraph (machine : Nat) (clock : Clock) (flags : FlagOptions) :
    OnlyLooks disk (loadGraph machine clock path flags) :=
  hopen.bind fun _ => (onlyLooks_configure flags).bind fun _ =>
    (onlyLooks_report _).bind fun _ => onlyLooks_lift _

/-- **Looking at a database** changes nothing. -/
theorem onlyLooks_perform {machine : Nat} {clock : Clock} {line : CommandLine}
    (hpath : line.database = path) (hinit : ∀ force, line.command ≠ .init force)
    (himport : ∀ file, line.command ≠ .importRecords file) :
    OnlyLooks disk (perform machine clock line) := by
  subst hpath
  unfold perform
  cases hcommand : line.command with
  | init force => exact absurd hcommand (hinit force)
  | importRecords file => exact absurd hcommand (himport file)
  | status => exact (hopen.bind fun _ => onlyLooks_pure _).map _
  | load flags =>
    exact ((onlyLooks_loadGraph hopen machine clock flags).bind fun _ => onlyLooks_pure _).bind
      fun _ => onlyLooks_pure _
  | degree node flags =>
    exact ((onlyLooks_loadGraph hopen machine clock flags).bind fun _ =>
      (onlyLooks_lift _).bind fun _ => onlyLooks_pure _).map _
  | neighbors node flags =>
    exact ((onlyLooks_loadGraph hopen machine clock flags).bind fun _ =>
      (onlyLooks_lift _).bind fun _ => onlyLooks_pure _).map _

end Looking

end Session

/-! ## What there can be at a path -/

namespace Disk

variable {disk : Disk} {path : String}

/-- Whether there is no file at a path. -/
def Vacant (disk : Disk) (path : String) : Prop :=
  ∀ entry, disk.find path = .ok entry → entry = .directory

/-- What commands leave at a path where there was no file. -/
inductive Kept (disk : Disk) (path : String) : Prop where
  | vacant (h : disk.Vacant path)
  | stored {tables : Tables} (hfind : disk.find path = .ok (.database tables)) (hlinked : tables.Linked)
      (hnames : PathText.NamesFile path)

/-- A stored graph that is found is sound. -/
theorem Kept.of_find (h : disk.Kept path) {tables : Tables} (hfind : disk.find path = .ok (.database tables)) :
    tables.Linked ∧ PathText.NamesFile path := by
  cases h with
  | vacant h => exact nomatch h _ hfind
  | stored hown hlinked hnames =>
    rw [hown] at hfind
    cases hfind
    exact ⟨hlinked, hnames⟩

/-- A stored graph is replaced by another one. -/
theorem Kept.find_write (h : disk.Kept path) {tables : Tables} (hfind : disk.find path = .ok (.database tables))
    (next : Tables) : (disk.write path (.database next)).find path = .ok (.database next) := by
  have hdirectory : disk.find path ≠ .ok .directory := by
    rw [hfind]
    exact nofun
  exact Disk.find_write (checkPlace_of_find (h.of_find hfind).2 hfind) hdirectory _

/-- Opening what is stored, or missing it, only looks at the disk. -/
theorem Kept.onlyLooks_openExisting (h : disk.Kept path) :
    Session.OnlyLooks disk (Session.openExisting path) := by
  rintro session rfl
  cases h with
  | vacant h =>
    obtain ⟨error, herror⟩ := Session.openExisting_of_vacant h
    rw [herror]
    rfl
  | stored hfind _ _ =>
    rw [Session.openExisting_of_stored hfind]
    rfl

/-- How storing an empty graph ends where there is nothing. -/
def opened (disk : Disk) (path : String) : Bool × Disk :=
  match disk.openDatabase path with
  | .ok (_, disk) => (true, disk)
  | .error _ => (false, disk)

/-- Where there is nothing, an empty graph is stored, or nothing changes. -/
theorem opened_of_error {problem : PathProblem} (h : disk.find path = .error problem)
    (htree : disk.IsTree) : disk.opened path = (false, disk) ∨
      PathText.NamesFile path ∧ (disk.opened path).1 = true ∧
        (disk.opened path).2.find path = .ok (.database .empty) ∧ (disk.opened path).2.IsTree := by
  have hopen : disk.openDatabase path = disk.createDatabase path := by
    unfold openDatabase
    rw [h]
  unfold opened
  rw [hopen, createDatabase]
  cases hplace : disk.checkPlace path with
  | error problem => exact .inl rfl
  | ok _ =>
    have hdirectory : disk.find path ≠ .ok .directory := by
      rw [h]
      exact nofun
    exact .inr ⟨(checkPlace_eq_ok_iff.mp hplace).2.1, rfl, find_write hplace hdirectory _,
      htree.write hplace hdirectory _⟩

end Disk

/-! ## Init -/

namespace Session

theorem ending_init (path : String) (force : Bool) (session : Session) :
    ending (init path force session) =
      if session.disk.contains path then
        if force then
          match session.disk.remove path with
          | .ok disk => disk.opened path
          | .error _ => (false, session.disk)
        else (false, session.disk)
      else session.disk.opened path := by
  unfold init
  rw [bind_eq]
  show ending ((if session.disk.contains path = true then _ else _ : Action Printout) session) = _
  cases session.disk.contains path with
  | false =>
    show ending ((openDatabase path >>= _) session) = session.disk.opened path
    rw [bind_eq, openDatabase_eq, Disk.opened]
    cases session.disk.openDatabase path <;> rfl
  | true =>
    cases force with
    | false => rfl
    | true =>
      show ending (((onDisk fun disk => disk.remove path) >>= _) session) = _
      rw [bind_eq, onDisk_eq, lift_eq]
      cases session.disk.remove path with
      | error _ => rfl
      | ok disk =>
        show ending ((openDatabase path >>= _) { session with disk }) = disk.opened path
        rw [bind_eq, openDatabase_eq, Disk.opened]
        dsimp only
        cases disk.openDatabase path <;> rfl

/-- **An init** leaves the disk as it was, or succeeds and leaves an empty graph. -/
theorem ending_init_cases {disk : Disk} {path : String} (hkept : disk.Kept path) (htree : disk.IsTree)
    (force : Bool) : ending (init path force { disk }) = (false, disk) ∨
      PathText.NamesFile path ∧ (ending (init path force { disk })).1 = true ∧
        (ending (init path force { disk })).2.find path = .ok (.database .empty) ∧
        (ending (init path force { disk })).2.IsTree := by
  rw [ending_init]
  dsimp only
  unfold Disk.contains
  cases hfind : disk.find path with
  | error problem => exact Disk.opened_of_error hfind htree
  | ok entry =>
    cases force with
    | false => exact .inl rfl
    | true =>
      cases hkept with
      | vacant h =>
        obtain rfl := h entry hfind
        have hremove : disk.remove path = .error (.io (.cannotRemove PathProblem.isADirectory.text)) := by
          unfold Disk.remove
          rw [hfind]
        rw [hremove]
        exact .inl rfl
      | @stored tables hstored _ hnames =>
        have hremove : disk.remove path = .ok (disk.erase path) := by
          unfold Disk.remove
          rw [hstored]
        obtain ⟨hplace, hgone⟩ := Disk.find_erase htree hnames hstored nofun
        rw [hremove]
        -- a graph can be stored where one has just been taken away
        have hopen : (disk.erase path).openDatabase path
            = .ok (.empty, (disk.erase path).write path (.database .empty)) := by
          unfold Disk.openDatabase Disk.createDatabase
          rw [hgone, hplace]
        have hdirectory : (disk.erase path).find path ≠ .ok .directory := by
          rw [hgone]
          exact nofun
        refine .inr ⟨hnames, ?_⟩
        show ((disk.erase path).opened path).1 = true ∧
          ((disk.erase path).opened path).2.find path = _ ∧ ((disk.erase path).opened path).2.IsTree
        unfold Disk.opened
        rw [hopen]
        have htree' := htree.erase (Disk.checkPlace_of_find hnames hstored)
        exact ⟨rfl, Disk.find_write hplace hdirectory _, htree'.write hplace hdirectory _⟩

/-! ## Imports -/

/-- The records that an import finds in its file. -/
def recordsOf (disk : Disk) (file : String) :
    Except LoadError (List NodeRecord × List RelationshipRecord) :=
  disk.readFile file maxImportSize >>= readImport

/-- An import fails where there is no file. -/
theorem ending_import_of_vacant {disk : Disk} {path : String} (h : disk.Vacant path) (file : String) :
    ending (importRecords path file { disk }) = (false, disk) := by
  unfold importRecords
  rw [bind_eq, onDisk_eq, lift_eq]
  dsimp only
  cases disk.readFile file maxImportSize with
  | error error => rfl
  | ok bytes =>
    dsimp only
    rw [bind_eq, lift_eq]
    cases readImport bytes with
    | error error => rfl
    | ok records =>
      obtain ⟨error, herror⟩ := @openExisting_of_vacant path { disk } h
      dsimp only
      rw [bind_eq, herror]
      rfl

/-- An import into a stored graph writes the records of its file, if it can. -/
theorem ending_import_of_stored {disk : Disk} {path : String} {former : Tables}
    (hfind : disk.find path = .ok (.database former)) (file : String) :
    ending (importRecords path file { disk }) =
      match recordsOf disk file >>= fun records => former.writeBatch records.1 records.2 with
      | .ok next => (true, disk.write path (.database next))
      | .error _ => (false, disk) := by
  unfold importRecords recordsOf
  rw [bind_eq, onDisk_eq, lift_eq]
  dsimp only
  cases disk.readFile file maxImportSize with
  | error error => rfl
  | ok bytes =>
    dsimp only
    have hread : (Except.ok bytes >>= readImport) = readImport bytes := rfl
    rw [bind_eq, lift_eq, hread]
    cases readImport bytes with
    | error error => rfl
    | ok records =>
      have hwrite : (Except.ok records >>= fun records => former.writeBatch records.1 records.2)
          = former.writeBatch records.1 records.2 := rfl
      obtain ⟨nodes, relationships⟩ := records
      dsimp only at hwrite ⊢
      rw [hwrite, bind_eq, openExisting_of_stored hfind]
      dsimp only
      rw [bind_eq, lift_eq]
      cases former.writeBatch nodes relationships <;> rfl

/-- **An import** leaves the disk as it was, or succeeds and writes all records into the stored graph. -/
theorem ending_import_cases {disk : Disk} {path : String} (hkept : disk.Kept path) (file : String) :
    ending (importRecords path file { disk }) = (false, disk) ∨
      ∃ records former next, recordsOf disk file = .ok records ∧
        disk.find path = .ok (.database former) ∧ former.writeBatch records.1 records.2 = .ok next ∧
        ending (importRecords path file { disk }) = (true, disk.write path (.database next)) := by
  cases hkept with
  | vacant h => exact .inl (ending_import_of_vacant h file)
  | @stored former hfind _ _ =>
    rw [ending_import_of_stored hfind]
    cases hwritten : recordsOf disk file >>= fun records => former.writeBatch records.1 records.2 with
    | error error => exact .inl rfl
    | ok next =>
      obtain ⟨records, hrecords, hnext⟩ := bind_eq_ok_iff.mp hwritten
      exact .inr ⟨records, former, next, hrecords, hfind, hnext, rfl⟩

end Session

end CompactGraph
