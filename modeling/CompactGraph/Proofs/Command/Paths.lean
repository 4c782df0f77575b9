/-
# Paths on a disk

Where a path leads depends on the directories on its way.  A file can be made at a path if the path names a
file and can be followed (`Disk.checkPlace_eq_ok_iff`), and it is found there once it is made
(`Disk.find_write`).  Making a file where there is no directory, and taking one away, leaves all directories
as they are, so every other path can still be followed, and nothing comes to lie below a file
(`Disk.IsTree.write`, `Disk.IsTree.erase`).
-/
import CompactGraph.Command.Disk
import CompactGraph.Proofs.Outcomes

namespace CompactGraph

/-! ## Texts of paths -/

/-- A path whose last part is the name of a file. -/
structure PathText.NamesFile (path : String) : Prop where
  slash : PathText.endsWithSlash path = false
  name : ∃ ancestors name, PathText.parts path = ancestors ++ [name] ∧ name ≠ "." ∧ name ≠ ".."

theorem PathText.NamesFile.isEmpty {path : String} (h : PathText.NamesFile path) : path.isEmpty = false := by
  obtain ⟨ancestors, name, hparts, _⟩ := h.name
  rw [Bool.eq_false_iff]
  intro hempty
  obtain rfl : path = "" := String.isEmpty_iff.mp hempty
  have hnone : PathText.parts "" = [] := by cbv
  rw [hnone] at hparts
  exact absurd hparts (by simp)

/-- A path that the system is given has a text. -/
theorem PathText.checkText_of_checkLength {path : String} (h : PathText.checkLength path = .ok ()) :
    PathText.checkText path = .ok () := by
  obtain ⟨_, htext, _⟩ := bind_eq_ok_iff.mp h
  exact htext

namespace Place

theorem holds_iff {place other : Place} :
    place.holds other = true ↔ place.above = other.above ∧ place.names <+: other.names := by
  rw [holds, Bool.and_eq_true, decide_eq_true_eq, List.isPrefixOf_iff_prefix]

theorem holds_trans {place middle other : Place} (h : place.holds middle = true)
    (hbelow : middle.holds other = true) : place.holds other = true := by
  obtain ⟨habove, hnames⟩ := holds_iff.mp h
  obtain ⟨habove', hnames'⟩ := holds_iff.mp hbelow
  exact holds_iff.mpr ⟨habove.trans habove', hnames.trans hnames'⟩

theorem holds_antisymm {place other : Place} (h : place.holds other = true)
    (hback : other.holds place = true) : place = other := by
  obtain ⟨habove, hnames⟩ := holds_iff.mp h
  obtain ⟨_, hnames'⟩ := holds_iff.mp hback
  cases place
  cases other
  exact congrArg₂ Place.mk habove (hnames.eq_of_length_le hnames'.length_le)

/-- A place above another one is above the directory of that one. -/
theorem holds_parent {place other : Place} (h : place.holds other = true) (hne : place ≠ other) :
    place.holds other.parent = true := by
  obtain ⟨habove, hnames⟩ := holds_iff.mp h
  have hlonger : place.names ≠ other.names := by
    intro heq
    apply hne
    cases place
    cases other
    simp_all
  rcases List.eq_nil_or_concat' other.names with hnil | ⟨names, name, hconcat⟩
  · rw [hnil, List.prefix_nil] at hnames
    exact absurd (hnames.trans hnil.symm) hlonger
  · have hparent : other.parent = ⟨other.above, names⟩ := by
      unfold parent
      rw [hconcat]
      simp
    rw [hconcat] at hnames hlonger
    rw [hparent]
    exact holds_iff.mpr ⟨habove, (List.prefix_concat_iff.mp hnames).resolve_left hlonger⟩

/-- The place of a file is not above the directory that the file is in. -/
theorem ofPath_not_holds_parent {path : String} (h : PathText.NamesFile path) :
    (ofPath path).names ≠ [] ∧ (ofPath path).holds (ofPath path).parent = false := by
  obtain ⟨ancestors, name, hparts, hdot, hdots⟩ := h.name
  have hplace : ofPath path = ⟨(ancestors.foldl step (start path)).above,
      (ancestors.foldl step (start path)).names ++ [name]⟩ := by
    rw [ofPath, hparts, List.foldl_append, List.foldl_cons, List.foldl_nil, step, if_neg hdot, if_neg hdots]
  rw [hplace]
  refine ⟨by simp, ?_⟩
  rw [Bool.eq_false_iff]
  intro hholds
  have hlength := (holds_iff.mp hholds).2.length_le
  simp [parent] at hlength

end Place

namespace Disk

variable {disk other : Disk} {path : String} {entry : DiskEntry}

/-! ## Following paths -/

theorem checkDirectory_eq_ok_iff {place : Place} :
    disk.checkDirectory place = .ok () ↔ disk.entryAt place = .ok .directory := by
  unfold checkDirectory
  constructor
  · intro h
    obtain ⟨entry, hentry, hrest⟩ := bind_eq_ok_iff.mp h
    cases entry with
    | directory => exact hentry
    | file bytes => cases hrest
    | database tables => cases hrest
  · intro h
    rw [h]
    rfl

/-- A path is followed part by part. -/
theorem follow_cons_eq_ok_iff {place last : Place} {part : String} {rest : List String} :
    disk.follow place (part :: rest) = .ok last ↔ disk.entryAt place = .ok .directory ∧
      part.utf8ByteSize ≤ PathText.nameLimit ∧ disk.follow (place.step part) rest = .ok last := by
  rw [follow]
  constructor
  · intro h
    obtain ⟨_, hdirectory, hrest⟩ := bind_eq_ok_iff.mp h
    split at hrest
    · cases hrest
    · next hshort => exact ⟨checkDirectory_eq_ok_iff.mp hdirectory, Nat.not_lt.mp hshort, hrest⟩
  · rintro ⟨hdirectory, hshort, hrest⟩
    exact bind_eq_ok_iff.mpr ⟨(), checkDirectory_eq_ok_iff.mpr hdirectory,
      (if_neg (Nat.not_lt.mpr hshort)).trans hrest⟩

/-- A path that can be followed leads where its parts lead. -/
theorem follow_eq_foldl {parts : List String} :
    ∀ {place last : Place}, disk.follow place parts = .ok last → last = parts.foldl Place.step place := by
  induction parts with
  | nil => exact fun h => (Except.ok.inj h).symm
  | cons part parts ih => exact fun h => ih (follow_cons_eq_ok_iff.mp h).2.2

theorem follow_append_eq_ok_iff {first second : List String} {last : Place} :
    ∀ {place : Place}, disk.follow place (first ++ second) = .ok last ↔
      ∃ middle, disk.follow place first = .ok middle ∧ disk.follow middle second = .ok last := by
  induction first with
  | nil =>
    intro place
    exact ⟨fun h => ⟨place, rfl, h⟩, fun ⟨_, hmiddle, h⟩ => (Except.ok.inj hmiddle) ▸ h⟩
  | cons part first ih =>
    intro place
    rw [List.cons_append, follow_cons_eq_ok_iff, ih]
    constructor
    · rintro ⟨hdirectory, hshort, middle, hmiddle, h⟩
      exact ⟨middle, follow_cons_eq_ok_iff.mpr ⟨hdirectory, hshort, hmiddle⟩, h⟩
    · rintro ⟨middle, hmiddle, h⟩
      obtain ⟨hdirectory, hshort, hmiddle⟩ := follow_cons_eq_ok_iff.mp hmiddle
      exact ⟨hdirectory, hshort, middle, hmiddle, h⟩

/-- What is checked of a path under which a file is to be made: the directories that it leads through, and
its last part. -/
theorem checkPlace_eq_ok_iff_exists : disk.checkPlace path = .ok () ↔
    PathText.checkLength path = .ok () ∧ ∃ directory ancestors name,
      PathText.parts path = ancestors ++ [name] ∧
      disk.follow (.start path) ancestors = .ok directory ∧ disk.entryAt directory = .ok .directory ∧
      name ≠ "." ∧ name ≠ ".." ∧ PathText.endsWithSlash path = false ∧
      name.utf8ByteSize ≤ PathText.nameLimit := by
  constructor
  · intro h
    obtain ⟨_, hlength, h⟩ := bind_eq_ok_iff.mp h
    obtain ⟨directory, hfollow, h⟩ := bind_eq_ok_iff.mp h
    obtain ⟨_, hdirectory, h⟩ := bind_eq_ok_iff.mp h
    split at h
    · cases h
    · cases h
    · cases h
    · next name hdot hdots hlast =>
      obtain ⟨ancestors, hparts⟩ := List.getLast?_eq_some_iff.mp hlast
      rw [hparts, List.dropLast_concat] at hfollow
      split at h
      · cases h
      · next hslash =>
        split at h
        · cases h
        · next hshort =>
          exact ⟨hlength, directory, ancestors, name, hparts, hfollow,
            checkDirectory_eq_ok_iff.mp hdirectory, hdot, hdots, Bool.eq_false_iff.mpr hslash,
            Nat.not_lt.mp hshort⟩
  · rintro ⟨hlength, directory, ancestors, name, hparts, hfollow, hdirectory, hdot, hdots, hslash, hshort⟩
    refine bind_eq_ok_iff.mpr ⟨(), hlength, bind_eq_ok_iff.mpr ⟨directory, ?_,
      bind_eq_ok_iff.mpr ⟨(), checkDirectory_eq_ok_iff.mpr hdirectory, ?_⟩⟩⟩
    · rw [hparts, List.dropLast_concat]
      exact hfollow
    · rw [hparts, List.getLast?_concat]
      split
      · next hnone => cases hnone
      · next heq => exact absurd (Option.some.inj heq) hdot
      · next heq => exact absurd (Option.some.inj heq) hdots
      · next hown =>
        cases hown
        rw [hslash, if_neg Bool.false_ne_true, if_neg (Nat.not_lt.mpr hshort)]

/-- **A file can be made** where a path leads that names a file and can be followed. -/
theorem checkPlace_eq_ok_iff : disk.checkPlace path = .ok () ↔ PathText.checkLength path = .ok () ∧
    PathText.NamesFile path ∧ disk.follow (.start path) (PathText.parts path) = .ok (.ofPath path) := by
  rw [checkPlace_eq_ok_iff_exists]
  refine and_congr_right fun _ => ⟨?_, ?_⟩
  · rintro ⟨directory, ancestors, name, hparts, hfollow, hdirectory, hdot, hdots, hslash, hshort⟩
    have hway : disk.follow (.start path) (PathText.parts path) = .ok (directory.step name) := by
      rw [hparts]
      exact follow_append_eq_ok_iff.mpr
        ⟨directory, hfollow, follow_cons_eq_ok_iff.mpr ⟨hdirectory, hshort, rfl⟩⟩
    have hlast : directory.step name = .ofPath path := follow_eq_foldl hway
    exact ⟨⟨hslash, ancestors, name, hparts, hdot, hdots⟩, hlast ▸ hway⟩
  · rintro ⟨⟨hslash, ancestors, name, hparts, hdot, hdots⟩, hway⟩
    rw [hparts] at hway
    obtain ⟨directory, hfollow, hlast⟩ := follow_append_eq_ok_iff.mp hway
    obtain ⟨hdirectory, hshort, _⟩ := follow_cons_eq_ok_iff.mp hlast
    exact ⟨directory, ancestors, name, hparts, hfollow, hdirectory, hdot, hdots, hslash, hshort⟩

/-- Where a file can be made, what the path leads to is what there is at its place. -/
theorem find_of_checkPlace (h : disk.checkPlace path = .ok ()) :
    disk.find path = disk.entryAt (.ofPath path) := by
  obtain ⟨hlength, hnames, hfollow⟩ := checkPlace_eq_ok_iff.mp h
  unfold find resolve
  rw [hlength, PathText.checkText_of_checkLength hlength, hnames.isEmpty, hfollow, hnames.slash]
  rfl

/-- What can be read from a path that leads to something. -/
theorem way_of_find (h : disk.find path = .ok entry) : PathText.checkLength path = .ok () ∧
    disk.follow (.start path) (PathText.parts path) = .ok (.ofPath path) ∧
    disk.entryAt (.ofPath path) = .ok entry := by
  obtain ⟨_, hlength, h⟩ := bind_eq_ok_iff.mp h
  obtain ⟨_, _, h⟩ := bind_eq_ok_iff.mp h
  split at h
  · cases h
  · obtain ⟨place, hfollow, h⟩ := bind_eq_ok_iff.mp h
    obtain rfl : place = .ofPath path := follow_eq_foldl hfollow
    refine ⟨hlength, hfollow, ?_⟩
    split at h
    · obtain ⟨_, _, h⟩ := bind_eq_ok_iff.mp h
      exact h
    · exact h

/-- Where something is found under the name of a file, a file can be made. -/
theorem checkPlace_of_find (hnames : PathText.NamesFile path) (h : disk.find path = .ok entry) :
    disk.checkPlace path = .ok () := by
  obtain ⟨hlength, hfollow, _⟩ := way_of_find h
  exact checkPlace_eq_ok_iff.mpr ⟨hlength, hnames, hfollow⟩

/-! ## Directories stay -/

/-- Whether all directories of a disk are there on another one. -/
def KeepsDirectories (disk other : Disk) : Prop :=
  ∀ place, disk.entryAt place = .ok .directory → other.entryAt place = .ok .directory

theorem KeepsDirectories.follow (h : disk.KeepsDirectories other) {parts : List String} {last : Place} :
    ∀ {place : Place}, disk.follow place parts = .ok last → other.follow place parts = .ok last := by
  induction parts with
  | nil => exact fun hfollow => hfollow
  | cons part parts ih =>
    intro place hfollow
    obtain ⟨hdirectory, hshort, hrest⟩ := follow_cons_eq_ok_iff.mp hfollow
    exact follow_cons_eq_ok_iff.mpr ⟨h place hdirectory, hshort, ih hrest⟩

/-- Where a file could be made, it still can be. -/
theorem KeepsDirectories.checkPlace (h : disk.KeepsDirectories other)
    (hplace : disk.checkPlace path = .ok ()) : other.checkPlace path = .ok () := by
  obtain ⟨hlength, hnames, hfollow⟩ := checkPlace_eq_ok_iff.mp hplace
  exact checkPlace_eq_ok_iff.mpr ⟨hlength, hnames, h.follow hfollow⟩

/-- A directory is there because it was put there, or because something lies below it. -/
theorem entryAt_eq_directory_iff {place : Place} : disk.entryAt place = .ok .directory ↔
    disk.entries.lookup place = some .directory ∨ disk.entries.lookup place = none ∧
      (place.names = [] ∨ ∃ below ∈ disk.entries, place.holds below.1 = true) := by
  unfold entryAt
  cases hlookup : disk.entries.lookup place with
  | some entry => cases entry <;> simp
  | none =>
    dsimp only
    split
    · next hthere => simpa using hthere
    · next hthere => simpa using hthere

/-- Entries that are added and taken away at places that are none of the directories. -/
theorem keepsDirectories_of_lookup
    (hlookup : ∀ place, disk.entryAt place = .ok .directory →
      other.entries.lookup place = some .directory ∨
        other.entries.lookup place = disk.entries.lookup place)
    (hbelow : ∀ place, disk.entryAt place = .ok .directory → ∀ below ∈ disk.entries,
      place.holds below.1 = true → ∃ below ∈ other.entries, place.holds below.1 = true) :
    disk.KeepsDirectories other := by
  intro place hdirectory
  rw [entryAt_eq_directory_iff]
  rcases hlookup place hdirectory with hput | hsame
  · exact .inl hput
  · rw [hsame]
    rcases entryAt_eq_directory_iff.mp hdirectory with hput | ⟨hnone, hroot | ⟨below, hmem, hholds⟩⟩
    · exact .inl hput
    · exact .inr ⟨hnone, .inl hroot⟩
    · exact .inr ⟨hnone, .inr (hbelow place hdirectory below hmem hholds)⟩

/-- Taking entries at other places away changes nothing at a place. -/
theorem lookup_filter_of_true {entries : List (Place × DiskEntry)} {place : Place}
    {keep : Place × DiskEntry → Bool} (h : ∀ entry, keep (place, entry) = true) :
    (entries.filter keep).lookup place = entries.lookup place := by
  induction entries with
  | nil => rfl
  | cons first entries ih =>
    obtain ⟨own, entry⟩ := first
    rw [List.filter_cons]
    by_cases hown : place = own
    · subst hown
      rw [if_pos (h entry), List.lookup_cons_self, List.lookup_cons_self]
    · have hne : (place == own) = false := beq_eq_false_iff_ne.mpr hown
      split
      · rw [List.lookup_cons, List.lookup_cons, hne, ih]
      · rw [List.lookup_cons, hne, ih]

theorem mem_of_lookup {entries : List (Place × DiskEntry)} {place : Place}
    (h : entries.lookup place = some entry) : (place, entry) ∈ entries := by
  obtain ⟨before, after, rfl, _⟩ := List.lookup_eq_some_iff.mp h
  simp

theorem entryAt_of_lookup {place : Place} (h : disk.entries.lookup place = some entry) :
    disk.entryAt place = .ok entry := by
  rw [entryAt, h]

/-- What there is at the place of a file was put there. -/
theorem lookup_of_file {place : Place} (hentry : disk.entryAt place = .ok entry)
    (hfile : entry ≠ .directory) : disk.entries.lookup place = some entry := by
  unfold entryAt at hentry
  cases hlookup : disk.entries.lookup place with
  | some own =>
    rw [hlookup] at hentry
    rw [Except.ok.inj hentry]
  | none =>
    rw [hlookup] at hentry
    dsimp only at hentry
    split at hentry
    · exact absurd (Except.ok.inj hentry).symm hfile
    · cases hentry

/-! ## Writing -/

/-- What there is at a place after an entry has been put somewhere. -/
theorem lookup_write (disk : Disk) (path : String) (entry : DiskEntry) (place : Place) :
    (disk.write path entry).entries.lookup place
      = if place = .ofPath path then some entry else disk.entries.lookup place := by
  unfold write
  dsimp only
  by_cases heq : place = .ofPath path
  · rw [if_pos heq, heq, List.lookup_cons_self]
  · rw [if_neg heq, List.lookup_cons, beq_eq_false_iff_ne.mpr heq]
    exact lookup_filter_of_true fun _ => bne_iff_ne.mpr heq

/-- Something lies below a place after an entry has been put somewhere if it did before. -/
theorem exists_holds_write {place : Place}
    (h : ∃ below ∈ disk.entries, place.holds below.1 = true) (entry : DiskEntry) :
    ∃ below ∈ (disk.write path entry).entries, place.holds below.1 = true := by
  obtain ⟨below, hmem, hholds⟩ := h
  by_cases heq : below.1 = .ofPath path
  · exact ⟨_, List.mem_cons_self, heq ▸ hholds⟩
  · exact ⟨below, List.mem_cons_of_mem _ (List.mem_filter.mpr ⟨hmem, bne_iff_ne.mpr heq⟩), hholds⟩

/-- Putting an entry where there is no directory leaves all directories. -/
theorem keepsDirectories_write (h : disk.entryAt (.ofPath path) ≠ .ok .directory) (entry : DiskEntry) :
    disk.KeepsDirectories (disk.write path entry) := by
  refine keepsDirectories_of_lookup (fun place hdirectory => .inr ?_) fun place _ below hmem hholds =>
    exists_holds_write ⟨below, hmem, hholds⟩ entry
  have hne : place ≠ .ofPath path := by
    rintro rfl
    exact h hdirectory
  rw [lookup_write, if_neg hne]

/-- **A file is found** where it has been made. -/
theorem find_write (hplace : disk.checkPlace path = .ok ()) (h : disk.find path ≠ .ok .directory)
    (entry : DiskEntry) : (disk.write path entry).find path = .ok entry := by
  rw [find_of_checkPlace hplace] at h
  have hkeeps := keepsDirectories_write h entry
  rw [find_of_checkPlace (hkeeps.checkPlace hplace), entryAt, lookup_write, if_pos rfl]

/-! ## Overwriting -/

section Overwriting

variable (hentry : disk.entryAt (.ofPath path) = .ok entry) (hfile : entry ≠ .directory)

include hentry hfile

/-- Overwriting a file changes what there is at its place, and nothing else. -/
theorem entryAt_overwrite (next : DiskEntry) (place : Place) : (disk.write path next).entryAt place
    = if place = .ofPath path then .ok next else disk.entryAt place := by
  by_cases heq : place = .ofPath path
  · rw [if_pos heq, entryAt, lookup_write, if_pos heq]
  · rw [if_neg heq, entryAt, lookup_write, if_neg heq, entryAt]
    have hbelow : ((disk.write path next).entries.any fun other => place.holds other.1)
        = disk.entries.any fun other => place.holds other.1 := by
      rw [Bool.eq_iff_iff, List.any_eq_true, List.any_eq_true]
      constructor
      · rintro ⟨below, hmem, hholds⟩
        rcases List.mem_cons.mp hmem with rfl | hmem
        · -- the file was there before
          exact ⟨_, mem_of_lookup (lookup_of_file hentry hfile), hholds⟩
        · exact ⟨below, List.mem_of_mem_filter hmem, hholds⟩
      · exact fun h => exists_holds_write h next
    rw [hbelow]

variable {next : DiskEntry} (hnext : next ≠ .directory)

include hnext

/-- Overwriting a file with another one leaves all directories as they are, and makes no new ones. -/
theorem checkDirectory_overwrite (place : Place) :
    (disk.write path next).checkDirectory place = disk.checkDirectory place := by
  unfold checkDirectory
  rw [entryAt_overwrite hentry hfile]
  by_cases heq : place = .ofPath path
  · rw [if_pos heq, heq, hentry]
    cases entry <;> cases next <;> first | rfl | exact absurd rfl hfile | exact absurd rfl hnext
  · rw [if_neg heq]

theorem follow_overwrite (parts : List String) :
    ∀ place, (disk.write path next).follow place parts = disk.follow place parts := by
  induction parts with
  | nil => exact fun _ => rfl
  | cons part parts ih =>
    intro place
    rw [Disk.follow, Disk.follow, checkDirectory_overwrite hentry hfile hnext, ih]

end Overwriting

/-- **Overwriting a file** changes what those paths lead to that led to the file. -/
theorem find_overwrite (h : disk.find path = .ok entry) (hfile : entry ≠ .directory) {next : DiskEntry}
    (hnext : next ≠ .directory) (somePath : String) :
    (disk.write path next).find somePath = disk.find somePath ∨
      disk.find somePath = .ok entry ∧ (disk.write path next).find somePath = .ok next := by
  obtain ⟨_, _, hentry⟩ := way_of_find h
  unfold find resolve
  rw [follow_overwrite hentry hfile hnext]
  cases PathText.checkLength somePath with
  | error problem => exact .inl rfl
  | ok _ =>
    cases PathText.checkText somePath with
    | error problem => exact .inl rfl
    | ok _ =>
      simp only [bind, Except.bind]
      split
      · exact .inl rfl
      · cases disk.follow (.start somePath) (PathText.parts somePath) with
        | error problem => exact .inl rfl
        | ok place =>
          simp only [checkDirectory_overwrite hentry hfile hnext, entryAt_overwrite hentry hfile]
          by_cases heq : place = .ofPath path
          · subst heq
            -- a slash at the end asks for a directory, before and after
            have hnone : disk.checkDirectory (.ofPath path) = .error .notADirectory := by
              unfold checkDirectory
              rw [hentry]
              cases entry <;> first | rfl | exact absurd rfl hfile
            simp only [if_true, hentry, hnone]
            split
            · exact .inl rfl
            · exact .inr ⟨rfl, rfl⟩
          · simp only [if_neg heq, true_or]

/-! ## Trees -/

/-- Nothing lies below a file. -/
def IsTree (disk : Disk) : Prop :=
  ∀ place entry, disk.entryAt place = .ok entry → entry ≠ .directory →
    ∀ below ∈ disk.entries, place.holds below.1 = true → below.1 = place

/-- A file is not above a directory. -/
theorem IsTree.holds_directory (htree : disk.IsTree) {place directory : Place}
    (hentry : disk.entryAt place = .ok entry) (hfile : entry ≠ .directory)
    (hdirectory : disk.entryAt directory = .ok .directory) : place.holds directory = false := by
  rw [Bool.eq_false_iff]
  intro hholds
  have hne : directory ≠ place := by
    rintro rfl
    rw [hentry] at hdirectory
    exact hfile (Except.ok.inj hdirectory)
  rcases entryAt_eq_directory_iff.mp hdirectory with hput | ⟨_, hroot | ⟨below, hmem, hbelow⟩⟩
  · exact hne (htree _ _ hentry hfile _ (mem_of_lookup hput) hholds)
  · refine hne (Place.holds_antisymm (Place.holds_iff.mpr ⟨(Place.holds_iff.mp hholds).1.symm, ?_⟩) hholds)
    rw [hroot]
    exact List.nil_prefix
  · have heq := htree _ _ hentry hfile below hmem (Place.holds_trans hholds hbelow)
    exact hne (Place.holds_antisymm (heq ▸ hbelow) hholds)

/-- A file is made in a directory. -/
theorem parent_of_checkPlace (h : disk.checkPlace path = .ok ()) :
    disk.entryAt (Place.ofPath path).parent = .ok .directory := by
  obtain ⟨_, hnames, hfollow⟩ := checkPlace_eq_ok_iff.mp h
  obtain ⟨ancestors, name, hparts, hdot, hdots⟩ := hnames.name
  rw [hparts] at hfollow
  obtain ⟨directory, _, hlast⟩ := follow_append_eq_ok_iff.mp hfollow
  obtain ⟨hdirectory, _, hlast⟩ := follow_cons_eq_ok_iff.mp hlast
  have hparent : (Place.ofPath path).parent = directory := by
    rw [← Except.ok.inj hlast, Place.step, if_neg hdot, if_neg hdots]
    simp [Place.parent]
  exact hparent ▸ hdirectory

/-- **A tree stays a tree** when a file is made or overwritten. -/
theorem IsTree.write (htree : disk.IsTree) (hplace : disk.checkPlace path = .ok ())
    (h : disk.find path ≠ .ok .directory) (next : DiskEntry) : (disk.write path next).IsTree := by
  rw [find_of_checkPlace hplace] at h
  intro place entry hentry hfile below hmem hholds
  by_cases heq : place = .ofPath path
  · subst heq
    rcases List.mem_cons.mp hmem with rfl | hmem
    · rfl
    · have hmem := List.mem_of_mem_filter hmem
      -- what was above something was a directory, unless it was that thing itself
      cases hold : disk.entryAt (.ofPath path) with
      | ok old => exact htree _ _ hold (fun hdirectory => h (hdirectory ▸ hold)) below hmem hholds
      | error problem =>
        unfold entryAt at hold
        split at hold
        · cases hold
        · rw [List.any_eq_true.mpr ⟨below, hmem, hholds⟩, Bool.or_true, if_pos rfl] at hold
          cases hold
  · have hlookup := lookup_of_file hentry hfile
    rw [lookup_write, if_neg heq] at hlookup
    have hold := entryAt_of_lookup hlookup
    rcases List.mem_cons.mp hmem with rfl | hmem
    · have hparent := htree.holds_directory hold hfile (parent_of_checkPlace hplace)
      rw [Place.holds_parent hholds heq] at hparent
      cases hparent
    · exact htree _ _ hold hfile below (List.mem_of_mem_filter hmem) hholds

/-! ## Taking files away -/

/-- What there is at a place after a file has been taken away somewhere. -/
theorem lookup_erase (disk : Disk) (path : String) (place : Place) :
    (disk.erase path).entries.lookup place
      = if place = (Place.ofPath path).parent then some .directory
        else if place = .ofPath path then none else disk.entries.lookup place := by
  unfold erase
  dsimp only
  by_cases hparent : place = (Place.ofPath path).parent
  · rw [if_pos hparent, hparent, List.lookup_cons_self]
  · rw [if_neg hparent, List.lookup_cons, beq_eq_false_iff_ne.mpr hparent]
    dsimp only
    by_cases hown : place = .ofPath path
    · rw [if_pos hown, List.lookup_eq_none_iff]
      intro other hother
      have hkept := (Bool.and_eq_true_iff.mp (List.mem_filter.mp hother).2).1
      exact bne_iff_ne.mpr (hown ▸ Ne.symm (bne_iff_ne.mp hkept))
    · rw [if_neg hown]
      exact lookup_filter_of_true fun _ =>
        Bool.and_eq_true_iff.mpr ⟨bne_iff_ne.mpr hown, bne_iff_ne.mpr hparent⟩

/-- Taking a file away leaves all directories. -/
theorem keepsDirectories_erase (h : disk.entryAt (.ofPath path) ≠ .ok .directory) :
    disk.KeepsDirectories (disk.erase path) := by
  refine keepsDirectories_of_lookup (fun place hdirectory => ?_) fun place hdirectory below hmem hholds => ?_
  all_goals
    have hne : place ≠ .ofPath path := by
      rintro rfl
      exact h hdirectory
  · rw [lookup_erase, if_neg hne]
    split
    · exact .inl rfl
    · exact .inr rfl
  · by_cases hgone : below.1 = .ofPath path ∨ below.1 = (Place.ofPath path).parent
    · -- the directory of the file is put there for good
      refine ⟨((Place.ofPath path).parent, .directory), List.mem_cons_self, ?_⟩
      rcases hgone with heq | heq
      · exact Place.holds_parent (heq ▸ hholds) hne
      · exact heq ▸ hholds
    · rw [not_or] at hgone
      refine ⟨below, List.mem_cons_of_mem _ (List.mem_filter.mpr ⟨hmem, ?_⟩), hholds⟩
      exact Bool.and_eq_true_iff.mpr ⟨bne_iff_ne.mpr hgone.1, bne_iff_ne.mpr hgone.2⟩

/-- **A tree stays a tree** when a file is taken away. -/
theorem IsTree.erase (htree : disk.IsTree) (hplace : disk.checkPlace path = .ok ()) :
    (disk.erase path).IsTree := by
  intro place entry hentry hfile below hmem hholds
  have hold : disk.entryAt place = .ok entry := by
    have hlookup := lookup_of_file hentry hfile
    rw [lookup_erase] at hlookup
    split at hlookup
    · exact absurd (Option.some.inj hlookup).symm hfile
    · split at hlookup
      · cases hlookup
      · exact entryAt_of_lookup hlookup
  rcases List.mem_cons.mp hmem with rfl | hmem
  · have hparent := htree.holds_directory hold hfile (parent_of_checkPlace hplace)
    rw [hholds] at hparent
    cases hparent
  · exact htree _ _ hold hfile below (List.mem_of_mem_filter hmem) hholds

/-- **A file can be made again** where one has been taken away, and meanwhile there is nothing. -/
theorem find_erase (htree : disk.IsTree) (hnames : PathText.NamesFile path)
    (h : disk.find path = .ok entry) (hfile : entry ≠ .directory) :
    (disk.erase path).checkPlace path = .ok () ∧ (disk.erase path).find path = .error .nothingThere := by
  obtain ⟨_, _, hentry⟩ := way_of_find h
  have hplace : (disk.erase path).checkPlace path = .ok () := by
    refine (keepsDirectories_erase fun hdirectory => ?_).checkPlace (checkPlace_of_find hnames h)
    rw [hentry] at hdirectory
    exact hfile (Except.ok.inj hdirectory)
  obtain ⟨hnonempty, hparent⟩ := Place.ofPath_not_holds_parent hnames
  have hne : Place.ofPath path ≠ (Place.ofPath path).parent := by
    intro heq
    have hself : (Place.ofPath path).holds (.ofPath path) = true :=
      Place.holds_iff.mpr ⟨rfl, List.prefix_rfl⟩
    rw [← heq, hself] at hparent
    cases hparent
  have hbelow : ((disk.erase path).entries.any fun other => (Place.ofPath path).holds other.1) = false := by
    rw [List.any_eq_false]
    intro other hother hholds
    rcases List.mem_cons.mp hother with rfl | hother
    · rw [hparent] at hholds
      cases hholds
    · obtain ⟨hmem, hkept⟩ := List.mem_filter.mp hother
      exact bne_iff_ne.mp (Bool.and_eq_true_iff.mp hkept).1 (htree _ _ hentry hfile other hmem hholds)
  refine ⟨hplace, ?_⟩
  rw [find_of_checkPlace hplace, entryAt, lookup_erase, if_neg hne, if_pos rfl, hbelow]
  simp [hnonempty]

end Disk

end CompactGraph
