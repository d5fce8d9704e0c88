import Mathlib.Data.List.Basic
import TestExclusions.Proofs.Disk.Change
import TestExclusions.SuiteFile

/-! Which files are found below a root, and what their texts are. A file is found where it stands,
without a link on its way, so that writing one file leaves the texts of all others alone. -/
namespace TestExclusions

/-! ## Texts -/

/-- The text of a file's content. -/
def textOf (content : ByteArray) : Except FileError String :=
  match String.fromUTF8? content with
  | some text => .ok text
  | none => .error .notUtf8

@[simp] theorem textOf_toUTF8 (text : String) : textOf text.toUTF8 = .ok text := by
  have hvalid : text.toUTF8.IsValidUTF8 := text.isValidUTF8
  unfold textOf
  rw [String.fromUTF8?, dif_pos hvalid]
  rfl

theorem toUTF8_of_textOf {content : ByteArray} {text : String} (h : textOf content = .ok text) :
    content = text.toUTF8 := by
  unfold textOf at h
  split at h
  · rename_i found hfound
    cases h
    unfold String.fromUTF8? at hfound
    split at hfound
    · cases hfound
      rfl
    · cases hfound
  · cases h

theorem SuiteFile.path_of_ofNames? {root : Path} {names : List Bytes} {file : SuiteFile}
    (h : ofNames? root names = some file) : file.path = root.enter names := by
  unfold ofNames? at h
  split at h
  · cases h
  · dsimp only at h
    split at h
    · cases h
      rfl
    · cases h

namespace Disk

theorem readText_of_find {disk : Disk} {path : Path} {place : Place} {content : ByteArray}
    (hfind : disk.find path = .ok place) (hfile : disk.get? place = some (.file content)) :
    disk.readText path = textOf content := by
  have hread : disk.read path = .ok content := by simp [read, hfind, hfile]
  rw [readText, hread]
  rfl

theorem readText_eq_ok_iff {disk : Disk} {path : Path} {text : String} :
    disk.readText path = .ok text ↔ ∃ place content, disk.find path = .ok place ∧
      disk.get? place = some (.file content) ∧ textOf content = .ok text := by
  constructor
  · intro h
    unfold readText read at h
    cases hfind : disk.find path with
    | error e => simp [hfind] at h
    | ok place =>
      rw [hfind] at h
      dsimp only at h
      split at h
      · cases h
      · rename_i content hcontent
        split at hcontent
        · rename_i bytes hfile
          cases hcontent
          exact ⟨place, content, rfl, hfile, h⟩
        · cases hcontent
  · rintro ⟨place, content, hfind, hfile, htext⟩
    rw [readText_of_find hfind hfile, htext]

theorem readText_eq_notFound {disk : Disk} {path : Path}
    (h : disk.readText path = .error .notFound) : disk.find path = .error .notFound := by
  unfold readText read at h
  cases hfind : disk.find path with
  | error e =>
    rw [hfind] at h
    cases h
    rfl
  | ok place =>
    rw [hfind] at h
    dsimp only at h
    split at h
    · rename_i e he
      split at he
      · cases he
      · cases he
        cases h
    · split at h <;> cases h

/-! ## Names below a place -/

/-- The names that lead from a place to an entry below it, if that is a wanted one. -/
def namesTo? (wanted : Item → Bool) (place : Place) : Place × Item → Option (List Bytes)
  | (found, item) =>
    if wanted item && place.isPrefixOf found && found.length > place.length then
      some (found.drop place.length)
    else none

theorem namesTo?_eq_some_iff {wanted : Item → Bool} {place found : Place} {item : Item}
    {names : List Bytes} : namesTo? wanted place (found, item) = some names ↔
      wanted item = true ∧ names ≠ [] ∧ found = place ++ names := by
  rw [namesTo?]
  constructor
  · intro h
    split at h
    · rename_i hbelow
      cases h
      rw [Bool.and_eq_true, Bool.and_eq_true, List.isPrefixOf_iff_prefix, decide_eq_true_eq]
        at hbelow
      obtain ⟨⟨hwanted, ⟨names, rfl⟩⟩, hlength⟩ := hbelow
      rw [List.drop_left]
      refine ⟨hwanted, ?_, rfl⟩
      rintro rfl
      simp at hlength
    · cases h
  · rintro ⟨hwanted, hnames, rfl⟩
    have hlength : 0 < names.length := List.length_pos_iff.mpr hnames
    simp [hwanted, hlength]

theorem namesBelow_eq (disk : Disk) (wanted : Item → Bool) (place : Place) :
    disk.namesBelow wanted place = disk.items.filterMap (namesTo? wanted place) := rfl

theorem mem_namesBelow {disk : Disk} (hdisk : disk.WellFormed) {wanted : Item → Bool}
    {place : Place} {names : List Bytes} : names ∈ disk.namesBelow wanted place ↔
      names ≠ [] ∧ ∃ item, disk.get? (place ++ names) = some item ∧ wanted item = true := by
  rw [namesBelow_eq, List.mem_filterMap]
  constructor
  · rintro ⟨⟨found, item⟩, hmem, h⟩
    have hget := get?_of_mem hdisk hmem
    obtain ⟨hwanted, hnames, rfl⟩ := namesTo?_eq_some_iff.mp h
    exact ⟨hnames, item, hget, hwanted⟩
  · rintro ⟨hnames, item, hitem, hwanted⟩
    exact ⟨(place ++ names, item), mem_of_get? (by simp [hnames]) hitem,
      namesTo?_eq_some_iff.mpr ⟨hwanted, hnames, rfl⟩⟩

theorem mem_filesBelow {disk : Disk} (hdisk : disk.WellFormed) {place : Place}
    {names : List Bytes} : names ∈ disk.namesBelow Item.isFile place ↔
      names ≠ [] ∧ ∃ content, disk.get? (place ++ names) = some (.file content) := by
  rw [mem_namesBelow hdisk]
  refine and_congr_right fun _ => ⟨?_, fun ⟨content, h⟩ => ⟨_, h, rfl⟩⟩
  rintro ⟨item, hitem, hfile⟩
  cases item with
  | file content => exact ⟨content, hitem⟩
  | directory | link => cases hfile

theorem mem_directoriesBelow {disk : Disk} (hdisk : disk.WellFormed) {place : Place}
    {names : List Bytes} : names ∈ disk.namesBelow Item.isDirectory place ↔
      names ≠ [] ∧ disk.get? (place ++ names) = some .directory := by
  rw [mem_namesBelow hdisk]
  refine and_congr_right fun _ => ⟨?_, fun h => ⟨_, h, rfl⟩⟩
  rintro ⟨item, hitem, hdirectory⟩
  cases item with
  | directory => exact hitem
  | file | link => cases hdirectory

theorem filesBelow_of_addsDirectories {before after : Disk} (h : AddsDirectories before after)
    (place : Place) : after.namesBelow Item.isFile place = before.namesBelow Item.isFile place := by
  obtain ⟨-, -, places, hitems⟩ := h
  have hnone : (places.map fun place => (place, Item.directory)).filterMap
      (namesTo? Item.isFile place) = [] := by
    rw [List.filterMap_eq_nil_iff]
    intro e he
    obtain ⟨other, -, rfl⟩ := List.mem_map.mp he
    rfl
  rw [namesBelow_eq, namesBelow_eq, hitems, List.filterMap_append, hnone, List.append_nil]

theorem filesBelow_put_file {disk : Disk} (hdisk : disk.WellFormed) {place : Place}
    (hplace : place ≠ []) {old : ByteArray} (hfile : disk.get? place = some (.file old))
    (content : ByteArray) (root : Place) :
    (disk.put place (.file content)).namesBelow Item.isFile root =
      disk.namesBelow Item.isFile root := by
  have hsome : (disk.items.lookup place).isSome := by
    rw [← get?_eq_lookup hplace, hfile]
    rfl
  rw [namesBelow_eq, namesBelow_eq, put]
  dsimp only
  rw [any_eq_isSome_lookup, if_pos hsome, List.filterMap_map]
  apply List.filterMap_congr
  rintro ⟨found, item⟩ hmem
  by_cases hfound : found = place
  · subst hfound
    rw [get?_of_mem hdisk hmem] at hfile
    cases hfile
    simp [namesTo?, Item.isFile]
  · simp [hfound]

theorem filesBelow_put_new {disk : Disk} {place : Place} (hplace : place ≠ [])
    (hfree : disk.get? place = none) (content : ByteArray) (root : Place) :
    (disk.put place (.file content)).namesBelow Item.isFile root =
      disk.namesBelow Item.isFile root ++
        (namesTo? Item.isFile root (place, .file content)).toList := by
  have hnone : ¬(disk.items.lookup place).isSome := by
    rw [← get?_eq_lookup hplace, hfree]
    simp
  rw [namesBelow_eq, namesBelow_eq, put]
  dsimp only
  rw [any_eq_isSome_lookup, if_neg hnone, List.filterMap_append, List.filterMap_cons,
    List.filterMap_nil]
  cases namesTo? Item.isFile root (place, .file content) <;> rfl

/-! ## Suite files -/

theorem directory?_eq_some_iff {disk : Disk} {root : Path} {place : Place} :
    disk.directory? root = some place ↔
      disk.find root = .ok place ∧ disk.get? place = some .directory := by
  unfold directory?
  cases disk.find root with
  | error e => simp
  | ok found =>
    dsimp only
    split
    · rename_i hfound
      constructor
      · intro h
        cases h
        exact ⟨rfl, hfound⟩
      · rintro ⟨h, -⟩
        cases h
        rfl
    · rename_i hfound
      constructor
      · intro h
        cases h
      · rintro ⟨h, hplace⟩
        cases h
        exact absurd hplace hfound

theorem bytes_ne_of_directory? {disk : Disk} {root : Path} {place : Place}
    (h : disk.directory? root = some place) : root.bytes ≠ [] :=
  bytes_ne_of_find (directory?_eq_some_iff.mp h).1

theorem directory?_of_grows {before after : Disk} (hgrows : Grows before after) {root : Path}
    {place : Place} (h : before.directory? root = some place) :
    after.directory? root = some place := by
  obtain ⟨hfind, hplace⟩ := directory?_eq_some_iff.mp h
  exact directory?_eq_some_iff.mpr ⟨find_of_grows hgrows hfind, hgrows.directory _ hplace⟩

theorem openDirectory_of_find {disk : Disk} {path : Path} {place : Place}
    (hfind : disk.find path = .ok place) (hplace : disk.get? place = some .directory) :
    disk.openDirectory path =
      if place ∈ disk.unlistable then .error .permissionDenied else .ok place := by
  simp [openDirectory, hfind, hplace]

theorem openDirectory_eq_ok_iff {disk : Disk} {path : Path} {place : Place} :
    disk.openDirectory path = .ok place ↔
      disk.directory? path = some place ∧ place ∉ disk.unlistable := by
  rw [directory?_eq_some_iff]
  unfold openDirectory
  cases disk.find path with
  | error e => simp
  | ok found =>
    dsimp only
    split
    · rename_i hfound
      constructor
      · intro h
        cases h
      · rintro ⟨⟨h, hplace⟩, -⟩
        cases h
        exact absurd hplace hfound
    · rename_i hfound
      split
      · rename_i hunlistable
        constructor
        · intro h
          cases h
        · rintro ⟨⟨h, -⟩, hlistable⟩
          cases h
          exact absurd hunlistable hlistable
      · rename_i hlistable
        constructor
        · intro h
          cases h
          exact ⟨⟨rfl, not_not.mp hfound⟩, hlistable⟩
        · rintro ⟨⟨h, -⟩, -⟩
          cases h
          rfl

theorem openDirectory_of_grows {before after : Disk} (hgrows : Grows before after) {path : Path}
    {place : Place} (h : before.openDirectory path = .ok place) :
    after.openDirectory path = .ok place := by
  obtain ⟨hpath, hlistable⟩ := openDirectory_eq_ok_iff.mp h
  rw [openDirectory_eq_ok_iff, hgrows.unlistable]
  exact ⟨directory?_of_grows hgrows hpath, hlistable⟩

/-- Names lead from a place to a directory that a walk from there enters: none of them is hidden.
The walk enters the place itself as well. -/
def Visible (disk : Disk) (place : Place) (names : List Bytes) : Prop :=
  names.any SuiteFile.isHidden = false ∧ disk.get? (place ++ names) = some .directory

/-- Every directory that a walk from a root enters, the root included, can be listed by its path. -/
def Listable (disk : Disk) (root : Path) (place : Place) : Prop :=
  ∀ names, Visible disk place names → ∃ found, disk.openDirectory (root.enter names) = .ok found

theorem listingFault?_eq_none_iff {disk : Disk} {root : Path} {names : List Bytes} :
    disk.listingFault? root names = none ↔
      ∃ found, disk.openDirectory (root.enter names) = .ok found := by
  unfold listingFault?
  cases h : disk.openDirectory (root.enter names) <;> simp [h]

theorem mem_walked {disk : Disk} (hdisk : disk.WellFormed) {place : Place}
    (hplace : disk.get? place = some .directory) {names : List Bytes} :
    names ∈ disk.walked place ↔ Visible disk place names := by
  rw [Visible, walked, List.mem_cons, Sorted.mem_sort, List.mem_filter, mem_directoriesBelow hdisk,
    Bool.not_eq_true']
  by_cases hnil : names = []
  · simp [hnil, hplace]
  · simp [hnil, and_comm]

theorem listable_iff {disk : Disk} (hdisk : disk.WellFormed) {root : Path} {place : Place}
    (hplace : disk.get? place = some .directory) : Listable disk root place ↔
      (disk.walked place).findSome? (disk.listingFault? root) = none := by
  simp only [List.findSome?_eq_none_iff, mem_walked hdisk hplace, listingFault?_eq_none_iff,
    Listable]

theorem suiteFiles_eq_ok_iff {disk : Disk} (hdisk : disk.WellFormed) {root : Path}
    {found : List SuiteFile} : disk.suiteFiles root = .ok found ↔
      ∃ place, disk.directory? root = some place ∧ Listable disk root place ∧
        found = disk.suiteFilesBelow root place := by
  unfold suiteFiles
  cases hroot : disk.directory? root with
  | none => simp
  | some place =>
    obtain ⟨-, hplace⟩ := directory?_eq_some_iff.mp hroot
    simp only [Option.some.injEq, exists_eq_left', listable_iff hdisk hplace]
    cases (disk.walked place).findSome? (disk.listingFault? root) with
    | none => simp [eq_comm]
    | some fault => simp

/-- The names that lead from a root to a suite file, and what the file holds. -/
structure FoundAt (disk : Disk) (root : Path) (place : Place) (file : SuiteFile)
    (names : List Bytes) (content : ByteArray) : Prop where
  nonempty : names ≠ []
  content : disk.get? (place ++ names) = some (.file content)
  named : SuiteFile.ofNames? root names = some file

section Root
variable {disk : Disk} (hdisk : disk.WellFormed) {root : Path} {place : Place}
include hdisk

theorem mem_suiteFilesBelow {file : SuiteFile} : file ∈ disk.suiteFilesBelow root place ↔
    ∃ names content, FoundAt disk root place file names content := by
  rw [suiteFilesBelow, Sorted.mem_sort, List.mem_filterMap]
  constructor
  · rintro ⟨names, hnames, hfile⟩
    obtain ⟨hne, content, hcontent⟩ := (mem_filesBelow hdisk).mp hnames
    exact ⟨names, content, hne, hcontent, hfile⟩
  · rintro ⟨names, content, hne, hcontent, hfile⟩
    exact ⟨names, (mem_filesBelow hdisk).mpr ⟨hne, content, hcontent⟩, hfile⟩

variable (hroot : disk.directory? root = some place)
include hroot

theorem suiteFiles_eq_of_ok {found : List SuiteFile} (hfound : disk.suiteFiles root = .ok found) :
    Listable disk root place ∧ found = disk.suiteFilesBelow root place := by
  obtain ⟨place', hroot', h⟩ := (suiteFiles_eq_ok_iff hdisk).mp hfound
  obtain rfl : place = place' := Option.some.inj (hroot.symm.trans hroot')
  exact h

theorem mem_suiteFiles {found : List SuiteFile} (hfound : disk.suiteFiles root = .ok found)
    {file : SuiteFile} :
    file ∈ found ↔ ∃ names content, FoundAt disk root place file names content := by
  obtain ⟨-, rfl⟩ := suiteFiles_eq_of_ok hdisk hroot hfound
  exact mem_suiteFilesBelow hdisk

/-- Only its path decides whether a suite file can be reached. -/
theorem FoundAt.find {file : SuiteFile} {names : List Bytes} {content : ByteArray}
    (h : FoundAt disk root place file names content) :
    disk.find file.path = reach root place names := by
  obtain ⟨hfind, -⟩ := directory?_eq_some_iff.mp hroot
  rw [SuiteFile.path_of_ofNames? h.named]
  exact find_enter hfind hdisk h.nonempty h.content (by simp)

theorem FoundAt.readText {file : SuiteFile} {names : List Bytes} {content : ByteArray}
    (h : FoundAt disk root place file names content) :
    disk.readText file.path = match reach root place names with
      | .ok _ => textOf content
      | .error e => .error e := by
  have hfind := h.find hdisk hroot
  cases hreach : reach root place names with
  | ok found =>
    rw [hreach] at hfind
    obtain rfl := eq_of_reach hreach
    exact readText_of_find hfind h.content
  | error e =>
    rw [hreach] at hfind
    simp [Disk.readText, read, hfind]

/-- A suite file that is found can be reached or not, but it is not missing. -/
theorem FoundAt.readText_ne {file : SuiteFile} {names : List Bytes} {content : ByteArray}
    (h : FoundAt disk root place file names content) :
    disk.readText file.path ≠ .error .notFound := by
  obtain ⟨hfind, -⟩ := directory?_eq_some_iff.mp hroot
  intro hread
  have hmissing := readText_eq_notFound hread
  rw [h.find hdisk hroot] at hmissing
  exact reach_ne_notFound (bytes_ne_of_find hfind) (isName_of_get?_append hdisk h.content) hmissing

end Root

/-! ## Suite files on a grown disk -/

theorem suiteFilesBelow_of_addsDirectories {before after : Disk} (h : AddsDirectories before after)
    (root : Path) (place : Place) :
    after.suiteFilesBelow root place = before.suiteFilesBelow root place := by
  rw [suiteFilesBelow, filesBelow_of_addsDirectories h, suiteFilesBelow]

/-- The suite file that a new file becomes, if it lies below the root and names a suite. -/
def newSuiteFile? (root : Path) (place written : Place) : Option SuiteFile :=
  (namesTo? Item.isFile place (written, .file ByteArray.empty)).bind (SuiteFile.ofNames? root)

/-- A file that is written again changes no suite file, a new one can become one. -/
theorem suiteFilesBelow_of_writes {before after : Disk} (hdisk : before.WellFormed) {path : Path}
    {content : ByteArray} {written : Place} (h : Writes before path content written after)
    (root : Path) (place : Place) :
    (∃ old, before.get? written = some (.file old)) ∧
        after.suiteFilesBelow root place = before.suiteFilesBelow root place ∨
      before.get? written = none ∧ (after.suiteFilesBelow root place).Perm
        (before.suiteFilesBelow root place ++ (newSuiteFile? root place written).toList) := by
  unfold suiteFilesBelow
  cases hold : before.get? written with
  | some item =>
    obtain ⟨old, rfl⟩ := h.replaced _ hold
    refine .inl ⟨⟨old, rfl⟩, ?_⟩
    rw [h.put, filesBelow_put_file hdisk h.nonempty hold]
  | none =>
    have hnew : (namesTo? Item.isFile place (written, .file content)).toList.filterMap
        (SuiteFile.ofNames? root) = (newSuiteFile? root place written).toList := by
      have hnames : namesTo? Item.isFile place (written, .file content) =
          namesTo? Item.isFile place (written, .file ByteArray.empty) := rfl
      rw [hnames, newSuiteFile?]
      cases namesTo? Item.isFile place (written, .file ByteArray.empty) with
      | none => rfl
      | some names => cases hfile : SuiteFile.ofNames? root names <;> simp [hfile]
    refine .inr ⟨rfl, (Sorted.sort_perm _ _).trans ?_⟩
    rw [h.put, filesBelow_put_new h.nonempty hold, List.filterMap_append, hnew]
    exact (Sorted.sort_perm _ _).symm.append_right _

theorem newSuiteFile?_eq_some_iff {root : Path} {place written : Place} {file : SuiteFile} :
    newSuiteFile? root place written = some file ↔ ∃ names, names ≠ [] ∧
      written = place ++ names ∧ SuiteFile.ofNames? root names = some file := by
  rw [newSuiteFile?, Option.bind_eq_some_iff]
  simp only [namesTo?_eq_some_iff, Item.isFile, true_and, and_assoc]

end Disk
end TestExclusions
