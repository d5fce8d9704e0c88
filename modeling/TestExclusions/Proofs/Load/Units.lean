import TestExclusions.Proofs.Disk.Making
import TestExclusions.Proofs.Load.Accounting
import TestExclusions.Proofs.Load.Traversal
import TestExclusions.Proofs.SuiteName

/-! The units below a root. They are the files that directories, a stem and an extension name, and
nothing else on a disk has a say in which they are or in how they are loaded. -/
namespace TestExclusions
open Sorted (Increasing)

namespace Disk

/-- A file that defines a suite stands below a place, and no directory on the way to it is a
link. -/
structure UnitAt (disk : Disk) (root : Path) (place : Place) (directories : List Bytes)
    (stem : Bytes) (extension : String) (file : SuiteFile) : Prop where
  named : SuiteFile.NamedBy root directories stem extension file
  way : ∀ front, front <+: directories → disk.get? (place ++ front) = some .directory
  regular : ∃ content,
    disk.get? (place ++ SuiteFile.namesOf directories stem extension) = some (.file content)

/-- The same directories, of which the same can be listed, and the same files that can define suites
stand below two places, if what is hidden is left out. Links, files of other kinds and contents may
differ. -/
structure SameUnits (disk other : Disk) (place place' : Place) : Prop where
  directory : ∀ names, names.any SuiteFile.isHidden = false →
    (other.get? (place' ++ names) = some .directory ↔
      disk.get? (place ++ names) = some .directory)
  unlistable : ∀ names, names.any SuiteFile.isHidden = false →
    (place' ++ names ∈ other.unlistable ↔ place ++ names ∈ disk.unlistable)
  file : ∀ directories stem extension, extension ∈ ["rb", "txt", "toml", "json"] →
    (SuiteFile.namesOf directories stem extension).any SuiteFile.isHidden = false →
      ((∃ content, other.get? (place' ++ SuiteFile.namesOf directories stem extension) =
          some (.file content)) ↔
        ∃ content, disk.get? (place ++ SuiteFile.namesOf directories stem extension) =
          some (.file content))

/-- The same directories, of which the same can be listed, and the same files that can define suites
with the same contents stand below two places, if what is hidden is left out. Links and files of
other kinds may differ. -/
structure SameDefinitions (disk other : Disk) (place place' : Place) : Prop where
  directory : ∀ names, names.any SuiteFile.isHidden = false →
    (other.get? (place' ++ names) = some .directory ↔
      disk.get? (place ++ names) = some .directory)
  unlistable : ∀ names, names.any SuiteFile.isHidden = false →
    (place' ++ names ∈ other.unlistable ↔ place ++ names ∈ disk.unlistable)
  content : ∀ directories stem extension, extension ∈ ["rb", "txt", "toml", "json"] →
    (SuiteFile.namesOf directories stem extension).any SuiteFile.isHidden = false → ∀ content,
      (other.get? (place' ++ SuiteFile.namesOf directories stem extension) =
          some (.file content) ↔
        disk.get? (place ++ SuiteFile.namesOf directories stem extension) = some (.file content))

theorem SameDefinitions.refl (disk : Disk) (place : Place) :
    SameDefinitions disk disk place place :=
  ⟨fun _ _ => .rfl, fun _ _ => .rfl, fun _ _ _ _ _ _ => .rfl⟩

theorem SameDefinitions.sameUnits {disk other : Disk} {place place' : Place}
    (h : SameDefinitions disk other place place') : SameUnits disk other place place' :=
  ⟨h.directory, h.unlistable, fun directories stem extension hextension hvisible =>
    exists_congr (h.content directories stem extension hextension hvisible)⟩

/-! ## Which files are units -/

/-- A file stands in directories alone. -/
theorem directory_of_prefix {disk : Disk} (hdisk : disk.WellFormed) {place directories : Place}
    {stem : Bytes} {extension : String} {item : Item}
    (hitem : disk.get? (place ++ SuiteFile.namesOf directories stem extension) = some item)
    {front : Place} (hfront : front <+: directories) :
    disk.get? (place ++ front) = some .directory := by
  obtain ⟨back, rfl⟩ := hfront
  rw [SuiteFile.namesOf, List.append_assoc, ← List.append_assoc place] at hitem
  exact directory_of_get?_append hdisk (by simp) hitem

section Root
variable {disk : Disk} (hdisk : disk.WellFormed) {root : Path} {place : Place}
  (hroot : disk.directory? root = some place)
include hdisk hroot

/-- The files that are found are the units that no hidden name leads to. -/
theorem mem_suiteFilesBelow_iff_unitAt {file : SuiteFile} :
    file ∈ disk.suiteFilesBelow root place ↔ ∃ directories stem extension,
      UnitAt disk root place directories stem extension file ∧
        (SuiteFile.namesOf directories stem extension).any SuiteFile.isHidden = false := by
  have hbytes := bytes_ne_of_directory? hroot
  rw [mem_suiteFilesBelow hdisk]
  constructor
  · rintro ⟨names, content, -, hcontent, hfile⟩
    have hnames := isName_of_get?_append hdisk hcontent
    obtain ⟨hvisible, directories, stem, extension, rfl, hnamed⟩ :=
      (SuiteFile.ofNames?_eq_some_iff hbytes hnames).mp hfile
    exact ⟨directories, stem, extension,
      ⟨hnamed, fun _ hfront => directory_of_prefix hdisk hcontent hfront, content, hcontent⟩,
      hvisible⟩
  · rintro ⟨directories, stem, extension, ⟨hnamed, -, content, hcontent⟩, hvisible⟩
    have hnames := isName_of_get?_append hdisk hcontent
    exact ⟨_, content, by simp [SuiteFile.namesOf], hcontent,
      (SuiteFile.ofNames?_eq_some_iff hbytes hnames).mpr ⟨hvisible, _, _, _, rfl, hnamed⟩⟩

/-- No file below a root is without the name of a suite. -/
theorem suiteName?_isSome {names : List Bytes} (hnil : names ≠ []) {item : Item}
    (hitem : disk.get? (place ++ names) = some item) :
    (SuiteFile.suiteName? root (root.enter names)).isSome := by
  have hbytes := bytes_ne_of_directory? hroot
  have hnames := isName_of_get?_append hdisk hitem
  rw [SuiteFile.suiteName?_enter hbytes hnames, SuiteFile.suiteOfNames?, Option.isSome_map]
  simpa using hnil

end Root

/-! ## What has a say -/

/-- Whether names can be followed depends on the root's path, not on its place. -/
theorem reach_eq_error_iff {root : Path} {names : List Bytes} {cause : FileError}
    (place place' : Place) :
    reach root place names = .error cause ↔ reach root place' names = .error cause := by
  unfold reach
  cases (root.enter names).refusal? with
  | some e => rfl
  | none =>
    dsimp only
    split
    · rfl
    · simp

theorem find_of_visible {disk : Disk} (hdisk : disk.WellFormed) {root : Path} {place : Place}
    (hroot : disk.directory? root = some place) {names : List Bytes}
    (hnames : Visible disk place names) :
    disk.find (root.enter names) = reach root place names := by
  obtain ⟨hfind, -⟩ := directory?_eq_some_iff.mp hroot
  cases names with
  | nil => simpa [reach, Path.enter, refusal?_of_directory? hroot] using hfind
  | cons first rest => exact find_enter hfind hdisk (by simp) hnames.2 (by simp)

/-- Whether a directory can be opened depends on its path from the root and on itself. -/
theorem openDirectory_of_visible {disk : Disk} (hdisk : disk.WellFormed) {root : Path}
    {place : Place} (hroot : disk.directory? root = some place) {names : List Bytes}
    (hnames : Visible disk place names) : disk.openDirectory (root.enter names) =
      match reach root place names with
      | .error e => .error e
      | .ok _ => if place ++ names ∈ disk.unlistable then .error .permissionDenied
        else .ok (place ++ names) := by
  have hfind := find_of_visible hdisk hroot hnames
  cases hreach : reach root place names with
  | error e => rw [openDirectory, hfind, hreach]
  | ok found =>
    obtain rfl := eq_of_reach hreach
    exact openDirectory_of_find (hfind.trans hreach) hnames.2

section Same
variable {disk other : Disk} {place place' : Place} (hsame : SameUnits disk other place place')
  (hdisk : disk.WellFormed) (hother : other.WellFormed)
include hsame hdisk hother

variable {root : Path} (hroot : disk.directory? root = some place)
  (hroot' : other.directory? root = some place')
include hroot hroot'

theorem SameUnits.walked_eq : other.walked place' = disk.walked place := by
  refine Increasing.ext (increasing_walked hother place') (increasing_walked hdisk place)
    fun names => ?_
  rw [mem_walked hother (directory?_eq_some_iff.mp hroot').2,
    mem_walked hdisk (directory?_eq_some_iff.mp hroot).2]
  exact and_congr_right fun hvisible => hsame.directory names hvisible

theorem SameUnits.listingFault?_eq {names : List Bytes} (hnames : Visible disk place names) :
    other.listingFault? root names = disk.listingFault? root names := by
  have hnames' : Visible other place' names :=
    ⟨hnames.1, (hsame.directory names hnames.1).mpr hnames.2⟩
  unfold listingFault?
  dsimp only
  rw [openDirectory_of_visible hother hroot' hnames', openDirectory_of_visible hdisk hroot hnames]
  cases hreach : reach root place' names with
  | error e => rw [(reach_eq_error_iff place' place).mp hreach]
  | ok _ =>
    cases hreach' : reach root place names with
    | error e =>
      rw [(reach_eq_error_iff place place').mp hreach'] at hreach
      cases hreach
    | ok _ => by_cases hunlistable : place ++ names ∈ disk.unlistable <;>
      simp [hunlistable, hsame.unlistable names hnames.1]

theorem SameUnits.suiteFilesBelow_eq :
    other.suiteFilesBelow root place' = disk.suiteFilesBelow root place := by
  refine Increasing.ext (increasing_suiteFilesBelow hother hroot')
    (increasing_suiteFilesBelow hdisk hroot) fun file => ?_
  rw [mem_suiteFilesBelow_iff_unitAt hother hroot', mem_suiteFilesBelow_iff_unitAt hdisk hroot]
  refine exists_congr fun directories => exists_congr fun stem => exists_congr fun extension => ?_
  refine and_congr_left fun hvisible => ?_
  have hregular : SuiteFile.NamedBy root directories stem extension file → _ := fun hnamed =>
    hsame.file directories stem extension
      (Format.mem_of_ofExtension? (Format.ofExtension?_eq_some_iff.mpr hnamed.format)) hvisible
  constructor
  · rintro ⟨hnamed, -, hfile⟩
    obtain ⟨content, hcontent⟩ := (hregular hnamed).mp hfile
    exact ⟨hnamed, fun front hfront => directory_of_prefix hdisk hcontent hfront,
      content, hcontent⟩
  · rintro ⟨hnamed, -, hfile⟩
    obtain ⟨content, hcontent⟩ := (hregular hnamed).mpr hfile
    exact ⟨hnamed, fun front hfront => directory_of_prefix hother hcontent hfront,
      content, hcontent⟩

/-- A walk finds the same where the same directories and the same files that can define suites
stand. -/
theorem SameUnits.suiteFiles_eq : other.suiteFiles root = disk.suiteFiles root := by
  have hfaults : (disk.walked place).findSome? (other.listingFault? root) =
      (disk.walked place).findSome? (disk.listingFault? root) := by
    rw [← List.head?_filterMap, ← List.head?_filterMap]
    refine congrArg List.head? (List.filterMap_congr fun names hnames => ?_)
    exact hsame.listingFault?_eq hdisk hother hroot hroot'
      ((mem_walked hdisk (directory?_eq_some_iff.mp hroot).2).mp hnames)
  unfold suiteFiles
  rw [hroot, hroot']
  dsimp only
  rw [hsame.walked_eq hdisk hother hroot hroot', hfaults,
    hsame.suiteFilesBelow_eq hdisk hother hroot hroot']

end Same

section Same
variable {disk other : Disk} {place place' : Place}
  (hsame : SameDefinitions disk other place place') (hdisk : disk.WellFormed)
  (hother : other.WellFormed) {root : Path} (hroot : disk.directory? root = some place)
  (hroot' : other.directory? root = some place')
include hsame hdisk hother hroot hroot'

theorem SameDefinitions.readText_eq {file : SuiteFile} {names : List Bytes} {content : ByteArray}
    (hat : FoundAt disk root place file names content) :
    other.readText file.path = disk.readText file.path := by
  have hbytes := bytes_ne_of_directory? hroot
  have hnames := isName_of_get?_append hdisk hat.content
  obtain ⟨hvisible, directories, stem, extension, rfl, hnamed⟩ :=
    (SuiteFile.ofNames?_eq_some_iff hbytes hnames).mp hat.named
  have hcontent := (hsame.content directories stem extension
    (Format.mem_of_ofExtension? (Format.ofExtension?_eq_some_iff.mpr hnamed.format))
    hvisible content).mpr hat.content
  have hat' : FoundAt other root place' file _ content := ⟨hat.nonempty, hcontent, hat.named⟩
  rw [hat.readText hdisk hroot, hat'.readText hother hroot']
  cases hreach : reach root place' (SuiteFile.namesOf directories stem extension) with
  | error e => rw [(reach_eq_error_iff place' place).mp hreach]
  | ok _ =>
    cases hreach' : reach root place (SuiteFile.namesOf directories stem extension) with
    | ok _ => rfl
    | error e =>
      rw [(reach_eq_error_iff place place').mp hreach'] at hreach
      cases hreach

/-- A load depends on nothing but the directories and the files that can define suites. -/
theorem SameDefinitions.load_eq (mode : LoadMode) :
    other.load mode root = disk.load mode root := by
  have hfiles := hsame.sameUnits.suiteFiles_eq hdisk hother hroot hroot'
  cases hfound : disk.suiteFiles root with
  | error e =>
    rw [Load.load_of_suiteFiles_error (hfiles.trans hfound), Load.load_of_suiteFiles_error hfound]
  | ok found =>
    refine Load.load_congr hfound (hfiles.trans hfound) (fun file hfile => ?_) mode
    obtain ⟨names, content, hat⟩ := (mem_suiteFiles hdisk hroot hfound).mp hfile
    exact SuiteFile.load_congr (hsame.readText_eq hdisk hother hroot hroot' hat)

end Same

/-! ## Discovery -/

/-- A walk from a directory succeeds exactly if every directory that it enters, the first one
included, can be listed by its path, and otherwise fails with the first one that cannot. It finds
units alone, each of them once and in the order of their paths, none behind a name that is UTF-8 and
begins with a dot, and all that no name which begins with a dot leads to; no file is without the
name of a suite. Neither the order in which directories are listed nor what is hidden, a link or a
file of another kind changes the outcome. -/
theorem discovery_exact {disk : Disk} (hdisk : disk.WellFormed) {root : Path} {place : Place}
    (hroot : disk.directory? root = some place) :
    ((∃ found, disk.suiteFiles root = .ok found) ↔ disk.Listable root place) ∧
    (∀ error, disk.suiteFiles root = .error error ↔
      ∃ names, disk.FirstUnlisted root place names error) ∧
    (∀ found, disk.suiteFiles root = .ok found →
      (found.Pairwise fun a b => a.path.compare b.path = .lt) ∧
      (∀ file ∈ found, ∃ directories stem extension,
        disk.UnitAt root place directories stem extension file ∧
        ∀ name ∈ SuiteFile.namesOf directories stem extension,
          name.head? = some Path.dot → Text.ofUtf8? name = none) ∧
      ∀ directories stem extension file, disk.UnitAt root place directories stem extension file →
        (∀ name ∈ SuiteFile.namesOf directories stem extension, name.head? ≠ some Path.dot) →
          file ∈ found) ∧
    (∀ names content, names ≠ [] → disk.get? (place ++ names) = some (.file content) →
      (SuiteFile.suiteName? root (root.enter names)).isSome) ∧
    (∀ listing, disk.Lists listing → disk.traverse listing root = disk.suiteFiles root) ∧
    ∀ other place', other.WellFormed → other.directory? root = some place' →
      disk.SameUnits other place place' → other.suiteFiles root = disk.suiteFiles root := by
  have hok : (∃ found, disk.suiteFiles root = .ok found) ↔ disk.Listable root place := by
    simp [suiteFiles_eq_ok_iff hdisk, hroot]
  refine ⟨hok, fun error => suiteFiles_eq_error_iff hdisk hroot, fun found hfound => ?_,
    fun names content hnil hcontent => suiteName?_isSome hdisk hroot hnil hcontent,
    fun listing hlists => traverse_eq hlists hdisk root,
    fun other place' hother hroot' hsame => hsame.suiteFiles_eq hdisk hother hroot hroot'⟩
  have hpaths := Load.pairwise_compare (increasing_of_suiteFiles hdisk hfound)
  obtain ⟨-, rfl⟩ := suiteFiles_eq_of_ok hdisk hroot hfound
  simp only [mem_suiteFilesBelow_iff_unitAt hdisk hroot, SuiteFile.any_isHidden_eq_false_iff]
  exact ⟨hpaths, fun file h => h, fun directories stem extension file hunit hundotted =>
    ⟨directories, stem, extension, hunit,
      fun name hname hdot => absurd hdot (hundotted name hname)⟩⟩

/-- Units among hidden entries, links and other files; the name of one is not UTF-8. -/
def clutteredDisk : Disk :=
  ⟨[], [(["d"], .directory), (["d", "n.txt"], .file "".toUTF8), (["d", "n"], .directory),
    (["d", "e"], .link ⟨"n"⟩), (["d", "n", "x.y.rb"], .file "exclude\n".toUTF8),
    (["d", ".h"], .directory), (["d", ".h", "B.rb"], .file "".toUTF8),
    (["d", ".rb"], .file "".toUTF8), (["d", "L.rb"], .link ⟨"A.toml"⟩),
    (["d", [0xff, 0x2e, 0x72, 0x62]], .file "".toUTF8), (["d", "NOTES"], .file "".toUTF8),
    (["d", "A.toml"], .file "".toUTF8)], []⟩

/-- The same units alone. -/
def tidyDisk : Disk :=
  ⟨[], [(["d"], .directory), (["d", "A.toml"], .file "".toUTF8), (["d", "n"], .directory),
    (["d", "n", "x.y.rb"], .file "".toUTF8), (["d", "n.txt"], .file "".toUTF8),
    (["d", [0xff, 0x2e, 0x72, 0x62]], .file "".toUTF8)], []⟩

theorem wellFormed_clutteredDisk : clutteredDisk.WellFormed := by decide +kernel

theorem wellFormed_tidyDisk : tidyDisk.WellFormed := by decide +kernel

theorem sameUnits_clutteredDisk : clutteredDisk.SameUnits tidyDisk ["d"] ["d"] := by
  refine ⟨fun names hvisible => ?_, fun _ _ => .rfl,
    fun directories stem extension _ hvisible => ?_⟩
  · constructor
    · intro h
      have hmem := mem_of_get? (by simp) h
      obtain rfl | rfl : names = [] ∨ names = [Text.utf8 "n"] := by simpa [tidyDisk] using hmem
      · rfl
      · rfl
    · intro h
      have hmem := mem_of_get? (by simp) h
      obtain rfl | rfl | rfl :
          names = [] ∨ names = [Text.utf8 "n"] ∨ names = [Text.utf8 ".h"] := by
        simpa [clutteredDisk] using hmem
      · rfl
      · rfl
      · cases hvisible
  · have hdot : Path.dot ∈ stem ++ Path.dot :: Text.utf8 extension := by simp
    have hlast : (SuiteFile.namesOf directories stem extension).getLast? =
        some (stem ++ Path.dot :: Text.utf8 extension) := List.getLast?_concat
    generalize SuiteFile.namesOf directories stem extension = names at hvisible hlast
    constructor
    · rintro ⟨content, h⟩
      have hmem := mem_of_get? (by simp) h
      simp [tidyDisk] at hmem
      rcases hmem with ⟨rfl, -⟩ | ⟨rfl, -⟩ | ⟨rfl, -⟩ | ⟨rfl, -⟩
      all_goals exact ⟨_, rfl⟩
    · rintro ⟨content, h⟩
      have hmem := mem_of_get? (by simp) h
      simp [clutteredDisk] at hmem
      rcases hmem with ⟨rfl, -⟩ | ⟨rfl, -⟩ | ⟨rfl, -⟩ | ⟨rfl, -⟩ | ⟨rfl, -⟩ | ⟨rfl, -⟩ | ⟨rfl, -⟩
      · exact ⟨_, rfl⟩
      · exact ⟨_, rfl⟩
      · cases hvisible
      · cases hvisible
      · exact ⟨_, rfl⟩
      · have hnone : Path.dot ∉ Text.utf8 "NOTES" := by decide
        rw [← Option.some.inj hlast] at hdot
        exact absurd hdot hnone
      · exact ⟨_, rfl⟩

theorem discovery_exact_cluttered : clutteredDisk.WellFormed ∧
    clutteredDisk.directory? ⟨"d"⟩ = some [Text.utf8 "d"] ∧
    ∃ found, clutteredDisk.suiteFiles ⟨"d"⟩ = .ok found ∧
      found.map (fun file => (file.suite, file.path.text)) =
        [("A", "d/A.toml"), ("n::x.y", "d/n/x.y.rb"), ("n", "d/n.txt"), ("\ufffd", "d/\ufffd.rb")] ∧
      (∀ file ∈ found, ∃ directories stem extension,
        clutteredDisk.UnitAt ⟨"d"⟩ ["d"] directories stem extension file ∧
        ∀ name ∈ SuiteFile.namesOf directories stem extension,
          name.head? = some Path.dot → Text.ofUtf8? name = none) ∧
      clutteredDisk.names ["d"] = (["n.txt", "n", "e", ".h", ".rb", "L.rb",
        [0xff, 0x2e, 0x72, 0x62], "NOTES", "A.toml"] : List Bytes) ∧
      clutteredDisk.traverse clutteredDisk.names ⟨"d"⟩ = .ok found ∧
      tidyDisk.suiteFiles ⟨"d"⟩ = .ok found := by
  have hroot : clutteredDisk.directory? ⟨"d"⟩ = some [Text.utf8 "d"] := by decide +kernel
  have hroot' : tidyDisk.directory? ⟨"d"⟩ = some [Text.utf8 "d"] := by decide +kernel
  have hanswer : (clutteredDisk.suiteFiles ⟨"d"⟩).map (·.map fun file =>
      (file.suite, file.path.text)) =
      .ok [("A", "d/A.toml"), ("n::x.y", "d/n/x.y.rb"), ("n", "d/n.txt"),
        ("\ufffd", "d/\ufffd.rb")] := by
    decide +kernel
  obtain ⟨found, hfound, hfiles⟩ := Outcome.map_eq_ok_iff.mp hanswer
  obtain ⟨-, -, hunits, -, htraverse, hsame⟩ := discovery_exact wellFormed_clutteredDisk hroot
  refine ⟨wellFormed_clutteredDisk, hroot, found, hfound, hfiles, (hunits found hfound).2.1,
    by decide +kernel, ?_, ?_⟩
  · rw [htraverse _ (lists_names wellFormed_clutteredDisk), hfound]
  · rw [hsame _ _ wellFormed_tidyDisk hroot' sameUnits_clutteredDisk, hfound]

/-- A file whose name begins with a dot and is not UTF-8. -/
def dottedDisk : Disk :=
  ⟨[], [(["d"], .directory), (["d", [0x2e, 0xff, 0x2e, 0x72, 0x62]], .file "".toUTF8)], []⟩

/-- A file whose name begins with a dot is found if its name is not UTF-8. A walk below a directory
need not even succeed: the path of one below it can be too long. -/
theorem discovery_finds_dotted : dottedDisk.WellFormed ∧
    dottedDisk.directory? ⟨"d"⟩ = some [Text.utf8 "d"] ∧
    ([0x2e, 0xff, 0x2e, 0x72, 0x62] : Bytes).head? = some Path.dot ∧
    dottedDisk.suiteFiles ⟨"d"⟩ =
      .ok [⟨".\ufffd", Path.enter ⟨"d"⟩ [[0x2e, 0xff, 0x2e, 0x72, 0x62]], .lines⟩] ∧
    Load.nestedDisk.WellFormed ∧
    Load.nestedDisk.directory? (Load.nestedRoot 2045) = some [Text.utf8 "d"] ∧
    Load.nestedDisk.suiteFiles (Load.nestedRoot 2045) =
      .error (.unreadable ((Load.nestedRoot 2045).push "abcdef")
        (.directory ((Load.nestedRoot 2045).push "abcdef") .nameTooLong)) :=
  ⟨by decide, by decide, by decide, by rfl, Load.wellFormed_nestedDisk,
    Load.directory?_nestedRoot (by decide), Load.suiteFiles_nestedRoot (by decide) (by decide)⟩

end Disk
end TestExclusions
