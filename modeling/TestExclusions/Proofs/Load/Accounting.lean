import TestExclusions.Proofs.Disk.Spelling
import TestExclusions.Proofs.Load.Discovery
import TestExclusions.Proofs.Load.Failures
import TestExclusions.Proofs.Placement
import TestExclusions.Proofs.Registry.Answers

/-! What a best-effort load makes of a directory. It keeps or leaves out every file that it finds,
for the stated reason, and its registry holds what the files that are kept declare. -/
namespace TestExclusions.Load
open Sorted (Increasing)

/-- A file claims its suite if none in front of it, in the order of paths, names the suite. -/
structure Claims (found : List SuiteFile) (file : SuiteFile) : Prop where
  mem : file ∈ found
  first : ∀ other ∈ found, other.suite = file.suite → other.path.compare file.path ≠ .lt

/-- Why a file is left out: another one has claimed its suite, or it cannot be loaded. -/
inductive LeftOut (disk : Disk) (found : List SuiteFile) (file : SuiteFile) : LoadError → Prop
  | doubled {first : SuiteFile} (hclaims : Claims found first) (hsuite : first.suite = file.suite)
      (hbefore : first.path.compare file.path = .lt) :
      LeftOut disk found file (.duplicateSuite file.suite first.path file.path)
  | unloadable {error : LoadError} (hclaims : Claims found file)
      (hload : file.load disk = .error error) : LeftOut disk found file error

/-- A registry has the records that a file's text declares, with the place of each. -/
def Declares (disk : Disk) (registry : Registry) (file : SuiteFile) : Prop :=
  ∃ text records, disk.readText file.path = .ok text ∧
    file.format.parse file.path.text text = .ok records ∧
    registry.reasonsOf file.suite = records.map (fun record => (record.testId, record.reason)) ∧
    ∀ record ∈ records, file.format.Places text record ∧
      registry.location? file.suite record.testId = some ⟨file.path.text, record.line⟩

/-- The files of a load are those that claim their suites and can be loaded, its failures say why
the others are left out, and its registry has what the text of each file declares. -/
structure Accounts (disk : Disk) (found : List SuiteFile) (loaded : Loaded) : Prop where
  all : (loaded.files.map (fun file => (file.suite, file.path)) ++
    loaded.failures.map fun failure => (failure.suite, failure.path)).Perm
      (found.map fun file => (file.suite, file.path))
  foundOrder : found.Pairwise fun a b => a.path.compare b.path = .lt
  filesOrder : loaded.files.Pairwise fun a b => a.path.compare b.path = .lt
  failuresOrder : loaded.failures.Pairwise fun a b => a.path.compare b.path = .lt
  files : ∀ file, file ∈ loaded.files ↔
    Claims found file ∧ ∃ definition, file.load disk = .ok definition
  failures : ∀ failure, failure ∈ loaded.failures ↔ ∃ file ∈ found,
    failure.suite = file.suite ∧ failure.path = file.path ∧ LeftOut disk found file failure.error
  containsSuite : ∀ suite,
    loaded.registry.containsSuite suite ↔ ∃ file ∈ loaded.files, file.suite = suite
  declares : ∀ file ∈ loaded.files, Declares disk loaded.registry file

section Found
variable {found : List SuiteFile} (hfound : Increasing (·.path.components) found)
include hfound

theorem pairwise_compare : found.Pairwise fun a b => a.path.compare b.path = .lt :=
  List.Pairwise.imp (fun h => (Path.compare_eq_lt_iff _ _).mpr h) hfound

/-- Files that are found have different paths. -/
theorem eq_of_not_lt {a b : SuiteFile} (ha : a ∈ found) (hb : b ∈ found)
    (hab : a.path.compare b.path ≠ .lt) (hba : b.path.compare a.path ≠ .lt) : a = b := by
  rw [Ne, Path.compare_eq_lt_iff] at hab hba
  exact List.inj_on_of_nodup_map hfound.nodup ha hb (le_antisymm (not_lt.mp hba) (not_lt.mp hab))

theorem claims_of_owner? {suite : String} {file : SuiteFile}
    (h : owner? found suite = some file) : Claims found file := by
  obtain ⟨hmem, rfl⟩ := owner?_eq_some h
  refine ⟨hmem, fun other hother hsame hlt => ?_⟩
  rw [Path.compare_eq_lt_iff] at hlt
  exact not_lt_of_ge (hfound.le_of_find? h hother (by simpa using hsame)) hlt

theorem owner?_eq_some_iff_claims {suite : String} {file : SuiteFile} :
    owner? found suite = some file ↔ Claims found file ∧ file.suite = suite := by
  constructor
  · intro h
    exact ⟨claims_of_owner? hfound h, (owner?_eq_some h).2⟩
  · rintro ⟨hclaims, rfl⟩
    obtain ⟨first, hfirst⟩ := owner?_isSome_of_mem hclaims.mem
    obtain ⟨hmem, hsame⟩ := owner?_eq_some hfirst
    have hclaims' := claims_of_owner? hfound hfirst
    rw [hfirst, eq_of_not_lt hfound hmem hclaims.mem (hclaims.first first hmem hsame)
      (hclaims'.first file hclaims.mem hsame.symm)]

theorem doubled?_eq_none_iff_claims {file : SuiteFile} (hfile : file ∈ found) :
    doubled? found file = none ↔ Claims found file := by
  rw [doubled?_eq_none_iff hfile, owner?_eq_some_iff_claims hfound]
  simp

theorem failure?_eq_some_iff {disk : Disk} {file : SuiteFile} (hfile : file ∈ found)
    {failure : LoadFailure} : failure? disk found file = some failure ↔
      failure.suite = file.suite ∧ failure.path = file.path ∧
        LeftOut disk found file failure.error := by
  rw [failure?, Option.or_eq_some_iff, doubled?_eq_none_iff_claims hfound hfile,
    doubled?_eq_some_iff, unloadable?_eq_some_iff]
  constructor
  · rintro (⟨first, hfirst, hne, rfl⟩ | ⟨hclaims, e, hload, rfl⟩)
    · obtain ⟨hclaims, hsame⟩ := (owner?_eq_some_iff_claims hfound).mp hfirst
      have hbefore : first.path.compare file.path = .lt := by
        by_contra hnot
        exact hne (eq_of_not_lt hfound hclaims.mem hfile hnot (hclaims.first file hfile hsame.symm))
      exact ⟨rfl, rfl, .doubled hclaims hsame hbefore⟩
    · exact ⟨rfl, rfl, .unloadable hclaims hload⟩
  · obtain ⟨suite, path, error⟩ := failure
    rintro ⟨rfl, rfl, hleftOut⟩
    cases hleftOut with
    | @doubled first hclaims hsuite hbefore =>
      refine .inl ⟨first, (owner?_eq_some_iff_claims hfound).mpr ⟨hclaims, hsuite⟩, ?_, rfl⟩
      rintro rfl
      exact lt_irrefl _ ((Path.compare_eq_lt_iff _ _).mp hbefore)
    | unloadable hclaims hload => exact .inr ⟨hclaims, error, hload, rfl⟩

theorem failure?_eq_none_iff {disk : Disk} {file : SuiteFile} (hfile : file ∈ found) :
    failure? disk found file = none ↔
      Claims found file ∧ ∃ definition, file.load disk = .ok definition := by
  rw [failure?, Option.or_eq_none_iff, doubled?_eq_none_iff_claims hfound hfile,
    unloadable?_eq_none_iff]

end Found

/-! ## Accounts of a load -/

/-- Every file is kept or fails, and no file does both. -/
theorem perm_found (disk : Disk) (found : List SuiteFile) :
    ((found.filter fun file => failure? disk found file = none).map
        (fun file => (file.suite, file.path)) ++
      (found.filterMap (failure? disk found)).map fun failure => (failure.suite, failure.path)).Perm
        (found.map fun file => (file.suite, file.path)) := by
  have hperm := filterMap_or_perm
    (fun file => (failure? disk found file).map fun failure => (failure.suite, failure.path))
    (fun file => some (file.suite, file.path)) found
  have hall : found.filterMap (fun file =>
      ((failure? disk found file).map fun failure => (failure.suite, failure.path)).or
        (some (file.suite, file.path))) = found.map fun file => (file.suite, file.path) := by
    rw [← List.filterMap_eq_map]
    refine List.filterMap_congr fun file _ => ?_
    cases hfailure : failure? disk found file with
    | none => rfl
    | some failure =>
      obtain ⟨hsuite, hpath⟩ := path_of_failure? hfailure
      simp [hsuite, hpath]
  have hkept : ∀ kept : List SuiteFile, kept.filterMap (fun file => some (file.suite, file.path)) =
      kept.map fun file => (file.suite, file.path) := congrFun List.filterMap_eq_map
  simp only [Option.map_eq_none_iff] at hperm
  rw [hall, hkept, ← List.map_filterMap] at hperm
  exact List.perm_append_comm.trans hperm

/-- A registry that holds what files declare has the records of each owner of a suite. -/
theorem Holds.declares {disk : Disk} {found : List SuiteFile} {registry : Registry}
    (h : Holds disk found registry) {file : SuiteFile}
    (howner : owner? found file.suite = some file) {definition : Definition}
    (hload : file.load disk = .ok definition) : Declares disk registry file := by
  obtain ⟨text, records, htext, hparse, -, rfl⟩ := SuiteFile.load_eq_ok_iff.mp hload
  have hexclusions : registry.exclusionsOf file.suite =
      Definition.exclusions ⟨file.suite, file.path.text, records⟩ := by
    rw [h.exclusionsOf, howner]
    exact SuiteFile.held_of_load hload
  refine ⟨text, records, htext, hparse, ?_, fun record hrecord =>
    ⟨Format.places_of_parse hparse hrecord, ?_⟩⟩
  · rw [Registry.reasonsOf, hexclusions, Definition.exclusions, List.map_map]
    rfl
  · have hfind : registry.find? file.suite record.testId = some
        ⟨file.suite, record.testId, record.reason, ⟨file.path.text, record.line⟩⟩ := by
      rw [Registry.find?_eq_some_iff h.wellFormed, hexclusions]
      exact ⟨List.mem_map_of_mem hrecord, rfl⟩
    rw [Registry.location?, hfind]
    rfl

theorem accounts_of_separates {disk : Disk} {found : List SuiteFile}
    (hfound : Increasing (·.path.components) found) {loaded : Loaded}
    (h : Separates disk found loaded) : Accounts disk found loaded := by
  have hfiles : ∀ file, file ∈ loaded.files ↔
      Claims found file ∧ ∃ definition, file.load disk = .ok definition := by
    intro file
    rw [h.files, List.mem_filter, decide_eq_true_eq]
    constructor
    · rintro ⟨hfile, hnone⟩
      exact (failure?_eq_none_iff hfound hfile).mp hnone
    · intro hkept
      exact ⟨hkept.1.mem, (failure?_eq_none_iff hfound hkept.1.mem).mpr hkept⟩
  refine ⟨?_, pairwise_compare hfound, ?_, ?_, hfiles, fun failure => ?_, fun suite => ?_,
    fun file hfile => ?_⟩
  · rw [h.files, h.failures]
    exact perm_found disk found
  · rw [h.files]
    exact (pairwise_compare hfound).filter _
  · rw [h.failures]
    exact List.Pairwise.imp (fun h => (Path.compare_eq_lt_iff _ _).mpr h)
      (increasing_failures hfound disk)
  · rw [h.failures, List.mem_filterMap]
    exact exists_congr fun file => and_congr_right fun hfile => failure?_eq_some_iff hfound hfile
  · rw [h.holds.containsSuite]
    simp only [hfiles, owner?_eq_some_iff_claims hfound]
    constructor
    · rintro ⟨file, definition, ⟨hclaims, hsuite⟩, hload⟩
      exact ⟨file, ⟨hclaims, definition, hload⟩, hsuite⟩
    · rintro ⟨file, ⟨hclaims, definition, hload⟩, hsuite⟩
      exact ⟨file, definition, ⟨hclaims, hsuite⟩, hload⟩
  · obtain ⟨hclaims, definition, hload⟩ := (hfiles file).mp hfile
    exact h.holds.declares ((owner?_eq_some_iff_claims hfound).mpr ⟨hclaims, rfl⟩) hload

/-- A best-effort load of a directory succeeds exactly if every directory that is walked, the root
included, can be listed by its path, and otherwise fails with the first one that cannot. When it
succeeds, it accounts for every file that was found. -/
theorem bestEffort_accounts {disk : Disk} (hdisk : disk.WellFormed) {root : Path} {place : Place}
    (hroot : disk.directory? root = some place) :
    ((∃ loaded, disk.load .bestEffort root = .ok loaded) ↔ disk.Listable root place) ∧
    (∀ error, disk.load .bestEffort root = .error error ↔
      ∃ names, disk.FirstUnlisted root place names error) ∧
    ∀ loaded, disk.load .bestEffort root = .ok loaded →
      ∃ found, disk.suiteFiles root = .ok found ∧ Accounts disk found loaded := by
  cases hsuiteFiles : disk.suiteFiles root with
  | error cause =>
    have hload := load_of_suiteFiles_error hsuiteFiles .bestEffort
    have hunlisted := Disk.not_listable_of_suiteFiles hdisk hroot hsuiteFiles
    refine ⟨by simp [hload, hunlisted], fun error => ?_, by simp [hload]⟩
    rw [hload, ← Disk.suiteFiles_eq_error_iff hdisk hroot, hsuiteFiles, Except.error.injEq,
      Except.error.injEq]
  | ok found =>
    have hfound := Disk.increasing_of_suiteFiles hdisk hsuiteFiles
    obtain ⟨loaded, hload, hseparates⟩ := load_bestEffort hfound hsuiteFiles
    obtain ⟨hlistable, -⟩ := Disk.suiteFiles_eq_of_ok hdisk hroot hsuiteFiles
    refine ⟨by simp [hload, hlistable], fun error => ?_, fun _ h => ⟨found, rfl, ?_⟩⟩
    · rw [hload, ← Disk.suiteFiles_eq_error_iff hdisk hroot, hsuiteFiles]
      simp
    · cases hload.symm.trans h
      exact accounts_of_separates hfound hseparates

/-- Two directories: one with files of both formats, among them a malformed one and one of a suite
that another has claimed, and one with a single file. -/
def mixedDisk : Disk :=
  ⟨[], [(["d"], .directory), (["d", "C.toml"], .file "exclude = [[\"v\", \"w\"]]\n".toUTF8),
    (["d", "B.txt"], .file "exclude :u, \"s\"\n".toUTF8),
    (["d", "B.rb"], .file "\ufeff# note\r\nexclude :t, \"r\"\n".toUTF8),
    (["d", "A.rb"], .file "exclude\n".toUTF8), (["e"], .directory),
    (["e", "A.rb"], .file "exclude :t, \"r\"\n".toUTF8)], []⟩

theorem bestEffort_accounts_mixed : mixedDisk.WellFormed ∧
    mixedDisk.directory? ⟨"d"⟩ = some [Text.utf8 "d"] ∧
    ∃ loaded found, mixedDisk.load .bestEffort ⟨"d"⟩ = .ok loaded ∧
      mixedDisk.suiteFiles ⟨"d"⟩ = .ok found ∧ Accounts mixedDisk found loaded ∧
      loaded.files.map (·.path.text) = ["d/B.rb", "d/C.toml"] ∧
      loaded.failures.map (·.path.text) = ["d/A.rb", "d/B.txt"] ∧
      loaded.registry.location? "B" "t" = some ⟨"d/B.rb", some 2⟩ := by
  have hdisk : mixedDisk.WellFormed := by decide +kernel
  have hroot : mixedDisk.directory? ⟨"d"⟩ = some [Text.utf8 "d"] := by decide +kernel
  obtain ⟨-, -, haccounts⟩ := bestEffort_accounts hdisk hroot
  have hanswers : (mixedDisk.load .bestEffort ⟨"d"⟩).map (fun loaded =>
      (loaded.files.map (·.path.text), loaded.failures.map (·.path.text),
        loaded.registry.location? "B" "t")) =
      .ok (["d/B.rb", "d/C.toml"], ["d/A.rb", "d/B.txt"], some ⟨"d/B.rb", some 2⟩) := by
    decide +kernel
  obtain ⟨loaded, hload, hloaded⟩ := Outcome.map_eq_ok_iff.mp hanswers
  obtain ⟨hfiles, hrest⟩ := Prod.mk.inj hloaded
  obtain ⟨hfailures, hlocation⟩ := Prod.mk.inj hrest
  obtain ⟨found, hfound, haccount⟩ := haccounts loaded hload
  exact ⟨hdisk, hroot, loaded, found, hload, hfound, haccount, hfiles, hfailures, hlocation⟩

/-! ## Directories that cannot be listed -/

/-- A directory that may be entered and may not be listed. -/
def closedDisk : Disk := ⟨[], [(["d"], .directory)], [["d"]]⟩

/-- A directory, and an empty one in it. -/
def nestedDisk : Disk := ⟨[], [(["d"], .directory), (["d", "abcdef"], .directory)], []⟩

/-- The outer directory of the disk behind components that stay in place. -/
def nestedRoot (n : Nat) : Path := Path.behindDots ⟨"d"⟩ n

theorem wellFormed_nestedDisk : nestedDisk.WellFormed := by decide

section Nested
variable {disk : Disk} (hdisk : disk.WellFormed)
  (hplace : disk.directory? ⟨"d"⟩ = some [Text.utf8 "d"])
include hdisk hplace

theorem directory?_behindDots {n : Nat} (h : 2 * n + 1 ≤ Path.maxBytes) :
    disk.directory? (nestedRoot n) = some [Text.utf8 "d"] := by
  have hsize : (⟨"d"⟩ : Path).bytes.length = 1 := rfl
  obtain ⟨hfind, hdirectory⟩ := Disk.directory?_eq_some_iff.mp hplace
  rw [Disk.directory?_eq_some_iff, nestedRoot,
    Disk.find_behindDots hdisk (by decide) (by decide), hsize, if_neg (Nat.not_lt.mpr h)]
  exact ⟨hfind, hdirectory⟩

/-- A directory cannot be listed when its path is too long. -/
theorem suiteFiles_behindDots (hwalked : disk.walked ["d"] = [[], [Text.utf8 "abcdef"]])
    (hlistable : disk.unlistable = []) {n : Nat} (h : 2 * n + 1 ≤ Path.maxBytes)
    (hlong : Path.maxBytes < 2 * n + 8) :
    disk.suiteFiles (nestedRoot n) = .error (.unreadable ((nestedRoot n).push "abcdef")
      (.directory ((nestedRoot n).push "abcdef") .nameTooLong)) := by
  have hpush : (⟨"d"⟩ : Path).push "abcdef" = ⟨"d/abcdef"⟩ := by decide
  have hsize : (⟨"d/abcdef"⟩ : Path).bytes.length = 8 := rfl
  have hfind : disk.find ((nestedRoot n).push "abcdef") = .error .nameTooLong := by
    rw [nestedRoot, Path.push_behindDots (by decide) (by decide), hpush,
      Disk.find_behindDots hdisk (by decide) (by decide), hsize, if_pos hlong]
  have hroot := directory?_behindDots hdisk hplace h
  have hopen : disk.openDirectory (nestedRoot n) = .ok ["d"] :=
    Disk.openDirectory_eq_ok_iff.mpr ⟨hroot, by simp [hlistable]⟩
  have hlast : disk.openDirectory ((nestedRoot n).push "abcdef") = .error .nameTooLong := by
    rw [Disk.openDirectory, hfind]
  rw [Disk.suiteFiles, hroot]
  simp [hwalked, Disk.listingFault?, Path.enter, hopen, hlast]

end Nested

theorem directory?_nestedRoot {n : Nat} (h : 2 * n + 1 ≤ Path.maxBytes) :
    nestedDisk.directory? (nestedRoot n) = some [Text.utf8 "d"] :=
  directory?_behindDots wellFormed_nestedDisk (by decide) h

theorem suiteFiles_nestedRoot {n : Nat} (h : 2 * n + 1 ≤ Path.maxBytes)
    (hlong : Path.maxBytes < 2 * n + 8) :
    nestedDisk.suiteFiles (nestedRoot n) = .error (.unreadable ((nestedRoot n).push "abcdef")
      (.directory ((nestedRoot n).push "abcdef") .nameTooLong)) :=
  suiteFiles_behindDots wellFormed_nestedDisk (by decide) (by decide) rfl h hlong

/-- The inner directory cannot be listed when its path is too long. -/
theorem load_nestedRoot {n : Nat} (h : 2 * n + 1 ≤ Path.maxBytes)
    (hlong : Path.maxBytes < 2 * n + 8) (mode : LoadMode) :
    nestedDisk.load mode (nestedRoot n) = .error (.unreadable ((nestedRoot n).push "abcdef")
      (.directory ((nestedRoot n).push "abcdef") .nameTooLong)) :=
  load_of_suiteFiles_error (suiteFiles_nestedRoot h hlong) mode

/-- A best-effort load of a directory need not succeed: the directory itself may be one that cannot
be listed, and the path of one below it can be too long. -/
theorem bestEffort_fails_unlisted : closedDisk.WellFormed ∧
    closedDisk.directory? ⟨"d"⟩ = some [Text.utf8 "d"] ∧
    closedDisk.load .bestEffort ⟨"d"⟩ =
      .error (.unreadable ⟨"d"⟩ (.directory ⟨"d"⟩ .permissionDenied)) ∧
    nestedDisk.WellFormed ∧
    nestedDisk.directory? (nestedRoot 2045) = some [Text.utf8 "d"] ∧
    nestedDisk.load .bestEffort (nestedRoot 2045) =
      .error (.unreadable ((nestedRoot 2045).push "abcdef")
        (.directory ((nestedRoot 2045).push "abcdef") .nameTooLong)) := by
  have hroot : closedDisk.directory? ⟨"d"⟩ = some [Text.utf8 "d"] := by decide
  have hclosed : [Text.utf8 "d"] ∈ closedDisk.unlistable := List.mem_singleton_self _
  exact ⟨by decide, hroot,
    load_of_suiteFiles_error (Disk.suiteFiles_of_unlistable hroot hclosed) .bestEffort,
    wellFormed_nestedDisk, directory?_nestedRoot (by decide),
    load_nestedRoot (by decide) (by decide) .bestEffort⟩

end TestExclusions.Load
