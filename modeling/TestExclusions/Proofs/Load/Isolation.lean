import TestExclusions.Proofs.Load.Units

/-! What one file can do to a best-effort load. Two disks that differ in nothing but what a file
holds are loaded alike, except for that file and the suite that it defines. -/
namespace TestExclusions

/-! ## Disks that differ in one file -/

namespace Disk

/-- Two disks have the same at every place, but the file at one of them can hold something else. -/
structure DifferAt (disk other : Disk) (changed : Place) : Prop where
  home : other.home = disk.home
  unlistable : ∀ place, place ∈ other.unlistable ↔ place ∈ disk.unlistable
  before : ∃ content, disk.get? changed = some (.file content)
  after : ∃ content, other.get? changed = some (.file content)
  elsewhere : ∀ place, place ≠ changed → other.get? place = disk.get? place

theorem differAt_put {disk : Disk} {changed : Place} (hchanged : changed ≠ []) {old : ByteArray}
    (hfile : disk.get? changed = some (.file old)) (content : ByteArray) :
    DifferAt disk (disk.put changed (.file content)) changed := by
  refine ⟨rfl, fun _ => .rfl, ⟨old, hfile⟩, ⟨content, ?_⟩, fun place hplace => ?_⟩
  · rw [get?_put hchanged, if_pos rfl]
  · rw [get?_put hchanged, if_neg hplace]

theorem DifferAt.symm {disk other : Disk} {changed : Place} (h : DifferAt disk other changed) :
    DifferAt other disk changed :=
  ⟨h.home.symm, fun place => (h.unlistable place).symm, h.after, h.before,
    fun place hplace => (h.elsewhere place hplace).symm⟩

theorem DifferAt.directory_iff {disk other : Disk} {changed : Place}
    (h : DifferAt disk other changed) (place : Place) :
    other.get? place = some .directory ↔ disk.get? place = some .directory := by
  by_cases hplace : place = changed
  · obtain ⟨content, hbefore⟩ := h.before
    obtain ⟨content', hafter⟩ := h.after
    simp [hplace, hbefore, hafter]
  · rw [h.elsewhere place hplace]

theorem DifferAt.file_iff {disk other : Disk} {changed : Place}
    (h : DifferAt disk other changed) (place : Place) :
    (∃ content, other.get? place = some (.file content)) ↔
      ∃ content, disk.get? place = some (.file content) := by
  by_cases hplace : place = changed
  · simp only [hplace, h.before, h.after]
  · rw [h.elsewhere place hplace]

theorem DifferAt.grows {disk other : Disk} {changed : Place} (h : DifferAt disk other changed) :
    Grows disk other := by
  refine ⟨h.home, h.unlistable, fun place => (h.directory_iff place).mpr,
    fun place target hlink => ?_, fun place content hfile => (h.file_iff place).mpr ⟨content, hfile⟩⟩
  rw [h.elsewhere place, hlink]
  rintro rfl
  obtain ⟨content, hbefore⟩ := h.before
  rw [hlink] at hbefore
  cases hbefore

theorem DifferAt.directory?_eq {disk other : Disk} {changed : Place}
    (h : DifferAt disk other changed) (root : Path) :
    other.directory? root = disk.directory? root := by
  apply Option.ext
  intro place
  exact ⟨directory?_of_grows h.symm.grows, directory?_of_grows h.grows⟩

theorem DifferAt.sameUnits {disk other : Disk} {changed : Place} (h : DifferAt disk other changed)
    (place : Place) : SameUnits disk other place place :=
  ⟨fun _ _ => h.directory_iff _, fun _ _ => h.unlistable _, fun _ _ _ _ _ => h.file_iff _⟩

section WellFormed
variable {disk other : Disk} {changed : Place} (h : DifferAt disk other changed)
  (hdisk : disk.WellFormed) (hother : other.WellFormed)
include h hdisk hother

/-- What the file holds does not matter to a walk. -/
theorem DifferAt.suiteFiles_eq (root : Path) : other.suiteFiles root = disk.suiteFiles root := by
  cases hroot : disk.directory? root with
  | none =>
    have hroot' := (h.directory?_eq root).trans hroot
    rw [suiteFiles, hroot', suiteFiles, hroot]
  | some place =>
    exact (h.sameUnits place).suiteFiles_eq hdisk hother hroot ((h.directory?_eq root).trans hroot)

/-- A file that is found loads as before unless its path leads to the one that has changed. -/
theorem DifferAt.load_eq {root : Path} {found : List SuiteFile}
    (hfound : disk.suiteFiles root = .ok found) {file : SuiteFile} (hfile : file ∈ found)
    (hpath : disk.find file.path ≠ .ok changed) : file.load other = file.load disk := by
  obtain ⟨place, hroot, -⟩ := (suiteFiles_eq_ok_iff hdisk).mp hfound
  have hroot' := (h.directory?_eq root).trans hroot
  obtain ⟨names, content, hat⟩ := (mem_suiteFiles hdisk hroot hfound).mp hfile
  obtain ⟨content', hcontent'⟩ := (h.file_iff _).mpr ⟨content, hat.content⟩
  have hat' : FoundAt other root place file names content' := ⟨hat.nonempty, hcontent', hat.named⟩
  have hfind := hat.find hdisk hroot
  apply SuiteFile.load_congr
  rw [hat.readText hdisk hroot, hat'.readText hother hroot']
  cases hreach : reach root place names with
  | error e => rfl
  | ok reached =>
    obtain rfl := eq_of_reach hreach
    rw [hfind, hreach] at hpath
    rw [h.elsewhere _ fun heq => hpath (congrArg Except.ok heq), hat.content] at hcontent'
    cases hcontent'
    rfl

end WellFormed

end Disk

/-! ## Loads that differ in one file -/

theorem Registry.WellFormed.answers_congr {registry other : Registry} (h : registry.WellFormed)
    (h' : other.WellFormed) {suite : String}
    (hsame : other.exclusionsOf suite = registry.exclusionsOf suite) (testId : String) :
    other.find? suite testId = registry.find? suite testId := by
  rw [h.find?_eq, h'.find?_eq, hsame]

namespace Load
open Sorted (Increasing)

/-- Two registries give the same answers about a suite. -/
structure SameAnswers (registry other : Registry) (suite : String) : Prop where
  containsSuite : other.containsSuite suite = registry.containsSuite suite
  reasonsOf : other.reasonsOf suite = registry.reasonsOf suite
  reason? : ∀ testId, other.reason? suite testId = registry.reason? suite testId
  location? : ∀ testId, other.location? suite testId = registry.location? suite testId

/-- Two loads agree on everything but the file at one place of the disk and the suite that it
defines. If it defines none, or another file has claimed that suite, they agree on everything. -/
structure Isolated (disk : Disk) (found : List SuiteFile) (changed : Place)
    (loaded loaded' : Loaded) : Prop where
  files : (loaded'.files.filter fun file => disk.find file.path ≠ .ok changed) =
    loaded.files.filter fun file => disk.find file.path ≠ .ok changed
  failures : (loaded'.failures.filter fun failure => disk.find failure.path ≠ .ok changed) =
    loaded.failures.filter fun failure => disk.find failure.path ≠ .ok changed
  suites : ∀ suite, (∀ file ∈ found, disk.find file.path = .ok changed → file.suite ≠ suite) →
    SameAnswers loaded.registry loaded'.registry suite
  all : (∀ file ∈ found, disk.find file.path = .ok changed →
      ∃ first ∈ found, first.suite = file.suite ∧ first.path.compare file.path = .lt) →
    loaded' = loaded

theorem Holds.sameAnswers {disk other : Disk} {found : List SuiteFile}
    {registry registry' : Registry} (h : Holds disk found registry)
    (h' : Holds other found registry') {suite : String}
    (hload : ∀ file, owner? found suite = some file → file.load other = file.load disk) :
    SameAnswers registry registry' suite := by
  obtain ⟨hcontains, hexclusions⟩ := h.suite_congr h' rfl hload
  have hanswers := h.wellFormed.answers_congr h'.wellFormed hexclusions
  refine ⟨Bool.eq_iff_iff.mpr hcontains, ?_, fun testId => ?_, fun testId => ?_⟩
  · rw [Registry.reasonsOf, hexclusions, ← Registry.reasonsOf]
  · rw [Registry.reason?, hanswers, ← Registry.reason?]
  · rw [Registry.location?, hanswers, ← Registry.location?]

theorem failure?_congr {disk other : Disk} {found : List SuiteFile} {file : SuiteFile}
    (h : file.load other = file.load disk) :
    failure? other found file = failure? disk found file := by
  rw [failure?, unloadable?, h, ← unloadable?, ← failure?]

/-- A file that comes behind one of its suite fails for that reason, whatever it holds. -/
theorem failure?_of_doubled {found : List SuiteFile} (hfound : Increasing (·.path.components) found)
    {file first : SuiteFile} (hfile : file ∈ found) (hfirst : first ∈ found)
    (hsuite : first.suite = file.suite) (hlt : first.path.compare file.path = .lt)
    (disk other : Disk) : failure? other found file = failure? disk found file := by
  cases hdoubled : doubled? found file with
  | none =>
    have hclaims := (doubled?_eq_none_iff_claims hfound hfile).mp hdoubled
    exact absurd hlt (hclaims.first first hfirst hsuite)
  | some failure => rw [failure?, failure?, hdoubled, Option.some_or, Option.some_or]

/-- Loads are the same if the same files fail for the same reasons and the owners of suites are
loaded alike. -/
theorem Separates.congr {disk other : Disk} {found : List SuiteFile} {loaded loaded' : Loaded}
    (h : Separates disk found loaded) (h' : Separates other found loaded')
    (hfailure : ∀ file ∈ found, failure? other found file = failure? disk found file)
    (hload : ∀ suite file, owner? found suite = some file → file.load other = file.load disk) :
    loaded' = loaded := by
  have hregistry : loaded'.registry = loaded.registry :=
    h.holds.unique h'.holds (fun _ => rfl) hload
  have hfiles : loaded'.files = loaded.files := by
    rw [h.files, h'.files]
    exact List.filter_congr fun file hfile => by rw [hfailure file hfile]
  have hfailures : loaded'.failures = loaded.failures := by
    rw [h.failures, h'.failures]
    exact List.filterMap_congr hfailure
  cases loaded
  cases loaded'
  simp_all

section Loads
variable {disk other : Disk} {changed : Place} (h : disk.DifferAt other changed)
  (hdisk : disk.WellFormed) (hother : other.WellFormed) {root : Path} {found : List SuiteFile}
  (hfound : disk.suiteFiles root = .ok found)
include h hdisk hother hfound

theorem isolated_of_separates {loaded loaded' : Loaded} (hloaded : Separates disk found loaded)
    (hloaded' : Separates other found loaded') : Isolated disk found changed loaded loaded' := by
  have hincreasing := Disk.increasing_of_suiteFiles hdisk hfound
  have haway : ∀ file ∈ found, disk.find file.path ≠ .ok changed →
      file.load other = file.load disk := fun file => h.load_eq hdisk hother hfound
  refine ⟨?_, ?_, fun suite hsuite => ?_, fun hclaimed => ?_⟩
  · rw [hloaded.files, hloaded'.files, List.filter_filter, List.filter_filter]
    refine List.filter_congr fun file hfile => ?_
    by_cases hpath : disk.find file.path = .ok changed
    · simp [hpath]
    · rw [failure?_congr (haway file hfile hpath)]
  · rw [hloaded.failures, hloaded'.failures, List.filter_filterMap, List.filter_filterMap]
    refine List.filterMap_congr fun file hfile => ?_
    by_cases hpath : disk.find file.path = .ok changed
    · have hnone : ∀ disk' : Disk, (failure? disk' found file).filter
          (fun failure => disk.find failure.path ≠ .ok changed) = none := by
        intro disk'
        rw [Option.filter_eq_none_iff]
        intro failure hfailure
        simp [(path_of_failure? hfailure).2, hpath]
      rw [hnone, hnone]
    · rw [failure?_congr (haway file hfile hpath)]
  · refine hloaded.holds.sameAnswers hloaded'.holds fun file hfile => ?_
    obtain ⟨hmem, rfl⟩ := owner?_eq_some hfile
    exact haway file hmem fun hpath => hsuite file hmem hpath rfl
  · refine hloaded.congr hloaded' (fun file hfile => ?_) fun suite file hfile => ?_
    · by_cases hpath : disk.find file.path = .ok changed
      · obtain ⟨first, hfirst, hsuite, hlt⟩ := hclaimed file hfile hpath
        exact failure?_of_doubled hincreasing hfile hfirst hsuite hlt disk other
      · exact failure?_congr (haway file hfile hpath)
    · -- the owner of a suite has no file of the suite in front of it
      obtain ⟨hmem, -⟩ := owner?_eq_some hfile
      refine haway file hmem fun hpath => ?_
      obtain ⟨first, hfirst, hsuite, hlt⟩ := hclaimed file hmem hpath
      exact (claims_of_owner? hincreasing hfile).first first hfirst hsuite hlt

end Loads

/-- What a file holds does not decide whether a best-effort load of a directory succeeds, and if it
does, has no say in anything but the file itself and the suite that it defines. -/
theorem bestEffort_isolates {disk other : Disk} (hdisk : disk.WellFormed)
    (hother : other.WellFormed) {changed : Place} (hchanged : disk.DifferAt other changed)
    (root : Path) :
    (∀ error, other.load .bestEffort root = .error error ↔
      disk.load .bestEffort root = .error error) ∧
    (∀ place, disk.directory? root = some place →
      ((∃ loaded, disk.load .bestEffort root = .ok loaded) ↔ disk.Listable root place)) ∧
    ∀ loaded, disk.load .bestEffort root = .ok loaded →
      ∃ loaded' found, other.load .bestEffort root = .ok loaded' ∧
        disk.suiteFiles root = .ok found ∧ other.suiteFiles root = .ok found ∧
        Isolated disk found changed loaded loaded' := by
  have hsame := hchanged.suiteFiles_eq hdisk hother root
  cases hfound : disk.suiteFiles root with
  | error cause =>
    have hload := load_of_suiteFiles_error hfound .bestEffort
    have hload' := load_of_suiteFiles_error (hsame.trans hfound) .bestEffort
    refine ⟨by simp [hload, hload'], fun place hroot => ?_, by simp [hload]⟩
    simp [hload, Disk.not_listable_of_suiteFiles hdisk hroot hfound]
  | ok found =>
    have hincreasing := Disk.increasing_of_suiteFiles hdisk hfound
    obtain ⟨loaded, hload, hloaded⟩ := load_bestEffort hincreasing hfound
    obtain ⟨loaded', hload', hloaded'⟩ := load_bestEffort hincreasing (hsame.trans hfound)
    refine ⟨by simp [hload, hload'], fun place hroot => ?_, fun _ heq => ?_⟩
    · simp [hload, (Disk.suiteFiles_eq_of_ok hdisk hroot hfound).1]
    · cases hload.symm.trans heq
      exact ⟨loaded', found, hload', rfl, hsame.trans hfound,
        isolated_of_separates hchanged hdisk hother hfound hloaded hloaded'⟩

/-- A file that another one follows in its suite becomes malformed. -/
def spoiltDisk : Disk := mixedDisk.put ["d", "B.rb"] (.file "exclude\n".toUTF8)

theorem bestEffort_isolates_mixed : mixedDisk.WellFormed ∧ spoiltDisk.WellFormed ∧
    mixedDisk.DifferAt spoiltDisk ["d", "B.rb"] ∧
    ∃ loaded loaded' found, mixedDisk.load .bestEffort ⟨"d"⟩ = .ok loaded ∧
      spoiltDisk.load .bestEffort ⟨"d"⟩ = .ok loaded' ∧
      mixedDisk.suiteFiles ⟨"d"⟩ = .ok found ∧ spoiltDisk.suiteFiles ⟨"d"⟩ = .ok found ∧
      Isolated mixedDisk found ["d", "B.rb"] loaded loaded' ∧
      loaded.files.map (·.path.text) = ["d/B.rb", "d/C.toml"] ∧
      loaded'.files.map (·.path.text) = ["d/C.toml"] ∧
      loaded'.failures.map (·.path.text) = ["d/A.rb", "d/B.rb", "d/B.txt"] := by
  have hdisk : mixedDisk.WellFormed := by decide +kernel
  have hother : spoiltDisk.WellFormed := by decide +kernel
  have hchanged : mixedDisk.DifferAt spoiltDisk ["d", "B.rb"] :=
    Disk.differAt_put (by simp) rfl _
  have hanswer : (mixedDisk.load .bestEffort ⟨"d"⟩).map (fun loaded =>
      loaded.files.map (·.path.text)) = .ok ["d/B.rb", "d/C.toml"] := by
    decide +kernel
  have hanswer' : (spoiltDisk.load .bestEffort ⟨"d"⟩).map (fun loaded =>
      (loaded.files.map (·.path.text), loaded.failures.map (·.path.text))) =
        .ok (["d/C.toml"], ["d/A.rb", "d/B.rb", "d/B.txt"]) := by
    decide +kernel
  obtain ⟨loaded, hload, hfiles⟩ := Outcome.map_eq_ok_iff.mp hanswer
  obtain ⟨-, -, hisolated⟩ := bestEffort_isolates hdisk hother hchanged ⟨"d"⟩
  obtain ⟨loaded', found, hload', hfound, hfound', hloads⟩ := hisolated loaded hload
  rw [hload'] at hanswer'
  obtain ⟨hfiles', hfailures'⟩ := Prod.mk.inj (Except.ok.inj hanswer')
  exact ⟨hdisk, hother, hchanged, loaded, loaded', found, hload, hload', hfound, hfound', hloads,
    hfiles, hfiles', hfailures'⟩

/-- A directory with a file and an empty directory in it. -/
def crowdedDisk (content : ByteArray) : Disk :=
  ⟨[], [(["d"], .directory), (["d", "abcdef"], .directory), (["d", "x"], .file content)], []⟩

/-- Whatever a file holds, both loads fail if the path of a directory is too long. -/
theorem bestEffort_fails_beside_long_path :
    (crowdedDisk "1".toUTF8).WellFormed ∧ (crowdedDisk "2".toUTF8).WellFormed ∧
    (crowdedDisk "1".toUTF8).DifferAt (crowdedDisk "2".toUTF8) ["d", "x"] ∧
    (crowdedDisk "1".toUTF8).directory? (nestedRoot 2045) = some [Text.utf8 "d"] ∧
    (∃ error, (crowdedDisk "1".toUTF8).load .bestEffort (nestedRoot 2045) = .error error) ∧
    ∃ error, (crowdedDisk "2".toUTF8).load .bestEffort (nestedRoot 2045) = .error error := by
  have hdisk : (crowdedDisk "1".toUTF8).WellFormed := by decide +kernel
  have hother : (crowdedDisk "2".toUTF8).WellFormed := by decide +kernel
  have hchanged : (crowdedDisk "1".toUTF8).DifferAt
      ((crowdedDisk "1".toUTF8).put ["d", "x"] (.file "2".toUTF8)) ["d", "x"] :=
    Disk.differAt_put (by simp) rfl _
  refine ⟨hdisk, hother, hchanged,
    directory?_behindDots hdisk (by decide) (by decide), ?_, ?_⟩
  · exact ⟨_, load_of_suiteFiles_error
      (suiteFiles_behindDots hdisk (by decide) (by decide) rfl (by decide) (by decide)) .bestEffort⟩
  · exact ⟨_, load_of_suiteFiles_error
      (suiteFiles_behindDots hother (by decide) (by decide) rfl (by decide) (by decide)) .bestEffort⟩

end Load
end TestExclusions
