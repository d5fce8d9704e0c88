import TestExclusions.Proofs.Load
import TestExclusions.Proofs.Path.Order
import TestExclusions.Proofs.Sorted

/-! Which files a load leaves out. Every file that is found is kept or fails, for a reason that
depends on nothing but the files found and the disk, and both kinds keep the order of the files. -/
namespace TestExclusions.Load
open Sorted (Increasing)

/-! ## Why a file fails -/

/-- The failure of a file whose suite belongs to another one. -/
def doubled? (found : List SuiteFile) (file : SuiteFile) : Option LoadFailure :=
  match owner? found file.suite with
  | some first =>
    if first = file then none
    else some ⟨file.suite, file.path, .duplicateSuite file.suite first.path file.path⟩
  | none => none

/-- The failure of a file that cannot be loaded. -/
def unloadable? (disk : Disk) (file : SuiteFile) : Option LoadFailure :=
  match file.load disk with
  | .ok _ => none
  | .error e => some ⟨file.suite, file.path, e⟩

/-- The failure of a file that is left out. -/
def failure? (disk : Disk) (found : List SuiteFile) (file : SuiteFile) : Option LoadFailure :=
  (doubled? found file).or (unloadable? disk file)

theorem doubled?_eq_some_iff {found : List SuiteFile} {file : SuiteFile} {failure : LoadFailure} :
    doubled? found file = some failure ↔ ∃ first, owner? found file.suite = some first ∧
      first ≠ file ∧
      failure = ⟨file.suite, file.path, .duplicateSuite file.suite first.path file.path⟩ := by
  unfold doubled?
  cases owner? found file.suite with
  | none => simp
  | some first => simp [eq_comm]

theorem unloadable?_eq_some_iff {disk : Disk} {file : SuiteFile} {failure : LoadFailure} :
    unloadable? disk file = some failure ↔
      ∃ e, file.load disk = .error e ∧ failure = ⟨file.suite, file.path, e⟩ := by
  unfold unloadable?
  cases file.load disk <;> simp [eq_comm]

theorem unloadable?_eq_none_iff {disk : Disk} {file : SuiteFile} :
    unloadable? disk file = none ↔ ∃ definition, file.load disk = .ok definition := by
  unfold unloadable?
  cases file.load disk <;> simp

theorem owner?_isSome_of_mem {found : List SuiteFile} {file : SuiteFile} (h : file ∈ found) :
    ∃ first, owner? found file.suite = some first := by
  rw [← Option.isSome_iff_exists, owner?, List.find?_isSome]
  exact ⟨file, h, by simp⟩

theorem doubled?_eq_none_iff {found : List SuiteFile} {file : SuiteFile} (h : file ∈ found) :
    doubled? found file = none ↔ owner? found file.suite = some file := by
  obtain ⟨first, hfirst⟩ := owner?_isSome_of_mem h
  simp [doubled?, hfirst]

/-- A failure names the file that failed. -/
theorem path_of_failure? {disk : Disk} {found : List SuiteFile} {file : SuiteFile}
    {failure : LoadFailure} (h : failure? disk found file = some failure) :
    failure.suite = file.suite ∧ failure.path = file.path := by
  rcases Option.or_eq_some_iff.mp h with h | ⟨-, h⟩
  · obtain ⟨first, -, -, rfl⟩ := doubled?_eq_some_iff.mp h
    exact ⟨rfl, rfl⟩
  · obtain ⟨e, -, rfl⟩ := unloadable?_eq_some_iff.mp h
    exact ⟨rfl, rfl⟩

/-! ## The two passes -/

theorem owner?_append_cons (claimed rest : List SuiteFile) (file : SuiteFile)
    (h : file.suite ∈ claimed.map (·.suite)) :
    owner? (claimed ++ file :: rest) = owner? (claimed ++ rest) := by
  funext suite
  unfold owner?
  rw [List.find?_append, List.find?_append]
  by_cases hsuite : file.suite = suite
  · have hsome : (claimed.find? (·.suite = suite)).isSome := by
      obtain ⟨first, hfirst, hsame⟩ := List.mem_map.mp h
      rw [List.find?_isSome]
      exact ⟨first, hfirst, by simp [hsame, hsuite]⟩
    obtain ⟨first, hfirst⟩ := Option.isSome_iff_exists.mp hsome
    simp [hfirst]
  · simp [hsuite]

/-- The first pass keeps the owners of their suites. -/
theorem claim_eq {claimed files : List SuiteFile} (h : (claimed ++ files).Nodup) :
    claim claimed files =
      (files.filter fun file => doubled? (claimed ++ files) file = none,
        files.filterMap (doubled? (claimed ++ files))) := by
  induction files generalizing claimed with
  | nil => rfl
  | cons file rest ih =>
    rw [claim]
    split
    · rename_i first hfirst
      have hne : first ≠ file := fun heq =>
        (List.nodup_append.mp h).2.2 file (heq ▸ List.mem_of_find?_eq_some hfirst) file
          List.mem_cons_self rfl
      have hsame : first.suite = file.suite := by simpa using List.find?_some hfirst
      have hclaimed : file.suite ∈ claimed.map (·.suite) :=
        hsame ▸ List.mem_map_of_mem (List.mem_of_find?_eq_some hfirst)
      -- a file whose suite is claimed already owns nothing, and can be passed over
      have howner := owner?_append_cons claimed rest file hclaimed
      have hdoubled : doubled? (claimed ++ file :: rest) = doubled? (claimed ++ rest) := by
        funext other
        rw [doubled?, howner, ← doubled?]
      have hfile : doubled? (claimed ++ rest) file =
          some ⟨file.suite, file.path, .duplicateSuite file.suite first.path file.path⟩ := by
        refine doubled?_eq_some_iff.mpr ⟨first, ?_, hne, rfl⟩
        rw [owner?, List.find?_append, hfirst, Option.some_or]
      have hrest : (claimed ++ rest).Nodup :=
        h.sublist ((List.sublist_cons_self file rest).append_left claimed)
      simp [ih hrest, hdoubled, hfile]
    · rename_i hnone
      have hfile : doubled? (claimed ++ file :: rest) file = none := by
        rw [doubled?_eq_none_iff (by simp), owner?, List.find?_append, hnone, Option.none_or,
          List.find?_cons_of_pos (by simp)]
      have hassoc : claimed ++ [file] ++ rest = claimed ++ file :: rest := by simp
      have hmore : (claimed ++ [file] ++ rest).Nodup := hassoc ▸ h
      rw [ih hmore, hassoc]
      simp [hfile]

theorem readAll_failures (disk : Disk) (files : List SuiteFile) :
    (readAll disk files).2 = files.filterMap (unloadable? disk) := by
  induction files with
  | nil => rfl
  | cons file rest ih =>
    rw [readAll, List.filterMap_cons, unloadable?]
    cases file.load disk <;> simp [ih]

theorem readAll_files (disk : Disk) (files : List SuiteFile) :
    (readAll disk files).1.map (·.1) = files.filter fun file => unloadable? disk file = none := by
  induction files with
  | nil => rfl
  | cons file rest ih =>
    rw [readAll, List.filter_cons, unloadable?]
    cases file.load disk <;> simp [ih]

/-! ## The failures in their order -/

theorem filterMap_or_perm {α β : Type} (f g : α → Option β) (as : List α) :
    (as.filterMap f ++ (as.filter fun a => f a = none).filterMap g).Perm
      (as.filterMap fun a => (f a).or (g a)) := by
  induction as with
  | nil => exact .refl _
  | cons a rest ih =>
    cases hf : f a with
    | some b => simpa [hf] using ih
    | none =>
      cases hg : g a with
      | none => simpa [hf, hg] using ih
      | some b =>
        simp only [hf, hg, List.filterMap_cons, List.filter_cons, decide_true, if_true,
          Option.none_or]
        exact List.perm_middle.trans (ih.cons b)

section Found
variable {found : List SuiteFile} (hfound : Increasing (·.path.components) found)
include hfound

theorem increasing_failures (disk : Disk) :
    Increasing (·.path.components) (found.filterMap (failure? disk found)) := by
  refine List.pairwise_filterMap.mpr (List.Pairwise.imp ?_ hfound)
  intro a b hlt failure hfailure failure' hfailure'
  change failure.path.components < failure'.path.components
  rwa [(path_of_failure? hfailure).2, (path_of_failure? hfailure').2]

theorem claim_found : claim [] found =
    (found.filter fun file => doubled? found file = none, found.filterMap (doubled? found)) :=
  claim_eq hfound.nodup.of_map

theorem files_found (disk : Disk) : (readAll disk (claim [] found).1).1.map (·.1) =
    found.filter fun file => failure? disk found file = none := by
  rw [readAll_files, claim_found hfound, List.filter_filter]
  simp [failure?, Bool.and_comm]

theorem failures_found (disk : Disk) :
    Sorted.sort failureLe ((claim [] found).2 ++ (readAll disk (claim [] found).1).2) =
      found.filterMap (failure? disk found) := by
  have hperm : ((claim [] found).2 ++ (readAll disk (claim [] found).1).2).Perm
      (found.filterMap (failure? disk found)) := by
    rw [readAll_failures, claim_found hfound]
    exact filterMap_or_perm _ _ found
  have hle : ∀ a b, failureLe a b = true ↔ a.path.components ≤ b.path.components :=
    fun a b => Path.le_iff a.path b.path
  have hincreasing := increasing_failures hfound disk
  refine Increasing.ext (Sorted.increasing_sort hle ?_) hincreasing fun failure => ?_
  · exact ((hperm.map _).nodup_iff).mpr hincreasing.nodup
  · rw [Sorted.mem_sort, hperm.mem_iff]

end Found

/-! ## The load -/

/-- What a load makes of the files that are found. -/
structure Separates (disk : Disk) (found : List SuiteFile) (loaded : Loaded) : Prop where
  holds : Holds disk found loaded.registry
  files : loaded.files = found.filter fun file => failure? disk found file = none
  failures : loaded.failures = found.filterMap (failure? disk found)

theorem load_of_suiteFiles_error {disk : Disk} {root : Path} {error : LoadError}
    (h : disk.suiteFiles root = .error error) (mode : LoadMode) :
    disk.load mode root = .error error := by
  rw [Disk.load, h]
  rfl

section BestEffort
variable {disk : Disk} {root : Path} {found : List SuiteFile}
  (hfound : Increasing (·.path.components) found) (hsuiteFiles : disk.suiteFiles root = .ok found)
include hfound hsuiteFiles

/-- In best-effort mode, nothing but the walk can fail. -/
theorem load_bestEffort :
    ∃ loaded, disk.load .bestEffort root = .ok loaded ∧ Separates disk found loaded := by
  obtain ⟨registry, hregistry, hholds⟩ := ofDefinitions_claim disk found
  rw [← map_readAll] at hregistry
  have hload : disk.load .bestEffort root = .ok ⟨registry,
      (readAll disk (claim [] found).1).1.map (·.1),
      Sorted.sort failureLe ((claim [] found).2 ++ (readAll disk (claim [] found).1).2)⟩ := by
    simp [Disk.load, hsuiteFiles, hregistry, bind, Except.bind, pure, Except.pure]
  exact ⟨_, hload, hholds, files_found hfound disk, failures_found hfound disk⟩

theorem separates_of_load {loaded : Loaded} (h : disk.load .bestEffort root = .ok loaded) :
    Separates disk found loaded := by
  obtain ⟨_, hload, hseparates⟩ := load_bestEffort hfound hsuiteFiles
  cases hload.symm.trans h
  exact hseparates

end BestEffort

end TestExclusions.Load
