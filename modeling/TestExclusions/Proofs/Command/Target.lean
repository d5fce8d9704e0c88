import TestExclusions.Command.Run
import TestExclusions.Proofs.Command.Add

/-! Where an addition goes. A suite that it accepts has a file of exclusion lines below the root, which
stands for that suite and for no other one. No addition is refused because its file would be read as
that of another suite. -/
namespace TestExclusions

/-! ## Found files -/

theorem SuiteFile.suiteName?_of_ofNames? {root : Path} {names : List Bytes} {file : SuiteFile}
    (h : ofNames? root names = some file) : suiteName? root file.path = some file.suite := by
  unfold ofNames? at h
  split at h
  · cases h
  · dsimp only at h
    split at h
    · rename_i hsuite
      cases h
      exact hsuite
    · cases h

/-- A file that is found stands for its suite. -/
theorem Disk.suiteName?_of_mem_suiteFiles {disk : Disk} {root : Path} {found : List SuiteFile}
    (hfound : disk.suiteFiles root = .ok found) {file : SuiteFile} (hfile : file ∈ found) :
    SuiteFile.suiteName? root file.path = some file.suite := by
  unfold suiteFiles at hfound
  split at hfound
  · cases hfound
  · split at hfound
    · cases hfound
    · cases hfound
      rw [suiteFilesBelow, Sorted.mem_sort, List.mem_filterMap] at hfile
      obtain ⟨names, -, hnamed⟩ := hfile
      exact SuiteFile.suiteName?_of_ofNames? hnamed

namespace Command

/-! ## New files -/

/-- A path stands for a suite as a file of exclusion lines, and goes on from the root by visible names
alone. -/
structure StandsFor (root path : Path) (suite : String) : Prop where
  suite : SuiteFile.suiteName? root path = some suite
  format : Format.ofPath? path = some .lines
  below : ∃ names, names ≠ [] ∧ path.components = root.components ++ names.map .name ∧
    ∀ name ∈ names, Path.IsName name ∧ name.head? ≠ some Path.dot

theorem standsFor_newFile (root : Path) {suite : String} (h : suiteNameFault? suite = none) :
    StandsFor root (newFile root suite) suite :=
  ⟨suiteName?_newFile root h, ofPath?_newFile root h, newFileNames suite,
    newFileNames_ne_nil h, components_newFile root h, visible_of_mem_newFileNames h⟩

/-- The file of a new suite tells the suite. -/
theorem eq_of_components_newFile {root : Path} {suite other : String}
    (hsuite : suiteNameFault? suite = none) (hother : suiteNameFault? other = none)
    (h : (newFile root suite).components = (newFile root other).components) : suite = other := by
  have hshared := SuiteFile.suiteName?_of_components (h.symm.trans (components_newFile root hsuite))
  rw [suiteName?_newFile root hother,
    ← SuiteFile.suiteName?_of_components (components_newFile root hsuite),
    suiteName?_newFile root hsuite] at hshared
  exact (Option.some.inj hshared).symm

/-! ## Targets -/

/-- Found or new, the file that an addition is written to stands for its suite. -/
theorem suiteName?_of_targetFile {disk : Disk} {root path : Path} {found : List SuiteFile}
    {suite : String} (hname : suiteNameFault? suite = none)
    (hfound : disk.suiteFiles root = .ok found) (h : targetFile found root suite = .ok path) :
    SuiteFile.suiteName? root path = some suite := by
  unfold targetFile at h
  split at h
  · rename_i file hfile
    split at h
    · cases h
    · cases h
      have hsuite : file.suite = suite := by simpa using List.find?_some hfile
      rw [Disk.suiteName?_of_mem_suiteFiles hfound (List.mem_of_find?_eq_some hfile), hsuite]
  · cases h
    exact suiteName?_newFile root hname

/-- No file is found to stand for another suite once the name of the suite has no fault. -/
theorem plan_ne_misplaced (disk : Disk) (root : Path) (mode : LoadMode)
    (suite testId reason : String) (path : Path) (named : String) :
    plan disk root mode suite testId reason ≠ .error (.misplaced path named) := by
  intro h
  unfold plan at h
  split at h
  · cases h
  rename_i hname
  rcases Outcome.bind_eq_error_iff.mp h with hload | ⟨loaded, -, h⟩
  · unfold Disk.loadFor at hload
    split at hload <;> cases hload
  split at h
  · cases h
  rcases Outcome.bind_eq_error_iff.mp h with hfiles | ⟨found, hfound, h⟩
  · obtain ⟨_, -, heq⟩ := Outcome.mapError_eq_error_iff.mp hfiles
    cases heq
  rcases Outcome.bind_eq_error_iff.mp h with htarget | ⟨target, htarget, h⟩
  · unfold targetFile at htarget
    repeat' split at htarget
    all_goals cases htarget
  have hnamed := suiteName?_of_targetFile (Option.eq_none_iff_forall_ne_some.mpr hname)
    (Outcome.mapError_eq_ok_iff.mp hfound) htarget
  rw [if_neg (not_not.mpr hnamed)] at h
  rcases Outcome.bind_eq_error_iff.mp h with htext | ⟨text, -, h⟩
  · obtain ⟨_, -, heq⟩ := Outcome.mapError_eq_error_iff.mp htext
    cases heq
  rcases Outcome.bind_eq_error_iff.mp h with hrecords | ⟨records, -, h⟩
  · obtain ⟨_, -, heq⟩ := Outcome.mapError_eq_error_iff.mp hrecords
    cases heq
  split at h <;> cases h

/-! ## Runs -/

/-- Below any root, the empty path not excepted, a suite that an addition accepts has a file of
exclusion lines that stands for it, reached from the root by visible names; different suites have
different files. No addition is refused because its file would be read as that of another suite. -/
theorem additions_stay_in_place (root : Path) :
    (∀ suite, suiteNameFault? suite = none → StandsFor root (newFile root suite) suite) ∧
    (∀ suite other, suiteNameFault? suite = none → suiteNameFault? other = none → suite ≠ other →
      (newFile root suite).components ≠ (newFile root other).components) ∧
    ∀ disk mode verbosity suite testId reason path named,
      (Invocation.run ⟨root, mode, verbosity, .add suite testId reason⟩ disk).1 ≠
        .error (.misplaced path named) := by
  refine ⟨fun suite h => standsFor_newFile root h, fun suite other hsuite hother hne heq =>
    hne (eq_of_components_newFile hsuite hother heq), ?_⟩
  intro disk mode verbosity suite testId reason path named h
  have hrun : (runAdd root mode suite testId reason).run disk =
      (.error (.misplaced path named), ((runAdd root mode suite testId reason).run disk).2) :=
    Prod.ext h rfl
  rcases run_of_runAdd hrun with ⟨_, hplan, heq, -⟩ | ⟨_, _, -, ⟨_, _, -, -, heq, -⟩ |
    ⟨_, -, heq, -⟩ | ⟨_, -, heq⟩⟩
  · cases heq
    exact plan_ne_misplaced disk root mode suite testId reason path named hplan
  · cases heq
  · cases heq
  · cases heq

/-- Three colons are split after the second one, and a dot at the end belongs to the stem. -/
theorem additions_stay_in_place_colons :
    suiteNameFault? "A:::b." = none ∧ suiteNameFault? "A::b." = none ∧
    newFile ⟨""⟩ "A:::b." = ⟨"A/:b..rb"⟩ ∧ StandsFor ⟨""⟩ ⟨"A/:b..rb"⟩ "A:::b." ∧
    (newFile ⟨""⟩ "A:::b.").components ≠ (newFile ⟨""⟩ "A::b.").components := by
  have hname : suiteNameFault? "A:::b." = none := by decide
  have hother : suiteNameFault? "A::b." = none := by decide
  have hfile : newFile ⟨""⟩ "A:::b." = ⟨"A/:b..rb"⟩ := by decide
  obtain ⟨hstands, hdistinct, -⟩ := additions_stay_in_place ⟨""⟩
  exact ⟨hname, hother, hfile, hfile ▸ hstands _ hname, hdistinct _ _ hname hother (by decide)⟩

end Command
end TestExclusions
