import TestExclusions.Command.Run
import TestExclusions.Proofs.Load.Accounting
import TestExclusions.Proofs.Load.Modes

/-! Checking in both modes. A check prints a summary of a load, so that a strict check is content
exactly if a best-effort one is that may not leave out any file. -/
namespace TestExclusions.Command
open Load (Reported mixedDisk nestedDisk nestedRoot)

/-- What a check makes of a load. -/
def summary (denyFailures : Bool) (loaded : Loaded) : Output where
  success := !(denyFailures && !loaded.failures.isEmpty)
  printed := toString loaded.registry.size ++ " exclusions across " ++
    toString loaded.registry.suiteNames.length ++ " suites (" ++
    toString loaded.failures.length ++ " units skipped)\n"

theorem runCheck_eq_ok_iff {disk : Disk} {root : Path} {mode : LoadMode} {denyFailures : Bool}
    {output : Output} : runCheck disk root mode denyFailures = .ok output ↔
      ∃ loaded, disk.load mode root = .ok loaded ∧ output = summary denyFailures loaded := by
  unfold runCheck Disk.loadFor
  cases disk.load mode root with
  | error e => simp [bind, Except.bind]
  | ok loaded => simp [bind, Except.bind, pure, Except.pure, summary, eq_comm]

/-- A check that denies failures is content exactly if there are none. -/
theorem success_summary_iff {loaded : Loaded} :
    (summary true loaded).success = true ↔ loaded.failures = [] := by
  simp [summary]

theorem summary_of_no_failures {loaded : Loaded} (h : loaded.failures = []) (deny other : Bool) :
    summary deny loaded = summary other loaded := by
  simp [summary, h]

theorem runCheck_strict_iff {disk : Disk} (hdisk : disk.WellFormed) {root : Path} (deny : Bool)
    {output : Output} (hsuccess : output.success = true) :
    runCheck disk root .strict deny = .ok output ↔
      runCheck disk root .bestEffort true = .ok output := by
  rw [runCheck_eq_ok_iff, runCheck_eq_ok_iff]
  refine exists_congr fun loaded => ?_
  rw [Load.load_strict_eq_ok_iff hdisk, and_assoc]
  refine and_congr_right fun _ => ?_
  constructor
  · rintro ⟨hnil, rfl⟩
    exact summary_of_no_failures hnil deny true
  · rintro rfl
    have hnil := success_summary_iff.mp hsuccess
    exact ⟨hnil, summary_of_no_failures hnil true deny⟩

/-- A strict load succeeds exactly if a best-effort one leaves nothing out, and gives the same. On a
directory it otherwise reports a failure of the best-effort load, unless that fails as well because
some directory cannot be listed. A strict check is content, with the same output, exactly if a
best-effort check that denies failures is. -/
theorem modes_agree {disk : Disk} (hdisk : disk.WellFormed) (root : Path) :
    (∀ loaded, disk.load .strict root = .ok loaded ↔
      disk.load .bestEffort root = .ok loaded ∧ loaded.failures = []) ∧
    (∀ place error, disk.directory? root = some place → disk.load .strict root = .error error →
      (disk.Listable root place ∧ ∃ loaded failure, disk.load .bestEffort root = .ok loaded ∧
        Reported loaded.failures failure ∧ failure.error = error) ∨
      (¬disk.Listable root place ∧ disk.load .bestEffort root = .error error)) ∧
    ∀ verbosity deny output, output.success = true →
      ((Invocation.run ⟨root, .strict, verbosity, .check deny⟩ disk).1 = .ok output ↔
        (Invocation.run ⟨root, .bestEffort, verbosity, .check true⟩ disk).1 = .ok output) := by
  refine ⟨fun loaded => Load.load_strict_eq_ok_iff hdisk, fun place error hroot herror => ?_,
    fun verbosity deny output hsuccess => runCheck_strict_iff hdisk deny hsuccess⟩
  cases hsuiteFiles : disk.suiteFiles root with
  | ok found =>
    obtain ⟨hlistable, -⟩ := Disk.suiteFiles_eq_of_ok hdisk hroot hsuiteFiles
    have hfound := Disk.increasing_of_suiteFiles hdisk hsuiteFiles
    obtain ⟨loaded, hloaded, -⟩ := Load.load_bestEffort hfound hsuiteFiles
    obtain ⟨failure, hreported, hfailure⟩ := Load.reported_of_load_strict hdisk herror hloaded
    exact .inl ⟨hlistable, loaded, failure, hloaded, hreported, hfailure⟩
  | error e =>
    rw [Load.load_of_suiteFiles_error hsuiteFiles] at herror
    cases herror
    exact .inr ⟨Disk.not_listable_of_suiteFiles hdisk hroot hsuiteFiles,
      Load.load_of_suiteFiles_error hsuiteFiles .bestEffort⟩

/-- The doubled suite is reported, although a file in front of it is malformed. -/
theorem modes_agree_mixed : mixedDisk.WellFormed ∧
    mixedDisk.directory? ⟨"d"⟩ = some [Text.utf8 "d"] ∧
    mixedDisk.load .strict ⟨"d"⟩ = .error (.duplicateSuite "B" ⟨"d/B.rb"⟩ ⟨"d/B.txt"⟩) ∧
    (∃ loaded failure, mixedDisk.load .bestEffort ⟨"d"⟩ = .ok loaded ∧
      Reported loaded.failures failure ∧
      failure.error = .duplicateSuite "B" ⟨"d/B.rb"⟩ ⟨"d/B.txt"⟩) ∧
    (Invocation.run ⟨⟨"e"⟩, .bestEffort, 0, .check true⟩ mixedDisk).1 =
      .ok { printed := "1 exclusions across 1 suites (0 units skipped)\n" } := by
  have hdisk : mixedDisk.WellFormed := by decide +kernel
  have hroot : mixedDisk.directory? ⟨"d"⟩ = some [Text.utf8 "d"] := by decide +kernel
  have herror : (mixedDisk.load .strict ⟨"d"⟩).map (fun _ => ()) =
      .error (.duplicateSuite "B" ⟨"d/B.rb"⟩ ⟨"d/B.txt"⟩) := by
    decide +kernel
  have hstrict := Outcome.map_eq_error_iff.mp herror
  have hprinted : (mixedDisk.load .strict ⟨"e"⟩).map (fun loaded =>
      (loaded.registry.size, loaded.registry.suiteNames, loaded.failures)) =
      .ok (1, ["A"], []) := by
    decide +kernel
  have hcheck : (Invocation.run ⟨⟨"e"⟩, .strict, 0, .check false⟩ mixedDisk).1 =
      .ok { printed := "1 exclusions across 1 suites (0 units skipped)\n" } := by
    obtain ⟨loaded, hload, hloaded⟩ := Outcome.map_eq_ok_iff.mp hprinted
    obtain ⟨hsize, hrest⟩ := Prod.mk.inj hloaded
    obtain ⟨hnames, hfailures⟩ := Prod.mk.inj hrest
    refine runCheck_eq_ok_iff.mpr ⟨loaded, hload, ?_⟩
    rw [summary, hsize, hnames, hfailures]
    rfl
  obtain ⟨-, hreported, -⟩ := modes_agree hdisk ⟨"d"⟩
  obtain ⟨-, -, hchecks⟩ := modes_agree hdisk ⟨"e"⟩
  have hbestEffort : (mixedDisk.load .bestEffort ⟨"d"⟩).map (fun _ => ()) = .ok () := by
    decide +kernel
  refine ⟨hdisk, hroot, hstrict, ?_, (hchecks 0 false _ rfl).mp hcheck⟩
  rcases hreported ["d"] _ hroot hstrict with ⟨-, hfailure⟩ | ⟨-, hfails⟩
  · exact hfailure
  · rw [hfails] at hbestEffort
    cases hbestEffort

/-- The error of a strict load of a directory need not be a failure of a best-effort load: the path
of a directory below it can be too long for both. -/
theorem strict_error_unreported : nestedDisk.WellFormed ∧
    nestedDisk.directory? (nestedRoot 2045) = some [Text.utf8 "d"] ∧
    ∃ error, nestedDisk.load .strict (nestedRoot 2045) = .error error ∧
      ¬∃ loaded failure, nestedDisk.load .bestEffort (nestedRoot 2045) = .ok loaded ∧
        failure ∈ loaded.failures ∧ failure.error = error := by
  refine ⟨Load.wellFormed_nestedDisk, Load.directory?_nestedRoot (by decide), _,
    Load.load_nestedRoot (by decide) (by decide) .strict, ?_⟩
  rintro ⟨loaded, failure, hload, -⟩
  rw [Load.load_nestedRoot (by decide) (by decide)] at hload
  cases hload

end TestExclusions.Command
