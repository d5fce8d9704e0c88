import TestExclusions.Proofs.Command.Effect
import TestExclusions.Proofs.Command.Seen
import TestExclusions.Proofs.Ledger
import TestExclusions.Proofs.Load.Modes
import TestExclusions.Proofs.Load.Units

/-! Replays of what has been added. An addition takes more names of suites than a list of tests can
name, so that some of the exclusions that it accepts stay stale whatever is listed. -/
namespace TestExclusions
open Sorted (Increasing)

namespace Ledger

theorem decidedIn_map_decide (tests : List TestName) : decidedIn (tests.map .decide) = tests := by
  simp [decidedIn, List.filterMap_map]

end Ledger

namespace Command

/-! ## Replays -/

theorem replay_eq (registry : Registry) (tests : List TestName) :
    replay registry tests = (Ledger.ofRegistry registry).afterCalls (tests.map .decide) := by
  rw [replay, Ledger.afterCalls, List.foldl_map]
  rfl

/-- A replay reports what a run that met the listed tests would have reported. -/
theorem exact_replay {registry : Registry} (h : registry.WellFormed) (tests : List TestName) :
    Ledger.Exact registry tests (replay registry tests).report := by
  have htracks := Ledger.tracks_afterCalls (Ledger.tracks_ofRegistry registry) (tests.map .decide)
  rw [List.nil_append, Ledger.decidedIn_map_decide, ← replay_eq] at htracks
  exact Ledger.exact_report htracks h

/-- What a replay puts out, with what it prints. -/
def outcome (failOnStale : Bool) (report : SkipReport) (printed : String) : Output :=
  { success := !(failOnStale && report.summary.stale > 0)
    printed := printed
    noted := notes report }

/-- The list is read before the exclusions are loaded. A report is printed, unless a file is given for
it. -/
theorem run_audit_of_list {disk : Disk} {seen : Path} {text : String} {tests : List TestName}
    (hseen : disk.readText seen = .ok text) (htests : readSeen text = .ok tests) (root : Path)
    (mode : LoadMode) (verbosity : Nat) (failOnStale : Bool) (target : Option Path) :
    Invocation.run ⟨root, mode, verbosity, .audit seen target failOnStale⟩ disk =
      match disk.loadFor mode root with
      | .error e => (.error e, disk)
      | .ok loaded =>
        let report := (replay loaded.registry tests).report
        match target with
        | none => (.ok (outcome failOnStale report (report.prettyText ++ "\n")), disk)
        | some path =>
          match (writeReport path report).run disk with
          | (.ok _, after) => (.ok (outcome failOnStale report ""), after)
          | (.error e, after) => (.error e, after) := by
  change (runAudit root mode seen target failOnStale).run disk = _
  unfold runAudit
  rw [Action.run_bind, Action.run_get]
  dsimp only
  rw [Action.run_bind, Action.run_require, hseen]
  dsimp only [Except.mapError]
  rw [Action.run_bind, Action.run_require, htests]
  dsimp only [Except.mapError]
  rw [Action.run_bind, Action.run_require]
  cases disk.loadFor mode root with
  | error e => rfl
  | ok loaded =>
    cases target with
    | none => rfl
    | some path =>
      dsimp only [Except.mapError]
      rw [Action.run_bind]
      rcases (writeReport path _).run disk with ⟨_ | _, after⟩ <;> rfl

theorem run_audit {disk : Disk} {root seen : Path} {mode : LoadMode} {text : String}
    {tests : List TestName} {loaded : Loaded} (hseen : disk.readText seen = .ok text)
    (htests : readSeen text = .ok tests) (hload : disk.load mode root = .ok loaded)
    (verbosity : Nat) (failOnStale : Bool) (target : Option Path) :
    let report := (replay loaded.registry tests).report
    Invocation.run ⟨root, mode, verbosity, .audit seen target failOnStale⟩ disk =
      match target with
      | none => (.ok (outcome failOnStale report (report.prettyText ++ "\n")), disk)
      | some path =>
        match (writeReport path report).run disk with
        | (.ok _, after) => (.ok (outcome failOnStale report ""), after)
        | (.error e, after) => (.error e, after) := by
  have hloadFor : disk.loadFor mode root = .ok loaded := by rw [Disk.loadFor, hload]
  rw [run_audit_of_list hseen htests, hloadFor]

/-- A report that has been written to a file is read there. -/
theorem readText_of_writeReport {disk after : Disk} (hdisk : disk.WellFormed) {path : Path}
    {report : SkipReport} (h : (writeReport path report).run disk = (.ok (), after)) :
    after.readText path = .ok (report.prettyText ++ "\n") := by
  rcases run_create_cases () h with ⟨_, _, -, -, heq, -⟩ | ⟨_, -, heq, -⟩ | ⟨hwrite, -⟩
  · cases heq
  · cases heq
  · obtain ⟨-, hprepared⟩ := Disk.furnishes_prepared disk path hdisk
    obtain ⟨place, hplace⟩ := Disk.writes_of_write hprepared hwrite
    have hcontent := hplace.get? place
    rw [if_pos rfl] at hcontent
    rw [Disk.readText_of_find hplace.found hcontent, textOf_toUTF8]

/-! ## Tests that a list names -/

/-- A replay reports that a test was skipped for a reason, and no other test; the test is not
stale. -/
structure ReportsSkipped (report : SkipReport) (suite testId reason : String) : Prop where
  skipped : report.skipped = [⟨suite, testId, reason⟩]
  notStale : ∀ stale ∈ report.stale, stale.test ≠ ⟨suite, testId⟩

/-- A list names one test, and whatever the options are, its replay reports that this test was
skipped for a reason. -/
structure Names (disk : Disk) (root seen : Path) (suite testId reason : String) : Prop where
  read : ∃ text, disk.readText seen = .ok text ∧ readSeen text = .ok [⟨suite, testId⟩]
  reported : ∃ report, ReportsSkipped report suite testId reason ∧
    ∀ mode verbosity failOnStale,
      Invocation.run ⟨root, mode, verbosity, .audit seen none failOnStale⟩ disk =
          (.ok (outcome failOnStale report (report.prettyText ++ "\n")), disk) ∧
        ∀ path output after,
          Invocation.run ⟨root, mode, verbosity, .audit seen (some path) failOnStale⟩ disk =
              (.ok output, after) →
            output = outcome failOnStale report "" ∧
              after.readText path = .ok (report.prettyText ++ "\n")

theorem reportsSkipped_replay {registry : Registry} (h : registry.WellFormed)
    {suite testId reason : String} (hreason : registry.reason? suite testId = some reason) :
    ReportsSkipped (replay registry [⟨suite, testId⟩]).report suite testId reason := by
  have hexact := exact_replay h [⟨suite, testId⟩]
  constructor
  · apply Increasing.ext (Ledger.increasing_iff (t := SkippedTest.test).mpr hexact.skippedIncreasing)
      (List.pairwise_singleton _ _)
    rintro ⟨suite', testId', reason'⟩
    rw [hexact.mem_skipped]
    simp only [List.mem_singleton, TestName.mk.injEq, SkippedTest.mk.injEq]
    constructor
    · rintro ⟨⟨rfl, rfl⟩, hreason'⟩
      rw [hreason] at hreason'
      cases hreason'
      exact ⟨rfl, rfl, rfl⟩
    · rintro ⟨rfl, rfl, rfl⟩
      exact ⟨⟨rfl, rfl⟩, hreason⟩
  · rintro stale hstale heq
    obtain ⟨exclusion, -, hunmet, rfl⟩ := (hexact.mem_stale stale).mp hstale
    exact hunmet (List.mem_singleton.mpr heq)

theorem load_of_strict {disk : Disk} (hdisk : disk.WellFormed) {root : Path} {loaded : Loaded}
    (h : disk.load .strict root = .ok loaded) (mode : LoadMode) :
    disk.load mode root = .ok loaded := by
  cases mode with
  | strict => exact h
  | bestEffort => exact ((Load.load_strict_eq_ok_iff hdisk).mp h).1

/-- A test that is excluded after a strict load is reported as skipped once it is listed. -/
theorem names_of_excludes {disk : Disk} (hdisk : disk.WellFormed) {root seen : Path}
    {suite testId reason text : String} (hexcludes : Excludes disk .strict root suite testId reason)
    (hseen : disk.readText seen = .ok text) (htests : readSeen text = .ok [⟨suite, testId⟩]) :
    Names disk root seen suite testId reason := by
  obtain ⟨loaded, hload, hreason⟩ := hexcludes
  obtain ⟨_, -, hholds⟩ := Load.holds_of_load hload
  refine ⟨⟨text, hseen, htests⟩, _, reportsSkipped_replay hholds.wellFormed hreason,
    fun mode verbosity failOnStale => ?_⟩
  have hrun := run_audit hseen htests (load_of_strict hdisk hload mode) verbosity failOnStale
  refine ⟨hrun none, fun path output after hok => ?_⟩
  rw [hrun (some path)] at hok
  dsimp only at hok
  split at hok
  · rename_i written hwritten
    cases hok
    exact ⟨rfl, readText_of_writeReport hdisk hwritten⟩
  · cases hok

/-- A strict addition takes effect below a directory without links. -/
theorem excludes_of_strict_add {before after : Disk} (hdisk : before.WellFormed) {root : Path}
    {place : Place} (hroot : before.directory? root = some place)
    (hlinks : before.LinkFreeBelow place) {verbosity : Nat} {suite testId reason : String}
    {output : Output}
    (hadd : Invocation.run ⟨root, .strict, verbosity, .add suite testId reason⟩ before =
      (.ok output, after)) :
    after.WellFormed ∧ after.directory? root = some place ∧ suite ≠ "" ∧
      Excludes after .strict root suite testId reason := by
  obtain ⟨a, h, ⟨rfl, rfl, rfl, rfl⟩, loaded, hload, -⟩ := Addition.accepted_of_runAdd hdisk hadd
  obtain rfl : place = a.place := Option.some.inj (hroot.symm.trans h.root)
  obtain ⟨unit, hunit, hnodup, -, -⟩ :=
    Addition.exists_readIn_of_strict h hlinks ⟨loaded, hload, rfl⟩
  refine ⟨h.wellFormed', h.root', ?_, Addition.excludes_of_readIn h hunit hnodup hload⟩
  rintro hempty
  have hname := h.name
  rw [hempty] at hname
  cases hname

/-- A strict addition has been accepted below a directory without links, and a list consists of the
line of its suite and its test. The replay of the list names the test exactly if the suite is one
that a line can name. -/
theorem names_added_iff {before after final : Disk} (hdisk : before.WellFormed) {root : Path}
    {place : Place} (hroot : before.directory? root = some place)
    (hlinks : before.LinkFreeBelow place) {verbosity : Nat} {suite testId reason : String}
    {output : Output}
    (hadd : Invocation.run ⟨root, .strict, verbosity, .add suite testId reason⟩ before =
      (.ok output, after))
    (htest : testId ≠ "") (hnewline : '\n' ∉ testId.toList)
    (hreturn : testId.toList.getLast? ≠ some '\r')
    (hfinal : final.WellFormed) {place' : Place} (hroot' : final.directory? root = some place')
    (hsame : after.SameDefinitions final place place') {seen : Path} {ending : String}
    (hending : ending ∈ ["", "\n", "\r\n"])
    (hseen : final.readText seen = .ok (suite ++ "#" ++ testId ++ ending)) :
    Names final root seen suite testId reason ↔ Nameable suite := by
  constructor
  · rintro ⟨⟨text, -, htests⟩, -⟩
    exact nameable_of_readSeen htests (List.mem_singleton_self _)
  · intro hsuite
    obtain ⟨hafter, hroot'', hne, loaded, hload, hreason⟩ :=
      excludes_of_strict_add hdisk hroot hlinks hadd
    have htests := readSeen_line hsuite hne htest hnewline hreturn hending
    rw [← hsame.load_eq hafter hfinal hroot'' hroot' .strict] at hload
    exact names_of_excludes hfinal ⟨loaded, hload, hreason⟩ hseen htests

/-- A disk with an empty directory, and a list outside of it. -/
def listedDisk (list : String) : Disk :=
  ⟨[], [(["d"], .directory), (["seen"], .file list.toUTF8)], []⟩

/-- The identifier of a test may have a number sign. -/
theorem names_added_iff_sharp : (listedDisk "B::C#t#1\n").WellFormed ∧
    (listedDisk "B::C#t#1\n").LinkFreeBelow ["d"] ∧ ∃ output after,
      Invocation.run ⟨⟨"d"⟩, .strict, 0, .add "B::C" "t#1" "r"⟩ (listedDisk "B::C#t#1\n") =
        (.ok output, after) ∧
      (Names after ⟨"d"⟩ ⟨"seen"⟩ "B::C" "t#1" "r" ↔ Nameable "B::C") ∧
      Names after ⟨"d"⟩ ⟨"seen"⟩ "B::C" "t#1" "r" := by
  have hdisk : (listedDisk "B::C#t#1\n").WellFormed := by decide +kernel
  have hroot : (listedDisk "B::C#t#1\n").directory? ⟨"d"⟩ = some [Text.utf8 "d"] := by
    decide +kernel
  have hlinks : (listedDisk "B::C#t#1\n").LinkFreeBelow ["d"] := by
    simp [Disk.LinkFreeBelow, listedDisk]
  have hok : (Invocation.run ⟨⟨"d"⟩, .strict, 0, .add "B::C" "t#1" "r"⟩
      (listedDisk "B::C#t#1\n")).1.toBool := by
    decide +kernel
  have hseen : (Invocation.run ⟨⟨"d"⟩, .strict, 0, .add "B::C" "t#1" "r"⟩
      (listedDisk "B::C#t#1\n")).2.readText ⟨"seen"⟩ = .ok ("B::C" ++ "#" ++ "t#1" ++ "\n") := by
    decide +kernel
  obtain ⟨output, hadd⟩ := Outcome.exists_of_toBool hok
  obtain ⟨hafter, hroot', -, -⟩ := excludes_of_strict_add hdisk hroot hlinks hadd
  have hiff := names_added_iff hdisk hroot hlinks hadd (by decide) (by decide) (by decide) hafter
    hroot' (.refl _ _) (by simp) hseen
  exact ⟨hdisk, hlinks, output, _, hadd, hiff, hiff.mpr (by decide)⟩

/-- An addition accepts a suite with a number sign, and the line of its test names another one. -/
theorem added_test_stays_stale : (listedDisk "A#B#t\n").WellFormed ∧
    (listedDisk "A#B#t\n").LinkFreeBelow ["d"] ∧ ∃ output after report,
      Invocation.run ⟨⟨"d"⟩, .strict, 0, .add "A#B" "t" "r"⟩ (listedDisk "A#B#t\n") =
        (.ok output, after) ∧
      after.readText ⟨"seen"⟩ = .ok ("A#B" ++ "#" ++ "t" ++ "\n") ∧
      readSeen ("A#B" ++ "#" ++ "t" ++ "\n") = .ok [⟨"A", "B#t"⟩] ∧
      Invocation.run ⟨⟨"d"⟩, .strict, 0, .audit ⟨"seen"⟩ none false⟩ after =
        (.ok (outcome false report (report.prettyText ++ "\n")), after) ∧
      report.skipped = [] ∧ report.stale.map (·.test) = [⟨"A#B", "t"⟩] := by
  have hok : (Invocation.run ⟨⟨"d"⟩, .strict, 0, .add "A#B" "t" "r"⟩
      (listedDisk "A#B#t\n")).1.toBool := by
    decide +kernel
  have hseen : (Invocation.run ⟨⟨"d"⟩, .strict, 0, .add "A#B" "t" "r"⟩
      (listedDisk "A#B#t\n")).2.readText ⟨"seen"⟩ = .ok ("A#B" ++ "#" ++ "t" ++ "\n") := by
    decide +kernel
  have htests : readSeen ("A#B" ++ "#" ++ "t" ++ "\n") = .ok [⟨"A", "B#t"⟩] := by decide +kernel
  have hanswer : ((Invocation.run ⟨⟨"d"⟩, .strict, 0, .add "A#B" "t" "r"⟩
      (listedDisk "A#B#t\n")).2.load .strict ⟨"d"⟩).map (fun loaded =>
        let report := (replay loaded.registry [⟨"A", "B#t"⟩]).report
        (report.skipped, report.stale.map (·.test))) = .ok ([], [⟨"A#B", "t"⟩]) := by
    decide +kernel
  obtain ⟨output, hadd⟩ := Outcome.exists_of_toBool hok
  obtain ⟨loaded, hload, hreport⟩ := Outcome.map_eq_ok_iff.mp hanswer
  obtain ⟨hskipped, hstale⟩ := Prod.mk.inj hreport
  exact ⟨by decide +kernel, by simp [Disk.LinkFreeBelow, listedDisk], output, _, _, hadd, hseen,
    htests, run_audit hseen htests hload 0 false none, hskipped, hstale⟩

end Command
end TestExclusions
