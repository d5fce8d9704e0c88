import TestExclusions.Proofs.Command.Audit
import TestExclusions.Proofs.Log

/-! What a replay takes from a list of tests. A line of the list is blank, or it names a test, or it ends
the replay; of the tests that are named nothing but their set tells in what is printed, logged and
noted. -/
namespace TestExclusions.Command
open Load (inTurn)
open Text (Blank Trimmed isBlank)

/-! ## Lines of a list -/

/-- The lines of a list without the carriage returns at their ends. -/
def seenLines (text : String) : List (List Char) := (Text.lines text.toList).map dropReturns

/-- A line has a number sign, something but white space in front of the first one, and something
behind it. -/
def NamesSome (line : List Char) : Prop :=
  ∃ front back, line = front ++ '#' :: back ∧ '#' ∉ front ∧ (∃ c ∈ front, isBlank c = false) ∧
    back ≠ []

/-- The suite of a test stands in front of the first number sign of a line, between white space, and its
identifier is all that stands behind that. -/
def NamesTest (line : List Char) (test : TestName) : Prop :=
  ∃ front, line = front ++ '#' :: test.testId.toList ∧ '#' ∉ front ∧
    Trimmed front test.suite.toList

def Acceptable (line : List Char) : Prop := Blank line ∨ NamesSome line

theorem testOfLine?_eq_some_iff_names {line : List Char} {test : TestName} :
    testOfLine? line = some test ↔ NamesSome line ∧ NamesTest line test := by
  obtain ⟨suite, testId⟩ := test
  have hnonempty : ∀ front : List Char, Text.trimBlanks front = suite.toList →
      (suite ≠ "" ↔ ∃ c ∈ front, isBlank c = false) := by
    intro front htrimmed
    rw [ne_eq, ← String.toList_inj, ← htrimmed, String.toList_empty, Text.trimBlanks_eq_nil_iff]
    simp [Blank]
  rw [testOfLine?_eq_some_iff]
  constructor
  · rintro ⟨front, rfl, hsign, htrimmed, hsuite, htest⟩
    refine ⟨⟨front, testId.toList, rfl, hsign, (hnonempty front htrimmed).mp hsuite, ?_⟩,
      front, rfl, hsign, Text.trimBlanks_eq_iff.mp htrimmed⟩
    simpa using htest
  · rintro ⟨⟨front, back, rfl, hsign, hvisible, hback⟩, front', heq, hsign', htrimmed⟩
    have hsplit := Text.splitFirst?_append hsign back
    rw [heq, Text.splitFirst?_append hsign'] at hsplit
    cases hsplit
    have htrimmed := Text.trimBlanks_eq_iff.mpr htrimmed
    refine ⟨front, rfl, hsign, htrimmed, (hnonempty front htrimmed).mpr hvisible, ?_⟩
    simpa using hback

theorem exists_testOfLine?_iff {line : List Char} :
    (∃ test, testOfLine? line = some test) ↔ NamesSome line := by
  simp only [testOfLine?_eq_some_iff_names, exists_and_left]
  refine and_iff_left_of_imp fun h => ?_
  obtain ⟨front, back, rfl, hsign, -, -⟩ := h
  refine ⟨⟨String.ofList (Text.trimBlanks front), String.ofList back⟩, front, by simp, hsign, ?_⟩
  simpa using Text.trimmed_trimBlanks front

/-! ## Lists -/

theorem all_isBlank_iff {line : List Char} : line.all isBlank = true ↔ Blank line := by
  simp [Blank]

theorem readSeenLines_cons_eq_error_iff {number : Nat} {line : List Char}
    {rest : List (List Char)} {e : Nat × List Char} :
    readSeenLines number (line :: rest) = .error e ↔
      ¬Acceptable (dropReturns line) ∧ e = (number, dropReturns line) ∨
        Acceptable (dropReturns line) ∧ readSeenLines (number + 1) rest = .error e := by
  rw [readSeenLines]
  by_cases hblank : Blank (dropReturns line)
  · simp [all_isBlank_iff.mpr hblank, Acceptable, hblank]
  · have hall : ¬(dropReturns line).all isBlank = true := mt all_isBlank_iff.mp hblank
    rw [if_neg hall, Acceptable, or_iff_right hblank, ← exists_testOfLine?_iff]
    cases testOfLine? (dropReturns line) with
    | none => simp [eq_comm]
    | some test => simp [Outcome.map_eq_error_iff]

/-- A list is refused at its first line that is neither blank nor names a test. -/
theorem readSeenLines_eq_error_iff {number place : Nat} {found : List Char}
    {lines : List (List Char)} : readSeenLines number lines = .error (place, found) ↔
      ∃ index, (lines.map dropReturns)[index]? = some found ∧ place = number + index ∧
        ¬Acceptable found ∧ ∀ before line, before < index →
          (lines.map dropReturns)[before]? = some line → Acceptable line := by
  induction lines generalizing number with
  | nil => simp [readSeenLines]
  | cons line rest ih =>
    rw [readSeenLines_cons_eq_error_iff, ih, List.map_cons]
    constructor
    · intro h
      cases h with
      | inl h =>
        obtain ⟨hrefused, heq⟩ := h
        cases heq
        exact ⟨0, rfl, rfl, hrefused, by simp⟩
      | inr h =>
        obtain ⟨haccepted, index, hfound, rfl, hrefused, hbefore⟩ := h
        refine ⟨index + 1, hfound, by omega, hrefused, fun before other hlt hother => ?_⟩
        cases before with
        | zero =>
          cases hother
          exact haccepted
        | succ before => exact hbefore before other (by omega) hother
    · intro h
      obtain ⟨index, hfound, rfl, hrefused, hbefore⟩ := h
      cases index with
      | zero =>
        cases hfound
        exact .inl ⟨hrefused, rfl⟩
      | succ index =>
        refine .inr ⟨hbefore 0 _ (by omega) rfl, index, hfound, by omega, hrefused, ?_⟩
        intro before other hlt hother
        exact hbefore (before + 1) other (by omega) hother

theorem readSeenLines_isOk_iff {number : Nat} {lines : List (List Char)} :
    (∃ tests, readSeenLines number lines = .ok tests) ↔
      ∀ line ∈ lines.map dropReturns, Acceptable line := by
  induction lines generalizing number with
  | nil => simp [readSeenLines]
  | cons line rest ih =>
    rw [List.map_cons, List.forall_mem_cons, ← @ih (number + 1), Outcome.exists_ok_iff,
      Outcome.exists_ok_iff]
    simp only [ne_eq, readSeenLines_cons_eq_error_iff]
    by_cases haccepted : Acceptable (dropReturns line)
    · simp [haccepted]
    · simp [haccepted]

/-- What a list is read as: the tests of its lines in their order, unless one of them is refused. -/
structure ReadsExactly (text : String) : Prop where
  accepted : (∃ tests, readSeen text = .ok tests) ↔ ∀ line ∈ seenLines text, Acceptable line
  tests : ∀ tests, readSeen text = .ok tests ↔
    List.Forall₂ (fun line test => NamesSome line ∧ NamesTest line test)
      ((seenLines text).filter fun line => !line.all isBlank) tests
  refused : ∀ number line, readSeen text = .error (number, line) ↔
    ∃ index, (seenLines text)[index]? = some line ∧ number = index + 1 ∧ ¬Acceptable line ∧
      ∀ before other, before < index → (seenLines text)[before]? = some other → Acceptable other

theorem readsExactly (text : String) : ReadsExactly text := by
  refine ⟨readSeenLines_isOk_iff, fun tests => ?_, fun number line => ?_⟩
  · rw [readSeen, readSeenLines_eq_ok_iff]
    simp only [testOfLine?_eq_some_iff_names]
    rfl
  · rw [readSeen, readSeenLines_eq_error_iff]
    simp only [Nat.add_comm 1]
    rfl

/-! ## Runs -/

/-- A replay whose report goes to no file changes nothing; it fails only if the load does. -/
theorem run_audit_unwritten {disk : Disk} {seen : Path} {text : String} {tests : List TestName}
    (hseen : disk.readText seen = .ok text) (htests : readSeen text = .ok tests) (root : Path)
    (mode : LoadMode) (verbosity : Nat) (failOnStale : Bool) :
    Invocation.run ⟨root, mode, verbosity, .audit seen none failOnStale⟩ disk =
      ((disk.loadFor mode root).map fun loaded =>
        let report := (replay loaded.registry tests).report
        outcome failOnStale report (report.prettyText ++ "\n"), disk) := by
  rw [run_audit_of_list hseen htests]
  cases disk.loadFor mode root with
  | error e => rfl
  | ok loaded => rfl

/-- Once its list has been read, a replay logs what the load does. -/
theorem events_audit {disk : Disk} {seen : Path} {text : String} {tests : List TestName}
    (hseen : disk.readText seen = .ok text) (htests : readSeen text = .ok tests) (root : Path)
    (mode : LoadMode) (verbosity : Nat) (target : Option Path) (failOnStale : Bool)
    (schedule : Schedule) :
    Invocation.events ⟨root, mode, verbosity, .audit seen target failOnStale⟩ schedule disk =
      disk.loadEvents schedule mode root := by
  simp [Invocation.events, hseen, htests]

/-- Warnings alone are shown unless more is asked for. -/
theorem shows_iff_warn (invocation : Invocation) (h : invocation.verbosity = 0) (event : Event) :
    invocation.shows event = decide (event.level = .warn) := by
  unfold Invocation.shows Invocation.level
  rw [h]
  cases event.level <;> rfl

/-- A replay fails at a line of its list: it changes nothing, logs nothing, and says which file and
which line it is and what stands there. -/
def FailsAt (invocation : Invocation) (disk : Disk) (seen : Path) (number : Nat)
    (line : List Char) : Prop :=
  ∃ error, invocation.run disk = (.error error, disk) ∧
    error.message = "parse " ++ seen.text ++ ": line " ++ toString number ++
      ": expected `Suite#test`, found `" ++ String.ofList line ++ "`" ∧
    ∀ schedule written,
      invocation.standardError schedule written disk = "error: " ++ error.message ++ "\n"

theorem failsAt_of_readSeen {disk : Disk} {seen : Path} {text : String} {number : Nat}
    {line : List Char} (hseen : disk.readText seen = .ok text)
    (hrefused : readSeen text = .error (number, line)) (root : Path) (mode : LoadMode)
    (verbosity : Nat) (target : Option Path) (failOnStale : Bool) :
    FailsAt ⟨root, mode, verbosity, .audit seen target failOnStale⟩ disk seen number line := by
  have hrun : Invocation.run ⟨root, mode, verbosity, .audit seen target failOnStale⟩ disk =
      (.error (.malformedSeen seen number (String.ofList line)), disk) := by
    change (runAudit root mode seen target failOnStale).run disk = _
    unfold runAudit
    rw [Action.run_bind, Action.run_get]
    dsimp only
    rw [Action.run_bind, Action.run_require, hseen]
    dsimp only [Except.mapError]
    rw [Action.run_bind, Action.run_require, hrefused]
    rfl
  refine ⟨_, hrun, rfl, fun schedule written => ?_⟩
  have hevents : Invocation.events ⟨root, mode, verbosity, .audit seen target failOnStale⟩ schedule
      disk = [] := by
    simp [Invocation.events, hseen, hrefused]
  rw [Invocation.standardError, hevents, hrun]
  exact String.empty_append

theorem report_replay_congr {registry : Registry} (h : registry.WellFormed)
    {tests tests' : List TestName} (hsame : ∀ test, test ∈ tests' ↔ test ∈ tests) :
    (replay registry tests').report = (replay registry tests).report :=
  (exact_replay h tests).unique (exact_replay h tests') hsame

/-- Something is stale exactly if an exclusion is of a test that is not listed. -/
theorem stale_pos_iff {registry : Registry} (h : registry.WellFormed) (tests : List TestName) :
    (replay registry tests).report.summary.stale > 0 ↔
      ∃ exclusion ∈ registry.exclusions, exclusion.test ∉ tests := by
  have hexact := exact_replay h tests
  rw [hexact.staleCount, gt_iff_lt, List.length_pos_iff_exists_mem]
  simp only [hexact.mem_stale]
  constructor
  · intro ⟨_, exclusion, hexclusion, hunlisted, _⟩
    exact ⟨exclusion, hexclusion, hunlisted⟩
  · intro ⟨exclusion, hexclusion, hunlisted⟩
    exact ⟨_, exclusion, hexclusion, hunlisted, rfl⟩

theorem success_outcome_iff {failOnStale : Bool} {report : SkipReport} {printed : String} :
    (outcome failOnStale report printed).success = false ↔
      failOnStale = true ∧ report.summary.stale > 0 := by
  simp [outcome]

/-- A list of tests is read exactly, and one that cannot be read fails the replay with the number of
its first faulty line. Two lists that name the same tests, whatever their order and however often,
are replayed alike wherever the same exclusions are loaded: the same is printed, and the same is
written to the standard error if events are written alike. Unless more is asked for, that is a
warning for each file that is left out, and what is noted of the report. The replay fails for stale
exclusions if it is asked to and there are some. -/
theorem replay_depends_on_set :
    (∀ text, ReadsExactly text) ∧
    (∀ (disk : Disk) (root seen : Path) (mode : LoadMode) (verbosity : Nat) (target : Option Path)
      (failOnStale : Bool) (text : String) (number : Nat) (line : List Char),
      disk.readText seen = .ok text → readSeen text = .error (number, line) →
        FailsAt ⟨root, mode, verbosity, .audit seen target failOnStale⟩ disk seen number line) ∧
    ∀ (disk other : Disk) (root seen seen' : Path) (mode : LoadMode) (verbosity : Nat)
      (failOnStale : Bool) (text text' : String) (tests tests' : List TestName),
      other.load mode root = disk.load mode root →
      disk.readText seen = .ok text → readSeen text = .ok tests →
      other.readText seen' = .ok text' → readSeen text' = .ok tests' →
      (∀ test, test ∈ tests' ↔ test ∈ tests) →
        (Invocation.run ⟨root, mode, verbosity, .audit seen' none failOnStale⟩ other).1 =
          (Invocation.run ⟨root, mode, verbosity, .audit seen none failOnStale⟩ disk).1 ∧
        (∀ schedule written,
          other.loadEvents schedule mode root = disk.loadEvents schedule mode root →
          Invocation.standardError ⟨root, mode, verbosity, .audit seen' none failOnStale⟩ schedule
              written other =
            Invocation.standardError ⟨root, mode, verbosity, .audit seen none failOnStale⟩ schedule
              written disk) ∧
        ∀ loaded, disk.load mode root = .ok loaded → ∃ output,
          Invocation.run ⟨root, mode, verbosity, .audit seen none failOnStale⟩ disk =
            (.ok output, disk) ∧
          (output.success = false ↔ failOnStale = true ∧
            ∃ exclusion ∈ loaded.registry.exclusions, exclusion.test ∉ tests) ∧
          (disk.WellFormed → verbosity = 0 → ∀ schedule written,
            Invocation.standardError ⟨root, mode, verbosity, .audit seen none failOnStale⟩ schedule
                written disk =
              String.join (((inTurn loaded.failures).map Event.skipped).mapIdx written) ++
                output.noted) := by
  refine ⟨readsExactly, fun disk root seen mode verbosity target failOnStale text number line hseen
    hrefused => failsAt_of_readSeen hseen hrefused root mode verbosity target failOnStale, ?_⟩
  intro disk other root seen seen' mode verbosity failOnStale text text' tests tests' hload hseen
    htests hseen' htests' hsame
  have hrun := run_audit_unwritten hseen htests root mode verbosity failOnStale
  have hrun' := run_audit_unwritten hseen' htests' root mode verbosity failOnStale
  have hevents := events_audit hseen htests root mode verbosity none failOnStale
  have hevents' := events_audit hseen' htests' root mode verbosity none failOnStale
  have hloadFor : other.loadFor mode root = disk.loadFor mode root := by
    rw [Disk.loadFor, Disk.loadFor, hload]
  have hresult : (Invocation.run ⟨root, mode, verbosity, .audit seen' none failOnStale⟩ other).1 =
      (Invocation.run ⟨root, mode, verbosity, .audit seen none failOnStale⟩ disk).1 := by
    rw [hrun', hrun, hloadFor, Disk.loadFor]
    cases hloaded : disk.load mode root with
    | error e => rfl
    | ok loaded =>
      obtain ⟨_, -, hholds⟩ := Load.holds_of_load hloaded
      simp only [Except.map, report_replay_congr hholds.wellFormed hsame]
  refine ⟨hresult, fun schedule written hlogged => ?_, fun loaded hloaded => ?_⟩
  · rw [Invocation.standardError, Invocation.standardError, hevents', hevents, hlogged, hresult]
    rfl
  · obtain ⟨_, -, hholds⟩ := Load.holds_of_load hloaded
    have hoks : disk.loadFor mode root = .ok loaded := by rw [Disk.loadFor, hloaded]
    rw [hoks] at hrun
    refine ⟨_, hrun, ?_, fun hdisk hverbosity schedule written => ?_⟩
    · rw [success_outcome_iff, stale_pos_iff hholds.wellFormed]
    · have hshown := funext
        (shows_iff_warn ⟨root, mode, verbosity, .audit seen none failOnStale⟩ hverbosity)
      rw [Invocation.standardError, hevents, hrun, hshown, Disk.warnings_of_load hdisk hloaded]
      rfl

/-- A disk with two exclusions of a suite and two files that cannot be taken, two lists of the same
two tests, and one whose second line names none. -/
def twiceListedDisk : Disk :=
  ⟨[], [(["d"], .directory), (["d", "0.rb"], .file "exclude\n".toUTF8),
    (["d", "A.rb"], .file "exclude :t, 'x'\nexclude :u, 'y'\n".toUTF8),
    (["d", "A.txt"], .file "".toUTF8),
    (["seen"], .file "A#t\n\nB#v #1\n".toUTF8),
    (["again"], .file "B#v #1\r\r\n  A\t#t\n \nA#t".toUTF8),
    (["faulty"], .file "A#t\n#v\n".toUTF8)], []⟩

/-- The lists differ in order, in white space around the suite, in blank lines and in how their lines
end. The other exclusion of the suite is stale, and each file that is left out is warned of. -/
theorem replay_depends_on_set_twice :
    readSeen "A#t\n\nB#v #1\n" = .ok [⟨"A", "t"⟩, ⟨"B", "v #1"⟩] ∧
    readSeen "B#v #1\r\r\n  A\t#t\n \nA#t" = .ok [⟨"B", "v #1"⟩, ⟨"A", "t"⟩, ⟨"A", "t"⟩] ∧
    (Invocation.run ⟨⟨"d"⟩, .bestEffort, 0, .audit ⟨"again"⟩ none true⟩ twiceListedDisk).1 =
      (Invocation.run ⟨⟨"d"⟩, .bestEffort, 0, .audit ⟨"seen"⟩ none true⟩ twiceListedDisk).1 ∧
    (∃ output, Invocation.run ⟨⟨"d"⟩, .bestEffort, 0, .audit ⟨"seen"⟩ none true⟩ twiceListedDisk =
      (.ok output, twiceListedDisk) ∧ output.success = false) ∧
    Invocation.standardError ⟨⟨"d"⟩, .bestEffort, 0, .audit ⟨"again"⟩ none true⟩ .sequential
        (fun _ event => event.text ++ "\n") twiceListedDisk =
      " WARN skipping exclusion unit suite=A error=suite A is defined by both d/A.rb and " ++
        "d/A.txt\n WARN skipping exclusion unit suite=0 error=d/0.rb:1: expected whitespace or `(` " ++
        "after `exclude`, found end of line\n" ++
      "2 considered, 1 skipped, 1 ran; 1 of 2 exclusions stale\nstale: A#u (d/A.rb:2)\n" ∧
    FailsAt ⟨⟨"d"⟩, .bestEffort, 0, .audit ⟨"faulty"⟩ none true⟩ twiceListedDisk ⟨"faulty"⟩ 2
      ['#', 'v'] := by
  have hdisk : twiceListedDisk.WellFormed := by decide +kernel
  have hseen : twiceListedDisk.readText ⟨"seen"⟩ = .ok "A#t\n\nB#v #1\n" := by decide +kernel
  have hagain : twiceListedDisk.readText ⟨"again"⟩ = .ok "B#v #1\r\r\n  A\t#t\n \nA#t" := by
    decide +kernel
  have hfaulty : twiceListedDisk.readText ⟨"faulty"⟩ = .ok "A#t\n#v\n" := by decide +kernel
  have htests : readSeen "A#t\n\nB#v #1\n" = .ok [⟨"A", "t"⟩, ⟨"B", "v #1"⟩] := by
    decide +kernel
  have htests' : readSeen "B#v #1\r\r\n  A\t#t\n \nA#t" =
      .ok [⟨"B", "v #1"⟩, ⟨"A", "t"⟩, ⟨"A", "t"⟩] := by decide +kernel
  have hrefused : readSeen "A#t\n#v\n" = .error (2, ['#', 'v']) := by decide +kernel
  have hanswer : (twiceListedDisk.load .bestEffort ⟨"d"⟩).map (fun loaded =>
      (decide (∃ exclusion ∈ loaded.registry.exclusions,
        exclusion.test ∉ [⟨"A", "t"⟩, ⟨"B", "v #1"⟩]),
      String.join (((inTurn loaded.failures).map Event.skipped).mapIdx fun _ event =>
        event.text ++ "\n"))) =
      .ok (true,
        " WARN skipping exclusion unit suite=A error=suite A is defined by both d/A.rb and " ++
        "d/A.txt\n WARN skipping exclusion unit suite=0 error=d/0.rb:1: expected whitespace or `(` " ++
        "after `exclude`, found end of line\n") := by
    decide +kernel
  have hnoted : (Invocation.run ⟨⟨"d"⟩, .bestEffort, 0, .audit ⟨"seen"⟩ none true⟩
      twiceListedDisk).1.toOption.map (·.noted) =
      some "2 considered, 1 skipped, 1 ran; 1 of 2 exclusions stale\nstale: A#u (d/A.rb:2)\n" := by
    decide +kernel
  obtain ⟨-, hfails, halike⟩ := replay_depends_on_set
  obtain ⟨loaded, hload, hloaded⟩ := Outcome.map_eq_ok_iff.mp hanswer
  obtain ⟨hunlisted, hwarnings⟩ := Prod.mk.inj hloaded
  obtain ⟨hrun, herrors, hsuccess⟩ := halike twiceListedDisk twiceListedDisk ⟨"d"⟩ ⟨"seen"⟩
    ⟨"again"⟩ .bestEffort 0 true _ _ _ _ rfl hseen htests hagain htests' (by simp [or_comm])
  obtain ⟨output, houtput, hiff, hshown⟩ := hsuccess loaded hload
  refine ⟨htests, htests', hrun, ⟨output, houtput, hiff.mpr ⟨rfl, of_decide_eq_true hunlisted⟩⟩, ?_,
    hfails _ _ _ _ _ _ _ _ _ _ hfaulty hrefused⟩
  rw [houtput] at hnoted
  have hnoted : output.noted = _ := Option.some.inj hnoted
  rw [herrors _ _ rfl, hshown hdisk rfl, hwarnings, hnoted]

end TestExclusions.Command
