import TestExclusions.Proofs.Command.Effect

/-! Strict additions one after the other. Every disk that they lead to can be loaded again; an
accepted addition adds one exclusion and changes one file, a refused one changes neither. -/
namespace TestExclusions.Command
open Load (Loads)

/-- What is asked to be excluded, and why. -/
structure Request where
  suite : String
  testId : String
  reason : String

/-- Runs one strict addition. -/
def Request.run (request : Request) (root : Path) (disk : Disk) :
    Except CommandError Output × Disk :=
  Invocation.run ⟨root, .strict, 0, .add request.suite request.testId request.reason⟩ disk

/-- The disk after strict additions have been run one after the other. -/
def runAll (root : Path) : List Request → Disk → Disk
  | [], disk => disk
  | request :: rest, disk => runAll root rest (request.run root disk).2

/-- How many of them are accepted. -/
def countAccepted (root : Path) : List Request → Disk → Nat
  | [], _ => 0
  | request :: rest, disk =>
    (if (request.run root disk).1.toBool then 1 else 0) +
      countAccepted root rest (request.run root disk).2

/-- The files of a disk apart from one are those of another. -/
def SameFilesBut (place : Place) (before after : Disk) : Prop :=
  ∀ other ≠ place, ∀ content,
    after.get? other = some (.file content) ↔ before.get? other = some (.file content)

/-- The only file that has changed is the one of exclusion lines that a suite has; what it held
before, if it was there, is in front of what was added. -/
def AppendsTo (root : Path) (suite : String) (before after : Disk) : Prop :=
  ∃ found, after.suiteFiles root = .ok found ∧
    ∃ unit ∈ found, unit.suite = suite ∧ unit.format = .lines ∧
      ∃ place text added, after.find unit.path = .ok place ∧
        (before.get? place = none ∧ text = "" ∨
          before.get? place = some (.file text.toUTF8)) ∧
        after.get? place = some (.file (text ++ added).toUTF8) ∧ SameFilesBut place before after

/-- What an accepted addition does to the registry and the files. -/
structure Adds (root : Path) (request : Request) (before after : Disk) (old new : Registry) :
    Prop where
  declared : ∃ location,
    old.declare ⟨request.suite, request.testId, request.reason, location⟩ = .ok new
  reasonsOf : ∀ suite, new.reasonsOf suite = old.reasonsOf suite ++
    if suite = request.suite then [(request.testId, request.reason)] else []
  containsSuite : ∀ suite,
    new.containsSuite suite ↔ suite = request.suite ∨ old.containsSuite suite
  reason? : new.reason? request.suite request.testId = some request.reason
  others : ∀ suite testId, ¬(suite = request.suite ∧ testId = request.testId) →
    new.reason? suite testId = old.reason? suite testId ∧
      new.location? suite testId = old.location? suite testId
  size : new.size = old.size + 1
  file : AppendsTo root request.suite before after

/-- What a refused addition leaves alone. -/
structure Keeps (before after : Disk) (old new : Registry) : Prop where
  registry : new = old
  files : ∀ place content,
    after.get? place = some (.file content) ↔ before.get? place = some (.file content)

/-- The disk is well-formed, and a strict load succeeds below a root without links. -/
structure Ready (root : Path) (place : Place) (disk : Disk) (registry : Registry) : Prop where
  wellFormed : disk.WellFormed
  directory : disk.directory? root = some place
  linkFree : disk.LinkFreeBelow place
  loads : Loads disk .strict root registry

namespace Addition
variable {a : Addition} {before after : Disk}

theorem owner?_of_perm {files files' : List SuiteFile} (hnodup : (files'.map (·.suite)).Nodup)
    (hperm : files'.Perm files) (suite : String) :
    Load.owner? files' suite = Load.owner? files suite := by
  have hnodup' : (files.map (·.suite)).Nodup := (hperm.map _).nodup_iff.mp hnodup
  cases howner : Load.owner? files suite with
  | none =>
    rw [Load.owner?_eq_none_iff] at howner ⊢
    exact fun file hfile => howner file (hperm.mem_iff.mp hfile)
  | some file =>
    obtain ⟨hfile, rfl⟩ := Load.owner?_eq_some howner
    exact Load.owner?_of_mem hnodup (hperm.mem_iff.mpr hfile)

/-- The suites of other names keep their files. -/
theorem owner?_grown {unit : SuiteFile} (hunit : ReadIn a before after unit)
    (hnodup : (a.grown.map (·.suite)).Nodup) {suite : String} (hsuite : suite ≠ a.suite) :
    Load.owner? a.grown suite = Load.owner? a.found suite := by
  rcases hunit.origin with ⟨-, hsame, -⟩ | ⟨-, hperm, -⟩
  · rw [hsame]
  · obtain ⟨-, hname⟩ := Load.owner?_eq_some hunit.owner
    have hne : ¬unit.suite = suite := fun heq => hsuite (heq.symm.trans hname)
    rw [owner?_of_perm hnodup hperm, Load.owner?, List.find?_append]
    simp [hne, Load.owner?]

/-- A registry loaded before holds the old records of the suite. -/
theorem exclusionsOf_before (h : a.Accepted before after) {unit : SuiteFile}
    (hunit : ReadIn a before after unit) (hnodup : (a.records.map (·.testId)).Nodup)
    {registry : Registry} (hholds : Load.Holds before a.found registry) :
    registry.exclusionsOf a.suite =
      (Definition.mk unit.suite unit.path.text a.records).exclusions := by
  rw [hholds.exclusionsOf]
  rcases hunit.origin with ⟨howner, -, hpath, hread⟩ | ⟨hnone, -, -, hold⟩
  · have hload : unit.load before = .ok ⟨unit.suite, unit.path.text, a.records⟩ := by
      rw [SuiteFile.load_eq_ok_iff]
      refine ⟨a.old, a.records, hpath ▸ hread, ?_, hnodup, rfl⟩
      rw [hunit.format, Format.parse, hpath, h.parsed]
    rw [howner, Option.map_some, Option.getD_some, SuiteFile.held_of_load hload]
  · rw [hnone, records_of_old_empty h hold]
    rfl

/-- The files of other suites load as before. -/
theorem load_of_owner {unit : SuiteFile} (hunit : ReadIn a before after unit) {suite : String}
    (hsuite : suite ≠ a.suite) {file : SuiteFile}
    (hfile : Load.owner? a.found suite = some file) : file.load after = file.load before := by
  obtain ⟨-, hname⟩ := Load.owner?_eq_some hunit.owner
  obtain ⟨hmem, hfileName⟩ := Load.owner?_eq_some hfile
  refine hunit.others file hmem ?_
  rintro rfl
  exact hsuite (hfileName.symm.trans hname)

/-- Loading again finds the other suites as they were. -/
theorem held_of_others {unit : SuiteFile} (hunit : ReadIn a before after unit)
    (hsuites : (a.grown.map (·.suite)).Nodup) {old new : Registry}
    (hold : Load.Holds before a.found old) (hnew : Load.Holds after a.grown new) {suite : String}
    (hsuite : suite ≠ a.suite) : (new.containsSuite suite ↔ old.containsSuite suite) ∧
      new.exclusionsOf suite = old.exclusionsOf suite :=
  hold.suite_congr hnew (owner?_grown hunit hsuites hsuite) fun _ => load_of_owner hunit hsuite

/-- Loading again knows the suite, and the ones known before. -/
theorem containsSuite_after (h : a.Accepted before after) {unit : SuiteFile}
    (hunit : ReadIn a before after unit) (hsound : Load.Sound before a.found)
    {old new : Registry} (hold : Load.Holds before a.found old)
    (hnew : Load.Holds after a.grown new) (suite : String) :
    new.containsSuite suite ↔ suite = a.suite ∨ old.containsSuite suite := by
  have hnodup := nodup_records_of_sound h hunit hsound
  obtain ⟨hsuites, -⟩ := sound_of_readIn h hunit hnodup hsound
  by_cases hsuite : suite = a.suite
  · subst hsuite
    obtain ⟨number, hload⟩ := load_of_readIn h hunit hnodup
    simp only [true_or, iff_true]
    exact (hnew.containsSuite a.suite).mpr ⟨unit, _, hunit.owner, hload⟩
  · simp only [hsuite, false_or]
    exact (held_of_others hunit hsuites hold hnew hsuite).1

/-- Loading again declares one more exclusion. -/
theorem declare_of_holds (h : a.Accepted before after) {unit : SuiteFile}
    (hunit : ReadIn a before after unit) (hsound : Load.Sound before a.found)
    {old new : Registry} (hold : Load.Holds before a.found old)
    (hnew : Load.Holds after a.grown new) :
    ∃ location, old.declare ⟨a.suite, a.testId, a.reason, location⟩ = .ok new := by
  have hnodup := nodup_records_of_sound h hunit hsound
  obtain ⟨hsuites, -⟩ := sound_of_readIn h hunit hnodup hsound
  obtain ⟨number, hload⟩ := load_of_readIn h hunit hnodup
  obtain ⟨-, hname⟩ := Load.owner?_eq_some hunit.owner
  have hbefore := exclusionsOf_before h hunit hnodup hold
  have hfresh : a.testId ∉ (old.exclusionsOf a.suite).map (·.testId) := by
    rw [hbefore, Definition.map_testId_exclusions]
    exact h.fresh
  obtain ⟨next, hnext⟩ : ∃ next,
      old.declare ⟨a.suite, a.testId, a.reason, ⟨unit.path.text, some number⟩⟩ = .ok next :=
    ⟨_, (Registry.declare_eq_ok_iff hold.wellFormed).mpr ⟨hfresh, rfl⟩⟩
  have heq : new = next := by
    apply Registry.ext_of_wellFormed hnew.wellFormed
      (Registry.wellFormed_of_declare hold.wellFormed hnext)
    · intro suite
      rw [Registry.containsSuite_of_declare hold.wellFormed hnext]
      exact containsSuite_after h hunit hsound hold hnew suite
    · intro suite
      rw [Registry.exclusionsOf_of_declare hold.wellFormed hnext]
      by_cases hsuite : suite = a.suite
      · subst hsuite
        rw [hbefore, hnew.exclusionsOf, hunit.owner, Option.map_some, Option.getD_some,
          SuiteFile.held_of_load hload]
        simp [Definition.exclusions, hname]
      · rw [(held_of_others hunit hsuites hold hnew hsuite).2]
        simp [Ne.symm hsuite]
  exact ⟨_, heq ▸ hnext⟩

/-- The written file keeps what it held, and nothing else changes. -/
theorem appendsTo_of_readIn (h : a.Accepted before after) {unit : SuiteFile}
    (hunit : ReadIn a before after unit) : AppendsTo a.root a.suite before after := by
  obtain ⟨hmem, hsuite⟩ := Load.owner?_eq_some hunit.owner
  obtain ⟨added, hadded⟩ : ∃ added, addedTo a.old a.testId a.reason = a.old ++ added := by
    unfold addedTo appendLine
    simp only [String.append_assoc]
    exact ⟨_, rfl⟩
  refine ⟨a.grown, hunit.listed, unit, hmem, hsuite, hunit.format, a.written, a.old, added,
    hunit.path, ?_, hadded ▸ h.content, h.others⟩
  rcases hunit.origin with ⟨-, -, -, hread⟩ | ⟨-, -, hfree, hold⟩
  · obtain ⟨content, -, hfile, htext⟩ := h.written_of_readText hread
    exact .inr (toUTF8_of_textOf htext ▸ hfile)
  · exact .inl ⟨hfree, hold⟩

end Addition

/-! ## One addition -/

theorem adds_of_declare {root : Path} {request : Request} {before after : Disk}
    {old new : Registry} (hold : old.WellFormed) {location : Location}
    (h : old.declare ⟨request.suite, request.testId, request.reason, location⟩ = .ok new)
    (hfile : AppendsTo root request.suite before after) :
    Adds root request before after old new := by
  refine ⟨⟨location, h⟩, Registry.reasonsOf_of_declare hold h,
    Registry.containsSuite_of_declare hold h, ?_, ?_, Registry.size_of_declare hold h, hfile⟩
  · rw [Registry.reason?, Registry.find?_of_declare hold h, if_pos ⟨rfl, rfl⟩]
    rfl
  · intro suite testId hother
    rw [Registry.reason?, Registry.location?, Registry.find?_of_declare hold h, if_neg hother]
    exact ⟨rfl, rfl⟩

/-- Nothing is loaded differently after directories have been added. -/
theorem loads_of_addsDirectories {before after : Disk} (hdisk : before.WellFormed)
    (h : before.AddsDirectories after) {mode : LoadMode} {root : Path} {place : Place}
    (hroot : before.directory? root = some place) (hafter : Disk.Open root place after)
    {registry : Registry} (hloads : Loads before mode root registry) :
    Loads after mode root registry := by
  obtain ⟨loaded, hloaded, rfl⟩ := hloads
  obtain ⟨found, hfound, -⟩ := Load.holds_of_load hloaded
  have hfound' : after.suiteFiles root = .ok found := by
    obtain ⟨-, rfl⟩ := Disk.suiteFiles_eq_of_ok hdisk hroot hfound
    rw [hafter.suiteFiles, Disk.suiteFilesBelow_of_addsDirectories h]
  have hload : ∀ file ∈ found, file.load after = file.load before := by
    intro file hfile
    obtain ⟨names, content, hat⟩ := (Disk.mem_suiteFiles hdisk hroot hfound).mp hfile
    have hat' : Disk.FoundAt after root place file names content :=
      ⟨hat.nonempty, h.file_iff.mpr hat.content, hat.named⟩
    apply SuiteFile.load_congr
    rw [hat.readText hdisk hroot, hat'.readText hafter.wellFormed hafter.directory]
  exact ⟨loaded, (Load.load_congr hfound hfound' hload mode).trans hloaded, rfl⟩

theorem Ready.isOpen {root : Path} {place : Place} {disk : Disk} {registry : Registry}
    (h : Ready root place disk registry) : Disk.Open root place disk := by
  obtain ⟨found, hfound, -⟩ := Load.loads_iff.mp h.loads
  obtain ⟨hlistable, -⟩ := Disk.suiteFiles_eq_of_ok h.wellFormed h.directory hfound
  exact ⟨h.wellFormed, h.directory, h.linkFree, hlistable⟩

/-- One strict addition leaves the disk ready for the next one. -/
theorem ready_run {root : Path} {place : Place} {disk : Disk} {registry : Registry}
    (h : Ready root place disk registry) (request : Request) :
    ∃ next, Ready root place (request.run root disk).2 next ∧
      match (request.run root disk).1 with
      | .ok _ => Adds root request disk (request.run root disk).2 registry next
      | .error _ => Keeps disk (request.run root disk).2 registry next := by
  rcases hrun : request.run root disk with ⟨result, after⟩
  cases result with
  | error e =>
    rcases runAdd_cases h.wellFormed hrun with ⟨-, hafter⟩ | ⟨output, _, _, _, hok, -⟩
    · have hopen : disk.AddsDirectories after ∧ Disk.Open root place after := by
        rcases hafter with ⟨-, rfl⟩ | ⟨path, text, hplan, -, rfl⟩
        · exact ⟨.refl _, h.isOpen⟩
        · obtain ⟨old, records, hplanned, -⟩ := planned_of_plan hplan
          obtain ⟨names, hnil, hnames, rfl⟩ := hplanned.path_eq h.wellFormed
          exact ⟨(Disk.furnishes_prepared disk _ h.wellFormed).1,
            Disk.open_prepared h.isOpen hnil hnames⟩
      obtain ⟨hadds, hopen⟩ := hopen
      exact ⟨registry, ⟨hopen.wellFormed, hopen.directory, hopen.linkFree,
        loads_of_addsDirectories h.wellFormed hadds h.directory hopen h.loads⟩, rfl,
        fun _ _ => hadds.file_iff⟩
    · cases hok
  | ok output =>
    obtain ⟨a, ha, ⟨rfl, hsuite, htest, hreason⟩, -⟩ :=
      Addition.accepted_of_runAdd h.wellFormed hrun
    obtain rfl : place = a.place := Option.some.inj (h.directory.symm.trans ha.root)
    obtain ⟨unit, hunit, hnodup, hsound, hholds⟩ :=
      Addition.exists_readIn_of_strict ha h.linkFree h.loads
    obtain ⟨next, -, hnext⟩ := Load.ofDefinitions_claim after a.grown
    obtain ⟨location, hdeclare⟩ :=
      Addition.declare_of_holds ha hunit hsound hholds hnext
    rw [hsuite, htest, hreason] at hdeclare
    refine ⟨next, ⟨ha.wellFormed', ha.root', (ha.linkFree h.linkFree).1.linkFree, ?_⟩, ?_⟩
    · exact Load.loads_iff.mpr ⟨a.grown, hunit.listed,
        fun _ => Addition.sound_of_readIn ha hunit hnodup hsound, hnext⟩
    · exact adds_of_declare hholds.wellFormed hdeclare
        (hsuite ▸ Addition.appendsTo_of_readIn ha hunit)

/-! ## All additions -/

/-- A run of strict additions leaves the disk ready, with one exclusion more for each that is
accepted. -/
theorem ready_runAll {root : Path} {place : Place} {disk : Disk} {registry : Registry}
    (h : Ready root place disk registry) (requests : List Request) :
    ∃ next, Ready root place (runAll root requests disk) next ∧
      next.size = registry.size + countAccepted root requests disk := by
  induction requests generalizing disk registry with
  | nil => exact ⟨registry, h, rfl⟩
  | cons request rest ih =>
    obtain ⟨first, hfirst, hstep⟩ := ready_run h request
    obtain ⟨next, hnext, hsize⟩ := ih hfirst
    refine ⟨next, hnext, ?_⟩
    rw [hsize, countAccepted]
    cases hresult : (request.run root disk).1 with
    | ok output =>
      rw [hresult] at hstep
      simp only [Except.toBool, if_true, hstep.size]
      omega
    | error e =>
      rw [hresult] at hstep
      simp only [Except.toBool, hstep.registry]
      simp

/-- Strict additions keep a directory without links loadable. After any number of them a strict
load succeeds, and holds as many more exclusions as were accepted; the next one, if it is accepted,
adds its exclusion behind those of its suite and a line to the file of its suite, and if it is
refused changes neither the registry nor a file. -/
theorem additions_keep_loadable {disk : Disk} (hdisk : disk.WellFormed) {root : Path}
    {place : Place} (hroot : disk.directory? root = some place) (hlinks : disk.LinkFreeBelow place)
    {start : Registry} (hload : Loads disk .strict root start) (requests : List Request) :
    ∃ registry, Loads (runAll root requests disk) .strict root registry ∧
      registry.size = start.size + countAccepted root requests disk ∧
      ∀ request : Request, ∃ next,
        Loads (request.run root (runAll root requests disk)).2 .strict root next ∧
        match (request.run root (runAll root requests disk)).1 with
        | .ok _ => Adds root request (runAll root requests disk)
            (request.run root (runAll root requests disk)).2 registry next
        | .error _ => Keeps (runAll root requests disk)
            (request.run root (runAll root requests disk)).2 registry next := by
  obtain ⟨registry, hready, hsize⟩ := ready_runAll ⟨hdisk, hroot, hlinks, hload⟩ requests
  refine ⟨registry, hready.loads, hsize, fun request => ?_⟩
  obtain ⟨next, hnext, hstep⟩ := ready_run hready request
  exact ⟨next, hnext.loads, hstep⟩

/-- Of three additions, the second of which names a test anew, two are accepted. -/
theorem additions_keep_sample_loadable : sampleDisk.WellFormed ∧ sampleDisk.LinkFreeBelow ["d"] ∧
    Loads sampleDisk .strict ⟨"d"⟩
      ⟨[⟨"A", [⟨"A", "a", "x", ⟨"d/A.rb", some 1⟩⟩], [("a", 0)]⟩], 1⟩ ∧
    ∃ registry, Loads (runAll ⟨"d"⟩
      [⟨"A", "t", "R"⟩, ⟨"A", "a", "again"⟩, ⟨"B::C", "u", ""⟩] sampleDisk) .strict ⟨"d"⟩
        registry ∧ registry.size = 3 := by
  have hdisk : sampleDisk.WellFormed := by decide +kernel
  have hroot : sampleDisk.directory? ⟨"d"⟩ = some [Text.utf8 "d"] := by decide +kernel
  have hlinks : sampleDisk.LinkFreeBelow ["d"] := by simp [Disk.LinkFreeBelow, sampleDisk]
  have hload : Loads sampleDisk .strict ⟨"d"⟩
      ⟨[⟨"A", [⟨"A", "a", "x", ⟨"d/A.rb", some 1⟩⟩], [("a", 0)]⟩], 1⟩ := by
    decide +kernel
  have hcount : countAccepted ⟨"d"⟩ [⟨"A", "t", "R"⟩, ⟨"A", "a", "again"⟩, ⟨"B::C", "u", ""⟩]
      sampleDisk = 2 := by
    decide +kernel
  obtain ⟨registry, hregistry, hsize, -⟩ := additions_keep_loadable hdisk hroot hlinks hload
    [⟨"A", "t", "R"⟩, ⟨"A", "a", "again"⟩, ⟨"B::C", "u", ""⟩]
  refine ⟨hdisk, hlinks, hload, registry, hregistry, ?_⟩
  rw [hsize, hcount]
  rfl

end TestExclusions.Command
