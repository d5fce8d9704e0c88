import TestExclusions.Command.Run
import TestExclusions.Proofs.Command.Addition

/-! When an accepted addition takes effect. It does so exactly if the file that its path leads to is
read back as the suite and did not name a test twice before; a strict load sees to the latter, and
the absence of links to the former. -/
namespace TestExclusions.Command
open Disk (FoundAt)

/-- The disk can be loaded, and says why a test is excluded. -/
def Excludes (disk : Disk) (mode : LoadMode) (root : Path) (suite testId reason : String) : Prop :=
  ∃ loaded, disk.load mode root = .ok loaded ∧ loaded.registry.reason? suite testId = some reason

theorem excludes_iff {disk : Disk} {mode : LoadMode} {root : Path}
    {suite testId reason : String} : Excludes disk mode root suite testId reason ↔
      (disk.load mode root).toOption.bind (·.registry.reason? suite testId) = some reason := by
  unfold Excludes
  cases disk.load mode root <;> simp [Except.toOption]

instance (disk : Disk) (mode : LoadMode) (root : Path) (suite testId reason : String) :
    Decidable (Excludes disk mode root suite testId reason) := decidable_of_iff _ excludes_iff.symm

namespace Addition
variable {a : Addition} {before after : Disk}

theorem records_of_old_empty (h : a.Accepted before after) (hold : a.old = "") :
    a.records = [] := by
  have hempty : Line.parseUnit a.path.text "" = .ok [] := rfl
  have hparsed := h.parsed
  rw [hold, hempty] at hparsed
  exact (Except.ok.inj hparsed).symm

/-- Exclusion lines cannot be read back from a new manifest. -/
theorem format_of_load (h : a.Accepted before after) (hold : a.old = "") {unit : SuiteFile}
    (hfind : after.find unit.path = .ok a.written) {definition : Definition}
    (hload : unit.load after = .ok definition) : unit.format = .lines := by
  cases hformat : unit.format with
  | lines => rfl
  | manifest =>
    obtain ⟨text, records, htext, hparse, -⟩ := SuiteFile.load_eq_ok_iff.mp hload
    rw [Disk.readText_of_find hfind h.content, textOf_toUTF8] at htext
    cases htext
    have hprefix : Line.write ⟨a.testId, a.reason, none⟩ <+:
        (addedTo a.old a.testId a.reason).toList := by
      rw [toList_addedTo, hold]
      exact ⟨['\n'], by simp [Line.missingEnd]⟩
    rw [hformat, Format.parse, Manifest.parseUnit, Manifest.read_write _ _ hprefix] at hparse
    cases hparse

/-- An addition that takes effect is read back, from records that name no test twice. -/
theorem readsBack_of_excludes (h : a.Accepted before after) {mode : LoadMode}
    (heffect : Excludes after mode a.root a.suite a.testId a.reason) :
    after.ReadsBack a.root a.suite a.path ∧ (a.records.map (·.testId)).Nodup := by
  obtain ⟨loaded, hload, hreason⟩ := heffect
  obtain ⟨found, hfound, hholds⟩ := Load.holds_of_load hload
  obtain rfl := h.grown_of_suiteFiles hfound
  obtain ⟨number, hwrittenLoad⟩ := h.load_written
  obtain ⟨unit, definition, howner, hunit⟩ :=
    (hholds.containsSuite a.suite).mp (Registry.containsSuite_of_reason? hreason)
  obtain ⟨hmem, hsuite⟩ := Load.owner?_eq_some howner
  rcases h.target_cases with
    ⟨unit', names, content, howner', hformat, hpath, hat, hwritten, hread, hsame⟩ | ⟨hnone, -⟩
  · obtain rfl : unit' = unit := by
      rw [hsame, howner'] at howner
      exact Option.some.inj howner
    have hfind : after.find unit'.path = .ok a.written := hpath ▸ h.path
    refine ⟨⟨a.grown, hfound, unit', hmem, hsuite, hformat, by rw [hpath]⟩, ?_⟩
    exact ((hwrittenLoad unit' hformat hfind definition).mp hunit).1
  · obtain ⟨hfree, -, hnew⟩ := h.mem_grown_cases hnone hmem hsuite
    have hold := h.old_of_new hfree
    obtain ⟨names, hnames, hwritten, hnamed⟩ := Disk.newSuiteFile?_eq_some_iff.mp hnew
    have hat : FoundAt after a.root a.place unit names _ := ⟨hnames, hwritten ▸ h.content, hnamed⟩
    have hfind : after.find unit.path = .ok a.written := by
      obtain ⟨text, -, htext, -⟩ := SuiteFile.load_eq_ok_iff.mp hunit
      obtain ⟨place, -, hfind, -⟩ := Disk.readText_eq_ok_iff.mp htext
      have hreach := hfind
      rw [hat.find h.wellFormed' h.root'] at hreach
      rw [hfind, Disk.eq_of_reach hreach, hwritten]
    have hformat := format_of_load h hold hfind hunit
    refine ⟨⟨a.grown, hfound, unit, hmem, hsuite, hformat, hfind.trans h.path.symm⟩, ?_⟩
    rw [records_of_old_empty h hold]
    exact List.nodup_nil

/-- The file that is read back holds the new record behind the old ones, unless these name a test
twice. -/
theorem load_of_readIn (h : a.Accepted before after) {unit : SuiteFile}
    (hunit : ReadIn a before after unit) (hnodup : (a.records.map (·.testId)).Nodup) :
    ∃ number, unit.load after = .ok ⟨unit.suite, unit.path.text,
      a.records ++ [⟨a.testId, a.reason, some number⟩]⟩ := by
  obtain ⟨number, hwritten⟩ := h.load_written
  exact ⟨number, (hwritten unit hunit.format hunit.path _).mpr ⟨hnodup, rfl⟩⟩

/-- What is read back keeps the files sound, unless its records name a test twice. -/
theorem sound_of_readIn (h : a.Accepted before after) {unit : SuiteFile}
    (hunit : ReadIn a before after unit) (hnodup : (a.records.map (·.testId)).Nodup)
    (hsound : Load.Sound before a.found) : Load.Sound after a.grown := by
  obtain ⟨hsuites, hload⟩ := hsound
  obtain ⟨number, hok⟩ := load_of_readIn h hunit hnodup
  have hmem : ∀ file ∈ a.grown, file = unit ∨ file ∈ a.found := by
    rcases hunit.origin with ⟨-, hsame, -⟩ | ⟨-, hperm, -⟩
    · exact fun file hfile => .inr (hsame ▸ hfile)
    · intro file hfile
      rcases List.mem_append.mp (hperm.mem_iff.mp hfile) with hold | hnew
      · exact .inr hold
      · exact .inl (List.mem_singleton.mp hnew)
  refine ⟨?_, fun file hfile => ?_⟩
  · rcases hunit.origin with ⟨-, hsame, -⟩ | ⟨hnone, hperm, -⟩
    · rw [hsame]
      exact hsuites
    · obtain ⟨-, hsuite⟩ := Load.owner?_eq_some hunit.owner
      rw [(hperm.map _).nodup_iff, List.map_append, List.nodup_append']
      refine ⟨hsuites, List.nodup_singleton _, ?_⟩
      rw [List.map_singleton, List.disjoint_singleton, hsuite]
      intro hold
      obtain ⟨file, hfile, heq⟩ := List.mem_map.mp hold
      exact Load.owner?_eq_none_iff.mp hnone file hfile heq
  · by_cases heq : file = unit
    · exact ⟨_, heq ▸ hok⟩
    · obtain ⟨definition, hdefinition⟩ := hload file ((hmem file hfile).resolve_left heq)
      refine ⟨definition, ?_⟩
      rw [hunit.others file ((hmem file hfile).resolve_left heq) heq, hdefinition]

/-- What is read back takes effect, unless its records name a test twice. -/
theorem excludes_of_readIn (h : a.Accepted before after) {unit : SuiteFile}
    (hunit : ReadIn a before after unit) (hnodup : (a.records.map (·.testId)).Nodup)
    {mode : LoadMode} {loaded : Loaded} (hload : before.load mode a.root = .ok loaded) :
    Excludes after mode a.root a.suite a.testId a.reason := by
  obtain ⟨found, hfound, hstrict, -⟩ := Load.loads_iff.mp ⟨loaded, hload, rfl⟩
  obtain rfl : found = a.found := Except.ok.inj (hfound.symm.trans h.found)
  obtain ⟨registry, -, hholds⟩ := Load.ofDefinitions_claim after a.grown
  obtain ⟨next, hnext, rfl⟩ := Load.loads_iff.mpr ⟨a.grown, hunit.listed,
    fun hmode => sound_of_readIn h hunit hnodup (hstrict hmode), hholds⟩
  refine ⟨next, hnext, ?_⟩
  obtain ⟨number, hok⟩ := load_of_readIn h hunit hnodup
  have hheld := hholds.exclusionsOf a.suite
  rw [hunit.owner, Option.map_some, Option.getD_some, SuiteFile.held_of_load hok,
    Definition.exclusions, List.map_append, List.map_singleton] at hheld
  have hfind := hholds.wellFormed.find?_of_concat hheld (by simpa using h.fresh)
  rw [Registry.reason?, hfind]
  rfl

/-- The records of a file that loads name no test twice. -/
theorem nodup_records_of_sound (h : a.Accepted before after) {unit : SuiteFile}
    (hunit : ReadIn a before after unit) (hsound : Load.Sound before a.found) :
    (a.records.map (·.testId)).Nodup := by
  rcases hunit.origin with ⟨howner, -, hpath, hread⟩ | ⟨-, -, -, hold⟩
  · obtain ⟨hmem, -⟩ := Load.owner?_eq_some howner
    obtain ⟨definition, hload⟩ := hsound.2 unit hmem
    obtain ⟨text, records, htext, hparse, hnodup, -⟩ := SuiteFile.load_eq_ok_iff.mp hload
    rw [hpath, hread] at htext
    cases htext
    rw [hunit.format, hpath, Format.parse, h.parsed] at hparse
    rwa [Except.ok.inj hparse]
  · rw [records_of_old_empty h hold]
    exact List.nodup_nil

/-- After a strict load, an addition below a directory without links is read back, and the old
records of its file name no test twice. -/
theorem exists_readIn_of_strict (h : a.Accepted before after)
    (hlinks : before.LinkFreeBelow a.place) {registry : Registry}
    (hload : Load.Loads before .strict a.root registry) :
    ∃ unit, ReadIn a before after unit ∧ (a.records.map (·.testId)).Nodup ∧
      Load.Sound before a.found ∧ Load.Holds before a.found registry := by
  obtain ⟨unit, hunit⟩ := h.exists_readIn (h.readsBack_of_linkFree hlinks)
  obtain ⟨found, hfound, hsound, hholds⟩ := Load.loads_iff.mp hload
  obtain rfl : found = a.found := Except.ok.inj (hfound.symm.trans h.found)
  exact ⟨unit, hunit, nodup_records_of_sound h hunit (hsound rfl), hsound rfl, hholds⟩

end Addition

/-- An accepted addition takes effect exactly if what has been written is read back and named no
test twice before. The first holds without links below the root; the second follows from the first
in strict mode. -/
theorem excludes_of_add_iff {before after : Disk} (hdisk : before.WellFormed)
    {root : Path} {mode : LoadMode} {verbosity : Nat} {suite testId reason : String}
    {output : Output}
    (hadd : Invocation.run ⟨root, mode, verbosity, .add suite testId reason⟩ before =
      (.ok output, after)) :
    ∃ found path old records, before.suiteFiles root = .ok found ∧
      targetFile found root suite = .ok path ∧ textOrEmpty before path = .ok old ∧
      Line.parseUnit path.text old = .ok records ∧
      (Excludes after mode root suite testId reason ↔
        after.ReadsBack root suite path ∧ (records.map (·.testId)).Nodup) ∧
      (∀ place, before.directory? root = some place → before.LinkFreeBelow place →
        after.ReadsBack root suite path) ∧
      (mode = .strict → after.ReadsBack root suite path → (records.map (·.testId)).Nodup) := by
  obtain ⟨a, h, ⟨rfl, rfl, rfl, rfl⟩, loaded, hload, -⟩ := Addition.accepted_of_runAdd hdisk hadd
  refine ⟨a.found, a.path, a.old, a.records, h.found, h.target, h.text, h.parsed, ?_, ?_, ?_⟩
  · constructor
    · exact Addition.readsBack_of_excludes h
    · rintro ⟨hback, hnodup⟩
      obtain ⟨unit, hunit⟩ := h.exists_readIn hback
      exact Addition.excludes_of_readIn h hunit hnodup hload
  · intro place hroot hlinks
    rw [h.root] at hroot
    exact h.readsBack_of_linkFree (Option.some.inj hroot ▸ hlinks)
  · intro hmode hback
    obtain ⟨found, hfound, hstrict, -⟩ := Load.loads_iff.mp ⟨loaded, hload, rfl⟩
    obtain rfl : found = a.found := Except.ok.inj (hfound.symm.trans h.found)
    obtain ⟨unit, hunit⟩ := h.exists_readIn hback
    exact Addition.nodup_records_of_sound h hunit (hstrict hmode)

/-- A disk with one unit, whose only line is not ended. -/
def sampleDisk : Disk :=
  ⟨[], [(["d"], .directory), (["d", "A.rb"], .file "exclude :a, \"x\"".toUTF8)], []⟩

theorem excludes_of_add_to_sample : sampleDisk.WellFormed ∧ ∃ output after,
    Invocation.run ⟨⟨"d"⟩, .strict, 0, .add "A" "t" "R"⟩ sampleDisk = (.ok output, after) ∧
      Excludes after .strict ⟨"d"⟩ "A" "t" "R" := by
  have hdisk : sampleDisk.WellFormed := by decide +kernel
  have hroot : sampleDisk.directory? ⟨"d"⟩ = some [Text.utf8 "d"] := by decide +kernel
  have hlinks : sampleDisk.LinkFreeBelow ["d"] := by simp [Disk.LinkFreeBelow, sampleDisk]
  have hok : (Invocation.run ⟨⟨"d"⟩, .strict, 0, .add "A" "t" "R"⟩ sampleDisk).1.toBool := by
    decide +kernel
  obtain ⟨output, hadd⟩ := Outcome.exists_of_toBool hok
  obtain ⟨_, _, _, _, -, -, -, -, heffect, hback, hnodup⟩ := excludes_of_add_iff hdisk hadd
  have hread := hback _ hroot hlinks
  exact ⟨hdisk, output, _, hadd, heffect.mpr ⟨hread, hnodup rfl hread⟩⟩

/-- A disk whose only unit names a test twice. -/
def doubledDisk : Disk :=
  ⟨[], [(["d"], .directory),
    (["d", "A.rb"], .file "exclude :a, \"x\"\nexclude :a, \"y\"\n".toUTF8)], []⟩

/-- A disk on which a link stands where a suite has its unit. -/
def linkedDisk : Disk :=
  ⟨[], [(["d"], .directory), (["d", "A.rb"], .link ⟨"../e.rb"⟩), (["e.rb"], .file "".toUTF8)], []⟩

/-- An addition can be accepted without effect: where best-effort loading leaves the unit out for a
test that it names twice, and where the unit is reached through a link. -/
theorem accepted_without_effect :
    (doubledDisk.WellFormed ∧ ∃ output after,
      Invocation.run ⟨⟨"d"⟩, .bestEffort, 0, .add "A" "t" "R"⟩ doubledDisk =
        (.ok output, after) ∧ ¬Excludes after .bestEffort ⟨"d"⟩ "A" "t" "R") ∧
    (linkedDisk.WellFormed ∧ ∃ output after,
      Invocation.run ⟨⟨"d"⟩, .strict, 0, .add "A" "t" "R"⟩ linkedDisk =
        (.ok output, after) ∧ ¬Excludes after .strict ⟨"d"⟩ "A" "t" "R") := by
  have hdoubled : (Invocation.run ⟨⟨"d"⟩, .bestEffort, 0, .add "A" "t" "R"⟩
      doubledDisk).1.toBool := by
    decide +kernel
  have hlinked : (Invocation.run ⟨⟨"d"⟩, .strict, 0, .add "A" "t" "R"⟩ linkedDisk).1.toBool := by
    decide +kernel
  obtain ⟨output, hadd⟩ := Outcome.exists_of_toBool hdoubled
  obtain ⟨output', hadd'⟩ := Outcome.exists_of_toBool hlinked
  refine ⟨⟨by decide +kernel, output, _, hadd, ?_⟩, ⟨by decide +kernel, output', _, hadd', ?_⟩⟩
  · decide +kernel
  · decide +kernel

end TestExclusions.Command
