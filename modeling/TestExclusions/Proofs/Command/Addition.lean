import TestExclusions.Proofs.Command.Add
import TestExclusions.Proofs.Manifest

/-! Accepted additions. The file that is written belongs to the suite before or is new to it, all
other files load as before, and its own records are the old ones and the one that was added. -/
namespace TestExclusions
open Disk (AddsDirectories FoundAt Grows)

/-- The written file is found below the root as exclusion lines of a suite. -/
def Disk.ReadsBack (disk : Disk) (root : Path) (suite : String) (path : Path) : Prop :=
  ∃ found, disk.suiteFiles root = .ok found ∧
    ∃ unit ∈ found, unit.suite = suite ∧ unit.format = .lines ∧
      disk.find unit.path = disk.find path

namespace Command

/-- What an addition is about: its request, what it has met below the root, whose place is given,
and the place at which it has written. -/
structure Addition where
  root : Path
  place : Place
  suite : String
  testId : String
  reason : String
  path : Path
  old : String
  records : List Record
  found : List SuiteFile
  grown : List SuiteFile
  written : Place

namespace Addition

/-- An accepted addition: it was planned on the disk before, and the disk after it differs in new
directories and in the written file. -/
structure Accepted (a : Addition) (before after : Disk) : Prop where
  wellFormed : before.WellFormed
  root : before.directory? a.root = some a.place
  name : suiteNameFault? a.suite = none
  found : before.suiteFiles a.root = .ok a.found
  target : targetFile a.found a.root a.suite = .ok a.path
  named : SuiteFile.suiteName? a.root a.path = some a.suite
  text : textOrEmpty before a.path = .ok a.old
  parsed : Line.parseUnit a.path.text a.old = .ok a.records
  fresh : a.testId ∉ a.records.map (·.testId)
  wellFormed' : after.WellFormed
  grows : Grows before after
  path : after.find a.path = .ok a.written
  content : after.get? a.written = some (.file (addedTo a.old a.testId a.reason).toUTF8)
  others : ∀ other ≠ a.written, ∀ content,
    after.get? other = some (.file content) ↔ before.get? other = some (.file content)
  linkFree : before.LinkFreeBelow a.place → Disk.Open a.root a.place after ∧
    ∀ names, names ≠ [] → (∀ name ∈ names, Path.IsName name) → a.path = a.root.enter names →
      a.written = a.place ++ names
  grown : a.grown = after.suiteFilesBelow a.root a.place
  files : (∃ content, before.get? a.written = some (.file content)) ∧ a.grown = a.found ∨
    before.get? a.written = none ∧
      a.grown.Perm (a.found ++ (Disk.newSuiteFile? a.root a.place a.written).toList)

/-- A successful run is an accepted addition. -/
theorem accepted_of_runAdd {before after : Disk} (hdisk : before.WellFormed) {root : Path}
    {mode : LoadMode} {suite testId reason : String} {output : Output}
    (h : (runAdd root mode suite testId reason).run before = (.ok output, after)) :
    ∃ a : Addition, a.Accepted before after ∧
      (a.root = root ∧ a.suite = suite ∧ a.testId = testId ∧ a.reason = reason) ∧
      ∃ loaded, before.load mode root = .ok loaded ∧
        loaded.registry.reason? suite testId = none := by
  rcases runAdd_cases hdisk h with ⟨⟨e, herror⟩, -⟩ | hok
  · cases herror
  · obtain ⟨_, path, text, written, -, hplan, hwrites⟩ := hok
    obtain ⟨hadds, hmade⟩ := Disk.furnishes_prepared before path hdisk
    obtain ⟨old, records, hplanned, rfl⟩ := planned_of_plan hplan
    obtain ⟨found, hfound, htarget⟩ := hplanned.target
    obtain ⟨place, hroot, hlistable, hbelow⟩ := (Disk.suiteFiles_eq_ok_iff hdisk).mp hfound
    have hmadeRoot := Disk.directory?_of_grows hadds.grows hroot
    have hfiles := Disk.suiteFilesBelow_of_writes hmade hwrites root place
    rw [Disk.suiteFilesBelow_of_addsDirectories hadds, ← hbelow] at hfiles
    refine ⟨⟨root, place, suite, testId, reason, path, old, records, found,
        after.suiteFilesBelow root place, written⟩,
      ⟨hdisk, hroot, hplanned.name, hfound, htarget, hplanned.named, hplanned.text,
        hplanned.parsed, hplanned.fresh, hwrites.wellFormed, hadds.grows.trans hwrites.grows,
        hwrites.found, ?_, ?_, ?_, rfl, ?_⟩, ⟨rfl, rfl, rfl, rfl⟩, hplanned.loaded⟩
    · rw [hwrites.get?, if_pos rfl]
    · intro other hother content
      rw [hwrites.get?, if_neg hother]
      exact hadds.file_iff
    · intro hlinks
      have hopen : Disk.Open root place (before.prepared path) := by
        obtain ⟨names, hnil, hnames, rfl⟩ := hplanned.path_eq hdisk
        exact Disk.open_prepared ⟨hdisk, hroot, hlinks, hlistable⟩ hnil hnames
      refine ⟨Disk.open_of_writes hopen hwrites, fun names hnil hnames hpath => ?_⟩
      obtain ⟨spot, hspot, hplace⟩ := hwrites.spot
      obtain ⟨hfind, -⟩ := Disk.directory?_eq_some_iff.mp hmadeRoot
      have hpath : path = root.enter names := hpath
      rw [hpath] at hspot hfind hopen
      exact hplace.symm.trans
        (Disk.place_of_locate_enter hfind hopen.linkFree hnames hnil hspot)
    · rcases hfiles with ⟨⟨content, hcontent⟩, hsame⟩ | ⟨hnone, hperm⟩
      · exact .inl ⟨⟨content, hadds.file_iff.mp hcontent⟩, hsame⟩
      · refine .inr ⟨?_, hperm⟩
        rcases hadds.get?_cases written with heq | ⟨hfree, -⟩
        · exact heq.symm.trans hnone
        · exact hfree

section Accepted
variable {a : Addition} {before after : Disk} (h : a.Accepted before after)
include h

theorem Accepted.root' : after.directory? a.root = some a.place :=
  Disk.directory?_of_grows h.grows h.root

/-- A text that was read before stood where it is written. -/
theorem Accepted.written_of_readText (hread : before.readText a.path = .ok a.old) :
    ∃ content, before.find a.path = .ok a.written ∧
      before.get? a.written = some (.file content) ∧ textOf content = .ok a.old := by
  obtain ⟨place, content, hfind, hfile, htext⟩ := Disk.readText_eq_ok_iff.mp hread
  have hafter := Disk.find_of_grows h.grows hfind
  rw [h.path] at hafter
  cases hafter
  exact ⟨content, hfind, hfile, htext⟩

/-- A file that is new had no text. -/
theorem Accepted.old_of_new (hnew : before.get? a.written = none) : a.old = "" := by
  rcases textOrEmpty_eq_ok h.text with hread | ⟨-, hempty⟩
  · obtain ⟨content, -, hfile, -⟩ := h.written_of_readText hread
    rw [hnew] at hfile
    cases hfile
  · exact hempty

/-- The suite has a file of lines, which is written, or it has none and a new path is written. -/
theorem Accepted.target_cases :
    (∃ unit names content, Load.owner? a.found a.suite = some unit ∧ unit.format = .lines ∧
      unit.path = a.path ∧ FoundAt before a.root a.place unit names content ∧
      a.written = a.place ++ names ∧ before.readText a.path = .ok a.old ∧ a.grown = a.found) ∨
    Load.owner? a.found a.suite = none ∧ a.path = newFile a.root a.suite := by
  have htarget := h.target
  unfold targetFile at htarget
  split at htarget
  · rename_i unit hunit
    split at htarget
    · cases htarget
    · rename_i hformat
      have hpath := Except.ok.inj htarget
      obtain ⟨hmem, -⟩ := Load.owner?_eq_some hunit
      obtain ⟨names, content, hat⟩ := (Disk.mem_suiteFiles h.wellFormed h.root h.found).mp hmem
      have hread : before.readText a.path = .ok a.old := by
        rcases textOrEmpty_eq_ok h.text with hread | ⟨hmissing, -⟩
        · exact hread
        · rw [← hpath] at hmissing
          exact absurd hmissing (hat.readText_ne h.wellFormed h.root)
      obtain ⟨bytes, hfind, hfile, -⟩ := h.written_of_readText hread
      rw [← hpath, hat.find h.wellFormed h.root] at hfind
      refine .inl ⟨unit, names, content, hunit, ?_, hpath, hat, Disk.eq_of_reach hfind, hread, ?_⟩
      · cases hcase : unit.format with
        | lines => rfl
        | manifest => exact absurd hcase hformat
      · rcases h.files with ⟨-, hsame⟩ | ⟨hnone, -⟩
        · exact hsame
        · rw [hnone] at hfile
          cases hfile
  · rename_i hnone
    exact .inr ⟨hnone, (Except.ok.inj htarget).symm⟩

/-- A file that stands elsewhere loads as before. -/
theorem Accepted.load_other {unit : SuiteFile} {names : List Bytes} {content : ByteArray}
    (hat : FoundAt before a.root a.place unit names content)
    (hother : a.place ++ names ≠ a.written) : unit.load after = unit.load before := by
  have hat' : FoundAt after a.root a.place unit names content :=
    ⟨hat.nonempty, (h.others _ hother content).mpr hat.content, hat.named⟩
  apply SuiteFile.load_congr
  rw [hat.readText h.wellFormed h.root, hat'.readText h.wellFormed' h.root']

/-- The written file loads if its old records name no test twice. -/
theorem Accepted.load_written : ∃ number, ∀ unit : SuiteFile, unit.format = .lines →
    after.find unit.path = .ok a.written → ∀ definition, unit.load after = .ok definition ↔
      (a.records.map (·.testId)).Nodup ∧ definition = ⟨unit.suite, unit.path.text,
        a.records ++ [⟨a.testId, a.reason, some number⟩]⟩ := by
  obtain ⟨number, hparse⟩ := parseUnit_addedTo h.parsed a.testId a.reason
  refine ⟨number, fun unit hformat hfind definition => ?_⟩
  have hread : after.readText unit.path = .ok (addedTo a.old a.testId a.reason) := by
    rw [Disk.readText_of_find hfind h.content, textOf_toUTF8]
  have hunit : unit.format.parse unit.path.text (addedTo a.old a.testId a.reason) =
      .ok (a.records ++ [⟨a.testId, a.reason, some number⟩]) := by
    rw [hformat, Format.parse, hparse]
  have hnodup : ((a.records ++ [(⟨a.testId, a.reason, some number⟩ : Record)]).map
      (·.testId)).Nodup ↔ (a.records.map (·.testId)).Nodup := by
    rw [List.map_append, List.nodup_append']
    simpa using fun _ => h.fresh
  rw [SuiteFile.load_eq_ok_iff]
  constructor
  · rintro ⟨text, records, htext, hrecords, hdistinct, rfl⟩
    rw [hread] at htext
    cases htext
    rw [hunit] at hrecords
    cases hrecords
    exact ⟨hnodup.mp hdistinct, rfl⟩
  · rintro ⟨hdistinct, rfl⟩
    exact ⟨_, _, hread, hunit, hnodup.mpr hdistinct, rfl⟩

/-- Where no file was, a found file that is written is the only one of its suite. -/
theorem Accepted.mem_grown_cases (hnone : Load.owner? a.found a.suite = none) {unit : SuiteFile}
    (hmem : unit ∈ a.grown) (hsuite : unit.suite = a.suite) :
    before.get? a.written = none ∧ a.grown.Perm (a.found ++ [unit]) ∧
      Disk.newSuiteFile? a.root a.place a.written = some unit := by
  have hfresh : unit ∉ a.found := fun hfound =>
    Load.owner?_eq_none_iff.mp hnone unit hfound hsuite
  rcases h.files with ⟨-, hsame⟩ | ⟨hfree, hperm⟩
  · exact absurd (hsame ▸ hmem) hfresh
  · rcases List.mem_append.mp (hperm.mem_iff.mp hmem) with hfound | hnew
    · exact absurd hfound hfresh
    · have hnew := Option.mem_toList.mp hnew
      rw [hnew] at hperm
      exact ⟨hfree, hperm, hnew⟩

theorem Accepted.grown_of_suiteFiles {found : List SuiteFile}
    (hfound : after.suiteFiles a.root = .ok found) : found = a.grown := by
  obtain ⟨-, rfl⟩ := Disk.suiteFiles_eq_of_ok h.wellFormed' h.root' hfound
  exact h.grown.symm

/-- Below a directory without links, what is written is read back. -/
theorem Accepted.readsBack_of_linkFree (hlinks : before.LinkFreeBelow a.place) :
    after.ReadsBack a.root a.suite a.path := by
  refine ⟨a.grown, h.grown ▸ (h.linkFree hlinks).1.suiteFiles, ?_⟩
  rcases h.target_cases with ⟨unit, names, content, howner, hformat, hpath, -, -, -, hsame⟩ |
    ⟨-, hpath⟩
  · obtain ⟨hmem, hsuite⟩ := Load.owner?_eq_some howner
    exact ⟨unit, hsame ▸ hmem, hsuite, hformat, by rw [hpath]⟩
  · obtain ⟨hfind, -⟩ := Disk.directory?_eq_some_iff.mp h.root
    have hbytes := Disk.bytes_ne_of_find hfind
    have hnil := newFileNames_ne_nil h.name
    have hwritten := (h.linkFree hlinks).2 _ hnil (isName_of_mem_newFileNames h.name) hpath
    have hat : FoundAt after a.root a.place ⟨a.suite, newFile a.root a.suite, .lines⟩
        (newFileNames a.suite) _ :=
      ⟨hnil, hwritten ▸ h.content, ofNames?_newFileNames hbytes h.name⟩
    refine ⟨_, h.grown ▸ (Disk.mem_suiteFilesBelow h.wellFormed').mpr ⟨_, _, hat⟩, rfl, rfl, ?_⟩
    rw [hpath]

end Accepted

/-! ## Reading back -/

/-- The file in which an addition is read back: one that had the suite before, or a new one for a
suite that had none. -/
structure ReadIn (a : Addition) (before after : Disk) (unit : SuiteFile) : Prop where
  listed : after.suiteFiles a.root = .ok a.grown
  owner : Load.owner? a.grown a.suite = some unit
  format : unit.format = .lines
  path : after.find unit.path = .ok a.written
  others : ∀ other ∈ a.found, other ≠ unit → other.load after = other.load before
  origin : (Load.owner? a.found a.suite = some unit ∧ a.grown = a.found ∧ unit.path = a.path ∧
      before.readText a.path = .ok a.old) ∨
    (Load.owner? a.found a.suite = none ∧ a.grown.Perm (a.found ++ [unit]) ∧
      before.get? a.written = none ∧ a.old = "")

theorem Accepted.exists_readIn {a : Addition} {before after : Disk} (h : a.Accepted before after)
    (hback : after.ReadsBack a.root a.suite a.path) : ∃ unit, ReadIn a before after unit := by
  obtain ⟨found, hlisted, hback⟩ := hback
  obtain rfl := h.grown_of_suiteFiles hlisted
  rcases h.target_cases with
    ⟨unit, names, content, howner, hformat, hpath, hat, hwritten, hread, hsame⟩ | ⟨hnone, -⟩
  · refine ⟨unit, hlisted, hsame ▸ howner, hformat, hpath ▸ h.path, fun other hother hne => ?_,
      .inl ⟨howner, hsame, hpath, hread⟩⟩
    obtain ⟨names', content', hat'⟩ := (Disk.mem_suiteFiles h.wellFormed h.root h.found).mp hother
    apply h.load_other hat'
    rw [hwritten]
    intro heq
    have hnames := List.append_cancel_left heq
    have hnamed := hat'.named
    rw [hnames, hat.named] at hnamed
    exact hne (Option.some.inj hnamed).symm
  · obtain ⟨unit, hmem, hsuite, hformat, hfind⟩ := hback
    obtain ⟨hfree, hperm, -⟩ := h.mem_grown_cases hnone hmem hsuite
    refine ⟨unit, hlisted, ?_, hformat, hfind.trans h.path, fun other hother _ => ?_,
      .inr ⟨hnone, hperm, hfree, h.old_of_new hfree⟩⟩
    · cases howner : Load.owner? a.grown a.suite with
      | none => exact absurd hsuite (Load.owner?_eq_none_iff.mp howner unit hmem)
      | some other =>
        obtain ⟨hother, hsame⟩ := Load.owner?_eq_some howner
        rcases List.mem_append.mp (hperm.mem_iff.mp hother) with hold | hnew
        · exact absurd hsame (Load.owner?_eq_none_iff.mp hnone other hold)
        · rw [List.mem_singleton.mp hnew]
    · obtain ⟨names, content, hat⟩ := (Disk.mem_suiteFiles h.wellFormed h.root h.found).mp hother
      apply h.load_other hat
      intro heq
      have hcontent := hat.content
      rw [heq, hfree] at hcontent
      cases hcontent

end Addition
end Command
end TestExclusions
