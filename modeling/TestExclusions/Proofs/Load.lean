import Mathlib.Data.List.Nodup
import TestExclusions.Load
import TestExclusions.Proofs.Outcome
import TestExclusions.Proofs.Registry

/-! What a load yields. A suite holds what the first file that names it declares, whatever the
other files are, and a strict load succeeds if every file names a suite of its own and loads. -/
namespace TestExclusions

/-! ## One file -/

namespace SuiteFile

theorem load_eq_ok_iff {file : SuiteFile} {disk : Disk} {definition : Definition} :
    file.load disk = .ok definition ↔ ∃ text records, disk.readText file.path = .ok text ∧
      file.format.parse file.path.text text = .ok records ∧
      (records.map (·.testId)).Nodup ∧ definition = ⟨file.suite, file.path.text, records⟩ := by
  unfold load
  cases disk.readText file.path with
  | error e => simp
  | ok text =>
    dsimp only
    rw [Outcome.bind_eq_ok_iff]
    constructor
    · rintro ⟨records, hparse, h⟩
      obtain ⟨_, hdistinct, h⟩ := Outcome.bind_eq_ok_iff.mp h
      cases h
      exact ⟨text, records, rfl, hparse, Definition.checkDistinct_eq_ok_iff.mp hdistinct, rfl⟩
    · rintro ⟨_, records, htext, hparse, hnodup, rfl⟩
      cases htext
      refine ⟨records, hparse, Outcome.bind_eq_ok_iff.mpr ⟨(), ?_, rfl⟩⟩
      exact Definition.checkDistinct_eq_ok_iff.mpr hnodup

/-- A file loads as before where it reads as before. -/
theorem load_congr {file : SuiteFile} {disk other : Disk}
    (h : other.readText file.path = disk.readText file.path) :
    file.load other = file.load disk := by
  unfold load
  rw [h]

theorem suite_of_load {file : SuiteFile} {disk : Disk} {definition : Definition}
    (h : file.load disk = .ok definition) : definition.suite = file.suite := by
  obtain ⟨text, records, -, -, -, rfl⟩ := load_eq_ok_iff.mp h
  rfl

/-- The exclusions that a file declares, which are none if it cannot be loaded. -/
def held (disk : Disk) (file : SuiteFile) : List Exclusion :=
  match file.load disk with
  | .ok definition => definition.exclusions
  | .error _ => []

theorem held_of_load {file : SuiteFile} {disk : Disk} {definition : Definition}
    (h : file.load disk = .ok definition) : file.held disk = definition.exclusions := by
  rw [held, h]

theorem suite_of_mem_held {file : SuiteFile} {disk : Disk} {exclusion : Exclusion}
    (h : exclusion ∈ file.held disk) : exclusion.suite = file.suite := by
  unfold held at h
  split at h
  · rename_i definition hload
    rw [Definition.suite_of_mem_exclusions h, suite_of_load hload]
  · cases h

theorem nodup_held (file : SuiteFile) (disk : Disk) :
    ((file.held disk).map (·.testId)).Nodup := by
  unfold held
  split
  · rename_i definition hload
    obtain ⟨text, records, -, -, hnodup, rfl⟩ := load_eq_ok_iff.mp hload
    rwa [Definition.map_testId_exclusions]
  · exact List.nodup_nil

end SuiteFile

namespace Load

/-! ## Claims -/

/-- A suite goes to the first file that names it. -/
theorem find?_claim (claimed files : List SuiteFile) (suite : String) :
    (claim claimed files).1.find? (·.suite = suite) =
      if suite ∈ claimed.map (·.suite) then none else files.find? (·.suite = suite) := by
  induction files generalizing claimed with
  | nil => simp [claim]
  | cons file rest ih =>
    simp only [claim]
    split
    · rename_i first hfirst
      have hmem := List.mem_map_of_mem (f := SuiteFile.suite) (List.mem_of_find?_eq_some hfirst)
      have hsame : first.suite = file.suite := by simpa using List.find?_some hfirst
      rw [hsame] at hmem
      rw [ih]
      split
      · rfl
      · rename_i hsuite
        rw [List.find?_cons_of_neg]
        simp only [decide_eq_true_eq]
        rintro rfl
        exact hsuite hmem
    · rename_i hnone
      have hnew : file.suite ∉ claimed.map (·.suite) := by simpa using hnone
      by_cases hsuite : file.suite = suite
      · subst hsuite
        simp [hnew]
      · rw [List.find?_cons_of_neg (by simpa using hsuite), ih,
          List.find?_cons_of_neg (by simpa using hsuite)]
        simp [Ne.symm hsuite]

theorem nodup_claim (claimed files : List SuiteFile) :
    ((claim claimed files).1.map (·.suite)).Nodup ∧
      ∀ file ∈ (claim claimed files).1, file.suite ∉ claimed.map (·.suite) := by
  induction files generalizing claimed with
  | nil => simp [claim]
  | cons file rest ih =>
    simp only [claim]
    split
    · exact ih claimed
    · rename_i hnone
      have hnew : file.suite ∉ claimed.map (·.suite) := by simpa using hnone
      exact (nodup_cons_seen SuiteFile.suite hnew).mp (ih (claimed ++ [file]))

/-- No suite is doubled if every file names one of its own. -/
theorem claim_failures_eq_nil_iff {claimed files : List SuiteFile} :
    (claim claimed files).2 = [] ↔ (files.map (·.suite)).Nodup ∧
      ∀ file ∈ files, file.suite ∉ claimed.map (·.suite) := by
  induction files generalizing claimed with
  | nil => simp [claim]
  | cons file rest ih =>
    simp only [claim]
    split
    · rename_i first hfirst
      have hmem := List.mem_map_of_mem (f := SuiteFile.suite) (List.mem_of_find?_eq_some hfirst)
      have hsame : first.suite = file.suite := by simpa using List.find?_some hfirst
      rw [hsame] at hmem
      constructor
      · intro h
        cases h
      · rintro ⟨-, hfresh⟩
        exact absurd hmem (hfresh file List.mem_cons_self)
    · rename_i hnone
      have hnew : file.suite ∉ claimed.map (·.suite) := by simpa using hnone
      rw [ih]
      exact nodup_cons_seen SuiteFile.suite hnew

theorem claim_of_failures {claimed files : List SuiteFile} (h : (claim claimed files).2 = []) :
    (claim claimed files).1 = files := by
  induction files generalizing claimed with
  | nil => rfl
  | cons file rest ih =>
    simp only [claim] at h ⊢
    split at h
    · cases h
    · rw [ih h]

theorem claim_sublist (claimed files : List SuiteFile) : (claim claimed files).1.Sublist files := by
  induction files generalizing claimed with
  | nil => exact .slnil
  | cons file rest ih =>
    simp only [claim]
    split
    · exact (ih claimed).cons file
    · exact (ih _).cons_cons file

/-! ## Definitions -/

theorem readAll_congr {disk other : Disk} {files : List SuiteFile}
    (h : ∀ file ∈ files, file.load other = file.load disk) :
    readAll other files = readAll disk files := by
  induction files with
  | nil => rfl
  | cons file rest ih =>
    obtain ⟨hfile, hrest⟩ := List.forall_mem_cons.mp h
    rw [readAll, readAll, hfile, ih hrest]

/-- The definitions of the files that can be loaded. -/
def definitions (disk : Disk) (files : List SuiteFile) : List Definition :=
  files.filterMap fun file => (file.load disk).toOption

theorem map_readAll (disk : Disk) (files : List SuiteFile) :
    (readAll disk files).1.map (·.2) = definitions disk files := by
  induction files with
  | nil => rfl
  | cons file rest ih =>
    simp only [readAll, definitions, List.filterMap_cons]
    cases file.load disk with
    | ok definition => simp [Except.toOption, ih, definitions]
    | error e => simp [Except.toOption, ih, definitions]

theorem readAll_failures_eq_nil_iff {disk : Disk} {files : List SuiteFile} :
    (readAll disk files).2 = [] ↔
      ∀ file ∈ files, ∃ definition, file.load disk = .ok definition := by
  induction files with
  | nil => simp [readAll]
  | cons file rest ih =>
    simp only [readAll, List.forall_mem_cons]
    cases file.load disk with
    | ok definition => simp [ih]
    | error e => simp

theorem mem_definitions {disk : Disk} {files : List SuiteFile} {definition : Definition} :
    definition ∈ definitions disk files ↔ ∃ file ∈ files, file.load disk = .ok definition := by
  rw [definitions, List.mem_filterMap]
  refine exists_congr fun file => and_congr_right fun _ => ?_
  cases file.load disk <;> simp [Except.toOption]

/-- The file whose declarations a suite has. -/
def owner? (files : List SuiteFile) (suite : String) : Option SuiteFile :=
  files.find? (·.suite = suite)

theorem owner?_eq_some {files : List SuiteFile} {suite : String} {file : SuiteFile}
    (h : owner? files suite = some file) : file ∈ files ∧ file.suite = suite :=
  ⟨List.mem_of_find?_eq_some h, by simpa using List.find?_some h⟩

theorem owner?_eq_none_iff {files : List SuiteFile} {suite : String} :
    owner? files suite = none ↔ ∀ file ∈ files, file.suite ≠ suite := by
  simp [owner?]

theorem owner?_of_mem {files : List SuiteFile} (hnodup : (files.map (·.suite)).Nodup)
    {file : SuiteFile} (hfile : file ∈ files) : owner? files file.suite = some file := by
  cases howner : owner? files file.suite with
  | none => exact absurd rfl (owner?_eq_none_iff.mp howner file hfile)
  | some other =>
    obtain ⟨hother, hsame⟩ := owner?_eq_some howner
    rw [List.inj_on_of_nodup_map hnodup hother hfile hsame]

/-- When no suite is named twice, a suite is declared by its owner alone. -/
theorem declared_definitions {disk : Disk} {files : List SuiteFile}
    (hnodup : (files.map (·.suite)).Nodup) (suite : String) :
    Registry.declared (definitions disk files) suite =
      ((owner? files suite).map (·.held disk)).getD [] := by
  induction files with
  | nil => rfl
  | cons file rest ih =>
    rw [List.map_cons, List.nodup_cons] at hnodup
    obtain ⟨hhead, hrest⟩ := hnodup
    have hfirst : Registry.declared (definitions disk (file :: rest)) suite =
        (file.held disk).filter (·.suite = suite) ++
          Registry.declared (definitions disk rest) suite := by
      simp only [definitions, List.filterMap_cons, SuiteFile.held]
      cases file.load disk with
      | ok definition => exact Registry.declared_cons _ _ _
      | error e => rfl
    rw [hfirst, ih hrest]
    by_cases hsuite : file.suite = suite
    · have hall : (file.held disk).filter (·.suite = suite) = file.held disk := by
        rw [List.filter_eq_self]
        intro exclusion hmem
        simpa [hsuite] using SuiteFile.suite_of_mem_held hmem
      have hnone : owner? rest suite = none := by
        rw [owner?_eq_none_iff]
        intro other hother heq
        exact hhead (hsuite ▸ heq ▸ List.mem_map_of_mem hother)
      rw [hall, hnone]
      simp [owner?, hsuite]
    · have hnil : (file.held disk).filter (·.suite = suite) = [] := by
        rw [List.filter_eq_nil_iff]
        intro exclusion hmem
        simpa [SuiteFile.suite_of_mem_held hmem] using hsuite
      rw [hnil]
      simp [owner?, hsuite]

/-! ## The load -/

/-- What a registry holds after the files of a list have been loaded. -/
structure Holds (disk : Disk) (files : List SuiteFile) (registry : Registry) : Prop where
  wellFormed : registry.WellFormed
  exclusionsOf : ∀ suite, registry.exclusionsOf suite =
    ((owner? files suite).map (·.held disk)).getD []
  containsSuite : ∀ suite, registry.containsSuite suite ↔
    ∃ file definition, owner? files suite = some file ∧ file.load disk = .ok definition

section Congr
variable {disk other : Disk} {files files' : List SuiteFile} {registry registry' : Registry}
  (h : Holds disk files registry) (h' : Holds other files' registry')
include h h'

/-- What is held of a suite depends on nothing but its owner. -/
theorem Holds.suite_congr {suite : String} (howner : owner? files' suite = owner? files suite)
    (hload : ∀ file, owner? files suite = some file → file.load other = file.load disk) :
    (registry'.containsSuite suite ↔ registry.containsSuite suite) ∧
      registry'.exclusionsOf suite = registry.exclusionsOf suite := by
  rw [h'.containsSuite, h.containsSuite, h'.exclusionsOf, h.exclusionsOf, howner]
  constructor
  · refine exists_congr fun file => exists_congr fun definition => ?_
    exact and_congr_right fun hfile => by rw [hload file hfile]
  · cases hfile : owner? files suite with
    | none => rfl
    | some file => simp [SuiteFile.held, hload file hfile]

/-- Two loads hold the same if every suite has the same owner and the owner declares the same. -/
theorem Holds.unique (howner : ∀ suite, owner? files' suite = owner? files suite)
    (hload : ∀ suite file, owner? files suite = some file → file.load other = file.load disk) :
    registry' = registry :=
  Registry.ext_of_wellFormed h'.wellFormed h.wellFormed
    (fun suite => (h.suite_congr h' (howner suite) (hload suite)).1)
    fun suite => (h.suite_congr h' (howner suite) (hload suite)).2

end Congr

/-- The files that claim their suites make up a registry. -/
theorem ofDefinitions_claim (disk : Disk) (found : List SuiteFile) :
    ∃ registry, Registry.ofDefinitions (definitions disk (claim [] found).1) = .ok registry ∧
      Holds disk found registry := by
  have howner : ∀ suite, owner? (claim [] found).1 suite = owner? found suite := by
    intro suite
    simp [owner?, find?_claim]
  obtain ⟨hnodup, -⟩ := nodup_claim [] found
  have hdeclared : ∀ suite, Registry.declared (definitions disk (claim [] found).1) suite = _ :=
    declared_definitions hnodup
  have hok : (∃ registry, Registry.ofDefinitions (definitions disk (claim [] found).1) =
      .ok registry) ↔ _ :=
    Registry.defineAll_isOk_iff Registry.wellFormed_empty
  have hdistinct : ∀ suite, ((Registry.empty.exclusionsOf suite ++
      Registry.declared (definitions disk (claim [] found).1) suite).map (·.testId)).Nodup := by
    intro suite
    have hempty : Registry.empty.exclusionsOf suite = [] := rfl
    rw [hempty, List.nil_append, hdeclared]
    cases owner? (claim [] found).1 suite with
    | none => exact List.nodup_nil
    | some file => exact SuiteFile.nodup_held file disk
  obtain ⟨registry, hregistry⟩ := hok.mpr hdistinct
  have hgrown := Registry.grown_of_defineAll Registry.wellFormed_empty hregistry
  refine ⟨registry, hregistry, hgrown.wellFormed, fun suite => ?_, fun suite => ?_⟩
  · rw [hgrown.exclusionsOf, hdeclared, howner]
    rfl
  · rw [hgrown.containsSuite, ← howner]
    constructor
    · rintro (hempty | ⟨definition, hmem, rfl⟩)
      · cases hempty
      · obtain ⟨file, hfile, hload⟩ := mem_definitions.mp hmem
        rw [SuiteFile.suite_of_load hload]
        exact ⟨file, definition, owner?_of_mem hnodup hfile, hload⟩
    · rintro ⟨file, definition, hfile, hload⟩
      obtain ⟨hmem, rfl⟩ := owner?_eq_some hfile
      exact .inr ⟨definition, mem_definitions.mpr ⟨file, hmem, hload⟩,
        SuiteFile.suite_of_load hload⟩

/-- Two disks load alike if the same files are found and load alike. -/
theorem load_congr {disk other : Disk} {root : Path} {found : List SuiteFile}
    (hfound : disk.suiteFiles root = .ok found) (hfound' : other.suiteFiles root = .ok found)
    (hload : ∀ file ∈ found, file.load other = file.load disk) (mode : LoadMode) :
    other.load mode root = disk.load mode root := by
  have hread : readAll other (claim [] found).1 = readAll disk (claim [] found).1 :=
    readAll_congr fun file hfile => hload file ((claim_sublist [] found).subset hfile)
  unfold Disk.load
  rw [hfound, hfound']
  simp only [bind, Except.bind, hread]

/-- What strict loading asks of the files. -/
def Sound (disk : Disk) (found : List SuiteFile) : Prop :=
  (found.map (·.suite)).Nodup ∧ ∀ file ∈ found, ∃ definition, file.load disk = .ok definition

theorem sound_iff {disk : Disk} {found : List SuiteFile} :
    Sound disk found ↔
      (claim [] found).2 = [] ∧ (readAll disk (claim [] found).1).2 = [] := by
  have hfailures : (claim [] found).2 = [] ↔ (found.map (·.suite)).Nodup := by
    simp [claim_failures_eq_nil_iff]
  rw [readAll_failures_eq_nil_iff]
  constructor
  · rintro ⟨hnodup, hload⟩
    have hnil := hfailures.mpr hnodup
    rw [claim_of_failures hnil]
    exact ⟨hnil, hload⟩
  · rintro ⟨hnil, hload⟩
    rw [claim_of_failures hnil] at hload
    exact ⟨hfailures.mp hnil, hload⟩

/-- A load of a disk succeeds and gives a registry. -/
def Loads (disk : Disk) (mode : LoadMode) (root : Path) (registry : Registry) : Prop :=
  ∃ loaded, disk.load mode root = .ok loaded ∧ loaded.registry = registry

theorem loads_iff_toOption {disk : Disk} {mode : LoadMode} {root : Path} {registry : Registry} :
    Loads disk mode root registry ↔
      (disk.load mode root).toOption.map (·.registry) = some registry := by
  unfold Loads
  cases disk.load mode root <;> simp [Except.toOption]

instance (disk : Disk) (mode : LoadMode) (root : Path) (registry : Registry) :
    Decidable (Loads disk mode root registry) := decidable_of_iff _ loads_iff_toOption.symm

/-- A load succeeds if the root is a directory and, in strict mode, its files are sound; what it
holds does not depend on the mode. -/
theorem loads_iff {disk : Disk} {mode : LoadMode} {root : Path} {registry : Registry} :
    Loads disk mode root registry ↔ ∃ found, disk.suiteFiles root = .ok found ∧
      (mode = .strict → Sound disk found) ∧ Holds disk found registry := by
  unfold Loads Disk.load
  cases hfound : disk.suiteFiles root with
  | error e => simp [bind, Except.bind]
  | ok found =>
    obtain ⟨held, hheld, hholds⟩ := ofDefinitions_claim disk found
    rw [← map_readAll] at hheld
    have hsame : Holds disk found registry ↔ held = registry := by
      constructor
      · intro h
        exact h.unique hholds (fun _ => rfl) fun _ _ _ => rfl
      · rintro rfl
        exact hholds
    simp only [Except.ok.injEq, exists_eq_left', hsame]
    cases mode with
    | bestEffort =>
      simp [bind, Except.bind, pure, Except.pure, hheld]
    | strict =>
      rw [sound_iff]
      cases hdoubled : (claim [] found).2 with
      | cons first more => simp [bind, Except.bind, hdoubled, throw, throwThe, MonadExceptOf.throw]
      | nil =>
        cases hunloadable : (readAll disk (claim [] found).1).2 with
        | cons first more =>
          simp [bind, Except.bind, hdoubled, hunloadable, throw, throwThe, MonadExceptOf.throw]
        | nil => simp [bind, Except.bind, pure, Except.pure, hdoubled, hunloadable, hheld]

/-- Whatever is loaded, its registry holds what the files that are found declare. -/
theorem holds_of_load {disk : Disk} {mode : LoadMode} {root : Path} {loaded : Loaded}
    (h : disk.load mode root = .ok loaded) :
    ∃ found, disk.suiteFiles root = .ok found ∧ Holds disk found loaded.registry := by
  obtain ⟨found, hfound, -, hholds⟩ := loads_iff.mp ⟨loaded, h, rfl⟩
  exact ⟨found, hfound, hholds⟩

end Load
end TestExclusions
