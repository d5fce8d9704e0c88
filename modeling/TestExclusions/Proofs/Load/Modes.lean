import TestExclusions.Proofs.Load.Discovery
import TestExclusions.Proofs.Load.Failures

/-! The two modes of loading. A strict load gives what a best-effort load gives if that leaves no
file out, and otherwise one of its failures as the error. -/
namespace TestExclusions.Load
open Sorted (Increasing)

/-! ## The failure that is reported -/

/-- A file fails because its suite belongs to another one. -/
def isDoubled (failure : LoadFailure) : Bool :=
  match failure.error with
  | .duplicateSuite .. => true
  | _ => false

/-- A failure of some kind with the smallest path among all of that kind. -/
structure Least (failures : List LoadFailure) (kind : LoadFailure → Prop)
    (failure : LoadFailure) : Prop where
  mem : failure ∈ failures
  ofKind : kind failure
  least : ∀ other ∈ failures, kind other → other.path.compare failure.path ≠ .lt

/-- The failure that a strict load reports: the least one of a doubled suite or, if no suite is
doubled, the least of all. -/
inductive Reported (failures : List LoadFailure) (failure : LoadFailure) : Prop
  | doubled (hleast : Least failures (isDoubled ·) failure)
  | unloadable (hnone : ∀ other ∈ failures, ¬isDoubled other)
      (hleast : Least failures (fun _ => True) failure)

/-- The first failure of a doubled suite, or else the first of all. -/
def foremost? (failures : List LoadFailure) : Option LoadFailure :=
  (failures.find? isDoubled).or failures.head?

theorem foremost?_eq_none_iff {failures : List LoadFailure} :
    foremost? failures = none ↔ failures = [] := by
  rw [foremost?, Option.or_eq_none_iff, List.head?_eq_none_iff]
  constructor
  · rintro ⟨-, hnil⟩
    exact hnil
  · rintro rfl
    exact ⟨rfl, rfl⟩

theorem least_of_find? {failures : List LoadFailure}
    (h : Increasing (·.path.components) failures) {kind : LoadFailure → Bool}
    {failure : LoadFailure} (hfind : failures.find? kind = some failure) :
    Least failures (kind ·) failure := by
  refine ⟨List.mem_of_find?_eq_some hfind, List.find?_some hfind, fun other hother hkind hlt => ?_⟩
  rw [Path.compare_eq_lt_iff] at hlt
  exact not_lt_of_ge (h.le_of_find? hfind hother hkind) hlt

theorem reported_of_foremost? {failures : List LoadFailure}
    (h : Increasing (·.path.components) failures) {failure : LoadFailure}
    (hforemost : foremost? failures = some failure) : Reported failures failure := by
  rcases Option.or_eq_some_iff.mp hforemost with hfind | ⟨hnone, hhead⟩
  · exact .doubled (least_of_find? h hfind)
  · have hfind : failures.find? (fun _ => true) = some failure := by
      rw [← List.head?_filter, List.filter_true, hhead]
    have hleast := least_of_find? h hfind
    exact .unloadable (List.find?_eq_none.mp hnone)
      ⟨hleast.mem, trivial, fun other hother _ => hleast.least other hother rfl⟩

theorem checkFrom_not_duplicateSuite {definition : Definition} {seen rest : List Record}
    {suite : String} {first second : Path} :
    definition.checkFrom seen rest ≠ .error (.duplicateSuite suite first second) := by
  induction rest generalizing seen with
  | nil => simp [Definition.checkFrom]
  | cons record rest ih =>
    rw [Definition.checkFrom]
    split
    · simp
    · exact ih

theorem parse_not_duplicateSuite {format : Format} {label text suite : String}
    {first second : Path} :
    format.parse label text ≠ .error (.duplicateSuite suite first second) := by
  cases format with
  | lines =>
    rw [Format.parse, Line.parseUnit]
    split <;> simp
  | manifest =>
    rw [Format.parse, Manifest.parseUnit]
    split <;> simp

/-- No file fails to load because of another one. -/
theorem load_not_duplicateSuite {disk : Disk} {file : SuiteFile} {suite : String}
    {first second : Path} : file.load disk ≠ .error (.duplicateSuite suite first second) := by
  intro h
  unfold SuiteFile.load at h
  split at h
  · cases h
  · rcases Outcome.bind_eq_error_iff.mp h with hparse | ⟨records, -, h⟩
    · exact parse_not_duplicateSuite hparse
    · rcases Outcome.bind_eq_error_iff.mp h with hcheck | ⟨_, -, h⟩
      · exact checkFrom_not_duplicateSuite hcheck
      · cases h

theorem isDoubled_of_doubled? {found : List SuiteFile} {file : SuiteFile} {failure : LoadFailure}
    (h : doubled? found file = some failure) : isDoubled failure = true := by
  obtain ⟨first, -, -, rfl⟩ := doubled?_eq_some_iff.mp h
  rfl

theorem isDoubled_of_unloadable? {disk : Disk} {file : SuiteFile} {failure : LoadFailure}
    (h : unloadable? disk file = some failure) : isDoubled failure = false := by
  obtain ⟨e, hload, rfl⟩ := unloadable?_eq_some_iff.mp h
  unfold isDoubled
  split
  · rename_i heq
    cases heq
    exact absurd hload load_not_duplicateSuite
  · rfl

theorem filter_isDoubled (disk : Disk) (found : List SuiteFile) :
    (found.filterMap (failure? disk found)).filter isDoubled =
      found.filterMap (doubled? found) := by
  rw [List.filter_filterMap]
  refine List.filterMap_congr fun file _ => ?_
  unfold failure?
  cases hdoubled : doubled? found file with
  | some failure => simp [isDoubled_of_doubled? hdoubled]
  | none =>
    cases hunloadable : unloadable? disk file with
    | none => rfl
    | some failure => simp [isDoubled_of_unloadable? hunloadable]

theorem filter_not_isDoubled (disk : Disk) (found : List SuiteFile) :
    (found.filterMap (failure? disk found)).filter (!isDoubled ·) =
      (found.filter fun file => doubled? found file = none).filterMap (unloadable? disk) := by
  rw [List.filter_filterMap, List.filterMap_filter]
  refine List.filterMap_congr fun file _ => ?_
  unfold failure?
  cases hdoubled : doubled? found file with
  | some failure => simp [isDoubled_of_doubled? hdoubled]
  | none =>
    cases hunloadable : unloadable? disk file with
    | none => rfl
    | some failure => simp [isDoubled_of_unloadable? hunloadable]

section Found
variable {disk : Disk} {root : Path} {found : List SuiteFile}
  (hfound : Increasing (·.path.components) found) (hsuiteFiles : disk.suiteFiles root = .ok found)
include hfound hsuiteFiles

/-- The first pass fails the files whose suites belong to others, and the second one those that
cannot be loaded. -/
theorem failures_of_passes {loaded : Loaded} (h : disk.load .bestEffort root = .ok loaded) :
    (claim [] found).2 = loaded.failures.filter isDoubled ∧
      (readAll disk (claim [] found).1).2 = loaded.failures.filter (!isDoubled ·) := by
  rw [(separates_of_load hfound hsuiteFiles h).failures, filter_isDoubled, filter_not_isDoubled,
    readAll_failures, claim_found hfound]
  exact ⟨rfl, rfl⟩

/-- In strict mode, the failure that matters most is the error. -/
theorem load_strict {loaded : Loaded} (h : disk.load .bestEffort root = .ok loaded) :
    disk.load .strict root = match foremost? loaded.failures with
      | some failure => .error failure.error
      | none => .ok loaded := by
  obtain ⟨hdoubled, hunloadable⟩ := failures_of_passes hfound hsuiteFiles h
  have hfirst : loaded.failures.find? isDoubled = (claim [] found).2.head? := by
    rw [hdoubled, List.head?_filter]
  cases hclaim : (claim [] found).2 with
  | cons first more =>
    rw [foremost?, hfirst, hclaim]
    simp [Disk.load, hsuiteFiles, hclaim, bind, Except.bind, throw, throwThe, MonadExceptOf.throw]
  | nil =>
    have hall : loaded.failures.filter (!isDoubled ·) = loaded.failures := by
      rw [hclaim, eq_comm, List.filter_eq_nil_iff] at hdoubled
      rw [List.filter_eq_self]
      exact fun failure hfailure => by simpa using hdoubled failure hfailure
    rw [hall] at hunloadable
    rw [foremost?, hfirst, hclaim, List.head?_nil, Option.none_or]
    cases hread : loaded.failures with
    | cons first more =>
      simp [Disk.load, hsuiteFiles, hclaim, hunloadable, hread, bind, Except.bind, throw, throwThe,
        MonadExceptOf.throw]
    | nil =>
      rw [hread] at hunloadable
      simpa [Disk.load, hsuiteFiles, hclaim, hunloadable, bind, Except.bind, pure, Except.pure]
        using h

end Found

section Disk
variable {disk : Disk} (hdisk : disk.WellFormed) {root : Path}
include hdisk

/-- A strict load succeeds exactly if a best-effort load leaves no file out, and gives the same. -/
theorem load_strict_eq_ok_iff {loaded : Loaded} : disk.load .strict root = .ok loaded ↔
    disk.load .bestEffort root = .ok loaded ∧ loaded.failures = [] := by
  cases hsuiteFiles : disk.suiteFiles root with
  | error e =>
    rw [load_of_suiteFiles_error hsuiteFiles, load_of_suiteFiles_error hsuiteFiles]
    simp
  | ok found =>
    have hfound := Disk.increasing_of_suiteFiles hdisk hsuiteFiles
    obtain ⟨all, hall, -⟩ := load_bestEffort hfound hsuiteFiles
    rw [load_strict hfound hsuiteFiles hall, hall, Except.ok.injEq]
    cases hforemost : foremost? all.failures with
    | none =>
      have hnil := foremost?_eq_none_iff.mp hforemost
      constructor
      · rintro h
        cases h
        exact ⟨rfl, hnil⟩
      · rintro ⟨rfl, -⟩
        rfl
    | some failure =>
      have hfailures : all.failures ≠ [] := by
        intro hnil
        rw [foremost?_eq_none_iff.mpr hnil] at hforemost
        cases hforemost
      constructor
      · intro h
        cases h
      · rintro ⟨rfl, hnil⟩
        exact absurd hnil hfailures

/-- The error of a strict load is the reported failure of a best-effort load, if that succeeds. -/
theorem reported_of_load_strict {error : LoadError} (herror : disk.load .strict root = .error error)
    {loaded : Loaded} (hloaded : disk.load .bestEffort root = .ok loaded) :
    ∃ failure, Reported loaded.failures failure ∧ failure.error = error := by
  cases hsuiteFiles : disk.suiteFiles root with
  | error e =>
    rw [load_of_suiteFiles_error hsuiteFiles] at hloaded
    cases hloaded
  | ok found =>
    have hfound := Disk.increasing_of_suiteFiles hdisk hsuiteFiles
    have hincreasing := increasing_failures hfound disk
    rw [← (separates_of_load hfound hsuiteFiles hloaded).failures] at hincreasing
    rw [load_strict hfound hsuiteFiles hloaded] at herror
    cases hforemost : foremost? loaded.failures with
    | none =>
      rw [hforemost] at herror
      cases herror
    | some failure =>
      rw [hforemost] at herror
      cases herror
      exact ⟨failure, reported_of_foremost? hincreasing hforemost, rfl⟩

end Disk

end TestExclusions.Load
