import TestExclusions.Proofs.Command.NewFile
import TestExclusions.Proofs.Line.Append
import TestExclusions.Proofs.Listing
import TestExclusions.Proofs.Load

/-! What adding an exclusion does to a disk. A refused addition may leave directories behind, an
accepted one writes a single file: the text that its path had before, and one more line. -/
namespace TestExclusions

/-! ## Actions -/

namespace Action
variable {α β ε : Type}

theorem run_bind (first : Action α) (next : α → Action β) (disk : Disk) :
    (first >>= next).run disk = match first.run disk with
      | (.ok a, changed) => (next a).run changed
      | (.error e, changed) => (.error e, changed) := by
  change (match first disk with | (r, changed) => (ExceptT.bindCont next r) changed) = _
  rcases h : first disk with ⟨r, changed⟩
  cases r with
  | error e => simp [ExceptT.run, h]; rfl
  | ok a => simp [ExceptT.run, h]; rfl

theorem run_get (disk : Disk) : (get : Action Disk).run disk = (.ok disk, disk) := rfl

theorem run_set (next disk : Disk) : (set next : Action Unit).run disk = (.ok (), next) := rfl

theorem run_require (result : Except ε α) (error : ε → CommandError) (disk : Disk) :
    (require result error).run disk = (result.mapError error, disk) := by
  cases result <;> rfl

end Action

namespace Command
open Disk (AddsDirectories FoundAt Grows Writes)

/-! ## Texts -/

/-- The line that an exclusion adds to a text. -/
def addedTo (text : String) (testId reason : String) : String :=
  appendLine text (Line.render ⟨testId, reason, none⟩)

theorem toList_addedTo (text testId reason : String) :
    (addedTo text testId reason).toList = text.toList ++
      (Line.missingEnd text.toList ++ (Line.write ⟨testId, reason, none⟩ ++ ['\n'])) := by
  have hend : (if text = "" || text.toList.getLast? = some '\n' then "" else "\n").toList =
      Line.missingEnd text.toList := by
    unfold Line.missingEnd
    by_cases hempty : text = ""
    · simp [hempty]
    · by_cases hlast : text.toList.getLast? = some '\n'
      · simp [hlast]
      · simp [hempty, hlast]
  rw [addedTo, appendLine]
  simp only [String.toList_append, hend, Line.render, String.toList_ofList, List.append_assoc]
  simp

/-- The records that stand in a text stay, and the added one comes behind them. -/
theorem parseUnit_addedTo {label text : String} {records : List Record}
    (h : Line.parseUnit label text = .ok records) (testId reason : String) :
    ∃ number, ∀ other, Line.parseUnit other (addedTo text testId reason) =
      .ok (records ++ [⟨testId, reason, some number⟩]) := by
  obtain ⟨number, hnumber⟩ :=
    Line.readAll_append_write (Line.parseUnit_eq_ok_iff.mp h) ⟨testId, reason, none⟩
  refine ⟨number, fun other => ?_⟩
  rw [Line.parseUnit_eq_ok_iff, toList_addedTo, hnumber]
  rfl

/-- The text of a path: that of a file, or none where nothing stands. -/
theorem textOrEmpty_eq_ok {disk : Disk} {path : Path} {text : String}
    (h : textOrEmpty disk path = .ok text) :
    disk.readText path = .ok text ∨ disk.readText path = .error .notFound ∧ text = "" := by
  unfold textOrEmpty at h
  split at h
  · rename_i hmissing
    cases h
    exact .inr ⟨hmissing, rfl⟩
  · exact .inl h

/-! ## Plans -/

/-- What an accepted plan has checked. -/
structure Planned (disk : Disk) (root : Path) (mode : LoadMode) (suite testId reason : String)
    (path : Path) (old : String) (records : List Record) : Prop where
  name : suiteNameFault? suite = none
  loaded : ∃ loaded, disk.load mode root = .ok loaded ∧
    loaded.registry.reason? suite testId = none
  target : ∃ found, disk.suiteFiles root = .ok found ∧ targetFile found root suite = .ok path
  named : SuiteFile.suiteName? root path = some suite
  text : textOrEmpty disk path = .ok old
  parsed : Line.parseUnit path.text old = .ok records
  fresh : testId ∉ records.map (·.testId)

theorem loadFor_eq_ok_iff {disk : Disk} {mode : LoadMode} {root : Path} {loaded : Loaded} :
    disk.loadFor mode root = .ok loaded ↔ disk.load mode root = .ok loaded := by
  unfold Disk.loadFor
  cases disk.load mode root <;> simp

theorem planned_of_plan {disk : Disk} {root : Path} {mode : LoadMode}
    {suite testId reason text : String} {path : Path}
    (h : plan disk root mode suite testId reason = .ok (path, text)) :
    ∃ old records, Planned disk root mode suite testId reason path old records ∧
      text = addedTo old testId reason := by
  unfold plan at h
  split at h
  · cases h
  · rename_i hname
    obtain ⟨loaded, hloaded, h⟩ := Outcome.bind_eq_ok_iff.mp h
    split at h
    · cases h
    · rename_i hreason
      obtain ⟨found, hfound, h⟩ := Outcome.bind_eq_ok_iff.mp h
      obtain ⟨target, htarget, h⟩ := Outcome.bind_eq_ok_iff.mp h
      split at h
      · cases h
      · rename_i hnamed
        obtain ⟨old, htext, h⟩ := Outcome.bind_eq_ok_iff.mp h
        obtain ⟨records, hparsed, h⟩ := Outcome.bind_eq_ok_iff.mp h
        split at h
        · cases h
        · rename_i hfresh
          cases h
          refine ⟨old, records, ⟨?_, ⟨loaded, loadFor_eq_ok_iff.mp hloaded, ?_⟩,
            ⟨found, Outcome.mapError_eq_ok_iff.mp hfound, htarget⟩, Decidable.not_not.mp hnamed,
            Outcome.mapError_eq_ok_iff.mp htext, Outcome.mapError_eq_ok_iff.mp hparsed, ?_⟩, rfl⟩
          · exact Option.eq_none_iff_forall_ne_some.mpr hname
          · exact Option.eq_none_iff_forall_ne_some.mpr hreason
          · simpa using hfresh

/-- Nothing else is checked. -/
theorem Planned.plan_eq {disk : Disk} {root : Path} {mode : LoadMode}
    {suite testId reason : String} {path : Path} {old : String} {records : List Record}
    (h : Planned disk root mode suite testId reason path old records) :
    plan disk root mode suite testId reason = .ok (path, addedTo old testId reason) := by
  obtain ⟨loaded, hloaded, hreason⟩ := h.loaded
  obtain ⟨found, hfound, htarget⟩ := h.target
  have hfresh : records.any (·.testId = testId) = false := by simpa using h.fresh
  unfold plan
  rw [h.name, loadFor_eq_ok_iff.mpr hloaded, hfound]
  simp only [bind, Except.bind, pure, Except.pure, Except.mapError, hreason, htarget, h.named, ne_eq,
    not_true_eq_false, if_false, h.text, h.parsed, hfresh]
  rfl

/-- What is written lies below the root: it is the file of the suite, or that of a new one. -/
theorem Planned.path_eq {disk : Disk} (hdisk : disk.WellFormed) {root : Path} {mode : LoadMode}
    {suite testId reason : String} {path : Path} {old : String} {records : List Record}
    (h : Planned disk root mode suite testId reason path old records) :
    ∃ names, names ≠ [] ∧ (∀ name ∈ names, Path.IsName name) ∧ path = root.enter names := by
  obtain ⟨found, hfound, htarget⟩ := h.target
  unfold targetFile at htarget
  split at htarget
  · rename_i unit hunit
    split at htarget
    · cases htarget
    · cases htarget
      obtain ⟨place, hroot, -⟩ := (Disk.suiteFiles_eq_ok_iff hdisk).mp hfound
      obtain ⟨hmem, -⟩ := Load.owner?_eq_some hunit
      obtain ⟨names, content, hat⟩ := (Disk.mem_suiteFiles hdisk hroot hfound).mp hmem
      exact ⟨names, hat.nonempty, Disk.isName_of_get?_append hdisk hat.content,
        SuiteFile.path_of_ofNames? hat.named⟩
  · cases htarget
    exact ⟨newFileNames suite, newFileNames_ne_nil h.name, isName_of_mem_newFileNames h.name, rfl⟩

/-! ## Runs -/

theorem run_write_cases {α : Type} {made after : Disk} {path : Path} {content : ByteArray}
    {failed : FileError → CommandError} (output : α) {result : Except CommandError α}
    (h : (do
      let disk ← Action.require ((← get).write path content) failed
      set disk
      return output : Action α).run made = (result, after)) :
    (∃ cause, made.write path content = .error cause ∧ result = .error (failed cause) ∧
        after = made) ∨
      made.write path content = .ok after ∧ result = .ok output := by
  rw [Action.run_bind, Action.run_get] at h
  dsimp only at h
  rw [Action.run_bind, Action.run_require] at h
  cases hwrite : made.write path content with
  | error e =>
    rw [hwrite] at h
    cases h
    exact .inl ⟨e, rfl, rfl, rfl⟩
  | ok next =>
    rw [hwrite] at h
    cases h
    exact .inr ⟨rfl, rfl⟩

/-- A file is written after the directories above it have been made, which stay when it cannot be. -/
theorem run_create_cases {α : Type} {disk after : Disk} {path : Path} {content : ByteArray}
    {failed : FileError → CommandError} (output : α) {result : Except CommandError α}
    (h : (do
      if let some parent := path.parent? then
        let (disk, made) := (← get).makeDirectories parent
        set disk
        Action.require made (.notCreated parent)
      let disk ← Action.require ((← get).write path content) failed
      set disk
      return output : Action α).run disk = (result, after)) :
    (∃ parent cause, path.parent? = some parent ∧ (disk.makeDirectories parent).2 = .error cause ∧
        result = .error (.notCreated parent cause) ∧ after = disk.prepared path) ∨
      (∃ cause, (disk.prepared path).write path content = .error cause ∧
        result = .error (failed cause) ∧ after = disk.prepared path) ∨
      (disk.prepared path).write path content = .ok after ∧ result = .ok output := by
  split at h
  · rename_i parent hparent
    have hmade : disk.prepared path = (disk.makeDirectories parent).1 := by
      rw [Disk.prepared, hparent]
    rw [Action.run_bind, Action.run_get] at h
    dsimp only at h
    rw [Action.run_bind, Action.run_set] at h
    dsimp only at h
    rw [Action.run_bind, Action.run_require, ← hmade] at h
    cases hresult : (disk.makeDirectories parent).2 with
    | error e =>
      rw [hresult] at h
      cases h
      exact .inl ⟨parent, e, hparent, hresult, rfl, rfl⟩
    | ok _ =>
      rw [hresult] at h
      exact .inr (run_write_cases output h)
  · rename_i hparent
    have hmade : disk.prepared path = disk := by
      rw [Disk.prepared, Option.eq_none_iff_forall_ne_some.mpr hparent]
    rw [hmade]
    exact .inr (run_write_cases output h)

/-- What has been planned is carried out. -/
theorem run_of_runAdd {disk after : Disk} {root : Path} {mode : LoadMode}
    {suite testId reason : String} {result : Except CommandError Output}
    (h : (runAdd root mode suite testId reason).run disk = (result, after)) :
    (∃ e, plan disk root mode suite testId reason = .error e ∧ result = .error e ∧ after = disk) ∨
      ∃ path text, plan disk root mode suite testId reason = .ok (path, text) ∧
        ((∃ parent cause, path.parent? = some parent ∧
            (disk.makeDirectories parent).2 = .error cause ∧
            result = .error (.notCreated parent cause) ∧ after = disk.prepared path) ∨
          (∃ cause, (disk.prepared path).write path text.toUTF8 = .error cause ∧
            result = .error (.notWritten path cause) ∧ after = disk.prepared path) ∨
          ∃ output, (disk.prepared path).write path text.toUTF8 = .ok after ∧
            result = .ok output) := by
  unfold runAdd at h
  rw [Action.run_bind, Action.run_get] at h
  dsimp only at h
  rw [Action.run_bind, Action.run_require] at h
  cases hplan : plan disk root mode suite testId reason with
  | error e =>
    rw [hplan] at h
    cases h
    exact .inl ⟨e, rfl, rfl, rfl⟩
  | ok planned =>
    obtain ⟨path, text⟩ := planned
    rw [hplan] at h
    refine .inr ⟨path, text, rfl, ?_⟩
    rcases run_create_cases _ h with hparent | hwrite | hwritten
    · exact .inl hparent
    · exact .inr (.inl hwrite)
    · exact .inr (.inr ⟨_, hwritten⟩)

/-- A directory that a file needs cannot be made, or the file cannot be written then. -/
def Unwritable (disk : Disk) (path : Path) (content : ByteArray) : Prop :=
  (∃ parent cause, path.parent? = some parent ∧ (disk.makeDirectories parent).2 = .error cause) ∨
    ∃ cause, (disk.prepared path).write path content = .error cause

/-- The directories of a file stay when it cannot be written. -/
theorem runAdd_cases {disk after : Disk} (hdisk : disk.WellFormed) {root : Path} {mode : LoadMode}
    {suite testId reason : String} {result : Except CommandError Output}
    (h : (runAdd root mode suite testId reason).run disk = (result, after)) :
    (∃ e, result = .error e) ∧
        ((∃ e, plan disk root mode suite testId reason = .error e) ∧ after = disk ∨
          ∃ path text, plan disk root mode suite testId reason = .ok (path, text) ∧
            Unwritable disk path text.toUTF8 ∧ after = disk.prepared path) ∨
      ∃ output path text written, result = .ok output ∧
        plan disk root mode suite testId reason = .ok (path, text) ∧
        Writes (disk.prepared path) path text.toUTF8 written after := by
  rcases run_of_runAdd h with ⟨e, hplan, hresult, hafter⟩ | ⟨path, text, hplan,
    ⟨parent, cause, hparent, hmade, hresult, hafter⟩ | ⟨cause, hwrite, hresult, hafter⟩ |
    ⟨output, hwrite, hresult⟩⟩
  · exact .inl ⟨⟨e, hresult⟩, .inl ⟨⟨e, hplan⟩, hafter⟩⟩
  · exact .inl ⟨⟨_, hresult⟩, .inr ⟨path, text, hplan, .inl ⟨parent, cause, hparent, hmade⟩, hafter⟩⟩
  · exact .inl ⟨⟨_, hresult⟩, .inr ⟨path, text, hplan, .inr ⟨cause, hwrite⟩, hafter⟩⟩
  · obtain ⟨-, hprepared⟩ := Disk.furnishes_prepared disk path hdisk
    obtain ⟨written, hwrites⟩ := Disk.writes_of_write hprepared hwrite
    exact .inr ⟨output, path, text, written, hresult, hplan, hwrites⟩

end Command
end TestExclusions
