import TestExclusions.Command.Run
import TestExclusions.Proofs.Command.Add

/-! What a refused addition leaves behind. It can only be directories, and only if the first name that
is missing on the way to the file of a new suite can be made and a later one is too long. -/
namespace TestExclusions

namespace Disk

/-- On the way along names from a root, the first one that leads to no directory is free, but one
behind it is too long to stand on a disk. -/
def Stranded (disk : Disk) (root : Path) (names : List Bytes) : Prop :=
  ∃ front name rest directory, names = front ++ name :: rest ∧
    disk.directory? (root.enter front) = some directory ∧
    disk.get? (directory ++ [name]) = none ∧ name.length ≤ Path.maxNameBytes ∧
    ∃ later ∈ rest, Path.maxNameBytes < later.length

theorem enter_append_cons (root : Path) (front : List Bytes) (name : Bytes) (rest : List Bytes) :
    root.enter (front ++ name :: rest) = ((root.enter front).push name).enter rest := by
  rw [Path.enter_append]
  rfl

/-! ## What is made for a file -/

/-- Nothing has to be made for a file that is there. -/
theorem prepared_of_find {disk : Disk} (hdisk : disk.WellFormed) {root : Path}
    (hbytes : root.bytes ≠ []) {names : List Bytes} (hnil : names ≠ [])
    (hnames : ∀ name ∈ names, Path.IsName name) {place : Place}
    (h : disk.find (root.enter names) = .ok place) : disk.prepared (root.enter names) = disk := by
  obtain ⟨front, last, rfl⟩ := (List.eq_nil_or_concat' names).resolve_left hnil
  obtain ⟨hfront, hlast⟩ := List.forall_mem_append.mp hnames
  have hlast : Path.IsName last := hlast last List.mem_cons_self
  rw [Path.enter_concat] at h ⊢
  obtain ⟨directory, hdirectory⟩ :=
    directory?_of_find_push (Path.bytes_enter_ne hfront hbytes) hlast h
  exact prepared_push hdisk hdirectory hlast

section Behind
variable {disk : Disk} (hdisk : disk.WellFormed) {path : Path} {directory : Place}
  (hpath : disk.directory? path = some directory) {name last : Bytes} {more : List Bytes}
  (hnames : ∀ other ∈ name :: (more ++ [last]), Path.IsName other)
  (hrefusal : ((path.push name).enter (more ++ [last])).refusal? = none)
include hdisk hpath hnames hrefusal

/-- The first directory that is missing is made for a file behind it. -/
theorem get?_prepared_free (hsize : name.length ≤ Path.maxNameBytes)
    (hfree : disk.get? (directory ++ [name]) = none) :
    (disk.prepared ((path.push name).enter (more ++ [last]))).get? (directory ++ [name]) =
      some .directory := by
  have hbytes := bytes_ne_of_directory? hpath
  obtain ⟨hname, hrest⟩ := List.forall_mem_cons.mp hnames
  have hmore := (List.forall_mem_append.mp (List.cons_append ▸ hnames)).1
  rw [prepared, Path.parent?_enter_concat hnames hbytes]
  exact get?_makeDirectories_free hpath hdisk hmore
    (Path.refusal?_enter_of_concat (Path.bytes_push_ne hname hbytes) hrest hrefusal) hsize hfree

/-- Nothing is made for a file behind a name that leads to no directory, but is too long or
taken. -/
theorem prepared_blocked (hnone : disk.directory? (path.push name) = none)
    (hblocked : Path.maxNameBytes < name.length ∨
      (disk.get? (directory ++ [name])).isSome) :
    disk.prepared ((path.push name).enter (more ++ [last])) = disk := by
  have hbytes := bytes_ne_of_directory? hpath
  obtain ⟨hname, hrest⟩ := List.forall_mem_cons.mp hnames
  have hmore := (List.forall_mem_append.mp (List.cons_append ▸ hnames)).1
  rw [prepared, Path.parent?_enter_concat hnames hbytes]
  exact makeDirectories_blocked hpath hdisk hmore
    (Path.refusal?_enter_of_concat (Path.bytes_push_ne hname hbytes) hrest hrefusal) hnone hblocked

/-- A file behind a free name can be written if no name on the way to it is too long. -/
theorem not_unwritable_free (hfree : disk.get? (directory ++ [name]) = none)
    (hsizes : ∀ other ∈ name :: (more ++ [last]), other.length ≤ Path.maxNameBytes)
    (content : ByteArray) :
    ¬Command.Unwritable disk ((path.push name).enter (more ++ [last])) content := by
  have hbytes := bytes_ne_of_directory? hpath
  obtain ⟨hname, hrest⟩ := List.forall_mem_cons.mp hnames
  obtain ⟨hmore, hlast⟩ := List.forall_mem_append.mp (List.cons_append ▸ hnames)
  obtain ⟨hsizes, hsize⟩ := List.forall_mem_append.mp (List.cons_append ▸ hsizes)
  have hrefusal' := Path.refusal?_enter_of_concat (Path.bytes_push_ne hname hbytes) hrest hrefusal
  obtain ⟨made, hmade, hwellFormed, hfound, hempty⟩ :=
    makeDirectories_free hpath hdisk hmore hrefusal' hfree hsizes
  have hparent := Path.parent?_enter_concat hnames hbytes
  rintro (⟨parent, cause, hother, hfails⟩ | ⟨cause, hfails⟩)
  · rw [hparent] at hother
    cases hother
    rw [hmade] at hfails
    cases hfails
  · rw [Path.enter_concat] at hrefusal
    obtain ⟨after, hafter⟩ := write_free hfound (hlast last List.mem_cons_self)
      (hsize last List.mem_cons_self) (hempty last) hrefusal content
    rw [prepared, hparent, Path.enter_concat] at hfails
    dsimp only at hfails
    rw [hmade, hafter] at hfails
    cases hfails

end Behind

section Names
variable {disk : Disk} (hdisk : disk.WellFormed) {root : Path} {names : List Bytes}
  (hnames : ∀ name ∈ names, Path.IsName name) (hrefusal : (root.enter names).refusal? = none)
include hdisk hnames hrefusal

/-- A directory is made that no file can be written behind. -/
theorem prepared_ne_of_stranded (h : disk.Stranded root names) :
    disk.prepared (root.enter names) ≠ disk := by
  obtain ⟨front, name, rest, directory, rfl, hfront, hfree, hsize, later, hlater, -⟩ := h
  obtain ⟨more, last, rfl⟩ :=
    (List.eq_nil_or_concat' rest).resolve_left (List.ne_nil_of_mem hlater)
  rw [enter_append_cons] at hrefusal ⊢
  have hmade := get?_prepared_free hdisk hfront (List.forall_mem_append.mp hnames).2 hrefusal
    hsize hfree
  intro heq
  rw [heq, hfree] at hmade
  cases hmade

/-- If no name is stranded, nothing is made for a file that cannot be written. -/
theorem prepared_eq_of_unwritable {place : Place} (hroot : disk.directory? root = some place)
    (hnil : names ≠ []) (h : ¬disk.Stranded root names) {content : ByteArray}
    (hfails : Command.Unwritable disk (root.enter names) content) :
    disk.prepared (root.enter names) = disk := by
  have hbytes := bytes_ne_of_directory? hroot
  rcases exists_first_missing hroot names with
    ⟨directory, hall⟩ | ⟨front, name, rest, directory, rfl, hfront, hnone⟩
  · exact prepared_of_find hdisk hbytes hnil hnames (directory?_eq_some_iff.mp hall).1
  · have hbehind := (List.forall_mem_append.mp hnames).2
    rw [enter_append_cons] at hrefusal hfails ⊢
    rcases List.eq_nil_or_concat' rest with rfl | ⟨more, last, rfl⟩
    · exact prepared_push hdisk hfront (hbehind name List.mem_cons_self)
    · by_cases hblocked : Path.maxNameBytes < name.length ∨
          (disk.get? (directory ++ [name])).isSome
      · exact prepared_blocked hdisk hfront hbehind hrefusal hnone hblocked
      · -- the name is free, so that all of them have to be short
        obtain ⟨hsize, hfree⟩ := not_or.mp hblocked
        have hsize := Nat.le_of_not_lt hsize
        have hfree := Option.not_isSome_iff_eq_none.mp hfree
        have hsizes : ∀ other ∈ name :: (more ++ [last]),
            other.length ≤ Path.maxNameBytes := by
          refine List.forall_mem_cons.mpr ⟨hsize, fun later hlater => ?_⟩
          by_contra hlong
          exact h ⟨front, name, _, directory, rfl, hfront, hfree, hsize, later, hlater,
            Nat.lt_of_not_le hlong⟩
        exact absurd hfails (not_unwritable_free hdisk hfront hbehind hrefusal hfree hsizes content)

end Names

end Disk

namespace Command

/-! ## Refused additions -/

/-- A path that has a text, or none yet, can be followed. -/
theorem refusal?_of_textOrEmpty {disk : Disk} {path : Path} (hpath : path.bytes ≠ [])
    {text : String} (h : textOrEmpty disk path = .ok text) : path.refusal? = none := by
  rcases textOrEmpty_eq_ok h with hread | ⟨hmissing, -⟩
  · obtain ⟨place, content, hfind, -⟩ := Disk.readText_eq_ok_iff.mp hread
    exact (Disk.locate_eq_ok_iff.mp (Disk.find_eq_ok_iff.mp hfind)).1
  · have hfind := Disk.readText_eq_notFound hmissing
    cases hrefusal : path.refusal? with
    | none => rfl
    | some e =>
      have hsame : e = .notFound := by
        simpa [Disk.find, Disk.locate, Disk.locateMoves, hrefusal] using hfind
      rw [hsame] at hrefusal
      exact absurd hrefusal (Disk.refusal?_ne_notFound hpath)

/-- What has no text yet is the file of a new suite. -/
theorem Planned.path_of_missing {disk : Disk} (hdisk : disk.WellFormed) {root : Path}
    {mode : LoadMode} {suite testId reason : String} {path : Path} {old : String}
    {records : List Record} (h : Planned disk root mode suite testId reason path old records)
    (hmissing : disk.readText path = .error .notFound) : path = newFile root suite := by
  obtain ⟨found, hfound, htarget⟩ := h.target
  unfold targetFile at htarget
  split at htarget
  · rename_i unit hunit
    split at htarget
    · cases htarget
    · cases htarget
      obtain ⟨place, hroot, -⟩ := (Disk.suiteFiles_eq_ok_iff hdisk).mp hfound
      obtain ⟨names, content, hat⟩ :=
        (Disk.mem_suiteFiles hdisk hroot hfound).mp (Load.owner?_eq_some hunit).1
      exact absurd hmissing (hat.readText_ne hdisk hroot)
  · cases htarget
    rfl

/-- There is no text behind a free name. -/
theorem textOrEmpty_of_stranded {disk : Disk} {root : Path} {names : List Bytes}
    (hnames : ∀ name ∈ names, Path.IsName name) (hrefusal : (root.enter names).refusal? = none)
    (h : disk.Stranded root names) : textOrEmpty disk (root.enter names) = .ok "" := by
  obtain ⟨front, name, rest, directory, rfl, hfront, hfree, hsize, later, hlater, -⟩ := h
  obtain ⟨hfind, hdirectory⟩ := Disk.directory?_eq_some_iff.mp hfront
  rw [Path.enter_append] at hrefusal ⊢
  obtain ⟨left, hleft⟩ :=
    Disk.locate_enter hfind (List.forall_mem_append.mp hnames).2 (by simp) hrefusal
  have hnil : rest.map Move.enter ≠ [] := by simpa using List.ne_nil_of_mem hlater
  have hclose : rest.map Move.enter ≠ [.close] := by
    intro h
    have hmem : Move.close ∈ rest.map Move.enter := by simp [h]
    simp at hmem
  rw [List.map_cons, Disk.walk_free hdirectory hsize hfree, if_neg hnil, if_neg hclose] at hleft
  simp [textOrEmpty, Disk.readText, Disk.read, Disk.find, hleft]

/-- An addition that has passed all checks fails if it is stranded. -/
theorem run_of_stranded {disk : Disk} (hdisk : disk.WellFormed) {root : Path} {mode : LoadMode}
    (verbosity : Nat) {suite testId reason old : String} {records : List Record}
    (hplanned : Planned disk root mode suite testId reason (newFile root suite) old records)
    (hstranded : disk.Stranded root (newFileNames suite)) :
    ∃ error, Invocation.run ⟨root, mode, verbosity, .add suite testId reason⟩ disk =
      (.error error, disk.prepared (newFile root suite)) := by
  obtain ⟨found, hfound, -⟩ := hplanned.target
  obtain ⟨place, hroot, -⟩ := (Disk.suiteFiles_eq_ok_iff hdisk).mp hfound
  have hbytes := Disk.bytes_ne_of_directory? hroot
  have hnames := isName_of_mem_newFileNames hplanned.name
  rcases hrun : Invocation.run ⟨root, mode, verbosity, .add suite testId reason⟩ disk with
    ⟨result, after⟩
  rcases runAdd_cases hdisk hrun with
    ⟨⟨error, rfl⟩, ⟨⟨e, hfails⟩, -⟩ | ⟨path, text, hplan, -, rfl⟩⟩ |
      ⟨_, path, text, written, -, hplan, hwrites⟩
  · rw [hplanned.plan_eq] at hfails
    cases hfails
  · rw [hplanned.plan_eq] at hplan
    cases hplan
    exact ⟨error, rfl⟩
  · -- a path that is written enters no name which is too long
    rw [hplanned.plan_eq] at hplan
    cases hplan
    obtain ⟨front, name, rest, _, hsplit, -, -, -, later, hlater, hlong⟩ := hstranded
    have hmem : later ∈ newFileNames suite := by
      rw [hsplit]
      exact List.mem_append_right _ (List.mem_cons_of_mem _ hlater)
    obtain ⟨-, hleads⟩ := Disk.locate_eq_ok_iff.mp (Disk.find_eq_ok_iff.mp hwrites.found)
    rw [newFile, Path.moves_enter hnames hbytes (newFileNames_ne_nil hplanned.name)] at hleads
    have hsize := hleads.size_le (List.mem_append_right _ (List.mem_map_of_mem hmem))
    omega

/-! ## A name that is too long by one byte -/

/-- An empty directory. -/
def bareDisk : Disk := ⟨[], [(["d"], .directory)], []⟩

/-- A text of so many letters. -/
def letters : Nat → String
  | 0 => ""
  | n + 1 => "a" ++ letters n

theorem toList_letters (n : Nat) : (letters n).toList = List.replicate n 'a' := by
  induction n with
  | zero => rfl
  | succ n ih => rw [letters, String.toList_append, ih, List.replicate_succ]; rfl

theorem utf8ByteSize_letters (n : Nat) : (letters n).utf8ByteSize = n := by
  induction n with
  | zero => rfl
  | succ n ih =>
    have hletter : "a".utf8ByteSize = 1 := rfl
    rw [letters, String.utf8ByteSize_append, ih, hletter, Nat.add_comm]

/-- A suite that needs a directory, with a file name of so many letters in it. -/
def nestedSuite (n : Nat) : String := "X::" ++ letters n

theorem segments_nestedSuite (n : Nat) : segments (nestedSuite n) = ["X", letters n] := by
  have htext : (nestedSuite n).toList = 'X' :: ':' :: ':' :: List.replicate n 'a' := by
    rw [nestedSuite, String.toList_append, toList_letters]
    rfl
  have hcolon : ':' ∉ List.replicate n 'a' := by simp [List.mem_replicate]
  have hsegments : segmentsOf (nestedSuite n).toList = [['X'], List.replicate n 'a'] := by
    rw [htext, segmentsOf, segmentsOf, segmentsOf_of_not_mem hcolon]
    · rfl
    · simp
  rw [segments, hsegments, ← toList_letters]
  simp

theorem newFileNames_nestedSuite (n : Nat) :
    newFileNames (nestedSuite n) = [Text.utf8 "X", Text.utf8 (letters n ++ ".rb")] := by
  rw [newFileNames, segments_nestedSuite]
  rfl

theorem suiteNameFault?_nestedSuite {n : Nat} (hn : n ≠ 0) :
    suiteNameFault? (nestedSuite n) = none := by
  have hfirst : segmentFault? "X" = none := by decide
  have hlast : segmentFault? (letters n) = none := by
    rw [segmentFault?_eq_none_iff, ← String.toList_inj.ne, toList_letters]
    simp [hn, List.mem_replicate, List.head?_replicate]
  simp [suiteNameFault?, segments_nestedSuite, hfirst, hlast]

theorem stranded_nestedSuite {n : Nat} (hlong : 252 < n) :
    bareDisk.Stranded ⟨"d"⟩ (newFileNames (nestedSuite n)) := by
  refine ⟨[], "X", [Text.utf8 (letters n ++ ".rb")], ["d"], newFileNames_nestedSuite n, by decide,
    rfl, by decide, _, List.mem_singleton_self _, ?_⟩
  have hextension : ".rb".utf8ByteSize = 3 := rfl
  rw [Text.length_utf8, String.utf8ByteSize_append, utf8ByteSize_letters, hextension,
    Path.maxNameBytes]
  omega

theorem refusal?_nestedSuite {n : Nat} (hn : n ≠ 0) (hshort : n ≤ 4088) :
    (newFile ⟨"d"⟩ (nestedSuite n)).refusal? = none := by
  have hfile : Path.IsName (Text.utf8 (letters n ++ ".rb")) :=
    isName_of_mem_newFileNames (suiteNameFault?_nestedSuite hn) _
      (by rw [newFileNames_nestedSuite]; simp)
  have hpath : newFile ⟨"d"⟩ (nestedSuite n) = ⟨Text.utf8 ("d/X/" ++ (letters n ++ ".rb"))⟩ := by
    rw [newFile, newFileNames_nestedSuite]
    change Path.push ⟨"d/X"⟩ (Text.utf8 (letters n ++ ".rb")) = _
    rw [Path.push, if_neg hfile.head?_ne, if_neg (by decide), Text.utf8_append "d/X/"]
    rfl
  have hbytes : "d/X/".utf8ByteSize + (n + ".rb".utf8ByteSize) = n + 7 := by
    rw [Nat.add_comm, Nat.add_assoc]
    rfl
  have hnul : 0 ∈ Text.utf8 ("d/X/" ++ (letters n ++ ".rb")) ↔
      '\x00' ∈ ("d/X/" ++ (letters n ++ ".rb")).toList :=
    Text.toUInt8_mem_utf8_iff (d := '\x00') (by decide)
  rw [hpath, Path.refusal?_eq_none_iff, hnul, Text.length_utf8]
  simp only [String.toList_append, toList_letters, String.utf8ByteSize_append,
    utf8ByteSize_letters, hbytes, Path.maxBytes]
  refine ⟨by simp, by simp [List.mem_replicate], by omega⟩

theorem planned_nestedSuite {n : Nat} (hlong : 252 < n) (hshort : n ≤ 4088) :
    Planned bareDisk ⟨"d"⟩ .strict (nestedSuite n) "t" "r" (newFile ⟨"d"⟩ (nestedSuite n)) "" [] := by
  have hname := suiteNameFault?_nestedSuite (by omega : n ≠ 0)
  have hmissing := textOrEmpty_of_stranded (isName_of_mem_newFileNames hname)
    (refusal?_nestedSuite (by omega) hshort) (stranded_nestedSuite hlong)
  exact ⟨hname, ⟨⟨.empty, [], []⟩, rfl, rfl⟩, ⟨[], rfl, rfl⟩, suiteName?_newFile _ hname,
    hmissing, rfl, by simp⟩

theorem get?_prepared_nestedSuite {n : Nat} (hn : n ≠ 0) (hshort : n ≤ 4088) :
    (bareDisk.prepared (newFile ⟨"d"⟩ (nestedSuite n))).get? ["d", "X"] = some .directory := by
  have hroot : bareDisk.directory? ⟨"d"⟩ = some [Text.utf8 "d"] := rfl
  have hfree : bareDisk.get? ([Text.utf8 "d"] ++ [Text.utf8 "X"]) = none := rfl
  have hnames := isName_of_mem_newFileNames (suiteNameFault?_nestedSuite hn)
  have hrefusal := refusal?_nestedSuite hn hshort
  rw [newFileNames_nestedSuite, ← List.nil_append [Text.utf8 (letters n ++ ".rb")]] at hnames
  rw [newFile, newFileNames_nestedSuite] at hrefusal ⊢
  have hmade := Disk.get?_prepared_free (by decide) hroot hnames hrefusal (by decide) hfree
  exact hmade

/-! ## What is left behind -/

/-- A refused addition makes directories at most, and leaves the disk as it was unless it has passed
all checks for the file of a new suite and is stranded on the way to it. -/
theorem failed_add_keeps_disk_iff {before after : Disk} (hdisk : before.WellFormed) {root : Path}
    {mode : LoadMode} {verbosity : Nat} {suite testId reason : String} {error : CommandError}
    (hrun : Invocation.run ⟨root, mode, verbosity, .add suite testId reason⟩ before =
      (.error error, after)) :
    before.AddsDirectories after ∧
    (after = before ↔ ¬∃ text,
      plan before root mode suite testId reason = .ok (newFile root suite, text) ∧
        before.Stranded root (newFileNames suite)) := by
  rcases runAdd_cases hdisk hrun with
    ⟨-, ⟨⟨e, hplan⟩, rfl⟩ | ⟨path, text, hplan, hfails, rfl⟩⟩ | ⟨output, _, _, _, hok, -⟩
  · refine ⟨.refl _, iff_of_true rfl ?_⟩
    rintro ⟨text, hother, -⟩
    rw [hplan] at hother
    cases hother
  · refine ⟨(Disk.furnishes_prepared before path hdisk).1, ?_⟩
    obtain ⟨old, records, hplanned, -⟩ := planned_of_plan hplan
    obtain ⟨found, hfound, -⟩ := hplanned.target
    obtain ⟨place, hroot, -⟩ := (Disk.suiteFiles_eq_ok_iff hdisk).mp hfound
    have hbytes := Disk.bytes_ne_of_directory? hroot
    have hnames := isName_of_mem_newFileNames hplanned.name
    have hrefusal := fun hpath => refusal?_of_textOrEmpty hpath hplanned.text
    constructor
    · rintro heq ⟨text', hother, hstranded⟩
      rw [hplan] at hother
      cases hother
      exact Disk.prepared_ne_of_stranded hdisk hnames
        (hrefusal (Path.bytes_enter_ne hnames hbytes)) hstranded heq
    · intro hnot
      rcases textOrEmpty_eq_ok hplanned.text with hread | ⟨hmissing, -⟩
      · obtain ⟨written, content, hfind, -⟩ := Disk.readText_eq_ok_iff.mp hread
        obtain ⟨names, hnil, hnames, rfl⟩ := hplanned.path_eq hdisk
        exact Disk.prepared_of_find hdisk hbytes hnil hnames hfind
      · obtain rfl := hplanned.path_of_missing hdisk hmissing
        exact Disk.prepared_eq_of_unwritable hdisk hnames
          (hrefusal (Path.bytes_enter_ne hnames hbytes)) hroot (newFileNames_ne_nil hplanned.name)
          (fun hstranded => hnot ⟨text, hplan, hstranded⟩) hfails
  · cases hok

/-- The directory of a new suite is left behind when the name of its file is too long by a byte. -/
theorem failed_add_keeps_disk_iff_nested : bareDisk.WellFormed ∧
    ∃ error after,
      Invocation.run ⟨⟨"d"⟩, .strict, 0, .add (nestedSuite 253) "t" "r"⟩ bareDisk =
        (.error error, after) ∧
      bareDisk.AddsDirectories after ∧
      (after = bareDisk ↔ ¬∃ text,
        plan bareDisk ⟨"d"⟩ .strict (nestedSuite 253) "t" "r" =
            .ok (newFile ⟨"d"⟩ (nestedSuite 253), text) ∧
          bareDisk.Stranded ⟨"d"⟩ (newFileNames (nestedSuite 253))) ∧
      after ≠ bareDisk := by
  have hdisk : bareDisk.WellFormed := by decide
  have hplanned := planned_nestedSuite (by decide : 252 < 253) (by decide)
  have hstranded := stranded_nestedSuite (by decide : 252 < 253)
  obtain ⟨error, hrun⟩ := run_of_stranded hdisk 0 hplanned hstranded
  obtain ⟨hadds, hiff⟩ := failed_add_keeps_disk_iff hdisk hrun
  refine ⟨hdisk, error, _, hrun, hadds, hiff, fun heq => ?_⟩
  exact hiff.mp heq ⟨_, hplanned.plan_eq, hstranded⟩

/-- A failed addition can leave a directory behind that was not there. -/
theorem failed_add_leaves_directory : bareDisk.WellFormed ∧
    ∃ error after,
      Invocation.run ⟨⟨"d"⟩, .strict, 0, .add (nestedSuite 253) "t" "r"⟩ bareDisk =
        (.error error, after) ∧
      bareDisk.get? ["d", "X"] = none ∧ after.get? ["d", "X"] = some .directory := by
  have hdisk : bareDisk.WellFormed := by decide
  have hplanned := planned_nestedSuite (by decide : 252 < 253) (by decide)
  have hstranded := stranded_nestedSuite (by decide : 252 < 253)
  obtain ⟨error, hrun⟩ := run_of_stranded hdisk 0 hplanned hstranded
  exact ⟨hdisk, error, _, hrun, rfl, get?_prepared_nestedSuite (by decide) (by decide)⟩

end Command
end TestExclusions
