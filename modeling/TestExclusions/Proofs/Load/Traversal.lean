import TestExclusions.Disk.Listing
import TestExclusions.Proofs.Load.Discovery

/-! A walk that enters one directory after the other. In whatever order directories list what is in
them, it meets everything that is not hidden once and in the order of paths, and so finds the files
of suites that stand below a root. -/
namespace TestExclusions
open Sorted (Increasing)

namespace Disk

/-- A way in which directories list what is in them: every name once, in any order. -/
structure Lists (disk : Disk) (listing : Place → List Bytes) : Prop where
  nodup : ∀ directory, (listing directory).Nodup
  mem : ∀ directory name,
    name ∈ listing directory ↔ (disk.get? (directory ++ [name])).isSome

/-- The names in a directory that are not hidden, in their order. -/
def shown (listing : Place → List Bytes) (directory : Place) : List Bytes :=
  (Sorted.sort (fun a b => (Ord.compare a b).isLE) (listing directory)).filter
    (!SuiteFile.isHidden ·)

/-- A name, and those that lead to it and behind it. -/
def under (name : Bytes) (below : List (List Bytes)) : List (List Bytes) :=
  [name] :: below.map (name :: ·)

/-- The names that lead from a directory to what is met below it, at most so many levels deep. A
directory is met before what is in it, and a link is not followed. -/
def visit (disk : Disk) (listing : Place → List Bytes) : Nat → Place → List (List Bytes)
  | 0, _ => []
  | levels + 1, directory =>
    (shown listing directory).flatMap fun name =>
      under name
        (if disk.get? (directory ++ [name]) = some .directory then
          disk.visit listing levels (directory ++ [name])
        else [])

/-- The most names on the way to anything on a disk. -/
def depth (disk : Disk) : Nat := (disk.items.map (·.1.length)).foldr max 0

/-- Names lead from a place to a wanted item. -/
def leadsTo (disk : Disk) (place : Place) (wanted : Item → Bool) (names : List Bytes) : Bool :=
  (disk.get? (place ++ names)).any wanted

/-- The files of suites that a walk meets below a root. It fails at the first directory that it
cannot list by its path, and puts the files in the order of their paths at the end. -/
def traverse (disk : Disk) (listing : Place → List Bytes) (root : Path) :
    Except LoadError (List SuiteFile) :=
  match disk.directory? root with
  | none => .error (.invalidRoot root)
  | some place =>
    let met := [] :: disk.visit listing disk.depth place
    match (met.filter (disk.leadsTo place Item.isDirectory)).findSome? (disk.listingFault? root) with
    | some fault => .error fault
    | none =>
      .ok (Sorted.sort SuiteFile.le
        ((met.filter (disk.leadsTo place Item.isFile)).filterMap (SuiteFile.ofNames? root)))

/-! ## The order of the disk -/

theorem name_eq_some_iff {directory place : Place} {name : Bytes} :
    (if place ≠ [] && place.dropLast = directory then place.getLast? else none) = some name ↔
      place = directory ++ [name] := by
  constructor
  · intro h
    split at h
    · rename_i hplace
      obtain ⟨front, rfl⟩ := List.getLast?_eq_some_iff.mp h
      simp only [List.dropLast_concat, Bool.and_eq_true, decide_eq_true_eq] at hplace
      rw [hplace.2]
    · cases h
  · rintro rfl
    simp

/-- Directories can list their entries in the order in which a disk holds them. -/
theorem lists_names {disk : Disk} (hdisk : disk.WellFormed) : disk.Lists disk.names := by
  refine ⟨fun directory => ?_, fun directory name => ?_⟩
  · have hplaces := hdisk.nodup
    rw [List.nodup_iff_pairwise_ne, List.pairwise_map] at hplaces
    rw [names, List.nodup_iff_pairwise_ne, List.pairwise_filterMap]
    refine hplaces.imp fun {a b} hne name hname name' hname' heq => ?_
    subst heq
    exact hne ((name_eq_some_iff.mp hname).trans (name_eq_some_iff.mp hname').symm)
  · rw [names, List.mem_filterMap, Option.isSome_iff_exists]
    constructor
    · rintro ⟨⟨place, item⟩, hmem, hname⟩
      obtain rfl := name_eq_some_iff.mp hname
      exact ⟨item, get?_of_mem hdisk hmem⟩
    · rintro ⟨item, hitem⟩
      exact ⟨_, mem_of_get? (by simp) hitem, name_eq_some_iff.mpr rfl⟩

/-! ## What is met -/

theorem length_le_depth {disk : Disk} {place : Place} {item : Item} (hplace : place ≠ [])
    (h : disk.get? place = some item) : place.length ≤ disk.depth := by
  have hmem := mem_of_get? hplace h
  unfold depth
  generalize disk.items = items at hmem
  induction items with
  | nil => cases hmem
  | cons e rest ih =>
    rw [List.map_cons, List.foldr_cons]
    rcases List.mem_cons.mp hmem with rfl | hmem
    · exact le_max_left _ _
    · exact (ih hmem).trans (le_max_right _ _)

theorem mem_under {name : Bytes} {below : List (List Bytes)} {names : List Bytes} :
    names ∈ under name below ↔ ∃ rest, names = name :: rest ∧ (rest = [] ∨ rest ∈ below) := by
  rw [under, List.mem_cons, List.mem_map]
  constructor
  · rintro (rfl | ⟨rest, hrest, rfl⟩)
    · exact ⟨[], rfl, .inl rfl⟩
    · exact ⟨rest, rfl, .inr hrest⟩
  · rintro ⟨rest, rfl, rfl | hrest⟩
    · exact .inl rfl
    · exact .inr ⟨rest, hrest, rfl⟩

/-- A name comes before all that it leads to, which keeps its order. -/
theorem increasing_under (name : Bytes) {below : List (List Bytes)}
    (hnil : ∀ names ∈ below, names ≠ [])
    (h : Increasing (·.map Path.Component.name) below) :
    Increasing (·.map Path.Component.name) (under name below) := by
  refine List.pairwise_cons.mpr ⟨fun names hnames => ?_, List.pairwise_map.mpr (h.imp ?_)⟩
  · obtain ⟨rest, hrest, rfl⟩ := List.mem_map.mp hnames
    obtain ⟨next, more, rfl⟩ := List.exists_cons_of_ne_nil (hnil rest hrest)
    exact List.cons_lt_cons_iff.mpr (.inr ⟨rfl, List.nil_lt_cons _ _⟩)
  · exact fun hlt => List.cons_lt_cons_iff.mpr (.inr ⟨rfl, hlt⟩)

section Visit
variable {disk : Disk} {listing : Place → List Bytes} (hlists : disk.Lists listing)
include hlists

theorem mem_shown {directory : Place} {name : Bytes} : name ∈ shown listing directory ↔
    (disk.get? (directory ++ [name])).isSome ∧ SuiteFile.isHidden name = false := by
  rw [shown, List.mem_filter, Sorted.mem_sort, hlists.mem, Bool.not_eq_true']

theorem increasing_shown (directory : Place) :
    Increasing Path.Component.name (shown listing directory) := by
  have hle : ∀ a b : Bytes,
      (Ord.compare a b).isLE = true ↔ Path.Component.name a ≤ Path.Component.name b :=
    fun a b => Path.Component.isLE_compare_iff (.name a) (.name b)
  have hnodup : ((listing directory).map Path.Component.name).Nodup :=
    (hlists.nodup directory).map fun a b => Path.Component.name.inj
  exact (Sorted.increasing_sort hle hnodup).filter _

/-- Everything is met that is not hidden and lies in no hidden directory. -/
theorem mem_visit (hdisk : disk.WellFormed) {levels : Nat} {directory : Place}
    {names : List Bytes} : names ∈ disk.visit listing levels directory ↔
      names ≠ [] ∧ names.length ≤ levels ∧ names.any SuiteFile.isHidden = false ∧
        (disk.get? (directory ++ names)).isSome := by
  induction levels generalizing directory names with
  | zero =>
    cases names with
    | nil => simp [visit]
    | cons name rest => simp [visit]
  | succ levels ih =>
    simp only [visit, List.mem_flatMap, mem_shown hlists, mem_under]
    cases names with
    | nil => simp
    | cons first rest =>
      have hassoc : directory ++ first :: rest = directory ++ [first] ++ rest := by simp
      simp only [List.any_cons, Bool.or_eq_false_iff, List.length_cons, hassoc]
      constructor
      · rintro ⟨name, ⟨hsome, hhidden⟩, more, heq, hmore⟩
        cases heq
        rcases hmore with rfl | hmore
        · exact ⟨by simp, by simp, ⟨hhidden, rfl⟩, by simpa using hsome⟩
        · split at hmore
          · obtain ⟨-, hlength, hvisible, hfound⟩ := ih.mp hmore
            exact ⟨by simp, by omega, ⟨hhidden, hvisible⟩, hfound⟩
          · cases hmore
      · rintro ⟨-, hlength, ⟨hhidden, hvisible⟩, hfound⟩
        by_cases hrest : rest = []
        · subst hrest
          exact ⟨first, ⟨by simpa using hfound, hhidden⟩, [], rfl, .inl rfl⟩
        · obtain ⟨item, hitem⟩ := Option.isSome_iff_exists.mp hfound
          have hdirectory := directory_of_get?_append hdisk hrest hitem
          refine ⟨first, ⟨by simp [hdirectory], hhidden⟩, rest, rfl, .inr ?_⟩
          rw [if_pos hdirectory]
          exact ih.mpr ⟨hrest, by omega, hvisible, hfound⟩

/-- What is met is met in the order of paths. -/
theorem increasing_visit (hdisk : disk.WellFormed) (levels : Nat) (directory : Place) :
    Increasing (·.map Path.Component.name) (disk.visit listing levels directory) := by
  induction levels generalizing directory with
  | zero => exact List.Pairwise.nil
  | succ levels ih =>
    rw [visit, Increasing, List.pairwise_flatMap]
    refine ⟨fun name _ => ?_, (increasing_shown hlists directory).imp ?_⟩
    · apply increasing_under
      · split
        · exact fun names hnames => ((mem_visit hlists hdisk).mp hnames).1
        · simp
      · split
        · exact ih _
        · exact List.Pairwise.nil
    · intro name other hlt names hnames names' hnames'
      obtain ⟨rest, rfl, -⟩ := mem_under.mp hnames
      obtain ⟨rest', rfl, -⟩ := mem_under.mp hnames'
      rw [List.map_cons, List.map_cons, List.cons_lt_cons_iff]
      exact .inl hlt

/-! ## What is found -/

/-- Below a directory, everything that is not hidden is met once. -/
theorem mem_met (hdisk : disk.WellFormed) {place : Place} {wanted : Item → Bool}
    {names : List Bytes} :
    names ∈ (disk.visit listing disk.depth place).filter (disk.leadsTo place wanted) ↔
      names ∈ disk.namesBelow wanted place ∧ names.any SuiteFile.isHidden = false := by
  rw [List.mem_filter, mem_visit hlists hdisk, mem_namesBelow hdisk, leadsTo, Option.any_eq_true]
  constructor
  · rintro ⟨⟨hnil, -, hvisible, -⟩, hitem⟩
    exact ⟨⟨hnil, hitem⟩, hvisible⟩
  · rintro ⟨⟨hnil, item, hitem, hwanted⟩, hvisible⟩
    have hlength := length_le_depth (by simp [hnil]) hitem
    rw [List.length_append] at hlength
    exact ⟨⟨hnil, by omega, hvisible, by simp [hitem]⟩, item, hitem, hwanted⟩

/-- The directories that are met are those that are walked. -/
theorem directories_met (hdisk : disk.WellFormed) {place : Place}
    (hplace : disk.get? place = some .directory) :
    ([] :: disk.visit listing disk.depth place).filter (disk.leadsTo place Item.isDirectory) =
      disk.walked place := by
  have hbelow : (disk.visit listing disk.depth place).filter (disk.leadsTo place Item.isDirectory) =
      Sorted.sort walkLe ((disk.namesBelow Item.isDirectory place).filter
        fun names => !names.any SuiteFile.isHidden) := by
    refine Increasing.ext ((increasing_visit hlists hdisk _ _).filter _)
      (increasing_walked hdisk place).of_cons fun names => ?_
    rw [mem_met hlists hdisk, Sorted.mem_sort, List.mem_filter, Bool.not_eq_true']
  have hroot : disk.leadsTo place Item.isDirectory [] = true := by
    simp [leadsTo, hplace, Item.isDirectory]
  rw [List.filter_cons_of_pos hroot, hbelow, walked]

/-- The files of suites that are met are those that stand below the root. -/
theorem files_met (hdisk : disk.WellFormed) {root : Path} {place : Place}
    (hroot : disk.directory? root = some place) :
    Sorted.sort SuiteFile.le (((disk.visit listing disk.depth place).filter
        (disk.leadsTo place Item.isFile)).filterMap (SuiteFile.ofNames? root)) =
      disk.suiteFilesBelow root place := by
  have hvisible : ∀ names : List (List Bytes),
      (names.filter (!·.any SuiteFile.isHidden)).filterMap (SuiteFile.ofNames? root) =
        names.filterMap (SuiteFile.ofNames? root) := by
    intro names
    rw [List.filterMap_filter]
    refine List.filterMap_congr fun found _ => ?_
    cases hhidden : found.any SuiteFile.isHidden with
    | false => rfl
    | true => simp [SuiteFile.ofNames?, hhidden]
  have hperm : ((disk.visit listing disk.depth place).filter (disk.leadsTo place Item.isFile)).Perm
      ((disk.namesBelow Item.isFile place).filter (!·.any SuiteFile.isHidden)) := by
    have hmet := (increasing_visit hlists hdisk disk.depth place).nodup.of_map
    refine (List.perm_ext_iff_of_nodup (hmet.filter _)
      ((nodup_namesBelow hdisk _ _).filter _)).mpr fun names => ?_
    rw [mem_met hlists hdisk, List.mem_filter, Bool.not_eq_true']
  have hle : ∀ a b : SuiteFile, a.le b = true ↔ a.path.components ≤ b.path.components :=
    fun a b => Path.le_iff a.path b.path
  have hnodup := (increasing_suiteFilesBelow hdisk hroot).nodup
  rw [suiteFilesBelow, ((Sorted.sort_perm _ _).map _).nodup_iff] at hnodup
  rw [suiteFilesBelow]
  apply Sorted.sort_eq_of_perm hle hnodup
  rw [← hvisible (disk.namesBelow _ _)]
  exact hperm.filterMap _

/-- Whatever the order in which directories are listed, a walk finds the same files. -/
theorem traverse_eq (hdisk : disk.WellFormed) (root : Path) :
    disk.traverse listing root = disk.suiteFiles root := by
  unfold traverse suiteFiles
  cases hroot : disk.directory? root with
  | none => rfl
  | some place =>
    dsimp only
    have hplace := (directory?_eq_some_iff.mp hroot).2
    have hnoFile : ¬disk.leadsTo place Item.isFile [] := by
      simp [leadsTo, hplace, Item.isFile]
    rw [directories_met hlists hdisk hplace, List.filter_cons_of_neg hnoFile]
    cases (disk.walked place).findSome? (disk.listingFault? root) with
    | some fault => rfl
    | none => exact congrArg Except.ok (files_met hlists hdisk hroot)

end Visit
end Disk
end TestExclusions
