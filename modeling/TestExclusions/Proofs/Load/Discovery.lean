import TestExclusions.Proofs.Path.Order
import TestExclusions.Proofs.Sorted
import TestExclusions.Proofs.SuiteFile

/-! What a walk from a root finds. The files stand in strictly increasing order of their paths, and
the walk fails at the first directory that cannot be listed by its path, the root included. -/
namespace TestExclusions
open Sorted (Increasing)

namespace Disk

theorem nodup_namesBelow {disk : Disk} (hdisk : disk.WellFormed) (wanted : Item → Bool)
    (place : Place) : (disk.namesBelow wanted place).Nodup := by
  have hplaces := hdisk.nodup
  rw [List.nodup_iff_pairwise_ne, List.pairwise_map] at hplaces
  rw [namesBelow_eq, List.nodup_iff_pairwise_ne, List.pairwise_filterMap]
  refine hplaces.imp ?_
  rintro ⟨found, item⟩ ⟨found', item'⟩ hne names hnames names' hnames' rfl
  obtain ⟨-, -, rfl⟩ := namesTo?_eq_some_iff.mp hnames
  obtain ⟨-, -, rfl⟩ := namesTo?_eq_some_iff.mp hnames'
  exact hne rfl

/-- Different names lead to different paths. -/
theorem eq_of_components_enter {root : Path} (hroot : root.bytes ≠ []) {names other : List Bytes}
    (hnames : ∀ name ∈ names, Path.IsName name) (hother : ∀ name ∈ other, Path.IsName name)
    (h : (root.enter names).components = (root.enter other).components) : names = other := by
  rw [Path.components_enter hnames hroot, Path.components_enter hother hroot,
    List.append_cancel_left_eq] at h
  exact Path.Component.map_name_injective h

/-- The names of the first directory, in the order of paths, that a walk enters and cannot list by
its path, and the error of the walk. -/
structure FirstUnlisted (disk : Disk) (root : Path) (place : Place) (names : List Bytes)
    (error : LoadError) : Prop where
  visible : Visible disk place names
  error : ∃ cause, disk.openDirectory (root.enter names) = .error cause ∧
    error = .unreadable (root.enter names) (.directory (root.enter names) cause)
  first : ∀ other, Visible disk place other →
    (root.enter other).compare (root.enter names) = .lt →
      ∃ found, disk.openDirectory (root.enter other) = .ok found

theorem listingFault?_eq_some_iff {disk : Disk} {root : Path} {names : List Bytes}
    {error : LoadError} : disk.listingFault? root names = some error ↔
      ∃ cause, disk.openDirectory (root.enter names) = .error cause ∧
        error = .unreadable (root.enter names) (.directory (root.enter names) cause) := by
  unfold listingFault?
  cases h : disk.openDirectory (root.enter names) <;> simp [h, eq_comm]

theorem walkLe_iff (a b : List Bytes) :
    walkLe a b = true ↔ a.map Path.Component.name ≤ b.map .name :=
  Path.isLE_compareComponents_iff _ _

theorem pairwise_walked (disk : Disk) (place : Place) :
    (disk.walked place).Pairwise fun a b => a.map Path.Component.name ≤ b.map .name :=
  List.pairwise_cons.mpr
    ⟨fun _ _ => le_of_not_gt (List.not_lt_nil _), Sorted.pairwise_sort walkLe_iff _⟩

/-- A directory is walked once, after those that come before it. -/
theorem increasing_walked {disk : Disk} (hdisk : disk.WellFormed) (place : Place) :
    Increasing (·.map Path.Component.name) (disk.walked place) := by
  refine List.pairwise_cons.mpr ⟨fun names hnames => ?_,
    Sorted.increasing_sort walkLe_iff
      (((nodup_namesBelow hdisk _ _).filter _).map Path.Component.map_name_injective)⟩
  rw [Sorted.mem_sort, List.mem_filter, mem_directoriesBelow hdisk] at hnames
  obtain ⟨first, rest, rfl⟩ := List.exists_cons_of_ne_nil hnames.1.1
  exact List.nil_lt_cons _ _

section Root
variable {disk : Disk} (hdisk : disk.WellFormed) {root : Path} {place : Place}
  (hroot : disk.directory? root = some place)
include hdisk hroot

theorem increasing_suiteFilesBelow :
    Increasing (·.path.components) (disk.suiteFilesBelow root place) := by
  apply Sorted.increasing_sort fun a b => Path.le_iff a.path b.path
  have hbytes := bytes_ne_of_directory? hroot
  have hnodup := nodup_namesBelow hdisk Item.isFile place
  rw [List.nodup_iff_pairwise_ne] at hnodup
  rw [List.nodup_iff_pairwise_ne, List.pairwise_map, List.pairwise_filterMap]
  refine List.Pairwise.imp_of_mem ?_ hnodup
  intro names other hnames hother hne file hfile file' hfile' heq
  obtain ⟨-, content, hcontent⟩ := (mem_filesBelow hdisk).mp hnames
  obtain ⟨-, content', hcontent'⟩ := (mem_filesBelow hdisk).mp hother
  rw [SuiteFile.path_of_ofNames? hfile, SuiteFile.path_of_ofNames? hfile'] at heq
  exact hne (eq_of_components_enter hbytes (isName_of_get?_append hdisk hcontent)
    (isName_of_get?_append hdisk hcontent') heq)

/-- Paths below a root come in the order of the names behind it. -/
theorem compare_enter_eq_lt_iff {names other : List Bytes} {item item' : Item}
    (hnames : disk.get? (place ++ names) = some item)
    (hother : disk.get? (place ++ other) = some item') :
    (root.enter names).compare (root.enter other) = .lt ↔
      names.map Path.Component.name < other.map .name := by
  have hbytes := bytes_ne_of_directory? hroot
  rw [Path.compare_eq_lt_iff, Path.components_enter (isName_of_get?_append hdisk hnames) hbytes,
    Path.components_enter (isName_of_get?_append hdisk hother) hbytes]
  have hmono : StrictMono (root.components ++ ·) := fun _ _ h => List.append_left_lt h
  exact hmono.lt_iff_lt

theorem FirstUnlisted.le {names other : List Bytes} {error error' : LoadError}
    (h : FirstUnlisted disk root place names error)
    (h' : FirstUnlisted disk root place other error') :
    names.map Path.Component.name ≤ other.map .name := by
  apply le_of_not_gt
  intro hlt
  obtain ⟨cause, hcause, -⟩ := h'.error
  rw [← compare_enter_eq_lt_iff hdisk hroot h'.visible.2 h.visible.2] at hlt
  obtain ⟨found, hfound⟩ := h.first other h'.visible hlt
  rw [hcause] at hfound
  cases hfound

theorem firstUnlisted_of_suiteFiles {error : LoadError} (h : disk.suiteFiles root = .error error) :
    ∃ names, FirstUnlisted disk root place names error := by
  obtain ⟨-, hplace⟩ := directory?_eq_some_iff.mp hroot
  unfold suiteFiles at h
  rw [hroot] at h
  dsimp only at h
  split at h
  · rename_i fault hfault
    cases h
    obtain ⟨before, names, after, hsplit, hnames, hbefore⟩ := List.findSome?_eq_some_iff.mp hfault
    have hvisible : Visible disk place names := (mem_walked hdisk hplace).mp (by simp [hsplit])
    refine ⟨names, hvisible, listingFault?_eq_some_iff.mp hnames, fun other hother hlt => ?_⟩
    have hlt := (compare_enter_eq_lt_iff hdisk hroot hother.2 hvisible.2).mp hlt
    have hmem : other ∈ before ++ names :: after := hsplit ▸ (mem_walked hdisk hplace).mpr hother
    rcases List.mem_append.mp hmem with hmem | hmem
    · exact listingFault?_eq_none_iff.mp (hbefore other hmem)
    · -- nothing that follows the directory comes before it
      have hordered := pairwise_walked disk place
      rw [hsplit] at hordered
      have hafter := List.pairwise_cons.mp (List.pairwise_append.mp hordered).2.1
      rcases List.mem_cons.mp hmem with rfl | hmem
      · exact absurd hlt (lt_irrefl _)
      · exact absurd hlt (not_lt_of_ge (hafter.1 other hmem))
  · cases h

theorem suiteFiles_eq_error_iff {error : LoadError} : disk.suiteFiles root = .error error ↔
    ∃ names, FirstUnlisted disk root place names error := by
  refine ⟨firstUnlisted_of_suiteFiles hdisk hroot, ?_⟩
  rintro ⟨names, hnames⟩
  obtain ⟨cause, hcause, rfl⟩ := hnames.error
  cases hfound : disk.suiteFiles root with
  | ok found =>
    obtain ⟨hlistable, -⟩ := suiteFiles_eq_of_ok hdisk hroot hfound
    obtain ⟨place', hplace⟩ := hlistable names hnames.visible
    rw [hcause] at hplace
    cases hplace
  | error error =>
    obtain ⟨other, hother⟩ := firstUnlisted_of_suiteFiles hdisk hroot hfound
    obtain ⟨cause', hcause', rfl⟩ := hother.error
    have hsame : names = other := Path.Component.map_name_injective
      (le_antisymm (hnames.le hdisk hroot hother) (hother.le hdisk hroot hnames))
    subst hsame
    rw [hcause] at hcause'
    cases hcause'
    rfl

theorem not_listable_of_suiteFiles {error : LoadError} (h : disk.suiteFiles root = .error error) :
    ¬Listable disk root place := by
  intro hlistable
  rw [(suiteFiles_eq_ok_iff hdisk).mpr ⟨place, hroot, hlistable, rfl⟩] at h
  cases h

omit hdisk in
/-- A walk begins with the root, which may be a directory and still not be listed. -/
theorem suiteFiles_of_unlistable (h : place ∈ disk.unlistable) :
    disk.suiteFiles root = .error (.unreadable root (.directory root .permissionDenied)) := by
  obtain ⟨hfind, hplace⟩ := directory?_eq_some_iff.mp hroot
  have hopen : disk.openDirectory root = .error .permissionDenied := by
    rw [openDirectory_of_find hfind hplace, if_pos h]
  rw [suiteFiles, hroot]
  simp [walked, listingFault?, Path.enter, hopen]

end Root

theorem increasing_of_suiteFiles {disk : Disk} (hdisk : disk.WellFormed) {root : Path}
    {found : List SuiteFile} (hfound : disk.suiteFiles root = .ok found) :
    Increasing (·.path.components) found := by
  obtain ⟨place, hroot, -, rfl⟩ := (suiteFiles_eq_ok_iff hdisk).mp hfound
  exact increasing_suiteFilesBelow hdisk hroot

end Disk
end TestExclusions
