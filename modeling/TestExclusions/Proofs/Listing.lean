import TestExclusions.Proofs.Disk.Making

/-! Directories that are made on the way to a file below a root. Without links below the root they
stand where their paths say, so that a root that could be listed still can. -/
namespace TestExclusions.Disk

/-- What a file is written to: the disk on which the directories above it have been made. -/
def prepared (disk : Disk) (path : Path) : Disk :=
  match path.parent? with
  | some parent => (disk.makeDirectories parent).1
  | none => disk

theorem furnishes_prepared (disk : Disk) (path : Path) : Furnishes disk (disk.prepared path) := by
  unfold prepared
  split
  · exact furnishes_makeDirectories disk _
  · exact .refl disk

/-- Nothing has to be made for a file in a directory that is there. -/
theorem prepared_push {disk : Disk} (hdisk : disk.WellFormed) {path : Path} {directory : Place}
    (hpath : disk.directory? path = some directory) {name : Bytes} (hname : Path.IsName name) :
    disk.prepared (path.push name) = disk := by
  obtain ⟨hfind, -⟩ := directory?_eq_some_iff.mp hpath
  have hbytes := bytes_ne_of_find hfind
  unfold prepared
  split
  · rename_i parent hparent
    obtain ⟨hparentText, habsolute, stays, hwords, hstays⟩ :=
      Path.words_of_parent? hname hbytes hparent
    obtain ⟨hleads, -⟩ := (directory?_eq_some_iff_leads (refusal?_of_directory? hpath)).mp hpath
    rw [hwords, List.map_append, start, ← habsolute, ← start] at hleads
    refine makeDirectories_of_leads hdisk hparentText (hleads.of_stays fun move hmove => ?_)
    obtain ⟨word, hword, rfl⟩ := List.mem_map.mp hmove
    rw [hstays word hword]
    exact .inl rfl
  · rfl

/-- A root without links whose directories can be listed. -/
structure Open (root : Path) (place : Place) (disk : Disk) : Prop where
  wellFormed : disk.WellFormed
  directory : disk.directory? root = some place
  linkFree : disk.LinkFreeBelow place
  listable : Listable disk root place

variable {root : Path} {place : Place} {disk : Disk}

/-- A directory that is made by its path below the root can be listed by it. -/
theorem open_of_makeDirectory {made : Disk} (h : Open root place disk) {names : List Bytes}
    (hnil : names ≠ []) (hnames : ∀ name ∈ names, Path.IsName name)
    (hmade : disk.makeDirectory (root.enter names) = .ok made) : Open root place made := by
  obtain ⟨hadds, hwellFormed⟩ := furnishes_makeDirectory hmade h.wellFormed
  have hroot := directory?_of_grows hadds.grows h.directory
  have hlinks := hadds.linkFreeBelow h.linkFree
  refine ⟨hwellFormed, hroot, hlinks, fun other hvisible => ?_⟩
  obtain ⟨hhidden, hdirectory⟩ := hvisible
  obtain ⟨new, hfree, hput, hne, hfind⟩ := find_of_makeDirectory h.wellFormed hmade
  obtain ⟨hfindRoot, -⟩ := directory?_eq_some_iff.mp hroot
  have hnew : new = place ++ names :=
    place_of_locate_enter hfindRoot hlinks hnames hnil (find_eq_ok_iff.mp hfind)
  subst hnew
  rw [hput, get?_put hne] at hdirectory
  split at hdirectory
  · rename_i heq
    rw [List.append_cancel_left heq]
    have hmadeHere : made.get? (place ++ names) = some .directory := by
      rw [hput, get?_put hne, if_pos rfl]
    refine ⟨place ++ names, openDirectory_eq_ok_iff.mpr
      ⟨directory?_eq_some_iff.mpr ⟨hfind, hmadeHere⟩, fun hunlistable => ?_⟩⟩
    -- only what stood on the disk before can be kept from being listed
    rw [hadds.unlistable] at hunlistable
    rw [h.wellFormed.unlistable _ hunlistable] at hfree
    cases hfree
  · obtain ⟨found, hfound⟩ := h.listable other ⟨hhidden, hdirectory⟩
    exact ⟨found, openDirectory_of_grows hadds.grows hfound⟩

/-- The directory in which the first name below a root is looked up is not missing. -/
theorem makeDirectory_ne_notFound (h : Open root place disk) {name : Bytes}
    (hname : Path.IsName name) : disk.makeDirectory (root.push name) ≠ .error .notFound := by
  have hbytes := bytes_ne_of_directory? h.directory
  cases hrefusal : (root.push name).refusal? with
  | some cause =>
    have hne := refusal?_ne_notFound (Path.bytes_push_ne hname hbytes)
    rw [hrefusal] at hne
    simpa [makeDirectory, findParent, locateMoves, hrefusal] using hne
  | none =>
    rw [makeDirectory_push h.directory hname hrefusal]
    split
    · simp
    · split <;> simp

/-- Directories that are made along names below the root can be listed. -/
theorem open_of_makeDirectories (h : Open root place disk) {front : List Bytes} {last : Bytes}
    (hnames : ∀ name ∈ front ++ [last], Path.IsName name) :
    Open root place (disk.makeDirectories (root.enter (front ++ [last]))).1 := by
  have hbytes := bytes_ne_of_directory? h.directory
  unfold makeDirectories
  -- the first name is looked up in the root, which is there; the others in front are made before
  induction front using List.reverseRecOn generalizing last with
  | nil =>
    have hlast : Path.IsName last := hnames last (by simp)
    obtain ⟨_, -, -, -, hparent⟩ := Path.parent?_push hlast hbytes
    have hstep : ∀ disk made, Open root place disk → _ → Open root place made :=
      fun disk made hdisk => open_of_makeDirectory hdisk (by simp) hnames
    rw [Path.enter_concat] at hstep ⊢
    rw [Path.enter, List.foldl_nil] at hstep ⊢
    rw [Path.ancestors_push hlast hbytes hparent]
    exact makeChain_cons h hstep fun hmissing =>
      absurd hmissing (makeDirectory_ne_notFound h hlast)
  | append_singleton front previous ih =>
    have hfront : ∀ name ∈ front ++ [previous], Path.IsName name :=
      fun name hname => hnames name (List.mem_append_left _ hname)
    have hbefore : ∀ name ∈ front, Path.IsName name :=
      fun name hname => hfront name (List.mem_append_left _ hname)
    have hstep : ∀ disk made, Open root place disk → _ → Open root place made :=
      fun disk made hdisk => open_of_makeDirectory hdisk (by simp) hnames
    have hrest := ih hfront
    rw [Path.enter_concat] at hrest
    rw [Path.enter_concat, Path.enter_concat] at hstep ⊢
    rw [Path.ancestors_push_push (hfront _ (by simp)) (hnames _ (by simp))
      (Path.bytes_enter_ne hbefore hbytes)]
    exact makeChain_cons h hstep fun _ => hrest

/-- Whatever is made before a file below the root is written can be listed. -/
theorem open_prepared (h : Open root place disk) {names : List Bytes} (hnil : names ≠ [])
    (hnames : ∀ name ∈ names, Path.IsName name) :
    Open root place (disk.prepared (root.enter names)) := by
  have hbytes := bytes_ne_of_directory? h.directory
  rw [← List.dropLast_concat_getLast hnil] at hnames ⊢
  generalize names.dropLast = front at hnames
  generalize names.getLast hnil = last at hnames
  obtain ⟨hfront, hlast⟩ := List.forall_mem_append.mp hnames
  rw [List.forall_mem_singleton] at hlast
  rcases List.eq_nil_or_concat' front with rfl | ⟨before, previous, rfl⟩
  · -- the file stands in the root itself
    have hpush : root.enter ([] ++ [last]) = root.push last := rfl
    rw [hpush, prepared_push h.wellFormed h.directory hlast]
    exact h
  · obtain ⟨hbefore, hprevious⟩ := List.forall_mem_append.mp hfront
    rw [List.forall_mem_singleton] at hprevious
    rw [prepared, Path.enter_concat, Path.enter_concat,
      Path.parent?_push_push hprevious hlast (Path.bytes_enter_ne hbefore hbytes),
      ← Path.enter_concat]
    exact open_of_makeDirectories h hfront

theorem open_of_writes {after : Disk} {path : Path} {content : ByteArray} {written : Place}
    (h : Open root place disk) (hwrites : Writes disk path content written after) :
    Open root place after := by
  refine ⟨hwrites.wellFormed, directory?_of_grows hwrites.grows h.directory,
    hwrites.linkFreeBelow h.linkFree, fun names hvisible => ?_⟩
  obtain ⟨hhidden, hdirectory⟩ := hvisible
  rw [hwrites.get?] at hdirectory
  split at hdirectory
  · cases hdirectory
  · obtain ⟨found, hfound⟩ := h.listable names ⟨hhidden, hdirectory⟩
    exact ⟨found, openDirectory_of_grows hwrites.grows hfound⟩

theorem Open.suiteFiles (h : Open root place disk) :
    disk.suiteFiles root = .ok (disk.suiteFilesBelow root place) :=
  (suiteFiles_eq_ok_iff h.wellFormed).mpr ⟨place, h.directory, h.listable, rfl⟩

end TestExclusions.Disk
