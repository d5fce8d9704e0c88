import TestExclusions.Disk.Change
import TestExclusions.Proofs.Disk.Walk

/-! Making directories and writing files. Directories only come, a file comes or changes its
contents, and a path that has been written leads to what was written. -/
namespace TestExclusions.Disk

/-! ## Making directories -/

theorem findParent_eq_ok_iff {disk : Disk} {path : Path} {place : Place} :
    disk.findParent path = .ok place ↔ path.refusal? = none ∧
      Leads disk maxLinks (start disk.home path)
        (path.words.dropLast.map Path.moveOf ++ [.stay]) (.taken place) := by
  rw [← walk_eq_ok_iff]
  unfold findParent locateMoves
  cases path.refusal? with
  | some e => simp
  | none =>
    dsimp only
    split <;> simp_all

theorem directory_of_findParent {disk : Disk} {path : Path} {place : Place}
    (h : disk.findParent path = .ok place) : disk.get? place = some .directory :=
  (findParent_eq_ok_iff.mp h).2.directory_of_stay

theorem addsDirectories_put {disk : Disk} {place : Place} (hplace : place ≠ [])
    (hfree : disk.get? place = none) : AddsDirectories disk (disk.put place .directory) := by
  refine ⟨rfl, rfl, [place], ?_⟩
  rw [get?_eq_lookup hplace] at hfree
  simp [put, any_eq_isSome_lookup, hfree]

/-- Directories have come, and the disk is well-formed as before. -/
def Furnishes (before after : Disk) : Prop :=
  before.WellFormed → AddsDirectories before after ∧ after.WellFormed

theorem Furnishes.refl (disk : Disk) : Furnishes disk disk := fun h => ⟨.refl disk, h⟩

theorem Furnishes.trans {a b c : Disk} (hab : Furnishes a b) (hbc : Furnishes b c) :
    Furnishes a c := by
  intro ha
  obtain ⟨hadds, hb⟩ := hab ha
  obtain ⟨hadds', hc⟩ := hbc hb
  exact ⟨hadds.trans hadds', hc⟩

/-- A directory is made where a directory has no entry of its name. -/
theorem makeDirectory_eq_ok_iff {disk made : Disk} {path : Path} :
    disk.makeDirectory path = .ok made ↔ ∃ directory name, disk.findParent path = .ok directory ∧
      path.words.getLast?.map Path.moveOf = some (.enter name) ∧
      name.length ≤ Path.maxNameBytes ∧ disk.get? (directory ++ [name]) = none ∧
      made = disk.put (directory ++ [name]) .directory := by
  unfold makeDirectory
  cases hparent : disk.findParent path with
  | error e => simp
  | ok directory =>
    dsimp only
    split
    · rename_i name hlast
      split
      · rename_i hsize
        have hsize : ¬name.length ≤ Path.maxNameBytes := by omega
        simp [hlast, hsize]
      · rename_i hsize
        have hsize := Nat.le_of_not_lt hsize
        cases hfree : disk.get? (directory ++ [name]) with
        | some item => simp [hlast, hfree]
        | none => simp [hlast, hfree, hsize, eq_comm]
    · rename_i hlast
      constructor
      · intro h
        cases h
      · rintro ⟨_, name, -, hname, -⟩
        exact absurd hname (hlast name)

theorem furnishes_makeDirectory {disk made : Disk} {path : Path}
    (h : disk.makeDirectory path = .ok made) : Furnishes disk made := by
  intro hdisk
  obtain ⟨directory, name, hparent, hlast, -, hfree, rfl⟩ := makeDirectory_eq_ok_iff.mp h
  obtain ⟨piece, hpiece, hmove⟩ := Option.map_eq_some_iff.mp hlast
  have hname := Path.isName_of_mem_words (List.mem_of_getLast? hpiece) hmove
  exact ⟨addsDirectories_put (by simp) hfree,
    wellFormed_put_new hdisk (directory_of_findParent hparent) hname hfree _⟩

/-- What has been made is found by the same path. -/
theorem find_of_makeDirectory {disk made : Disk} (hdisk : disk.WellFormed) {path : Path}
    (h : disk.makeDirectory path = .ok made) : ∃ place, disk.get? place = none ∧
      made = disk.put place .directory ∧ place ≠ [] ∧ made.find path = .ok place := by
  obtain ⟨hadds, -⟩ := furnishes_makeDirectory h hdisk
  obtain ⟨directory, name, hparent, hlast, hsize, hfree, rfl⟩ := makeDirectory_eq_ok_iff.mp h
  refine ⟨directory ++ [name], hfree, rfl, by simp, ?_⟩
  have hput : ∀ other, (disk.put (directory ++ [name]) .directory).get? other = _ :=
    get?_put (by simp) .directory
  obtain ⟨piece, hpiece, hmove⟩ := Option.map_eq_some_iff.mp hlast
  obtain ⟨front, hwords⟩ := List.getLast?_eq_some_iff.mp hpiece
  obtain ⟨hrefusal, hleads⟩ := findParent_eq_ok_iff.mp hparent
  rw [hwords, List.dropLast_concat] at hleads
  obtain ⟨left, hleft⟩ := (hleads.grows hadds.grows (by simp) (by simp)).walk_append (by simp)
  have hdirectory := hadds.grows.directory _ (directory_of_findParent hparent)
  have hmade : (disk.put (directory ++ [name]) .directory).get? (directory ++ [name]) =
      some .directory := by
    rw [hput, if_pos rfl]
  rw [find_eq_ok_iff, locate, locateMoves, hrefusal, Path.moves, hwords, List.map_append,
    List.append_assoc]
  refine (hleft _).trans ?_
  rw [Spot.place, List.map_singleton, hmove, List.singleton_append,
    walk_enter hdirectory hsize hmade (by simp)]
  split
  · rw [walk_stay hmade (.inr rfl), walk_nil]
  · exact walk_nil _ _ _

/-- No directory is made where a path leads already, and none is missing on the way there. -/
theorem makeDirectory_of_leads {disk : Disk} (hdisk : disk.WellFormed) {path : Path}
    (hpath : path.bytes ≠ []) {place : Place}
    (h : Leads disk maxLinks (start disk.home path) (path.words.map Path.moveOf) (.taken place)) :
    ∃ e, disk.makeDirectory path = .error e ∧ e ≠ .notFound := by
  unfold makeDirectory findParent locateMoves
  cases hrefusal : path.refusal? with
  | some e =>
    refine ⟨e, rfl, ?_⟩
    rintro rfl
    exact refusal?_ne_notFound hpath hrefusal
  | none =>
    refine ⟨.alreadyExists, ?_, by simp⟩
    dsimp only
    cases hlast : path.words.getLast? with
    | none =>
      have hnil : path.words = [] := List.getLast?_eq_none_iff.mp hlast
      have hstart : disk.get? (start disk.home path) = some .directory := by
        unfold start
        split
        · rfl
        · exact hdisk.home
      rw [hnil, List.dropLast_nil, List.map_nil, List.nil_append, walk_stay hstart (.inl rfl),
        walk_nil]
      rfl
    | some piece =>
      obtain ⟨front, hwords⟩ := List.getLast?_eq_some_iff.mp hlast
      rw [hwords, List.map_append, List.map_singleton] at h
      obtain ⟨left, between, hleft, hback⟩ := h.split
      rw [hwords, List.dropLast_concat, hleft, walk_stay hback.directory_here (.inl rfl),
        walk_nil, Option.map_some]
      cases hmove : Path.moveOf piece with
      | stay | up | close => rfl
      | enter name =>
        rw [hmove] at hback
        have hsome : name.length ≤ Path.maxNameBytes ∧
            (disk.get? (between ++ [name])).isSome := by
          cases hback with
          | stay _ hstay => simp at hstay
          | follow _ hsize hlink => exact ⟨hsize, by simp [hlink]⟩
          | enter _ hsize hitem => exact ⟨hsize, by simp [hitem]⟩
        simp [hsome.2, Nat.not_lt.mpr hsome.1]

/-- What making one directory preserves is preserved by making it and those it lies under, if these
are made in such a way. -/
theorem makeChain_cons {P : Disk → Prop} {disk : Disk} (hdisk : P disk) {path : Path}
    {ancestors : List Path}
    (hpath : ∀ disk made, P disk → disk.makeDirectory path = .ok made → P made)
    (hancestors : disk.makeDirectory path = .error .notFound → P (disk.makeChain ancestors).1) :
    P (disk.makeChain (path :: ancestors)).1 := by
  simp only [makeChain]
  split
  · exact hdisk
  · split
    · rename_i made hmade
      exact hpath disk made hdisk hmade
    · -- the directory above is missing, and is made first
      rename_i hmissing
      have habove := hancestors hmissing
      split
      · rename_i made e hchain
        rwa [hchain] at habove
      · rename_i made hchain
        rw [hchain] at habove
        split
        · rename_i done hdone
          exact hpath made done habove hdone
        · exact habove
    · exact hdisk

theorem furnishes_makeChain (disk : Disk) (paths : List Path) :
    Furnishes disk (disk.makeChain paths).1 := by
  induction paths generalizing disk with
  | nil => exact .refl disk
  | cons path ancestors ih =>
    apply makeChain_cons (.refl disk)
    · exact fun made done hmade hdone => hmade.trans (furnishes_makeDirectory hdone)
    · exact fun _ => ih disk

theorem furnishes_makeDirectories (disk : Disk) (path : Path) :
    Furnishes disk (disk.makeDirectories path).1 := furnishes_makeChain disk _

/-- Nothing is made where a path leads already. -/
theorem makeDirectories_of_leads {disk : Disk} (hdisk : disk.WellFormed) {path : Path}
    (hpath : path.bytes ≠ []) {place : Place}
    (h : Leads disk maxLinks (start disk.home path) (path.words.map Path.moveOf) (.taken place)) :
    (disk.makeDirectories path).1 = disk := by
  obtain ⟨e, he, hne⟩ := makeDirectory_of_leads hdisk hpath h
  obtain ⟨ancestors, hancestors⟩ : ∃ ancestors, path.ancestors = path :: ancestors := by
    unfold Path.ancestors
    cases path.components.length with
    | zero => exact ⟨[], rfl⟩
    | succ count => exact ⟨_, rfl⟩
  rw [makeDirectories, hancestors]
  apply makeChain_cons (P := (· = disk)) rfl
  · rintro _ made rfl hmade
    rw [he] at hmade
    cases hmade
  · intro hmissing
    rw [he] at hmissing
    exact absurd (Except.error.inj hmissing) hne

/-! ## Writing -/

/-- What it means that a file has been written by its path: it stands where the path leads. -/
structure Writes (before : Disk) (path : Path) (content : ByteArray) (place : Place)
    (after : Disk) : Prop where
  nonempty : place ≠ []
  put : after = before.put place (.file content)
  replaced : ∀ item, before.get? place = some item → ∃ old, item = .file old
  spot : ∃ spot, before.locate path = .ok spot ∧ spot.place = place
  wellFormed : after.WellFormed
  found : after.find path = .ok place

theorem Writes.grows {before after : Disk} {path : Path} {content : ByteArray} {place : Place}
    (h : Writes before path content place after) : Grows before after :=
  h.put ▸ grows_put h.nonempty content h.replaced

theorem Writes.get? {before after : Disk} {path : Path} {content : ByteArray} {place : Place}
    (h : Writes before path content place after) (other : Place) :
    after.get? other = if other = place then some (.file content) else before.get? other :=
  h.put ▸ get?_put h.nonempty _ other

theorem Writes.linkFreeBelow {before after : Disk} {path : Path} {content : ByteArray}
    {place root : Place} (h : Writes before path content place after)
    (hlinks : before.LinkFreeBelow root) : after.LinkFreeBelow root := by
  rintro ⟨found, item⟩ he hroot target rfl
  have hget := get?_of_mem h.wellFormed he
  rw [h.get?] at hget
  split at hget
  · cases hget
  · obtain ⟨names, rfl⟩ := hroot
    exact not_link_of_linkFreeBelow hlinks hget

/-- What is written is found by the same path. -/
theorem writes_of_write {disk after : Disk} (hdisk : disk.WellFormed) {path : Path}
    {content : ByteArray} (h : disk.write path content = .ok after) :
    ∃ place, Writes disk path content place after := by
  unfold write at h
  split at h
  · split at h <;> cases h
  · split at h
    · cases h
    · rename_i directory name closed hlocate
      split at h
      · cases h
      · rename_i hclosed
        obtain rfl : closed = false := by simpa using hclosed
        cases h
        obtain ⟨hrefusal, hleads⟩ := locate_eq_ok_iff.mp hlocate
        obtain ⟨hdirectory, hname, hfree⟩ :=
          hleads.free_spec fun other => Path.isName_of_mem_moves
        have hne : directory ++ [name] ≠ [] := by simp
        have hreplaced : ∀ item, disk.get? (directory ++ [name]) = some item →
            ∃ old, item = .file old := by
          intro item hitem
          rw [hfree] at hitem
          cases hitem
        refine ⟨directory ++ [name], hne, rfl, hreplaced, ⟨_, hlocate, rfl⟩,
          wellFormed_put_new hdisk hdirectory hname hfree _, ?_⟩
        rw [find_eq_ok_iff, locate_eq_ok_iff]
        refine ⟨hrefusal, hleads.grows (grows_put hne content hreplaced) (by simp) ?_⟩
        intro other name' hspot
        exact ⟨content, by rw [Spot.place, get?_put hne, if_pos rfl]⟩
    · rename_i place hlocate
      split at h
      · rename_i old hold
        cases h
        have hne : place ≠ [] := by
          rintro rfl
          cases hold
        have hreplaced : ∀ item, disk.get? place = some item → ∃ old, item = .file old := by
          intro item hitem
          rw [hold] at hitem
          exact ⟨old, (Option.some.inj hitem).symm⟩
        refine ⟨place, hne, rfl, hreplaced, ⟨_, hlocate, rfl⟩,
          wellFormed_put_file hdisk hne hold content, ?_⟩
        exact find_of_grows (grows_put hne content hreplaced) (find_eq_ok_iff.mpr hlocate)
      · cases h

end TestExclusions.Disk
