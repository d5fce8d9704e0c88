import TestExclusions.Disk.Basic

/-! How a disk grows: directories and files come, and files get new contents. Everything that
stood on the disk keeps its place and its kind. -/
namespace TestExclusions.Disk

/-! ## What stands at a place -/

theorem lookup_map_replace (items : List (Place × Item)) (place other : Place) (item : Item) :
    (items.map fun e => if e.1 = place then (place, item) else e).lookup other =
      if other = place then (items.lookup place).map fun _ => item else items.lookup other := by
  induction items with
  | nil => simp
  | cons e rest ih =>
    obtain ⟨found, old⟩ := e
    rw [List.map_cons]
    by_cases hfound : found = place
    · subst hfound
      by_cases hother : other = found
      · simp [hother]
      · have hne : (other == found) = false := by simpa using hother
        simp [hother, List.lookup_cons, hne, ih]
    · by_cases hother : other = found
      · subst hother
        simp [hfound]
      · have hne : (other == found) = false := by simpa using hother
        by_cases hplace : other = place
        · subst hplace
          simp [hfound, List.lookup_cons, hne, ih]
        · simp [hfound, List.lookup_cons, hne, ih, hplace]

theorem any_eq_isSome_lookup (items : List (Place × Item)) (place : Place) :
    items.any (·.1 = place) = (items.lookup place).isSome := by
  induction items with
  | nil => rfl
  | cons e rest ih =>
    obtain ⟨found, item⟩ := e
    rw [List.any_cons, ih, List.lookup_cons]
    by_cases hfound : found = place
    · simp [hfound]
    · have hne : (place == found) = false := by simpa using Ne.symm hfound
      simp [hfound, hne]

theorem get?_eq_lookup {disk : Disk} {place : Place} (h : place ≠ []) :
    disk.get? place = disk.items.lookup place := if_neg h

theorem get?_put {disk : Disk} {place : Place} (hplace : place ≠ []) (item : Item)
    (other : Place) :
    (disk.put place item).get? other = if other = place then some item else disk.get? other := by
  by_cases hnil : other = []
  · subst hnil
    simp [get?, Ne.symm hplace]
  · rw [get?_eq_lookup hnil, get?_eq_lookup hnil, put]
    dsimp only
    rw [any_eq_isSome_lookup]
    split
    · rename_i hsome
      obtain ⟨old, hold⟩ := Option.isSome_iff_exists.mp hsome
      rw [lookup_map_replace, hold]
      rfl
    · rename_i hnone
      have hnone : disk.items.lookup place = none := Option.not_isSome_iff_eq_none.mp hnone
      rw [List.lookup_append]
      by_cases hother : other = place
      · subst hother
        simp [hnone]
      · have hne : (other == place) = false := by simpa using hother
        simp [hother, List.lookup_cons, hne]

theorem mem_of_lookup {items : List (Place × Item)} {place : Place} {item : Item}
    (h : items.lookup place = some item) : (place, item) ∈ items := by
  obtain ⟨front, back, rfl, -⟩ := List.lookup_eq_some_iff.mp h
  simp

theorem mem_of_get? {disk : Disk} {place : Place} {item : Item} (hplace : place ≠ [])
    (h : disk.get? place = some item) : (place, item) ∈ disk.items :=
  mem_of_lookup (get?_eq_lookup hplace ▸ h)

theorem get?_of_mem {disk : Disk} (hdisk : disk.WellFormed) {place : Place} {item : Item}
    (h : (place, item) ∈ disk.items) : disk.get? place = some item := by
  rw [get?_eq_lookup (hdisk.nonempty _ h)]
  have hnodup := hdisk.nodup
  generalize disk.items = items at h hnodup
  induction items with
  | nil => cases h
  | cons e rest ih =>
    obtain ⟨found, other⟩ := e
    rw [List.map_cons, List.nodup_cons] at hnodup
    rcases List.mem_cons.mp h with heq | hmem
    · cases heq
      simp
    · have hne : (place == found) = false := by
        rw [beq_eq_false_iff_ne]
        rintro rfl
        exact hnodup.1 (List.mem_map.mpr ⟨_, hmem, rfl⟩)
      rw [List.lookup_cons, hne]
      exact ih hmem hnodup.2

/-- What stands below a place stands in directories. -/
theorem directory_of_get?_append {disk : Disk} (hdisk : disk.WellFormed) {place names : Place}
    {item : Item} (hnames : names ≠ []) (h : disk.get? (place ++ names) = some item) :
    disk.get? place = some .directory := by
  induction hn : names.length generalizing names item with
  | zero => exact absurd (List.length_eq_zero_iff.mp hn) hnames
  | succ n ih =>
    have hmem := mem_of_get? (by simp [hnames]) h
    have hparent := hdisk.parent _ hmem
    dsimp only at hparent
    rw [List.dropLast_append_of_ne_nil hnames] at hparent
    by_cases hfront : names.dropLast = []
    · rwa [hfront, List.append_nil] at hparent
    · exact ih hfront hparent (by simp [hn])

theorem isName_of_get?_append {disk : Disk} (hdisk : disk.WellFormed) {place names : Place}
    {item : Item} (h : disk.get? (place ++ names) = some item) :
    ∀ name ∈ names, Path.IsName name := by
  intro name hname
  have hne : place ++ names ≠ [] := fun he => by
    rw [(List.append_eq_nil_iff.mp he).2] at hname
    cases hname
  exact hdisk.named _ (mem_of_get? hne h) name (List.mem_append_right _ hname)

theorem not_link_of_linkFreeBelow {disk : Disk} {place names : Place} {target : Path}
    (hlinks : disk.LinkFreeBelow place) : disk.get? (place ++ names) ≠ some (.link target) := by
  intro h
  by_cases hne : place ++ names = []
  · rw [hne, get?, if_pos rfl] at h
    cases h
  · exact hlinks _ (mem_of_get? hne h) (List.prefix_append _ _) target rfl

/-! ## Growth -/

/-- Everything on a disk has stayed where it was, except that files may have new contents. -/
structure Grows (before after : Disk) : Prop where
  home : after.home = before.home
  unlistable : ∀ place, place ∈ after.unlistable ↔ place ∈ before.unlistable
  directory : ∀ place, before.get? place = some .directory →
    after.get? place = some .directory
  link : ∀ place target, before.get? place = some (.link target) →
    after.get? place = some (.link target)
  file : ∀ place content, before.get? place = some (.file content) →
    ∃ next, after.get? place = some (.file next)

theorem Grows.refl (disk : Disk) : Grows disk disk :=
  ⟨rfl, fun _ => .rfl, fun _ => id, fun _ _ => id, fun _ content h => ⟨content, h⟩⟩

theorem Grows.trans {a b c : Disk} (hab : Grows a b) (hbc : Grows b c) : Grows a c := by
  refine ⟨hbc.home.trans hab.home,
    fun place => (hbc.unlistable place).trans (hab.unlistable place),
    fun place h => hbc.directory _ (hab.directory _ h),
    fun place target h => hbc.link _ _ (hab.link _ _ h), fun place content h => ?_⟩
  obtain ⟨next, hnext⟩ := hab.file _ _ h
  exact hbc.file _ _ hnext

/-- Directories have come, and nothing else has changed. -/
structure AddsDirectories (before after : Disk) : Prop where
  home : after.home = before.home
  unlistable : after.unlistable = before.unlistable
  items : ∃ places : List Place,
    after.items = before.items ++ places.map fun place => (place, Item.directory)

theorem AddsDirectories.refl (disk : Disk) : AddsDirectories disk disk := ⟨rfl, rfl, [], by simp⟩

theorem AddsDirectories.trans {a b c : Disk} (hab : AddsDirectories a b)
    (hbc : AddsDirectories b c) : AddsDirectories a c := by
  obtain ⟨hhome, hunlistable, places, hitems⟩ := hab
  obtain ⟨hhome', hunlistable', places', hitems'⟩ := hbc
  refine ⟨hhome'.trans hhome, hunlistable'.trans hunlistable, places ++ places', ?_⟩
  rw [hitems', hitems, List.map_append, List.append_assoc]

theorem lookup_map_directory (places : List Place) (place : Place) {item : Item}
    (h : (places.map fun place => (place, Item.directory)).lookup place = some item) :
    item = .directory := by
  obtain ⟨other, -, heq⟩ := List.mem_map.mp (mem_of_lookup h)
  exact (Prod.mk.inj heq).2.symm

/-- What has not come as a directory stood there before. -/
theorem AddsDirectories.get?_cases {before after : Disk} (h : AddsDirectories before after)
    (place : Place) : after.get? place = before.get? place ∨
      before.get? place = none ∧ after.get? place = some .directory := by
  obtain ⟨-, -, places, hitems⟩ := h
  by_cases hnil : place = []
  · subst hnil
    exact .inl rfl
  · rw [get?_eq_lookup hnil, get?_eq_lookup hnil, hitems, List.lookup_append]
    cases hbefore : before.items.lookup place with
    | some item => exact .inl rfl
    | none =>
      rw [Option.none_or]
      cases hnew : (places.map fun place => (place, Item.directory)).lookup place with
      | none => exact .inl rfl
      | some item =>
        rw [lookup_map_directory places place hnew]
        exact .inr ⟨rfl, rfl⟩

theorem AddsDirectories.get?_of_some {before after : Disk} (h : AddsDirectories before after)
    {place : Place} {item : Item} (hitem : before.get? place = some item) :
    after.get? place = some item := by
  rcases h.get?_cases place with heq | ⟨hnone, -⟩
  · rw [heq, hitem]
  · rw [hnone] at hitem
    cases hitem

/-- New directories bring no file. -/
theorem AddsDirectories.file_iff {before after : Disk} (h : AddsDirectories before after)
    {place : Place} {content : ByteArray} :
    after.get? place = some (.file content) ↔ before.get? place = some (.file content) := by
  refine ⟨fun hfile => ?_, h.get?_of_some⟩
  rcases h.get?_cases place with heq | ⟨-, hdirectory⟩
  · rw [← heq, hfile]
  · rw [hdirectory] at hfile
    cases hfile

theorem AddsDirectories.grows {before after : Disk} (h : AddsDirectories before after) :
    Grows before after :=
  ⟨h.home, fun _ => by rw [h.unlistable], fun _ => h.get?_of_some, fun _ _ => h.get?_of_some,
    fun _ content hfile => ⟨content, h.get?_of_some hfile⟩⟩

theorem AddsDirectories.linkFreeBelow {before after : Disk} (h : AddsDirectories before after)
    {place : Place} (hlinks : before.LinkFreeBelow place) : after.LinkFreeBelow place := by
  obtain ⟨-, -, places, hitems⟩ := h
  intro e he hplace target
  rw [hitems] at he
  rcases List.mem_append.mp he with he | he
  · exact hlinks e he hplace target
  · obtain ⟨other, -, rfl⟩ := List.mem_map.mp he
    simp

/-- A file is put where a file or nothing stood. -/
theorem grows_put {disk : Disk} {place : Place} (hplace : place ≠ []) (content : ByteArray)
    (h : ∀ item, disk.get? place = some item → ∃ old, item = .file old) :
    Grows disk (disk.put place (.file content)) := by
  refine ⟨rfl, fun _ => .rfl, fun other hother => ?_, fun other target hother => ?_,
    fun other old hother => ?_⟩
  · rw [get?_put hplace]
    split
    · rename_i heq
      obtain ⟨old, hold⟩ := h _ (heq ▸ hother)
      cases hold
    · exact hother
  · rw [get?_put hplace]
    split
    · rename_i heq
      obtain ⟨old, hold⟩ := h _ (heq ▸ hother)
      cases hold
    · exact hother
  · rw [get?_put hplace]
    split
    · exact ⟨content, rfl⟩
    · exact ⟨old, hother⟩

/-! ## Well-formedness -/

/-- An item may come wherever a directory has no entry of its name. -/
theorem wellFormed_put_new {disk : Disk} (hdisk : disk.WellFormed) {directory : Place}
    {name : Bytes} (hdirectory : disk.get? directory = some .directory)
    (hname : Path.IsName name) (hfree : disk.get? (directory ++ [name]) = none) (item : Item) :
    (disk.put (directory ++ [name]) item).WellFormed := by
  have hne : directory ++ [name] ≠ [] := by simp
  have hitems : (disk.put (directory ++ [name]) item).items =
      disk.items ++ [(directory ++ [name], item)] := by
    rw [get?_eq_lookup hne] at hfree
    simp [put, any_eq_isSome_lookup, hfree]
  have hkept : ∀ place, disk.get? place = some .directory →
      (disk.put (directory ++ [name]) item).get? place = some .directory := by
    intro place hplace
    rw [get?_put hne, if_neg, hplace]
    rintro rfl
    rw [hfree] at hplace
    cases hplace
  refine ⟨?_, ?_, ?_, ?_, hkept _ hdisk.home, fun place h => hkept _ (hdisk.unlistable place h)⟩
  · rw [hitems, List.map_append, List.nodup_append]
    refine ⟨hdisk.nodup, by simp, ?_⟩
    intro place hplace other hother
    obtain ⟨e, he, rfl⟩ := List.mem_map.mp hplace
    obtain rfl : other = directory ++ [name] := by simpa using hother
    intro heq
    have hget : disk.get? e.1 = some e.2 := get?_of_mem hdisk he
    rw [heq, hfree] at hget
    cases hget
  · rw [hitems]
    intro e he
    rcases List.mem_append.mp he with he | he
    · exact hdisk.nonempty e he
    · obtain rfl : e = (directory ++ [name], item) := by simpa using he
      exact hne
  · rw [hitems]
    intro e he
    rcases List.mem_append.mp he with he | he
    · exact hdisk.named e he
    · obtain rfl : e = (directory ++ [name], item) := by simpa using he
      intro other hother
      rcases List.mem_append.mp hother with hother | hother
      · rw [← List.nil_append directory] at hdirectory
        exact isName_of_get?_append hdisk hdirectory other hother
      · obtain rfl : other = name := by simpa using hother
        exact hname
  · rw [hitems]
    intro e he
    rcases List.mem_append.mp he with he | he
    · exact hkept _ (hdisk.parent e he)
    · obtain rfl : e = (directory ++ [name], item) := by simpa using he
      simpa using hkept _ hdirectory

/-- A file may change its contents. -/
theorem wellFormed_put_file {disk : Disk} (hdisk : disk.WellFormed) {place : Place}
    {old : ByteArray} (hplace : place ≠ []) (hfile : disk.get? place = some (.file old))
    (content : ByteArray) : (disk.put place (.file content)).WellFormed := by
  have hgrows : Grows disk (disk.put place (.file content)) := by
    apply grows_put hplace
    intro item hitem
    rw [hfile] at hitem
    exact ⟨old, (Option.some.inj hitem).symm⟩
  have hplaces : (disk.put place (.file content)).items.map (·.1) = disk.items.map (·.1) := by
    rw [get?_eq_lookup hplace] at hfile
    simp only [put, any_eq_isSome_lookup, hfile, Option.isSome_some, if_true, List.map_map]
    apply List.map_congr_left
    intro e he
    by_cases heq : e.1 = place
    · simp [heq]
    · simp [heq]
  have hmem : ∀ e ∈ (disk.put place (.file content)).items, ∃ e' ∈ disk.items, e'.1 = e.1 := by
    intro e he
    have h : e.1 ∈ (disk.put place (.file content)).items.map (·.1) := List.mem_map_of_mem he
    rw [hplaces] at h
    exact List.mem_map.mp h
  refine ⟨?_, ?_, ?_, ?_, hgrows.directory _ hdisk.home,
    fun place h => hgrows.directory _ (hdisk.unlistable place h)⟩
  · rw [hplaces]
    exact hdisk.nodup
  · intro e he
    obtain ⟨e', he', heq⟩ := hmem e he
    exact heq ▸ hdisk.nonempty e' he'
  · intro e he
    obtain ⟨e', he', heq⟩ := hmem e he
    exact heq ▸ hdisk.named e' he'
  · intro e he
    obtain ⟨e', he', heq⟩ := hmem e he
    exact hgrows.directory _ (heq ▸ hdisk.parent e' he')

end TestExclusions.Disk
