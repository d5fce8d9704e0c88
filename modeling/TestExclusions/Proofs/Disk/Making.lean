import Mathlib.Data.List.Induction
import TestExclusions.Proofs.Disk.Spelling
import TestExclusions.Proofs.Path.Parent
import TestExclusions.Proofs.SuiteFile

/-! Making directories along names. Names lead through directories up to the first one that does not
lead to one; only if nothing stands there is a directory made, and then those behind it. -/
namespace TestExclusions.Disk

/-! ## Directories behind names -/

theorem refusal?_of_directory? {disk : Disk} {path : Path} {place : Place}
    (h : disk.directory? path = some place) : path.refusal? = none :=
  (locate_eq_ok_iff.mp (find_eq_ok_iff.mp (directory?_eq_some_iff.mp h).1)).1

/-- A slash at the end of a path to a directory changes nothing. -/
theorem directory?_eq_some_iff_leads {disk : Disk} {path : Path} (hrefusal : path.refusal? = none)
    {place : Place} : disk.directory? path = some place ↔
      Leads disk maxLinks (start disk.home path) (path.words.map Path.moveOf) (.taken place) ∧
        disk.get? place = some .directory := by
  rw [directory?_eq_some_iff, find_eq_ok_iff, locate_eq_ok_iff, Path.moves]
  constructor
  · rintro ⟨⟨-, hleads⟩, hplace⟩
    exact ⟨hleads.of_stays (by split <;> simp), hplace⟩
  · rintro ⟨hleads, hplace⟩
    rw [← List.append_nil (path.words.map Path.moveOf)] at hleads
    obtain ⟨left, hleft⟩ := hleads.walk_append (by simp)
    refine ⟨⟨hrefusal, ?_⟩, hplace⟩
    rw [← walk_eq_ok_iff, hleft]
    split
    · rw [walk_stay hplace (.inr rfl), walk_nil]
    · exact walk_nil _ _ _

/-- A walk that goes on behind a path has come to a directory. -/
theorem exists_directory_of_leads {disk : Disk} {path : Path} (hrefusal : path.refusal? = none)
    {move : Move} {rest : List Move} {place : Place}
    (h : Leads disk maxLinks (start disk.home path)
      (path.words.map Path.moveOf ++ move :: rest) (.taken place)) :
    ∃ directory, disk.directory? path = some directory := by
  obtain ⟨left, between, hleft, hback⟩ := h.split
  refine ⟨between, (directory?_eq_some_iff_leads hrefusal).mpr ⟨?_, hback.directory_here⟩⟩
  have harrives := hleft []
  rw [List.append_nil, walk_nil] at harrives
  exact walk_eq_ok_iff.mp harrives

/-- What is looked up behind a path is looked up behind a directory. -/
theorem directory?_of_findParent_enter {disk : Disk} {path : Path} (hpath : path.bytes ≠ [])
    {names : List Bytes} {last : Bytes} (hnames : ∀ name ∈ names ++ [last], Path.IsName name)
    {place : Place} (h : disk.findParent (path.enter (names ++ [last])) = .ok place) :
    ∃ directory, disk.directory? path = some directory := by
  obtain ⟨hrefusal, hleads⟩ := findParent_eq_ok_iff.mp h
  have hfront := Path.refusal?_of_enter hpath hnames hrefusal
  rw [Path.words_enter hnames hpath, ← List.append_assoc, List.dropLast_concat, List.map_append,
    List.append_assoc, start, Path.isAbsolute_enter hnames hpath, ← start] at hleads
  cases names with
  | nil => exact exists_directory_of_leads hfront hleads
  | cons name rest => exact exists_directory_of_leads hfront hleads

/-- A file stands in a directory. -/
theorem directory?_of_find_push {disk : Disk} {path : Path} (hpath : path.bytes ≠ [])
    {name : Bytes} (hname : Path.IsName name) {place : Place}
    (h : disk.find (path.push name) = .ok place) :
    ∃ directory, disk.directory? path = some directory := by
  have hnames : ∀ other ∈ [name], Path.IsName other := by simpa using hname
  have hpush : path.push name = path.enter [name] := rfl
  rw [hpush] at h
  obtain ⟨hrefusal, hleads⟩ := locate_eq_ok_iff.mp (find_eq_ok_iff.mp h)
  have hrefusal := Path.refusal?_of_enter hpath hnames hrefusal
  rw [Path.moves_enter hnames hpath (by simp), start, Path.isAbsolute_enter hnames hpath,
    ← start] at hleads
  exact exists_directory_of_leads hrefusal hleads

/-- Names lead to a directory, or through directories up to one of them that does not. -/
theorem exists_first_missing {disk : Disk} {root : Path} {place : Place}
    (hroot : disk.directory? root = some place) (names : List Bytes) :
    (∃ directory, disk.directory? (root.enter names) = some directory) ∨
      ∃ front name rest directory, names = front ++ name :: rest ∧
        disk.directory? (root.enter front) = some directory ∧
        disk.directory? ((root.enter front).push name) = none := by
  induction names generalizing root place with
  | nil => exact .inl ⟨place, hroot⟩
  | cons name rest ih =>
    cases hnext : disk.directory? (root.push name) with
    | none => exact .inr ⟨[], name, rest, place, rfl, hroot, hnext⟩
    | some next =>
      rcases ih hnext with hall | ⟨front, other, more, directory, rfl, hfront, hnone⟩
      · exact .inl hall
      · exact .inr ⟨name :: front, other, more, directory, rfl, hfront, hnone⟩

/-! ## One directory -/

section Behind
variable {disk : Disk} {path : Path} {directory : Place}
  (hpath : disk.directory? path = some directory)
include hpath

/-- The parent of what names lead to is found by a walk from the directory in front of them. -/
theorem findParent_enter {names : List Bytes} {last : Bytes}
    (hnames : ∀ name ∈ names ++ [last], Path.IsName name)
    (hrefusal : (path.enter (names ++ [last])).refusal? = none) :
    ∃ left, disk.findParent (path.enter (names ++ [last])) =
      match disk.walk left directory (names.map .enter ++ [.stay]) with
      | .ok (.taken place) => .ok place
      | .ok (.free ..) => .error .notFound
      | .error e => .error e := by
  obtain ⟨hfind, -⟩ := directory?_eq_some_iff.mp hpath
  have hbytes := bytes_ne_of_find hfind
  obtain ⟨left, hleft⟩ := walk_words_append hfind
  have hmoves : names.map Path.moveOf = names.map Move.enter :=
    List.map_congr_left fun name hname =>
      Path.moveOf_name (hnames name (List.mem_append_left _ hname))
  refine ⟨left, ?_⟩
  unfold findParent locateMoves
  rw [hrefusal, Path.words_enter hnames hbytes, ← List.append_assoc, List.dropLast_concat,
    List.map_append, hmoves, List.append_assoc, start, Path.isAbsolute_enter hnames hbytes, ← start]
  exact hleft (names.map .enter ++ [.stay]) ▸ rfl

theorem lastMove_enter {names : List Bytes} {last : Bytes}
    (hnames : ∀ name ∈ names ++ [last], Path.IsName name) :
    (path.enter (names ++ [last])).words.getLast?.map Path.moveOf = some (.enter last) := by
  have hbytes := bytes_ne_of_directory? hpath
  rw [Path.words_enter hnames hbytes, ← List.append_assoc, List.getLast?_concat, Option.map_some,
    Path.moveOf_name (hnames last (by simp))]

/-- A name behind a directory is that of a new one, unless it is too long or taken. -/
theorem makeDirectory_push {name : Bytes} (hname : Path.IsName name)
    (hrefusal : (path.push name).refusal? = none) :
    disk.makeDirectory (path.push name) =
      if name.length > Path.maxNameBytes then .error .nameTooLong
      else if (disk.get? (directory ++ [name])).isSome then .error .alreadyExists
      else .ok (disk.put (directory ++ [name]) .directory) := by
  have hnames : ∀ other ∈ [] ++ [name], Path.IsName other := by simpa using hname
  obtain ⟨-, hdirectory⟩ := directory?_eq_some_iff.mp hpath
  obtain ⟨left, hparent⟩ := findParent_enter hpath hnames hrefusal
  have hlast := lastMove_enter hpath hnames
  rw [List.nil_append, Path.enter, List.foldl_cons, List.foldl_nil] at hparent hlast
  rw [List.map_nil, List.nil_append, walk_stay hdirectory (.inl rfl), walk_nil] at hparent
  rw [makeDirectory, hparent]
  dsimp only
  rw [hlast]

/-- A directory that stands behind another one is found there. -/
theorem directory?_push {name : Bytes} (hdisk : disk.WellFormed)
    (hrefusal : (path.push name).refusal? = none) (hsize : name.length ≤ Path.maxNameBytes)
    (hmade : disk.get? (directory ++ [name]) = some .directory) :
    disk.directory? (path.push name) = some (directory ++ [name]) := by
  obtain ⟨hfind, -⟩ := directory?_eq_some_iff.mp hpath
  have hfound : disk.find (path.push name) = reach path directory [name] :=
    find_enter hfind hdisk (by simp) hmade (by simp)
  have hrefusal : (path.enter [name]).refusal? = none := hrefusal
  rw [directory?_eq_some_iff, hfound, reach, hrefusal]
  simp [Nat.not_lt.mpr hsize, hmade]

variable {name : Bytes} (hname : Path.IsName name)
  (hsize : name.length ≤ Path.maxNameBytes) (hfree : disk.get? (directory ++ [name]) = none)
include hname hsize hfree

/-- A directory is made behind another one, and nothing stands in it. -/
theorem makeDirectory_free (hdisk : disk.WellFormed)
    (hrefusal : (path.push name).refusal? = none) :
    ∃ made, disk.makeDirectory (path.push name) = .ok made ∧ Furnishes disk made ∧
      made.get? (directory ++ [name]) = some .directory ∧
      made.directory? (path.push name) = some (directory ++ [name]) ∧
      ∀ next, made.get? (directory ++ [name] ++ [next]) = none := by
  have hmade : disk.makeDirectory (path.push name) =
      .ok (disk.put (directory ++ [name]) .directory) := by
    rw [makeDirectory_push hpath hname hrefusal, if_neg (by omega), hfree]
    rfl
  have hput : ∀ place, (disk.put (directory ++ [name]) .directory).get? place = _ :=
    get?_put (by simp) .directory
  have hfurnishes := furnishes_makeDirectory hmade
  obtain ⟨hadds, hwellFormed⟩ := hfurnishes hdisk
  have hstands : (disk.put (directory ++ [name]) .directory).get? (directory ++ [name]) =
      some .directory := by rw [hput, if_pos rfl]
  refine ⟨_, hmade, hfurnishes, hstands, ?_, fun next => ?_⟩
  · exact directory?_push (directory?_of_grows hadds.grows hpath) hwellFormed hrefusal hsize hstands
  · rw [hput, if_neg (by simp)]
    cases hnext : disk.get? (directory ++ [name] ++ [next]) with
    | none => rfl
    | some item =>
      have hdirectory := directory_of_get?_append hdisk (by simp) hnext
      rw [hfree] at hdirectory
      cases hdirectory

/-- A directory is missing on the way to all that lies behind a free name. -/
theorem makeDirectory_behind_free {names : List Bytes} {last : Bytes}
    (hnames : ∀ other ∈ names ++ [last], Path.IsName other)
    (hrefusal : ((path.push name).enter (names ++ [last])).refusal? = none) :
    disk.makeDirectory ((path.push name).enter (names ++ [last])) = .error .notFound := by
  have hall : ∀ other ∈ (name :: names) ++ [last], Path.IsName other :=
    List.forall_mem_cons.mpr ⟨hname, hnames⟩
  obtain ⟨-, hdirectory⟩ := directory?_eq_some_iff.mp hpath
  obtain ⟨left, hparent⟩ := findParent_enter hpath hall hrefusal
  have hclose : names.map Move.enter ++ [.stay] ≠ [Move.close] := by
    intro h
    have hlast := congrArg List.getLast? h
    simp at hlast
  simp only [List.map_cons, List.cons_append] at hparent
  rw [walk_free hdirectory hsize hfree, if_neg (by simp), if_neg hclose] at hparent
  have hsame : (path.push name).enter (names ++ [last]) = path.enter (name :: (names ++ [last])) :=
    rfl
  rw [makeDirectory, hsame, hparent]

/-- A file can be written where a name is free. -/
theorem write_free (hrefusal : (path.push name).refusal? = none) (content : ByteArray) :
    ∃ after, disk.write (path.push name) content = .ok after := by
  obtain ⟨hfind, hdirectory⟩ := directory?_eq_some_iff.mp hpath
  have hbytes := bytes_ne_of_find hfind
  have hnames : ∀ other ∈ [name], Path.IsName other := by simpa using hname
  obtain ⟨left, hleft⟩ := locate_enter hfind hnames (by simp) hrefusal
  have hlocate : disk.locate (path.push name) = .ok (.free directory name false) := by
    refine hleft.trans ?_
    rw [List.map_singleton, walk_free hdirectory hsize hfree, if_pos rfl]
  refine ⟨disk.put (directory ++ [name]) (.file content), ?_⟩
  rw [write, Path.endsInSlash_push hname hbytes, hlocate]
  simp

end Behind

/-! ## All directories on the way -/

theorem components_enter_ne_nil {path : Path} (hpath : path.bytes ≠ []) {names : List Bytes}
    {last : Bytes} (hnames : ∀ name ∈ names ++ [last], Path.IsName name) :
    (path.enter (names ++ [last])).components ≠ [] := by
  rw [Path.components_enter hnames hpath]
  simp

/-- What is made above a directory that is missing stays. -/
theorem furnishes_makeChain_cons {disk : Disk} {path : Path} {ancestors : List Path}
    (hcomponents : path.components ≠ []) (h : disk.makeDirectory path = .error .notFound) :
    Furnishes (disk.makeChain ancestors).1 (disk.makeChain (path :: ancestors)).1 := by
  rw [makeChain, if_neg hcomponents, h]
  rcases disk.makeChain ancestors with ⟨made, result⟩
  dsimp only
  cases result with
  | error e => exact .refl made
  | ok _ =>
    dsimp only
    cases hdone : made.makeDirectory path with
    | error e => exact .refl made
    | ok done => exact furnishes_makeDirectory hdone

theorem makeDirectories_push {disk made : Disk} {path : Path} (hpath : path.bytes ≠ [])
    {name : Bytes} (hname : Path.IsName name)
    (h : disk.makeDirectory (path.push name) = .ok made) :
    disk.makeDirectories (path.push name) = (made, .ok ()) := by
  have hcomponents : (path.push name).components ≠ [] := by
    simp [Path.components_push hname hpath]
  obtain ⟨_, -, -, -, hparent⟩ := Path.parent?_push hname hpath
  rw [makeDirectories, Path.ancestors_push hname hpath hparent, makeChain, if_neg hcomponents, h]

section Chain
variable {disk : Disk} {path : Path} {directory : Place}
  (hpath : disk.directory? path = some directory) (hdisk : disk.WellFormed) {name : Bytes}
  {names : List Bytes} (hnames : ∀ other ∈ name :: names, Path.IsName other)
  (hrefusal : ((path.push name).enter names).refusal? = none)
include hpath hdisk hnames hrefusal

/-- The first directory that is missing is made, whatever comes of the others. -/
theorem get?_makeDirectories_free (hsize : name.length ≤ Path.maxNameBytes)
    (hfree : disk.get? (directory ++ [name]) = none) :
    (disk.makeDirectories ((path.push name).enter names)).1.get? (directory ++ [name]) =
      some .directory := by
  have hbytes := bytes_ne_of_directory? hpath
  obtain ⟨hname, hrest⟩ := List.forall_mem_cons.mp hnames
  induction names using List.reverseRecOn with
  | nil =>
    obtain ⟨made, hmade, -, hstands, -⟩ :=
      makeDirectory_free hpath hname hsize hfree hdisk hrefusal
    rw [Path.enter, List.foldl_nil, makeDirectories_push hbytes hname hmade]
    exact hstands
  | append_singleton front last ih =>
    have hpush := Path.bytes_push_ne hname hbytes
    have hfront : ∀ other ∈ front, Path.IsName other :=
      fun other hother => hrest other (List.mem_append_left _ hother)
    have hrefusal' := Path.refusal?_enter_of_concat hpush hrest hrefusal
    have hbefore := ih (List.forall_mem_cons.mpr ⟨hname, hfront⟩) hrefusal' hfront
    have hmissing := makeDirectory_behind_free hpath hname hsize hfree hrest hrefusal
    have hcomponents := components_enter_ne_nil hpush hrest
    obtain ⟨-, hwellFormed⟩ := furnishes_makeDirectories disk ((path.push name).enter front) hdisk
    rw [makeDirectories, Path.ancestors_enter_concat hnames hbytes]
    exact (furnishes_makeChain_cons hcomponents hmissing hwellFormed).1.get?_of_some hbefore

/-- If no name is too long, all directories are made, and nothing stands in the last one. -/
theorem makeDirectories_free (hfree : disk.get? (directory ++ [name]) = none)
    (hsizes : ∀ other ∈ name :: names, other.length ≤ Path.maxNameBytes) :
    ∃ made, disk.makeDirectories ((path.push name).enter names) = (made, .ok ()) ∧
      made.WellFormed ∧
      made.directory? ((path.push name).enter names) = some (directory ++ name :: names) ∧
      ∀ next, made.get? (directory ++ name :: names ++ [next]) = none := by
  have hbytes := bytes_ne_of_directory? hpath
  obtain ⟨hname, hrest⟩ := List.forall_mem_cons.mp hnames
  obtain ⟨hsize, hmore⟩ := List.forall_mem_cons.mp hsizes
  induction names using List.reverseRecOn with
  | nil =>
    obtain ⟨made, hmade, hfurnishes, -, hfound, hempty⟩ :=
      makeDirectory_free hpath hname hsize hfree hdisk hrefusal
    exact ⟨made, makeDirectories_push hbytes hname hmade, (hfurnishes hdisk).2, hfound, hempty⟩
  | append_singleton front last ih =>
    have hpush := Path.bytes_push_ne hname hbytes
    have hfront : ∀ other ∈ front, Path.IsName other :=
      fun other hother => hrest other (List.mem_append_left _ hother)
    have hlast : Path.IsName last := hrest last (by simp)
    have hrefusal' := Path.refusal?_enter_of_concat hpush hrest hrefusal
    have hsizes' : ∀ other ∈ front, other.length ≤ Path.maxNameBytes :=
      fun other hother => hmore other (List.mem_append_left _ hother)
    obtain ⟨made, hmade, hwellFormed, hfound, hempty⟩ :=
      ih (List.forall_mem_cons.mpr ⟨hname, hfront⟩) hrefusal'
        (List.forall_mem_cons.mpr ⟨hsize, hsizes'⟩) hfront hsizes'
    have hmissing := makeDirectory_behind_free hpath hname hsize hfree hrest hrefusal
    have hcomponents := components_enter_ne_nil hpush hrest
    -- once the directories in front are there, the last one is made like the first
    have hrefusal'' := hrefusal
    rw [Path.enter_concat] at hrefusal''
    obtain ⟨done, hdone, hfurnishes, -, hfound', hempty'⟩ :=
      makeDirectory_free hfound hlast (hmore last (by simp)) (hempty last) hwellFormed hrefusal''
    rw [← Path.enter_concat] at hdone hfound'
    have hplace : directory ++ name :: (front ++ [last]) = directory ++ name :: front ++ [last] := by
      simp
    rw [hplace]
    refine ⟨done, ?_, (hfurnishes hwellFormed).2, hfound', hempty'⟩
    rw [makeDirectories, Path.ancestors_enter_concat hnames hbytes, makeChain, if_neg hcomponents,
      hmissing]
    dsimp only
    rw [← makeDirectories, hmade]
    dsimp only
    rw [hdone]

/-- Nothing is made behind a name that leads to no directory, but is too long or taken. -/
theorem makeDirectories_blocked (hnone : disk.directory? (path.push name) = none)
    (hblocked : Path.maxNameBytes < name.length ∨
      (disk.get? (directory ++ [name])).isSome) :
    (disk.makeDirectories ((path.push name).enter names)).1 = disk := by
  have hbytes := bytes_ne_of_directory? hpath
  obtain ⟨hname, hrest⟩ := List.forall_mem_cons.mp hnames
  have hpush := Path.bytes_push_ne hname hbytes
  unfold makeDirectories
  induction names using List.reverseRecOn with
  | nil =>
    obtain ⟨e, hfails, hne⟩ : ∃ e, disk.makeDirectory (path.push name) = .error e ∧
        e ≠ .notFound := by
      rw [makeDirectory_push hpath hname hrefusal]
      by_cases hsize : name.length > Path.maxNameBytes
      · exact ⟨.nameTooLong, if_pos hsize, by simp⟩
      · rw [if_neg hsize, if_pos (hblocked.resolve_left hsize)]
        exact ⟨.alreadyExists, rfl, by simp⟩
    obtain ⟨_, -, -, -, hparent⟩ := Path.parent?_push hname hbytes
    rw [Path.enter, List.foldl_nil, Path.ancestors_push hname hbytes hparent]
    apply makeChain_cons (P := (· = disk)) rfl
    · rintro _ made rfl hmade
      rw [hfails] at hmade
      cases hmade
    · intro hmissing
      rw [hfails] at hmissing
      exact absurd (Except.error.inj hmissing) hne
  | append_singleton front last ih =>
    have hfront : ∀ other ∈ front, Path.IsName other :=
      fun other hother => hrest other (List.mem_append_left _ hother)
    have hrefusal' := Path.refusal?_enter_of_concat hpush hrest hrefusal
    rw [Path.ancestors_enter_concat hnames hbytes]
    apply makeChain_cons (P := (· = disk)) rfl
    · rintro _ made rfl hmade
      obtain ⟨parent, _, hparent, -⟩ := makeDirectory_eq_ok_iff.mp hmade
      obtain ⟨found, hfound⟩ := directory?_of_findParent_enter hpush hrest hparent
      rw [hnone] at hfound
      cases hfound
    · exact fun _ => ih (List.forall_mem_cons.mpr ⟨hname, hfront⟩) hrefusal' hfront

end Chain

end TestExclusions.Disk
