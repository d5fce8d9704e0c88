import TestExclusions.Disk.Walk
import TestExclusions.Proofs.Text.Bytes
import TestExclusions.Proofs.Text.Split

/-! Paths that enter names. Every name adds one word, one move and one component at the end, and
nothing in front of it changes. -/
namespace TestExclusions

namespace Path

/-! ## Names -/

/-- A text that a path can enter. -/
theorem isName_utf8_iff {text : String} : IsName (Text.utf8 text) ↔
    text ≠ "" ∧ text ≠ "." ∧ text ≠ ".." ∧ '/' ∉ text.toList := by
  have hdot : Text.utf8 text = [dot] ↔ text = "." :=
    Text.utf8_injective.eq_iff' (by decide)
  have hdots : Text.utf8 text = [dot, dot] ↔ text = ".." :=
    Text.utf8_injective.eq_iff' (by decide)
  have hslash : slash ∈ Text.utf8 text ↔ '/' ∈ text.toList :=
    Text.toUInt8_mem_utf8_iff (by decide)
  simp only [IsName, ne_eq, Text.utf8_eq_nil_iff, hdot, hdots, hslash]

/-! ## Entering one name -/

theorem IsName.head?_ne {name : Bytes} (h : IsName name) : name.head? ≠ some slash :=
  fun hhead => h.2.2.2 (List.mem_of_head? hhead)

/-- The bytes of a path with a name behind it: what was in front of the last slash, if that was
the end, and a slash between the two. -/
theorem bytes_push {path : Path} {name : Bytes} (hname : IsName name) (hpath : path.bytes ≠ []) :
    ∃ front, (path.push name).bytes = front ++ slash :: name ∧
      (path.bytes = front ∨ path.bytes = front ++ [slash]) := by
  unfold push
  rw [if_neg hname.head?_ne]
  by_cases hslash : path.bytes.getLast? = some slash
  · obtain ⟨front, hfront⟩ := List.getLast?_eq_some_iff.mp hslash
    refine ⟨front, ?_, .inr hfront⟩
    simp [hfront]
  · refine ⟨path.bytes, ?_, .inl rfl⟩
    simp [hslash, hpath]

/-- A path and one that enters a name share the pieces in front of the name; a slash at the end adds
an empty one to the former. -/
theorem pieces_push {path : Path} {name : Bytes} (hname : IsName name) (hpath : path.bytes ≠ []) :
    ∃ kept, kept ≠ [] ∧ (path.push name).pieces = kept ++ [name] ∧
      (path.pieces = kept ∨ path.pieces = kept ++ [[]]) := by
  obtain ⟨front, hbytes, hfront⟩ := bytes_push hname hpath
  refine ⟨Text.splitAt slash front, Text.splitAt_ne_nil _ _, ?_, ?_⟩
  · rw [pieces, hbytes, Text.splitAt_append, Text.splitAt_of_not_mem hname.2.2.2]
  · unfold pieces
    rcases hfront with hfront | hfront
    · exact .inl (by rw [hfront])
    · exact .inr (by rw [hfront, Text.splitAt_append]; rfl)

theorem words_of_pieces {path : Path} {kept : List Bytes}
    (h : path.pieces = kept ∨ path.pieces = kept ++ [[]]) : path.words = kept.filter (· ≠ []) := by
  rcases h with h | h
  · rw [words, h]
  · rw [words, h, List.filter_append]
    simp

theorem words_push {path : Path} {name : Bytes} (hname : IsName name) (hpath : path.bytes ≠ []) :
    (path.push name).words = path.words ++ [name] := by
  obtain ⟨kept, -, hpieces, hkept⟩ := pieces_push hname hpath
  rw [words, hpieces, List.filter_append, ← words_of_pieces hkept]
  simp [hname.1]

theorem endsInSlash_push {path : Path} {name : Bytes} (hname : IsName name)
    (hpath : path.bytes ≠ []) : (path.push name).endsInSlash = false := by
  obtain ⟨front, hbytes, -⟩ := bytes_push hname hpath
  have hlast : ((front ++ [slash]) ++ name).getLast? ≠ some slash := by
    intro hlast
    rw [List.getLast?_append, List.getLast?_eq_some_getLast hname.1,
      Option.some_or] at hlast
    have hmem := List.getLast_mem hname.1
    rw [Option.some.inj hlast] at hmem
    exact hname.2.2.2 hmem
  unfold endsInSlash
  rw [hbytes]
  simpa using hlast

theorem isAbsolute_push {path : Path} {name : Bytes} (hname : IsName name)
    (hpath : path.bytes ≠ []) : (path.push name).isAbsolute = path.isAbsolute := by
  obtain ⟨front, hbytes, hfront⟩ := bytes_push hname hpath
  unfold isAbsolute
  rw [hbytes]
  cases front with
  | nil =>
    rcases hfront with hfront | hfront
    · exact absurd hfront (by simpa using hpath)
    · simp [hfront]
  | cons c rest =>
    rcases hfront with hfront | hfront
    · simp [hfront]
    · simp [hfront]

theorem bytes_push_ne {path : Path} {name : Bytes} (hname : IsName name)
    (hpath : path.bytes ≠ []) : (path.push name).bytes ≠ [] := by
  obtain ⟨front, hbytes, -⟩ := bytes_push hname hpath
  intro h
  rw [h] at hbytes
  simp at hbytes

theorem componentOf?_name {name : Bytes} (hname : IsName name) :
    componentOf? name = some (.name name) := by
  simp [componentOf?, hname.1, hname.2.1, hname.2.2.1]

/-- A name is one more component. -/
theorem components_push {path : Path} {name : Bytes} (hname : IsName name)
    (hpath : path.bytes ≠ []) : (path.push name).components = path.components ++ [.name name] := by
  obtain ⟨kept, hkept, hpieces, hpath'⟩ := pieces_push hname hpath
  obtain ⟨first, more, rfl⟩ := List.exists_cons_of_ne_nil hkept
  have hempty : componentOf? [] = none := rfl
  unfold components
  rw [hpieces, isAbsolute_push hname hpath]
  rcases hpath' with hpath' | hpath'
  · simp [hpath', componentOf?_name hname]
  · simp [hpath', componentOf?_name hname, hempty]

theorem fileName?_push {path : Path} {name : Bytes} (hname : IsName name)
    (hpath : path.bytes ≠ []) : (path.push name).fileName? = some name := by
  rw [fileName?, components_push hname hpath, List.getLast?_concat]

/-! ## Entering several names -/

theorem enter_concat (path : Path) (names : List Bytes) (name : Bytes) :
    path.enter (names ++ [name]) = (path.enter names).push name := by
  simp [enter]

theorem enter_append (path : Path) (front back : List Bytes) :
    path.enter (front ++ back) = (path.enter front).enter back := by
  simp [enter]

theorem bytes_enter_ne {path : Path} {names : List Bytes} (hnames : ∀ name ∈ names, IsName name)
    (hpath : path.bytes ≠ []) : (path.enter names).bytes ≠ [] := by
  induction names generalizing path with
  | nil => exact hpath
  | cons name rest ih =>
    have hname := hnames name List.mem_cons_self
    exact ih (fun n hn => hnames n (List.mem_cons_of_mem _ hn)) (bytes_push_ne hname hpath)

theorem components_enter {path : Path} {names : List Bytes}
    (hnames : ∀ name ∈ names, IsName name) (hpath : path.bytes ≠ []) :
    (path.enter names).components = path.components ++ names.map .name := by
  induction names generalizing path with
  | nil => simp [enter]
  | cons name rest ih =>
    have hname := hnames name List.mem_cons_self
    have hrest := ih (fun n hn => hnames n (List.mem_cons_of_mem _ hn)) (bytes_push_ne hname hpath)
    rw [components_push hname hpath] at hrest
    rw [enter, List.foldl_cons, ← enter, hrest]
    simp

theorem components_of_isName {name : Bytes} (hname : IsName name) :
    (⟨name⟩ : Path).components = [.name name] := by
  have hpieces : (⟨name⟩ : Path).pieces = [name] := Text.splitAt_of_not_mem hname.2.2.2
  simp [components, hpieces, isAbsolute, hname.head?_ne, hname.2.1,
    componentOf?_name hname]

/-- Names add their components to any path: the first one behind the empty path stands alone. -/
theorem components_enter_names {path : Path} {names : List Bytes}
    (hnames : ∀ name ∈ names, IsName name) :
    (path.enter names).components = path.components ++ names.map .name := by
  by_cases hpath : path.bytes = []
  · obtain rfl : path = ⟨[]⟩ := by rw [← hpath]
    cases names with
    | nil => rfl
    | cons name rest =>
      obtain ⟨hname, hrest⟩ := List.forall_mem_cons.mp hnames
      have hpush : (⟨[]⟩ : Path).push name = ⟨name⟩ := by simp [push, hname.head?_ne]
      rw [enter, List.foldl_cons, ← enter, hpush, components_enter hrest hname.1,
        components_of_isName hname]
      rfl
  · exact components_enter hnames hpath

theorem words_enter {path : Path} {names : List Bytes} (hnames : ∀ name ∈ names, IsName name)
    (hpath : path.bytes ≠ []) : (path.enter names).words = path.words ++ names := by
  induction names generalizing path with
  | nil => simp [enter]
  | cons name rest ih =>
    have hname := hnames name List.mem_cons_self
    have hrest := ih (fun n hn => hnames n (List.mem_cons_of_mem _ hn)) (bytes_push_ne hname hpath)
    rw [words_push hname hpath] at hrest
    rw [enter, List.foldl_cons, ← enter, hrest]
    simp

theorem isAbsolute_enter {path : Path} {names : List Bytes}
    (hnames : ∀ name ∈ names, IsName name) (hpath : path.bytes ≠ []) :
    (path.enter names).isAbsolute = path.isAbsolute := by
  induction names generalizing path with
  | nil => rfl
  | cons name rest ih =>
    have hname := hnames name List.mem_cons_self
    rw [← isAbsolute_push hname hpath]
    exact ih (fun n hn => hnames n (List.mem_cons_of_mem _ hn)) (bytes_push_ne hname hpath)

theorem moveOf_name {name : Bytes} (hname : IsName name) : moveOf name = .enter name := by
  simp [moveOf, hname.2.1, hname.2.2.1]

theorem moves_enter {path : Path} {names : List Bytes} (hnames : ∀ name ∈ names, IsName name)
    (hpath : path.bytes ≠ []) (hnil : names ≠ []) :
    (path.enter names).moves = path.words.map moveOf ++ names.map Move.enter := by
  have hslash : (path.enter names).endsInSlash = false := by
    have hfront : ∀ name ∈ names.dropLast, IsName name :=
      fun n hn => hnames n ((List.dropLast_sublist names).mem hn)
    have hlast := hnames _ (List.getLast_mem hnil)
    rw [← List.dropLast_concat_getLast hnil, enter_concat]
    exact endsInSlash_push hlast (bytes_enter_ne hfront hpath)
  have hmoves : names.map moveOf = names.map Move.enter :=
    List.map_congr_left fun name hname => moveOf_name (hnames name hname)
  simp [moves, hslash, words_enter hnames hpath, hmoves]

/-! ## The moves of any path -/

theorem isName_of_mem_words {path : Path} {piece : Bytes} (h : piece ∈ path.words)
    {name : Bytes} (hmove : moveOf piece = .enter name) : IsName name := by
  obtain ⟨hmem, hnil⟩ := List.mem_filter.mp h
  have hslash := Text.not_mem_of_mem_splitAt hmem
  unfold moveOf at hmove
  split at hmove
  · cases hmove
  · rename_i hdot
    split at hmove
    · cases hmove
    · rename_i hdots
      cases hmove
      exact ⟨by simpa using hnil, hdot, hdots, hslash⟩

/-- A path enters nothing but names. -/
theorem isName_of_mem_moves {path : Path} {name : Bytes} (h : .enter name ∈ path.moves) :
    IsName name := by
  unfold moves at h
  rcases List.mem_append.mp h with h | h
  · obtain ⟨piece, hpiece, hmove⟩ := List.mem_map.mp h
    exact isName_of_mem_words hpiece hmove
  · split at h
    · simp at h
    · simp at h

end Path
end TestExclusions
