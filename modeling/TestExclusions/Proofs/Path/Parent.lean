import Mathlib.Data.List.Basic
import Mathlib.Data.List.TakeWhile
import TestExclusions.Proofs.Path

/-! The parent of a path that enters a name. It is the path that the name was entered from, written
without what adds no component at its end. -/
namespace TestExclusions.Path

/-! ## Pieces at the end -/

theorem dropIdle_append (pieces : List Bytes) :
    ∃ idle, pieces = dropIdle pieces ++ idle ∧ ∀ piece ∈ idle, piece = [] ∨ piece = [dot] := by
  refine ⟨(pieces.reverse.takeWhile fun piece => piece = [] || piece = [dot]).reverse, ?_, ?_⟩
  · rw [dropIdle, ← List.reverse_append, List.takeWhile_append_dropWhile, List.reverse_reverse]
  · intro piece hpiece
    simpa using List.mem_takeWhile_imp (List.mem_reverse.mp hpiece)

theorem dropIdle_concat_name (pieces : List Bytes) {name : Bytes} (hname : IsName name) :
    dropIdle (pieces ++ [name]) = pieces ++ [name] := by
  simp [dropIdle, hname.1, hname.2.1]

theorem dropIdle_ne_singleton (pieces : List Bytes) : dropIdle pieces ≠ [[]] := by
  intro h
  have hdropped : (pieces.reverse.dropWhile fun piece => piece = [] || piece = [dot]) = [[]] := by
    rw [dropIdle] at h
    simpa using congrArg List.reverse h
  have hhead := List.head?_dropWhile_not (fun piece => piece = [] || piece = [dot]) pieces.reverse
  rw [hdropped] at hhead
  simp at hhead

/-! ## The first component -/

theorem isAbsolute_eq {path : Path} (hpath : path.bytes ≠ []) :
    path.isAbsolute = decide (path.pieces.head? = some []) := by
  unfold isAbsolute pieces
  cases hbytes : path.bytes with
  | nil => exact absurd hbytes (by simpa using hpath)
  | cons c rest =>
    by_cases hc : c = slash
    · simp [Text.splitAt, hc]
    · obtain ⟨first, more, hsplit⟩ :=
        List.exists_cons_of_ne_nil (Text.splitAt_ne_nil slash rest)
      simp [Text.splitAt, hc, hsplit, Text.consFirst]

/-- The component that a piece at the beginning of a path contributes. -/
def headOf (piece : Bytes) : Component :=
  if piece = [] then .root
  else if piece = [dot] then .here
  else if piece = [dot, dot] then .up
  else .name (piece)

theorem head?_components {path : Path} (hpath : path.bytes ≠ []) :
    path.components.head? = path.pieces.head?.map headOf := by
  obtain ⟨first, more, hpieces⟩ :=
    List.exists_cons_of_ne_nil (Text.splitAt_ne_nil slash path.bytes)
  have hpieces : path.pieces = first :: more := hpieces
  unfold components
  rw [isAbsolute_eq hpath, hpieces]
  by_cases hnil : first = []
  · simp [headOf, hnil]
  · by_cases hdot : first = [dot]
    · simp [headOf, hdot]
    · by_cases hdots : first = [dot, dot]
      · simp [headOf, hdots, componentOf?]
      · simp [headOf, hnil, hdot, hdots, componentOf?]

/-! ## Parents -/

/-- The parent is what is left of the pieces in front of the name; if none is left, it is the first
component. -/
theorem parent?_push {path : Path} {name : Bytes} (hname : IsName name) (hpath : path.bytes ≠ []) :
    ∃ kept, (path.pieces = kept ∨ path.pieces = kept ++ [[]]) ∧
      path.pieces.head? = kept.head? ∧ (path.push name).pieces = kept ++ [name] ∧
      (path.push name).parent? = some (
        if dropIdle kept = [] then ⟨[if path.isAbsolute then slash else dot]⟩
        else ofPieces (dropIdle kept)) := by
  obtain ⟨kept, hkept, hpieces, hpath'⟩ := pieces_push hname hpath
  obtain ⟨first, more, rfl⟩ := List.exists_cons_of_ne_nil hkept
  have hfirst : path.pieces.head? = some first := by
    rcases hpath' with h | h <;> simp [h]
  refine ⟨first :: more, hpath', hfirst, hpieces, ?_⟩
  have hhead : path.components.head? = some (headOf first) := by
    rw [head?_components hpath, hfirst]
    rfl
  obtain ⟨rest, hcomponents⟩ := List.head?_eq_some_iff.mp hhead
  obtain ⟨second, others, hmore⟩ :=
    List.exists_cons_of_ne_nil (List.concat_ne_nil (Component.name name) rest)
  rw [parent?, components_push hname hpath, hcomponents, List.cons_append, hmore]
  simp only [hpieces, dropIdle_concat_name _ hname, List.dropLast_concat]
  by_cases hnone : dropIdle (first :: more) = []
  · obtain ⟨idle, hidle, hmem⟩ := dropIdle_append (first :: more)
    rw [hnone, List.nil_append] at hidle
    rcases hmem first (hidle ▸ List.mem_cons_self) with rfl | rfl
    · simp [hnone, headOf, isAbsolute_eq hpath, hfirst]
    · simp [hnone, headOf, isAbsolute_eq hpath, hfirst]
  · simp [hnone]

/-- The name that has been entered last is left again. -/
theorem parent?_push_push {path : Path} {name other : Bytes} (hname : IsName name)
    (hother : IsName other) (hpath : path.bytes ≠ []) :
    ((path.push name).push other).parent? = some (path.push name) := by
  obtain ⟨front, -, hfront, -⟩ := pieces_push hname hpath
  obtain ⟨kept, hkept, -, -, hparent⟩ := parent?_push hother (bytes_push_ne hname hpath)
  have hpieces : (path.push name).pieces = kept := by
    rcases hkept with h | h
    · exact h
    · rw [hfront] at h
      have hlast := congrArg List.getLast? h
      simp [hname.1] at hlast
  have hdrop : dropIdle kept = kept := by
    rw [← hpieces, hfront, dropIdle_concat_name _ hname]
  rw [hparent, hdrop, if_neg (by simp [← hpieces, hfront]), ← hpieces, ofPieces, pieces,
    Text.intercalate_splitAt]

/-- The words of the parent are those of the path that the name was entered from, apart from some
that stay in place. -/
theorem words_of_parent? {path parent : Path} {name : Bytes} (hname : IsName name)
    (hpath : path.bytes ≠ []) (hparent : (path.push name).parent? = some parent) :
    parent.bytes ≠ [] ∧ parent.isAbsolute = path.isAbsolute ∧
      ∃ stays, path.words = parent.words ++ stays ∧ ∀ word ∈ stays, word = [dot] := by
  obtain ⟨kept, hpieces, hhead, hpush, hparent'⟩ := parent?_push hname hpath
  obtain ⟨idle, hidle, hmem⟩ := dropIdle_append kept
  have hwords : path.words = (dropIdle kept).filter (· ≠ []) ++ idle.filter (· ≠ []) := by
    rw [words_of_pieces hpieces, ← List.filter_append, ← hidle]
  have hstays : ∀ word ∈ idle.filter (· ≠ []), word = [dot] := by
    intro word hword
    obtain ⟨hword, hne⟩ := List.mem_filter.mp hword
    exact (hmem word hword).resolve_left (by simpa using hne)
  rw [hparent] at hparent'
  obtain rfl := Option.some.inj hparent'
  by_cases hnone : dropIdle kept = []
  · rw [if_pos hnone]
    rw [hnone, List.nil_append] at hidle
    subst hidle
    obtain ⟨first, more, rfl⟩ : ∃ first more, kept = first :: more :=
      List.exists_cons_of_ne_nil fun hnil => Text.splitAt_ne_nil _ _
        (List.head?_eq_none_iff.mp (hhead.trans (by rw [hnil]; rfl)))
    rcases hmem first List.mem_cons_self with rfl | rfl
    · have habsolute : path.isAbsolute = true := by simp [isAbsolute_eq hpath, hhead]
      rw [habsolute]
      refine ⟨by decide, rfl, _, ?_, hstays⟩
      rw [hwords, hnone]
      rfl
    · have habsolute : path.isAbsolute = false := by simp [isAbsolute_eq hpath, hhead]
      rw [habsolute]
      refine ⟨by decide, rfl, more.filter (· ≠ []), ?_, fun word hword => ?_⟩
      · rw [hwords, hnone]
        rfl
      · exact hstays word (List.mem_of_mem_tail hword)
  · rw [if_neg hnone]
    have hslash : ∀ piece ∈ dropIdle kept, slash ∉ piece := by
      intro piece hpiece
      have hpushed : piece ∈ (path.push name).pieces := by
        rw [hpush, hidle]
        simp [hpiece]
      exact Text.not_mem_of_mem_splitAt hpushed
    have hparent : (ofPieces (dropIdle kept)).pieces = dropIdle kept := by
      rw [pieces, ofPieces]
      exact Text.splitAt_intercalate hnone hslash
    have hbytes : (ofPieces (dropIdle kept)).bytes ≠ [] := by
      intro hempty
      rw [pieces, hempty] at hparent
      exact dropIdle_ne_singleton _ hparent.symm
    refine ⟨hbytes, ?_, _, ?_, hstays⟩
    · obtain ⟨first, more, hdropped⟩ := List.exists_cons_of_ne_nil hnone
      have hfirst : kept.head? = (dropIdle kept).head? := by
        rw [hdropped] at hidle ⊢
        rw [hidle]
        rfl
      rw [isAbsolute_eq hbytes, isAbsolute_eq hpath, hparent, hhead, hfirst]
    · rw [hwords, words, hparent]

/-! ## Ancestors -/

theorem ancestors_push {path parent : Path} {name : Bytes} (hname : IsName name)
    (hpath : path.bytes ≠ []) (hparent : (path.push name).parent? = some parent) :
    (path.push name).ancestors =
      path.push name :: parent.ancestorsWithin path.components.length := by
  rw [ancestors, components_push hname hpath, List.length_append, List.length_singleton,
    ancestorsWithin, hparent]

theorem ancestors_push_push {path : Path} {name other : Bytes} (hname : IsName name)
    (hother : IsName other) (hpath : path.bytes ≠ []) :
    ((path.push name).push other).ancestors =
      (path.push name).push other :: (path.push name).ancestors :=
  ancestors_push hother (bytes_push_ne hname hpath) (parent?_push_push hname hother hpath)

/-! ## Names behind a name -/

theorem exists_eq_push {path : Path} {name : Bytes} {names : List Bytes}
    (hnames : ∀ other ∈ name :: names, IsName other) (hpath : path.bytes ≠ []) :
    ∃ (front : Path) (last : Bytes), (path.push name).enter names = front.push last ∧
      front.bytes ≠ [] ∧ IsName last := by
  obtain ⟨hname, hrest⟩ := List.forall_mem_cons.mp hnames
  rcases List.eq_nil_or_concat' names with rfl | ⟨front, last, rfl⟩
  · exact ⟨path, name, rfl, hpath, hname⟩
  · obtain ⟨hfront, hlast⟩ := List.forall_mem_append.mp hrest
    exact ⟨(path.push name).enter front, last, enter_concat _ _ _,
      bytes_enter_ne hfront (bytes_push_ne hname hpath), hlast last List.mem_cons_self⟩

section Concat
variable {path : Path} {name last : Bytes} {names : List Bytes}
  (hnames : ∀ other ∈ name :: (names ++ [last]), IsName other) (hpath : path.bytes ≠ [])
include hnames hpath

/-- The last one of several names is left again. -/
theorem parent?_enter_concat :
    ((path.push name).enter (names ++ [last])).parent? = some ((path.push name).enter names) := by
  obtain ⟨hfront, hlast⟩ := List.forall_mem_append.mp (List.cons_append ▸ hnames)
  obtain ⟨front, previous, heq, hne, hprevious⟩ := exists_eq_push hfront hpath
  rw [enter_concat, heq]
  exact parent?_push_push hprevious (hlast last List.mem_cons_self) hne

theorem ancestors_enter_concat :
    ((path.push name).enter (names ++ [last])).ancestors =
      (path.push name).enter (names ++ [last]) :: ((path.push name).enter names).ancestors := by
  obtain ⟨hfront, hlast⟩ := List.forall_mem_append.mp (List.cons_append ▸ hnames)
  obtain ⟨front, previous, heq, hne, hprevious⟩ := exists_eq_push hfront hpath
  rw [enter_concat, heq]
  exact ancestors_push_push hprevious (hlast last List.mem_cons_self) hne

end Concat

end TestExclusions.Path
