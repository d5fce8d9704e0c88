import TestExclusions.Proofs.Disk.Walk

/-! One place by many paths. Components in front of a path that stay in place do not change where it
leads, except that they can make the path too long to be followed. -/
namespace TestExclusions

namespace Path

/-- The path behind a number of components that stay in place. -/
def behindDots (path : Path) : Nat → Path
  | 0 => path
  | n + 1 => ⟨dot :: slash :: (path.behindDots n).bytes⟩

theorem bytes_behindDots (path : Path) (n : Nat) :
    (path.behindDots (n + 1)).bytes = dot :: slash :: (path.behindDots n).bytes := rfl

theorem length_behindDots (path : Path) (n : Nat) :
    (path.behindDots n).bytes.length = 2 * n + path.bytes.length := by
  induction n with
  | zero => simp [behindDots]
  | succ n ih =>
    rw [bytes_behindDots, List.length_cons, List.length_cons, ih]
    omega

section Bytes
variable {path : Path} (hpath : path.bytes ≠ [])
include hpath

theorem bytes_behindDots_ne (n : Nat) : (path.behindDots n).bytes ≠ [] := by
  cases n with
  | zero => exact hpath
  | succ n => simp [behindDots]

/-- The end of a path stays its end. -/
theorem getLast?_behindDots (n : Nat) :
    (path.behindDots (n + 1)).bytes.getLast? = (path.behindDots n).bytes.getLast? := by
  have hne : (path.behindDots n).bytes ≠ [] :=
    bytes_behindDots_ne hpath n
  rw [bytes_behindDots, List.getLast?_cons_of_ne_nil (by simp), List.getLast?_cons_of_ne_nil hne]

theorem push_behindDots {name : Bytes} (hname : IsName name) (n : Nat) :
    (path.behindDots n).push name = (path.push name).behindDots n := by
  induction n with
  | zero => rfl
  | succ n ih =>
    have hgrown : (path.push name).behindDots (n + 1) =
        ⟨dot :: slash :: ((path.behindDots n).push name).bytes⟩ := by
      rw [ih]
      rfl
    rw [hgrown, push, push, if_neg hname.head?_ne, if_neg hname.head?_ne,
      getLast?_behindDots hpath]
    by_cases hlast : (path.behindDots n).bytes.getLast? = some slash
    · simp [hlast, behindDots]
    · simp [hlast, bytes_behindDots_ne hpath, behindDots]

theorem moves_behindDots (n : Nat) :
    (path.behindDots n).moves = List.replicate n .stay ++ path.moves := by
  induction n with
  | zero => rfl
  | succ n ih =>
    have hpieces : (path.behindDots (n + 1)).pieces = [dot] :: (path.behindDots n).pieces := by
      rw [pieces, bytes_behindDots]
      exact Text.splitAt_append slash [dot] _
    have hslash : (path.behindDots (n + 1)).endsInSlash = (path.behindDots n).endsInSlash := by
      rw [endsInSlash, getLast?_behindDots hpath, ← endsInSlash]
    have hmove : moveOf [dot] = .stay := rfl
    rw [moves, words, hpieces, hslash, List.filter_cons_of_pos (by simp), List.map_cons, hmove,
      List.cons_append, ← words, ← moves, ih]
    rfl

end Bytes

theorem isAbsolute_behindDots {path : Path} (hpath : path.isAbsolute = false) (n : Nat) :
    (path.behindDots n).isAbsolute = false := by
  cases n with
  | zero => exact hpath
  | succ n =>
    rw [isAbsolute, bytes_behindDots]
    rfl

theorem refusal?_eq_none_iff {path : Path} : path.refusal? = none ↔ path.bytes ≠ [] ∧
    0 ∉ path.bytes ∧ path.bytes.length ≤ maxBytes := by
  unfold refusal?
  by_cases hbytes : path.bytes = []
  · simp [hbytes]
  · by_cases hnul : 0 ∈ path.bytes
    · simp [hbytes, hnul]
    · simp [hbytes, hnul]

theorem exists_bytes_push (path : Path) {name : Bytes} (hname : IsName name) :
    ∃ added, (path.push name).bytes = path.bytes ++ added := by
  rw [push, if_neg hname.head?_ne]
  split
  · exact ⟨name, rfl⟩
  · exact ⟨slash :: name, rfl⟩

/-- A path that can be followed with names behind it can be followed without them. -/
theorem refusal?_of_enter {path : Path} {names : List Bytes} (hpath : path.bytes ≠ [])
    (hnames : ∀ name ∈ names, IsName name) (h : (path.enter names).refusal? = none) :
    path.refusal? = none := by
  induction names generalizing path with
  | nil => exact h
  | cons name rest ih =>
    obtain ⟨hname, hrest⟩ := List.forall_mem_cons.mp hnames
    have hpush := ih (bytes_push_ne hname hpath) hrest h
    obtain ⟨added, hadded⟩ := exists_bytes_push path hname
    rw [refusal?_eq_none_iff, hadded, List.length_append] at hpush
    obtain ⟨-, hnul, hsize⟩ := hpush
    exact refusal?_eq_none_iff.mpr
      ⟨hpath, fun hmem => hnul (List.mem_append_left _ hmem), by omega⟩

theorem refusal?_enter_of_concat {path : Path} {names : List Bytes} {last : Bytes}
    (hpath : path.bytes ≠ []) (hnames : ∀ name ∈ names ++ [last], IsName name)
    (h : (path.enter (names ++ [last])).refusal? = none) : (path.enter names).refusal? = none := by
  obtain ⟨hfront, hlast⟩ := List.forall_mem_append.mp hnames
  have hsplit : path.enter (names ++ [last]) = (path.enter names).enter [last] :=
    enter_concat path names last
  rw [hsplit] at h
  exact refusal?_of_enter (bytes_enter_ne hfront hpath) hlast h

theorem refusal?_behindDots {path : Path} (hpath : path.refusal? = none) (n : Nat) :
    (path.behindDots n).refusal? =
      if maxBytes < 2 * n + path.bytes.length then some .nameTooLong else none := by
  obtain ⟨hbytes, hnul, -⟩ := refusal?_eq_none_iff.mp hpath
  have hnone : 0 ∉ [dot, slash] := by decide
  have hfree : 0 ∉ (path.behindDots n).bytes := by
    induction n with
    | zero => exact hnul
    | succ n ih =>
      have hbytes : (path.behindDots (n + 1)).bytes =
          [dot, slash] ++ (path.behindDots n).bytes := rfl
      rw [hbytes, List.mem_append]
      exact not_or.mpr ⟨hnone, ih⟩
  unfold refusal?
  rw [if_neg (bytes_behindDots_ne hbytes n), if_neg (by simpa using hfree), length_behindDots]

end Path

namespace Disk

theorem walk_stays {disk : Disk} {links : Nat} {here : Place}
    (hhere : disk.get? here = some .directory) (n : Nat) (moves : List Move) :
    disk.walk links here (List.replicate n .stay ++ moves) = disk.walk links here moves := by
  induction n with
  | zero => rfl
  | succ n ih => rw [List.replicate_succ, List.cons_append, walk_stay hhere (.inl rfl), ih]

/-- A relative path leads where it leads without the components in front of it, unless they make it
too long. -/
theorem find_behindDots {disk : Disk} (hdisk : disk.WellFormed) {path : Path}
    (hpath : path.refusal? = none) (hrelative : path.isAbsolute = false) (n : Nat) :
    disk.find (path.behindDots n) =
      if Path.maxBytes < 2 * n + path.bytes.length then .error .nameTooLong
      else disk.find path := by
  obtain ⟨hbytes, -⟩ := Path.refusal?_eq_none_iff.mp hpath
  have hstart : start disk.home (path.behindDots n) = start disk.home path := by
    rw [start, start, Path.isAbsolute_behindDots hrelative, hrelative]
  have hhome : disk.get? (start disk.home path) = some .directory := by
    rw [start, hrelative]
    exact hdisk.home
  unfold find locate locateMoves
  rw [Path.refusal?_behindDots hpath, hpath, hstart, Path.moves_behindDots hbytes,
    walk_stays hhome]
  by_cases hlong : Path.maxBytes < 2 * n + path.bytes.length
  · simp [hlong]
  · simp [hlong]

end Disk
end TestExclusions
