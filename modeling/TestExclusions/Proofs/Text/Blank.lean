import Mathlib.Data.List.DropRight
import TestExclusions.Proofs.Text.Classes

/-! Texts without white space at their ends. To trim a text leads to the one that stands in it between
white space, and leaves that as it is from then on. -/
namespace TestExclusions.Text

theorem trimBlanks_eq (cs : List Char) : trimBlanks cs = (dropBlanks cs).rdropWhile isBlank := rfl

theorem dropBlanks_of_prefix {cs front : List Char} (hcs : dropBlanks cs = cs)
    (hfront : front <+: cs) : dropBlanks front = front := by
  obtain ⟨back, rfl⟩ := hfront
  cases front with
  | nil => rfl
  | cons c rest =>
    cases hblank : isBlank c with
    | false => exact dropBlanks_of_not_isBlank hblank
    | true =>
      have hlength := List.length_dropWhile_le isBlank (rest ++ back)
      rw [dropBlanks, List.cons_append, List.dropWhile_cons_of_pos hblank] at hcs
      rw [hcs, List.length_cons] at hlength
      omega

theorem trimBlanks_trimBlanks (cs : List Char) : trimBlanks (trimBlanks cs) = trimBlanks cs := by
  have hstart : dropBlanks (dropBlanks cs) = dropBlanks cs := List.dropWhile_idempotent isBlank cs
  have hfront : dropBlanks (trimBlanks cs) = trimBlanks cs :=
    dropBlanks_of_prefix hstart (List.rdropWhile_prefix isBlank _)
  rw [trimBlanks_eq (trimBlanks cs), hfront, trimBlanks_eq, List.rdropWhile_idempotent]

/-- A text is another one without the white space around it. -/
structure Trimmed (cs value : List Char) : Prop where
  around : ∃ lead tail, Blank lead ∧ Blank tail ∧ cs = lead ++ (value ++ tail)
  begins : ∀ c, value.head? = some c → isBlank c = false
  ends : ∀ c, value.getLast? = some c → isBlank c = false

theorem trimmed_trimBlanks (cs : List Char) : Trimmed cs (trimBlanks cs) := by
  obtain ⟨lead, hlead, hcs⟩ := exists_blank_append cs
  have hsplit : trimBlanks cs ++ (dropBlanks cs).rtakeWhile isBlank = dropBlanks cs :=
    List.rdropWhile_append_rtakeWhile
  refine ⟨⟨lead, (dropBlanks cs).rtakeWhile isBlank, hlead, ?_, ?_⟩, ?_, ?_⟩
  · intro c hc
    exact List.mem_rtakeWhile_imp hc
  · rw [hsplit]
    exact hcs
  · intro c hc
    have hhead : (dropBlanks cs).head? = some c := by
      rw [← hsplit, List.head?_append, hc]
      rfl
    exact head?_dropBlanks hhead
  · intro c hc
    have hne : trimBlanks cs ≠ [] := by
      intro hnil
      rw [hnil] at hc
      cases hc
    rw [List.getLast?_eq_some_getLast hne, Option.some.injEq] at hc
    have hlast : ¬isBlank ((trimBlanks cs).getLast hne) :=
      List.rdropWhile_last_not isBlank (dropBlanks cs) hne
    rwa [hc, Bool.not_eq_true] at hlast

theorem trimBlanks_of_trimmed {cs value : List Char} (h : Trimmed cs value) :
    trimBlanks cs = value := by
  obtain ⟨⟨lead, tail, hlead, htail, rfl⟩, hbegins, hends⟩ := h
  have hreverse : Blank tail.reverse := fun c hc => htail c (List.mem_reverse.mp hc)
  rw [trimBlanks, dropBlanks_append hlead]
  cases value with
  | nil =>
    have hnil : dropBlanks tail = [] := List.dropWhile_eq_nil_iff.mpr htail
    rw [List.nil_append, hnil]
    rfl
  | cons c rest =>
    rw [List.cons_append, dropBlanks_of_not_isBlank (hbegins c rfl), ← List.cons_append,
      List.reverse_append, dropBlanks_append hreverse]
    rw [dropBlanks_of_head? (by simpa only [List.head?_reverse] using hends), List.reverse_reverse]

theorem trimBlanks_eq_iff {cs value : List Char} : trimBlanks cs = value ↔ Trimmed cs value := by
  constructor
  · rintro rfl
    exact trimmed_trimBlanks cs
  · exact trimBlanks_of_trimmed

theorem trimBlanks_eq_nil_iff {cs : List Char} : trimBlanks cs = [] ↔ Blank cs := by
  rw [trimBlanks_eq_iff]
  constructor
  · intro h
    obtain ⟨⟨lead, tail, hlead, htail, rfl⟩, -, -⟩ := h
    exact blank_append.mpr ⟨hlead, htail⟩
  · intro h
    exact ⟨⟨cs, [], h, blank_nil, by simp⟩, by simp, by simp⟩

theorem trimBlanks_subset (cs : List Char) : trimBlanks cs ⊆ cs :=
  ((List.rdropWhile_prefix isBlank _).sublist.trans (List.dropWhile_sublist isBlank)).subset

end TestExclusions.Text
