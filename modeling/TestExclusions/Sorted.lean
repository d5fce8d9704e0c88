/-! Lists kept in order. -/
namespace TestExclusions.Sorted

variable {α : Type}

/-- Puts an element in front of the first one that it may precede. -/
def insert (le : α → α → Bool) (a : α) : List α → List α
  | [] => [a]
  | b :: rest => if le a b then a :: b :: rest else b :: insert le a rest

/-- The elements in order; equal ones keep theirs. -/
def sort (le : α → α → Bool) (as : List α) : List α := as.foldr (insert le) []

theorem insert_perm (le : α → α → Bool) (a : α) (as : List α) :
    (insert le a as).Perm (a :: as) := by
  induction as with
  | nil => exact .refl _
  | cons b rest ih =>
    simp only [insert]
    split
    · exact .refl _
    · exact (ih.cons b).trans (.swap a b rest)

/-- Sorting moves elements and does nothing else. -/
theorem sort_perm (le : α → α → Bool) (as : List α) : (sort le as).Perm as := by
  induction as with
  | nil => exact .refl _
  | cons a rest ih => exact (insert_perm le a _).trans (ih.cons a)

theorem mem_sort {le : α → α → Bool} {a : α} {as : List α} : a ∈ sort le as ↔ a ∈ as :=
  (sort_perm le as).mem_iff

end TestExclusions.Sorted
