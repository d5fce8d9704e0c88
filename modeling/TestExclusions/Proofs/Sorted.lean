import Mathlib.Data.List.Nodup
import Mathlib.Order.Lattice
import TestExclusions.Sorted

/-! Lists whose elements have strictly increasing keys. Such a list is known by its elements, and
sorting makes one of any list without a repeated key. -/
namespace TestExclusions.Sorted

variable {α β : Type} [LinearOrder β] {key : α → β}

/-- The keys of the elements strictly increase. -/
def Increasing (key : α → β) (as : List α) : Prop := as.Pairwise fun a b => key a < key b

theorem Increasing.nodup {as : List α} (h : Increasing key as) : (as.map key).Nodup := by
  rw [List.nodup_iff_pairwise_ne, List.pairwise_map]
  exact List.Pairwise.imp (fun hlt => hlt.ne) h

/-- Increasing lists with the same elements are the same. -/
theorem Increasing.ext {as bs : List α} (ha : Increasing key as) (hb : Increasing key bs)
    (h : ∀ a, a ∈ as ↔ a ∈ bs) : as = bs := by
  have hperm : as.Perm bs :=
    (List.perm_ext_iff_of_nodup ha.nodup.of_map hb.nodup.of_map).mpr h
  exact hperm.eq_of_pairwise (fun a b _ _ hab hba => absurd hab (lt_asymm hba)) ha hb

/-- The first wanted element of an increasing list is the least one. -/
theorem Increasing.le_of_find? {as : List α} (h : Increasing key as) {wanted : α → Bool} {a b : α}
    (ha : as.find? wanted = some a) (hb : b ∈ as) (hwanted : wanted b = true) :
    key a ≤ key b := by
  obtain ⟨-, before, after, rfl, hbefore⟩ := List.find?_eq_some_iff_append.mp ha
  rw [Increasing, List.pairwise_append, List.pairwise_cons] at h
  obtain ⟨-, ⟨hafter, -⟩, -⟩ := h
  rcases List.mem_append.mp hb with hb | hb
  · simpa [hwanted] using hbefore b hb
  · rcases List.mem_cons.mp hb with rfl | hb
    · exact le_rfl
    · exact (hafter b hb).le

section Order
variable {le : α → α → Bool} (hle : ∀ a b, le a b = true ↔ key a ≤ key b)
include hle

theorem pairwise_insert (a : α) {as : List α} (h : as.Pairwise fun a b => key a ≤ key b) :
    (insert le a as).Pairwise fun a b => key a ≤ key b := by
  induction as with
  | nil => exact List.pairwise_singleton _ _
  | cons b rest ih =>
    obtain ⟨hhead, hrest⟩ := List.pairwise_cons.mp h
    simp only [insert]
    split
    · rename_i hab
      have hab := (hle a b).mp hab
      refine List.pairwise_cons.mpr ⟨fun c hc => ?_, h⟩
      rcases List.mem_cons.mp hc with rfl | hc
      · exact hab
      · exact hab.trans (hhead c hc)
    · rename_i hab
      have hba : key b ≤ key a := le_of_not_ge fun h => hab ((hle a b).mpr h)
      refine List.pairwise_cons.mpr ⟨fun c hc => ?_, ih hrest⟩
      rcases List.mem_cons.mp ((insert_perm le a rest).mem_iff.mp hc) with rfl | hc
      · exact hba
      · exact hhead c hc

theorem pairwise_sort (as : List α) : (sort le as).Pairwise fun a b => key a ≤ key b := by
  induction as with
  | nil => exact List.Pairwise.nil
  | cons a rest ih => exact pairwise_insert hle a ih

theorem increasing_sort {as : List α} (h : (as.map key).Nodup) :
    Increasing key (sort le as) := by
  have hnodup : ((sort le as).map key).Nodup := (((sort_perm le as).map key).nodup_iff).mpr h
  rw [List.nodup_iff_pairwise_ne, List.pairwise_map] at hnodup
  exact (pairwise_sort hle as).imp₂ (fun _ _ hle hne => lt_of_le_of_ne hle hne) hnodup

/-- How a list without a repeated key is sorted does not depend on the order it had. -/
theorem sort_eq_of_perm {as bs : List α} (h : (as.map key).Nodup) (hperm : bs.Perm as) :
    sort le bs = sort le as := by
  have hbs : (bs.map key).Nodup := (hperm.map key).nodup_iff.mpr h
  refine Increasing.ext (increasing_sort hle hbs) (increasing_sort hle h) fun a => ?_
  rw [mem_sort, mem_sort, hperm.mem_iff]

end Order
end TestExclusions.Sorted
