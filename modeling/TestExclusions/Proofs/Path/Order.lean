import Mathlib.Data.List.Lex
import Mathlib.Data.Prod.Lex
import TestExclusions.Path

/-! The order of paths. It is the lexicographic order of their components, among which names come
last and in the lexicographic order of their bytes. -/
namespace TestExclusions.Path

theorem compare_bytes_eq_lt_iff (as bs : Bytes) :
    Ord.compare as bs = .lt ↔ as.map UInt8.toNat < bs.map UInt8.toNat := by
  induction as generalizing bs with
  | nil => cases bs <;> simp
  | cons a as ih =>
    cases bs with
    | nil => simp
    | cons b bs =>
      have hbyte : Ord.compare a b = .lt ↔ a.toNat < b.toNat :=
        compareOfLessAndEq_eq_lt.trans UInt8.lt_iff_toNat_lt
      rw [List.compare_eq_compareLex, List.compareLex_cons_cons, Ordering.then_eq_lt, hbyte,
        Std.LawfulEqOrd.compare_eq_iff_eq, ← List.compare_eq_compareLex, ih, List.map_cons,
        List.map_cons, List.cons_lt_cons_iff, UInt8.toNat_inj]

namespace Component

def label : Component → List ℕ
  | .name bytes => bytes.map UInt8.toNat
  | _ => []

def key (component : Component) : ℕ ×ₗ List ℕ := toLex (component.rank, component.label)

theorem label_name_inj {name other : Bytes} :
    (Component.name name).label = (Component.name other).label ↔ name = other :=
  (List.map_injective_iff.mpr fun _ _ => UInt8.toNat_inj.mp).eq_iff

theorem key_injective : Function.Injective key := by
  intro a b h
  have h : (a.rank, a.label) = (b.rank, b.label) := toLex.injective h
  obtain ⟨hrank, hlabel⟩ := Prod.mk.inj h
  cases a <;> cases b <;> first | rfl | exact congrArg name (label_name_inj.mp hlabel) | cases hrank

instance : LinearOrder Component := LinearOrder.lift' key key_injective

theorem lt_iff (a b : Component) : a < b ↔ a.rank < b.rank ∨ a.rank = b.rank ∧ a.label < b.label :=
  Prod.Lex.toLex_lt_toLex

theorem compare_eq_lt_iff (a b : Component) : a.compare b = .lt ↔ a < b := by
  rw [lt_iff]
  cases a <;> cases b <;> simp [compare, rank, label, compare_lt_iff_lt, compare_bytes_eq_lt_iff]

theorem compare_eq_eq_iff (a b : Component) : a.compare b = .eq ↔ a = b := by
  cases a <;> cases b <;> simp [compare, rank]

theorem map_name_injective : Function.Injective (List.map name) :=
  List.map_injective_iff.mpr fun _ _ => name.inj

theorem isLE_compare_iff (a b : Component) : (a.compare b).isLE = true ↔ a ≤ b := by
  rw [Ordering.isLE_iff_eq_lt_or_eq_eq, compare_eq_lt_iff, compare_eq_eq_iff, le_iff_lt_or_eq]

end Component

theorem compareComponents_eq_lt_iff (as bs : List Component) :
    compareComponents as bs = .lt ↔ as < bs := by
  induction as generalizing bs with
  | nil => cases bs <;> simp [compareComponents]
  | cons a as ih =>
    cases bs with
    | nil => simp [compareComponents]
    | cons b bs =>
      rw [compareComponents, Ordering.then_eq_lt, Component.compare_eq_lt_iff,
        Component.compare_eq_eq_iff, ih, List.cons_lt_cons_iff]

theorem compareComponents_eq_eq_iff (as bs : List Component) :
    compareComponents as bs = .eq ↔ as = bs := by
  induction as generalizing bs with
  | nil => cases bs <;> simp [compareComponents]
  | cons a as ih =>
    cases bs with
    | nil => simp [compareComponents]
    | cons b bs =>
      rw [compareComponents, Ordering.then_eq_eq, Component.compare_eq_eq_iff, ih, List.cons.injEq]

theorem isLE_compareComponents_iff (as bs : List Component) :
    (compareComponents as bs).isLE = true ↔ as ≤ bs := by
  rw [Ordering.isLE_iff_eq_lt_or_eq_eq, compareComponents_eq_lt_iff, compareComponents_eq_eq_iff,
    le_iff_lt_or_eq]

theorem compare_eq_lt_iff (a b : Path) : a.compare b = .lt ↔ a.components < b.components :=
  compareComponents_eq_lt_iff _ _

theorem le_iff (a b : Path) : a.le b = true ↔ a.components ≤ b.components :=
  isLE_compareComponents_iff _ _

end TestExclusions.Path
