import Mathlib.Data.List.Basic
import TestExclusions.Json.Number
import TestExclusions.Json.Value
import TestExclusions.Proofs.Text.Split

/-! Natural numbers of JSON are read back as they were written, if they are below the limit and
something that is no part of a number follows. -/
namespace TestExclusions.Json

theorem digits_eq (n : Nat) : digits n = Nat.toDigits 10 n := by
  rw [digits, Nat.toString_eq_ofList_toDigits, String.toList_ofList]

theorem isDigit_of_mem_digits {n : Nat} {c : Char} (h : c ∈ digits n) : c.isDigit = true := by
  rw [digits_eq] at h
  exact Nat.isDigit_of_mem_toDigits (by decide) (by decide) h

/-- Digits keep a number exact as long as what they make of it stays below the limit. -/
theorem extendExact_of_lt (m : Nat) (ds : List Char) (h : Nat.ofDigitChars 10 ds m < exactLimit) :
    extendExact m ds = (Nat.ofDigitChars 10 ds m, ds.length) := by
  induction ds generalizing m with
  | nil => rfl
  | cons c rest ih =>
    rw [Nat.ofDigitChars_cons, Nat.mul_comm] at h
    have hnext : m * 10 + (c.toNat - '0'.toNat) < exactLimit := by
      refine Nat.lt_of_le_of_lt ?_ h
      rw [Nat.ofDigitChars_eq_ofDigitChars_zero]
      exact Nat.le_add_right_of_le (Nat.le_mul_of_pos_left _ (Nat.pow_pos (by decide)))
    rw [extendExact, Nat.ofDigitChars_cons, Nat.mul_comm 10]
    simp only [if_pos hnext, ih _ h, List.length_cons]

/-- Only zero itself is written with a zero in front. -/
theorem eq_nil_of_digits {n : Nat} {rest : List Char} (h : digits n = '0' :: rest) : rest = [] := by
  have hhead : ∀ n > 0, (Nat.toDigits 10 n).head? ≠ some '0' := by
    intro n
    induction n using Nat.strongRecOn with
    | ind n ih =>
      intro hn
      by_cases hlt : n < 10
      · rw [Nat.toDigits_of_lt_base hlt]
        simpa using Nat.ne_of_gt hn
      · rw [Nat.toDigits_of_base_le (by decide) (by omega),
          List.head?_append_of_ne_nil _ Nat.toDigits_ne_nil]
        exact ih (n / 10) (by omega) (by omega)
  rw [digits_eq] at h
  rcases Nat.eq_zero_or_pos n with rfl | hn
  · rw [Nat.toDigits_zero] at h
    exact (List.cons.inj h).2.symm
  · exact absurd (by rw [h]; rfl) (hhead n hn)

/-- What may stand behind a value: nothing, white space, or a mark of the list or the object that
the value is part of. -/
def Ends (rest : List Char) : Prop :=
  ∀ c ∈ rest.head?, isSpace c = true ∨ c = ',' ∨ c = ']' ∨ c = '\x7d'

theorem Ends.cases {c : Char} {rest : List Char} (h : Ends (c :: rest)) :
    c = ' ' ∨ c = '\n' ∨ c = '\t' ∨ c = '\r' ∨ c = ',' ∨ c = ']' ∨ c = '\x7d' := by
  have hc := h c rfl
  simp only [isSpace, Bool.or_eq_true, decide_eq_true_eq] at hc
  tauto

theorem Ends.head_not_isDigit {rest : List Char} (h : Ends rest) :
    ∀ c, rest.head? = some c → c.isDigit = false := by
  cases rest with
  | nil => simp
  | cons c rest =>
    rintro _ ⟨⟩
    rcases h.cases with rfl | rfl | rfl | rfl | rfl | rfl | rfl
    all_goals rfl

/-- A written number is read up to its last digit. -/
theorem readNumber_digits {n : Nat} (h : n < exactLimit) {rest : List Char} (hrest : Ends rest) :
    readNumber (digits n ++ rest) = .ok (.natural n, rest) := by
  have hvalue : Nat.ofDigitChars 10 (digits n) 0 = n := by
    rw [digits_eq, Nat.ofDigitChars_ten_toDigits]
  have hexact : extendExact 0 (digits n) = (n, (digits n).length) := by
    have hextend := extendExact_of_lt 0 (digits n) (hvalue.symm ▸ h)
    rwa [hvalue] at hextend
  cases hdigits : digits n with
  | nil => exact absurd (digits_eq n ▸ hdigits) Nat.toDigits_ne_nil
  | cons c ds =>
    have hall : ∀ d ∈ c :: ds, d.isDigit = true := fun d hd =>
      isDigit_of_mem_digits (hdigits ▸ hd)
    have hc : c.isDigit = true := hall c List.mem_cons_self
    have hsign : c ≠ '-' := by
      rintro rfl
      cases hc
    have hzero : ¬(c = '0' ∧ (ds ++ rest).head?.any Char.isDigit = true) := by
      rintro ⟨rfl, hnext⟩
      rw [eq_nil_of_digits hdigits, List.nil_append, Option.any_eq_true] at hnext
      obtain ⟨d, hd, hdigit⟩ := hnext
      exact Bool.false_ne_true ((hrest.head_not_isDigit d hd).symm.trans hdigit)
    have hds : ∀ d ∈ ds, d.isDigit = true := fun d hd => hall d (List.mem_cons_of_mem c hd)
    have htake := Text.takeWhile_append_of_head? hds hrest.head_not_isDigit
    have hdrop := Text.dropWhile_append_of_head? hds hrest.head_not_isDigit
    rw [hdigits] at hexact
    have hunsigned : readUnsigned false (c :: (ds ++ rest)) = .ok (.natural n, rest) := by
      simp only [readUnsigned, htake, hdrop, hexact, hc, Bool.not_true, Bool.false_or,
        Bool.and_eq_true, decide_eq_true_eq, if_neg hzero, Int.sub_self]
      cases rest with
      | nil => rfl
      | cons d rest =>
        rcases hrest.cases with rfl | rfl | rfl | rfl | rfl | rfl | rfl
        all_goals rfl
    rw [List.cons_append, readNumber]
    · exact hunsigned
    · rintro _ heq
      exact hsign (List.cons.inj heq).1

end TestExclusions.Json
