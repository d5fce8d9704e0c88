import TestExclusions.Json.Quoted

/-! Strings of JSON are read back as they were written. The writer escapes one character at a time,
and the reader undoes each escape before it goes on. -/
namespace TestExclusions.Json

theorem hexDigit?_hexChar : ∀ n < 16, hexDigit? (hexChar n) = some n := by decide

/-- The digits written for a character below the space denote its number. -/
theorem hexNumber?_hexChar {n : Nat} (h : n < 0x20) :
    hexNumber? '0' '0' (hexChar (n / 16)) (hexChar (n % 16)) = some n := by
  have hzero : hexDigit? '0' = some 0 := rfl
  simp only [hexNumber?, hzero, hexDigit?_hexChar (n / 16) (by omega),
    hexDigit?_hexChar (n % 16) (by omega), Option.bind_eq_bind, Option.bind_some, Option.pure_def]
  congr 1
  omega

/-- A character is escaped by one letter or by its number, or it stands for itself. -/
theorem escape_cases (c : Char) :
    (∃ letter, escape c = ['\\', letter] ∧ shortEscape? letter = some c) ∨
    (c.toNat < 0x20 ∧
      escape c = ['\\', 'u', '0', '0', hexChar (c.toNat / 16), hexChar (c.toNat % 16)]) ∨
    (¬c.toNat < 0x20 ∧ c ≠ '"' ∧ c ≠ '\\' ∧ escape c = [c]) := by
  unfold escape
  split
  case h_8 _ hquote hbackslash _ _ _ _ _ =>
    split
    · rename_i hlow
      exact .inr (.inl ⟨hlow, rfl⟩)
    · rename_i hhigh
      exact .inr (.inr ⟨hhigh, hquote, hbackslash, rfl⟩)
  all_goals exact .inl ⟨_, rfl, rfl⟩

theorem readQuoted_escape (c : Char) (rest : List Char) : readQuoted (escape c ++ rest) =
    (readQuoted rest).map fun (value, after) => (c :: value, after) := by
  rcases escape_cases c with ⟨letter, hescape, hletter⟩ | ⟨hlow, hescape⟩ |
    ⟨hhigh, hquote, hbackslash, hescape⟩
  · have hu : letter ≠ 'u' := by
      rintro rfl
      cases hletter
    rw [hescape, List.cons_append, List.cons_append, List.nil_append, readQuoted.eq_def]
    simp [hu, hletter]
  · have htrail : isTrailSurrogate c.toNat = false := by
      simp [isTrailSurrogate]
      omega
    have hlead : isLeadSurrogate c.toNat = false := by
      simp [isLeadSurrogate]
      omega
    rw [hescape]
    simp [readQuoted, hexNumber?_hexChar hlow, htrail, hlead]
  · rw [hescape, List.singleton_append, readQuoted.eq_def]
    simp [hbackslash, hhigh]

/-- A written string is read up to its closing quote. -/
theorem readQuoted_escaped (value rest : List Char) :
    readQuoted (value.flatMap escape ++ '"' :: rest) = .ok (value, rest) := by
  induction value with
  | nil => rfl
  | cons c value ih =>
    rw [List.flatMap_cons, List.append_assoc, readQuoted_escape, ih]
    rfl

end TestExclusions.Json
