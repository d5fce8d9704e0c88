import Mathlib.Data.List.Forall2
import Mathlib.Data.Option.Basic
import TestExclusions.Toml.Scalar

/-! Basic strings of TOML. Whichever escapes spell a value, it is read up to the closing quote, and
every value can be spelled. -/
namespace TestExclusions.Toml
open Json (hexDigit?)

/-! ## Spellings -/

/-- The letters behind a backslash and the characters that they stand for. -/
def letters : List (Char × Char) :=
  [('b', '\x08'), ('t', '\t'), ('n', '\n'), ('f', '\x0c'), ('r', '\r'), ('"', '"'), ('\\', '\\')]

/-- A hexadecimal digit, in either case, and its value. -/
def HexDigit (c : Char) (d : Nat) : Prop :=
  d < 16 ∧ (c = d.digitChar ∨ c = d.digitChar.toUpper)

/-- Hexadecimal digits, the highest one first, and the number they denote. -/
def Denotes (digits : List Char) (n : Nat) : Prop :=
  ∃ ds, List.Forall₂ HexDigit digits ds ∧ ds.foldl (fun n d => n * 16 + d) 0 = n

/-- The characters between the quotes of a basic string and the value they spell. -/
inductive Spells : List Char → List Char → Prop where
  | nil : Spells [] []
  | plain {char : Char} {body value : List Char}
      (hchar : char = '\t' ∨ 0x20 ≤ char.toNat ∧ char.toNat ≠ 0x7f)
      (hquote : char ≠ '"') (hbackslash : char ≠ '\\') (h : Spells body value) :
      Spells (char :: body) (char :: value)
  | letter {letter char : Char} {body value : List Char} (hletter : (letter, char) ∈ letters)
      (h : Spells body value) : Spells ('\\' :: letter :: body) (char :: value)
  | four {a b c d char : Char} {body value : List Char} (hchar : Denotes [a, b, c, d] char.toNat)
      (h : Spells body value) : Spells ('\\' :: 'u' :: a :: b :: c :: d :: body) (char :: value)
  | eight {a b c d e f g i char : Char} {body value : List Char}
      (hchar : Denotes [a, b, c, d, e, f, g, i] char.toNat) (h : Spells body value) :
      Spells ('\\' :: 'U' :: a :: b :: c :: d :: e :: f :: g :: i :: body) (char :: value)

/-! ## Reading -/

theorem shortEscape?_of_mem {letter char : Char} (h : (letter, char) ∈ letters) :
    shortEscape? letter = some char := by
  simp only [letters, List.mem_cons, Prod.mk.injEq, List.not_mem_nil, or_false] at h
  rcases h with ⟨rfl, rfl⟩ | ⟨rfl, rfl⟩ | ⟨rfl, rfl⟩ | ⟨rfl, rfl⟩ | ⟨rfl, rfl⟩ | ⟨rfl, rfl⟩ |
    ⟨rfl, rfl⟩
  all_goals rfl

theorem hexDigit?_eq {c : Char} {d : Nat} (h : HexDigit c d) : hexDigit? c = some d := by
  have hlower : ∀ d < 16, hexDigit? d.digitChar = some d := by decide
  have hupper : ∀ d < 16, hexDigit? d.digitChar.toUpper = some d := by decide
  obtain ⟨hd, rfl | rfl⟩ := h
  · exact hlower d hd
  · exact hupper d hd

theorem hexNumber?_eq {digits : List Char} {n : Nat} (h : Denotes digits n) :
    hexNumber? digits = some n := by
  obtain ⟨ds, hds, rfl⟩ := h
  rw [hexNumber?]
  generalize 0 = start
  induction hds generalizing start with
  | nil => rfl
  | cons hdigit _ ih =>
    rw [List.foldlM_cons, hexDigit?_eq hdigit]
    exact ih _

theorem charOf?_toNat (c : Char) : charOf? c.toNat = some c := by
  have hvalid : c.toNat.isValidChar := c.valid
  rw [charOf?, if_pos hvalid, Char.ofNat_toNat]

theorem readEscape_letter {letter char : Char} (h : (letter, char) ∈ letters) (rest : List Char) :
    readEscape (letter :: rest) = some (char, rest) := by
  have hshort := shortEscape?_of_mem h
  rw [readEscape]
  · rw [hshort]
    rfl
  · rintro _ _ _ _ _ rfl
    cases hshort
  · rintro _ _ _ _ _ _ _ _ _ rfl
    cases hshort

theorem readEscape_four {a b c d char : Char} (h : Denotes [a, b, c, d] char.toNat)
    (rest : List Char) : readEscape ('u' :: a :: b :: c :: d :: rest) = some (char, rest) := by
  rw [readEscape, hexNumber?_eq h, Option.bind_some, charOf?_toNat]
  rfl

theorem readEscape_eight {a b c d e f g i char : Char}
    (h : Denotes [a, b, c, d, e, f, g, i] char.toNat) (rest : List Char) :
    readEscape ('U' :: a :: b :: c :: d :: e :: f :: g :: i :: rest) = some (char, rest) := by
  rw [readEscape, hexNumber?_eq h, Option.bind_some, charOf?_toNat]
  rfl

theorem readBasic_escape {escape rest value after : List Char} {char : Char} {fuel : Nat}
    (hescape : readEscape escape = some (char, rest))
    (hrest : readBasic fuel rest = some (value, after)) :
    readBasic (fuel + 1) ('\\' :: escape) = some (char :: value, after) := by
  change (readEscape escape).bind _ = _
  rw [hescape]
  change (readBasic fuel rest).bind _ = _
  rw [hrest]
  rfl

theorem readBasic_plain {char : Char} {rest value after : List Char} {fuel : Nat}
    (hchar : char = '\t' ∨ 0x20 ≤ char.toNat ∧ char.toNat ≠ 0x7f) (hquote : char ≠ '"')
    (hbackslash : char ≠ '\\')
    (hrest : readBasic fuel rest = some (value, after)) :
    readBasic (fuel + 1) (char :: rest) = some (char :: value, after) := by
  have hcomment : isCommentChar char = true := by simpa [isCommentChar] using hchar
  rw [readBasic]
  · rw [hcomment, hrest]
    rfl
  · exact hquote
  · exact hbackslash

/-- A spelled value is read up to the closing quote. -/
theorem readBasic_of_spells {body value : List Char} (h : Spells body value) {fuel : Nat}
    (hfuel : body.length < fuel) (rest : List Char) :
    readBasic fuel (body ++ '"' :: rest) = some (value, rest) := by
  induction h generalizing fuel with
  | nil =>
    obtain ⟨fuel, rfl⟩ := Nat.exists_eq_add_one_of_ne_zero (Nat.ne_zero_of_lt hfuel)
    rfl
  | plain hchar hquote hbackslash _ ih =>
    obtain ⟨fuel, rfl⟩ := Nat.exists_eq_add_one_of_ne_zero (Nat.ne_zero_of_lt hfuel)
    exact readBasic_plain hchar hquote hbackslash (ih (Nat.lt_of_succ_lt_succ hfuel))
  | letter hletter _ ih =>
    obtain ⟨fuel, rfl⟩ := Nat.exists_eq_add_one_of_ne_zero (Nat.ne_zero_of_lt hfuel)
    simp only [List.length_cons] at hfuel
    exact readBasic_escape (readEscape_letter hletter _) (ih (by omega))
  | four hchar _ ih =>
    obtain ⟨fuel, rfl⟩ := Nat.exists_eq_add_one_of_ne_zero (Nat.ne_zero_of_lt hfuel)
    simp only [List.length_cons] at hfuel
    exact readBasic_escape (readEscape_four hchar _) (ih (by omega))
  | eight hchar _ ih =>
    obtain ⟨fuel, rfl⟩ := Nat.exists_eq_add_one_of_ne_zero (Nat.ne_zero_of_lt hfuel)
    simp only [List.length_cons] at hfuel
    exact readBasic_escape (readEscape_eight hchar _) (ih (by omega))

/-- A basic string as a value. It is not taken for a string of several lines, which begins with
three quotes: no spelling begins with a quote, and none follows the string. -/
theorem readScalar_basic {body value : List Char} (h : Spells body value) {rest : List Char}
    (hrest : rest.head? ≠ some '"') :
    readScalar ('"' :: (body ++ '"' :: rest)) = some (.string (String.ofList value), rest) := by
  have hread : readBasic ((body ++ '"' :: rest).length + 1) (body ++ '"' :: rest) =
      some (value, rest) :=
    readBasic_of_spells h (by rw [List.length_append, List.length_cons]; omega) rest
  have hlong : ∀ more, body ++ '"' :: rest ≠ '"' :: '"' :: more := by
    intro more heq
    cases h with
    | nil => exact hrest (by rw [(List.cons.inj heq).2]; rfl)
    | plain _ hquote => exact hquote (List.cons.inj heq).1
    | _ => exact absurd (List.cons.inj heq).1 (by decide)
  have hstring : readString ('"' :: (body ++ '"' :: rest)) = some (value, rest) := by
    rw [readString]
    · exact hread
    · intro more heq
      exact hlong more heq
  change (readString ('"' :: (body ++ '"' :: rest))).map _ = _
  rw [hstring]
  rfl

/-! ## Writing -/

/-- The number of a character that may not stand for itself, in four digits. -/
theorem denotes_of_lt {n : Nat} (h : n < 0x80) :
    Denotes ['0', '0', (n / 16).digitChar, (n % 16).digitChar] n := by
  have hzero : HexDigit '0' 0 := ⟨by decide, .inl rfl⟩
  have hhigh : HexDigit (n / 16).digitChar (n / 16) := ⟨by omega, .inl rfl⟩
  have hlow : HexDigit (n % 16).digitChar (n % 16) := ⟨by omega, .inl rfl⟩
  refine ⟨[0, 0, n / 16, n % 16], .cons hzero (.cons hzero (.cons hhigh (.cons hlow .nil))), ?_⟩
  simp only [List.foldl_cons, List.foldl_nil]
  omega

/-- Every value can be spelled. -/
theorem exists_spells (value : List Char) : ∃ body, Spells body value := by
  induction value with
  | nil => exact ⟨[], .nil⟩
  | cons c value ih =>
    obtain ⟨body, h⟩ := ih
    by_cases hquote : c = '"'
    · subst hquote
      exact ⟨'\\' :: '"' :: body, .letter (by simp [letters]) h⟩
    by_cases hbackslash : c = '\\'
    · subst hbackslash
      exact ⟨'\\' :: '\\' :: body, .letter (by simp [letters]) h⟩
    by_cases hchar : c = '\t' ∨ 0x20 ≤ c.toNat ∧ c.toNat ≠ 0x7f
    · exact ⟨c :: body, .plain hchar hquote hbackslash h⟩
    · exact ⟨_, .four (denotes_of_lt (by omega)) h⟩

end TestExclusions.Toml
