import TestExclusions.Line.Reader
import TestExclusions.Proofs.Text.Classes

/-! The grammar of exclusion lines, apart from the reader: which texts are literals, symbols, test
identifiers and declarations, and what they denote. -/
namespace TestExclusions.Line.Grammar
open Text (Blank isAlphabetic isAlphanumeric)

/-- The letters that denote control characters behind a backslash, between double quotes. -/
def controls : List (Char × Char) :=
  [('n', '\n'), ('t', '\t'), ('r', '\r'), ('0', '\x00'), ('e', '\x1b')]

/-- What a backslash and the character behind it denote. Between single quotes the backslash is
kept, unless a backslash or a single quote follows. -/
inductive Pair : Quote → Char → List Char → Prop where
  | escaped {c : Char} (h : c = '\\' ∨ c = '\'') : Pair .single c [c]
  | kept {c : Char} (h : ¬ (c = '\\' ∨ c = '\'')) : Pair .single c ['\\', c]
  | control {c d : Char} (h : (c, d) ∈ controls) : Pair .double c [d]
  | plain {c : Char} (h : ∀ d, (c, d) ∉ controls) : Pair .double c [c]

/-- What stands between two quotes, and what it denotes. -/
inductive Body (quote : Quote) : List Char → List Char → Prop where
  | nil : Body quote [] []
  | plain {c : Char} {body value : List Char} (hquote : c ≠ quote.char) (hpair : c ≠ '\\')
      (rest : Body quote body value) : Body quote (c :: body) (c :: value)
  | pair {c : Char} {body value denoted : List Char} (hpair : Pair quote c denoted)
      (rest : Body quote body value) : Body quote ('\\' :: c :: body) (denoted ++ value)

/-- A literal and what it denotes. -/
inductive Literal : List Char → List Char → Prop where
  | quoted {quote : Quote} {body value : List Char} (h : Body quote body value) :
      Literal (quote.char :: body ++ [quote.char]) value

/-- A bare symbol: a word that no digit begins, and one mark behind it at most. -/
inductive Symbol : List Char → Prop where
  | word {c : Char} {rest mark : List Char} (hstart : c = '_' ∨ isAlphabetic c)
      (hrest : ∀ d ∈ rest, d = '_' ∨ isAlphanumeric d)
      (hmark : mark ∈ [[], ['?'], ['!'], ['=']]) : Symbol (c :: rest ++ mark)

/-- A test identifier and the test that it denotes. -/
inductive TestId : List Char → List Char → Prop where
  | symbol {name : List Char} (h : Symbol name) : TestId (':' :: name) name
  | quotedSymbol {text value : List Char} (h : Literal text value) : TestId (':' :: text) value
  | string {text value : List Char} (h : Literal text value) : TestId text value

/-- What opens the operands of a declaration behind its keyword, and what closes them. -/
inductive Frame : List Char → List Char → Prop where
  | blanks {blanks : List Char} (h : Blank blanks) (hne : blanks ≠ []) : Frame blanks []
  | parentheses {blanks : List Char} (h : Blank blanks) : Frame (blanks ++ ['(']) [')']

/-- A comment, or nothing. -/
def Tail (cs : List Char) : Prop := cs = [] ∨ cs.head? = some '#'

/-- A line that declares a test and a reason. -/
inductive Declaration (testId reason : List Char) : List Char → Prop where
  | line {lead opening idText reasonText closing tail g₁ g₂ g₃ g₄ g₅ : List Char}
      (hlead : Blank lead) (hframe : Frame opening closing) (h₁ : Blank g₁)
      (hid : TestId idText testId) (h₂ : Blank g₂) (h₃ : Blank g₃)
      (hreason : Literal reasonText reason) (h₄ : Blank g₄) (h₅ : Blank g₅) (htail : Tail tail) :
      Declaration testId reason
        (lead ++ (keyword ++ (opening ++ (g₁ ++ (idText ++ (g₂ ++ (',' :: (g₃ ++ (reasonText ++
          (g₄ ++ (closing ++ (g₅ ++ tail))))))))))))

/-- A line that declares nothing: its first character but white space is missing or begins a
comment. -/
def Silent (line : List Char) : Prop :=
  line.find? (fun c => !Text.isBlank c) = none ∨
    line.find? (fun c => !Text.isBlank c) = some '#'

theorem pair_iff {quote : Quote} {c : Char} {denoted : List Char} :
    Pair quote c denoted ↔ denoted = quote.unescape c := by
  constructor
  · rintro (h | h | h | h)
    · simp [Quote.unescape, h]
    · simp [Quote.unescape, h]
    · simp only [controls, List.mem_cons, Prod.mk.injEq, List.not_mem_nil, or_false] at h
      rcases h with ⟨rfl, rfl⟩ | ⟨rfl, rfl⟩ | ⟨rfl, rfl⟩ | ⟨rfl, rfl⟩ | ⟨rfl, rfl⟩ <;> rfl
    · have hne : c ≠ 'n' ∧ c ≠ 't' ∧ c ≠ 'r' ∧ c ≠ '0' ∧ c ≠ 'e' := by
        refine ⟨?_, ?_, ?_, ?_, ?_⟩ <;> rintro rfl <;> simp [controls] at h
      simp [Quote.unescape, hne]
  · rintro rfl
    cases quote with
    | single =>
      by_cases h : c = '\\' ∨ c = '\''
      · simp only [Quote.unescape, Bool.or_eq_true, decide_eq_true_eq, if_pos h]
        exact .escaped h
      · simp only [Quote.unescape, Bool.or_eq_true, decide_eq_true_eq, if_neg h]
        exact .kept h
    | double =>
      by_cases h : ∃ d, (c, d) ∈ controls
      · obtain ⟨d, hd⟩ := h
        have hd' := hd
        simp only [controls, List.mem_cons, Prod.mk.injEq, List.not_mem_nil, or_false] at hd
        rcases hd with ⟨rfl, rfl⟩ | ⟨rfl, rfl⟩ | ⟨rfl, rfl⟩ | ⟨rfl, rfl⟩ | ⟨rfl, rfl⟩ <;>
          exact .control hd'
      · have hne : c ≠ 'n' ∧ c ≠ 't' ∧ c ≠ 'r' ∧ c ≠ '0' ∧ c ≠ 'e' := by
          refine ⟨?_, ?_, ?_, ?_, ?_⟩ <;> rintro rfl <;> simp [controls] at h
        have hself : Quote.double.unescape c = [c] := by simp [Quote.unescape, hne]
        rw [hself]
        exact .plain (not_exists.mp h)

end TestExclusions.Line.Grammar
