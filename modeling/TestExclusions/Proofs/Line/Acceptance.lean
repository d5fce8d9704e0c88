import TestExclusions.Proofs.Line.Reading
import TestExclusions.Proofs.Outcome

/-! The reader of lines against the grammar: a line is silent, declares one record or is refused,
and the reader tells which. -/
namespace TestExclusions.Line
open Grammar
open Text (Blank isBlank dropBlanks dropBlanks_append dropBlanks_of_head? exists_blank_append
  blank_append dropWhile_append_of_head? takeWhile_append_of_head?)

/-! ## The parts behind the keyword -/

/-- A text that is empty or begins with a character that no test of the reader skips. -/
def StartsWith (p : Char → Prop) (cs : List Char) : Prop := ∀ c, cs.head? = some c → p c

theorem startsWith_append {p : Char → Prop} {a b : List Char} (ha : StartsWith p a)
    (hb : StartsWith p b) : StartsWith p (a ++ b) := by
  cases a with
  | nil => exact hb
  | cons c a => exact fun d hd => ha d hd

theorem startsWith_of_forall {p : Char → Prop} {cs : List Char} (h : ∀ c ∈ cs, p c) :
    StartsWith p cs := fun c hc => h c (List.mem_of_mem_head? hc)

theorem Grammar.Literal.startsWith {p : Char → Prop} {text value rest : List Char}
    (h : Literal text value) (hp : ∀ quote : Quote, p quote.char) :
    StartsWith p (text ++ rest) := by
  cases h with
  | @quoted quote body _ h => exact fun c hc => Option.some.inj hc ▸ hp quote

theorem Grammar.TestId.startsWith {p : Char → Prop} {text value rest : List Char}
    (h : TestId text value) (hp : ∀ quote : Quote, p quote.char) (hcolon : p ':') :
    StartsWith p (text ++ rest) := by
  cases h with
  | symbol _ => exact fun c hc => Option.some.inj hc ▸ hcolon
  | quotedSymbol _ => exact fun c hc => Option.some.inj hc ▸ hcolon
  | string h => exact h.startsWith hp

theorem readKeyword_eq_ok_iff {cs rest : List Char} :
    readKeyword cs = .ok rest ↔
      cs = keyword ++ rest ∧ StartsWith (fun c => isWordChar c = false) rest := by
  constructor
  · intro h
    simp only [readKeyword] at h
    split at h
    · rename_i hword
      cases h
      refine ⟨?_, fun c hc => ?_⟩
      · rw [← hword, List.takeWhile_append_dropWhile]
      · have hnot := List.head?_dropWhile_not isWordChar cs
        simpa [hc] using hnot
    · split at h <;> cases h
  · rintro ⟨rfl, hrest⟩
    have hall : ∀ c ∈ keyword, isWordChar c = true := List.all_eq_true.mp rfl
    have htake : (keyword ++ rest).takeWhile isWordChar = keyword :=
      takeWhile_append_of_head? hall hrest
    have hdrop : (keyword ++ rest).dropWhile isWordChar = rest :=
      dropWhile_append_of_head? hall hrest
    simp [readKeyword, htake, hdrop]

theorem readOpening_of_frame {opening closing gap rest : List Char} (h : Frame opening closing)
    (hgap : Blank gap) (hrest : StartsWith (fun c => isBlank c = false ∧ c ≠ '(') rest) :
    readOpening (opening ++ (gap ++ rest)) = .ok (!closing.isEmpty, rest) := by
  have hstay : dropBlanks rest = rest := dropBlanks_of_head? fun c hc => (hrest c hc).1
  cases h with
  | blanks h hne =>
    have hdrop : dropBlanks (opening ++ (gap ++ rest)) = rest := by
      rw [dropBlanks_append h, dropBlanks_append hgap, hstay]
    obtain ⟨c, opening, rfl⟩ := List.exists_cons_of_ne_nil hne
    have hc : isBlank c = true := h c List.mem_cons_self
    unfold readOpening
    rw [hdrop]
    split
    · exact absurd rfl (hrest '(' rfl).2
    · simp [hc]
  | @parentheses blanks h =>
    have hdrop : dropBlanks (blanks ++ ['('] ++ (gap ++ rest)) = '(' :: (gap ++ rest) := by
      rw [List.append_assoc, dropBlanks_append h]
      exact Text.dropBlanks_of_not_isBlank (by decide)
    simp only [readOpening, hdrop, dropBlanks_append hgap, hstay]
    rfl

theorem frame_of_readOpening {cs rest : List Char} {parenthesised : Bool}
    (h : readOpening cs = .ok (parenthesised, rest)) :
    ∃ opening closing gap, Frame opening closing ∧ Blank gap ∧ cs = opening ++ (gap ++ rest) ∧
      parenthesised = !closing.isEmpty := by
  obtain ⟨blanks, hblanks, hcs⟩ := exists_blank_append cs
  unfold readOpening at h
  split at h
  · rename_i after hdrop
    cases h
    rw [hdrop] at hcs
    obtain ⟨gap, hgap, hafter⟩ := exists_blank_append after
    refine ⟨_, _, gap, .parentheses hblanks, hgap, ?_, rfl⟩
    rw [hcs]
    nth_rewrite 1 [hafter]
    simp
  · split at h
    · rename_i hhead
      cases h
      have hne : blanks ≠ [] := by
        rintro rfl
        cases cs with
        | nil => simp at hhead
        | cons c cs =>
          have hc : isBlank c = true := by simpa using hhead
          have hhead' : (dropBlanks (c :: cs)).head? = some c := by
            simpa using congrArg List.head? hcs.symm
          simp [Text.head?_dropBlanks hhead'] at hc
      exact ⟨blanks, [], [], .blanks hblanks hne, by simp, by simpa using hcs, rfl⟩
    · cases h

theorem readComma_eq_ok_iff {testId cs rest : List Char} :
    readComma testId cs = .ok rest ↔ ∃ after, cs = ',' :: after ∧ rest = dropBlanks after := by
  unfold readComma
  split
  · simp [eq_comm]
  · rename_i hcs
    constructor
    · intro h
      cases h
    · rintro ⟨after, rfl, -⟩
      exact absurd rfl (hcs after)

theorem readComma_of_blank {testId g₂ g₃ rest : List Char} (h₂ : Blank g₂) (h₃ : Blank g₃)
    (hrest : StartsWith (fun c => isBlank c = false) rest) :
    readComma testId (dropBlanks (g₂ ++ (',' :: (g₃ ++ rest)))) = .ok rest := by
  rw [dropBlanks_append h₂, Text.dropBlanks_of_not_isBlank (by decide), readComma_eq_ok_iff]
  refine ⟨g₃ ++ rest, rfl, ?_⟩
  rw [dropBlanks_append h₃, dropBlanks_of_head? hrest]

theorem readReason_eq_ok_iff {testId cs value rest : List Char} :
    readReason testId cs = .ok (value, rest) ↔ ∃ text, Literal text value ∧ cs = text ++ rest := by
  constructor
  · intro h
    unfold readReason at h
    split at h
    · exact literal_of_readLiteral ‹_› h
    · cases h
  · rintro ⟨text, htext, rfl⟩
    obtain ⟨quote, hquote, hread⟩ := readLiteral_of_literal htext rest
    simp only [readReason, hquote, hread]

/-- A frame is closed by nothing or by a parenthesis. -/
theorem Grammar.Frame.closing {opening closing : List Char} (h : Frame opening closing) :
    closing = [] ∨ closing = [')'] := by
  cases h with
  | blanks => exact .inl rfl
  | parentheses => exact .inr rfl

theorem readClosing_eq_ok_iff {opening closing cs rest : List Char} (h : Frame opening closing) :
    readClosing (!closing.isEmpty) cs = .ok rest ↔ cs = closing ++ rest := by
  rcases h.closing with rfl | rfl
  · simp [readClosing]
  · constructor
    · intro hread
      unfold readClosing at hread
      split at hread
      · simp_all
      · cases hread
        rfl
      · cases hread
    · rintro rfl
      rfl

theorem readEnd_eq_ok_iff {cs : List Char} : readEnd cs = .ok () ↔ Tail cs := by
  cases cs with
  | nil => simp [readEnd, Tail]
  | cons c cs =>
    by_cases hc : c = '#' <;> simp [readEnd, Tail, hc]

/-! ## Declarations and lines -/

theorem readDeclaration_eq_ok_iff {cs : List Char} {record : Record} :
    readDeclaration cs = .ok record ↔
      ∃ rest₁ parenthesised rest₂ testId rest₃ rest₄ reason rest₅ rest₆,
        readKeyword cs = .ok rest₁ ∧ readOpening rest₁ = .ok (parenthesised, rest₂) ∧
        readTestId rest₂ = .ok (testId, rest₃) ∧
        readComma testId (dropBlanks rest₃) = .ok rest₄ ∧
        readReason testId rest₄ = .ok (reason, rest₅) ∧
        readClosing parenthesised (dropBlanks rest₅) = .ok rest₆ ∧
        readEnd (dropBlanks rest₆) = .ok () ∧
        record = ⟨String.ofList testId, String.ofList reason, none⟩ := by
  simp only [readDeclaration, Outcome.bind_eq_ok_iff, Prod.exists, pure, Except.pure,
    Except.ok.injEq]
  constructor
  · rintro ⟨rest₁, h₁, p, rest₂, h₂, t, rest₃, h₃, rest₄, h₄, r, rest₅, h₅, rest₆, h₆, _, h₇, rfl⟩
    exact ⟨rest₁, p, rest₂, t, rest₃, rest₄, r, rest₅, rest₆, h₁, h₂, h₃, h₄, h₅, h₆, h₇, rfl⟩
  · rintro ⟨rest₁, p, rest₂, t, rest₃, rest₄, r, rest₅, rest₆, h₁, h₂, h₃, h₄, h₅, h₆, h₇, rfl⟩
    exact ⟨rest₁, h₁, p, rest₂, h₂, t, rest₃, h₃, rest₄, h₄, r, rest₅, h₅, rest₆, h₆, (), h₇, rfl⟩

theorem declaration_of_readDeclaration {lead cs : List Char} {record : Record}
    (hlead : Blank lead) (h : readDeclaration cs = .ok record) :
    record.line = none ∧
      Declaration record.testId.toList record.reason.toList (lead ++ cs) := by
  obtain ⟨rest₁, parenthesised, rest₂, testId, rest₃, rest₄, reason, rest₅, rest₆, hkeyword, hopen,
    hid, hcomma, hreason, hclose, hend, rfl⟩ := readDeclaration_eq_ok_iff.mp h
  obtain ⟨rfl, -⟩ := readKeyword_eq_ok_iff.mp hkeyword
  obtain ⟨opening, closing, g₁, hframe, h₁, rfl, rfl⟩ := frame_of_readOpening hopen
  obtain ⟨idText, hidText, rfl⟩ := testId_of_readTestId hid
  obtain ⟨g₂, h₂, hrest₃⟩ := exists_blank_append rest₃
  obtain ⟨after, hafter, rfl⟩ := readComma_eq_ok_iff.mp hcomma
  obtain ⟨g₃, h₃, hrest₄⟩ := exists_blank_append after
  obtain ⟨reasonText, hreasonText, hreasonRest⟩ := readReason_eq_ok_iff.mp hreason
  obtain ⟨g₄, h₄, hrest₅⟩ := exists_blank_append rest₅
  obtain ⟨g₅, h₅, hrest₆⟩ := exists_blank_append rest₆
  have hclosing := (readClosing_eq_ok_iff hframe).mp hclose
  refine ⟨rfl, ?_⟩
  rw [String.toList_ofList, String.toList_ofList, hrest₃, hafter, hrest₄, hreasonRest, hrest₅,
    hclosing, hrest₆]
  exact .line hlead hframe h₁ hidText h₂ h₃ hreasonText h₄ h₅ (readEnd_eq_ok_iff.mp hend)

/-- A character that stands in front of a test identifier or a reason. -/
theorem quote_not_blank (quote : Quote) : isBlank quote.char = false ∧ quote.char ≠ '(' := by
  cases quote <;> decide

theorem endsSymbol_of_blank {blanks cs : List Char} (h : Blank blanks) :
    EndsSymbol (blanks ++ ',' :: cs) := by
  have hblanks : StartsWith (fun c => isWordChar c = false ∧ isSymbolMark c = false) blanks := by
    apply startsWith_of_forall
    intro c hc
    refine ⟨Text.isWordChar_of_isBlank (h c hc), Bool.eq_false_iff.mpr fun hmark => ?_⟩
    simp only [isSymbolMark, Bool.or_eq_true, decide_eq_true_eq] at hmark
    have hblank := h c hc
    revert hblank
    rcases hmark with (rfl | rfl) | rfl <;> decide
  exact startsWith_append hblanks fun c hc => Option.some.inj hc ▸ by decide

theorem tail_not_blank {cs : List Char} (h : Tail cs) : dropBlanks cs = cs := by
  apply dropBlanks_of_head?
  rintro c hc
  rcases h with rfl | hhash
  · cases hc
  · cases hhash.symm.trans hc
    decide

theorem frame_not_word {opening closing cs : List Char} (h : Frame opening closing) :
    StartsWith (fun c => isWordChar c = false) (opening ++ cs) := by
  cases h with
  | @blanks blanks h hne =>
    obtain ⟨c, rest, rfl⟩ := List.exists_cons_of_ne_nil hne
    exact fun d hd => Option.some.inj hd ▸ Text.isWordChar_of_isBlank (h c List.mem_cons_self)
  | parentheses h =>
    rw [List.append_assoc]
    exact startsWith_append (startsWith_of_forall fun c hc => Text.isWordChar_of_isBlank (h c hc))
      fun c hc => Option.some.inj hc ▸ by decide

theorem readClosing_of_frame {opening closing g₄ g₅ tail : List Char}
    (h : Frame opening closing) (h₄ : Blank g₄) (h₅ : Blank g₅) (htail : Tail tail) :
    ∃ rest, readClosing (!closing.isEmpty) (dropBlanks (g₄ ++ (closing ++ (g₅ ++ tail)))) =
      .ok rest ∧ dropBlanks rest = tail := by
  rw [dropBlanks_append h₄]
  rcases h.closing with rfl | rfl
  · refine ⟨tail, ?_, tail_not_blank htail⟩
    rw [List.nil_append, dropBlanks_append h₅, tail_not_blank htail]
    rfl
  · refine ⟨g₅ ++ tail, ?_, ?_⟩
    · rw [List.singleton_append, Text.dropBlanks_of_not_isBlank (by decide)]
      rfl
    · rw [dropBlanks_append h₅, tail_not_blank htail]

theorem readDeclaration_of_declaration {testId reason line : List Char}
    (h : Declaration testId reason line) :
    ∃ rest, dropBlanks line = keyword ++ rest ∧ readDeclaration (keyword ++ rest) =
      .ok ⟨String.ofList testId, String.ofList reason, none⟩ := by
  cases h with
  | @line lead opening idText reasonText closing tail g₁ g₂ g₃ g₄ g₅ hlead hframe h₁ hid h₂ h₃
      hreason h₄ h₅ htail =>
    obtain ⟨rest, hclose, hrest⟩ := readClosing_of_frame hframe h₄ h₅ htail
    refine ⟨opening ++ (g₁ ++ (idText ++ (g₂ ++ (',' :: (g₃ ++ (reasonText ++ (g₄ ++
      (closing ++ (g₅ ++ tail))))))))), ?_, ?_⟩
    · rw [dropBlanks_append hlead]
      exact Text.dropBlanks_of_not_isBlank (by decide)
    · have hid' : StartsWith (fun c => isBlank c = false ∧ c ≠ '(') (idText ++ (g₂ ++ (',' :: (g₃ ++
          (reasonText ++ (g₄ ++ (closing ++ (g₅ ++ tail)))))))) :=
        hid.startsWith quote_not_blank (by decide)
      have hreason' : StartsWith (fun c => isBlank c = false)
          (reasonText ++ (g₄ ++ (closing ++ (g₅ ++ tail)))) :=
        hreason.startsWith fun quote => (quote_not_blank quote).1
      have hend : readEnd (dropBlanks rest) = .ok () := by
        rw [hrest]
        exact readEnd_eq_ok_iff.mpr htail
      exact readDeclaration_eq_ok_iff.mpr ⟨_, _, _, _, _, _, _, _, _,
        readKeyword_eq_ok_iff.mpr ⟨rfl, frame_not_word hframe⟩,
        readOpening_of_frame hframe h₁ hid',
        readTestId_of_testId hid (endsSymbol_of_blank h₂),
        readComma_of_blank h₂ h₃ hreason',
        readReason_eq_ok_iff.mpr ⟨reasonText, hreason, rfl⟩, hclose, hend, rfl⟩

theorem read_of_dropBlanks {line rest : List Char} (h : dropBlanks line = keyword ++ rest) :
    read line = (readDeclaration (keyword ++ rest)).map some := by
  unfold read
  rw [h]
  rfl

theorem find?_not_isBlank (line : List Char) :
    line.find? (fun c => !isBlank c) = (dropBlanks line).head? := by
  induction line with
  | nil => rfl
  | cons c line ih =>
    by_cases hc : isBlank c
    · simpa [dropBlanks, hc] using ih
    · simp [dropBlanks, hc]

theorem read_eq_ok_none_iff {line : List Char} : read line = .ok none ↔ Silent line := by
  rw [Silent, find?_not_isBlank]
  unfold read
  split
  · rename_i h
    simp [h]
  · rename_i h
    simp [h]
  · rename_i hnil hhash
    constructor
    · intro h
      obtain ⟨_, _, heq⟩ := Outcome.map_eq_ok_iff.mp h
      cases heq
    · rintro (h | h)
      · exact absurd (List.head?_eq_none_iff.mp h) hnil
      · obtain ⟨rest, hrest⟩ := List.head?_eq_some_iff.mp h
        exact absurd hrest (hhash rest)

theorem read_eq_ok_some_iff {line : List Char} {record : Record} :
    read line = .ok (some record) ↔ record.line = none ∧
      Declaration record.testId.toList record.reason.toList line := by
  constructor
  · intro h
    unfold read at h
    split at h
    · cases h
    · cases h
    · obtain ⟨found, hfound, heq⟩ := Outcome.map_eq_ok_iff.mp h
      cases heq
      obtain ⟨lead, hlead, hline⟩ := exists_blank_append line
      rw [hline]
      exact declaration_of_readDeclaration hlead hfound
  · rintro ⟨hnone, h⟩
    obtain ⟨rest, hdrop, hread⟩ := readDeclaration_of_declaration h
    rw [String.ofList_toList, String.ofList_toList, ← hnone] at hread
    rw [read_of_dropBlanks hdrop, hread]
    rfl

/-- A line is read as nothing exactly if it is silent and as a record exactly if it declares that
record; every other line is refused. -/
theorem parse_follows_grammar (line : String) :
    (parse line = .ok none ↔ Silent line.toList) ∧
    (∀ record, parse line = .ok (some record) ↔ record.line = none ∧
      Declaration record.testId.toList record.reason.toList line.toList) ∧
    ((∃ fault, parse line = .error fault) ↔ ¬ Silent line.toList ∧
      ∀ testId reason, ¬ Declaration testId reason line.toList) := by
  have hnone : parse line = .ok none ↔ Silent line.toList := read_eq_ok_none_iff
  have hsome : ∀ record, parse line = .ok (some record) ↔ record.line = none ∧
      Declaration record.testId.toList record.reason.toList line.toList :=
    fun record => read_eq_ok_some_iff
  refine ⟨hnone, hsome, ?_⟩
  constructor
  · rintro ⟨fault, hfault⟩
    refine ⟨fun hsilent => ?_, fun testId reason hdeclared => ?_⟩
    · rw [hnone.mpr hsilent] at hfault
      cases hfault
    · have hok := (hsome ⟨String.ofList testId, String.ofList reason, none⟩).mpr
        ⟨rfl, by simpa using hdeclared⟩
      rw [hok] at hfault
      cases hfault
  · rintro ⟨hsilent, hdeclared⟩
    cases hparse : parse line with
    | error fault => exact ⟨fault, rfl⟩
    | ok found =>
      cases found with
      | none => exact absurd (hnone.mp hparse) hsilent
      | some record => exact absurd ((hsome record).mp hparse).2 (hdeclared _ _)

end TestExclusions.Line
