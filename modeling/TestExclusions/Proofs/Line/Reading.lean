import TestExclusions.Proofs.Line.Grammar
import TestExclusions.Proofs.Text.Split

/-! Each reader of a part of a line takes exactly the texts that the grammar gives to that part. -/
namespace TestExclusions.Line
open Grammar
open Text (Blank isBlank dropBlanks dropWhile_append_of_head? takeWhile_append_of_head?)

namespace Quote

@[simp] theorem read_pair (quote : Quote) (c : Char) (rest : List Char) :
    quote.read ('\\' :: c :: rest) =
      (quote.read rest).map fun (value, after) => (quote.unescape c ++ value, after) := by
  rw [read]

@[simp] theorem read_char (quote : Quote) (rest : List Char) :
    quote.read (quote.char :: rest) = some ([], rest) := by
  cases quote <;> simp [read, char]

theorem read_cons {quote : Quote} {c : Char} (hquote : c ≠ quote.char) (hpair : c ≠ '\\')
    (rest : List Char) :
    quote.read (c :: rest) = (quote.read rest).map fun (value, after) => (c :: value, after) := by
  rw [read]
  · simp [hquote, hpair]
  · intro d rest' h _
    exact hpair h

theorem read_of_body {quote : Quote} {body value : List Char} (h : Body quote body value)
    (rest : List Char) : quote.read (body ++ quote.char :: rest) = some (value, rest) := by
  induction h with
  | nil => exact read_char quote rest
  | plain hquote hpair _ ih => rw [List.cons_append, read_cons hquote hpair, ih]; rfl
  | pair hpair _ ih =>
    rw [List.cons_append, List.cons_append, read_pair, ih, pair_iff.mp hpair]; rfl

theorem body_of_read {quote : Quote} {cs value rest : List Char}
    (h : quote.read cs = some (value, rest)) :
    ∃ body, Body quote body value ∧ cs = body ++ quote.char :: rest := by
  fun_induction Quote.read quote cs generalizing value rest with
  | case1 => simp at h
  | case2 c cs ih =>
    obtain ⟨⟨v, r⟩, hread, heq⟩ := Option.map_eq_some_iff.mp h
    obtain ⟨rfl, rfl⟩ := Prod.mk.inj heq
    obtain ⟨body, hbody, rfl⟩ := ih hread
    exact ⟨'\\' :: c :: body, .pair (pair_iff.mpr rfl) hbody, rfl⟩
  | case3 cs =>
    obtain ⟨rfl, rfl⟩ := Prod.mk.inj (Option.some.inj h)
    exact ⟨[], .nil, rfl⟩
  | case4 => simp at h
  | case5 c cs hnot hquote hpair ih =>
    obtain ⟨⟨v, r⟩, hread, heq⟩ := Option.map_eq_some_iff.mp h
    obtain ⟨rfl, rfl⟩ := Prod.mk.inj heq
    obtain ⟨body, hbody, rfl⟩ := ih hread
    exact ⟨c :: body, .plain hquote hpair hbody, rfl⟩

theorem ofChar?_eq_some_iff {c : Char} {quote : Quote} :
    ofChar? c = some quote ↔ c = quote.char := by
  constructor
  · intro h
    unfold ofChar? at h
    split at h <;> cases h <;> rfl
  · rintro rfl
    cases quote <;> rfl

end Quote

theorem readLiteral_eq_ok_iff {quote : Quote} {cs value rest : List Char} :
    readLiteral quote cs = .ok (value, rest) ↔
      ∃ body, Body quote body value ∧ cs = body ++ quote.char :: rest := by
  constructor
  · intro h
    unfold readLiteral at h
    split at h <;> cases h
    exact Quote.body_of_read ‹_›
  · rintro ⟨body, hbody, rfl⟩
    simp [readLiteral, Quote.read_of_body hbody]

theorem Grammar.Literal.exists_quote {text value : List Char} (h : Literal text value) :
    ∃ quote : Quote, ∃ body, text = quote.char :: body ++ [quote.char] := by
  cases h with
  | quoted h => exact ⟨_, _, rfl⟩

/-! ## Symbols and test identifiers -/

/-- No character in front of the text goes on with a bare symbol. -/
def EndsSymbol (cs : List Char) : Prop :=
  ∀ c, cs.head? = some c → isWordChar c = false ∧ isSymbolMark c = false

theorem isWordChar_of_isSymbolMark {c : Char} (h : isSymbolMark c) : isWordChar c = false := by
  simp only [isSymbolMark, Bool.or_eq_true, decide_eq_true_eq] at h
  rcases h with (rfl | rfl) | rfl <;> decide

theorem isWordChar_of_start {c : Char} (h : c = '_' ∨ Text.isAlphabetic c) :
    isWordChar c = true := by
  rcases h with rfl | h
  · rfl
  · simp [isWordChar, Text.isAlphanumeric, h]

/-- A symbol consists of characters of words, and a mark may come behind them. -/
theorem Grammar.Symbol.exists_word {name : List Char} (h : Symbol name) :
    ∃ c rest mark, name = c :: rest ++ mark ∧ isSymbolStart c = true ∧
      (∀ d ∈ c :: rest, isWordChar d = true) ∧
      (mark = [] ∨ ∃ m, mark = [m] ∧ isSymbolMark m = true) := by
  cases h with
  | @word c rest mark hstart hrest hmark =>
    refine ⟨c, rest, mark, rfl, by simpa [isSymbolStart] using hstart, ?_, ?_⟩
    · exact List.forall_mem_cons.mpr
        ⟨isWordChar_of_start hstart, by simpa [isWordChar] using hrest⟩
    · simp only [List.mem_cons, List.not_mem_nil, or_false] at hmark
      rcases hmark with rfl | rfl | rfl | rfl
      · exact .inl rfl
      all_goals exact .inr ⟨_, rfl, by decide⟩

/-- No character of a symbol has a meaning in a literal, and none is white space. -/
theorem Grammar.Symbol.plain {name : List Char} (h : Symbol name) {c : Char} (hc : c ∈ name) :
    c ∉ ['\'', '"', '\\'] ∧ isBlank c = false := by
  obtain ⟨first, rest, mark, rfl, -, hword, hmark⟩ := h.exists_word
  rcases List.mem_append.mp hc with hc | hc
  · have hc := hword c hc
    constructor
    · intro hmem
      simp only [List.mem_cons, List.not_mem_nil, or_false] at hmem
      revert hc
      rcases hmem with rfl | rfl | rfl <;> decide
    · refine Bool.eq_false_iff.mpr fun hblank => ?_
      rw [Text.isWordChar_of_isBlank hblank] at hc
      cases hc
  · rcases hmark with rfl | ⟨m, rfl, hm⟩
    · cases hc
    · obtain rfl := List.mem_singleton.mp hc
      simp only [isSymbolMark, Bool.or_eq_true, decide_eq_true_eq] at hm
      rcases hm with (rfl | rfl) | rfl <;> decide

theorem readSymbol_of_symbol {name rest : List Char} (h : Symbol name) (hrest : EndsSymbol rest) :
    readSymbol (name ++ rest) = some (name, rest) := by
  obtain ⟨c, word, mark, rfl, hc, hword, hmark⟩ := h.exists_word
  have hall : ∀ d ∈ word, isWordChar d = true := fun d hd => hword d (List.mem_cons_of_mem c hd)
  have hstop : ∀ d, (mark ++ rest).head? = some d → isWordChar d = false := by
    intro d hd
    rcases hmark with rfl | ⟨m, rfl, hm⟩
    · exact (hrest d hd).1
    · cases hd
      exact isWordChar_of_isSymbolMark hm
  have htake : (word ++ (mark ++ rest)).takeWhile isWordChar = word :=
    takeWhile_append_of_head? hall hstop
  have hdrop : (word ++ (mark ++ rest)).dropWhile isWordChar = mark ++ rest :=
    dropWhile_append_of_head? hall hstop
  simp only [List.cons_append, List.append_assoc, readSymbol, hc, if_true, htake, hdrop]
  rcases hmark with rfl | ⟨m, rfl, hm⟩
  · cases rest with
    | nil => simp
    | cons d after => simp [(hrest d rfl).2]
  · simp [hm]

theorem symbol_of_readSymbol {cs name rest : List Char} (h : readSymbol cs = some (name, rest)) :
    Symbol name ∧ cs = name ++ rest := by
  cases cs with
  | nil => simp [readSymbol] at h
  | cons c cs =>
    simp only [readSymbol] at h
    split at h
    · rename_i hc
      have hstart : c = '_' ∨ Text.isAlphabetic c := by simpa [isSymbolStart] using hc
      have hword : ∀ d ∈ cs.takeWhile isWordChar, d = '_' ∨ Text.isAlphanumeric d := by
        intro d hd
        simpa [isWordChar] using List.all_eq_true.mp List.all_takeWhile d hd
      have hsplit := List.takeWhile_append_dropWhile (p := isWordChar) (l := cs)
      split at h
      · rename_i hnil
        obtain ⟨rfl, rfl⟩ := Prod.mk.inj (Option.some.inj h)
        rw [hnil] at hsplit
        refine ⟨?_, by simpa using hsplit.symm⟩
        have hsymbol : Symbol (c :: cs.takeWhile isWordChar ++ []) := .word hstart hword (by simp)
        simpa using hsymbol
      · rename_i m after hcons
        rw [hcons] at hsplit
        split at h
        · rename_i hm
          obtain ⟨rfl, rfl⟩ := Prod.mk.inj (Option.some.inj h)
          refine ⟨Symbol.word hstart hword ?_, by simp [hsplit]⟩
          simpa [isSymbolMark, or_assoc] using hm
        · obtain ⟨rfl, rfl⟩ := Prod.mk.inj (Option.some.inj h)
          refine ⟨?_, by simp [hsplit]⟩
          have hsymbol : Symbol (c :: cs.takeWhile isWordChar ++ []) := .word hstart hword (by simp)
          simpa using hsymbol
    · simp at h

/-- A symbol does not begin with a quote. -/
theorem ofChar?_of_symbol {name rest : List Char} (h : Symbol name) :
    (name ++ rest).head?.bind Quote.ofChar? = none := by
  cases h with
  | @word c word mark hstart hword hmark =>
    change Quote.ofChar? c = none
    apply Option.eq_none_iff_forall_ne_some.mpr
    intro quote hquote
    rw [Quote.ofChar?_eq_some_iff] at hquote
    subst hquote
    revert hstart
    cases quote <;> decide

theorem readLiteral_of_literal {text value : List Char} (h : Literal text value)
    (rest : List Char) :
    ∃ quote, (text ++ rest).head?.bind Quote.ofChar? = some quote ∧
      readLiteral quote (text ++ rest).tail = .ok (value, rest) := by
  cases h with
  | @quoted quote body _ h =>
    refine ⟨quote, Quote.ofChar?_eq_some_iff.mpr rfl, ?_⟩
    rw [readLiteral_eq_ok_iff]
    exact ⟨body, h, by simp⟩

theorem literal_of_readLiteral {cs value rest : List Char} {quote : Quote}
    (hquote : cs.head?.bind Quote.ofChar? = some quote)
    (h : readLiteral quote cs.tail = .ok (value, rest)) :
    ∃ text, Literal text value ∧ cs = text ++ rest := by
  cases cs with
  | nil => simp at hquote
  | cons c cs =>
    have hc : c = quote.char := Quote.ofChar?_eq_some_iff.mp hquote
    obtain ⟨body, hbody, rfl⟩ := readLiteral_eq_ok_iff.mp h
    exact ⟨_, .quoted hbody, by simp [hc]⟩

theorem readTestId_of_testId {text value rest : List Char} (h : TestId text value)
    (hrest : EndsSymbol rest) : readTestId (text ++ rest) = .ok (value, rest) := by
  cases h with
  | symbol h =>
    simp only [List.cons_append, readTestId, ofChar?_of_symbol h, readSymbol_of_symbol h hrest]
  | quotedSymbol h =>
    obtain ⟨quote, hquote, hread⟩ := readLiteral_of_literal h rest
    simp only [List.cons_append, readTestId, hquote, hread]
  | string h =>
    obtain ⟨quote, hquote, hread⟩ := readLiteral_of_literal h rest
    cases h with
    | @quoted q body _ h =>
      have hq : Quote.ofChar? q.char = some q := Quote.ofChar?_eq_some_iff.mpr rfl
      have hcolon : q.char ≠ ':' := by cases q <;> decide
      cases hquote.symm.trans hq
      rw [← hread]
      simp only [List.cons_append, List.tail_cons]
      rw [readTestId]
      · simp only [hq]
      · exact hcolon

theorem testId_of_readTestId {cs value rest : List Char} (h : readTestId cs = .ok (value, rest)) :
    ∃ text, TestId text value ∧ cs = text ++ rest := by
  unfold readTestId at h
  split at h
  · cases h
  · split at h
    · rename_i quote hquote
      obtain ⟨text, htext, rfl⟩ := literal_of_readLiteral hquote h
      exact ⟨_, .quotedSymbol htext, rfl⟩
    · split at h
      · rename_i found hfound
        cases h
        obtain ⟨hsymbol, rfl⟩ := symbol_of_readSymbol hfound
        exact ⟨_, .symbol hsymbol, rfl⟩
      · cases h
  · rename_i c cs _
    split at h
    · rename_i quote hquote
      obtain ⟨text, htext, heq⟩ : ∃ text, Literal text value ∧ c :: cs = text ++ rest :=
        literal_of_readLiteral hquote h
      exact ⟨text, .string htext, heq⟩
    · cases h

end TestExclusions.Line
