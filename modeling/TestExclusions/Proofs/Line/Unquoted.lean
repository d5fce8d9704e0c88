import TestExclusions.Proofs.Line.RoundTrip

/-! Test identifiers without quotes. Behind the colon an identifier is read back exactly if it is a
bare symbol: one that begins with a quote opens a literal, and a literal denotes as many of its
quotes as it has, so that it cannot denote the text that it begins. -/
namespace TestExclusions.Line
open Grammar

/-! ## Symbols -/

theorem isBareSymbol_iff_symbol {id : List Char} : isBareSymbol id = true ↔ Symbol id := by
  refine ⟨symbol_of_isBareSymbol, fun h => ?_⟩
  obtain ⟨c, rest, mark, rfl, hstart, hword, rfl | ⟨m, rfl, hm⟩⟩ := h.exists_word
  · -- The last character belongs to the word, and is not taken for a mark.
    have hlast : (c :: rest).getLast?.any isSymbolMark = false := by
      cases hmark : isSymbolMark ((c :: rest).getLast (by simp)) with
      | false => simpa [List.getLast?_eq_some_getLast] using hmark
      | true =>
        have hnot := isWordChar_of_isSymbolMark hmark
        rw [hword _ (List.getLast_mem _)] at hnot
        cases hnot
    rw [List.append_nil]
    simp only [isBareSymbol, hlast]
    simpa [hstart] using fun d hd => hword d (List.mem_cons_of_mem c hd)
  · simp only [isBareSymbol, List.getLast?_concat, Option.any_some, hm, if_true,
      List.dropLast_concat]
    simpa [hstart] using fun d hd => hword d (List.mem_cons_of_mem c hd)

/-! ## Literals that run on -/

theorem Quote.count_unescape (quote : Quote) (c : Char) :
    (quote.unescape c).count quote.char = ['\\', c].count quote.char := by
  unfold unescape
  split
  · split
    · rename_i h
      simp only [Bool.or_eq_true, decide_eq_true_eq] at h
      rcases h with rfl | rfl <;> rfl
    · rfl
  all_goals rfl

/-- A literal denotes as many quotes of its kind as stand between its own. -/
theorem count_body {quote : Quote} {body value : List Char} (h : Body quote body value) :
    value.count quote.char = body.count quote.char := by
  induction h with
  | nil => rfl
  | plain _ _ _ ih => rw [List.count_cons, List.count_cons, ih]
  | @pair c body value denoted hpair _ ih =>
    have hsplit : '\\' :: c :: body = ['\\', c] ++ body := rfl
    rw [hsplit, List.count_append, List.count_append, ih, pair_iff.mp hpair, quote.count_unescape]

/-- What stands behind a character other than a backslash is read for itself. -/
theorem body_of_append {quote : Quote} {front back value : List Char}
    (h : Body quote (front ++ back) value) (hlast : front.getLast? ≠ some '\\') :
    ∃ value, Body quote back value := by
  generalize hwhole : front ++ back = whole at h
  induction h generalizing front with
  | nil =>
    obtain ⟨-, rfl⟩ := List.append_eq_nil_iff.mp hwhole
    exact ⟨_, .nil⟩
  | plain hquote hpair hrest ih =>
    cases front with
    | nil =>
      obtain rfl : back = _ := hwhole
      exact ⟨_, .plain hquote hpair hrest⟩
    | cons c front =>
      obtain ⟨rfl, hbody⟩ := List.cons.inj hwhole
      refine ih (fun h => hlast ?_) hbody
      simp [List.getLast?_cons, h]
  | pair hpair hrest ih =>
    match front with
    | [] =>
      obtain rfl : back = _ := hwhole
      exact ⟨_, .pair hpair hrest⟩
    | [_] =>
      obtain ⟨rfl, -⟩ := List.cons.inj hwhole
      exact absurd rfl hlast
    | _ :: _ :: front =>
      obtain ⟨-, hbody⟩ := List.cons.inj hwhole
      refine ih (fun h => hlast ?_) (List.cons.inj hbody).2
      simp [List.getLast?_cons, h]

/-- Between double quotes no single quote stands behind the backslash of a pair. -/
theorem escapeDouble_cases (c : Char) :
    (∃ d, escapeDouble c = ['\\', d] ∧ d ≠ '\'') ∨ escapeDouble c = [c] ∧ c ≠ '\\' := by
  unfold escapeDouble
  split
  case h_9 hbackslash _ _ _ _ _ _ => exact .inr ⟨rfl, hbackslash⟩
  all_goals exact .inl ⟨_, rfl, by decide⟩

/-- The body of a literal in single quotes that runs on into a text in double quotes ends before the
first single quote of that. -/
theorem single_not_mem_of_escaped {part value after text : List Char}
    (h : Body .single part value) (hpart : part ++ '\'' :: after = text.flatMap escapeDouble ++ ['"']) :
    '\'' ∉ part := by
  induction text generalizing part value with
  | nil =>
    cases part with
    | nil => simp
    | cons c part => simp at hpart
  | cons c text ih =>
    rw [List.flatMap_cons] at hpart
    rcases escapeDouble_cases c with ⟨d, hd, hne⟩ | ⟨hc, hne⟩
    · rw [hd] at hpart
      cases h with
      | nil => simp
      | plain hquote hpair hrest => exact absurd (List.cons.inj hpart).1 hpair
      | @pair e body value denoted hpair hrest =>
        obtain ⟨rfl, hbehind⟩ := List.cons.inj (List.cons.inj hpart).2
        have hbody := ih hrest hbehind
        simp [hbody, Ne.symm hne]
    · rw [hc] at hpart
      cases h with
      | nil => simp
      | @plain e body value hquote hpair hrest =>
        have hbody := ih hrest (List.cons.inj hpart).2
        exact fun hmem => (List.mem_cons.mp hmem).elim (fun heq => hquote heq.symm) hbody
      | pair hpair hrest => exact absurd (List.cons.inj hpart).1.symm hne

/-- A literal that ends in a reason between double quotes has no quote of its own there. -/
theorem quote_not_mem_of_doubleQuoted {quote : Quote} {part value after reason : List Char}
    (h : Body quote part value) (hpart : part ++ quote.char :: after = doubleQuoted reason) :
    quote.char ∉ part := by
  rw [doubleQuoted, List.cons_append] at hpart
  cases h with
  | nil => simp
  | @plain c body value hquote hpair hrest =>
    obtain ⟨rfl, hbody⟩ := List.cons.inj hpart
    cases quote with
    | double => exact absurd rfl hquote
    | single =>
      have hnot := single_not_mem_of_escaped hrest hbody
      simpa [Quote.char] using hnot
  | pair hpair hrest => exact absurd (List.cons.inj hpart).1 (by decide)

/-- A literal does not denote the text that begins with its opening quote. -/
theorem not_body_of_quote {quote : Quote} {id body after reason : List Char}
    (h : Body quote body (quote.char :: id))
    (htext : id ++ (',' :: ' ' :: doubleQuoted reason) = body ++ quote.char :: after) : False := by
  have hcount := count_body h
  rw [List.count_cons_self] at hcount
  rcases List.append_eq_append_iff.mp htext with ⟨part, rfl, hpart⟩ | ⟨rest, rfl, -⟩
  · match part with
    | [] => cases quote <;> cases hpart
    | [_] =>
      have hspace := (List.cons.inj (List.cons.inj hpart).2).1
      cases quote <;> cases hspace
    | _ :: _ :: part =>
      obtain ⟨rfl, hbehind⟩ := List.cons.inj hpart
      obtain ⟨rfl, hquoted⟩ := List.cons.inj hbehind
      have hsplit : id ++ ',' :: ' ' :: part = (id ++ [',', ' ']) ++ part := by simp
      rw [hsplit] at h hcount
      obtain ⟨value, hvalue⟩ := body_of_append h (by simp)
      have hnot := quote_not_mem_of_doubleQuoted hvalue hquoted.symm
      have hcomma : [',', ' '].count quote.char = 0 := by cases quote <;> rfl
      rw [List.count_append, List.count_append, hcomma, List.count_eq_zero_of_not_mem hnot] at hcount
      omega
  · rw [List.count_append] at hcount
    omega

/-! ## Identifiers behind a colon -/

/-- An identifier that denotes itself behind a colon is a symbol. -/
theorem symbol_of_readTestId {id after reason : List Char}
    (h : readTestId (':' :: (id ++ (',' :: ' ' :: doubleQuoted reason))) = .ok (id, after)) :
    Symbol id := by
  simp only [readTestId] at h
  split at h
  · rename_i quote hquote
    cases id with
    | nil => cases hquote
    | cons c id =>
      obtain rfl : c = quote.char := Quote.ofChar?_eq_some_iff.mp hquote
      obtain ⟨body, hbody, htext⟩ := readLiteral_eq_ok_iff.mp h
      exact (not_body_of_quote hbody htext).elim
  · split at h
    · rename_i hfound
      cases h
      exact (symbol_of_readSymbol hfound).1
    · cases h

/-- What a line declares behind a colon is what the colon and the rest of the line are read as. -/
theorem exists_readTestId_of_read {rest : List Char} {record : Record}
    (h : read (keyword ++ ([' '] ++ (':' :: rest))) = .ok (some record)) :
    ∃ testId after, readTestId (':' :: rest) = .ok (testId, after) ∧
      record.testId = String.ofList testId := by
  have hspace : Text.Blank [' '] := by
    intro c hc
    rw [List.mem_singleton.mp hc]
    decide
  have hcolon : StartsWith (fun c => Text.isBlank c = false ∧ c ≠ '(') (':' :: rest) :=
    fun c hc => Option.some.inj hc ▸ by decide
  have hopening : readOpening ([' '] ++ (':' :: rest)) = .ok (false, ':' :: rest) :=
    readOpening_of_frame (.blanks hspace (by simp)) Text.blank_nil hcolon
  have hdrop : Text.dropBlanks (keyword ++ ([' '] ++ (':' :: rest))) =
      keyword ++ ([' '] ++ (':' :: rest)) := Text.dropBlanks_of_not_isBlank (by decide)
  rw [read_of_dropBlanks hdrop, Outcome.map_eq_ok_iff] at h
  obtain ⟨_, hread, heq⟩ := h
  cases heq
  obtain ⟨rest₁, parenthesised, rest₂, testId, rest₃, -, -, -, -, hkeyword, hopen, hid, -, -, -, -,
    rfl⟩ := readDeclaration_eq_ok_iff.mp hread
  obtain ⟨hrest, -⟩ := readKeyword_eq_ok_iff.mp hkeyword
  rw [← List.append_cancel_left hrest, hopening] at hopen
  cases hopen
  exact ⟨testId, rest₃, hid, rfl⟩

/-- The line that declares an identifier without quotes, and a reason. -/
def unquoted (id reason : String) : String :=
  "exclude :" ++ id ++ ", " ++ String.ofList (doubleQuoted reason.toList)

theorem toList_unquoted (id reason : String) : (unquoted id reason).toList =
    keyword ++ ([' '] ++ (':' :: id.toList ++ (',' :: ([' '] ++ doubleQuoted reason.toList)))) := by
  have hopening : "exclude :".toList = keyword ++ [' ', ':'] := by simp [keyword]
  have hcomma : ", ".toList = [',', ' '] := by simp
  simp only [unquoted, String.toList_append, String.toList_ofList, hopening, hcomma]
  simp

theorem symbol_of_parse_unquoted {id reason : String} {record : Record}
    (h : parse (unquoted id reason) = .ok (some record)) (hid : record.testId = id) :
    Symbol id.toList := by
  rw [parse, toList_unquoted] at h
  obtain ⟨testId, after, hread, htestId⟩ := exists_readTestId_of_read h
  obtain rfl : testId = id.toList := by rw [← hid, htestId, String.toList_ofList]
  exact symbol_of_readTestId hread

/-- An identifier is a bare symbol exactly if it can be written without quotes, whatever the reason is.
None with a quote, a backslash or white space in it denotes itself there. -/
theorem isBareSymbol_iff_parse_unquoted (id reason : String) :
    (isBareSymbol id.toList = true ↔ ∃ record, parse (unquoted id reason) = .ok (some record) ∧
      record.testId = id ∧ record.reason = reason) ∧
    ∀ record, parse (unquoted id reason) = .ok (some record) → record.testId = id →
      ∀ c ∈ id.toList, c ∉ ['\'', '"', '\\'] ∧ Text.isBlank c = false := by
  refine ⟨⟨fun h => ?_, ?_⟩, fun record hparse hid c hc => ?_⟩
  · have hread := read_spelled (.symbol (isBareSymbol_iff_symbol.mp h)) reason.toList
    rw [String.ofList_toList, String.ofList_toList] at hread
    exact ⟨_, by rw [parse, toList_unquoted]; exact hread, rfl, rfl⟩
  · rintro ⟨record, hparse, hid, -⟩
    exact isBareSymbol_iff_symbol.mpr (symbol_of_parse_unquoted hparse hid)
  · exact (symbol_of_parse_unquoted hparse hid).plain hc

/-- A literal in the place of the identifier is read, but does not denote itself. -/
theorem isBareSymbol_iff_parse_unquoted_mark :
    (∃ record, parse (unquoted "save!" "not \"yet\"") = .ok (some record) ∧
      record.testId = "save!" ∧ record.reason = "not \"yet\"") ∧
    (∀ c ∈ "save!".toList, c ∉ ['\'', '"', '\\'] ∧ Text.isBlank c = false) ∧
    (∃ record, parse (unquoted "'b'" "r") = .ok (some record)) ∧
    ¬∃ record, parse (unquoted "'b'" "r") = .ok (some record) ∧ record.testId = "'b'" ∧
      record.reason = "r" := by
  obtain ⟨hiff, hplain⟩ := isBareSymbol_iff_parse_unquoted "save!" "not \"yet\""
  obtain ⟨record, hparse, hid, hreason⟩ := hiff.mp (by decide)
  refine ⟨⟨record, hparse, hid, hreason⟩, hplain record hparse hid, ?_, fun h => ?_⟩
  · have hread : (parse (unquoted "'b'" "r")).map (·.isSome) = .ok true := by decide +kernel
    obtain ⟨result, hresult, hsome⟩ := Outcome.map_eq_ok_iff.mp hread
    obtain ⟨record, rfl⟩ := Option.isSome_iff_exists.mp hsome
    exact ⟨record, hresult⟩
  · have hbare := (isBareSymbol_iff_parse_unquoted "'b'" "r").1.mpr h
    revert hbare
    decide

end TestExclusions.Line
