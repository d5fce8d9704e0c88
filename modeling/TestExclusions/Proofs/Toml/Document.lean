import TestExclusions.Proofs.Text.Split
import TestExclusions.Proofs.Toml.Quoted
import TestExclusions.Toml.Document

/-! Lines of TOML documents: headers of arrays of tables, and keys with strings. Each line leads
from one draft of the document to the next, whatever lines follow. -/
namespace TestExclusions.Toml

/-! ## Keys -/

/-- A key that needs no quotes. -/
structure Bare (key : String) : Prop where
  nonempty : key.toList ≠ []
  chars : ∀ c ∈ key.toList, isBareKeyChar c = true

theorem ne_of_isBareKeyChar {c d : Char} (hc : isBareKeyChar c = true)
    (hd : isBareKeyChar d = false) : c ≠ d := by
  rintro rfl
  exact Bool.false_ne_true (hd.symm.trans hc)

theorem Bare.eq_cons {key : String} (h : Bare key) :
    ∃ c cs, key.toList = c :: cs ∧ isBareKeyChar c = true := by
  obtain ⟨c, cs, hkey⟩ := List.exists_cons_of_ne_nil h.nonempty
  exact ⟨c, cs, hkey, h.chars c (hkey ▸ List.mem_cons_self)⟩

theorem dropSpaces_bare {key : String} (h : Bare key) (rest : List Char) :
    dropSpaces (key.toList ++ rest) = key.toList ++ rest := by
  obtain ⟨c, cs, hkey, hc⟩ := h.eq_cons
  have hblank : c ≠ ' ' := ne_of_isBareKeyChar hc rfl
  have htab : c ≠ '\t' := ne_of_isBareKeyChar hc rfl
  have hspace : isTabOrSpace c = false := by simp [isTabOrSpace, hblank, htab]
  rw [hkey]
  exact List.dropWhile_cons_of_neg (Bool.eq_false_iff.mp hspace)

/-- A bare key is read up to the first character that cannot belong to it. -/
theorem readKeyPart_bare {key : String} (h : Bare key) {rest : List Char}
    (hrest : ∀ c, rest.head? = some c → isBareKeyChar c = false) :
    readKeyPart (key.toList ++ rest) = some (key, rest) := by
  have htake := Text.takeWhile_append_of_head? h.chars hrest
  have hdrop := Text.dropWhile_append_of_head? h.chars hrest
  obtain ⟨c, cs, hkey, hc⟩ := h.eq_cons
  unfold readKeyPart
  split
  · rename_i heq
    rw [hkey] at heq
    exact absurd (List.cons.inj heq).1 (ne_of_isBareKeyChar hc rfl)
  · rename_i heq
    rw [hkey] at heq
    exact absurd (List.cons.inj heq).1 (ne_of_isBareKeyChar hc rfl)
  · simp only [htake, hdrop, String.ofList_toList]
    rw [if_neg (by simpa using h.nonempty)]

theorem readKey_bare {key : String} (h : Bare key) {rest : List Char}
    (hrest : ∀ c, rest.head? = some c → isBareKeyChar c = false)
    (hdot : (dropSpaces rest).head? ≠ some '.') :
    readKey (key.toList ++ rest) = some (([], key), dropSpaces rest) := by
  have hparts : ∀ fuel, readKeyParts (fuel + 1) (key.toList ++ rest) =
      some ([key], dropSpaces rest) := by
    intro fuel
    rw [readKeyParts, dropSpaces_bare h, readKeyPart_bare h hrest, Option.bind_eq_bind,
      Option.bind_some]
    dsimp only
    split
    · rename_i heq
      exact absurd (by rw [heq]; rfl) hdot
    · rfl
  rw [readKey, hparts]
  rfl

/-! ## Lines -/

/-- A line that gives a key a string, by its spelling. -/
def stringLine (key : String) (body : List Char) : List Char :=
  key.toList ++ ' ' :: '=' :: ' ' :: '"' :: (body ++ ['"', '\n'])

/-- A line that opens one more table of an array. -/
def elementLine (key : String) : List Char := '[' :: '[' :: (key.toList ++ [']', ']', '\n'])

/-- Lines that lead from one draft to another, whatever follows. -/
def Leads (draft : Draft) (text : List Char) (next : Draft) : Prop :=
  ∃ lines ≤ text.length, ∀ fuel rest,
    readLines (fuel + lines) draft (text ++ rest) = readLines fuel next rest

theorem leads_nil (draft : Draft) : Leads draft [] draft := ⟨0, Nat.le_refl 0, fun _ _ => rfl⟩

theorem Leads.append {draft next last : Draft} {text more : List Char} (h : Leads draft text next)
    (hmore : Leads next more last) : Leads draft (text ++ more) last := by
  obtain ⟨m, hm, hreadm⟩ := h
  obtain ⟨n, hn, hreadn⟩ := hmore
  refine ⟨n + m, by rw [List.length_append]; omega, fun fuel rest => ?_⟩
  rw [← Nat.add_assoc, List.append_assoc, hreadm, hreadn]

/-- Every line takes a character, so that there is fuel for all of them. -/
theorem Leads.readLines_eq {draft next : Draft} {text : List Char} (h : Leads draft text next) :
    readLines (text.length + 1) draft text = some next := by
  obtain ⟨lines, hlines, hread⟩ := h
  have hall := hread (text.length - lines + 1) []
  rw [List.append_nil, Nat.add_right_comm, Nat.sub_add_cancel hlines] at hall
  exact hall

theorem leads_blank (draft : Draft) : Leads draft ['\n'] draft := ⟨1, Nat.le_refl 1, fun _ _ => rfl⟩

theorem readPair_string {key : String} (hkey : Bare key) {body value : List Char}
    (hbody : Spells body value) (depth : Nat) (rest : List Char) :
    readPair (readValue depth) (stringLine key body ++ rest) =
      some ((([], key), .string (String.ofList value)), '\n' :: rest) := by
  have hread : readKey (key.toList ++ ' ' :: '=' :: ' ' :: '"' :: (body ++ '"' :: '\n' :: rest)) =
      some (([], key), '=' :: ' ' :: '"' :: (body ++ '"' :: '\n' :: rest)) :=
    readKey_bare hkey (by rintro _ ⟨⟩; decide) (by rintro ⟨⟩)
  have hscalar : readScalar ('"' :: (body ++ '"' :: '\n' :: rest)) =
      some (.string (String.ofList value), '\n' :: rest) := readScalar_basic hbody (by simp)
  have hvalue : readValue depth ('"' :: (body ++ '"' :: '\n' :: rest)) =
      some (.string (String.ofList value), '\n' :: rest) := by
    cases depth with
    | zero => exact hscalar
    | succ depth => exact hscalar
  rw [readPair, stringLine, List.append_assoc]
  simp only [List.cons_append, List.append_assoc, List.nil_append]
  rw [hread]
  change (readValue depth ('"' :: (body ++ '"' :: '\n' :: rest))).bind _ = _
  rw [hvalue]
  rfl

theorem leads_string {draft : Draft} {key : String} (hkey : Bare key) {body value : List Char}
    (hbody : Spells body value) (hfree : draft.current.get? key = none) :
    Leads draft (stringLine key body)
      { draft with current := draft.current ++ [(key, .string (String.ofList value))] } := by
  have hlength : 1 ≤ (stringLine key body).length := by
    rw [stringLine, List.length_append, List.length_cons]
    omega
  refine ⟨1, hlength, fun fuel rest => ?_⟩
  have hentry : readEntry draft (stringLine key body ++ rest) =
      some ({ draft with current := draft.current ++ [(key, .string (String.ofList value))] },
        rest) := by
    rw [readEntry, readPair_string hkey hbody]
    change (draft.current.define key (.string (String.ofList value)) [] true).bind _ = _
    rw [Table.define, hfree]
    rfl
  have hdrop : dropSpaces (stringLine key body ++ rest) = stringLine key body ++ rest := by
    rw [stringLine, List.append_assoc]
    exact dropSpaces_bare hkey _
  obtain ⟨c, cs, hcs, hc⟩ := hkey.eq_cons
  have hline : stringLine key body ++ rest = c :: (stringLine key body ++ rest).tail := by
    rw [stringLine, hcs]
    rfl
  have hentered : ¬(c = '#' || c = '\n' || c = '\r') = true := by
    simp only [Bool.or_eq_true, decide_eq_true_eq]
    rintro ((rfl | rfl) | rfl)
    all_goals cases hc
  rw [readLines, hdrop]
  rw [hline] at hentry ⊢
  split
  · rename_i heq
    cases heq
  · rename_i heq
    exact absurd (List.cons.inj heq).1 (ne_of_isBareKeyChar hc rfl)
  · rename_i heq
    cases heq
    rw [if_neg hentered, hentry]
    rfl

theorem leads_element {draft next : Draft} {key : String} (hkey : Bare key)
    (hopen : draft.openElement [] key = some next) : Leads draft (elementLine key) next := by
  refine ⟨1, by simp [elementLine], fun fuel rest => ?_⟩
  have hread : readKey (key.toList ++ ']' :: ']' :: '\n' :: rest) =
      some (([], key), ']' :: ']' :: '\n' :: rest) :=
    readKey_bare hkey (by rintro _ ⟨⟩; decide) (by rintro ⟨⟩)
  have hheader : readHeader draft (elementLine key ++ rest) = some (next, rest) := by
    rw [elementLine]
    simp only [List.cons_append, List.append_assoc, List.nil_append]
    rw [readHeader, hread]
    change (draft.openElement [] key).bind _ = _
    rw [hopen]
    rfl
  change (readHeader draft (elementLine key ++ rest)).bind _ = _
  rw [hheader]
  rfl

/-! ## One array of tables -/

/-- A document that holds one array of tables, or nothing if it has none. -/
def arrayOf (key : String) : List Table → Table
  | [] => []
  | table :: tables => [(key, .tables (table :: tables))]

theorem openElement_arrayOf {draft : Draft} {key : String} {tables : List Table}
    (h : draft.close = arrayOf key tables) :
    draft.openElement [] key = some ⟨arrayOf key tables, .element [] key, []⟩ := by
  rw [Draft.openElement, h]
  cases tables with
  | nil => rfl
  | cons table tables => simp [arrayOf, Table.descend, Table.get?]

theorem close_arrayOf (key : String) (tables : List Table) (current : Table) :
    (⟨arrayOf key tables, .element [] key, current⟩ : Draft).close =
      arrayOf key (tables ++ [current]) := by
  cases tables with
  | nil => rfl
  | cons table tables => simp [arrayOf, Draft.close, Table.modify, Table.get?, Table.set]

end TestExclusions.Toml
