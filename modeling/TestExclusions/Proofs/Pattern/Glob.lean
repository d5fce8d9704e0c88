import Mathlib.Computability.Language
import TestExclusions.Proofs.Pattern.Bytes

/-! What globs match. Every sequence of parts denotes a language of bytes, and matching marks exactly the
places of a name behind its words. A pattern of characters without a meaning of their own is read as these
characters, and so it denotes itself. -/
namespace TestExclusions.Pattern.Glob

/-! ## Languages -/

/-- The single bytes that have a property. -/
def single (p : UInt8 → Bool) : Language UInt8 := {word | ∃ b, p b = true ∧ word = [b]}

@[simp] theorem mem_single {p : UInt8 → Bool} {word : List UInt8} :
    word ∈ single p ↔ ∃ b, p b = true ∧ word = [b] := Iff.rfl

/-- Nothing but the given bytes. -/
def exactly (bytes : List UInt8) : Language UInt8 := {word | word = bytes}

@[simp] theorem mem_exactly {bytes word : List UInt8} : word ∈ exactly bytes ↔ word = bytes := Iff.rfl

theorem exactly_nil : exactly [] = 1 := rfl

theorem exactly_append (bytes more : List UInt8) :
    exactly (bytes ++ more) = exactly bytes * exactly more := by
  ext word
  simp [Language.mem_mul, eq_comm]

theorem exactly_singleton (b : UInt8) : exactly [b] = single (· == b) := by
  ext word
  simp

/-- Any bytes up to a slash. -/
def directories : Language UInt8 := ⊤ * single (· == slash)

mutual

/-- The bytes that a part stands for. -/
def language : Glob → Language UInt8
  | .literal c => exactly (bytesOf c)
  | .one => single fun _ => true
  | .many => ⊤
  | .recursiveStart => 1 + directories
  | .recursiveEnd => single (· == slash) * ⊤
  | .recursiveMiddle => single (· == slash) * (1 + directories)
  | .class negated ranges => single fun b => inClass ranges b != negated
  | .choice branches => if areVoid branches then 1 else languageOfAny branches

/-- The bytes that a sequence stands for. -/
def languageOfAll : List Glob → Language UInt8
  | [] => 1
  | part :: more => language part * languageOfAll more

/-- The bytes that one of several sequences stands for. -/
def languageOfAny : List (List Glob) → Language UInt8
  | [] => 0
  | branch :: more =>
    if isVoid branch then languageOfAny more else languageOfAll branch + languageOfAny more

end

/-! ## Places -/

theorem Places.length_onward (reached : Bool) (places : Places) :
    (places.onward reached).length = places.length := by
  induction places generalizing reached with
  | nil => rfl
  | cons here rest ih => simp [Places.onward, ih]

theorem Places.getElem?_onward {reached : Bool} {places : Places} {place : Nat} :
    (places.onward reached)[place]? = some true ↔ place < places.length ∧
      (reached = true ∨ ∃ earlier ≤ place, places[earlier]? = some true) := by
  induction places generalizing reached place with
  | nil => simp [Places.onward]
  | cons here rest ih =>
    rw [Places.onward]
    cases place with
    | zero => simp
    | succ place =>
      rw [List.getElem?_cons_succ, ih, Bool.or_eq_true, List.length_cons, Nat.add_lt_add_iff_right,
        or_assoc]
      refine and_congr_right fun _ => or_congr_right ?_
      constructor
      · rintro (hhere | ⟨earlier, hle, hreached⟩)
        · exact ⟨0, Nat.zero_le _, by simp [hhere]⟩
        · exact ⟨earlier + 1, by omega, hreached⟩
      · rintro ⟨_ | earlier, hle, hreached⟩
        · exact .inl (by simpa using hreached)
        · exact .inr ⟨earlier, by omega, hreached⟩

/-- The places of a text that are marked are those behind the words of a language. -/
structure Marks (text : List UInt8) (places : Places) (words : Language UInt8) : Prop where
  length : places.length = text.length + 1
  marked : ∀ front, front <+: text → (places[front.length]? = some true ↔ front ∈ words)

namespace Marks
variable {text : List UInt8} {places others : Places} {words more : Language UInt8}

theorem front (text : List UInt8) : Marks text (Places.front text) 1 := by
  refine ⟨by simp [Places.front], fun front hfront => ?_⟩
  rw [Language.mem_one, Places.front]
  cases front with
  | nil => simp
  | cons b front =>
    rw [List.length_cons, List.getElem?_cons_succ, List.getElem?_map]
    simp

theorem nowhere (text : List UInt8) (h : places.length = text.length + 1) :
    Marks text (places.map fun _ => false) 0 := by
  refine ⟨by simpa using h, fun front _ => ?_⟩
  rw [List.getElem?_map]
  simp

section Steps
variable (h : Marks text places words)
include h

theorem length_lt {front : List UInt8} (hfront : front <+: text) : front.length < places.length := by
  rw [h.length]
  exact Nat.lt_succ_of_le hfront.length_le

theorem either (hothers : Marks text others more) :
    Marks text (places.either others) (words + more) := by
  refine ⟨by simp [Places.either, h.length, hothers.length], fun front hfront => ?_⟩
  have hplace := h.length_lt hfront
  have hother := hothers.length_lt hfront
  have hmarked := h.marked front hfront
  have hmarked' := hothers.marked front hfront
  rw [List.getElem?_eq_getElem hplace, Option.some_inj] at hmarked
  rw [List.getElem?_eq_getElem hother, Option.some_inj] at hmarked'
  rw [Language.mem_add, ← hmarked, ← hmarked', Places.either, List.getElem?_zipWith,
    List.getElem?_eq_getElem hplace, List.getElem?_eq_getElem hother]
  simp

theorem behind (p : UInt8 → Bool) : Marks text (places.behind p text) (words * single p) := by
  refine ⟨by simp [Places.behind, h.length], fun front hfront => ?_⟩
  rw [Language.mem_mul, Places.behind]
  rcases List.eq_nil_or_concat' front with rfl | ⟨start, b, rfl⟩
  · simp
  · obtain ⟨back, rfl⟩ := hfront
    have hstart : start <+: start ++ [b] ++ back := ⟨b :: back, by simp⟩
    have hplace := h.length_lt hstart
    have hmarked := h.marked start hstart
    rw [List.getElem?_eq_getElem hplace, Option.some_inj] at hmarked
    have hnext : (start ++ [b] ++ back)[start.length]? = some b := by simp
    rw [List.length_append, List.length_singleton, List.getElem?_cons_succ,
      List.getElem?_zipWith, List.getElem?_eq_getElem hplace, hnext]
    simp only [Option.some_inj, Bool.and_eq_true, hmarked]
    constructor
    · rintro ⟨hword, hp⟩
      exact ⟨start, hword, [b], ⟨b, hp, rfl⟩, rfl⟩
    · rintro ⟨start', hword, _, ⟨b', hp, rfl⟩, heq⟩
      obtain ⟨rfl, hbyte⟩ := List.append_inj' heq rfl
      cases hbyte
      exact ⟨hword, hp⟩

theorem bytes (bytes : List UInt8) :
    Marks text (bytes.foldl (fun places b => places.behind (· == b) text) places)
      (words * exactly bytes) := by
  induction bytes generalizing places words with
  | nil =>
    rw [exactly_nil, mul_one]
    exact h
  | cons b bytes ih =>
    rw [← List.singleton_append, exactly_append, exactly_singleton, ← mul_assoc]
    exact ih (h.behind (· == b))

theorem onward : Marks text (places.onward false) (words * ⊤) := by
  refine ⟨by rw [Places.length_onward, h.length], fun front hfront => ?_⟩
  have hplace := h.length_lt hfront
  rw [Language.mem_mul, Places.getElem?_onward]
  constructor
  · rintro ⟨-, hfalse | ⟨place, hle, hreached⟩⟩
    · cases hfalse
    · have hlength : (front.take place).length = place := List.length_take_of_le hle
      refine ⟨front.take place, ?_, front.drop place, trivial, List.take_append_drop place front⟩
      rw [← h.marked _ ((List.take_prefix place front).trans hfront), hlength]
      exact hreached
  · rintro ⟨start, hstart, word, -, rfl⟩
    refine ⟨hplace, .inr ⟨start.length, by simp, ?_⟩⟩
    exact (h.marked start ((List.prefix_append start word).trans hfront)).mpr hstart

theorem behindSlashes : Marks text (places.behindSlashes text) (words * directories) := by
  rw [directories, ← mul_assoc]
  exact h.onward.behind (· == slash)

end Steps

/-- The end is marked if the language has the whole text. -/
theorem isAtEnd_iff (h : Marks text places words) : places.isAtEnd = true ↔ text ∈ words := by
  rw [← h.marked text List.prefix_rfl, Places.isAtEnd, List.getLast?_eq_getElem?, h.length,
    Nat.add_sub_cancel]
  cases places[text.length]? <;> simp

end Marks

/-! ## Matching

One case for each kind of part. The language of what stands in front is carried along, so that a
sequence follows from its parts by associativity. -/

mutual

theorem marks_advance {text : List UInt8} {places : Places} {words : Language UInt8}
    (h : Marks text places words) :
    ∀ part, Marks text (advance text places part) (words * language part)
  | .literal c => h.bytes (bytesOf c)
  | .one => h.behind _
  | .many => h.onward
  | .recursiveStart => by
    rw [language, mul_add, mul_one]
    exact h.either h.behindSlashes
  | .recursiveEnd => by
    rw [language, ← mul_assoc]
    exact (h.behind _).onward
  | .recursiveMiddle => by
    rw [language, ← mul_assoc, mul_add, mul_one]
    exact (h.behind _).either (h.behind _).behindSlashes
  | .class negated ranges => h.behind _
  | .choice branches => by
    rw [advance, language]
    split
    · rw [mul_one]
      exact h
    · exact marks_advanceAny h branches

theorem marks_advanceAll {text : List UInt8} {places : Places} {words : Language UInt8}
    (h : Marks text places words) :
    ∀ parts, Marks text (advanceAll text places parts) (words * languageOfAll parts)
  | [] => by
    rw [languageOfAll, mul_one]
    exact h
  | part :: more => by
    rw [languageOfAll, ← mul_assoc]
    exact marks_advanceAll (marks_advance h part) more

theorem marks_advanceAny {text : List UInt8} {places : Places} {words : Language UInt8}
    (h : Marks text places words) :
    ∀ branches, Marks text (advanceAny text places branches) (words * languageOfAny branches)
  | [] => by
    rw [languageOfAny, mul_zero]
    exact .nowhere text h.length
  | branch :: more => by
    rw [advanceAny, languageOfAny]
    split
    · exact marks_advanceAny h more
    · rw [mul_add]
      exact (marks_advanceAll h branch).either (marks_advanceAny h more)

end

/-- A name matches if the parts stand for its bytes, or if they are two stars alone. -/
theorem isMatch_iff {parts : List Glob} {name : String} : isMatch parts name = true ↔
    parts = [.recursiveStart] ∨ encode name.toList ∈ languageOfAll parts := by
  unfold isMatch
  split
  · simp
  · rename_i hparts
    rw [(marks_advanceAll (.front _) parts).isAtEnd_iff, one_mul, toList_toUTF8]
    exact (or_iff_right hparts).symm

/-! ## Literals -/

theorem languageOfAll_literals (cs : List Char) (parts : List Glob) :
    languageOfAll (cs.map .literal ++ parts) = exactly (encode cs) * languageOfAll parts := by
  induction cs with
  | nil => exact (one_mul _).symm
  | cons c cs ih =>
    rw [List.map_cons, List.cons_append, languageOfAll, ih, language, ← mul_assoc, encode_cons,
      exactly_append]

/-- Characters match the name that they make up, and no other. -/
theorem isMatch_literals {cs : List Char} {name : String} :
    isMatch (cs.map .literal) name = true ↔ name.toList = cs := by
  have hstars : cs.map Glob.literal ≠ [.recursiveStart] := by
    cases cs <;> simp
  have hlanguage := languageOfAll_literals cs []
  rw [List.append_nil, languageOfAll, mul_one] at hlanguage
  rw [isMatch_iff, or_iff_right hstars, hlanguage, mem_exactly, encode_inj]

/-- Characters in front of a star match the names that begin with them. -/
theorem isMatch_literals_many {cs : List Char} {name : String} :
    isMatch (cs.map .literal ++ [.many]) name = true ↔ cs <+: name.toList := by
  have hstars : cs.map Glob.literal ++ [.many] ≠ [.recursiveStart] := by
    cases cs <;> simp
  rw [isMatch_iff, or_iff_right hstars, languageOfAll_literals, languageOfAll, languageOfAll, mul_one,
    language, ← encode_prefix_iff, Language.mem_mul]
  constructor
  · rintro ⟨start, rfl, word, -, heq⟩
    exact ⟨word, heq⟩
  · rintro ⟨word, heq⟩
    exact ⟨_, rfl, word, trivial, heq⟩

/-! ## Reading -/

/-- The characters that may mean something else than themselves. -/
def specials : List Char := ['?', '*', '[', '\x7b', '\x7d', ',', '\\']

/-- A character that is read as itself wherever it stands. -/
def IsPlain (c : Char) : Prop := c ∉ specials

theorem readParts_cons {c : Char} (hc : IsPlain c) (fuel : Nat) (draft : Draft)
    (previous : Option Char) (rest : List Char) :
    readParts (fuel + 1) draft previous (c :: rest) =
      readParts fuel (draft.push (.literal c)) (some c) rest := by
  rw [readParts]
  -- what is left is that `c` is none of the characters that are read in another way
  all_goals
    rintro rfl
    exact hc (by decide)

/-- A run of plain characters is read as literals, the latest one first. -/
theorem readParts_append {cs : List Char} (hcs : ∀ c ∈ cs, IsPlain c) (fuel : Nat) (draft : Draft)
    (previous : Option Char) (rest : List Char) : ∃ last,
    readParts (cs.length + fuel) draft previous (cs ++ rest) =
      readParts fuel { draft with parts := (cs.map .literal).reverse ++ draft.parts } last rest := by
  induction cs generalizing draft previous with
  | nil => exact ⟨previous, by simp⟩
  | cons c cs ih =>
    obtain ⟨hc, hcs⟩ := List.forall_mem_cons.mp hcs
    obtain ⟨last, hread⟩ := ih hcs (draft.push (.literal c)) (some c)
    refine ⟨last, ?_⟩
    rw [List.length_cons, Nat.add_right_comm, List.cons_append, readParts_cons hc, hread]
    simp [Draft.push]

theorem read_plain {pattern : String} (h : ∀ c ∈ pattern.toList, IsPlain c) :
    read pattern = .ok (pattern.toList.map .literal) := by
  obtain ⟨last, hread⟩ := readParts_append h 1 ⟨[], [], []⟩ none []
  rw [List.append_nil] at hread
  rw [read, hread]
  simp [readParts, Draft.isInChoice]

theorem read_plain_star {pattern : String} (h : ∀ c ∈ pattern.toList, IsPlain c) :
    read (pattern ++ "*") = .ok (pattern.toList.map .literal ++ [.many]) := by
  obtain ⟨last, hread⟩ := readParts_append h 2 ⟨[], [], []⟩ none ['*']
  have htext : (pattern ++ "*").toList = pattern.toList ++ ['*'] := String.toList_append
  rw [read, htext, List.length_append, List.length_singleton, Nat.add_assoc, hread]
  simp [readParts, Draft.isInChoice, Draft.push]

end TestExclusions.Pattern.Glob
