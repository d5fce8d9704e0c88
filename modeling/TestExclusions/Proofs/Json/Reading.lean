import Mathlib.Data.List.Forall2
import TestExclusions.Json.Decoder
import TestExclusions.Proofs.Json.Number
import TestExclusions.Proofs.Json.Quoted

/-! What decoders make of texts. A text that a decoder reads is read up to its end, whatever white
space stands before it and whatever may follow a value; lists and objects are read if their elements
and members are. -/
namespace TestExclusions.Json
open Decoder

/-! ## White space -/

def Spaces (s : List Char) : Prop := ∀ c ∈ s, isSpace c = true

theorem spaces_nil : Spaces [] := by simp [Spaces]

theorem skipSpace_append {s : List Char} (h : Spaces s) (cs : List Char) :
    skipSpace (s ++ cs) = skipSpace cs :=
  List.dropWhile_append_of_pos h

theorem skipSpace_cons {c : Char} (h : isSpace c = false) (cs : List Char) :
    skipSpace (c :: cs) = c :: cs := by
  simp [skipSpace, h]

/-- White space before a character that is none. -/
theorem skipSpace_before {s : List Char} (h : Spaces s) {c : Char} (hc : isSpace c = false)
    (cs : List Char) : skipSpace (s ++ c :: cs) = c :: cs := by
  rw [skipSpace_append h, skipSpace_cons hc]

theorem ends_append {s : List Char} (h : Spaces s) {rest : List Char} (hrest : Ends rest) :
    Ends (s ++ rest) := by
  cases s with
  | nil => exact hrest
  | cons c s =>
    intro d hd
    cases hd
    exact .inl (h c List.mem_cons_self)

/-! ## Steps of decoders -/

section Steps
variable {α β : Type} {d : Decoder α} {cs after : List Char} {a : α}

theorem bind_of_ok (h : d cs = .ok (a, after)) (f : α → Decoder β) :
    (d >>= f) cs = f a after := by
  change (d cs).bind _ = _
  rw [h]
  rfl

theorem map_of_ok (h : d cs = .ok (a, after)) (f : α → β) : (f <$> d) cs = .ok (f a, after) := by
  change (d cs).bind _ = _
  rw [h]
  rfl

end Steps

/-! ## Reading a text -/

variable {α : Type}

/-- A decoder reads a text as a value, behind any white space and up to the end of the text. The
text begins with neither white space nor the end of a list, so that a list can have it as an
element. -/
structure Reads (d : Decoder α) (text : List Char) (a : α) : Prop where
  begins : ∃ c ∈ text.head?, isSpace c = false ∧ c ≠ ']'
  read : ∀ before rest, Spaces before → Ends rest → d (before ++ (text ++ rest)) = .ok (a, rest)

section Reads
variable {d : Decoder α} {text : List Char} {a : α} (h : Reads d text a)
include h

theorem Reads.eq_cons : ∃ c cs, text = c :: cs ∧ isSpace c = false ∧ c ≠ ']' := by
  obtain ⟨c, hc, hspace, hend⟩ := h.begins
  obtain ⟨cs, rfl⟩ := List.head?_eq_some_iff.mp hc
  exact ⟨c, cs, rfl, hspace, hend⟩

theorem Reads.map {β : Type} (f : α → β) : Reads (f <$> d) text (f a) :=
  ⟨h.begins, fun before rest hbefore hrest => map_of_ok (h.read before rest hbefore hrest) f⟩

/-- A value is not null if it begins with another letter. -/
theorem Reads.nullable (hnull : text.head? ≠ some 'n') : Reads (nullable d) text (some a) := by
  refine ⟨h.begins, fun before rest hbefore hrest => ?_⟩
  obtain ⟨c, cs, rfl, hspace, -⟩ := h.eq_cons
  have hread := h.read [] rest spaces_nil hrest
  rw [Decoder.nullable, List.cons_append, skipSpace_before hbefore hspace]
  split
  · rename_i heq
    exact absurd (by rw [(List.cons.inj heq).1]; rfl) hnull
  · rw [List.nil_append, List.cons_append] at hread
    rw [hread]
    rfl

end Reads

/-- A text is decoded if nothing but white space follows it. -/
theorem Reads.decode_append {d : Decoder α} {text after : String} {a : α}
    (h : Reads d text.toList a) (hafter : Spaces after.toList) :
    decode d (text ++ after) = .ok a := by
  have hends : Ends after.toList := by
    rw [← List.append_nil after.toList]
    exact ends_append hafter (by simp [Ends])
  have hread := h.read [] after.toList spaces_nil hends
  have hspace : skipSpace after.toList = [] := by
    rw [← List.append_nil after.toList, skipSpace_append hafter]
    rfl
  rw [List.nil_append, ← String.toList_append] at hread
  rw [Decoder.decode, hread]
  simp [hspace]

/-- A text that holds nothing else is decoded. -/
theorem Reads.decode {d : Decoder α} {text : String} {a : α} (h : Reads d text.toList a) :
    decode d text = .ok a := by
  have hdecode : Decoder.decode d (text ++ "") = .ok a := h.decode_append spaces_nil
  rwa [String.append_empty] at hdecode

theorem reads_string (value : String) : Reads Decoder.string (quoted value) value := by
  refine ⟨⟨'"', rfl, rfl, by decide⟩, fun before rest hbefore _ => ?_⟩
  have hread : readQuoted (value.toList.flatMap escape ++ ['"'] ++ rest) =
      .ok (value.toList, rest) := by
    rw [List.append_assoc]
    exact readQuoted_escaped value.toList rest
  rw [Decoder.string, quoted, List.cons_append, List.cons_append, skipSpace_before hbefore rfl]
  simp only [hread, Except.map, String.ofList_toList]

theorem reads_natural {n limit : Nat} (h : n < limit) (hexact : n < exactLimit) :
    Reads (natural limit) (digits n) n := by
  obtain ⟨c, cs, hdigits⟩ := List.exists_cons_of_ne_nil
    (show digits n ≠ [] from digits_eq n ▸ Nat.toDigits_ne_nil)
  have hdigit : c.isDigit = true := isDigit_of_mem_digits (hdigits ▸ List.mem_cons_self)
  have hspace : isSpace c = false := by
    rw [Bool.eq_false_iff]
    intro hspace
    simp only [isSpace, Bool.or_eq_true, decide_eq_true_eq] at hspace
    rcases hspace with ((rfl | rfl) | rfl) | rfl
    all_goals cases hdigit
  refine ⟨⟨c, by rw [hdigits]; rfl, hspace, ?_⟩, fun before rest hbefore hrest => ?_⟩
  · rintro rfl
    cases hdigit
  · have hread := readNumber_digits hexact hrest
    rw [hdigits, List.cons_append] at hread
    rw [natural, hdigits, List.cons_append, skipSpace_before hbefore hspace]
    simp only [hdigit, Bool.or_true, if_true, hread, if_pos h]

theorem reads_null (d : Decoder α) : Reads (nullable d) ['n', 'u', 'l', 'l'] none := by
  refine ⟨⟨'n', rfl, rfl, by decide⟩, fun before rest hbefore _ => ?_⟩
  rw [nullable, List.cons_append, skipSpace_before hbefore rfl]
  rfl

/-! ## Items between brackets or braces -/

/-- What follows the first item of a list or of an object: the other ones, each behind a comma, and
the closing mark. -/
inductive Others (close : Char) : List (List Char) → List Char → Prop where
  | nil {s : List Char} (h : Spaces s) : Others close [] (s ++ [close])
  | cons {s s' item text : List Char} {items : List (List Char)} (h : Spaces s) (h' : Spaces s')
      (others : Others close items text) :
      Others close (item :: items) (s ++ ',' :: (s' ++ (item ++ text)))

/-- What follows the opening mark of a list or of an object: its items, with commas between them,
and the closing mark. -/
inductive Items (close : Char) : List (List Char) → List Char → Prop where
  | nil {s : List Char} (h : Spaces s) : Items close [] (s ++ [close])
  | cons {s item text : List Char} {items : List (List Char)} (h : Spaces s)
      (others : Others close items text) : Items close (item :: items) (s ++ (item ++ text))

theorem Others.ends {close : Char} {items : List (List Char)} {text : List Char}
    (h : Others close items text) (hclose : close = ']' ∨ close = '\x7d') (rest : List Char) :
    Ends (text ++ rest) := by
  cases h with
  | nil h =>
    rw [List.append_assoc]
    refine ends_append h ?_
    intro c hc
    cases hc
    exact .inr (.inr hclose)
  | cons h _ _ =>
    rw [List.append_assoc]
    refine ends_append h ?_
    intro c hc
    cases hc
    exact .inr (.inl rfl)

/-! ## Lists -/

section Lists
variable {d : Decoder α} {item s s' rest : List Char} {a : α}

theorem nextElement_spaces (h : Spaces s) (first : Bool) (cs : List Char) :
    nextElement first (s ++ cs) = nextElement first cs := by
  rw [nextElement, nextElement, skipSpace_append h]

theorem nextElement_close (h : Spaces s) (first : Bool) (rest : List Char) :
    nextElement first (s ++ ']' :: rest) = .ok (false, ']' :: rest) := by
  rw [nextElement_spaces h]
  rfl

theorem nextElement_first (h : Spaces s) (hitem : Reads d item a) :
    nextElement true (s ++ (item ++ rest)) = .ok (true, item ++ rest) := by
  obtain ⟨c, cs, rfl, hspace, hend⟩ := hitem.eq_cons
  rw [nextElement, List.cons_append, skipSpace_before h hspace]
  split
  · rename_i heq
    cases heq
  · rename_i heq
    exact absurd (List.cons.inj heq).1 hend
  · rename_i heq
    rw [if_pos rfl, ← heq]

theorem nextElement_other (h : Spaces s) (h' : Spaces s') (hitem : Reads d item a) :
    nextElement false (s ++ ',' :: (s' ++ (item ++ rest))) = .ok (true, item ++ rest) := by
  obtain ⟨c, cs, rfl, hspace, hend⟩ := hitem.eq_cons
  rw [nextElement_spaces h, nextElement, skipSpace_cons rfl]
  split
  · rename_i heq
    cases heq
  · rename_i heq
    cases heq
  · rename_i heq
    cases heq
    rw [if_neg Bool.false_ne_true, if_pos rfl, List.cons_append, skipSpace_before h' hspace]
    split
    · rename_i heq
      cases heq
    · rename_i heq
      exact absurd (List.cons.inj heq).1 hend
    · rfl

theorem element_of_next {first : Bool} {cs : List Char} (hitem : Reads d item a)
    (hnext : nextElement first cs = .ok (true, item ++ rest)) (hrest : Ends rest) :
    element first d cs = .ok (some a, rest) := by
  have hread : d (item ++ rest) = .ok (a, rest) := hitem.read [] rest spaces_nil hrest
  rw [element, bind_of_ok hnext, if_pos rfl, bind_of_ok hread]
  rfl

theorem element_none {first : Bool} {cs : List Char}
    (hnext : nextElement first cs = .ok (false, rest)) :
    element first d cs = .ok (none, rest) := by
  rw [element, bind_of_ok hnext]
  rfl

theorem elements_cons {first : Bool} {cs : List Char} {fuel : Nat} {as : List α}
    (hfirst : element first d cs = .ok (some a, s))
    (hrest : elements d fuel false s = .ok (as, rest)) :
    elements d (fuel + 1) first cs = .ok (a :: as, rest) := by
  rw [elements, bind_of_ok hfirst]
  change (elements d fuel false >>= fun as => pure (a :: as)) s = _
  rw [bind_of_ok hrest]
  rfl

theorem elements_none {first : Bool} {cs : List Char} {fuel : Nat}
    (hnone : element first d cs = .ok (none, rest)) :
    elements d (fuel + 1) first cs = .ok ([], rest) := by
  rw [elements, bind_of_ok hnone]
  rfl

/-- Every element takes a character of the text, so that there is fuel for all of them. -/
theorem elements_others {items : List (List Char)} {as : List α} {text : List Char} {fuel : Nat}
    (hall : List.Forall₂ (Reads d) items as) (h : Others ']' items text)
    (hfuel : text.length ≤ fuel) (rest : List Char) :
    elements d fuel false (text ++ rest) = .ok (as, ']' :: rest) := by
  induction h generalizing as fuel with
  | nil h =>
    cases hall
    obtain ⟨fuel, rfl⟩ := Nat.exists_eq_add_one_of_ne_zero (n := fuel) (by simp at hfuel; omega)
    rw [List.append_assoc]
    exact elements_none (element_none (nextElement_close h false rest))
  | cons h h' others ih =>
    simp only [List.length_append, List.length_cons] at hfuel
    obtain ⟨fuel, rfl⟩ := Nat.exists_eq_add_one_of_ne_zero (n := fuel) (by omega)
    cases hall with
    | cons hitem hall =>
      have hends := others.ends (.inl rfl) rest
      have hfirst := element_of_next hitem (nextElement_other h h' hitem) hends
      simp only [List.append_assoc, List.cons_append]
      exact elements_cons hfirst (ih hall (by omega))

/-- A list is read as what its elements are read as. -/
theorem reads_list {items : List (List Char)} {as : List α} {text : List Char}
    (hall : List.Forall₂ (Reads d) items as) (h : Items ']' items text) :
    Reads (list d) ('[' :: text) as := by
  refine ⟨⟨'[', rfl, rfl, by decide⟩, fun before rest hbefore _ => ?_⟩
  have hbody : elements d ((text ++ rest).length + 1) true (text ++ rest) =
      .ok (as, ']' :: rest) := by
    cases h with
    | nil h =>
      cases hall
      rw [List.append_assoc]
      exact elements_none (element_none (nextElement_close h true rest))
    | cons h others =>
      cases hall with
      | cons hitem hall =>
        have hends := others.ends (.inl rfl) rest
        have hfirst := element_of_next hitem (nextElement_first h hitem) hends
        simp only [List.append_assoc]
        refine elements_cons hfirst (elements_others hall others ?_ rest)
        simp only [List.length_append]
        omega
  rw [list, List.cons_append, skipSpace_before hbefore rfl]
  change (elements d ((text ++ rest).length + 1) true >>= fun as => endList >>= fun _ => pure as)
    (text ++ rest) = _
  rw [bind_of_ok hbody]
  rfl

end Lists

/-! ## Objects -/

/-- A member of an object: its key, a colon, and the text of its value. -/
inductive Member (key : String) (value : List Char) : List Char → Prop where
  | mk {s s' : List Char} (h : Spaces s) (h' : Spaces s') :
      Member key value (quoted key ++ (s ++ ':' :: (s' ++ value)))

theorem member_compact (key : String) (value : List Char) :
    Member key value (quoted key ++ ':' :: value) :=
  Member.mk spaces_nil spaces_nil

section Objects
variable {σ : Type} {member : σ → String → Except Fault (Decoder σ)}

/-- Members that are read one after the other, and what has been read before and after them. -/
inductive ReadsMembers (member : σ → String → Except Fault (Decoder σ)) :
    σ → List (List Char) → σ → Prop where
  | nil (state : σ) : ReadsMembers member state [] state
  | cons {state next final : σ} {key : String} {value item : List Char}
      {items : List (List Char)} {d : Decoder σ} (hkey : member state key = .ok d)
      (hitem : Member key value item) (hvalue : Reads d value next)
      (others : ReadsMembers member next items final) :
      ReadsMembers member state (item :: items) final

theorem ReadsMembers.append {state next final : σ} {items others : List (List Char)}
    (h : ReadsMembers member state items next) (hothers : ReadsMembers member next others final) :
    ReadsMembers member state (items ++ others) final := by
  induction h with
  | nil => exact hothers
  | cons hkey hitem hvalue _ ih => exact .cons hkey hitem hvalue (ih hothers)

theorem nextKey_spaces {s : List Char} (h : Spaces s) (first : Bool) (cs : List Char) :
    nextKey first (s ++ cs) = nextKey first cs := by
  rw [nextKey, nextKey, skipSpace_append h]

theorem nextKey_close {s : List Char} (h : Spaces s) (first : Bool) (rest : List Char) :
    nextKey first (s ++ '\x7d' :: rest) = .ok (none, '\x7d' :: rest) := by
  rw [nextKey_spaces h]
  rfl

theorem readQuoted_quoted (key : String) (rest : List Char) :
    ∃ cs, quoted key ++ rest = '"' :: cs ∧ readQuoted cs = .ok (key.toList, rest) := by
  refine ⟨key.toList.flatMap escape ++ '"' :: rest, by simp [quoted], ?_⟩
  exact readQuoted_escaped key.toList rest

theorem nextKey_first {s : List Char} (h : Spaces s) (key : String) (rest : List Char) :
    nextKey true (s ++ (quoted key ++ rest)) = .ok (some key.toList, rest) := by
  obtain ⟨cs, hcs, hread⟩ := readQuoted_quoted key rest
  have hkey : nextKey true ('"' :: cs) =
      (readQuoted cs).map fun found => (some found.1, found.2) := rfl
  rw [nextKey_spaces h, hcs, hkey, hread]
  rfl

theorem nextKey_other {s s' : List Char} (h : Spaces s) (h' : Spaces s') (key : String)
    (rest : List Char) :
    nextKey false (s ++ ',' :: (s' ++ (quoted key ++ rest))) = .ok (some key.toList, rest) := by
  obtain ⟨cs, hcs, hread⟩ := readQuoted_quoted key rest
  rw [nextKey_spaces h, hcs, nextKey, skipSpace_cons rfl]
  split
  · rename_i heq
    cases heq
  · rename_i heq
    cases heq
  · rename_i heq
    cases heq
    rw [if_neg Bool.false_ne_true, if_pos rfl, skipSpace_before h' rfl]
    simp only [hread]
    rfl

theorem colon_of_spaces {s : List Char} (h : Spaces s) (rest : List Char) :
    colon (s ++ ':' :: rest) = .ok ((), rest) := by
  rw [colon, skipSpace_before h rfl]
  rfl

/-- Reading one member: its key has been met, and its value is read behind the colon. -/
theorem members_cons {first : Bool} {fuel : Nat} {state next final : σ} {key : String}
    {value s s' after rest cs : List Char} {d : Decoder σ}
    (hnext : nextKey first cs = .ok (some key.toList, s ++ ':' :: (s' ++ (value ++ after))))
    (h : Spaces s) (h' : Spaces s') (hkey : member state key = .ok d) (hvalue : Reads d value next)
    (hafter : Ends after) (hrest : members member fuel false next after = .ok (final, rest)) :
    members member (fuel + 1) first state cs = .ok (final, rest) := by
  have hread := hvalue.read s' after h' hafter
  rw [members, bind_of_ok hnext]
  simp only [String.ofList_toList, hkey]
  change (colon >>= fun _ => d >>= members member fuel false) _ = _
  rw [bind_of_ok (colon_of_spaces h _), bind_of_ok hread, hrest]

theorem members_nil {first : Bool} {fuel : Nat} {state : σ} {cs rest : List Char}
    (hnext : nextKey first cs = .ok (none, rest)) :
    members member (fuel + 1) first state cs = .ok (state, rest) := by
  rw [members, bind_of_ok hnext]
  rfl

theorem members_others {items : List (List Char)} {state final : σ} {text : List Char} {fuel : Nat}
    (hall : ReadsMembers member state items final) (h : Others '\x7d' items text)
    (hfuel : text.length ≤ fuel) (rest : List Char) :
    members member fuel false state (text ++ rest) = .ok (final, '\x7d' :: rest) := by
  induction h generalizing state fuel with
  | nil h =>
    cases hall
    obtain ⟨fuel, rfl⟩ := Nat.exists_eq_add_one_of_ne_zero (n := fuel) (by simp at hfuel; omega)
    rw [List.append_assoc]
    exact members_nil (nextKey_close h false rest)
  | cons h h' others ih =>
    simp only [List.length_append, List.length_cons] at hfuel
    obtain ⟨fuel, rfl⟩ := Nat.exists_eq_add_one_of_ne_zero (n := fuel) (by omega)
    cases hall with
    | cons hkey hitem hvalue hall =>
      cases hitem with
      | mk hs hs' =>
        have hends := others.ends (.inr rfl) rest
        simp only [List.append_assoc, List.cons_append]
        exact members_cons (nextKey_other h h' _ _) hs hs' hkey hvalue hends (ih hall (by omega))

/-- An object is read if its members are and the state behind the last one is complete. -/
theorem reads_fields {α : Type} {inOrder : Decoder α} {start final : σ}
    {finish : σ → Except Fault α} {a : α} {items : List (List Char)} {text : List Char}
    (hall : ReadsMembers member start items final) (hfinish : finish final = .ok a)
    (h : Items '\x7d' items text) :
    Reads (fields inOrder start member finish) ('\x7b' :: text) a := by
  refine ⟨⟨'\x7b', rfl, rfl, by decide⟩, fun before rest hbefore _ => ?_⟩
  have hbody : members member ((text ++ rest).length + 1) true start (text ++ rest) =
      .ok (final, '\x7d' :: rest) := by
    cases h with
    | nil h =>
      cases hall
      rw [List.append_assoc]
      exact members_nil (nextKey_close h true rest)
    | cons h others =>
      cases hall with
      | cons hkey hitem hvalue hall =>
        cases hitem with
        | mk hs hs' =>
          have hends := others.ends (.inr rfl) rest
          simp only [List.append_assoc, List.cons_append]
          refine members_cons (nextKey_first h _ _) hs hs' hkey hvalue hends
            (members_others hall others ?_ rest)
          simp only [List.length_append, List.length_cons]
          omega
  rw [fields, List.cons_append, skipSpace_before hbefore rfl]
  change (members member ((text ++ rest).length + 1) true start >>= fun read =>
    (liftM (finish read) : Decoder α) >>= fun a => endObject >>= fun _ => pure a)
      (text ++ rest) = _
  rw [bind_of_ok hbody, hfinish]
  rfl

end Objects
end TestExclusions.Json
