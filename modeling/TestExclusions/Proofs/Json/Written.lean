import TestExclusions.Proofs.Json.Reading

/-! Texts that write a value. They differ in the white space between its parts; the compact and the
pretty form are two of them, and a decoder that knows the value's shape reads all of them alike. -/
namespace TestExclusions.Json
open Decoder

mutual

/-- A text writes a value, with any white space between its parts. -/
inductive Written : Json → List Char → Prop where
  | string (value : String) : Written (.string value) (quoted value)
  | number (n : Nat) : Written (.number n) (digits n)
  | array {elements : List Json} {items : List (List Char)} {text : List Char}
      (hall : WrittenElements elements items) (h : Items ']' items text) :
      Written (.array elements) ('[' :: text)
  | object {members : List (String × Json)} {items : List (List Char)} {text : List Char}
      (hall : WrittenMembers members items) (h : Items '\x7d' items text) :
      Written (.object members) ('\x7b' :: text)

inductive WrittenElements : List Json → List (List Char) → Prop where
  | nil : WrittenElements [] []
  | cons {element : Json} {elements : List Json} {item : List Char} {items : List (List Char)}
      (h : Written element item) (hall : WrittenElements elements items) :
      WrittenElements (element :: elements) (item :: items)

inductive WrittenMembers : List (String × Json) → List (List Char) → Prop where
  | nil : WrittenMembers [] []
  | cons {key : String} {value : Json} {members : List (String × Json)} {text item : List Char}
      {items : List (List Char)} (h : Written value text) (hitem : Member key text item)
      (hall : WrittenMembers members items) :
      WrittenMembers ((key, value) :: members) (item :: items)

end

/-! ## Layouts -/

section Layout
variable (line : Nat → List Char) (gap : List Char)

mutual

/-- The form that puts `line` in front of every item and of the mark that closes them, each at its
level, and `gap` behind every colon. -/
def laid (level : Nat) : Json → List Char
  | .string value => quoted value
  | .number n => digits n
  | .array [] => ['[', ']']
  | .array (e :: es) =>
    '[' :: (line (level + 1) ++ (laid (level + 1) e ++
      laidElements (level + 1) (line level ++ [']']) es))
  | .object [] => ['\x7b', '\x7d']
  | .object ((key, value) :: ms) =>
    '\x7b' :: (line (level + 1) ++ (quoted key ++ ':' :: (gap ++ laid (level + 1) value) ++
      laidMembers (level + 1) (line level ++ ['\x7d']) ms))

/-- The elements behind the first one, and what closes the list. -/
def laidElements (level : Nat) (closing : List Char) : List Json → List Char
  | [] => closing
  | e :: es => ',' :: (line level ++ (laid level e ++ laidElements level closing es))

def laidMembers (level : Nat) (closing : List Char) : List (String × Json) → List Char
  | [] => closing
  | (key, value) :: ms => ',' :: (line level ++
      (quoted key ++ ':' :: (gap ++ laid level value) ++ laidMembers level closing ms))

end

variable {line gap} (h : (∀ level, Spaces (line level)) ∧ Spaces gap)
include h

mutual

theorem written_laid (level : Nat) : ∀ json : Json, Written json (laid line gap level json)
  | .string value => .string value
  | .number n => .number n
  | .array [] => .array .nil (.nil spaces_nil)
  | .array (e :: es) => by
    obtain ⟨items, hall, hothers⟩ := elements_laid (level + 1) (h.1 level) es
    exact .array (.cons (written_laid (level + 1) e) hall) (.cons (h.1 (level + 1)) hothers)
  | .object [] => .object .nil (.nil spaces_nil)
  | .object ((key, value) :: ms) => by
    obtain ⟨items, hall, hothers⟩ := members_laid (level + 1) (h.1 level) ms
    exact .object (.cons (written_laid (level + 1) value) (.mk spaces_nil h.2) hall)
      (.cons (h.1 (level + 1)) hothers)

theorem elements_laid (level : Nat) {s : List Char} (hs : Spaces s) : ∀ es : List Json,
    ∃ items, WrittenElements es items ∧
      Others ']' items (laidElements line gap level (s ++ [']']) es)
  | [] => ⟨[], .nil, .nil hs⟩
  | e :: es => by
    obtain ⟨items, hall, hothers⟩ := elements_laid level hs es
    exact ⟨_, .cons (written_laid level e) hall, .cons spaces_nil (h.1 level) hothers⟩

theorem members_laid (level : Nat) {s : List Char} (hs : Spaces s) : ∀ ms : List (String × Json),
    ∃ items, WrittenMembers ms items ∧
      Others '\x7d' items (laidMembers line gap level (s ++ ['\x7d']) ms)
  | [] => ⟨[], .nil, .nil hs⟩
  | (key, value) :: ms => by
    obtain ⟨items, hall, hothers⟩ := members_laid level hs ms
    exact ⟨_, .cons (written_laid level value) (.mk spaces_nil h.2) hall,
      .cons spaces_nil (h.1 level) hothers⟩

end
end Layout

mutual

theorem compact_eq_laid (level : Nat) : ∀ json : Json,
    json.compact = laid (fun _ => []) [] level json
  | .string _ => rfl
  | .number _ => rfl
  | .array [] => rfl
  | .array (e :: es) => by
    simp [compact, laid, compact_eq_laid (level + 1) e, compactElements_eq_laid (level + 1) _ es]
  | .object [] => rfl
  | .object ((key, value) :: ms) => by
    simp [compact, laid, compact_eq_laid (level + 1) value, compactMembers_eq_laid (level + 1) _ ms]

theorem compactElements_eq_laid (level : Nat) (closing : List Char) : ∀ es : List Json,
    compactElements es ++ closing = laidElements (fun _ => []) [] level closing es
  | [] => rfl
  | e :: es => by
    simp [compactElements, laidElements, compact_eq_laid level e,
      compactElements_eq_laid level closing es]

theorem compactMembers_eq_laid (level : Nat) (closing : List Char) : ∀ ms : List (String × Json),
    compactMembers ms ++ closing = laidMembers (fun _ => []) [] level closing ms
  | [] => rfl
  | (key, value) :: ms => by
    simp [compactMembers, laidMembers, compact_eq_laid level value,
      compactMembers_eq_laid level closing ms]

end

mutual

theorem pretty_eq_laid (level : Nat) : ∀ json : Json,
    json.pretty level = laid newLine [' '] level json
  | .string _ => rfl
  | .number _ => rfl
  | .array [] => rfl
  | .array (e :: es) => by
    simp [pretty, laid, pretty_eq_laid (level + 1) e, ← prettyElements_eq_laid (level + 1) _ es]
  | .object [] => rfl
  | .object ((key, value) :: ms) => by
    simp [pretty, laid, pretty_eq_laid (level + 1) value, ← prettyMembers_eq_laid (level + 1) _ ms]

theorem prettyElements_eq_laid (level : Nat) (closing : List Char) : ∀ es : List Json,
    prettyElements level es ++ closing = laidElements newLine [' '] level closing es
  | [] => rfl
  | e :: es => by
    simp [prettyElements, laidElements, pretty_eq_laid level e,
      ← prettyElements_eq_laid level closing es]

theorem prettyMembers_eq_laid (level : Nat) (closing : List Char) : ∀ ms : List (String × Json),
    prettyMembers level ms ++ closing = laidMembers newLine [' '] level closing ms
  | [] => rfl
  | (key, value) :: ms => by
    simp [prettyMembers, laidMembers, pretty_eq_laid level value,
      ← prettyMembers_eq_laid level closing ms]

end

theorem spaces_newLine (level : Nat) : Spaces (newLine level) := by
  intro c hc
  rcases List.mem_cons.mp hc with rfl | hc
  · rfl
  · rw [List.eq_of_mem_replicate hc]
    rfl

theorem written_compact (json : Json) : Written json json.compactText.toList := by
  rw [compactText, String.toList_ofList, compact_eq_laid 0]
  exact written_laid ⟨fun _ => spaces_nil, spaces_nil⟩ 0 json

theorem written_pretty (json : Json) : Written json json.prettyText.toList := by
  rw [prettyText, String.toList_ofList, pretty_eq_laid]
  exact written_laid ⟨spaces_newLine, by simp [Spaces, isSpace]⟩ 0 json

/-! ## Decoding by shape -/

/-- A decoder reads every text that writes one value as another. -/
def Decodes {α : Type} (d : Decoder α) (json : Json) (a : α) : Prop :=
  ∀ text, Written json text → Reads d text a

section Decodes
variable {α β σ : Type} {d : Decoder α} {a : α}

theorem Decodes.decode {json : Json} (h : Decodes d json a) {text : String}
    (htext : Written json text.toList) : Decoder.decode d text = .ok a :=
  (h _ htext).decode

/-- What is printed for a value is decoded, the end of the line included. -/
theorem Decodes.decode_line {json : Json} (h : Decodes d json a) :
    Decoder.decode d (json.prettyText ++ "\n") = .ok a :=
  (h _ (written_pretty json)).decode_append (by simp [Spaces, isSpace])

theorem Decodes.map {json : Json} (h : Decodes d json a) (f : α → β) :
    Decodes (f <$> d) json (f a) := fun text htext => (h text htext).map f

theorem decodes_string (value : String) : Decodes Decoder.string (.string value) value := by
  rintro _ ⟨⟩
  exact reads_string value

theorem decodes_natural {n limit : Nat} (h : n < limit) (hexact : n < exactLimit) :
    Decodes (natural limit) (.number n) n := by
  rintro _ ⟨⟩
  exact reads_natural h hexact

theorem decodes_list {toJson : α → Json} {as : List α}
    (h : ∀ a ∈ as, Decodes d (toJson a) a) : Decodes (list d) (.array (as.map toJson)) as := by
  intro text htext
  have hall : ∀ (as : List α) (items : List (List Char)), (∀ a ∈ as, Decodes d (toJson a) a) →
      WrittenElements (as.map toJson) items → List.Forall₂ (Reads d) items as := by
    intro as
    induction as with
    | nil =>
      intro items _ hitems
      cases hitems
      exact .nil
    | cons a as ih =>
      intro items h hitems
      cases hitems with
      | cons hitem hitems =>
        obtain ⟨ha, has⟩ := List.forall_mem_cons.mp h
        exact .cons (ha _ hitem) (ih _ has hitems)
  cases htext with
  | array helements hitems => exact reads_list (hall as _ h helements) hitems

/-- Members of a JSON object that are decoded one after the other, and what has been read before and
after them. -/
inductive DecodesMembers (member : σ → String → Except Fault (Decoder σ)) :
    σ → List (String × Json) → σ → Prop where
  | nil (state : σ) : DecodesMembers member state [] state
  | cons {state next final : σ} {key : String} {value : Json} {members : List (String × Json)}
      {d : Decoder σ} (hkey : member state key = .ok d) (hvalue : Decodes d value next)
      (others : DecodesMembers member next members final) :
      DecodesMembers member state ((key, value) :: members) final

theorem DecodesMembers.reads {member : σ → String → Except Fault (Decoder σ)} {state final : σ}
    {members : List (String × Json)} {items : List (List Char)}
    (h : DecodesMembers member state members final) (hitems : WrittenMembers members items) :
    ReadsMembers member state items final := by
  induction h generalizing items with
  | nil state =>
    cases hitems
    exact .nil state
  | cons hkey hvalue _ ih =>
    cases hitems with
    | cons htext hitem hitems => exact .cons hkey hitem (hvalue _ htext) (ih hitems)

theorem decodes_fields {member : σ → String → Except Fault (Decoder σ)} {inOrder : Decoder α}
    {start final : σ} {finish : σ → Except Fault α} {members : List (String × Json)}
    (h : DecodesMembers member start members final) (hfinish : finish final = .ok a) :
    Decodes (fields inOrder start member finish) (.object members) a := by
  intro text htext
  cases htext with
  | object hmembers hitems => exact reads_fields (h.reads hmembers) hfinish hitems

end Decodes
end TestExclusions.Json
