import Mathlib.Data.List.Basic
import TestExclusions.Text.Bytes

/-! The bytes of texts are read back, and nothing else is read as a text. A text shows itself, and a
character of one byte stands among its bytes exactly if it stands in the text. -/
namespace TestExclusions.Text

/-! ## The bytes of one character -/

theorem firstChar?_append (c : Char) (rest : Bytes) :
    firstChar? (String.utf8EncodeChar c ++ rest) = some c := by
  rw [firstChar?, List.toByteArray_append]
  exact ByteArray.utf8DecodeChar?_utf8EncodeChar_append

theorem exists_of_firstChar? {bytes : Bytes} {c : Char} (h : firstChar? bytes = some c) :
    ∃ rest, bytes = String.utf8EncodeChar c ++ rest := by
  obtain ⟨rest, hrest⟩ := ByteArray.exists_of_utf8DecodeChar?_eq_some h
  have hdata := congrArg (fun array : ByteArray => array.data.toList) hrest
  simp only [List.toList_data_toByteArray, ByteArray.data_append, Array.toList_append] at hdata
  exact ⟨rest.data.toList, hdata⟩

theorem exists_utf8EncodeChar_eq_cons (c : Char) :
    ∃ first more, String.utf8EncodeChar c = first :: more ∧ more.length = c.utf8Size - 1 := by
  have hlength := String.length_utf8EncodeChar c
  cases hbytes : String.utf8EncodeChar c with
  | nil =>
    rw [hbytes] at hlength
    exact absurd hlength.symm (Nat.pos_iff_ne_zero.mp c.utf8Size_pos)
  | cons first more =>
    rw [hbytes, List.length_cons] at hlength
    exact ⟨first, more, rfl, by omega⟩

/-! ## Reading -/

theorem decodeBehind_eq (before : Nat) (bytes : Bytes) :
    decodeBehind before bytes = decode (bytes.drop before) := by
  induction bytes generalizing before with
  | nil => cases before <;> rfl
  | cons byte rest ih =>
    cases before with
    | zero => rfl
    | succ before => exact ih before

@[simp] theorem decode_nil : decode [] = [] := rfl

theorem decode_cons {bytes : Bytes} (h : bytes ≠ []) :
    decode bytes = match firstChar? bytes with
      | some c => some c :: decode (bytes.drop c.utf8Size)
      | none => none :: decode (bytes.drop (brokenLength bytes)) := by
  have hbroken : 0 < brokenLength bytes := by
    unfold brokenLength
    repeat' split
    all_goals omega
  obtain ⟨byte, rest, rfl⟩ := List.exists_cons_of_ne_nil h
  rw [decode, decodeBehind]
  cases firstChar? (byte :: rest) with
  | some c =>
    obtain ⟨size, hsize⟩ := Nat.exists_eq_succ_of_ne_zero (Nat.pos_iff_ne_zero.mp c.utf8Size_pos)
    simp [decodeBehind_eq, hsize]
  | none =>
    obtain ⟨size, hsize⟩ := Nat.exists_eq_succ_of_ne_zero (Nat.pos_iff_ne_zero.mp hbroken)
    simp [decodeBehind_eq, hsize]

theorem decode_append (c : Char) (rest : Bytes) :
    decode (String.utf8EncodeChar c ++ rest) = some c :: decode rest := by
  obtain ⟨first, more, hbytes, -⟩ := exists_utf8EncodeChar_eq_cons c
  rw [decode_cons (by simp [hbytes]), firstChar?_append]
  dsimp only
  rw [← String.length_utf8EncodeChar, List.drop_left]

/-- Bytes are read without a break exactly if they are those of the characters. -/
theorem decode_eq_map_some_iff {bytes : Bytes} {cs : List Char} :
    decode bytes = cs.map some ↔ bytes = cs.flatMap String.utf8EncodeChar := by
  constructor
  · intro h
    induction cs generalizing bytes with
    | nil =>
      by_cases hnil : bytes = []
      · exact hnil
      · rw [decode_cons hnil] at h
        split at h <;> cases h
    | cons c cs ih =>
      have hne : bytes ≠ [] := by
        rintro rfl
        cases h
      rw [decode_cons hne] at h
      split at h
      · rename_i d hfirst
        obtain ⟨hd, hrest⟩ := List.cons.inj h
        obtain rfl := Option.some.inj hd
        obtain ⟨rest, rfl⟩ := exists_of_firstChar? hfirst
        rw [← String.length_utf8EncodeChar, List.drop_left] at hrest
        rw [ih hrest, List.flatMap_cons]
      · cases h
  · rintro rfl
    induction cs with
    | nil => rfl
    | cons c cs ih => rw [List.flatMap_cons, decode_append, ih, List.map_cons]

theorem mapM_id_eq_some_iff {α : Type} {as : List (Option α)} {bs : List α} :
    as.mapM id = some bs ↔ as = bs.map some := by
  induction as generalizing bs with
  | nil => cases bs <;> simp
  | cons a as ih =>
    cases a with
    | none => cases bs <;> simp
    | some a =>
      rw [List.mapM_cons, id, Option.bind_eq_bind, Option.bind_some]
      cases bs with
      | nil => cases List.mapM id as <;> simp
      | cons b bs =>
        rw [List.map_cons, List.cons.injEq, Option.some.injEq, ← ih]
        cases List.mapM id as <;> simp

/-- The bytes of a text are UTF-8, and no others are. -/
theorem ofUtf8?_eq_some_iff {bytes : Bytes} {text : String} :
    ofUtf8? bytes = some text ↔ bytes = utf8 text := by
  rw [ofUtf8?, Option.map_eq_some_iff, utf8, ← decode_eq_map_some_iff]
  simp only [mapM_id_eq_some_iff]
  constructor
  · rintro ⟨cs, hcs, rfl⟩
    rwa [String.toList_ofList]
  · intro h
    exact ⟨text.toList, h, String.ofList_toList⟩

@[simp] theorem ofUtf8?_utf8 (text : String) : ofUtf8? (utf8 text) = some text :=
  ofUtf8?_eq_some_iff.mpr rfl

theorem utf8_injective : Function.Injective utf8 := by
  intro text other h
  have hread := ofUtf8?_utf8 text
  rw [h, ofUtf8?_utf8] at hread
  exact (Option.some.inj hread).symm

/-- A text shows itself. -/
@[simp] theorem ofBytes_utf8 (text : String) : ofBytes (utf8 text) = text := by
  have hread : decode (utf8 text) = text.toList.map some := decode_eq_map_some_iff.mpr rfl
  rw [ofBytes, hread, List.map_map]
  simp [Function.comp_def]

/-! ## The bytes of texts -/

@[simp] theorem utf8_eq_nil_iff {text : String} : utf8 text = [] ↔ text = "" :=
  utf8_injective.eq_iff' rfl

theorem utf8_append (front back : String) : utf8 (front ++ back) = utf8 front ++ utf8 back := by
  rw [utf8, String.toList_append, List.flatMap_append, utf8, utf8]

@[simp] theorem length_utf8 (text : String) : (utf8 text).length = text.utf8ByteSize := by
  have hbytes : text.toByteArray = (utf8 text).toByteArray := String.utf8Encode_toList.symm
  rw [← String.size_toByteArray, hbytes, List.size_toByteArray]

/-- A byte that is a character stands for nothing else. -/
theorem toUInt8_mem_utf8EncodeChar_iff {c d : Char} (hd : d.toNat < 128) :
    d.toUInt8 ∈ String.utf8EncodeChar c ↔ d = c := by
  have hbyte : d.toUInt8.toNat = d.toNat := Nat.mod_eq_of_lt (Nat.lt_trans hd (by decide))
  rw [← Char.toNat_inj]
  have hc : c.val.toNat = c.toNat := rfl
  unfold String.utf8EncodeChar
  simp only [hc]
  repeat' split
  all_goals
    simp only [List.mem_cons, List.not_mem_nil, or_false, ← UInt8.toNat_inj, hbyte,
      UInt8.toNat_ofNat']
    omega

theorem toUInt8_mem_utf8_iff {text : String} {d : Char} (hd : d.toNat < 128) :
    d.toUInt8 ∈ utf8 text ↔ d ∈ text.toList := by
  simp only [utf8, List.mem_flatMap, toUInt8_mem_utf8EncodeChar_iff hd, exists_eq_right']

/-- The first byte is a character of one byte exactly if the first character is it. -/
theorem head?_utf8_eq_iff {text : String} {d : Char} (hd : d.toNat < 128) :
    (utf8 text).head? = some d.toUInt8 ↔ text.toList.head? = some d := by
  unfold utf8
  cases text.toList with
  | nil => simp
  | cons c cs =>
    obtain ⟨first, more, hbytes, hmore⟩ := exists_utf8EncodeChar_eq_cons c
    rw [List.flatMap_cons, hbytes, List.cons_append, List.head?_cons, List.head?_cons,
      Option.some.injEq, Option.some.injEq]
    constructor
    · rintro rfl
      exact ((toUInt8_mem_utf8EncodeChar_iff hd).mp (hbytes ▸ List.mem_cons_self)).symm
    · rintro rfl
      have hmem := (toUInt8_mem_utf8EncodeChar_iff hd).mpr rfl
      have hsize : c.utf8Size = 1 := Char.utf8Size_eq_one_iff.mpr (Nat.le_of_lt_succ hd)
      rw [hsize] at hmore
      obtain rfl := List.eq_nil_of_length_eq_zero hmore
      rw [hbytes] at hmem
      exact (List.mem_singleton.mp hmem).symm

end TestExclusions.Text
