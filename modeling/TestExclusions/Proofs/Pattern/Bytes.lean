import Mathlib.Data.List.Basic
import TestExclusions.Pattern.Glob

/-! The bytes of texts. Those of a text are the bytes of its characters one after the other, and a text
begins with another one exactly if its bytes do. -/
namespace TestExclusions.Pattern.Glob

/-! ## Bytes of arrays -/

theorem loop_toList (bytes : ByteArray) (i : Nat) (before : List UInt8) :
    ByteArray.toList.loop bytes i before = before.reverse ++ bytes.data.toList.drop i := by
  induction i, before using ByteArray.toList.loop.induct bytes with
  | case1 i before hlt ih =>
    have hlength : i < bytes.data.toList.length := hlt
    have hget : bytes.get! i = bytes.data.toList[i] := by
      rw [Array.getElem_toList]
      exact getElem!_pos bytes.data i hlt
    rw [ByteArray.toList.loop, if_pos hlt, ih, List.drop_eq_getElem_cons hlength, hget]
    simp
  | case2 i before hnot =>
    have hlength : bytes.data.toList.length ≤ i := Nat.le_of_not_lt hnot
    rw [ByteArray.toList.loop, if_neg hnot, List.drop_eq_nil_of_le hlength, List.append_nil]

theorem toList_eq_data (bytes : ByteArray) : bytes.toList = bytes.data.toList := by
  rw [ByteArray.toList, loop_toList]
  rfl

/-! ## Bytes of texts -/

theorem bytesOf_eq (c : Char) : bytesOf c = String.utf8EncodeChar c := by
  rw [bytesOf, String.toUTF8_eq_toByteArray, Char.toString, String.toByteArray_singleton,
    List.utf8Encode_singleton, toList_eq_data, List.toList_data_toByteArray]

/-- The bytes of the characters of a text. -/
def encode (cs : List Char) : List UInt8 := cs.flatMap bytesOf

theorem encode_cons (c : Char) (cs : List Char) : encode (c :: cs) = bytesOf c ++ encode cs := rfl

theorem toByteArray_encode (cs : List Char) : (encode cs).toByteArray = cs.utf8Encode := by
  rw [encode, funext bytesOf_eq]
  rfl

theorem toList_toUTF8 (text : String) : text.toUTF8.toList = encode text.toList := by
  rw [String.toUTF8_eq_toByteArray, ← String.utf8Encode_toList, ← toByteArray_encode,
    toList_eq_data, List.toList_data_toByteArray]

theorem encode_prefix_iff {cs ds : List Char} : encode cs <+: encode ds ↔ cs <+: ds := by
  constructor
  · rintro ⟨rest, hrest⟩
    refine List.isPrefix_of_utf8Encode_append_eq_utf8Encode rest.toByteArray ?_
    rw [← toByteArray_encode, ← toByteArray_encode, ← List.toByteArray_append, hrest]
  · rintro ⟨rest, rfl⟩
    exact ⟨encode rest, List.flatMap_append.symm⟩

theorem encode_inj {cs ds : List Char} : encode cs = encode ds ↔ cs = ds := by
  constructor
  · intro heq
    have hle : cs <+: ds := encode_prefix_iff.mp (heq ▸ List.prefix_rfl)
    have hge : ds <+: cs := encode_prefix_iff.mp (heq ▸ List.prefix_rfl)
    exact hle.eq_of_length_le hge.length_le
  · rintro rfl
    rfl

end TestExclusions.Pattern.Glob
