import RoleChart.Names

/-!
# Bytes of texts

The bytes of a text are those of its characters, one after the other. They tell the text, and a byte that is zero
comes from a character that is.

## Main statements

* `bytes_ofList` — the bytes of a text, character by character
* `fromUTF8?_bytes`, `bytes_inj` — bytes are read back
* `zero_mem_bytes_iff` — where the bytes of a text have a zero
-/

namespace RoleChart

open Text

theorem toList_loop (b : ByteArray) (i : Nat) (r : List UInt8) :
    ByteArray.toList.loop b i r = r.reverse ++ b.data.toList.drop i := by
  fun_induction ByteArray.toList.loop b i r with
  | case1 i r hi ih =>
    have hi' : i < b.data.toList.length := hi
    have hget : b.get! i = b.data.toList[i] := by
      change b.data[i]! = _
      rw [getElem!_pos b.data i hi]
      rfl
    rw [ih, List.reverse_cons, List.append_assoc, List.drop_eq_getElem_cons hi', hget]
    rfl
  | case2 i r hi => rw [List.drop_eq_nil_of_le (by simpa using hi), List.append_nil]

theorem bytes_ofList (s : List Char) : bytes (String.ofList s) = s.flatMap String.utf8EncodeChar := by
  have e : (String.ofList s).toUTF8 = (s.flatMap String.utf8EncodeChar).toByteArray := rfl
  rw [bytes, e, ByteArray.toList, toList_loop]
  simp

@[simp] theorem bytes_empty : bytes "" = [] := by
  rw [← String.ofList_nil, bytes_ofList, List.flatMap_nil]

theorem bytes_singleton (c : Char) : bytes (String.singleton c) = String.utf8EncodeChar c := by
  rw [String.singleton_eq_ofList, bytes_ofList, List.flatMap_singleton]

theorem fromUTF8?_bytes (s : String) : String.fromUTF8? ⟨(bytes s).toArray⟩ = some s := by
  have e : (⟨(bytes s).toArray⟩ : ByteArray) = s.toUTF8 := by
    rw [bytes, ByteArray.toList, toList_loop]
    rfl
  rw [e]
  simp [String.fromUTF8?, String.fromUTF8, String.toUTF8, s.isValidUTF8]

theorem bytes_inj {s t : String} (h : bytes s = bytes t) : s = t := by
  have e := fromUTF8?_bytes s
  rw [h, fromUTF8?_bytes] at e
  exact (Option.some.inj e).symm

/-- A text has at least as many bytes as characters. -/
theorem length_le_bytes (s : List Char) : s.length ≤ (bytes (String.ofList s)).length := by
  rw [bytes_ofList]
  induction s with
  | nil => simp
  | cons c s ih =>
    have := List.length_pos_iff.2 (@String.utf8EncodeChar_ne_nil c)
    rw [List.flatMap_cons, List.length_append, List.length_cons]
    omega

/-! ## Zeros -/

/-- Only the character zero has a byte that is zero: of the others, each byte is a number from 1 to 127 or has its
highest bit set. -/
theorem zero_mem_utf8EncodeChar_iff (c : Char) : 0 ∈ String.utf8EncodeChar c ↔ c = '\x00' := by
  have hbyte {n : Nat} (h : n < 256) : 0 = UInt8.ofNat n ↔ n = 0 := by
    rw [← UInt8.toNat_inj, UInt8.toNat_ofNat_of_lt' h, eq_comm]
    rfl
  have hnone {l : List Nat} (hl : ∀ n ∈ l, 128 ≤ n ∧ n < 256) : 0 ∉ l.map UInt8.ofNat := by
    intro h
    obtain ⟨n, hn, hzero⟩ := List.mem_map.1 h
    obtain ⟨hlow, hhigh⟩ := hl n hn
    have := (hbyte hhigh).1 hzero.symm
    omega
  have hchar : c = '\x00' ↔ c.val.toNat = 0 := by
    rw [Char.ext_iff, ← UInt32.toNat_inj]
    rfl
  rw [hchar]
  -- a character has one to four bytes
  simp only [String.utf8EncodeChar]
  split
  · rw [List.mem_singleton, hbyte (by omega)]
  split
  · exact iff_of_false (hnone (l := [_, _]) (by simp; omega)) (by omega)
  split
  · exact iff_of_false (hnone (l := [_, _, _]) (by simp; omega)) (by omega)
  · exact iff_of_false (hnone (l := [_, _, _, _]) (by simp; omega)) (by omega)

/-- A zero among the bytes of a text is a character zero of it. -/
theorem zero_mem_bytes_iff (s : String) : 0 ∈ bytes s ↔ '\x00' ∈ s.toList := by
  have hbytes := bytes_ofList s.toList
  rw [String.ofList_toList] at hbytes
  simp only [hbytes, List.mem_flatMap, zero_mem_utf8EncodeChar_iff, exists_eq_right]

end RoleChart
