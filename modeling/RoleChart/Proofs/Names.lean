import RoleChart.Proofs.Bytes

/-!
# Bounded names

A name that is too long is cut where a character begins, at most fifty-four bytes behind its beginning. The place is
looked for backwards, one byte at a time. A character has at most four bytes, so the search ends after three steps at
the latest. What is kept is as many whole characters as fit, which is what the library computes from the front.
Behind a dash stand eight digits of a hash of the whole name, so two long names that become the same have the same
digits, wherever they are cut.

## Main statements

* `boundaryUpTo?_bytes` — the search backwards ends where the characters that fit end
* `bounded?_of_long` — what becomes of a name that is too long
* `shortHash_eq_of_bounded?` — names that become the same have the same hash
* `bounded?_laws` — all of it
-/

namespace RoleChart

/-! ## Boundaries of characters -/

/-- Whether a byte stands in a character behind its first byte. -/
def isInner (b : UInt8) : Bool := 0x80 ≤ b.toNat && b.toNat < 0xC0

/-- Whether bytes can be cut at a position: they begin or end there, or a character does. -/
def isBoundary (bs : List UInt8) (i : Nat) : Bool :=
  i == 0 || i == bs.length || bs[i]?.any fun b => !isInner b

/-- The last boundary up to a position, looked for backwards. There is none if the search passes the beginning. -/
def boundaryUpTo? (bs : List UInt8) : Nat → Option Nat
  | 0 => if isBoundary bs 0 then some 0 else none
  | i + 1 => if isBoundary bs (i + 1) then some (i + 1) else boundaryUpTo? bs i

theorem boundaryUpTo?_eq_some {bs : List UInt8} {cut n : Nat} (hle : cut ≤ n) (hcut : isBoundary bs cut = true)
    (hafter : ∀ i, cut < i → i ≤ n → isBoundary bs i = false) : boundaryUpTo? bs n = some cut := by
  induction n with
  | zero =>
    obtain rfl := Nat.le_zero.1 hle
    rw [boundaryUpTo?, if_pos hcut]
  | succ n ih =>
    rw [boundaryUpTo?]
    rcases Nat.eq_or_lt_of_le hle with rfl | hlt
    · rw [if_pos hcut]
    · rw [hafter (n + 1) hlt (Nat.le_refl _), if_neg (by decide)]
      exact ih (Nat.le_of_lt_succ hlt) fun i hi hn => hafter i hi (Nat.le_succ_of_le hn)

/-- Of the bytes of a character, the first one alone stands on its boundary. -/
theorem exists_utf8EncodeChar (c : Char) :
    ∃ first inner, String.utf8EncodeChar c = first :: inner ∧ isInner first = false ∧
      ∀ b ∈ inner, isInner b = true := by
  have hbyte {n : Nat} (h : n < 256) : isInner (UInt8.ofNat n) = (0x80 ≤ n && n < 0xC0) := by
    rw [isInner, UInt8.toNat_ofNat_of_lt' h]
  have hfirst {n : Nat} (h : n < 0x80 ∨ 0xC0 ≤ n ∧ n < 256) : isInner (UInt8.ofNat n) = false := by
    rw [hbyte (by omega)]
    simp
    omega
  have hinner {l : List Nat} (hl : ∀ n ∈ l, 0x80 ≤ n ∧ n < 0xC0) : ∀ b ∈ l.map UInt8.ofNat, isInner b = true := by
    refine List.forall_mem_map.2 fun n hn => ?_
    obtain ⟨hlow, hhigh⟩ := hl n hn
    rw [hbyte (by omega)]
    simp [hlow, hhigh]
  simp only [String.utf8EncodeChar]
  split
  · exact ⟨_, [], rfl, hfirst (by omega), List.forall_mem_nil _⟩
  split
  · exact ⟨_, _, rfl, hfirst (by omega), hinner (l := [_]) (by simp; omega)⟩
  split
  · exact ⟨_, _, rfl, hfirst (by omega), hinner (l := [_, _]) (by simp; omega)⟩
  · exact ⟨_, _, rfl, hfirst (by omega), hinner (l := [_, _, _]) (by simp; omega)⟩

/-! ## What fits -/

theorem utf8Size_eq (s : List Char) : utf8Size s = (s.flatMap String.utf8EncodeChar).length := by
  induction s with
  | nil => rfl
  | cons c s ih => rw [utf8Size, ih, List.flatMap_cons, List.length_append, String.length_utf8EncodeChar]

theorem bytes_eq (s : String) : bytes s = s.toList.flatMap String.utf8EncodeChar := by
  rw [← bytes_ofList, String.ofList_toList]

theorem utf8Size_toList (s : String) : utf8Size s.toList = (bytes s).length := by
  rw [utf8Size_eq, bytes_eq]

/-- Behind the characters that fit stands one that does not. -/
theorem exists_takeBytes_append {n : Nat} {s : List Char} (h : n < utf8Size s) :
    ∃ c rest, s = takeBytes n s ++ c :: rest ∧ n < utf8Size (takeBytes n s) + c.utf8Size := by
  induction s generalizing n with
  | nil => exact absurd h (Nat.not_lt_zero n)
  | cons c s ih =>
    rw [takeBytes]
    by_cases hc : c.utf8Size ≤ n
    · rw [if_pos hc]
      rw [utf8Size] at h
      obtain ⟨d, rest, hrest, hd⟩ := ih (n := n - c.utf8Size) (by omega)
      refine ⟨d, rest, by rw [List.cons_append, ← hrest], ?_⟩
      rw [utf8Size]
      omega
    · rw [if_neg hc]
      exact ⟨c, s, rfl, by rw [utf8Size]; omega⟩

/-- The search backwards from a position inside of a text ends where the characters that fit in front of it end. It
takes at most three steps. -/
theorem boundaryUpTo?_bytes {n : Nat} {s : String} (h : n < (bytes s).length) :
    ∃ cut, boundaryUpTo? (bytes s) n = some cut ∧ cut ≤ n ∧ n < cut + 4 ∧
      (bytes s).take cut = (takeBytes n s.toList).flatMap String.utf8EncodeChar := by
  rw [← utf8Size_toList] at h
  obtain ⟨c, rest, hsplit, hnext⟩ := exists_takeBytes_append h
  have hfits := utf8Size_takeBytes_le n s.toList
  generalize takeBytes n s.toList = kept at hsplit hnext hfits
  obtain ⟨first, inner, hc, hfirst, hinner⟩ := exists_utf8EncodeChar c
  have hbytes : bytes s = kept.flatMap String.utf8EncodeChar
      ++ (first :: inner ++ rest.flatMap String.utf8EncodeChar) := by
    rw [bytes_eq, hsplit, List.flatMap_append, List.flatMap_cons, hc]
  have hsize : c.utf8Size = inner.length + 1 := by rw [← String.length_utf8EncodeChar, hc, List.length_cons]
  have hfour := Char.utf8Size_le_four c
  rw [utf8Size_eq] at hfits hnext
  rw [hbytes]
  generalize kept.flatMap String.utf8EncodeChar = front at hfits hnext
  refine ⟨front.length, boundaryUpTo?_eq_some hfits ?_ ?_, hfits, by omega, List.take_left⟩
  · have hat : (front ++ (first :: inner ++ rest.flatMap String.utf8EncodeChar))[front.length]? = some first := by
      rw [List.getElem?_append_right (Nat.le_refl _), Nat.sub_self]
      rfl
    rw [isBoundary, hat, Option.any_some, hfirst]
    simp
  · intro i hi hn
    -- the bytes behind the cut up to the position belong to the character that does not fit
    obtain ⟨k, rfl⟩ := Nat.exists_eq_add_of_lt hi
    have hk : k < inner.length := by omega
    have hat : (front ++ (first :: inner ++ rest.flatMap String.utf8EncodeChar))[front.length + k + 1]?
        = some inner[k] := by
      rw [Nat.add_assoc, List.getElem?_append_right (Nat.le_add_right _ _), Nat.add_sub_cancel_left,
        List.cons_append, List.getElem?_cons_succ, List.getElem?_append_left hk, List.getElem?_eq_getElem hk]
    have hend : front.length + k + 1 ≠ (front ++ (first :: inner ++ rest.flatMap String.utf8EncodeChar)).length := by
      simp only [List.length_append, List.length_cons]
      omega
    rw [isBoundary, hat, Option.any_some, hinner _ (List.getElem_mem hk), beq_false_of_ne hend,
      beq_false_of_ne (Nat.succ_ne_zero _)]
    rfl

/-! ## Names that are too long -/

/-- The dash and the digits of a hash are one byte each. -/
theorem length_bytes_hash (s : String) : (bytes (String.ofList ('-' :: shortHash s))).length = 9 := by
  have hsize {digits : List Char} (h : ∀ c ∈ digits, c.utf8Size = 1) : utf8Size digits = digits.length := by
    induction digits with
    | nil => rfl
    | cons c digits ih =>
      obtain ⟨hc, hrest⟩ := List.forall_mem_cons.1 h
      rw [utf8Size, hc, ih hrest, List.length_cons, Nat.add_comm]
  have hdigit : ∀ c ∈ shortHash s, c.utf8Size = 1 := fun c hc =>
    (by decide : ∀ d ∈ "0123456789abcdef".toList, d.utf8Size = 1) c
      (Blake3.hexDigit_of_mem_hex (bytes s) c (List.mem_of_mem_take hc))
  rw [← utf8Size_toList, String.toList_ofList, hsize (List.forall_mem_cons.2 ⟨rfl, hdigit⟩), List.length_cons,
    length_shortHash]

/-- A name that is too long becomes the characters of it that fit, a dash, and its hash. -/
theorem bounded?_eq_of_long {name : String} (h : maxNameSize < (bytes name).length) :
    bounded? name = some (String.ofList (takeBytes keptNameSize name.toList ++ '-' :: shortHash name)) := by
  have hsome : name ≠ "" := by
    rintro rfl
    exact absurd h (by simp)
  rw [bounded?, if_neg (by simpa using hsome), utf8Size_toList, if_neg (Nat.not_le.2 h)]

/-- Its bytes are those of the name up to the cut, and those of the dash and the hash. -/
theorem bounded?_of_long {name result : String} (h : maxNameSize < (bytes name).length)
    (hresult : bounded? name = some result) :
    ∃ cut, boundaryUpTo? (bytes name) keptNameSize = some cut ∧ cut ≤ keptNameSize ∧ keptNameSize < cut + 4 ∧
      bytes result = (bytes name).take cut ++ bytes (String.ofList ('-' :: shortHash name)) := by
  have hinside : keptNameSize < (bytes name).length := Nat.lt_trans (by decide) h
  obtain ⟨cut, hsearch, hle, hnear, htake⟩ := boundaryUpTo?_bytes hinside
  refine ⟨cut, hsearch, hle, hnear, ?_⟩
  rw [bounded?_eq_of_long h] at hresult
  rw [← Option.some.inj hresult, bytes_ofList, bytes_ofList, List.flatMap_append, htake]

theorem length_bytes_of_long {name result : String} (h : maxNameSize < (bytes name).length)
    (hresult : bounded? name = some result) : (bytes result).length ≤ maxNameSize := by
  obtain ⟨cut, -, hle, -, hbytes⟩ := bounded?_of_long h hresult
  have hkept := List.length_take_le cut (bytes name)
  rw [hbytes, List.length_append, length_bytes_hash]
  rw [keptNameSize] at hle
  rw [maxNameSize]
  omega

/-- Two names that are too long and become the same have the same hash. The hash and the dash in front of it have one
length, so they are told from what is kept, however much that is. -/
theorem shortHash_eq_of_bounded? {name other result : String} (h : maxNameSize < (bytes name).length)
    (hother : maxNameSize < (bytes other).length) (hresult : bounded? name = some result)
    (hsame : bounded? other = some result) : shortHash other = shortHash name := by
  have hends := Option.some.inj ((bounded?_eq_of_long hother).symm.trans (hsame.trans
    (hresult.symm.trans (bounded?_eq_of_long h))))
  have hlength : ('-' :: shortHash other).length = ('-' :: shortHash name).length := by
    rw [List.length_cons, List.length_cons, length_shortHash, length_shortHash]
  exact (List.cons.inj (List.append_inj' (String.ofList_injective hends) hlength).2).2

/-- A name that fits stays as it is. -/
theorem bounded?_of_short {name : String} (hsome : name ≠ "") (h : (bytes name).length ≤ maxNameSize) :
    bounded? name = some name :=
  bounded_eq_self name hsome (by rwa [utf8Size_toList])

/-- Every name but the empty one is bounded: the result is a text of at most sixty-three bytes. It is the name exactly
if that has no more, and it stays as it is. A longer name is cut at the last boundary of a character up to the
fifty-fourth byte; the search for it ends behind the fiftieth. Two longer names with the same result have the same
hash. -/
theorem bounded?_laws {name : String} (hsome : name ≠ "") :
    ∃ result, bounded? name = some result ∧
      (bytes result).length ≤ 63 ∧ String.fromUTF8? ⟨(bytes result).toArray⟩ = some result ∧
      (result = name ↔ (bytes name).length ≤ 63) ∧
      bounded? result = some result ∧
      (63 < (bytes name).length →
        (∃ cut, boundaryUpTo? (bytes name) 54 = some cut ∧ 51 ≤ cut ∧ cut ≤ 54 ∧
          bytes result = (bytes name).take cut ++ bytes (String.ofList ('-' :: shortHash name))) ∧
        ∀ other, 63 < (bytes other).length → bounded? other = some result → shortHash other = shortHash name) := by
  by_cases hlong : maxNameSize < (bytes name).length
  · obtain ⟨result, hresult⟩ : ∃ result, bounded? name = some result := ⟨_, bounded?_eq_of_long hlong⟩
    obtain ⟨cut, hsearch, hle, hnear, hbytes⟩ := bounded?_of_long hlong hresult
    have hfits := length_bytes_of_long hlong hresult
    have hdash : result ≠ "" := by
      rintro rfl
      have hlength := congrArg List.length hbytes
      rw [bytes_empty, List.length_append, length_bytes_hash, List.length_nil] at hlength
      omega
    refine ⟨result, hresult, hfits, fromUTF8?_bytes result, ?_, bounded?_of_short hdash hfits, fun _ => ⟨?_, ?_⟩⟩
    · refine iff_of_false ?_ (Nat.not_le.2 hlong)
      rintro rfl
      exact Nat.not_le.2 hlong hfits
    · rw [keptNameSize] at hsearch hle hnear
      exact ⟨cut, hsearch, by omega, hle, hbytes⟩
    · exact fun other hother hsame => shortHash_eq_of_bounded? hlong hother hresult hsame
  · have hfits := Nat.not_lt.1 hlong
    have hself := bounded?_of_short hsome hfits
    exact ⟨name, hself, hfits, fromUTF8?_bytes name, iff_of_true rfl hfits, hself, fun h => absurd h hlong⟩

/-- A letter and thirty signs of three bytes each: no character begins at the fifty-fourth byte. -/
def euros : String := String.ofList ('a' :: List.replicate 30 '€')

theorem bounded?_laws_euros :
    euros ≠ "" ∧ 63 < (bytes euros).length ∧ ∃ result, bounded? euros = some result ∧ result ≠ euros ∧
      (bytes result).length ≤ 63 ∧ bounded? result = some result ∧
      bytes result = (bytes euros).take 52 ++ bytes (String.ofList ('-' :: shortHash euros)) := by
  have hbytes : bytes euros = ('a' :: List.replicate 30 '€').flatMap String.utf8EncodeChar := bytes_ofList _
  have hsome : euros ≠ "" := by decide
  have hlong : 63 < (bytes euros).length := by
    rw [hbytes]
    decide
  have hcut : boundaryUpTo? (bytes euros) 54 = some 52 := by
    rw [hbytes]
    decide
  obtain ⟨result, hresult, hfits, -, hself, hagain, hthen⟩ := bounded?_laws hsome
  obtain ⟨cut, hsearch, -, -, hresultBytes⟩ := (hthen hlong).1
  obtain rfl := Option.some.inj (hsearch.symm.trans hcut)
  exact ⟨hsome, hlong, result, hresult, fun h => Nat.not_le.2 hlong (hself.1 h), hfits, hagain, hresultBytes⟩

end RoleChart
