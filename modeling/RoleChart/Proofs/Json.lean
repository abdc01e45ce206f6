import RoleChart.Json

/-!
# Reading JSON texts

A reader of JSON: values with blanks between their parts, numerals as they stand, strings with the escapes of JSON,
of which two may make up one character. It reads back every text that is written for a value.

## Main statements

* `string?_flatMap_escaped` — a string is read back up to its closing quote
* `number?_append` — a numeral is read up to its end
* `WellFormed.readBack` — a value is read back in front of any text that cannot continue it
* `WellFormed.ofText?_text` — the text of a value is read as this value
-/

namespace RoleChart.Json

open Text

/-! ## Strings -/

/-- A code unit in four hexadecimal digits. -/
def unit? (s : List Char) : Option (Nat × List Char) :=
  let digits := s.take 4
  if digits.length = 4 then (ofDigits? 16 digits).map fun n => (n, s.drop 4) else none

/-- The character of an escape, behind its backslash. A code unit of the upper surrogates makes up a character with
one of the lower surrogates behind it. -/
def escape? : List Char → Option (Char × List Char)
  | '"' :: rest => some ('"', rest)
  | '\\' :: rest => some ('\\', rest)
  | '/' :: rest => some ('/', rest)
  | 'b' :: rest => some ('\x08', rest)
  | 'f' :: rest => some ('\x0c', rest)
  | 'n' :: rest => some ('\n', rest)
  | 'r' :: rest => some ('\r', rest)
  | 't' :: rest => some ('\t', rest)
  | 'u' :: rest => do
    let (upper, rest) ← unit? rest
    if 0xD800 ≤ upper ∧ upper < 0xDC00 then
      let (lower, rest) ← (dropPrefix? ['\\', 'u'] rest).bind unit?
      if 0xDC00 ≤ lower ∧ lower < 0xE000 then
        some (Char.ofNat (0x10000 + (upper - 0xD800) * 0x400 + (lower - 0xDC00)), rest)
      else none
    else if upper.isValidChar then some (Char.ofNat upper, rest)
    else none
  | _ => none

/-- One character between quotes. -/
def char? : List Char → Option (Char × List Char)
  | [] => none
  | c :: rest =>
    if c = '\\' then escape? rest
    else if c = '"' ∨ c.toNat < 0x20 then none
    else some (c, rest)

/-- The text up to the closing quote, of at most so many characters. -/
def string? : Nat → List Char → Option (List Char × List Char)
  | 0, _ => none
  | _ + 1, '"' :: rest => some ([], rest)
  | n + 1, s => (char? s).bind fun p => (string? n p.2).map fun q => (p.1 :: q.1, q.2)

/-! ## Numerals -/

/-- The characters of numerals. -/
def isNumberChar (c : Char) : Bool := isDigit c || ['-', '+', '.', 'e', 'E'].contains c

/-- One or more digits. -/
def isDigits (s : List Char) : Bool := !s.isEmpty && s.all isDigit

/-- Nothing, or an exponent. -/
def isExponent : List Char → Bool
  | [] => true
  | c :: s =>
    let digits := match s with
      | '+' :: digits => digits
      | '-' :: digits => digits
      | digits => digits
    (c == 'e' || c == 'E') && isDigits digits

/-- Nothing, or what stands behind the digits of a whole number. -/
def isFraction : List Char → Bool
  | '.' :: s => isDigits (s.takeWhile isDigit) && isExponent (s.dropWhile isDigit)
  | s => isExponent s

/-- A number that has no sign. A zero in front stands alone. -/
def isUnsigned : List Char → Bool
  | '0' :: s => isFraction s
  | s => isDigits (s.takeWhile isDigit) && isFraction (s.dropWhile isDigit)

/-- Whether a text is a numeral. -/
def isNumeral : List Char → Bool
  | '-' :: s => isUnsigned s
  | s => isUnsigned s

/-- The numeral in front of a text. -/
def number? (s : List Char) : Option (Json × List Char) :=
  if isNumeral (s.takeWhile isNumberChar) then
    some (number (String.ofList (s.takeWhile isNumberChar)), s.dropWhile isNumberChar)
  else none

/-! ## Values -/

/-- What stands behind blanks. -/
def skip (s : List Char) : List Char := s.dropWhile fun c => [' ', '\t', '\n', '\r'].contains c

/-- The word or the numeral in front of a text. -/
def literal? (s : List Char) : Option (Json × List Char) :=
  match dropPrefix? "null".toList s, dropPrefix? "true".toList s, dropPrefix? "false".toList s with
  | some rest, _, _ => some (null, rest)
  | _, some rest, _ => some (bool true, rest)
  | _, _, some rest => some (bool false, rest)
  | none, none, none => number? s

mutual

/-- The value in front of a text, which is read in at most so many steps. -/
def value? : Nat → List Char → Option (Json × List Char)
  | 0, _ => none
  | n + 1, '"' :: rest => (string? n rest).map fun (text, rest) => (string (String.ofList text), rest)
  | n + 1, '[' :: rest =>
    match skip rest with
    | ']' :: rest => some (array [], rest)
    | rest => (items? n rest).map fun (items, rest) => (array items, rest)
  | n + 1, '\x7b' :: rest =>
    match skip rest with
    | '\x7d' :: rest => some (object [], rest)
    | rest => (members? n rest).map fun (members, rest) => (object members, rest)
  | _ + 1, s => literal? s

/-- The items up to the closing bracket. -/
def items? : Nat → List Char → Option (List Json × List Char)
  | 0, _ => none
  | n + 1, s => do
    let (item, rest) ← value? n s
    match skip rest with
    | ']' :: rest => some ([item], rest)
    | ',' :: rest => (items? n (skip rest)).map fun (items, rest) => (item :: items, rest)
    | _ => none

/-- The members up to the closing brace. -/
def members? : Nat → List Char → Option (List (String × Json) × List Char)
  | 0, _ => none
  | n + 1, s => do
    let (name, rest) ← (dropPrefix? ['"'] s).bind (string? n)
    let rest ← dropPrefix? [':'] (skip rest)
    let (value, rest) ← value? n (skip rest)
    let member := (String.ofList name, value)
    match skip rest with
    | '\x7d' :: rest => some ([member], rest)
    | ',' :: rest => (members? n (skip rest)).map fun (members, rest) => (member :: members, rest)
    | _ => none

end

/-- The value of a text. Every step takes a character, so there are no more steps than characters. -/
def ofText? (text : String) : Option Json :=
  match value? (text.toList.length + 1) (skip text.toList) with
  | some (value, rest) => if (skip rest).isEmpty then some value else none
  | none => none

/-! ## Reading strings back -/

/-- Four hexadecimal digits are read as the number they write. -/
theorem unit?_hexadecimal {n : Nat} (h : n < 0x20) (rest : List Char) :
    unit? (hexadecimal 4 n ++ rest) = some (n, rest) := by
  have all : ∀ k < 0x20, (hexadecimal 4 k).length = 4 ∧ ofDigits? 16 (hexadecimal 4 k) = some k := by
    decide +kernel
  obtain ⟨hlength, hvalue⟩ := all n h
  rw [unit?, List.take_left' hlength, List.drop_left' hlength, if_pos hlength, hvalue, Option.map_some]

/-- A written character is read in front of any text. -/
theorem char?_escaped (c : Char) (rest : List Char) : char? (escaped c ++ rest) = some (c, rest) := by
  unfold escaped
  split
  · next h => subst h; rfl
  split
  · next h => subst h; rfl
  split
  · next h => subst h; rfl
  split
  · next h => subst h; rfl
  split
  · next h => subst h; rfl
  split
  · next h => subst h; rfl
  split
  · next h => subst h; rfl
  split
  · next h =>
    have hunit : ¬ (0xD800 ≤ c.toNat ∧ c.toNat < 0xDC00) := by omega
    have hread : escape? ('u' :: (hexadecimal 4 c.toNat ++ rest)) = some (c, rest) := by
      have hvalid : c.toNat.isValidChar := c.valid
      simp only [escape?, unit?_hexadecimal h, Option.bind_eq_bind, Option.bind_some, if_neg hunit, if_pos hvalid,
        Char.ofNat_toNat]
    simpa [char?] using hread
  · next hquote hslash _ _ _ _ _ hlow =>
    simp [char?, hslash, hquote, hlow]

/-- One character in front of a string is read first. -/
theorem string?_of_char? {n : Nat} {s rest : List Char} {c : Char} (h : char? s = some (c, rest)) :
    string? (n + 1) s = (string? n rest).map fun p => (c :: p.1, p.2) := by
  have hquote : ∀ behind, s = '"' :: behind → False := by
    rintro behind rfl
    cases h
  rw [string?.eq_3 _ _ hquote, h, Option.bind_some]

/-- Every character is written as one at least, so the length of a text is fuel enough. -/
theorem length_pos_escaped (c : Char) : 0 < (escaped c).length := by
  unfold escaped
  repeat' split
  all_goals simp

/-- A string is read back up to its closing quote. -/
theorem string?_flatMap_escaped (s : List Char) {n : Nat} (hn : (s.flatMap escaped).length < n) (rest : List Char) :
    string? n (s.flatMap escaped ++ '"' :: rest) = some (s, rest) := by
  induction s generalizing n with
  | nil =>
    obtain ⟨n, rfl⟩ := Nat.exists_eq_add_one_of_ne_zero (Nat.ne_zero_of_lt hn)
    rfl
  | cons c s ih =>
    obtain ⟨n, rfl⟩ := Nat.exists_eq_add_one_of_ne_zero (Nat.ne_zero_of_lt hn)
    have := length_pos_escaped c
    rw [List.flatMap_cons, List.length_append] at hn
    rw [List.flatMap_cons, List.append_assoc, string?_of_char? (char?_escaped c _), ih (by omega), Option.map_some]

/-! ## Reading numerals back -/

theorem isNumberChar_of_isDigit {c : Char} (h : isDigit c = true) : isNumberChar c = true := by
  rw [isNumberChar, h, Bool.true_or]

theorem forall_isNumberChar_of_isDigits {s : List Char} (h : isDigits s = true) :
    ∀ c ∈ s, isNumberChar c = true := by
  rw [isDigits, Bool.and_eq_true, List.all_eq_true] at h
  exact fun c hc => isNumberChar_of_isDigit (h.2 c hc)

theorem forall_isNumberChar_of_isExponent {s : List Char} (h : isExponent s = true) :
    ∀ c ∈ s, isNumberChar c = true := by
  unfold isExponent at h
  split at h
  · exact List.forall_mem_nil _
  · next c rest =>
    rw [Bool.and_eq_true, Bool.or_eq_true, beq_iff_eq, beq_iff_eq] at h
    obtain ⟨hc, hdigits⟩ := h
    have hmark : isNumberChar c = true := by
      rcases hc with rfl | rfl <;> decide
    refine List.forall_mem_cons.2 ⟨hmark, ?_⟩
    split at hdigits
    · exact List.forall_mem_cons.2 ⟨by decide, forall_isNumberChar_of_isDigits hdigits⟩
    · exact List.forall_mem_cons.2 ⟨by decide, forall_isNumberChar_of_isDigits hdigits⟩
    · exact forall_isNumberChar_of_isDigits hdigits

/-- The digits in front of a text, and what is behind them. -/
theorem forall_isNumberChar_of_dropWhile {s : List Char}
    (h : ∀ c ∈ s.dropWhile isDigit, isNumberChar c = true) : ∀ c ∈ s, isNumberChar c = true := by
  intro c hc
  rw [← List.takeWhile_append_dropWhile (p := isDigit) (l := s)] at hc
  rcases List.mem_append.1 hc with hc | hc
  · exact isNumberChar_of_isDigit (List.all_eq_true.1 List.all_takeWhile c hc)
  · exact h c hc

theorem forall_isNumberChar_of_isFraction {s : List Char} (h : isFraction s = true) :
    ∀ c ∈ s, isNumberChar c = true := by
  unfold isFraction at h
  split at h
  · rw [Bool.and_eq_true] at h
    exact List.forall_mem_cons.2
      ⟨by decide, forall_isNumberChar_of_dropWhile (forall_isNumberChar_of_isExponent h.2)⟩
  · exact forall_isNumberChar_of_isExponent h

theorem forall_isNumberChar_of_isUnsigned {s : List Char} (h : isUnsigned s = true) :
    ∀ c ∈ s, isNumberChar c = true := by
  unfold isUnsigned at h
  split at h
  · exact List.forall_mem_cons.2 ⟨by decide, forall_isNumberChar_of_isFraction h⟩
  · rw [Bool.and_eq_true] at h
    exact forall_isNumberChar_of_dropWhile (forall_isNumberChar_of_isFraction h.2)

/-- A numeral has characters of numerals only. -/
theorem forall_isNumberChar_of_isNumeral {s : List Char} (h : isNumeral s = true) :
    ∀ c ∈ s, isNumberChar c = true := by
  unfold isNumeral at h
  split at h
  · exact List.forall_mem_cons.2 ⟨by decide, forall_isNumberChar_of_isUnsigned h⟩
  · exact forall_isNumberChar_of_isUnsigned h

/-- Whether a text cannot continue a numeral. -/
def Ends (rest : List Char) : Prop := ∀ c ∈ rest.head?, isNumberChar c = false

/-- A numeral ends in front of any other character. -/
theorem ends_cons {c : Char} (h : isNumberChar c = false) (rest : List Char) : Ends (c :: rest) := by
  rintro _ ⟨⟩
  exact h

/-- A numeral is read up to its end. -/
theorem number?_append {s rest : List Char} (h : isNumeral s = true) (hends : Ends rest) :
    number? (s ++ rest) = some (number (String.ofList s), rest) := by
  have hall := forall_isNumberChar_of_isNumeral h
  have hrest : rest.takeWhile isNumberChar = [] ∧ rest.dropWhile isNumberChar = rest := by
    cases rest with
    | nil => exact ⟨rfl, rfl⟩
    | cons c rest => simp [hends c rfl]
  rw [number?, List.takeWhile_append_of_pos hall, List.dropWhile_append_of_pos hall, hrest.1, hrest.2,
    List.append_nil, if_pos h]

/-! ## Reading values back -/

/-- Whether all numbers of a value are numerals. -/
inductive WellFormed : Json → Prop where
  | null : WellFormed null
  | bool {b : Bool} : WellFormed (bool b)
  | number {text : String} (h : isNumeral text.toList = true) : WellFormed (number text)
  | string {s : String} : WellFormed (string s)
  | array {items : List Json} (h : ∀ item ∈ items, WellFormed item) : WellFormed (array items)
  | object {members : List (String × Json)} (h : ∀ member ∈ members, WellFormed member.2) :
    WellFormed (object members)

/-- What a value begins with is no blank and closes nothing. -/
theorem WellFormed.exists_chars_eq {v : Json} (h : WellFormed v) :
    ∃ c rest, chars v = c :: rest ∧ c ∉ [' ', '\t', '\n', '\r', ']'] := by
  cases h with
  | null => exact ⟨_, _, rfl, by decide⟩
  | @bool b => cases b <;> exact ⟨_, _, rfl, by decide⟩
  | @number text h =>
    rw [chars]
    cases htext : text.toList with
    | nil =>
      rw [htext] at h
      cases h
    | cons c rest =>
      have hc := forall_isNumberChar_of_isNumeral h c (htext ▸ List.mem_cons_self)
      refine ⟨c, rest, rfl, fun hmem => ?_⟩
      have hnone : ∀ d ∈ [' ', '\t', '\n', '\r', ']'], isNumberChar d = false := by decide
      rw [hnone c hmem] at hc
      cases hc
  | string => exact ⟨_, _, rfl, by decide⟩
  | array => exact ⟨_, _, rfl, by decide⟩
  | object => exact ⟨_, _, rfl, by decide⟩

/-- The text of a value takes a step. -/
theorem WellFormed.exists_eq_add_one {v : Json} (h : WellFormed v) {n : Nat} (hn : (chars v).length ≤ n) :
    ∃ k, n = k + 1 := by
  obtain ⟨c, rest, hchars, -⟩ := h.exists_chars_eq
  rw [hchars, List.length_cons] at hn
  exact Nat.exists_eq_add_one.2 (by omega)

theorem skip_cons {c : Char} (h : c ∉ [' ', '\t', '\n', '\r']) (rest : List Char) :
    skip (c :: rest) = c :: rest := by
  rw [skip, List.dropWhile_cons_of_neg]
  simpa using h

/-- A value does not begin with a space, so none is skipped in front of it. -/
theorem WellFormed.skip_chars_append {v : Json} (h : WellFormed v) (rest : List Char) :
    skip (chars v ++ rest) = chars v ++ rest := by
  obtain ⟨c, front, hchars, hc⟩ := h.exists_chars_eq
  rw [hchars, List.cons_append]
  exact skip_cons (fun hmem => hc (List.mem_append_left [']'] hmem)) _

section Parts

variable {n : Nat} {s rest rest' name : List Char} {v : Json}

/-- A value that is neither a string nor an array nor an object is a word or a numeral. -/
theorem value?_of_literal {c : Char} (h : c ∉ ['"', '[', '\x7b']) :
    value? (n + 1) (c :: s) = literal? (c :: s) := by
  simp only [List.mem_cons, List.not_mem_nil, or_false, not_or] at h
  refine value?.eq_5 (c :: s) n ?_ ?_ ?_
  · rintro rest heq
    exact h.1 (List.cons.inj heq).1
  · rintro rest heq
    exact h.2.1 (List.cons.inj heq).1
  · rintro rest heq
    exact h.2.2 (List.cons.inj heq).1

theorem items?_of_last (h : value? n s = some (v, ']' :: rest)) : items? (n + 1) s = some ([v], rest) := by
  have hclose : skip (']' :: rest) = ']' :: rest := skip_cons (by decide) rest
  simp only [items?, h, hclose, Option.bind_eq_bind, Option.bind_some]

theorem items?_of_next {items : List Json} (h : value? n s = some (v, ',' :: rest))
    (hitems : items? n (skip rest) = some (items, rest')) : items? (n + 1) s = some (v :: items, rest') := by
  have hcomma : skip (',' :: rest) = ',' :: rest := skip_cons (by decide) rest
  simp only [items?, h, hcomma, hitems, Option.bind_eq_bind, Option.bind_some, Option.map_some]

theorem members?_of_last (hname : string? n s = some (name, ':' :: rest))
    (h : value? n (skip rest) = some (v, '\x7d' :: rest')) :
    members? (n + 1) ('"' :: s) = some ([(String.ofList name, v)], rest') := by
  have hcolon : skip (':' :: rest) = ':' :: rest := skip_cons (by decide) rest
  have hclose : skip ('\x7d' :: rest') = '\x7d' :: rest' := skip_cons (by decide) rest'
  simp only [members?, hname, hcolon, h, hclose, dropPrefix?, Option.bind_eq_bind, Option.bind_some, if_true]

theorem members?_of_next {members : List (String × Json)} {behind : List Char}
    (hname : string? n s = some (name, ':' :: rest)) (h : value? n (skip rest) = some (v, ',' :: rest'))
    (hmembers : members? n (skip rest') = some (members, behind)) :
    members? (n + 1) ('"' :: s) = some ((String.ofList name, v) :: members, behind) := by
  have hcolon : skip (':' :: rest) = ':' :: rest := skip_cons (by decide) rest
  have hcomma : skip (',' :: rest') = ',' :: rest' := skip_cons (by decide) rest'
  simp only [members?, hname, hcolon, h, hcomma, hmembers, dropPrefix?, Option.bind_eq_bind, Option.bind_some,
    Option.map_some, if_true]

end Parts

/-- Whether a value is read back in front of any text that cannot continue it. -/
def ReadBack (v : Json) : Prop :=
  ∀ n rest, (chars v).length ≤ n → Ends rest → value? n (chars v ++ rest) = some (v, rest)

theorem itemChars_cons_cons (item next : Json) (items : List Json) :
    itemChars (item :: next :: items) = chars item ++ ',' :: itemChars (next :: items) := by
  rw [itemChars]
  exact List.cons_ne_nil next items

theorem memberChars_cons_cons (name : String) (v : Json) (next : String × Json) (members : List (String × Json)) :
    memberChars ((name, v) :: next :: members)
      = quoted name ++ ':' :: chars v ++ ',' :: memberChars (next :: members) := by
  rw [memberChars]
  exact List.cons_ne_nil next members

/-- The first item of an array begins with neither a space nor the closing bracket. -/
theorem WellFormed.exists_itemChars_eq {item : Json} (h : WellFormed item) (items : List Json) :
    ∃ c rest, itemChars (item :: items) = c :: rest ∧ c ∉ [' ', '\t', '\n', '\r', ']'] := by
  obtain ⟨c, rest, hchars, hc⟩ := h.exists_chars_eq
  cases items with
  | nil => exact ⟨c, rest, hchars, hc⟩
  | cons next items =>
    rw [itemChars_cons_cons, hchars]
    exact ⟨c, _, rfl, hc⟩

theorem WellFormed.skip_itemChars_append {item : Json} (h : WellFormed item) (items : List Json)
    (rest : List Char) :
    skip (itemChars (item :: items) ++ rest) = itemChars (item :: items) ++ rest := by
  obtain ⟨c, front, hchars, hc⟩ := h.exists_itemChars_eq items
  rw [hchars, List.cons_append]
  exact skip_cons (fun hmem => hc (List.mem_append_left [']'] hmem)) _

/-- Items are read back up to the closing bracket, if each of them is. -/
theorem items?_itemChars {items : List Json} (hne : items ≠ []) (hwell : ∀ item ∈ items, WellFormed item)
    (hitems : ∀ item ∈ items, ReadBack item) {n : Nat} (hn : (itemChars items).length < n) (rest : List Char) :
    items? n (itemChars items ++ ']' :: rest) = some (items, rest) := by
  induction items generalizing n with
  | nil => exact absurd rfl hne
  | cons item items ih =>
    obtain ⟨n, rfl⟩ := Nat.exists_eq_add_one_of_ne_zero (Nat.ne_zero_of_lt hn)
    obtain ⟨hitem, hrest⟩ := List.forall_mem_cons.1 hitems
    cases items with
    | nil => exact items?_of_last (hitem n _ (Nat.le_of_lt_succ hn) (ends_cons (by decide) rest))
    | cons next items =>
      have hwell' := (List.forall_mem_cons.1 hwell).2
      rw [itemChars_cons_cons, List.length_append, List.length_cons] at hn
      rw [itemChars_cons_cons, List.append_assoc, List.cons_append]
      refine items?_of_next (hitem n _ (by omega) (ends_cons (by decide) _)) ?_
      rw [(hwell' next List.mem_cons_self).skip_itemChars_append]
      exact ih (List.cons_ne_nil next items) hwell' hrest (by omega)

/-- The first member of an object begins with a quote. -/
theorem exists_memberChars_eq (member : String × Json) (members : List (String × Json)) :
    ∃ rest, memberChars (member :: members) = '"' :: rest := by
  obtain ⟨name, v⟩ := member
  cases members with
  | nil => exact ⟨_, rfl⟩
  | cons next members =>
    rw [memberChars_cons_cons]
    exact ⟨_, rfl⟩

theorem skip_memberChars_append (member : String × Json) (members : List (String × Json)) (rest : List Char) :
    skip (memberChars (member :: members) ++ rest) = memberChars (member :: members) ++ rest := by
  obtain ⟨front, hchars⟩ := exists_memberChars_eq member members
  rw [hchars, List.cons_append]
  exact skip_cons (by decide) _

theorem quoted_append (s : String) (rest : List Char) :
    quoted s ++ rest = '"' :: (s.toList.flatMap escaped ++ '"' :: rest) := by
  rw [quoted, List.append_assoc, List.singleton_append, List.cons_append]

theorem length_quoted (s : String) : (quoted s).length = (s.toList.flatMap escaped).length + 2 := by
  simp [quoted]

/-- Members are read back up to the closing brace, if the value of each of them is. -/
theorem members?_memberChars {members : List (String × Json)} (hne : members ≠ [])
    (hwell : ∀ member ∈ members, WellFormed member.2) (hmembers : ∀ member ∈ members, ReadBack member.2)
    {n : Nat} (hn : (memberChars members).length < n) (rest : List Char) :
    members? n (memberChars members ++ '\x7d' :: rest) = some (members, rest) := by
  induction members generalizing n with
  | nil => exact absurd rfl hne
  | cons member members ih =>
    obtain ⟨name, v⟩ := member
    obtain ⟨n, rfl⟩ := Nat.exists_eq_add_one_of_ne_zero (Nat.ne_zero_of_lt hn)
    have hv : ReadBack v := hmembers (name, v) List.mem_cons_self
    have hvwell : WellFormed v := hwell (name, v) List.mem_cons_self
    cases members with
    | nil =>
      rw [memberChars, List.length_append, length_quoted, List.length_cons] at hn
      rw [memberChars, List.append_assoc, quoted_append, List.cons_append]
      have hname := string?_flatMap_escaped name.toList (n := n) (by omega) (':' :: (chars v ++ '\x7d' :: rest))
      have hread := hv n ('\x7d' :: rest) (by omega) (ends_cons (by decide) rest)
      rw [← hvwell.skip_chars_append] at hread
      rw [members?_of_last hname hread, String.ofList_toList]
    | cons next members =>
      rw [memberChars_cons_cons, List.length_append, List.length_append, length_quoted, List.length_cons,
        List.length_cons] at hn
      have hread := hv n (',' :: (memberChars (next :: members) ++ '\x7d' :: rest)) (by omega)
        (ends_cons (by decide) _)
      have hname := string?_flatMap_escaped name.toList (n := n) (by omega)
        (':' :: (chars v ++ ',' :: (memberChars (next :: members) ++ '\x7d' :: rest)))
      have hnext := ih (List.cons_ne_nil next members) (List.forall_mem_cons.1 hwell).2
        (List.forall_mem_cons.1 hmembers).2 (n := n) (by omega)
      rw [← skip_memberChars_append] at hnext
      rw [← hvwell.skip_chars_append] at hread
      rw [memberChars_cons_cons, List.append_assoc, List.append_assoc, quoted_append, List.cons_append,
        List.cons_append, members?_of_next hname hread hnext, String.ofList_toList]

/-- An array is read from its items, if it has any. -/
theorem value?_array_of_items {items : List Json} {n : Nat} {s rest : List Char} (hskip : skip s = s)
    (hclose : ∀ front, s ≠ ']' :: front) (h : items? n s = some (items, rest)) :
    value? (n + 1) ('[' :: s) = some (array items, rest) := by
  rw [value?, hskip]
  split
  · exact absurd rfl (hclose _)
  · rw [h, Option.map_some]

/-- An object is read from its members, if it has any. -/
theorem value?_object_of_members {members : List (String × Json)} {n : Nat} {s rest : List Char}
    (hskip : skip s = s) (hclose : ∀ front, s ≠ '\x7d' :: front) (h : members? n s = some (members, rest)) :
    value? (n + 1) ('\x7b' :: s) = some (object members, rest) := by
  rw [value?, hskip]
  split
  · exact absurd rfl (hclose _)
  · rw [h, Option.map_some]

/-- A numeral is neither a word nor a string nor an array nor an object. -/
theorem value?_number_append {s rest : List Char} (h : isNumeral s = true) (hends : Ends rest) (n : Nat) :
    value? (n + 1) (s ++ rest) = some (number (String.ofList s), rest) := by
  rw [← number?_append h hends]
  cases s with
  | nil => cases h
  | cons c s =>
    have hc := forall_isNumberChar_of_isNumeral h c List.mem_cons_self
    have hne {d : Char} (hd : isNumberChar d = false) : d ≠ c := by
      rintro rfl
      rw [hd] at hc
      cases hc
    have hnull : dropPrefix? "null".toList (c :: s ++ rest) = none := if_neg (hne (d := 'n') (by decide))
    have htrue : dropPrefix? "true".toList (c :: s ++ rest) = none := if_neg (hne (d := 't') (by decide))
    have hfalse : dropPrefix? "false".toList (c :: s ++ rest) = none := if_neg (hne (d := 'f') (by decide))
    have hopen : c ∉ ['"', '[', '\x7b'] := fun hmem =>
      hne ((by decide : ∀ d ∈ ['"', '[', '\x7b'], isNumberChar d = false) c hmem) rfl
    rw [List.cons_append] at *
    rw [value?_of_literal hopen, literal?, hnull, htrue, hfalse]

/-- A value whose numbers are numerals is read back in front of any text that cannot continue it. -/
theorem WellFormed.readBack {v : Json} (h : WellFormed v) : ReadBack v := by
  induction h with
  | null =>
    intro n rest hn _
    obtain ⟨n, rfl⟩ := null.exists_eq_add_one hn
    exact value?_of_literal (by decide)
  | @bool b =>
    intro n rest hn _
    obtain ⟨n, rfl⟩ := bool.exists_eq_add_one hn
    cases b with
    | true => exact value?_of_literal (by decide)
    | false => exact value?_of_literal (by decide)
  | @number text hnumeral =>
    intro n rest hn hends
    obtain ⟨n, rfl⟩ := (number hnumeral).exists_eq_add_one hn
    rw [chars, value?_number_append hnumeral hends, String.ofList_toList]
  | @string s =>
    intro n rest hn _
    obtain ⟨n, rfl⟩ := string.exists_eq_add_one hn
    rw [chars, length_quoted] at hn
    rw [chars, quoted_append, value?, string?_flatMap_escaped s.toList (by omega)]
    simp only [Option.map_some, String.ofList_toList]
  | @array items hwell ih =>
    intro n rest hn _
    obtain ⟨n, rfl⟩ := (array hwell).exists_eq_add_one hn
    rw [chars, List.length_append, List.length_cons, List.length_singleton] at hn
    rw [chars, List.append_assoc, List.singleton_append, List.cons_append]
    cases items with
    | nil => rfl
    | cons item items =>
      have hitem := hwell item List.mem_cons_self
      refine value?_array_of_items (hitem.skip_itemChars_append items _) ?_
        (items?_itemChars (List.cons_ne_nil item items) hwell ih (by omega) rest)
      -- the array is not closed before its first item
      obtain ⟨c, front, hchars, hc⟩ := hitem.exists_itemChars_eq items
      rintro behind heq
      rw [hchars] at heq
      cases heq
      exact hc (by decide)
  | @object members hwell ih =>
    intro n rest hn _
    obtain ⟨n, rfl⟩ := (object hwell).exists_eq_add_one hn
    rw [chars, List.length_append, List.length_cons, List.length_singleton] at hn
    rw [chars, List.append_assoc, List.singleton_append, List.cons_append]
    cases members with
    | nil => rfl
    | cons member members =>
      refine value?_object_of_members (skip_memberChars_append member members _) ?_
        (members?_memberChars (List.cons_ne_nil member members) hwell ih (by omega) rest)
      -- the object is not closed before its first member
      obtain ⟨front, hchars⟩ := exists_memberChars_eq member members
      rintro behind heq
      rw [hchars] at heq
      cases heq

/-- The text of a value is read as this value. -/
theorem WellFormed.ofText?_text {v : Json} (h : WellFormed v) : ofText? v.text = some v := by
  have hskip := h.skip_chars_append []
  have hread := h.readBack ((chars v).length + 1) [] (Nat.le_succ _) (by rintro c ⟨⟩)
  rw [List.append_nil] at hskip hread
  rw [ofText?, Json.text, String.toList_ofList, hskip, hread]
  rfl

/-- A text may have blanks between its parts and escapes that writing does not use, and ends with its value. -/
example :
    ofText? " \x7b\"\\ud83d\\ude00\" : [-0.5e+3, null]\x7d\n"
        = some (object [("😀", array [number "-0.5e+3", null])])
      ∧ ofText? "[01]" = none ∧ ofText? "[1,]" = none ∧ ofText? "\"\\ud83d\"" = none
      ∧ ofText? "[] []" = none := by
  refine ⟨?_, ?_, ?_, ?_, ?_⟩ <;> cbv

end RoleChart.Json
