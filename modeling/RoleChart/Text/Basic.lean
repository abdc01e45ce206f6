/-!
# Texts as lists of characters

The operations on `List Char` that names, quoting and reading share: searching, splitting and
trimming. Everything is structural recursion or a composition of list functions, so each has a
small law beside it.

## Main statements

* `occurs_iff` — `occurs` finds exactly the infixes
* `splitOnce_eq_some_iff` — a text is cut at the first separator and nowhere else
* `join_splitOn` — splitting loses nothing
* `infix_of_mem_lines` — every line is a part of the text
* `of_toNat_lt` — a fact about ASCII is decided on its numbers
* `lowerAscii_eq_iff` — what is no letter is the small letter of itself alone
-/

namespace RoleChart.Text

/-- A statement on the characters of a text is decided on these alone, and not on all characters that there are. -/
instance (priority := 2000) decidableForallMem (s : List Char) (p : Char → Prop) [DecidablePred p] :
    Decidable (∀ c ∈ s, p c) :=
  List.decidableBAll p s

/-! ## Searching -/

/-- Whether the pattern stands somewhere in the text. -/
def occurs (pattern : List Char) : List Char → Bool
  | [] => pattern.isEmpty
  | c :: rest => pattern.isPrefixOf (c :: rest) || occurs pattern rest

/-- The search finds a pattern just when it is an infix. -/
theorem occurs_iff (pattern s : List Char) : occurs pattern s = true ↔ pattern <:+: s := by
  induction s with
  | nil => simp [occurs]
  | cons c rest ih =>
    rw [occurs, Bool.or_eq_true, ih, List.isPrefixOf_iff_prefix, List.infix_cons_iff]

/-- Whether the text ends with the character. -/
def endsWith (c : Char) (s : List Char) : Bool := s.getLast? == some c

/-! ## Beginnings -/

/-- What is left after a given beginning. -/
def dropPrefix? : List Char → List Char → Option (List Char)
  | [], s => some s
  | _ :: _, [] => none
  | p :: ps, c :: s => if p = c then dropPrefix? ps s else none

theorem dropPrefix?_eq_some_iff (p s r : List Char) : dropPrefix? p s = some r ↔ s = p ++ r := by
  induction p generalizing s with
  | nil => simp [dropPrefix?]
  | cons c p ih =>
    cases s with
    | nil => simp [dropPrefix?]
    | cons d s =>
      by_cases h : c = d
      · simp [dropPrefix?, h, ih]
      · simp [dropPrefix?, h, Ne.symm h]

theorem dropPrefix?_eq_none_iff (p s : List Char) : dropPrefix? p s = none ↔ ¬ p <+: s := by
  rw [Option.eq_none_iff_forall_ne_some]
  constructor
  · rintro h ⟨after, e⟩
    exact h after ((dropPrefix?_eq_some_iff _ _ _).2 e.symm)
  · intro h after e
    exact h ⟨after, ((dropPrefix?_eq_some_iff _ _ _).1 e).symm⟩

/-! ## Splitting -/

/-- Cuts at the first separator. -/
def splitOnce (sep : Char) : List Char → Option (List Char × List Char)
  | [] => none
  | c :: rest =>
    if c = sep then some ([], rest)
    else (splitOnce sep rest).map fun p => (c :: p.1, p.2)

/-- There is nothing to split at just when the separator is not there. -/
theorem splitOnce_eq_none_iff (sep : Char) (s : List Char) : splitOnce sep s = none ↔ sep ∉ s := by
  induction s with
  | nil => simp [splitOnce]
  | cons c rest ih =>
    by_cases h : c = sep
    · simp [splitOnce, h]
    · simp [splitOnce, h, ih, Ne.symm h]

/-- The split is at the first separator: none stands before it. -/
theorem splitOnce_eq_some_iff (sep : Char) (s l r : List Char) :
    splitOnce sep s = some (l, r) ↔ s = l ++ sep :: r ∧ sep ∉ l := by
  induction s generalizing l with
  | nil => simp [splitOnce]
  | cons c rest ih =>
    by_cases h : c = sep
    · subst h
      cases l with
      | nil => simp [splitOnce]
      | cons d l =>
        simp only [splitOnce, if_true, List.cons_append, List.cons.injEq, List.mem_cons]
        grind
    · cases l with
      | nil => simp [splitOnce, h]
      | cons d l =>
        simp only [splitOnce, if_neg h, Option.map_eq_some_iff, Prod.mk.injEq, List.cons_append,
          List.cons.injEq, List.mem_cons, not_or]
        constructor
        · rintro ⟨⟨l', r'⟩, hs, ⟨rfl, rfl⟩, rfl⟩
          obtain ⟨hr, hn⟩ := (ih l').1 hs
          exact ⟨⟨rfl, hr⟩, Ne.symm h, hn⟩
        · rintro ⟨⟨rfl, hr⟩, _, hn⟩
          exact ⟨(l, r), (ih l).2 ⟨hr, hn⟩, ⟨rfl, rfl⟩, rfl⟩

/-- Cuts at the first occurrence of a pattern. -/
def cutAt? (pattern : List Char) : List Char → Option (List Char × List Char)
  | [] => if pattern.isEmpty then some ([], []) else none
  | c :: rest =>
    match dropPrefix? pattern (c :: rest) with
    | some after => some ([], after)
    | none => (cutAt? pattern rest).map fun p => (c :: p.1, p.2)

theorem eq_append_of_cutAt? {pattern s l r : List Char} (h : cutAt? pattern s = some (l, r)) :
    s = l ++ pattern ++ r := by
  induction s generalizing l with
  | nil =>
    rw [cutAt?] at h
    split at h
    · next hp => simp_all
    · simp at h
  | cons c rest ih =>
    rw [cutAt?] at h
    split at h
    · next after hd =>
      simp only [Option.some.injEq, Prod.mk.injEq] at h
      rw [← h.1, ← h.2]
      exact (dropPrefix?_eq_some_iff _ _ _).1 hd
    · obtain ⟨⟨l', r'⟩, hc, h⟩ := Option.map_eq_some_iff.1 h
      simp only [Prod.mk.injEq] at h
      obtain ⟨rfl, rfl⟩ := h
      rw [ih hc]
      rfl

/-- A text is cut just when the pattern stands in it. -/
theorem cutAt?_eq_none_iff {pattern s : List Char} : cutAt? pattern s = none ↔ ¬ pattern <:+: s := by
  induction s with
  | nil => cases pattern <;> simp [cutAt?]
  | cons c rest ih =>
    rw [cutAt?, List.infix_cons_iff, not_or, ← ih, ← dropPrefix?_eq_none_iff]
    cases dropPrefix? pattern (c :: rest) <;> simp

/-- The first occurrence stays the first one, whatever is put behind the text. -/
theorem cutAt?_behind {pattern s l r : List Char} (h : cutAt? pattern s = some (l, r)) (tail : List Char) :
    cutAt? pattern (s ++ tail) = some (l, r ++ tail) := by
  induction s generalizing l with
  | nil =>
    have e := eq_append_of_cutAt? h
    simp only [List.append_assoc, List.nil_eq, List.append_eq_nil_iff] at e
    obtain ⟨rfl, rfl, rfl⟩ := e
    cases tail <;> rfl
  | cons c rest ih =>
    rw [cutAt?] at h
    rw [List.cons_append, cutAt?]
    cases hdrop : dropPrefix? pattern (c :: rest) with
    | some after =>
      rw [hdrop] at h
      obtain ⟨rfl, rfl⟩ := by simpa using h
      have hdrop' : dropPrefix? pattern (c :: (rest ++ tail)) = some (after ++ tail) := by
        rw [dropPrefix?_eq_some_iff] at hdrop ⊢
        rw [← List.cons_append, hdrop, List.append_assoc]
      rw [hdrop']
    | none =>
      rw [hdrop] at h
      obtain ⟨⟨before, after⟩, hcut, e⟩ := Option.map_eq_some_iff.1 h
      obtain ⟨rfl, rfl⟩ := by simpa using e
      -- the pattern is found in the rest, so it is no longer than the rest
      have hdrop' : dropPrefix? pattern (c :: (rest ++ tail)) = none := by
        rw [dropPrefix?_eq_none_iff] at hdrop ⊢
        intro hbegins
        refine hdrop (List.prefix_of_prefix_length_le hbegins (List.prefix_append (c :: rest) tail) ?_)
        have hlength := congrArg List.length (eq_append_of_cutAt? hcut)
        simp only [List.length_append] at hlength
        rw [List.length_cons]
        omega
      rw [hdrop', ih hcut]
      rfl

/-- Cuts at every separator. There is always at least one part. -/
def splitOn (sep : Char) : List Char → List (List Char)
  | [] => [[]]
  | c :: rest =>
    if c = sep then [] :: splitOn sep rest
    else
      match splitOn sep rest with
      | [] => [[c]]
      | part :: parts => (c :: part) :: parts

/-- Puts the separator between the parts. -/
def join (sep : List Char) : List (List Char) → List Char
  | [] => []
  | [part] => part
  | part :: parts => part ++ sep ++ join sep parts

theorem splitOn_ne_nil (sep : Char) (s : List Char) : splitOn sep s ≠ [] := by
  cases s with
  | nil => simp [splitOn]
  | cons c rest =>
    rw [splitOn]
    split
    · simp
    · split <;> simp

/-- Splitting loses nothing. -/
theorem join_splitOn (sep : Char) (s : List Char) : join [sep] (splitOn sep s) = s := by
  induction s with
  | nil => rfl
  | cons c rest ih =>
    rw [splitOn]
    split
    · next h =>
      cases hs : splitOn sep rest with
      | nil => exact absurd hs (splitOn_ne_nil sep rest)
      | cons part parts =>
        rw [hs] at ih
        simp [join, ih, h]
    · next h =>
      cases hs : splitOn sep rest with
      | nil => exact absurd hs (splitOn_ne_nil sep rest)
      | cons part parts =>
        rw [hs] at ih
        cases parts with
        | nil => simpa [join] using ih
        | cons q qs => simpa [join] using ih

/-- A part is what stands in front of the next separator. -/
theorem splitOn_append_cons {sep : Char} {part : List Char} (h : sep ∉ part) (rest : List Char) :
    splitOn sep (part ++ sep :: rest) = part :: splitOn sep rest := by
  induction part with
  | nil => simp [splitOn]
  | cons c part ih =>
    have hc : c ≠ sep := fun e => h (by simp [e])
    rw [List.cons_append, splitOn, if_neg hc, ih fun hm => h (by simp [hm])]

/-- A text without separators is one part. -/
theorem splitOn_eq_singleton {sep : Char} {part : List Char} (h : sep ∉ part) :
    splitOn sep part = [part] := by
  induction part with
  | nil => rfl
  | cons c part ih =>
    have hc : c ≠ sep := fun e => h (by simp [e])
    rw [splitOn, if_neg hc, ih fun hm => h (by simp [hm])]

/-- No part holds the separator. -/
theorem not_mem_splitOn {sep : Char} {text part : List Char} (h : part ∈ splitOn sep text) :
    sep ∉ part := by
  induction text generalizing part with
  | nil =>
    obtain rfl := List.mem_singleton.1 h
    simp
  | cons c text ih =>
    rw [splitOn] at h
    split at h
    · rcases List.mem_cons.1 h with rfl | h
      · simp
      · exact ih h
    · next hc =>
      cases hparts : splitOn sep text with
      | nil => exact absurd hparts (splitOn_ne_nil sep text)
      | cons first parts =>
        rw [hparts] at h ih
        rcases List.mem_cons.1 h with rfl | h
        · simp only [List.mem_cons, not_or]
          exact ⟨fun e => hc e.symm, ih List.mem_cons_self⟩
        · exact ih (List.mem_cons_of_mem first h)

/-- Parts without separators are found again. -/
theorem splitOn_join {sep : Char} {parts : List (List Char)} (hne : parts ≠ [])
    (h : ∀ part ∈ parts, sep ∉ part) : splitOn sep (join [sep] parts) = parts := by
  fun_induction join [sep] parts with
  | case1 => exact absurd rfl hne
  | case2 part => exact splitOn_eq_singleton (h part (by simp))
  | case3 part parts hparts ih =>
    rw [List.append_assoc, List.singleton_append, splitOn_append_cons (h part (by simp)),
      ih hparts fun other hother => h other (List.mem_cons_of_mem part hother)]

/-! ## Trimming -/

/-- Drops the trailing characters of a class. -/
def trimEnd (p : Char → Bool) (s : List Char) : List Char := (s.reverse.dropWhile p).reverse

theorem length_trimEnd_le (p : Char → Bool) (s : List Char) : (trimEnd p s).length ≤ s.length := by
  simpa [trimEnd] using (List.dropWhile_sublist p (l := s.reverse)).length_le

/-- Drops the characters of a class at both ends. -/
def trim (p : Char → Bool) (s : List Char) : List Char := trimEnd p (s.dropWhile p)

/-- What stands before a given end. -/
def dropSuffix? (p s : List Char) : Option (List Char) :=
  (dropPrefix? p.reverse s.reverse).map List.reverse

/-- A text with a given end is what stands before it and the end. -/
theorem dropSuffix?_eq_some_iff (p s r : List Char) : dropSuffix? p s = some r ↔ s = r ++ p := by
  have hreverse : s = r ++ p ↔ s.reverse = p.reverse ++ r.reverse := by
    rw [← List.reverse_append, List.reverse_inj]
  rw [hreverse, ← dropPrefix?_eq_some_iff, dropSuffix?, Option.map_eq_some_iff]
  constructor
  · rintro ⟨t, ht, rfl⟩
    rw [ht, List.reverse_reverse]
  · intro h
    exact ⟨r.reverse, h, List.reverse_reverse r⟩

/-! ## Lines -/

/-- The lines of a text. A line feed ends a line, a carriage return before it belongs to the
ending, and a text that ends with a line feed has no further empty line. -/
def lines (s : List Char) : List (List Char) :=
  match (splitOn '\n' s).reverse with
  | [] => []
  | last :: ended =>
    (ended.reverse.map fun l => if endsWith '\r' l then l.dropLast else l)
      ++ (if last.isEmpty then [] else [last])

/-- Each part stands in the joined text. -/
theorem infix_of_mem_join {sep part : List Char} {parts : List (List Char)} (h : part ∈ parts) :
    part <:+: join sep parts := by
  fun_induction join sep parts with
  | case1 => exact absurd h List.not_mem_nil
  | case2 only => exact List.mem_singleton.1 h ▸ List.infix_rfl
  | case3 first rest _ ih =>
    rcases List.mem_cons.1 h with rfl | h
    · exact List.infix_append' [] part (sep ++ join sep rest) |>.trans (by simp)
    · exact (ih h).trans (List.suffix_append _ _).isInfix

/-- A line is a part between line feeds, or the beginning of one. -/
theorem prefix_of_mem_lines {s line : List Char} (h : line ∈ lines s) :
    ∃ part ∈ splitOn '\n' s, line <+: part := by
  have hpart : ∀ part ∈ (splitOn '\n' s).reverse, part ∈ splitOn '\n' s := fun _ => List.mem_reverse.1
  unfold lines at h
  split at h
  · exact absurd h List.not_mem_nil
  · next last ended e =>
    rw [e] at hpart
    rcases List.mem_append.1 h with h | h
    · obtain ⟨part, hp, rfl⟩ := List.mem_map.1 h
      refine ⟨part, hpart part (List.mem_cons_of_mem last (List.mem_reverse.1 hp)), ?_⟩
      split
      · exact List.dropLast_prefix part
      · exact List.prefix_rfl
    · split at h
      · exact absurd h List.not_mem_nil
      · exact ⟨last, hpart last List.mem_cons_self, List.mem_singleton.1 h ▸ List.prefix_rfl⟩

/-- A line has no line feed. It may have carriage returns, which end no line here. -/
theorem feed_not_mem_lines {s line : List Char} (h : line ∈ lines s) : '\n' ∉ line := by
  obtain ⟨part, hpart, hfront⟩ := prefix_of_mem_lines h
  exact fun hm => not_mem_splitOn hpart (hfront.subset hm)

/-- Every line is a part of the text. -/
theorem infix_of_mem_lines {s line : List Char} (h : line ∈ lines s) : line <:+: s := by
  obtain ⟨part, hpart, hfront⟩ := prefix_of_mem_lines h
  have hwhole : part <:+: join ['\n'] (splitOn '\n' s) := infix_of_mem_join hpart
  rw [join_splitOn] at hwhole
  exact hfront.isInfix.trans hwhole

/-! ## Classes -/

/-- The control characters: the two ranges below U+00A0 that are not graphic. -/
def isControl (c : Char) : Bool := c.toNat < 0x20 || (0x7F ≤ c.toNat && c.toNat < 0xA0)

/-- The decimal digits of ASCII. -/
def isDigit (c : Char) : Bool := 0x30 ≤ c.toNat && c.toNat ≤ 0x39

/-- The hexadecimal digits of ASCII. -/
def isHexDigit (c : Char) : Bool :=
  isDigit c || (0x41 ≤ c.toNat && c.toNat ≤ 0x46) || (0x61 ≤ c.toNat && c.toNat ≤ 0x66)

/-- The value of a hexadecimal digit. -/
def hexValue? (c : Char) : Option Nat :=
  let n := c.toNat
  if 0x30 ≤ n && n ≤ 0x39 then some (n - 0x30)
  else if 0x41 ≤ n && n ≤ 0x46 then some (n - 0x41 + 10)
  else if 0x61 ≤ n && n ≤ 0x66 then some (n - 0x61 + 10)
  else none

/-- The letters and digits of ASCII. -/
def isAlphanumeric (c : Char) : Bool :=
  isDigit c || (0x41 ≤ c.toNat && c.toNat ≤ 0x5A) || (0x61 ≤ c.toNat && c.toNat ≤ 0x7A)

/-! ## Small letters and capitals -/

/-- What holds of the characters of all numbers below a bound holds of every character below it. So a fact about
ASCII is decided on its numbers. -/
theorem of_toNat_lt {p : Char → Prop} {bound : Nat} (h : ∀ n < bound, p (Char.ofNat n)) {c : Char}
    (hc : c.toNat < bound) : p c := by
  have hn : p (Char.ofNat c.toNat) := h c.toNat hc
  rwa [Char.ofNat_toNat] at hn

/-- Capital letters of ASCII become small; every other character stays. -/
def lowerAscii (c : Char) : Char :=
  if 0x41 ≤ c.toNat && c.toNat ≤ 0x5A then Char.ofNat (c.toNat + 0x20) else c

theorem toNat_lowerAscii_lt {c : Char} (h : c.toNat < 0x80) : (lowerAscii c).toNat < 0x80 :=
  of_toNat_lt (p := fun c => (lowerAscii c).toNat < 0x80) (by decide) h

/-- Small letters of ASCII become capital; every other character stays. -/
def upperAscii (c : Char) : Char :=
  if 0x61 ≤ c.toNat && c.toNat ≤ 0x7A then Char.ofNat (c.toNat - 0x20) else c

/-- A character that is no letter of ASCII, so that it is its own small letter and its own capital. -/
def Unlettered (c : Char) : Prop := lowerAscii c = c ∧ upperAscii c = c

theorem unlettered_dash : Unlettered '-' := ⟨rfl, rfl⟩

theorem unlettered_of_not_ascii {c : Char} (h : 0x80 ≤ c.toNat) : Unlettered c := by
  constructor
  · rw [lowerAscii, if_neg (by simp; omega)]
  · rw [upperAscii, if_neg (by simp; omega)]

/-- What holds of each character of ASCII, and of what is no letter there, holds of every character. -/
@[elab_as_elim]
theorem forall_of_ascii {p : Char → Prop} (ascii : ∀ n < 0x80, p (Char.ofNat n))
    (unlettered : ∀ c, Unlettered c → p c) (c : Char) : p c := by
  by_cases h : c.toNat < 0x80
  · exact of_toNat_lt ascii h
  · exact unlettered c (unlettered_of_not_ascii (by omega))

theorem lowerAscii_lowerAscii (c : Char) : lowerAscii (lowerAscii c) = lowerAscii c :=
  forall_of_ascii (by decide) (fun _ h => by rw [h.1, h.1]) c

theorem lowerAscii_upperAscii (c : Char) : lowerAscii (upperAscii c) = lowerAscii c :=
  forall_of_ascii (by decide) (fun _ h => by rw [h.2]) c

theorem upperAscii_lowerAscii (c : Char) : upperAscii (lowerAscii c) = upperAscii c :=
  forall_of_ascii (by decide) (fun _ h => by rw [h.1]) c

/-- Every character is its own small letter or its own capital. -/
theorem lowerAscii_eq_or_upperAscii_eq (c : Char) : lowerAscii c = c ∨ upperAscii c = c :=
  forall_of_ascii (by decide) (fun _ h => .inl h.1) c

/-- What is no letter is the small letter of no other character. -/
theorem lowerAscii_eq_iff {c d : Char} (h : Unlettered d) : lowerAscii c = d ↔ c = d := by
  constructor
  · intro e
    have hupper : upperAscii c = d := by rw [← upperAscii_lowerAscii, e, h.2]
    rcases lowerAscii_eq_or_upperAscii_eq c with hc | hc
    · exact hc.symm.trans e
    · exact hc.symm.trans hupper
  · rintro rfl
    exact h.1

/-! ## Digits of a number -/

/-- The digit of a value below the base, small letters after nine. -/
def digitChar (d : Nat) : Char :=
  if d < 10 then Char.ofNat (0x30 + d) else Char.ofNat (0x61 + d - 10)

/-- The digits of a number in front of the digits already written. -/
def digitsOnto (base n : Nat) (tail : List Char) : List Char :=
  if _h : 2 ≤ base ∧ base ≤ n then digitsOnto base (n / base) (digitChar (n % base) :: tail)
  else digitChar n :: tail
termination_by n
decreasing_by exact Nat.div_lt_self (by omega) (by omega)

/-- Only digits of the base are put in front. -/
theorem mem_digitsOnto {base n : Nat} {tail : List Char} {c : Char} (hb : 2 ≤ base)
    (h : c ∈ digitsOnto base n tail) : (∃ d < base, c = digitChar d) ∨ c ∈ tail := by
  fun_induction digitsOnto base n tail with
  | case1 n tail hn ih =>
    rcases ih h with h | h
    · exact Or.inl h
    · rcases List.mem_cons.1 h with h | h
      · exact Or.inl ⟨n % base, Nat.mod_lt _ (by omega), h⟩
      · exact Or.inr h
  | case2 n tail hn =>
    rcases List.mem_cons.1 h with h | h
    · exact Or.inl ⟨n, by omega, h⟩
    · exact Or.inr h

/-- The decimal digits of a number. -/
def decimal (n : Nat) : List Char := digitsOnto 10 n []

/-- The decimal digits of an integer, behind a minus sign if it is negative. -/
def decimalInt (z : Int) : List Char :=
  if z < 0 then '-' :: decimal z.natAbs else decimal z.natAbs

/-- The hexadecimal digits of a number, in at least the given width. -/
def hexadecimal (width n : Nat) : List Char :=
  let digits := digitsOnto 16 n []
  List.replicate (width - digits.length) '0' ++ digits

/-- A number in hexadecimal is written in hexadecimal digits, zeros in front of it among them. -/
theorem mem_hexadecimal {width n : Nat} {c : Char} (h : c ∈ hexadecimal width n) :
    ∃ d < 16, c = digitChar d := by
  simp only [hexadecimal, List.mem_append, List.mem_replicate] at h
  rcases h with ⟨_, rfl⟩ | h
  · exact ⟨0, by omega, rfl⟩
  · rcases mem_digitsOnto (by omega) h with h | h
    · exact h
    · simp at h

/-- The number that a list of digits writes, or `none` if one of them is no digit of the base. -/
def ofDigits? (base : Nat) (s : List Char) : Option Nat :=
  s.foldlM (fun n c => do
    let d ← hexValue? c
    if d < base then some (n * base + d) else none) 0

end RoleChart.Text
