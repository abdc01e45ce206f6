import RoleChart.Document.Quoting
import RoleChart.Proofs.Yaml.Spelling
import RoleChart.Yaml.Resolve

/-!
# Plain texts and plain numbers

A text that needs no quotes is read back as that text: no reader of numbers, truth values or nulls
takes it. An integer of 64 bits is read back from its decimal digits.

## Main statements

* `readable_plain` — a text that needs no quotes is one plain scalar
* `plainValue_of_needsQuotes` — and its value is the text
* `plainValue_decimalInt` — the value of decimal digits is the integer
-/

namespace RoleChart.Yaml

open Text Decimal RoleChart.Document

/-! ## Texts that read as integers -/

theorem isHexDigit_of_hexValue? {c : Char} {d : Nat} (h : hexValue? c = some d) :
    isHexDigit c = true ∧ (d < 10 → isDigit c = true) := by
  simp only [hexValue?] at h
  split at h
  · next hc =>
    have hd : isDigit c = true := by simpa [isDigit] using hc
    exact ⟨by simp [isHexDigit, hd], fun _ => hd⟩
  split at h
  · next hc =>
    simp only [Bool.and_eq_true, decide_eq_true_eq] at hc
    obtain rfl := Option.some.inj h
    exact ⟨by simp [isHexDigit, hc.1, hc.2], fun hlt => by omega⟩
  split at h
  · next hc =>
    simp only [Bool.and_eq_true, decide_eq_true_eq] at hc
    obtain rfl := Option.some.inj h
    exact ⟨by simp [isHexDigit, hc.1, hc.2], fun hlt => by omega⟩
  · exact absurd h (by simp)

/-- The characters of a number in a base are its digits. -/
theorem digits_of_ofDigits? {base n : Nat} : ∀ {s : List Char} {start : Nat},
    (s.foldlM (fun n c => do
      let d ← hexValue? c
      if d < base then some (n * base + d) else none) start) = some n →
    ∀ c ∈ s, ∃ d < base, hexValue? c = some d := by
  intro s
  induction s with
  | nil => simp
  | cons c s ih =>
    intro start h
    rw [List.foldlM_cons] at h
    obtain ⟨m, hm, hs⟩ := Option.bind_eq_some_iff.1 h
    obtain ⟨d, hd, hm⟩ := Option.bind_eq_some_iff.1 hm
    split at hm
    · next hlt =>
      intro e he
      rcases List.mem_cons.1 he with rfl | he
      · exact ⟨d, hlt, hd⟩
      · exact ih hs e he
    · exact absurd hm (by simp)

theorem digits?_of_not_signed {base bound : Nat} {s : List Char} (hs : isSigned s = false) :
    digits? base bound s = if s.isEmpty then none else (ofDigits? base s).filter (· < bound) := by
  cases s with
  | nil => rfl
  | cons c rest =>
    have hc : c ≠ '+' := by
      rintro rfl
      simp [isSigned] at hs
    simp [digits?, hc]

theorem digits?_eq_some {base bound n : Nat} {s : List Char} (hs : isSigned s = false)
    (h : digits? base bound s = some n) : s ≠ [] ∧ ∀ c ∈ s, ∃ d < base, hexValue? c = some d := by
  rw [digits?_of_not_signed hs] at h
  split at h
  · simp at h
  · next hne =>
    obtain ⟨ho, -⟩ := Option.filter_eq_some_iff.1 h
    exact ⟨by simpa using hne, digits_of_ofDigits? ho⟩

/-- A result of a fold was there at the beginning, or one of the items brought it about. -/
theorem exists_of_foldl {α β : Type} {f : β → α → β} {b : β} {p : α → Prop}
    (hf : ∀ found item, f found item = b → found = b ∨ p item) :
    ∀ (items : List α) (found : β), items.foldl f found = b → found = b ∨ ∃ item ∈ items, p item := by
  intro items
  induction items with
  | nil => intro found h; exact Or.inl h
  | cons item items ih =>
    intro found h
    rw [List.foldl_cons] at h
    rcases ih _ h with h | ⟨i, hi, hp⟩
    · rcases hf found item h with h | h
      · exact Or.inl h
      · exact Or.inr ⟨item, List.mem_cons_self, h⟩
    · exact Or.inr ⟨i, List.mem_cons_of_mem item hi, hp⟩

/-- A text that names a base begins with the mark of the base. -/
theorem based?_eq_some {bound n : Nat} {s : List Char} (h : based? bound s = some (some n)) :
    ∃ mark ∈ baseMarks, ∃ rest, s = mark.1 ++ rest ∧ ∀ c ∈ rest, ∃ d < mark.2, hexValue? c = some d := by
  unfold based? at h
  have hfound := exists_of_foldl (p := fun mark => ∃ rest, s = mark.1 ++ rest ∧
    ∀ c ∈ rest, ∃ d < mark.2, hexValue? c = some d) ?_ baseMarks (some none) h
  · rcases hfound with h | h
    · exact absurd h (by simp)
    · exact h
  · intro found mark h
    split at h
    · split at h
      · next rest hrest =>
        split at h
        · exact absurd h (by simp)
        · next hs =>
          have hd := digits?_eq_some (by simpa using hs) (Option.some.inj h)
          exact Or.inr ⟨rest, (dropPrefix?_eq_some_iff _ _ _).1 hrest, hd.2⟩
      · exact absurd h (by simp)
    · exact Or.inl h

/-- Whether a text begins as a number does and holds no other characters. -/
def LikeNumber (s : List Char) : Prop :=
  ∃ c rest, s = c :: rest ∧ isDigit c = true ∧ ∀ d ∈ c :: rest, isNumberChar d = true

theorem isNumberChar_of_hexValue? {c : Char} {d : Nat} (h : hexValue? c = some d) :
    isNumberChar c = true := by
  simp [isNumberChar, (isHexDigit_of_hexValue? h).1]

/-- What is read as an integer looks like a number, behind at most one plus sign. -/
theorem likeNumber_of_unsigned? {bound n : Nat} {s : List Char} (h : unsigned? bound s = some n) :
    LikeNumber ((dropPrefix? ['+'] s).getD s) := by
  rw [unsigned?] at h
  generalize (dropPrefix? ['+'] s).getD s = body at h ⊢
  split at h
  · exact absurd h (by simp)
  -- a number with a base: every mark is a zero and a letter that a number may hold
  · next hb =>
    obtain ⟨mark, hm, rest, rfl, hr⟩ := based?_eq_some hb
    simp only [baseMarks, List.mem_cons, List.not_mem_nil, or_false] at hm
    have hrest : ∀ d ∈ rest, isNumberChar d = true := by
      intro d hd
      obtain ⟨v, -, hv⟩ := hr d hd
      exact isNumberChar_of_hexValue? hv
    have like : ∀ e, isNumberChar e = true → LikeNumber ('0' :: e :: rest) := by
      intro e he
      refine ⟨'0', e :: rest, rfl, by decide, ?_⟩
      simp only [List.mem_cons, forall_eq_or_imp]
      exact ⟨by decide, he, hrest⟩
    rcases hm with rfl | rfl | rfl
    · exact like 'x' (by decide)
    · exact like 'o' (by decide)
    · exact like 'b' (by decide)
  · split at h
    · exact absurd h (by simp)
    · next hs =>
      simp only [Bool.or_eq_true, not_or, Bool.not_eq_true] at hs
      obtain ⟨hne, hd⟩ := digits?_eq_some hs.1 h
      cases body with
      | nil => exact absurd rfl hne
      | cons c rest =>
        refine ⟨c, rest, rfl, ?_, ?_⟩
        · obtain ⟨v, hv, hc⟩ := hd c (by simp)
          exact (isHexDigit_of_hexValue? hc).2 hv
        · intro d hmem
          obtain ⟨v, -, hv⟩ := hd d hmem
          exact isNumberChar_of_hexValue? hv

/-! ## Texts that need no quotes -/

section Plain

variable {s : List Char}

/-- What a text that needs no quotes is not. -/
theorem of_needsQuotes (h : needsQuotes s = false) :
    ∃ c rest, s = c :: rest ∧ hasOuterBlank s = false ∧ c ∉ indicators ∧
      occurs [':', ' '] s = false ∧ occurs [' ', '#'] s = false ∧ endsWith ':' s = false ∧
      (∀ d ∈ s, isControl d = false) ∧ isReserved s = false ∧ looksNumeric s = false := by
  cases s with
  | nil => simp [needsQuotes] at h
  | cons c rest =>
    simp only [needsQuotes, Bool.or_eq_false_iff, List.any_eq_false, Bool.not_eq_true,
      List.contains_eq_mem, decide_eq_false_iff_not] at h
    obtain ⟨⟨⟨⟨⟨⟨⟨h1, h2⟩, h3⟩, h4⟩, h5⟩, h6⟩, h7⟩, h8⟩ := h
    exact ⟨c, rest, rfl, h1, h2, h3, h4, h5, h6, h7, h8⟩

theorem isGapOrBreak_of_isQuotable {c : Char} (h : isQuotable c = true) (hc : isControl c = false) :
    c ≠ '\t' ∧ isBreak c = false ∧ isAllowed c = true := by
  simp only [isQuotable, hc, Bool.false_or, Bool.and_eq_true, Bool.not_eq_true'] at h
  refine ⟨?_, h.2, h.1⟩
  rintro rfl
  exact absurd hc (by decide)

theorem runsOn_of_occurs (hg : ∀ c ∈ s, c ≠ '\t' ∧ isBreak c = false)
    (hcolon : occurs [':', ' '] s = false) (hhash : occurs [' ', '#'] s = false)
    (hend : s.getLast? ≠ some ':' ∧ s.getLast? ≠ some ' ') : runsOn s = true := by
  -- `runsOn` looks at two characters at a time, so the last one is a case of its own
  induction s with
  | nil => rfl
  | cons c s ih =>
    obtain ⟨ht, hb⟩ := hg c (by simp)
    cases s with
    | nil => simp_all [runsOn, isGapOrBreak, isGap]
    | cons d s =>
      rw [occurs, Bool.or_eq_false_iff] at hcolon hhash
      have hd := ih (fun e he => hg e (by simp [he])) hcolon.2 hhash.2 (by simpa using hend)
      have h1 : ¬c = ':' ∨ ¬d = ' ' := by
        rw [← Decidable.not_and_iff_or_not]
        rintro ⟨rfl, rfl⟩
        simp [List.isPrefixOf] at hcolon
      have h2 : ¬c = ' ' ∨ ¬d = '#' := by
        rw [← Decidable.not_and_iff_or_not]
        rintro ⟨rfl, rfl⟩
        simp [List.isPrefixOf] at hhash
      simpa [runsOn, ht, hb, hd] using ⟨h1, h2⟩

/-- A text that needs no quotes is read as one plain scalar. -/
theorem readable_plain (hq : ∀ c ∈ s, isQuotable c = true) (h : needsQuotes s = false) :
    (Spelling.plain s).Readable := by
  obtain ⟨c, rest, rfl, hblank, hind, hcolon, hhash, hend, hctl, -, -⟩ := of_needsQuotes h
  have hchar := fun d hd => isGapOrBreak_of_isQuotable (hq d hd) (hctl d hd)
  have hc : isBlank c = false := by
    simp only [hasOuterBlank, Bool.or_eq_false_iff] at hblank
    simpa using hblank.1
  have hlast : (c :: rest).getLast? ≠ some ' ' := by
    intro e
    simp only [hasOuterBlank, e, Bool.or_eq_false_iff] at hblank
    exact absurd hblank.2 (by decide)
  refine ⟨?_, ?_, fun d hd => (hchar d hd).2.2⟩
  · have hsp : c ≠ ' ' := by
      rintro rfl
      exact absurd hc (by decide)
    simp [startsPlain, isGapOrBreak, isGap, hsp, (hchar c (by simp)).1, (hchar c (by simp)).2.1, hind]
  · exact runsOn_of_occurs (fun d hd => ⟨(hchar d hd).1, (hchar d hd).2.1⟩) hcolon hhash
      ⟨by simpa [endsWith] using hend, hlast⟩

/-! ## What such a text is read as -/

/-- A text that is not reserved is none of the reserved words. -/
theorem beq_of_not_reserved (h : isReserved s = false) (word : String)
    (hw : isReserved word.toList = true) : (String.ofList s == word) = false := by
  rw [beq_eq_false_iff_ne]
  rintro rfl
  rw [String.toList_ofList, h] at hw
  exact absurd hw (by simp)

theorem not_likeNumber (h : looksNumeric s = false) :
    ¬ LikeNumber (s.dropWhile fun c => c == '+' || c == '-') := by
  rintro ⟨c, rest, e, hc, hall⟩
  rw [looksNumeric, e] at h
  simp only [Bool.or_eq_false_iff, hc, Bool.true_or, Bool.true_and] at h
  rw [List.all_eq_true.2 hall] at h
  exact absurd h.2 (by simp)

theorem isDigit_not_sign {c : Char} (h : isDigit c = true) : (c == '+' || c == '-') = false := by
  simp only [Bool.or_eq_false_iff, beq_eq_false_iff_ne, ne_eq]
  constructor
  · rintro rfl
    exact absurd h (by decide)
  · rintro rfl
    exact absurd h (by decide)

/-- The text behind an optional plus sign begins like a number if the text does behind its signs. -/
theorem dropWhile_sign_of_likeNumber (h : LikeNumber ((dropPrefix? ['+'] s).getD s)) :
    (s.dropWhile fun c => c == '+' || c == '-') = (dropPrefix? ['+'] s).getD s := by
  obtain ⟨c, rest, e, hc, -⟩ := h
  have hsign := isDigit_not_sign hc
  cases s with
  | nil => simp [dropPrefix?] at e
  | cons d s =>
    by_cases hd : '+' = d
    · subst hd
      have hs : s = c :: rest := by simpa [dropPrefix?] using e
      simp [dropPrefix?, hs, hsign]
    · have hs : d :: s = c :: rest := by simpa [dropPrefix?, hd] using e
      obtain ⟨rfl, rfl⟩ := List.cons.inj hs
      simp [dropPrefix?, hd, hsign]

theorem unsigned?_eq_none (h : looksNumeric s = false) (bound : Nat) : unsigned? bound s = none := by
  cases hu : unsigned? bound s with
  | none => rfl
  | some n =>
    have hl := likeNumber_of_unsigned? hu
    exact absurd (dropWhile_sign_of_likeNumber hl ▸ hl) (not_likeNumber h)

theorem negative?_eq_none (h : s.head? ≠ some '-') (bound : Nat) : negative? bound s = none := by
  cases s with
  | nil => rfl
  | cons c s =>
    have hc : c ≠ '-' := by simpa using h
    simp [negative?, hc]

/-- Without a sign in front of it a literal is read the same behind a plus sign. -/
theorem literal_behind_plus {body : List Char} (h : isSigned body = false) :
    Literal.ofText? ('+' :: body) = Literal.ofText? body := by
  have e : Literal.sign body = (false, body) := by
    cases body with
    | nil => rfl
    | cons c body =>
      simp only [isSigned, List.head?_cons, Bool.or_eq_false_iff, Option.some_beq_some,
        beq_eq_false_iff_ne, ne_eq] at h
      simp [Literal.sign, h.1, h.2]
  rw [Literal.ofText?, Literal.ofText?, e]
  rfl

theorem literal_eq_none (h : looksNumeric s = false)
    (hs : (s.dropWhile fun c => c == '+' || c == '-') ≠ []) : Literal.ofText? s = none := by
  rw [looksNumeric] at h
  split at h
  · next e => exact absurd e hs
  · simp only [Bool.or_eq_false_iff, Option.isSome_eq_false_iff, Option.isNone_iff_eq_none] at h
    exact h.1

theorem dropWhile_sign_of_not_signed (h : isSigned s = false) :
    (s.dropWhile fun c => c == '+' || c == '-') = s := by
  cases s with
  | nil => rfl
  | cons c s =>
    have hc : (c == '+' || c == '-') = false := by simpa [isSigned] using h
    rw [List.dropWhile_cons, hc]
    simp

/-- No reader of floats takes the text behind an optional plus sign. -/
theorem literal_body_eq_none (hn : looksNumeric s = false)
    (h : isSigned ((dropPrefix? ['+'] s).getD s) = false) :
    Literal.ofText? ((dropPrefix? ['+'] s).getD s) = none := by
  by_cases hne : (dropPrefix? ['+'] s).getD s = []
  · rw [hne]
    rfl
  cases s with
  | nil => exact absurd rfl hne
  | cons c s =>
    by_cases hc : '+' = c
    · subst hc
      simp only [dropPrefix?, if_true, Option.getD_some] at h hne ⊢
      rw [← literal_behind_plus h]
      refine literal_eq_none hn ?_
      simpa [dropWhile_sign_of_not_signed h] using hne
    · simp only [dropPrefix?, hc, if_false, Option.getD_none] at h hne ⊢
      refine literal_eq_none hn ?_
      rwa [dropWhile_sign_of_not_signed h]

theorem float?_eq_none (hr : isReserved s = false) (hn : looksNumeric s = false)
    (hm : s.head? ≠ some '-') : float? (String.ofList s) = none := by
  have word := beq_of_not_reserved hr
  -- the infinities are looked for behind a plus sign too, so both spellings must be reserved
  have body : ∀ w : String, isReserved w.toList = true → isReserved ('+' :: w.toList) = true →
      (String.ofList ((dropPrefix? ['+'] s).getD s) == w) = false := by
    intro w h1 h2
    rw [beq_eq_false_iff_ne]
    rintro rfl
    cases s with
    | nil => exact absurd h1 (by decide)
    | cons c s =>
      by_cases hc : '+' = c
      · subst hc
        simp [dropPrefix?, hr] at h2
      · simp [dropPrefix?, hc, hr] at h1
  simp only [float?, String.toList_ofList, body ".inf" (by decide) (by decide),
    body ".Inf" (by decide) (by decide), body ".INF" (by decide) (by decide), word "-.inf" (by decide),
    word "-.Inf" (by decide), word "-.INF" (by decide), word ".nan" (by decide),
    word ".NaN" (by decide), word ".NAN" (by decide), Bool.or_self, Bool.false_eq_true, if_false]
  split
  · rfl
  · next hs =>
    have hsigned : isSigned ((dropPrefix? ['+'] s).getD s) = false := by
      cases s with
      | nil => rfl
      | cons c s =>
        by_cases hc : '+' = c
        · subst hc
          simpa [dropPrefix?] using hs
        · have hc' : c ≠ '+' := fun e => hc e.symm
          simpa [dropPrefix?, hc, isSigned, hc'] using hm
    rw [literal_body_eq_none hn hsigned]
    rfl

theorem isNullWord_of_not_reserved (h : isReserved s = false) :
    isNullWord (String.ofList s) = false := by
  simp only [isNullWord, Bool.or_eq_false_iff]
  exact ⟨⟨⟨beq_of_not_reserved h _ (by decide), beq_of_not_reserved h _ (by decide)⟩,
    beq_of_not_reserved h _ (by decide)⟩, beq_of_not_reserved h _ (by decide)⟩

theorem bool?_of_not_reserved (h : isReserved s = false) : bool? (String.ofList s) = none := by
  have ne := beq_of_not_reserved h
  rw [bool?, ne "true" (by decide), ne "True" (by decide), ne "TRUE" (by decide),
    ne "false" (by decide), ne "False" (by decide), ne "FALSE" (by decide)]
  rfl

theorem isEmpty_ofList (h : s ≠ []) : (String.ofList s).isEmpty = false := by
  rw [Bool.eq_false_iff, ne_eq, String.isEmpty_iff]
  intro e
  exact h (by simpa using congrArg String.toList e)

/-- A text that needs no quotes is the text also as a plain scalar. -/
theorem plainValue_of_needsQuotes (h : needsQuotes s = false) :
    plainValue (String.ofList s) = .ok (.string (String.ofList s)) := by
  obtain ⟨c, rest, e, -, hind, -, -, -, -, hr, hn⟩ := of_needsQuotes h
  have hm : s.head? ≠ some '-' := by
    intro hd
    obtain rfl : c = '-' := by simpa [e] using hd
    exact hind (by decide)
  have hint : integerText s = .none := by
    simp [integerText, unsigned?_eq_none hn, negative?_eq_none hm]
  rw [plainValue, isEmpty_ofList (by simp [e]), isNullWord_of_not_reserved hr,
    bool?_of_not_reserved hr, String.toList_ofList, hint, float?_eq_none hr hn hm]
  simp

end Plain

/-! ## Integers -/

theorem hexValue?_digitChar {d : Nat} (h : d < 16) : hexValue? (digitChar d) = some d := by
  have all : ∀ e < 16, hexValue? (digitChar e) = some e := by decide
  exact all d h

theorem isDigit_digitChar {d : Nat} (h : d < 10) : isDigit (digitChar d) = true := by
  have all : ∀ e < 10, isDigit (digitChar e) = true := by decide
  exact all d h

/-- Reading the digits of a number gives the number, in front of whatever follows. -/
theorem ofDigits?_digitsOnto {base : Nat} (h2 : 2 ≤ base) (h16 : base ≤ 16) (n : Nat)
    (tail : List Char) :
    ((digitsOnto base n tail).foldlM (fun n c => do
      let d ← hexValue? c
      if d < base then some (n * base + d) else none) 0) =
    (tail.foldlM (fun n c => do
      let d ← hexValue? c
      if d < base then some (n * base + d) else none) n) := by
  fun_induction digitsOnto base n tail with
  | case1 n tail hn ih =>
    have hlt : n % base < base := Nat.mod_lt _ (by omega)
    rw [ih, List.foldlM_cons, hexValue?_digitChar (by omega)]
    simp only [Option.bind_eq_bind, Option.bind_some, hlt, if_true]
    rw [Nat.div_add_mod']
  | case2 n tail hn =>
    have hlt : n < base := by omega
    rw [List.foldlM_cons, hexValue?_digitChar (by omega)]
    simp [hlt]

theorem ofDigits?_decimal (n : Nat) : ofDigits? 10 (decimal n) = some n :=
  ofDigits?_digitsOnto (by omega) (by omega) n []

theorem isDigit_decimal {n : Nat} {c : Char} (h : c ∈ decimal n) : isDigit c = true := by
  rcases mem_digitsOnto (by omega) h with ⟨d, hd, rfl⟩ | h
  · exact isDigit_digitChar hd
  · exact absurd h (by simp)

/-- The digits of a number that is not zero begin with another digit. -/
theorem digitsOnto_head {n : Nat} (hn : 0 < n) (tail : List Char) :
    ∃ d rest, digitsOnto 10 n tail = digitChar d :: rest ∧ 0 < d ∧ d < 10 := by
  fun_induction digitsOnto 10 n tail with
  | case1 n tail h ih => exact ih (by omega)
  | case2 n tail h => exact ⟨n, tail, rfl, hn, by omega⟩

theorem decimal_cases (n : Nat) :
    decimal n = ['0'] ∧ n = 0 ∨ ∃ c rest, decimal n = c :: rest ∧ isDigit c = true ∧ c ≠ '0' := by
  rcases Nat.eq_zero_or_pos n with rfl | hn
  · left
    exact ⟨by rw [decimal, digitsOnto]; rfl, rfl⟩
  · right
    obtain ⟨d, rest, e, h0, h10⟩ := digitsOnto_head hn []
    have ne : ∀ e < 10, 0 < e → digitChar e ≠ '0' := by decide
    exact ⟨digitChar d, rest, e, isDigit_digitChar h10, ne d h10 h0⟩

theorem isSigned_of_isDigit {c : Char} (rest : List Char) (h : isDigit c = true) :
    isSigned (c :: rest) = false := by
  simpa [isSigned] using isDigit_not_sign h

/-- Decimal digits name no base, have no sign and no needless zero. -/
theorem decimal_unmarked (n : Nat) :
    (∀ mark ∈ baseMarks, dropPrefix? mark.1 (decimal n) = none) ∧ isSigned (decimal n) = false ∧
      hasNeedlessZero (decimal n) = false ∧ hasNeedlessZero ('-' :: decimal n) = false := by
  rcases decimal_cases n with ⟨h, -⟩ | ⟨c, rest, h, hd, h0⟩
  · rw [h]
    decide
  · have hs := isSigned_of_isDigit rest hd
    have h0' : ¬ '0' = c := fun e => h0 e.symm
    rw [h]
    refine ⟨?_, hs, ?_, ?_⟩
    · simp [baseMarks, dropPrefix?, h0']
    · simp [hasNeedlessZero, hs, h0]
    · simp [hasNeedlessZero, isSigned, h0]

theorem based?_eq_none {bound : Nat} {s : List Char}
    (h : ∀ mark ∈ baseMarks, dropPrefix? mark.1 s = none) : based? bound s = some none := by
  simp only [baseMarks, List.mem_cons, List.not_mem_nil, or_false, forall_eq_or_imp, forall_eq] at h
  simp [based?, baseMarks, h]

theorem unsigned?_decimal {bound n : Nat} (h : n < bound) : unsigned? bound (decimal n) = some n := by
  obtain ⟨hb, hs, hz, -⟩ := decimal_unmarked n
  have hbody : (dropPrefix? ['+'] (decimal n)).getD (decimal n) = decimal n := by
    cases hd : decimal n with
    | nil => rfl
    | cons c rest =>
      have hc : ¬ '+' = c := by
        rintro rfl
        simp [hd, isSigned] at hs
      simp [dropPrefix?, hc]
  have hne : decimal n ≠ [] := by
    rcases decimal_cases n with ⟨e, -⟩ | ⟨c, rest, e, -⟩ <;> simp [e]
  rw [unsigned?]
  simp only [hbody, based?_eq_none hb, hs, hz, Bool.or_self, Bool.false_eq_true, if_false]
  rw [digits?_of_not_signed hs, ofDigits?_decimal]
  simp [hne, h]

theorem unsigned?_minus {bound : Nat} {s : List Char} : unsigned? bound ('-' :: s) = none := by
  have hb : based? bound ('-' :: s) = some none := based?_eq_none (by simp [baseMarks, dropPrefix?])
  simp [unsigned?, dropPrefix?, hb, isSigned]

theorem negative?_minus {bound n : Nat} (h : n ≤ bound) :
    negative? bound ('-' :: decimal n) = some n := by
  obtain ⟨hb, hs, -, hz⟩ := decimal_unmarked n
  have hne : decimal n ≠ [] := by
    rcases decimal_cases n with ⟨e, -⟩ | ⟨c, rest, e, -⟩ <;> simp [e]
  have hbased : (baseMarks.findSome? fun mark =>
      (dropPrefix? mark.1 (decimal n)).bind fun rest =>
        if isSigned rest then none else digits? mark.2 (bound + 1) rest) = none := by
    rw [List.findSome?_eq_none_iff]
    intro mark hm
    rw [hb mark hm]
    rfl
  rw [negative?]
  simp only [hbased, hz, hs, Bool.or_self, Bool.false_eq_true, if_false]
  rw [digits?_of_not_signed hs, ofDigits?_decimal]
  rw [if_neg (by simpa using hne), Option.filter_some,
    if_pos (decide_eq_true (Nat.lt_succ_of_le h))]

/-- An integer of 64 bits is read back from its digits. -/
theorem integerText_decimalInt {z : Int} (hl : -(Nat.pow 2 63 : Int) ≤ z) (hu : z < (Nat.pow 2 64 : Int)) :
    integerText (decimalInt z) = .fits z := by
  unfold decimalInt
  split
  · next hz =>
    have hn : z.natAbs ≤ Nat.pow 2 63 := by omega
    rw [integerText, unsigned?_minus, negative?_minus hn]
    simp only [IntegerText.fits.injEq]
    omega
  · next hz =>
    have hn : z.natAbs < Nat.pow 2 64 := by omega
    rw [integerText, unsigned?_decimal hn]
    simp only [IntegerText.fits.injEq]
    omega

theorem mem_decimalInt {z : Int} {c : Char} (h : c ∈ decimalInt z) : isDigit c = true ∨ c = '-' := by
  unfold decimalInt at h
  split at h
  · rcases List.mem_cons.1 h with rfl | h
    · exact Or.inr rfl
    · exact Or.inl (isDigit_decimal h)
  · exact Or.inl (isDigit_decimal h)

theorem decimalInt_ne_nil (z : Int) : decimalInt z ≠ [] := by
  have hne : decimal z.natAbs ≠ [] := by
    rcases decimal_cases z.natAbs with ⟨e, -⟩ | ⟨c, rest, e, -⟩ <;> simp [e]
  unfold decimalInt
  split
  · simp
  · exact hne

/-- Every reserved word has a character that no integer has. -/
theorem isReserved_decimalInt (z : Int) : isReserved (decimalInt z) = false := by
  have words : ∀ w ∈ reservedWords, w.toList.any (fun c => !isDigit c && c != '-') = true := by decide
  have lower : ∀ n < 0x40, lowerAscii (Char.ofNat n) = Char.ofNat n := by decide
  rw [isReserved, List.contains_eq_mem, decide_eq_false_iff_not]
  intro hm
  obtain ⟨c, hc, hcc⟩ := List.any_eq_true.1 (words _ hm)
  obtain ⟨hd, hs⟩ : isDigit c = false ∧ c ≠ '-' := by simpa using hcc
  rw [String.toList_ofList] at hc
  obtain ⟨e, he, rfl⟩ := List.mem_map.1 hc
  have hsame : lowerAscii e = e := by
    have hlt : e.toNat < 0x40 := by
      rcases mem_decimalInt he with h | rfl
      · simp only [isDigit, Bool.and_eq_true, decide_eq_true_eq] at h
        omega
      · decide
    exact of_toNat_lt (p := fun d => lowerAscii d = d) lower hlt
  rw [hsame] at hd hs
  rcases mem_decimalInt he with h | h
  · rw [h] at hd
    exact absurd hd (by simp)
  · exact hs h

theorem runsOn_of_not_gap {s : List Char} (h : ∀ c ∈ s, isGapOrBreak c = false ∧ c ≠ ':') :
    runsOn s = true := by
  induction s with
  | nil => rfl
  | cons c s ih =>
    obtain ⟨hg, hc⟩ := h c (by simp)
    have hs := ih fun d hd => h d (by simp [hd])
    cases s with
    | nil => simp [runsOn, hg, hc]
    | cons d s =>
      simp only [isGapOrBreak, isGap, Bool.or_eq_false_iff, beq_eq_false_iff_ne] at hg
      simp [runsOn, hg, hc, hs]

/-- What an integer is written with can stand anywhere in a plain scalar. -/
theorem plain_of_mem_decimalInt {z : Int} {c : Char} (h : c ∈ decimalInt z) :
    isGapOrBreak c = false ∧ c ≠ ':' ∧ isAllowed c = true := by
  have all : ∀ n < 0x3A, isDigit (Char.ofNat n) = true →
      isGapOrBreak (Char.ofNat n) = false ∧ Char.ofNat n ≠ ':' ∧ isAllowed (Char.ofNat n) = true := by
    decide
  rcases mem_decimalInt h with hd | rfl
  · have hlt : c.toNat < 0x3A := by
      simp only [isDigit, Bool.and_eq_true, decide_eq_true_eq] at hd
      omega
    exact of_toNat_lt (p := fun c => isDigit c = true → isGapOrBreak c = false ∧ c ≠ ':' ∧ isAllowed c = true)
      all hlt hd
  · decide

/-- The digits of an integer are one plain scalar. -/
theorem readable_decimalInt (z : Int) : (Spelling.plain (decimalInt z)).Readable := by
  have hmem : ∀ c ∈ decimalInt z, isGapOrBreak c = false ∧ c ≠ ':' ∧ isAllowed c = true :=
    fun c hc => plain_of_mem_decimalInt hc
  refine ⟨?_, runsOn_of_not_gap fun c hc => ⟨(hmem c hc).1, (hmem c hc).2.1⟩, fun c hc => (hmem c hc).2.2⟩
  have digit : ∀ c rest, isDigit c = true → isGapOrBreak c = false → startsPlain (c :: rest) = true := by
    intro c rest hd hg
    have hi : c ∉ indicators := by
      intro hm
      have none : indicators.all (fun c => !isDigit c) = true := by decide
      have hc := List.all_eq_true.1 none c hm
      simp [hd] at hc
    simp [startsPlain, hg, hi]
  obtain ⟨c, rest, hc, hd⟩ : ∃ c rest, decimal z.natAbs = c :: rest ∧ isDigit c = true := by
    rcases decimal_cases z.natAbs with ⟨e, -⟩ | ⟨c, rest, e, hd, -⟩
    · exact ⟨'0', [], e, by decide⟩
    · exact ⟨c, rest, e, hd⟩
  unfold decimalInt at hmem ⊢
  rw [hc] at hmem ⊢
  split
  · next hz =>
    rw [if_pos hz] at hmem
    simp [startsPlain, atGap, (hmem c (by simp)).1]
  · next hz =>
    rw [if_neg hz] at hmem
    exact digit c rest hd (hmem c (by simp)).1

theorem plainValue_decimalInt {z : Int} (hl : -(Nat.pow 2 63 : Int) ≤ z) (hu : z < (Nat.pow 2 64 : Int)) :
    plainValue (String.ofList (decimalInt z)) = .ok (.int z) := by
  have hr := isReserved_decimalInt z
  rw [plainValue, isEmpty_ofList (decimalInt_ne_nil z), isNullWord_of_not_reserved hr,
    bool?_of_not_reserved hr, String.toList_ofList, integerText_decimalInt hl hu]
  rfl

end RoleChart.Yaml
