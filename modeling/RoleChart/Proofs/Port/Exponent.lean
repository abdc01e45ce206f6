import Mathlib.Data.List.Basic
import RoleChart.Proofs.Port.Accepted
import RoleChart.Proofs.Port.Legal

/-!
# Numbered names that read as numbers

A name in front of a dash and a number is one plain scalar. A reader takes it for the text that it is, unless the
name is digits and the letter of an exponent: what is written `1e-0` is the number one.

## Main statements

* `ofQuotient_isFinite` — a quotient that is not large rounds to a finite number
* `plainValue_numbered` — a numbered name is read as itself
* `plainValue_exponential` — unless it reads as a number with an exponent
-/

namespace RoleChart.Decimal

open Text

/-! ## Finite numbers -/

/-- A quotient that is not large rounds to a finite number. -/
theorem Binary64.ofQuotient_isFinite {num : Nat} (h : num.log2 ≤ 1000) (negative : Bool) (den : Nat) :
    (ofQuotient negative num den).isFinite = true := by
  have hmax : maxExponent = 971 := rfl
  have hmin : minExponent = -1074 := rfl
  unfold ofQuotient
  split
  · rfl
  · simp only
    generalize hguess : (num.log2 : Int) - den.log2 - 52 = guess
    generalize hshift : (if _ < Nat.pow 2 52 then guess - 1 else guess) = shift
    have hle : shift ≤ guess := by
      rw [← hshift]
      split <;> omega
    -- a carry makes the exponent greater by one
    generalize roundQuotient _ _ = mantissa
    by_cases hcarry : mantissa = Nat.pow 2 53
    · rw [if_pos hcarry, if_neg (by dsimp only; omega)]
      rfl
    · rw [if_neg hcarry, if_neg (by dsimp only; omega)]
      rfl

/-- Digits write a number that is less than the power of their number. -/
theorem Literal.value_lt {digits : List Char} (h : ∀ c ∈ digits, isDigit c = true) :
    value digits < Nat.pow 10 digits.length := by
  have hmore : ∀ start, digits.foldl (fun n c => n * 10 + (hexValue? c).getD 0) start
      < (start + 1) * Nat.pow 10 digits.length := by
    induction digits with
    | nil => simp
    | cons c rest ih =>
      intro start
      obtain ⟨hc, hrest⟩ := List.forall_mem_cons.1 h
      obtain ⟨hvalue, hlt⟩ := Port.hexValue?_of_isDigit hc
      have hstep := ih hrest (start * 10 + (c.toNat - '0'.toNat))
      rw [List.foldl_cons, hvalue, Option.getD_some]
      refine Nat.lt_of_lt_of_le hstep ?_
      rw [List.length_cons, Nat.pow_eq, Nat.pow_eq, Nat.pow_succ, Nat.mul_comm (10 ^ _) 10, ← Nat.mul_assoc]
      exact Nat.mul_le_mul_right _ (by omega)
  simpa [value] using hmore 0

/-- What a few digits and an exponent write, none of them large, is a finite number. -/
theorem Binary64.ofLiteral_isFinite {c : Nat} {e : Int} (hc : c < Nat.pow 10 15) (he : e ≤ 0) :
    (ofLiteral (.number false c e)).isFinite = true := by
  have hlength : (Text.decimal c).length ≤ 15 := Port.length_digitsOnto_le (k := 14) hc []
  have hlog : c.log2 ≤ 1000 := by
    rcases Nat.eq_zero_or_pos c with rfl | hpos
    · decide
    · have : c.log2 < 50 := (Nat.log2_lt (by omega)).2 (Nat.lt_trans hc (by decide))
      omega
  unfold ofLiteral
  simp only
  split
  · rfl
  split
  · omega
  split
  · have hzero : e = 0 := by omega
    subst hzero
    exact ofQuotient_isFinite (by simpa using hlog) _ _
  · exact ofQuotient_isFinite hlog _ _

/-! ## Exponents -/

/-- Digits without a point write a number behind which an exponent can stand. -/
theorem Literal.unsigned?_append {whole rest : List Char} {mark : Char} (hwhole : ∀ c ∈ whole, isDigit c = true)
    (hmark : isDigit mark = false) (hpoint : mark ≠ '.') :
    unsigned? false (whole ++ mark :: rest) = if whole = [] then none
      else (exponent? (mark :: rest)).map fun e => .number false (value whole) e := by
  simp [unsigned?, List.takeWhile_append_of_pos hwhole, List.dropWhile_append_of_pos hwhole, hmark, hpoint]

theorem Literal.exponent?_cons {mark : Char} {rest : List Char} {e : Int} (h : exponent? (mark :: rest) = some e) :
    (mark = 'e' ∨ mark = 'E') ∧ integer? rest = some e := by
  rw [exponent?] at h
  split at h
  · next hmark => exact ⟨by simpa using hmark, h⟩
  · cases h

/-- Without a point, a text that writes a number is digits, or digits and an exponent. -/
theorem Literal.exists_of_unsigned? {s : List Char} {l : Literal} (h : unsigned? false s = some l)
    (hpoint : '.' ∉ s) : (∀ c ∈ s, isDigit c = true) ∨ ∃ whole mark rest e, s = whole ++ mark :: rest ∧
      whole ≠ [] ∧ (∀ c ∈ whole, isDigit c = true) ∧ (mark = 'e' ∨ mark = 'E') ∧ integer? rest = some e := by
  have hwhole : ∀ c ∈ s.takeWhile isDigit, isDigit c = true := fun c hc => List.mem_takeWhile_imp hc
  have hsplit : s.takeWhile isDigit ++ s.dropWhile isDigit = s := List.takeWhile_append_dropWhile
  have hstop := List.head?_dropWhile_not isDigit s
  generalize s.takeWhile isDigit = whole at hwhole hsplit
  cases hrest : s.dropWhile isDigit with
  | nil =>
    rw [hrest, List.append_nil] at hsplit
    exact .inl (hsplit ▸ hwhole)
  | cons mark rest =>
    rw [hrest] at hsplit hstop
    have hne : mark ≠ '.' := by
      rintro rfl
      exact hpoint (hsplit ▸ List.mem_append_right _ List.mem_cons_self)
    rw [← hsplit, unsigned?_append hwhole hstop hne] at h
    split at h
    · cases h
    · next hsome =>
      obtain ⟨e, he, -⟩ := Option.map_eq_some_iff.1 h
      obtain ⟨hmark, he⟩ := exponent?_cons he
      exact .inr ⟨whole, mark, rest, e, hsplit.symm, hsome, hwhole, hmark, he⟩

end RoleChart.Decimal

namespace RoleChart.Port

open Text Decimal
open Yaml (plainValue)

variable {base : List Char} {i : Nat}

/-! ## Names with an exponent -/

/-- Digits and the letter of an exponent. -/
def Exponential (base : List Char) : Prop :=
  ∃ digits mark, base = digits ++ [mark] ∧ digits ≠ [] ∧ (∀ c ∈ digits, isDigit c = true) ∧
    (mark = 'e' ∨ mark = 'E')

theorem dash_not_mem_digits {digits : List Char} (h : ∀ c ∈ digits, isDigit c = true) : '-' ∉ digits :=
  fun hmem => absurd (h '-' hmem) (by decide)

/-- The digits behind a sign, where there is a dash in front of them or among them. -/
theorem exists_of_integer? {s : List Char} {e : Int} (h : Literal.integer? s = some e) (hdash : '-' ∈ s) :
    ∃ digits, s = '-' :: digits ∧ '-' ∉ digits := by
  have hdigits {negative : Bool} {digits : List Char} (hsign : Literal.sign s = (negative, digits)) :
      '-' ∉ digits := by
    rw [Literal.integer?, hsign] at h
    simp only at h
    split at h
    · exact nomatch h
    · next hall =>
      refine dash_not_mem_digits fun c hc => ?_
      simp only [Bool.or_eq_true, not_or, Bool.not_eq_true', Bool.not_eq_false, List.all_eq_true] at hall
      exact hall.2 c hc
  unfold Literal.sign at hdigits
  split at hdigits
  · exact ⟨_, rfl, hdigits rfl⟩
  · have hrest := hdigits rfl
    exact absurd ((List.mem_cons.1 hdash).resolve_left (by decide)) hrest
  · exact absurd hdash (hdigits rfl)

/-- A numbered name begins with a letter or a digit, has a dash, and is made of letters, digits and dashes. -/
structure Numbered (s : List Char) : Prop where
  first : ∃ c rest, s = c :: rest ∧ isAlphanumeric c = true
  dash : '-' ∈ s
  chars : ∀ c ∈ s, isPortChar c = true

theorem Worded.numbered (h : Worded base) (i : Nat) : Numbered (base ++ '-' :: decimal i) where
  first := by
    obtain ⟨c, rest, rfl, hc, -⟩ := h.exists_cons
    exact ⟨c, _, List.cons_append, hc⟩
  dash := List.mem_append_right _ List.mem_cons_self
  chars := (h.append (worded_decimal i)).isPortChar

namespace Numbered

variable {s : List Char}

theorem head_ne (h : Numbered s) {c : Char} (hc : isAlphanumeric c = false) : s.head? ≠ some c := by
  obtain ⟨d, rest, rfl, hd⟩ := h.first
  rintro ⟨⟩
  rw [hc] at hd
  cases hd

theorem ne_of_dash (h : Numbered s) {w : String} (hw : '-' ∉ w.toList) : (String.ofList s == w) = false := by
  rw [beq_eq_false_iff_ne]
  rintro rfl
  rw [String.toList_ofList] at hw
  exact hw h.dash

theorem ne_of_head (h : Numbered s) {w : String} {c : Char} {rest : List Char} (hw : w.toList = c :: rest)
    (hc : isAlphanumeric c = false) : (String.ofList s == w) = false := by
  rw [beq_eq_false_iff_ne]
  rintro rfl
  rw [String.toList_ofList] at hw
  exact h.head_ne hc (by rw [hw]; rfl)

theorem isSigned (h : Numbered s) : Yaml.isSigned s = false := by
  rw [Yaml.isSigned, Bool.or_eq_false_iff, beq_eq_false_iff_ne, beq_eq_false_iff_ne]
  exact ⟨h.head_ne (by decide), h.head_ne (by decide)⟩

theorem dropPlus (h : Numbered s) : dropPrefix? ['+'] s = none := by
  rw [dropPrefix?_eq_none_iff]
  rintro ⟨rest, rfl⟩
  exact h.head_ne (by decide) rfl

/-- A dash is no digit of any base. -/
theorem unsigned?_eq_none (h : Numbered s) (bound : Nat) : Yaml.unsigned? bound s = none := by
  have hdigit {rest : List Char} {base : Nat} (hmem : '-' ∈ rest) :
      ¬ ∀ c ∈ rest, ∃ d < base, hexValue? c = some d := by
    intro hall
    obtain ⟨d, -, hd⟩ := hall _ hmem
    exact nomatch (by decide : hexValue? '-' = none).symm.trans hd
  unfold Yaml.unsigned?
  rw [h.dropPlus, Option.getD_none]
  dsimp only
  split
  · rfl
  · next n hbased =>
    obtain ⟨mark, hmark, rest, hs, hrest⟩ := Yaml.based?_eq_some hbased
    have hmem : '-' ∈ mark.1 ∨ '-' ∈ rest := List.mem_append.1 (hs ▸ h.dash)
    have hnone : ∀ mark ∈ Yaml.baseMarks, '-' ∉ mark.1 := by decide
    exact absurd hrest (hdigit (hmem.resolve_left (hnone mark hmark)))
  · split
    · rfl
    · rw [Option.eq_none_iff_forall_ne_some]
      intro n hn
      exact hdigit h.dash (Yaml.digits?_eq_some h.isSigned hn).2

theorem integerText (h : Numbered s) : Yaml.integerText s = .none := by
  have hminus := Yaml.negative?_eq_none (h.head_ne (c := '-') (by decide))
  simp [Yaml.integerText, h.unsigned?_eq_none, hminus]

theorem hasNeedlessZero (h : Numbered s) : Yaml.hasNeedlessZero s = false := by
  rw [Yaml.hasNeedlessZero, h.isSigned, if_neg Bool.false_ne_true]
  split
  · next d rest =>
    have hmem : '-' ∈ d :: rest := (List.mem_cons.1 h.dash).resolve_left (by decide)
    rw [List.all_eq_false]
    exact ⟨'-', hmem, by decide⟩
  · rfl

/-- A numbered name is read as the number that it writes, if it writes one, and as itself otherwise. -/
theorem plainValue (h : Numbered s) : Yaml.plainValue (String.ofList s)
    = .ok (match (Literal.ofText? s).map Binary64.ofLiteral with
      | some x => if x.isFinite then .float x else .string (String.ofList s)
      | none => .string (String.ofList s)) := by
  have hword {w : String} (hw : '-' ∉ w.toList) := h.ne_of_dash hw
  have hpoint {w : String} {c : Char} {rest : List Char} (hw : w.toList = c :: rest)
      (hc : isAlphanumeric c = false) := h.ne_of_head hw hc
  have hsome : (String.ofList s).isEmpty = false := by
    obtain ⟨c, rest, rfl, -⟩ := h.first
    exact Yaml.isEmpty_ofList (List.cons_ne_nil c rest)
  -- the dash keeps the text from being one of the words with a meaning of their own
  have hnull : Yaml.isNullWord (String.ofList s) = false := by
    simp only [Yaml.isNullWord, hword (w := "~") (by decide), hword (w := "null") (by decide),
      hword (w := "Null") (by decide), hword (w := "NULL") (by decide), Bool.or_self]
  have hbool : Yaml.bool? (String.ofList s) = none := by
    simp only [Yaml.bool?, hword (w := "true") (by decide), hword (w := "True") (by decide),
      hword (w := "TRUE") (by decide), hword (w := "false") (by decide), hword (w := "False") (by decide),
      hword (w := "FALSE") (by decide), Bool.or_self, Bool.false_eq_true, if_false]
  have hfloat : Yaml.float? (String.ofList s) = (Literal.ofText? s).bind fun l =>
      let x := Binary64.ofLiteral l
      if x.isFinite then some x else none := by
    simp only [Yaml.float?, String.toList_ofList, h.dropPlus, Option.getD_none, Nat.lt_irrefl, decide_false,
      Bool.false_and, Bool.false_eq_true, if_false,
      hpoint (w := ".inf") rfl (by decide), hpoint (w := ".Inf") rfl (by decide),
      hpoint (w := ".INF") rfl (by decide), hpoint (w := "-.inf") rfl (by decide),
      hpoint (w := "-.Inf") rfl (by decide), hpoint (w := "-.INF") rfl (by decide),
      hpoint (w := ".nan") rfl (by decide), hpoint (w := ".NaN") rfl (by decide),
      hpoint (w := ".NAN") rfl (by decide), Bool.or_self]
  rw [Yaml.plainValue, hsome, hnull, hbool, String.toList_ofList, h.integerText, h.hasNeedlessZero, hfloat]
  simp only [Bool.or_self, Bool.false_eq_true, if_false]
  cases Literal.ofText? s with
  | none => rfl
  | some l => cases hfinite : (Binary64.ofLiteral l).isFinite <;> simp [hfinite]

end Numbered

/-! ## Literals -/

theorem Numbered.literal {s : List Char} (h : Numbered s) : Literal.ofText? s = Literal.unsigned? false s := by
  have hsign : Literal.sign s = (false, s) := by
    unfold Literal.sign
    split
    · exact absurd rfl (h.head_ne (by decide))
    · exact absurd rfl (h.head_ne (by decide))
    · rfl
  have hdash : '-' ∈ s.map lowerAscii := List.mem_map.2 ⟨'-', h.dash, rfl⟩
  have hword {w : String} (hw : '-' ∉ w.toList) : String.ofList (s.map lowerAscii) ≠ w := by
    rintro rfl
    rw [String.toList_ofList] at hw
    exact hw hdash
  simp [Literal.ofText?, hsign, hword (w := "nan") (by decide), hword (w := "inf") (by decide),
    hword (w := "infinity") (by decide)]

/-- A numbered name that reads as a literal is digits, an exponent and its number. -/
theorem exponential_of_literal {l : Literal} (h : Worded base)
    (hl : Literal.ofText? (base ++ '-' :: decimal i) = some l) : Exponential base := by
  have hnumbered := h.numbered i
  rw [hnumbered.literal] at hl
  have hpoint : '.' ∉ base ++ '-' :: decimal i := fun hmem => absurd (hnumbered.chars '.' hmem) (by decide)
  rcases Literal.exists_of_unsigned? hl hpoint with hdigits | ⟨whole, mark, rest, e, hs, hsome, hwhole, hmark, he⟩
  · exact absurd hnumbered.dash (dash_not_mem_digits hdigits)
  · have hne : '-' ≠ mark := by
      rcases hmark with rfl | rfl <;> decide
    have hfront : '-' ∉ whole ++ [mark] := by
      simpa [dash_not_mem_digits hwhole] using hne
    have hdash : '-' ∈ rest := by
      have hmem := (List.mem_append.1 (hs ▸ hnumbered.dash)).resolve_left (dash_not_mem_digits hwhole)
      exact (List.mem_cons.1 hmem).resolve_left hne
    obtain ⟨digits, rfl, hdigits⟩ := exists_of_integer? he hdash
    -- the text has one dash, so what is in front of it is the name
    have hbase : (whole ++ [mark]) ++ '-' :: digits = base ++ '-' :: decimal i := by
      rw [hs, List.append_assoc, List.singleton_append]
    obtain ⟨rfl, -⟩ := (List.append_cons_inj_of_notMem hfront hdigits).1 hbase
    exact ⟨whole, mark, rfl, hsome, hwhole, hmark⟩

/-- Digits and an exponent write a number. -/
theorem literal_of_exponential (h : Worded base) (hbase : Exponential base) (i : Nat) :
    ∃ c e, c < Nat.pow 10 base.length ∧ e ≤ 0 ∧
      Literal.ofText? (base ++ '-' :: decimal i) = some (.number false c e) := by
  obtain ⟨digits, mark, rfl, hsome, hdigits, hmark⟩ := hbase
  have hexponent : Literal.exponent? (mark :: '-' :: decimal i)
      = some (-(Literal.value (decimal i) : Int)) := by
    have hletter : (mark = 'e' || mark = 'E') = true := by simpa using hmark
    have hall : (decimal i).all isDigit = true := List.all_eq_true.2 fun c hc => Yaml.isDigit_decimal hc
    have hne : (decimal i).isEmpty = false := by
      simpa using (worded_decimal i).ne_nil
    rw [Literal.exponent?, if_pos hletter]
    simp [Literal.integer?, Literal.sign, hall, hne]
  have hdigit : isDigit mark = false ∧ mark ≠ '.' := by
    rcases hmark with rfl | rfl <;> decide
  refine ⟨Literal.value digits, -(Literal.value (decimal i) : Int), ?_, by omega, ?_⟩
  · refine Nat.lt_of_lt_of_le (Literal.value_lt hdigits) ?_
    exact Nat.pow_le_pow_right (by decide) (by simp)
  · rw [(h.numbered i).literal, List.append_assoc, List.singleton_append,
      Literal.unsigned?_append hdigits hdigit.1 hdigit.2, if_neg hsome, hexponent]
    rfl

/-! ## What is read -/

/-- A numbered name is read as itself, unless it is digits and the letter of an exponent. -/
theorem plainValue_numbered (h : Worded base) (hbase : ¬ Exponential base) (i : Nat) :
    plainValue (String.ofList (base ++ '-' :: decimal i))
      = .ok (.string (String.ofList (base ++ '-' :: decimal i))) := by
  have hnone : Literal.ofText? (base ++ '-' :: decimal i) = none :=
    Option.eq_none_iff_forall_ne_some.2 fun l hl => hbase (exponential_of_literal h hl)
  rw [(h.numbered i).plainValue, hnone]
  rfl

/-- Digits and the letter of an exponent, short enough for a port, are read as a number. -/
theorem plainValue_exponential (h : Worded base) (hbase : Exponential base) (hlength : base.length ≤ maxNameLength)
    (i : Nat) : ∃ x, plainValue (String.ofList (base ++ '-' :: decimal i)) = .ok (.float x) := by
  obtain ⟨c, e, hc, he, hl⟩ := literal_of_exponential h hbase i
  have hlt : c < Nat.pow 10 15 := Nat.lt_of_lt_of_le hc (Nat.pow_le_pow_right (by decide) hlength)
  have hfinite := Binary64.ofLiteral_isFinite hlt he
  refine ⟨Binary64.ofLiteral (.number false c e), ?_⟩
  rw [(h.numbered i).plainValue, hl, Option.map_some]
  simp only [hfinite, if_true]

end RoleChart.Port
