import RoleChart.Document.Quoting
import RoleChart.Proofs.Yaml.Gaps

/-!
# Spellings of scalars

A scalar on one line, plain or between double quotes, is read as the text it spells: in front of a
line break, where text further right would be taken for its continuation, and in front of the colon
of a key.

## Main statements

* `quotedScalar_doubleQuoted` — a text between double quotes is read back, escapes included
* `plainScalar_line`, `plainScalar_key` — a plain text is read to the end of its line or to its colon
-/

namespace RoleChart.Yaml

open Text RoleChart.Document

/-! ## Quoted scalars -/

/-- The characters that stand between double quotes as themselves or as an escape. -/
def isQuotable (c : Char) : Bool := isControl c || (isAllowed c && !isBreak c)

theorem writable_of_isQuotable {c : Char} (h : isQuotable c = true) :
    isControl c = true ∨ isAllowed c = true := by
  simp only [isQuotable, Bool.or_eq_true, Bool.and_eq_true] at h
  exact h.imp_right And.left

theorem codePoint?_hexadecimal {c : Char} (h : isControl c = true) :
    codePoint? ((hexadecimal 4 c.toNat).map upperAscii) = some c ∧
      (hexadecimal 4 c.toNat).length = 4 := by
  have all : ∀ n < 0xA0, codePoint? ((hexadecimal 4 n).map upperAscii) = some (Char.ofNat n) ∧
      (hexadecimal 4 n).length = 4 := by decide +kernel
  have hn : c.toNat < 0xA0 := by
    simp only [isControl, Bool.or_eq_true, decide_eq_true_eq, Bool.and_eq_true] at h
    omega
  simpa [Char.ofNat_toNat] using all c.toNat hn

section Run

variable {s run rest : List Char} {escape : Bool}

theorem doubleRun_letter {e d : Char} (he : isBreak e = false) (hd : escapeChar? e = some d)
    (h : doubleRun s = .ok (run, escape, rest)) :
    doubleRun ('\\' :: e :: s) = .ok (d :: run, escape, rest) := by
  rw [doubleRun]
  simp [isGapOrBreak, isGap, show isBreak '\\' = false from rfl, he, hd, h]

theorem doubleRun_code {d : Char} {digits : List Char} (hl : digits.length = 4)
    (hd : codePoint? digits = some d) (h : doubleRun s = .ok (run, escape, rest)) :
    doubleRun ('\\' :: 'u' :: (digits ++ s)) = .ok (d :: run, escape, rest) := by
  rw [doubleRun]
  simp [isGapOrBreak, isGap, show isBreak '\\' = false from rfl, show isBreak 'u' = false from rfl,
    show escapeChar? 'u' = none from rfl, show escapeWidth? 'u' = some 4 from rfl, hl,
    List.take_left' hl, List.drop_left' hl, hd, h]

theorem doubleRun_self {c : Char} (hg : isGapOrBreak c = false) (hq : c ≠ '"') (hb : c ≠ '\\')
    (h : doubleRun s = .ok (run, escape, rest)) :
    doubleRun (c :: s) = .ok (c :: run, escape, rest) := by
  rw [doubleRun.eq_def]
  simp [hg, hq, hb, h]

/-- One escaped character is read back in front of any rest. -/
theorem doubleRun_escaped {c : Char} (hc : isQuotable c = true) (hs : c ≠ ' ')
    (h : doubleRun s = .ok (run, escape, rest)) :
    doubleRun (escaped c ++ s) = .ok (c :: run, escape, rest) := by
  unfold escaped
  split
  · next e => subst e; exact doubleRun_letter rfl rfl h
  split
  · next e => subst e; exact doubleRun_letter rfl rfl h
  split
  · next e => subst e; exact doubleRun_letter rfl rfl h
  split
  · next e => subst e; exact doubleRun_letter rfl rfl h
  split
  · next e => subst e; exact doubleRun_letter rfl rfl h
  split
  · next hctl =>
    obtain ⟨hcode, hlen⟩ := codePoint?_hexadecimal hctl
    exact doubleRun_code (by simpa using hlen) hcode h
  · next h1 h2 h3 h4 h5 h6 =>
    have hg : isGapOrBreak c = false := by
      simp only [isQuotable, h6, Bool.false_or, Bool.and_eq_true, Bool.not_eq_true'] at hc
      simp [isGapOrBreak, isGap, hs, h5, hc.2]
    exact doubleRun_self hg h1 h2 h

end Run

theorem doubleRun_stop {s : List Char} (h : s.head?.any (fun c => isGapOrBreak c || c == '"') = true) :
    doubleRun s = .ok ([], false, s) := by
  cases s with
  | nil => simp at h
  | cons c rest =>
    rw [doubleRun.eq_def]
    simp only [List.head?_cons, Option.any_some] at h
    simp [h]

/-- A word is read up to the gap or the quote behind it. -/
theorem doubleRun_word {word rest : List Char} (hw : ∀ c ∈ word, isQuotable c = true ∧ c ≠ ' ')
    (hr : rest.head?.any (fun c => isGapOrBreak c || c == '"') = true) :
    doubleRun (word.flatMap escaped ++ rest) = .ok (word, false, rest) := by
  induction word with
  | nil => exact doubleRun_stop hr
  | cons c word ih =>
    obtain ⟨h1, h2⟩ := hw c (by simp)
    rw [List.flatMap_cons, List.append_assoc]
    exact doubleRun_escaped h1 h2 (ih fun d hd => hw d (by simp [hd]))

theorem escaped_ne_nil (c : Char) : escaped c ≠ [] := by
  unfold escaped
  repeat' split
  all_goals simp

theorem length_le_flatMap_escaped (t : List Char) : t.length ≤ (t.flatMap escaped).length := by
  induction t with
  | nil => simp
  | cons d t ih =>
    have := List.length_pos_iff.2 (escaped_ne_nil d)
    simp only [List.flatMap_cons, List.length_append, List.length_cons]
    omega

theorem escaped_eq_cons {c : Char} (hc : isQuotable c = true) (hs : c ≠ ' ') :
    ∃ d rest, escaped c = d :: rest ∧ isGapOrBreak d = false := by
  unfold escaped
  repeat' split
  all_goals first
    | exact ⟨_, _, rfl, rfl⟩
    | skip
  next h1 h2 h3 h4 h5 h6 =>
    refine ⟨c, [], rfl, ?_⟩
    simp only [isQuotable, h6, Bool.false_or, Bool.and_eq_true, Bool.not_eq_true'] at hc
    simp [isGapOrBreak, isGap, hs, h5, hc.2]

/-- A text begins with a word and the gap behind it; without a gap there is only the word. -/
theorem exists_word_gap (t : List Char) :
    ∃ (word : List Char) (n : Nat) (t' : List Char), t = word ++ (List.replicate n ' ' ++ t') ∧
      (∀ c ∈ word, c ≠ ' ') ∧ t'.head? ≠ some ' ' ∧ (n = 0 → t' = []) := by
  induction t with
  | nil => exact ⟨[], 0, [], rfl, by simp, by simp, fun _ => rfl⟩
  | cons c t ih =>
    obtain ⟨word, n, t', rfl, hw, ht, hn⟩ := ih
    by_cases hc : c = ' '
    · subst hc
      cases word with
      | nil =>
        refine ⟨[], n + 1, t', ?_, by simp, ht, by simp⟩
        simp [List.replicate_succ]
      | cons d word =>
        exact ⟨[], 1, d :: word ++ (List.replicate n ' ' ++ t'), rfl, by simp,
          by simpa using hw d (by simp), by simp⟩
    · exact ⟨c :: word, n, t', rfl, by simpa [hc] using hw, ht, hn⟩

theorem flatMap_escaped_spaces (n : Nat) :
    (List.replicate n ' ').flatMap escaped = List.replicate n ' ' := by
  induction n with
  | zero => rfl
  | succ n ih => rw [List.replicate_succ, List.flatMap_cons, ih]; rfl

/-- What stands behind a gap in a quoted text is no gap. -/
theorem head_escaped {t rest : List Char} (h : ∀ c ∈ t, isQuotable c = true)
    (ht : t.head? ≠ some ' ') :
    (t.flatMap escaped ++ '"' :: rest).head?.any isGapOrBreak = false := by
  cases t with
  | nil => rfl
  | cons c t =>
    obtain ⟨d, l, hd, hg⟩ := escaped_eq_cons (h c (by simp)) (by simpa using ht)
    simp [hd, hg]

theorem atDocumentMark_of_column {c : Cursor} (h : c.column ≠ 0) : c.atDocumentMark = false := by
  simp [Cursor.atDocumentMark, h]

section Quoted

variable {c : Cursor} {word text rest : List Char} {fuel : Nat}

/-- A quoted scalar ends with the quote behind a word. -/
theorem quotedOnto_last (hm : c.atDocumentMark = false) (hc : c.rest = word.flatMap escaped ++ '"' :: rest)
    (hw : ∀ d ∈ word, isQuotable d = true ∧ d ≠ ' ') :
    quotedOnto '"' text c (fuel + 1)
      = .ok (text ++ word, c.skip ((word.flatMap escaped).length + 1)) := by
  rw [quotedOnto, hm, hc, doubleRun_word hw rfl]
  simp only [show ('"' = '\'') = False by simp, if_false, Bool.false_or, List.isEmpty_iff,
    Cursor.skipTo_append hc, Cursor.skip_rest, hc, List.drop_left, List.head?_cons,
    beq_self_eq_true, if_true, Cursor.skip_skip, Bool.false_eq_true]
  simp

/-- A quoted scalar goes on behind the gap that follows a word. -/
theorem quotedOnto_gap {n : Nat} (hm : c.atDocumentMark = false)
    (hc : c.rest = word.flatMap escaped ++ (List.replicate (n + 1) ' ' ++ rest))
    (hw : ∀ d ∈ word, isQuotable d = true ∧ d ≠ ' ') (hr : rest.head?.any isGapOrBreak = false) :
    quotedOnto '"' text c (fuel + 1)
      = quotedOnto '"' (text ++ word ++ List.replicate (n + 1) ' ')
          (c.skip ((word.flatMap escaped).length + (n + 1))) fuel := by
  have hs : (c.skip (word.flatMap escaped).length).rest = List.replicate (n + 1) ' ' ++ rest := by
    rw [Cursor.skip_rest, hc, List.drop_left]
  rw [quotedOnto, hm, hc, doubleRun_word hw rfl, ← hc]
  simp only [show ('"' = '\'') = False by simp, if_false, Bool.false_or, List.isEmpty_iff,
    Cursor.skipTo_append hc, hs, Cursor.fold_spaces hs hr, Cursor.skip_skip, Bool.false_eq_true]
  simp [Cursor.Fold.text, hc, List.replicate_succ]

end Quoted

theorem quotedOnto_text : ∀ (size : Nat) (t text : List Char) (c : Cursor) (rest : List Char)
    (fuel : Nat), t.length ≤ size → t.length < fuel → (∀ d ∈ t, isQuotable d = true) →
    c.column ≠ 0 → c.rest = t.flatMap escaped ++ '"' :: rest →
    quotedOnto '"' text c fuel = .ok (text ++ t, c.skip ((t.flatMap escaped).length + 1)) := by
  -- a round reads a word with the gap behind it, so the induction is on the length that is left
  intro size
  induction size with
  | zero =>
    intro t text c rest fuel hsize hfuel _ hcol hc
    obtain rfl : t = [] := List.length_eq_zero_iff.1 (by omega)
    obtain ⟨fuel, rfl⟩ : ∃ m, fuel = m + 1 := ⟨fuel - 1, by omega⟩
    exact quotedOnto_last (atDocumentMark_of_column hcol) hc (by simp)
  | succ size ih =>
    intro t text c rest fuel hsize hfuel hq hcol hc
    obtain ⟨fuel, rfl⟩ : ∃ m, fuel = m + 1 := ⟨fuel - 1, by omega⟩
    obtain ⟨word, n, t', rfl, hw, ht, hn⟩ := exists_word_gap t
    have hword : ∀ d ∈ word, isQuotable d = true ∧ d ≠ ' ' := fun d hd =>
      ⟨hq d (by simp [hd]), hw d hd⟩
    have hq' : ∀ d ∈ t', isQuotable d = true := fun d hd => hq d (by simp [hd])
    cases n with
    | zero =>
      obtain rfl := hn rfl
      simpa using quotedOnto_last (atDocumentMark_of_column hcol) (by simpa using hc) hword
    | succ n =>
      simp only [List.length_append, List.length_replicate] at hsize hfuel
      rw [List.flatMap_append, List.flatMap_append, flatMap_escaped_spaces, List.append_assoc,
        List.append_assoc] at hc
      rw [quotedOnto_gap (atDocumentMark_of_column hcol) hc hword (head_escaped hq' ht),
        ih t' _ _ rest fuel (by omega) (by omega) hq' (by simp)
          (by rw [← Cursor.skip_skip]; simp [hc])]
      simp [flatMap_escaped_spaces, Cursor.skip_skip, Nat.add_assoc]

/-- A text between double quotes is read back. -/
theorem quotedScalar_doubleQuoted {t : List Char} (rest : List Char) {c : Cursor}
    (hq : ∀ d ∈ t, isQuotable d = true) (hc : c.rest = doubleQuoted t ++ rest) :
    quotedScalar '"' c = .ok (t, c.skip (doubleQuoted t).length) := by
  have hc' : (c.skip 1).rest = t.flatMap escaped ++ '"' :: rest := by simp [hc, doubleQuoted]
  have hl := length_le_flatMap_escaped t
  rw [quotedScalar, quotedOnto_text t.length t [] (c.skip 1) rest _ (Nat.le_refl _) _ hq (by simp) hc']
  · simp [Cursor.skip_skip, doubleQuoted, Nat.add_comm]
  · simp only [hc, doubleQuoted, List.cons_append, List.length_cons, List.length_append]
    omega

/-! ## Plain scalars -/

/-- Whether a plain text is read to its end: it stays on its line, holds no colon in front of a gap
and no comment mark behind one, and ends with neither a colon nor a gap. -/
def runsOn : List Char → Bool
  | [] => true
  | [c] => !isGapOrBreak c && c != ':'
  | c :: d :: rest =>
    c != '\t' && !isBreak c && !(c == ':' && d == ' ') && !(c == ' ' && d == '#') && runsOn (d :: rest)

theorem runsOn_tail {c : Char} {t : List Char} (h : runsOn (c :: t) = true) : runsOn t = true := by
  cases t with
  | nil => rfl
  | cons d t =>
    simp only [runsOn, Bool.and_eq_true] at h
    exact h.2

theorem runsOn_drop {s t : List Char} (h : runsOn (s ++ t) = true) : runsOn t = true := by
  induction s with
  | nil => exact h
  | cons c s ih => exact ih (runsOn_tail h)

/-- Behind a gap such a text goes on, and not with a comment mark. -/
theorem runsOn_gap {n : Nat} {t : List Char} (h : runsOn (List.replicate (n + 1) ' ' ++ t) = true)
    (ht : t.head? ≠ some ' ') : t ≠ [] ∧ t.head? ≠ some '#' ∧ runsOn t = true := by
  induction n with
  | zero =>
    cases t with
    | nil => simp [runsOn, isGapOrBreak, isGap] at h
    | cons d t => simp_all [runsOn]
  | succ n ih => exact ih (runsOn_tail (by rwa [List.replicate_succ, List.cons_append] at h))

/-- No character of such a text is a tab or a break. -/
theorem runsOn_not_gap {c : Char} {t : List Char} (h : runsOn (c :: t) = true) (hc : c ≠ ' ') :
    isGapOrBreak c = false := by
  cases t with
  | nil =>
    simp only [runsOn, Bool.and_eq_true, Bool.not_eq_true'] at h
    exact h.1
  | cons d t =>
    simp only [runsOn, Bool.and_eq_true, Bool.not_eq_true', bne_iff_ne, ne_eq] at h
    simp [isGapOrBreak, isGap, hc, h.1.1.1.1, h.1.1.1.2]

/-- What ends a plain scalar: a line feed, or a colon in front of a gap. -/
def endsPlain : List Char → Bool
  | '\n' :: _ => true
  | ':' :: rest => atGap rest
  | _ => false

theorem plainRun_end {tail : List Char} (h : endsPlain tail = true) :
    plainRun false tail = .ok ([], tail) := by
  unfold endsPlain at h
  split at h
  · rfl
  · next rest => simp [plainRun, isGapOrBreak, isGap, isBreak, h]
  · simp at h

theorem plainRun_cons {c : Char} {s run rest : List Char} (hg : isGapOrBreak c = false)
    (hc : (c == ':' && atGap s) = false) (h : plainRun false s = .ok (run, rest)) :
    plainRun false (c :: s) = .ok (c :: run, rest) := by
  rw [plainRun]
  simp only [hg, hc, h, Bool.false_and, Bool.or_self, Bool.false_eq_true, if_false]

/-- A word of a plain text is read up to the gap behind it. -/
theorem plainRun_word_gap {word t : List Char} {n : Nat} (hw : ∀ c ∈ word, c ≠ ' ')
    (h : runsOn (word ++ (List.replicate (n + 1) ' ' ++ t)) = true) (tail : List Char) :
    plainRun false (word ++ (List.replicate (n + 1) ' ' ++ t) ++ tail)
      = .ok (word, List.replicate (n + 1) ' ' ++ t ++ tail) := by
  induction word with
  | nil => simp [plainRun, List.replicate_succ, isGapOrBreak, isGap]
  | cons c word ih =>
    have hg := runsOn_not_gap h (hw c (by simp))
    have ih := ih (fun d hd => hw d (by simp [hd])) (runsOn_tail h)
    have hcolon : (c == ':' && atGap (word ++ (List.replicate (n + 1) ' ' ++ t) ++ tail)) = false := by
      cases word with
      | nil =>
        simp only [List.nil_append, List.cons_append, List.replicate_succ, runsOn, Bool.and_eq_true,
          beq_self_eq_true, Bool.and_true, Bool.not_eq_true'] at h
        simp [h.1.1.2]
      | cons d word =>
        have := runsOn_not_gap (runsOn_tail h) (hw d (by simp))
        simp [atGap, this]
    exact plainRun_cons hg hcolon ih

/-- The last word of a plain text is read to its end. -/
theorem plainRun_last {word tail : List Char} (hw : ∀ c ∈ word, c ≠ ' ') (h : runsOn word = true)
    (ht : endsPlain tail = true) : plainRun false (word ++ tail) = .ok (word, tail) := by
  induction word with
  | nil => exact plainRun_end ht
  | cons c word ih =>
    have hg := runsOn_not_gap h (hw c (by simp))
    have ih := ih (fun d hd => hw d (by simp [hd])) (runsOn_tail h)
    have hcolon : (c == ':' && atGap (word ++ tail)) = false := by
      cases word with
      | nil =>
        simp only [runsOn, Bool.and_eq_true, bne_iff_ne, ne_eq] at h
        simp [h.2]
      | cons d word =>
        have := runsOn_not_gap (runsOn_tail h) (hw d (by simp))
        simp [atGap, this]
    exact plainRun_cons hg hcolon ih

section Plain

variable {c : Cursor} {word text tail : List Char} {column fuel : Nat}

/-- No comment begins at a word. -/
theorem head?_word {rest : List Char} (hc : c.rest = word ++ rest) (hne : word ≠ [])
    (hh : word.head? ≠ some '#') : (c.rest.head? == some '#') = false := by
  cases word with
  | nil => exact absurd rfl hne
  | cons d word => simpa [hc] using hh

/-- A plain scalar goes on behind the gap that follows a word. -/
theorem plainOnto_gap {f : Cursor.Fold} {n : Nat} {t : List Char} (hm : c.atDocumentMark = false)
    (hc : c.rest = word ++ (List.replicate (n + 1) ' ' ++ t) ++ tail) (hne : word ≠ [])
    (hw : ∀ d ∈ word, d ≠ ' ') (hh : word.head? ≠ some '#')
    (h : runsOn (word ++ (List.replicate (n + 1) ' ' ++ t)) = true)
    (hr : (t ++ tail).head?.any isGapOrBreak = false) (hcol : column ≤ c.column + 1) :
    plainOnto false column text f c (fuel + 1)
      = plainOnto false column (text ++ f.text ++ word) { spaces := List.replicate (n + 1) ' ' }
          (c.skip (word.length + (n + 1))) fuel := by
  have hs : (c.skip word.length).rest = List.replicate (n + 1) ' ' ++ (t ++ tail) := by simp [hc]
  have hrest : c.rest = word ++ (List.replicate (n + 1) ' ' ++ t ++ tail) := by
    rw [hc, List.append_assoc]
  rw [plainOnto, hm, head?_word hrest hne hh, hc, plainRun_word_gap hw h tail]
  simp only [Bool.or_self, Bool.false_eq_true, if_false, List.isEmpty_iff, hne,
    Cursor.skipTo_append hrest, Cursor.fold_spaces hs hr, Cursor.skip_skip, Cursor.skip_column,
    Bool.not_false, Bool.true_and]
  have hgap : (!(List.replicate (n + 1) ' ' ++ t ++ tail).head?.any isGapOrBreak) = false := by
    simp [List.replicate_succ, isGapOrBreak, isGap]
  have hpos : 0 < word.length := List.length_pos_iff.2 hne
  have hlt : ¬ c.column + (word.length + (n + 1)) < column := by omega
  simp only [hgap, hlt, decide_false, Bool.false_eq_true, if_false]

/-- A plain scalar is read word by word; the last word is left, with its gap in front of it. -/
theorem plainOnto_words : ∀ (size : Nat) (t text : List Char) (f : Cursor.Fold) (c : Cursor)
    (fuel : Nat), t.length ≤ size → t.length < fuel → t ≠ [] → t.head? ≠ some ' ' →
    t.head? ≠ some '#' → runsOn t = true → c.atDocumentMark = false → column ≤ c.column + 1 →
    c.rest = t ++ tail →
    ∃ (n fuel' : Nat) (text' word : List Char) (f' : Cursor.Fold), 0 < fuel' ∧
      plainOnto false column text f c fuel = plainOnto false column text' f' (c.skip n) (fuel' + 1) ∧
      text' ++ f'.text ++ word = text ++ f.text ++ t ∧ n + word.length = t.length ∧
      (c.skip n).rest = word ++ tail ∧ (c.skip n).atDocumentMark = false ∧ word ≠ [] ∧
      (∀ d ∈ word, d ≠ ' ') ∧ word.head? ≠ some '#' ∧ runsOn word = true := by
  -- what is put together so far and the gap that is still folded are generalised with the place
  intro size
  induction size with
  | zero =>
    intro t text f c fuel hsize _ hne
    exact absurd (List.length_eq_zero_iff.1 (by omega)) hne
  | succ size ih =>
    intro t text f c fuel hsize hfuel hne hsp hh hrun hm hcol hc
    obtain ⟨fuel, rfl⟩ : ∃ m, fuel = m + 1 := ⟨fuel - 1, by omega⟩
    obtain ⟨word, n, t', rfl, hw, ht', hn⟩ := exists_word_gap t
    have hword : word ≠ [] := by
      rintro rfl
      cases n with
      | zero => exact hne (by rw [hn rfl]; rfl)
      | succ n => simp [List.replicate_succ] at hsp
    have hpos : 0 < word.length := List.length_pos_iff.2 hword
    have hhash : word.head? ≠ some '#' := by
      cases word with
      | nil => exact absurd rfl hword
      | cons d word => simpa using hh
    cases n with
    | zero =>
      obtain rfl := hn rfl
      simp only [List.replicate_zero, List.append_nil] at hc hrun hfuel ⊢
      exact ⟨0, fuel, text, word, f, by omega, rfl, rfl, by omega, hc, hm, hword, hw, hhash, hrun⟩
    | succ n =>
      simp only [List.length_append, List.length_replicate] at hsize hfuel
      obtain ⟨h1, h2, h3⟩ := runsOn_gap (runsOn_drop hrun) ht'
      have hc' : (c.skip (word.length + (n + 1))).rest = t' ++ tail := by
        rw [← Cursor.skip_skip]
        simp [hc]
      have hg : (t' ++ tail).head?.any isGapOrBreak = false := by
        cases t' with
        | nil => exact absurd rfl h1
        | cons d t' => simpa using runsOn_not_gap h3 (by simpa using ht')
      obtain ⟨m, fuel', text', word', f', h4, h5, h6, h7, h8, h9, h10⟩ :=
        ih t' (text ++ f.text ++ word) { spaces := List.replicate (n + 1) ' ' }
          (c.skip (word.length + (n + 1))) fuel (by omega) (by omega) h1 ht' h2 h3
          (atDocumentMark_of_column (by simp)) (by simp; omega) hc'
      rw [Cursor.skip_skip] at h5 h8 h9
      refine ⟨word.length + (n + 1) + m, fuel', text', word', f', h4, ?_, ?_, ?_, h8, h9, h10⟩
      · rw [plainOnto_gap hm hc hword hw hhash hrun hg hcol, h5]
      · rw [h6, show ({ spaces := List.replicate (n + 1) ' ' } : Cursor.Fold).text
          = List.replicate (n + 1) ' ' from rfl]
        simp only [List.append_assoc]
      · simp only [List.length_append, List.length_replicate]
        omega

/-- Reads the last word of a plain scalar in front of the colon of a key. -/
theorem plainOnto_colon {f : Cursor.Fold} (hm : c.atDocumentMark = false)
    (hc : c.rest = word ++ ':' :: tail) (hne : word ≠ []) (hw : ∀ d ∈ word, d ≠ ' ')
    (hh : word.head? ≠ some '#') (h : runsOn word = true) (ht : atGap tail = true) :
    plainOnto false column text f c (fuel + 1)
      = .ok (text ++ f.text ++ word, false, c.skip word.length) := by
  rw [plainOnto, hm, head?_word hc hne hh, hc, plainRun_last hw h (by simpa [endsPlain] using ht)]
  simp [hne, Cursor.skipTo_append hc, isGapOrBreak, isGap, isBreak]

/-- Reads the last word of a plain scalar at the end of its line. -/
theorem plainOnto_feed {f : Cursor.Fold} {n : Nat} (hm : c.atDocumentMark = false)
    (hc : c.rest = word ++ '\n' :: (List.replicate n ' ' ++ tail)) (hne : word ≠ [])
    (hw : ∀ d ∈ word, d ≠ ' ') (hh : word.head? ≠ some '#') (h : runsOn word = true)
    (hr : tail.head?.any isGapOrBreak = false) (hn : n < column ∨ n = 0 ∧ tail = [])
    (hfuel : 0 < fuel) :
    plainOnto false column text f c (fuel + 1)
      = .ok (text ++ f.text ++ word, true,
          ((c.skip word.length).nextLine (List.replicate n ' ' ++ tail)).skip n) := by
  obtain ⟨fuel, rfl⟩ : ∃ m, fuel = m + 1 := ⟨fuel - 1, by omega⟩
  have hs : (c.skip word.length).rest = '\n' :: (List.replicate n ' ' ++ tail) := by simp [hc]
  rw [plainOnto, hm, head?_word hc hne hh, hc, plainRun_last hw h rfl]
  simp only [Bool.or_self, Bool.false_eq_true, if_false, List.isEmpty_iff, hne,
    Cursor.skipTo_append hc, Cursor.fold_break hs hr, List.head?_cons, Option.any_some,
    show isGapOrBreak '\n' = true from rfl, Bool.not_true, Bool.not_false, Bool.true_and,
    decide_eq_true_eq, Cursor.skip_column, Cursor.nextLine, Nat.zero_add]
  rcases hn with hn | ⟨rfl, rfl⟩
  · rw [if_pos hn]
  -- at the end of the text a scalar of column zero goes on for a round that reads nothing
  · by_cases h0 : 0 < column
    · rw [if_pos h0]
    · rw [if_neg h0, plainOnto]
      simp [Cursor.atDocumentMark, plainRun, Cursor.skipTo, Cursor.skip]

end Plain

/-- Whether a plain scalar may begin so: with no gap and no indicator, or with a dash in front of
something else. -/
def startsPlain : List Char → Bool
  | [] => false
  | c :: rest => !(isGapOrBreak c || indicators.contains c) || (c == '-' && !atGap rest)

theorem startsPlain_head {c : Char} {t : List Char} (h : startsPlain (c :: t) = true) :
    isGapOrBreak c = false ∧ (c ∉ indicators ∨ c = '-' ∧ atGap t = false) := by
  simp only [startsPlain, Bool.or_eq_true, Bool.not_eq_true', Bool.or_eq_false_iff,
    List.contains_eq_mem, decide_eq_false_iff_not, Bool.and_eq_true, beq_iff_eq] at h
  rcases h with h | ⟨rfl, h⟩
  · exact ⟨h.1, Or.inl h.2⟩
  · exact ⟨rfl, Or.inr ⟨rfl, h⟩⟩

theorem startsPlain_isContent {c : Char} {t : List Char} (h : startsPlain (c :: t) = true) :
    isContent c = true := by
  obtain ⟨h1, h2⟩ := startsPlain_head h
  have hc : c ≠ '#' := by
    rintro rfl
    rcases h2 with h2 | h2
    · exact h2 (by decide)
    · simp at h2
  simp [isContent, h1, hc]

section Scalar

variable {c : Cursor} {t : List Char}

/-- A plain key is read up to its colon. -/
theorem plainScalar_key {tail : List Char} {column : Nat} (hs : startsPlain t = true)
    (hr : runsOn t = true) (hc : c.rest = t ++ ':' :: tail) (ht : atGap tail = true)
    (hm : c.atDocumentMark = false) (hcol : column ≤ c.column + 1) :
    plainScalar false column c = .ok (t, false, c.skip t.length) := by
  cases t with
  | nil => simp [startsPlain] at hs
  | cons d t =>
    obtain ⟨h1, -, h2, h3⟩ := isContent_iff.1 (startsPlain_isContent hs)
    obtain ⟨n, fuel, text, word, f, h4, h5, h6, h7, h8, h9, h10, h11, h12, h13⟩ :=
      plainOnto_words (d :: t).length (d :: t) [] {} c (c.rest.length + 1) (Nat.le_refl _)
        (by rw [hc, List.length_append]; omega) (by simp) (by simpa using h1) (by simpa using h3) hr hm hcol hc
    rw [plainScalar, h5, plainOnto_colon h9 h8 h10 h11 h12 h13 ht, h6, Cursor.skip_skip, h7]
    rfl

/-- A plain text is read to the end of its line, if the next line is not indented further than
the scalar may go on. The reader is left behind the indentation of that line. -/
theorem plainScalar_line {rest : List Char} {indent : Int} (hs : startsPlain t = true)
    (hr : runsOn t = true) (hc : c.rest = t ++ '\n' :: rest) (hrest : Shallow indent rest)
    (hm : c.atDocumentMark = false) (hcol : (indent + 1).toNat ≤ c.column + 1) :
    ∃ (n : Nat) (tail : List Char), rest = List.replicate n ' ' ++ tail ∧
      plainScalar false (indent + 1).toNat c
        = .ok (t, true, ((c.skip t.length).nextLine rest).skip n) := by
  cases t with
  | nil => simp [startsPlain] at hs
  | cons d t =>
    obtain ⟨h1, -, h2, h3⟩ := isContent_iff.1 (startsPlain_isContent hs)
    obtain ⟨m, fuel, text, word, f, h4, h5, h6, h7, h8, h9, h10, h11, h12, h13⟩ :=
      plainOnto_words (d :: t).length (d :: t) [] {} c (c.rest.length + 1) (Nat.le_refl _)
        (by rw [hc, List.length_append]; omega) (by simp) (by simpa using h1) (by simpa using h3) hr hm hcol hc
    -- the next line ends the scalar by its column, or there is none
    have line : ∀ (n : Nat) (tail : List Char), rest = List.replicate n ' ' ++ tail →
        tail.head?.any isGapOrBreak = false → n < (indent + 1).toNat ∨ n = 0 ∧ tail = [] →
        plainScalar false (indent + 1).toNat c
          = .ok (d :: t, true, ((c.skip (d :: t).length).nextLine rest).skip n) := by
      intro n tail he hg hn
      rw [he] at h8 ⊢
      rw [plainScalar, h5, plainOnto_feed h9 h8 h10 h11 h12 h13 hg hn h4, h6, Cursor.skip_skip, h7]
      rfl
    rcases hrest.first with rfl | ⟨n, e, tail, hn, he, rfl⟩
    · exact ⟨0, [], rfl, line 0 [] rfl rfl (Or.inr ⟨rfl, rfl⟩)⟩
    · exact ⟨n, e :: tail, rfl, line n (e :: tail) rfl (by simpa using he) (Or.inl (by omega))⟩

end Scalar

/-! ## Marks of documents -/

/-- Whether a text at the beginning of a line is taken for a mark of a document. -/
def marksDocument : List Char → Bool
  | '-' :: '-' :: '-' :: rest | '.' :: '.' :: '.' :: rest => atGap rest
  | _ => false

theorem marksDocument_iff {t : List Char} : marksDocument t = true ↔
    ∃ mark rest, (mark = '-' ∨ mark = '.') ∧ t = mark :: mark :: mark :: rest ∧ atGap rest = true := by
  constructor
  · intro h
    unfold marksDocument at h
    split at h
    · next rest => exact ⟨'-', rest, Or.inl rfl, rfl, h⟩
    · next rest => exact ⟨'.', rest, Or.inr rfl, rfl, h⟩
    · exact absurd h (by simp)
  · rintro ⟨mark, rest, rfl | rfl, rfl, h⟩
    · exact h
    · exact h

theorem marksDocument_of_head {t : List Char} (hdash : t.head? ≠ some '-') (hdot : t.head? ≠ some '.') :
    marksDocument t = false := by
  rw [Bool.eq_false_iff, ne_eq, marksDocument_iff]
  rintro ⟨mark, rest, rfl | rfl, rfl, -⟩
  · exact hdash rfl
  · exact hdot rfl

/-- What stands behind a scalar makes no mark out of it. -/
theorem marksDocument_append {t rest : List Char} {d : Char} (hdash : d ≠ '-') (hdot : d ≠ '.')
    (h : marksDocument t = false) : marksDocument (t ++ d :: rest) = false := by
  rw [Bool.eq_false_iff, ne_eq, marksDocument_iff] at h ⊢
  rintro ⟨mark, after, hmark, e, hgap⟩
  have hd : d ≠ mark := by
    rintro rfl
    exact hmark.elim hdash hdot
  -- the other character is none of the first three, so these belong to the text
  match t, h, e with
  | [], _, e => exact hd (List.cons.inj e).1
  | [_], _, e => simp [hd] at e
  | [_, _], _, e => simp [hd] at e
  | [_, _, _], h, e =>
    obtain ⟨rfl, rfl, rfl, -⟩ := by simpa using e
    exact h ⟨_, [], hmark, rfl, rfl⟩
  | _ :: _ :: _ :: c :: t, h, e =>
    obtain ⟨rfl, rfl, rfl, rfl⟩ := by simpa using e
    exact h ⟨_, c :: t, hmark, rfl, hgap⟩

theorem atDocumentMark_eq (c : Cursor) : c.atDocumentMark = (c.column == 0 && marksDocument c.rest) := rfl

/-! ## Spellings -/

/-- A scalar as it is written: as it is, or between double quotes. -/
inductive Spelling where
  | plain (text : List Char)
  | quoted (text : List Char)
deriving DecidableEq, Repr

namespace Spelling

/-- The characters of a scalar. -/
def chars : Spelling → List Char
  | plain text => text
  | quoted text => doubleQuoted text

/-- The token that is read from it. -/
def token : Spelling → Token
  | plain text => .scalar .plain (String.ofList text)
  | quoted text => .scalar .quoted (String.ofList text)

/-- Whether a spelling is read as one scalar. -/
def Readable : Spelling → Prop
  | plain text => startsPlain text = true ∧ runsOn text = true ∧ ∀ c ∈ text, isAllowed c = true
  | quoted text => ∀ c ∈ text, isQuotable c = true

/-- Whether a spelling is read as a key: it is short enough. -/
def ReadableKey (s : Spelling) : Prop := s.Readable ∧ s.chars.length ≤ maxKeyLength

/-- A readable spelling begins with a character at which a token begins. -/
theorem exists_content {s : Spelling} (h : s.Readable) :
    ∃ c rest, s.chars = c :: rest ∧ isContent c = true := by
  cases s with
  | plain text =>
    cases text with
    | nil => simp [Readable, startsPlain] at h
    | cons c rest => exact ⟨c, rest, rfl, startsPlain_isContent h.1⟩
  | quoted text => exact ⟨'"', _, rfl, rfl⟩

theorem isAllowed_escaped {c : Char} (h : isControl c = true ∨ isAllowed c = true) :
    ∀ d ∈ escaped c, isAllowed d = true := by
  have digit : ∀ k < 16, isAllowed (upperAscii (digitChar k)) = true := by decide +kernel
  have pair : ∀ e, isAllowed e = true → ∀ d ∈ ['\\', e], isAllowed d = true := by
    intro e he
    simp only [List.mem_cons, List.not_mem_nil, or_false, forall_eq_or_imp, forall_eq]
    exact ⟨rfl, he⟩
  intro d hd
  unfold escaped at hd
  split at hd
  · exact pair _ rfl d hd
  split at hd
  · exact pair _ rfl d hd
  split at hd
  · exact pair _ rfl d hd
  split at hd
  · exact pair _ rfl d hd
  split at hd
  · exact pair _ rfl d hd
  split at hd
  · simp only [List.mem_cons, List.mem_map] at hd
    rcases hd with rfl | rfl | ⟨e, he, rfl⟩
    · rfl
    · rfl
    · obtain ⟨k, hk, rfl⟩ := mem_hexadecimal he
      exact digit k hk
  · next hc =>
    rw [List.mem_singleton.1 hd]
    exact h.resolve_left hc

theorem chars_allowed {s : Spelling} (h : s.Readable) : ∀ c ∈ s.chars, isAllowed c = true := by
  cases s with
  | plain text => exact h.2.2
  | quoted text =>
    intro c hc
    simp only [chars, doubleQuoted, List.cons_append, List.mem_cons, List.mem_append,
      List.mem_flatMap, List.not_mem_nil, or_false] at hc
    rcases hc with rfl | ⟨d, hd, hc⟩ | rfl
    · rfl
    · exact isAllowed_escaped (writable_of_isQuotable (h d hd)) c hc
    · rfl

end Spelling

end RoleChart.Yaml
