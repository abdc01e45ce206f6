import RoleChart.Yaml.Token.Stream

/-!
# Gaps between tokens

How a reader moves over spaces, comments and line breaks: between tokens (`between`), and inside a
plain scalar, where a gap is folded (`fold_spaces`, `fold_break`).

## Main statements

* `between_shallow` — in front of text that is indented no further than a column, reading goes on at
  that column or left of it, or the text is over
-/

namespace RoleChart.Yaml

open Text

/-- Whether a token begins at the character: it is no space, no tab, no break and no comment mark. -/
def isContent (d : Char) : Bool := !isGapOrBreak d && d != '#'

theorem isContent_iff {d : Char} :
    isContent d = true ↔ d ≠ ' ' ∧ d ≠ '\t' ∧ isBreak d = false ∧ d ≠ '#' := by
  simp only [isContent, isGapOrBreak, isGap, Bool.and_eq_true, Bool.not_eq_true',
    Bool.or_eq_false_iff, beq_eq_false_iff_ne, bne_iff_ne, ne_eq, and_assoc]

namespace Cursor

/-! ## Moving on a line -/

@[simp] theorem skip_rest (c : Cursor) (n : Nat) : (c.skip n).rest = c.rest.drop n := rfl

@[simp] theorem skip_column (c : Cursor) (n : Nat) : (c.skip n).column = c.column + n := rfl

@[simp] theorem skip_line (c : Cursor) (n : Nat) : (c.skip n).line = c.line := rfl

@[simp] theorem skip_index (c : Cursor) (n : Nat) : (c.skip n).index = c.index + n := rfl

theorem skip_skip (c : Cursor) (m n : Nat) : (c.skip m).skip n = c.skip (m + n) := by
  simp [skip, List.drop_drop, Nat.add_assoc]

@[simp] theorem skip_zero (c : Cursor) : c.skip 0 = c := rfl

/-- Moving to the end of a beginning is skipping as many characters as it has. -/
theorem skipTo_append {c : Cursor} {word rest : List Char} (h : c.rest = word ++ rest) :
    c.skipTo rest = c.skip word.length := by
  simp [skipTo, skip, h]

theorem skipWhile_append {c : Cursor} {p : Char → Bool} (word rest : List Char)
    (h : c.rest = word ++ rest) (hw : ∀ d ∈ word, p d = true) (hr : rest.head?.any p = false) :
    c.skipWhile p = c.skip word.length := by
  have hd : c.rest.dropWhile p = rest := by
    rw [h, List.dropWhile_append_of_pos hw]
    cases rest with
    | nil => rfl
    | cons d rest => rw [List.dropWhile_cons_of_neg (by simpa using hr)]
  rw [skipWhile, hd, skipTo_append h]

theorem skipWhile_eq_self {c : Cursor} {p : Char → Bool} (h : c.rest.head?.any p = false) :
    c.skipWhile p = c := by
  rw [skipWhile_append [] _ rfl (by simp) h]
  rfl

/-- The place behind a line feed. -/
def nextLine (c : Cursor) (rest : List Char) : Cursor := ⟨rest, c.index + 1, c.line + 1, 0⟩

theorem skipLine_feed {c : Cursor} {rest : List Char} (h : c.rest = '\n' :: rest) :
    c.skipLine = c.nextLine rest := by
  obtain ⟨r, i, l, k⟩ := c
  simp only at h
  subst h
  rfl

/-! ## Folding -/

theorem foldOnto_spaces (column : Nat) :
    ∀ (n : Nat) (spaces : List Char) (c : Cursor) (rest : List Char) (fuel : Nat),
    c.rest = List.replicate n ' ' ++ rest → n ≤ fuel →
    foldOnto column { spaces := spaces } c fuel
      = foldOnto column { spaces := spaces ++ List.replicate n ' ' } (c.skip n) (fuel - n) := by
  intro n
  induction n with
  | zero => intro spaces c rest fuel _ _; simp
  | succ n ih =>
    intro spaces c rest fuel h hn
    obtain ⟨fuel, rfl⟩ : ∃ m, fuel = m + 1 := ⟨fuel - 1, by omega⟩
    rw [List.replicate_succ, List.cons_append] at h
    rw [foldOnto, h]
    simp only [show isGap ' ' = true from rfl, Bool.false_and, if_true, Bool.false_eq_true,
      if_false]
    rw [ih (spaces ++ [' ']) (c.skip 1) rest fuel (by simp [h]) (by omega)]
    simp [skip_skip, Nat.add_comm 1 n, List.replicate_succ]

/-- Behind a break the spaces at the beginning of a line are not kept. -/
theorem foldOnto_indentation (column : Nat) (f : Fold) (hf : f.broken = true) :
    ∀ (n : Nat) (c : Cursor) (rest : List Char) (fuel : Nat),
    c.rest = List.replicate n ' ' ++ rest → n ≤ fuel →
    foldOnto column f c fuel = foldOnto column f (c.skip n) (fuel - n) := by
  intro n
  induction n with
  | zero => intro c rest fuel _ _; simp
  | succ n ih =>
    intro c rest fuel h hn
    obtain ⟨fuel, rfl⟩ : ∃ m, fuel = m + 1 := ⟨fuel - 1, by omega⟩
    rw [List.replicate_succ, List.cons_append] at h
    rw [foldOnto, h]
    simp only [show isGap ' ' = true from rfl, hf, if_true, Bool.true_and,
      show (' ' == '\t') = false from rfl, Bool.false_and, Bool.false_eq_true, if_false]
    rw [ih (c.skip 1) rest fuel (by simp [h]) (by omega)]
    simp [skip_skip, Nat.add_comm 1 n]

/-- Folding ends in front of a character that is no gap and no break. -/
theorem foldOnto_content {column : Nat} {f : Fold} {c : Cursor} (fuel : Nat)
    (h : c.rest.head?.any isGapOrBreak = false) : foldOnto column f c fuel = .ok (f, c) := by
  cases fuel with
  | zero => rfl
  | succ fuel =>
    rw [foldOnto]
    cases hc : c.rest with
    | nil => rfl
    | cons d rest =>
      simp only [hc, List.head?_cons, Option.any_some, isGapOrBreak, Bool.or_eq_false_iff] at h
      simp [h.1, h.2]

theorem fold_spaces {c : Cursor} {n column : Nat} {rest : List Char}
    (h : c.rest = List.replicate n ' ' ++ rest) (hr : rest.head?.any isGapOrBreak = false) :
    c.fold column {} = .ok ({ spaces := List.replicate n ' ' }, c.skip n) := by
  have hn : n ≤ c.rest.length := by simp [h]
  rw [fold, foldOnto_spaces column n [] c rest c.rest.length h hn,
    foldOnto_content _ (by simpa [h] using hr)]
  simp

theorem fold_break {c : Cursor} {n column : Nat} {rest : List Char}
    (h : c.rest = '\n' :: (List.replicate n ' ' ++ rest))
    (hr : rest.head?.any isGapOrBreak = false) :
    c.fold column {} = .ok ({ first := ['\n'], broken := true },
      (c.nextLine (List.replicate n ' ' ++ rest)).skip n) := by
  have ht : c.breakText = ['\n'] := by
    rw [breakText, h]
    rfl
  have hl : c.rest.length = n + rest.length + 1 := by simp [h]
  rw [fold, hl, foldOnto, h]
  simp only [show isGap '\n' = false from rfl, show isBreak '\n' = true from rfl, if_true,
    Bool.false_eq_true, if_false, ht, skipLine_feed h]
  rw [foldOnto_indentation column _ rfl n _ rest _ rfl (by omega),
    foldOnto_content _ (by simpa [nextLine] using hr)]

/-! ## Moving to the next token -/

/-- The place of the next token, and whether a key may begin there. -/
def between (c : Cursor) (keyAllowed : Bool) : Cursor × Bool :=
  Stream.skipBetween c false keyAllowed (c.rest.length + 1)

end Cursor

namespace Stream

theorem length_skipWhile_le (c : Cursor) (p : Char → Bool) :
    (c.skipWhile p).rest.length ≤ c.rest.length := by
  simpa [Cursor.skipWhile, Cursor.skipTo] using (List.dropWhile_sublist p (l := c.rest)).length_le

theorem length_skipLine_lt {c : Cursor} (h : c.rest.head?.any isBreak = true) :
    c.skipLine.rest.length < c.rest.length := by
  unfold Cursor.skipLine
  split
  · next hc => simp only [hc, List.length_cons]; omega
  · next b rest _ hc =>
    rw [hc] at h
    rw [if_pos (by simpa using h)]
    simp [hc]
  · next hc => simp [hc] at h

/-- More fuel than characters changes nothing. -/
theorem skipBetween_fuel (flow : Bool) : ∀ (m n : Nat) (c : Cursor) (k : Bool),
    c.rest.length < m → c.rest.length < n →
    skipBetween c flow k m = skipBetween c flow k n := by
  intro m
  induction m with
  | zero => intro n c k hm _; omega
  | succ m ih =>
    intro n c k hm hn
    obtain ⟨n, rfl⟩ : ∃ i, n = i + 1 := ⟨n - 1, by omega⟩
    -- both sides pass over the same spaces and comment, and recur on less behind a line break
    rw [skipBetween, skipBetween]
    generalize hd : c.skipWhile (fun d => d == ' ' || ((flow || !k) && d == '\t')) = d
    have h1 : d.rest.length ≤ c.rest.length := hd ▸ length_skipWhile_le c _
    generalize he : (if d.rest.head? == some '#' then d.skipWhile fun x => !isBreak x else d) = e
    have h2 : e.rest.length ≤ d.rest.length := by
      rw [← he]
      split
      · exact length_skipWhile_le d _
      · exact Nat.le_refl _
    by_cases hb : e.rest.head?.any isBreak = true
    · have h3 := length_skipLine_lt hb
      rw [if_pos hb, if_pos hb]
      exact ih n e.skipLine _ (by omega) (by omega)
    · rw [if_neg hb, if_neg hb]

end Stream

namespace Cursor

theorem skipBetween_content {c : Cursor} {d : Char} {rest : List Char} (h : c.rest = d :: rest)
    (hd : isContent d = true) (flow k : Bool) (fuel : Nat) :
    Stream.skipBetween c flow k (fuel + 1) = (c, k) := by
  obtain ⟨h1, h2, h3, h4⟩ := isContent_iff.1 hd
  rw [Stream.skipBetween, skipWhile_eq_self (by simp [h, h1, h2])]
  simp [h, h4, h3]

theorem between_content {c : Cursor} {d : Char} {rest : List Char} (h : c.rest = d :: rest)
    (hd : isContent d = true) (k : Bool) : c.between k = (c, k) :=
  skipBetween_content h hd false k _

theorem between_end {c : Cursor} (h : c.rest = []) (k : Bool) : c.between k = (c, k) := by
  rw [between, Stream.skipBetween, skipWhile_eq_self (by simp [h])]
  simp [h]

theorem between_spaces {c : Cursor} {n : Nat} {rest : List Char}
    (h : c.rest = List.replicate n ' ' ++ rest) (k : Bool) :
    c.between k = (c.skip n).between k := by
  -- one space at a time: the fuel differs by one, which `skipBetween_fuel` evens out
  have step : ∀ (c : Cursor) (rest : List Char), c.rest = ' ' :: rest →
      c.between k = (c.skip 1).between k := by
    intro c rest h
    have hw : c.skipWhile (fun d => d == ' ' || ((false || !k) && d == '\t'))
        = (c.skip 1).skipWhile (fun d => d == ' ' || ((false || !k) && d == '\t')) := by
      have hl := (List.dropWhile_sublist
        (fun d => d == ' ' || ((false || !k) && d == '\t')) (l := rest)).length_le
      simp only [skipWhile, skipTo, h, skip, List.drop_succ_cons, List.drop_zero,
        List.dropWhile_cons, beq_self_eq_true, Bool.true_or, if_true, List.length_cons,
        Cursor.mk.injEq, true_and]
      omega
    rw [between, between, Stream.skipBetween_fuel false _ (c.rest.length + 1) (c.skip 1) k (by simp)
      (by rw [skip_rest, List.length_drop]; omega), Stream.skipBetween,
      Stream.skipBetween, hw]
  induction n generalizing c with
  | zero => rfl
  | succ n ih =>
    rw [List.replicate_succ, List.cons_append] at h
    rw [step c _ h, ih (c := c.skip 1) (by simp [h]), skip_skip, Nat.add_comm 1 n]

theorem between_feed {c : Cursor} {rest : List Char} (h : c.rest = '\n' :: rest) (k : Bool) :
    c.between k = (c.nextLine rest).between true := by
  rw [between, Stream.skipBetween, skipWhile_eq_self (by simp [h])]
  simp only [h, List.head?_cons, show (some '\n' == some '#') = false from rfl, Bool.false_eq_true,
    if_false, Option.any_some, show isBreak '\n' = true from rfl, if_true, skipLine_feed h,
    Bool.not_false, Bool.or_true]
  exact Stream.skipBetween_fuel false _ _ _ true (by simp [nextLine]) (by simp)

/-- A comment is passed over with its line. -/
theorem between_remark {c : Cursor} {text rest : List Char} (h : c.rest = '#' :: text ++ '\n' :: rest)
    (ht : ∀ d ∈ text, isBreak d = false) (k : Bool) :
    c.between k = ((c.skip (text.length + 1)).nextLine rest).between true := by
  have hs : (c.skip (text.length + 1)).rest = '\n' :: rest := by simp [h]
  rw [between, Stream.skipBetween, skipWhile_eq_self (by simp [h])]
  simp only [h, List.cons_append, List.head?_cons, beq_self_eq_true, if_true]
  rw [skipWhile_append ('#' :: text) ('\n' :: rest) h
    (by simpa [show isBreak '#' = false from rfl] using ht) rfl]
  simp only [List.length_cons, hs, List.head?_cons, Option.any_some,
    show isBreak '\n' = true from rfl, if_true, skipLine_feed hs, Bool.not_false, Bool.or_true]
  exact Stream.skipBetween_fuel false _ _ _ true (by simp [nextLine]; omega) (by simp)

end Cursor

/-! ## What is left of a column -/

/-- The text begins a line, and its next token, below any comments, stands at the column or left of
it, or there is none. -/
inductive Shallow (column : Int) : List Char → Prop
  | nothing : Shallow column []
  | token {k : Nat} {d : Char} {rest : List Char} :
    (k : Int) ≤ column → isContent d = true → Shallow column (List.replicate k ' ' ++ d :: rest)
  | remark {k : Nat} {text rest : List Char} :
    (k : Int) ≤ column → (∀ d ∈ text, isBreak d = false) → Shallow column rest →
      Shallow column (List.replicate k ' ' ++ ('#' :: text ++ '\n' :: rest))

theorem Shallow.mono {a b : Int} (hab : a ≤ b) {s : List Char} (h : Shallow a s) : Shallow b s := by
  induction h with
  | nothing => exact .nothing
  | token hk hd => exact .token (Int.le_trans hk hab) hd
  | remark hk ht _ ih => exact .remark (Int.le_trans hk hab) ht ih

/-- The first line of a shallow text is itself indented no further than the column. -/
theorem Shallow.first {column : Int} {s : List Char} (h : Shallow column s) :
    s = [] ∨ ∃ (k : Nat) (d : Char) (rest : List Char), (k : Int) ≤ column ∧
      isGapOrBreak d = false ∧ s = List.replicate k ' ' ++ d :: rest := by
  cases h with
  | nothing => exact Or.inl rfl
  | @token k d rest hk hd =>
    refine Or.inr ⟨k, d, rest, hk, ?_, rfl⟩
    simp only [isContent, Bool.and_eq_true, Bool.not_eq_true'] at hd
    exact hd.1
  | @remark k text rest hk _ _ => exact Or.inr ⟨k, '#', text ++ '\n' :: rest, hk, rfl, rfl⟩

theorem Cursor.between_shallow {column : Int} {s : List Char} (h : Shallow column s) {c : Cursor}
    (hc : c.rest = s) (h0 : c.column = 0) :
    ∃ c', c.between true = (c', true) ∧ c'.between true = (c', true) ∧ c.line ≤ c'.line ∧
      (c'.rest = [] ∧ c'.column = 0 ∨
        ∃ d rest, c'.rest = d :: rest ∧ isContent d = true ∧ (c'.column : Int) ≤ column) := by
  induction h generalizing c with
  | nothing =>
    have hb := between_end hc true
    exact ⟨c, hb, hb, Nat.le_refl _, Or.inl ⟨hc, h0⟩⟩
  | @token k d rest hk hd =>
    have hr : (c.skip k).rest = d :: rest := by simp [hc]
    have hb := between_content hr hd true
    refine ⟨c.skip k, (between_spaces hc true).trans hb, hb, Nat.le_refl _,
      Or.inr ⟨d, rest, hr, hd, ?_⟩⟩
    simpa [h0] using hk
  | @remark k text rest hk ht _ ih =>
    have hr : (c.skip k).rest = '#' :: text ++ '\n' :: rest := by simp [hc]
    obtain ⟨c', h1, h2, h3, h4⟩ := ih (c := ((c.skip k).skip (text.length + 1)).nextLine rest) rfl rfl
    refine ⟨c', ?_, h2, ?_, h4⟩
    · rw [between_spaces hc, between_remark hr ht, h1]
    · simp only [nextLine, skip_line] at h3
      omega

end RoleChart.Yaml
