import RoleChart.Proofs.Yaml.Spelling

/-!
# Separators in scalars

The separators of lines and of paragraphs break lines, and a reader keeps them in a scalar. It does not
keep the spaces beside them. A plain scalar either ends at a separator or goes on behind spaces that are
lost. Between double quotes a text goes on in any case, and then what follows a separator directly stands
at the beginning of a line, where three dashes or points are a mark of a document.

## Main statements

* `quotedScalar_folded` — between double quotes a text is read as what folding leaves of it
* `quotedScalar_unclosed` — unless a separator stands in front of a mark
* `folded_eq_self_iff` — folding leaves all of a text if its spaces stand apart from the separators
* `length_plainScalar_lt` — of a plain text with a separator something is lost
-/

namespace RoleChart.Yaml

open Text RoleChart.Document

/-! ## Gaps with separators -/

/-- The separators of lines and of paragraphs. -/
def isSeparator (c : Char) : Bool := c.toNat == 0x2028 || c.toNat == 0x2029

/-- The characters of a gap inside a text. -/
def isFolded (c : Char) : Bool := c == ' ' || isSeparator c

theorem isFolded_iff {c : Char} : isFolded c = true ↔ c = ' ' ∨ isSeparator c = true := by
  rw [isFolded, Bool.or_eq_true, beq_iff_eq]

/-- What is left of a gap: beside a separator spaces are lost. -/
def squeezed (gap : List Char) : List Char :=
  if gap.any isSeparator then gap.filter (· != ' ') else gap

section Separator

variable {c : Char}

theorem eq_of_isSeparator (h : isSeparator c = true) : c = '\u2028' ∨ c = '\u2029' := by
  have hc : Char.ofNat c.toNat = c := Char.ofNat_toNat c
  simp only [isSeparator, Bool.or_eq_true, beq_iff_eq] at h
  rcases h with h | h
  · exact Or.inl (hc.symm.trans (by rw [h]))
  · exact Or.inr (hc.symm.trans (by rw [h]))

/-- Of the characters that break lines only the separators are no control characters. -/
theorem isSeparator_of_isBreak (hb : isBreak c = true) (hctl : isControl c = false) :
    isSeparator c = true := by
  simp only [isBreak, isControl, isSeparator, Bool.or_eq_true, beq_iff_eq, Bool.or_eq_false_iff,
    decide_eq_false_iff_not, Bool.and_eq_false_imp, decide_eq_true_eq] at hb hctl ⊢
  omega

theorem isFolded_of_isGapOrBreak (h : isGapOrBreak c = true) (hctl : isControl c = false) :
    isFolded c = true := by
  simp only [isGapOrBreak, isGap, Bool.or_eq_true, beq_iff_eq] at h
  rw [isFolded_iff]
  rcases h with (h | rfl) | h
  · exact Or.inl h
  · exact absurd hctl (by decide)
  · exact Or.inr (isSeparator_of_isBreak h hctl)

/-- A gap inside a text is made of three characters. -/
theorem eq_of_isFolded (h : isFolded c = true) : c = ' ' ∨ c = '\u2028' ∨ c = '\u2029' :=
  (isFolded_iff.1 h).imp_right eq_of_isSeparator

theorem isGapOrBreak_of_isFolded (h : isFolded c = true) : isGapOrBreak c = true := by
  rcases eq_of_isFolded h with rfl | rfl | rfl <;> rfl

theorem escaped_of_isFolded (h : isFolded c = true) : escaped c = [c] := by
  rcases eq_of_isFolded h with rfl | rfl | rfl <;> rfl

theorem flatMap_escaped_gap {gap : List Char} (h : ∀ d ∈ gap, isFolded d = true) :
    gap.flatMap escaped = gap := by
  induction gap with
  | nil => rfl
  | cons d gap ih =>
    rw [List.flatMap_cons, escaped_of_isFolded (h d List.mem_cons_self),
      ih fun e he => h e (List.mem_cons_of_mem d he)]
    rfl

end Separator

/-- A gap is spaces alone, or spaces up to a first separator and what follows it. -/
theorem gap_cases {gap : List Char} (h : ∀ d ∈ gap, isFolded d = true) :
    ∃ n, gap = List.replicate n ' ' ∨
      ∃ b gap', isSeparator b = true ∧ gap = List.replicate n ' ' ++ b :: gap' := by
  induction gap with
  | nil => exact ⟨0, Or.inl rfl⟩
  | cons d gap ih =>
    obtain ⟨n, hn⟩ := ih fun e he => h e (List.mem_cons_of_mem d he)
    have hd : d = ' ' ∨ isSeparator d = true := isFolded_iff.1 (h d List.mem_cons_self)
    rcases hd with rfl | hd
    · refine ⟨n + 1, ?_⟩
      rcases hn with rfl | ⟨b, gap', hb, rfl⟩
      · exact Or.inl rfl
      · exact Or.inr ⟨b, gap', hb, rfl⟩
    · exact ⟨0, Or.inr ⟨d, gap, hd, rfl⟩⟩

theorem squeezed_spaces (n : Nat) : squeezed (List.replicate n ' ') = List.replicate n ' ' := by
  have h : (List.replicate n ' ').any isSeparator = false := by
    rw [List.any_eq_false]
    intro d hd
    rw [List.eq_of_mem_replicate hd]
    decide
  rw [squeezed, h]
  rfl

theorem squeezed_separator {b : Char} (hb : isSeparator b = true) (n : Nat) (gap : List Char) :
    squeezed (List.replicate n ' ' ++ b :: gap) = b :: gap.filter (· != ' ') := by
  have hany : (List.replicate n ' ' ++ b :: gap).any isSeparator = true :=
    List.any_eq_true.2 ⟨b, by simp, hb⟩
  have hspace : b ≠ ' ' := by
    rintro rfl
    exact absurd hb (by decide)
  rw [squeezed, hany, if_pos rfl]
  simp [hspace]

theorem length_squeezed_le (gap : List Char) : (squeezed gap).length ≤ gap.length := by
  unfold squeezed
  split
  · exact List.length_filter_le _ gap
  · exact Nat.le_refl _

namespace Cursor

/-! ## Folding over separators -/

/-- A line feed or a separator. -/
def Breaks (b : Char) : Prop := b = '\n' ∨ isSeparator b = true

/-- A gap inside a text is made of spaces and of what breaks a line. -/
theorem breaks_of_isFolded {d : Char} (h : isFolded d = true) : d = ' ' ∨ Breaks d :=
  (isFolded_iff.1 h).imp_right Or.inr

theorem Breaks.cases {b : Char} (h : Breaks b) : b = '\n' ∨ b = '\u2028' ∨ b = '\u2029' :=
  h.imp_right eq_of_isSeparator

theorem skipLine_breaks {c : Cursor} {b : Char} {rest : List Char} (hb : Breaks b)
    (h : c.rest = b :: rest) : c.skipLine = c.nextLine rest := by
  obtain ⟨r, i, l, k⟩ := c
  simp only at h
  subst h
  rcases hb.cases with rfl | rfl | rfl <;> rfl

theorem breakText_breaks {c : Cursor} {b : Char} {rest : List Char} (hb : Breaks b)
    (h : c.rest = b :: rest) : c.breakText = [b] := by
  rw [breakText, h]
  rcases hb.cases with rfl | rfl | rfl <;> rfl

/-- Behind the first break the breaks are kept and the spaces are not. The place that is reached is the
beginning of a line if no space stands in front of it. -/
theorem foldOnto_lines (column : Nat) : ∀ (gap : List Char) (f : Fold) (c : Cursor) (rest : List Char)
    (fuel : Nat), f.broken = true → c.rest = gap ++ rest → (∀ d ∈ gap, d = ' ' ∨ Breaks d) →
    gap.length ≤ fuel → rest.head?.any isGapOrBreak = false →
    ∃ c' : Cursor, foldOnto column f c fuel = .ok ({ f with further := f.further ++ gap.filter (· != ' ') }, c')
      ∧ c'.rest = rest ∧ c.index ≤ c'.index
      ∧ (c'.column = 0 ↔ gap.getLast?.elim (c.column = 0) (· ≠ ' ')) := by
  intro gap
  induction gap with
  | nil =>
    intro f c rest fuel hf hc _ _ hr
    refine ⟨c, ?_, by simpa using hc, Nat.le_refl _, Iff.rfl⟩
    rw [foldOnto_content fuel (by simpa [hc] using hr)]
    simp
  | cons d gap ih =>
    intro f c rest fuel hf hc hgap hfuel hr
    obtain ⟨fuel, rfl⟩ : ∃ m, fuel = m + 1 := ⟨fuel - 1, by simp at hfuel; omega⟩
    have hd := hgap d List.mem_cons_self
    have hgap' : ∀ e ∈ gap, e = ' ' ∨ Breaks e := fun e he => hgap e (List.mem_cons_of_mem d he)
    have hfuel' : gap.length ≤ fuel := by simpa using hfuel
    rw [List.cons_append] at hc
    rcases hd with rfl | hd
    · -- a space behind a break is dropped
      obtain ⟨c', h1, h2, h3, h4⟩ := ih f (c.skip 1) rest fuel hf (by simp [hc]) hgap' hfuel' hr
      refine ⟨c', ?_, h2, by simp at h3; omega, ?_⟩
      · rw [foldOnto, hc]
        simpa [isGap, hf] using h1
      · rw [h4, List.getLast?_cons]
        cases gap.getLast? <;> simp
    · -- a further break is kept, and the next line begins
      obtain ⟨hgap, hbreak, hne⟩ : isGap d = false ∧ isBreak d = true ∧ d ≠ ' ' := by
        rcases hd.cases with rfl | rfl | rfl <;> exact ⟨rfl, rfl, by decide⟩
      obtain ⟨c', h1, h2, h3, h4⟩ := ih { f with further := f.further ++ [d] } (c.nextLine (gap ++ rest))
        rest fuel hf rfl hgap' hfuel' hr
      refine ⟨c', ?_, h2, by simp [nextLine] at h3; omega, ?_⟩
      · rw [foldOnto, hc]
        simpa [hgap, hbreak, hf, hne, breakText_breaks hd hc, skipLine_breaks hd hc] using h1
      · rw [h4, List.getLast?_cons]
        cases gap.getLast? <;> simp [hne, nextLine]

/-- Folding over a first break: the spaces in front of it are lost as well. -/
theorem fold_lines (column : Nat) {c : Cursor} {n : Nat} {b : Char} {gap rest : List Char}
    (h : c.rest = List.replicate n ' ' ++ b :: (gap ++ rest)) (hb : Breaks b)
    (hgap : ∀ d ∈ gap, d = ' ' ∨ Breaks d) (hr : rest.head?.any isGapOrBreak = false) :
    ∃ c' : Cursor, c.fold column {}
        = .ok ({ first := [b], further := gap.filter (· != ' '), broken := true }, c')
      ∧ c'.rest = rest ∧ c.index < c'.index ∧ (c'.column = 0 ↔ gap.getLast? ≠ some ' ') := by
  have hkind : isGap b = false ∧ isBreak b = true := by
    rcases hb.cases with rfl | rfl | rfl <;> exact ⟨rfl, rfl⟩
  have hs : (c.skip n).rest = b :: (gap ++ rest) := by simp [h]
  obtain ⟨c', h1, h2, h3, h4⟩ := foldOnto_lines column gap { first := [b], broken := true }
    ((c.skip n).nextLine (gap ++ rest)) rest (gap.length + rest.length) rfl rfl hgap (by omega) hr
  refine ⟨c', ?_, h2, ?_, ?_⟩
  · have hl : c.rest.length - n = gap.length + rest.length + 1 := by simp [h]
    rw [fold, foldOnto_spaces column n [] c _ _ h (by simp [h]), hl, foldOnto, hs]
    simpa [hkind, breakText_breaks hb hs, skipLine_breaks hb hs] using h1
  · simp only [nextLine, skip_index] at h3
    omega
  · rw [h4]
    cases gap.getLast? <;> simp [nextLine]

end Cursor

/-! ## What folding leaves of a text -/

/-- The text with every gap squeezed. -/
def folded : List Char → List Char
  | [] => []
  | c :: rest =>
    if isFolded c then squeezed (c :: rest.takeWhile isFolded) ++ folded (rest.dropWhile isFolded)
    else c :: folded rest
termination_by t => t.length
decreasing_by
  · have := (List.dropWhile_sublist isFolded (l := rest)).length_le
    simp only [List.length_cons]
    omega
  · simp

/-- Whether no space stands beside a separator. -/
def spacesApart : List Char → Bool
  | c :: d :: rest => !(c == ' ' && isSeparator d) && !(isSeparator c && d == ' ') && spacesApart (d :: rest)
  | _ => true

/-- Whether a mark of a document begins here: three dashes or three points, and a gap behind them. -/
def beginsMark : List Char → Bool
  | '-' :: '-' :: '-' :: d :: _ | '.' :: '.' :: '.' :: d :: _ => isFolded d
  | _ => false

/-- Whether a separator stands in front of a mark. -/
def hidesMark : List Char → Bool
  | [] => false
  | c :: rest => (isSeparator c && beginsMark rest) || hidesMark rest

/-- A text begins with a word and the gap behind it; without a gap there is only the word. -/
theorem exists_word_folded (t : List Char) :
    ∃ word gap t' : List Char, t = word ++ (gap ++ t') ∧ (∀ c ∈ word, isFolded c = false) ∧
      (∀ c ∈ gap, isFolded c = true) ∧ t'.head?.any isFolded = false ∧ (gap = [] → t' = []) := by
  induction t with
  | nil => exact ⟨[], [], [], rfl, nofun, nofun, rfl, fun _ => rfl⟩
  | cons c t ih =>
    obtain ⟨word, gap, t', rfl, hw, hg, ht, hn⟩ := ih
    by_cases hc : isFolded c = true
    · cases word with
      | nil => exact ⟨[], c :: gap, t', rfl, nofun, List.forall_mem_cons.2 ⟨hc, hg⟩, ht, by simp⟩
      | cons d word =>
        exact ⟨[], [c], d :: word ++ (gap ++ t'), rfl, nofun, by simpa using hc,
          by simpa using hw d List.mem_cons_self, by simp⟩
    · exact ⟨c :: word, gap, t', rfl, List.forall_mem_cons.2 ⟨by simpa using hc, hw⟩, hg, ht, hn⟩

/-- The gap at the beginning of a text. -/
theorem exists_gap (t : List Char) : ∃ gap t' : List Char, t = gap ++ t' ∧
    (∀ c ∈ gap, isFolded c = true) ∧ t'.head?.any isFolded = false := by
  refine ⟨t.takeWhile isFolded, t.dropWhile isFolded, List.takeWhile_append_dropWhile.symm, ?_, ?_⟩
  · exact List.all_eq_true.1 List.all_takeWhile
  · have h := List.head?_dropWhile_not isFolded t
    cases hd : (t.dropWhile isFolded).head? with
    | none => rfl
    | some d => simpa [hd] using h

section Folding

variable {word gap t : List Char}

theorem folded_word (hw : ∀ c ∈ word, isFolded c = false) : folded (word ++ t) = word ++ folded t := by
  induction word with
  | nil => rfl
  | cons c word ih =>
    obtain ⟨hc, hw⟩ := List.forall_mem_cons.1 hw
    rw [List.cons_append, folded, hc, if_neg (by simp), ih hw]
    rfl

theorem folded_gap (hg : ∀ c ∈ gap, isFolded c = true) (ht : t.head?.any isFolded = false) :
    folded (gap ++ t) = squeezed gap ++ folded t := by
  cases gap with
  | nil => rfl
  | cons c gap =>
    obtain ⟨hc, hg⟩ := List.forall_mem_cons.1 hg
    have hstop : t.takeWhile isFolded = [] ∧ t.dropWhile isFolded = t := by
      cases t with
      | nil => exact ⟨rfl, rfl⟩
      | cons d t => simp_all
    rw [List.cons_append, folded, hc, if_pos rfl, List.takeWhile_append_of_pos hg,
      List.dropWhile_append_of_pos hg, hstop.1, hstop.2, List.append_nil]

theorem hidesMark_word (hw : ∀ c ∈ word, isFolded c = false) : hidesMark (word ++ t) = hidesMark t := by
  induction word with
  | nil => rfl
  | cons c word ih =>
    obtain ⟨hc, hw⟩ := List.forall_mem_cons.1 hw
    have hs : isSeparator c = false := (Bool.or_eq_false_iff.1 hc).2
    rw [List.cons_append, hidesMark, hs, ih hw]
    rfl

theorem beginsMark_folded {c : Char} (hc : isFolded c = true) : beginsMark (c :: t) = false := by
  rcases eq_of_isFolded hc with rfl | rfl | rfl <;> rfl

/-- Only the last character of a gap can stand in front of a mark. -/
theorem hidesMark_gap (hg : ∀ d ∈ gap, isFolded d = true) :
    hidesMark (gap ++ t) = ((gap.getLast?.any isSeparator && beginsMark t) || hidesMark t) := by
  induction gap with
  | nil => rfl
  | cons d gap ih =>
    obtain ⟨hd, hg⟩ := List.forall_mem_cons.1 hg
    rw [List.cons_append, hidesMark, ih hg, List.getLast?_cons]
    cases gap with
    | nil => rfl
    | cons e gap =>
      rw [List.cons_append, beginsMark_folded (hg e List.mem_cons_self), Bool.and_false, Bool.false_or,
        List.getLast?_cons]
      rfl

theorem length_folded_le (t : List Char) : (folded t).length ≤ t.length := by
  induction t using folded.induct with
  | case1 => simp [folded]
  | case2 c rest hc ih =>
    have hgap := length_squeezed_le (c :: rest.takeWhile isFolded)
    have hrest := congrArg List.length (List.takeWhile_append_dropWhile (p := isFolded) (l := rest))
    rw [folded, if_pos hc]
    simp only [List.length_append, List.length_cons] at *
    omega
  | case3 c rest hc ih =>
    rw [folded, if_neg hc]
    simpa using ih

theorem spacesApart_word (hw : ∀ c ∈ word, isFolded c = false) :
    spacesApart (word ++ t) = spacesApart t := by
  induction word with
  | nil => rfl
  | cons c word ih =>
    obtain ⟨hc, hw⟩ := List.forall_mem_cons.1 hw
    obtain ⟨hs, hb⟩ := Bool.or_eq_false_iff.1 hc
    rw [List.cons_append, ← ih hw]
    cases word ++ t with
    | nil => rfl
    | cons d rest => simp [spacesApart, hs, hb]

/-- Behind a gap nothing stands beside a separator. -/
theorem spacesApart_gap (ht : t.head?.any isFolded = false) :
    spacesApart (gap ++ t) = (spacesApart gap && spacesApart t) := by
  induction gap with
  | nil => rfl
  | cons c gap ih =>
    cases gap with
    | nil =>
      cases t with
      | nil => rfl
      | cons d t =>
        obtain ⟨hs, hb⟩ := Bool.or_eq_false_iff.1 (show isFolded d = false by simpa using ht)
        simp [spacesApart, hs, hb]
    | cons d gap =>
      simp only [List.cons_append, spacesApart] at ih ⊢
      rw [ih]
      simp [Bool.and_assoc]

/-- The spaces of a gap stand apart from its separators if there are only spaces or only separators. -/
theorem spacesApart_folded_iff {c : Char} (hg : ∀ d ∈ c :: gap, isFolded d = true) :
    spacesApart (c :: gap) = true ↔ ∀ d ∈ gap, isSeparator d = isSeparator c := by
  have space : ∀ e, isFolded e = true → (e == ' ') = !isSeparator e := by
    intro e he
    rcases eq_of_isFolded he with rfl | rfl | rfl <;> rfl
  induction gap generalizing c with
  | nil => exact iff_of_true rfl nofun
  | cons d gap ih =>
    obtain ⟨hc, hg⟩ := List.forall_mem_cons.1 hg
    have hd := space d (hg d List.mem_cons_self)
    simp only [spacesApart, Bool.and_eq_true, ih hg, List.forall_mem_cons, space c hc, hd]
    cases isSeparator c <;> cases isSeparator d <;> simp

theorem squeezed_eq_self_iff (hg : ∀ c ∈ gap, isFolded c = true) :
    squeezed gap = gap ↔ spacesApart gap = true := by
  cases gap with
  | nil => exact iff_of_true rfl rfl
  | cons c gap =>
    rw [spacesApart_folded_iff hg, squeezed]
    split
    · next hany =>
      -- with a separator among them all are separators if no space is dropped
      obtain ⟨b, hb, hsep⟩ := List.any_eq_true.1 hany
      rw [List.filter_eq_self]
      constructor
      · intro h
        have hall : ∀ d ∈ c :: gap, isSeparator d = true := by
          intro d hd
          have hd' : d ≠ ' ' := by simpa using h d hd
          simpa [isFolded, hd'] using hg d hd
        intro d hd
        rw [hall d (List.mem_cons_of_mem c hd), hall c List.mem_cons_self]
      · intro h
        have hc : isSeparator c = true := by
          rcases List.mem_cons.1 hb with rfl | hb
          · exact hsep
          · rw [← h b hb, hsep]
        have hall : ∀ d ∈ c :: gap, isSeparator d = true :=
          List.forall_mem_cons.2 ⟨hc, fun d hd => (h d hd).trans hc⟩
        intro d hd
        rcases eq_of_isSeparator (hall d hd) with rfl | rfl <;> rfl
    · next hany =>
      have hall : ∀ d ∈ c :: gap, isSeparator d = false := by simpa using hany
      refine iff_of_true rfl fun d hd => ?_
      rw [hall d (List.mem_cons_of_mem c hd), hall c List.mem_cons_self]

/-- Folding leaves all of a text if its spaces stand apart from the separators. -/
theorem folded_eq_self_iff : ∀ t : List Char, folded t = t ↔ spacesApart t = true := by
  intro t
  induction h : t.length using Nat.strongRecOn generalizing t with
  | _ size ih =>
    obtain ⟨word, gap, t', rfl, hw, hg, ht, hn⟩ := exists_word_folded t
    by_cases hgap : gap = []
    · obtain rfl := hn hgap
      obtain rfl := hgap
      have hword : folded (word ++ []) = word ++ folded [] := folded_word hw
      have hapart : spacesApart (word ++ []) = spacesApart [] := spacesApart_word hw
      rw [List.append_nil, hapart, hword]
      simp [folded, spacesApart]
    · have hpos : 0 < gap.length := List.length_pos_iff.2 hgap
      have hrest := ih t'.length (by simp only [← h, List.length_append]; omega) t' rfl
      rw [folded_word hw, folded_gap hg ht, spacesApart_word hw, spacesApart_gap ht, Bool.and_eq_true,
        ← squeezed_eq_self_iff hg, ← hrest, List.append_cancel_left_eq]
      constructor
      · intro e
        -- both parts are at most as long, so neither is shorter
        have hl := congrArg List.length e
        have h1 := length_squeezed_le gap
        have h2 := length_folded_le t'
        simp only [List.length_append] at hl
        exact List.append_inj e (by omega)
      · rintro ⟨h1, h2⟩
        rw [h1, h2]

end Folding

/-! ## Between double quotes -/

section Escapes

variable {c : Char} {t rest : List Char}

theorem escaped_cases (c : Char) :
    (∃ e, escaped c = '\\' :: e) ∨ escaped c = [c] ∧ isControl c = false := by
  unfold escaped
  repeat' split
  all_goals first
    | exact Or.inl ⟨_, rfl⟩
    | skip
  next hc => exact Or.inr ⟨rfl, by simpa using hc⟩

/-- A gap stands in the quoted text where one stands in the text. -/
theorem gap_flatMap_escaped (t rest : List Char) :
    (t.flatMap escaped ++ '"' :: rest).head?.any isGapOrBreak = t.head?.any isFolded := by
  cases t with
  | nil => rfl
  | cons c t =>
    rw [List.flatMap_cons, List.append_assoc, List.head?_cons, Option.any_some]
    rcases escaped_cases c with ⟨e, he⟩ | ⟨he, hctl⟩
    · have hc : isFolded c = false := by
        rw [Bool.eq_false_iff]
        intro hc
        rw [escaped_of_isFolded hc] at he
        obtain rfl := (List.cons.inj he).1
        exact absurd hc (by decide)
      rw [he, hc]
      rfl
    · rw [he, List.singleton_append, List.head?_cons, Option.any_some, Bool.eq_iff_iff]
      exact ⟨fun h => isFolded_of_isGapOrBreak h hctl, isGapOrBreak_of_isFolded⟩

/-- A dash or a point stands in the quoted text where one stands in the text. -/
theorem flatMap_escaped_eq_cons {mark : Char} {l : List Char} (hmark : mark = '-' ∨ mark = '.')
    (h : t.flatMap escaped ++ '"' :: rest = mark :: l) :
    ∃ t', t = mark :: t' ∧ t'.flatMap escaped ++ '"' :: rest = l := by
  cases t with
  | nil =>
    obtain rfl := (List.cons.inj h).1
    exact absurd hmark (by decide)
  | cons c t =>
    rw [List.flatMap_cons, List.append_assoc] at h
    rcases escaped_cases c with ⟨e, he⟩ | ⟨he, -⟩
    · rw [he, List.cons_append] at h
      obtain rfl := (List.cons.inj h).1
      exact absurd hmark (by decide)
    · rw [he, List.singleton_append] at h
      obtain ⟨rfl, rfl⟩ := List.cons.inj h
      exact ⟨t, rfl, rfl⟩

/-- The quoted text begins with a mark if the text does. -/
theorem marksDocument_escaped (t rest : List Char) :
    marksDocument (t.flatMap escaped ++ '"' :: rest) = beginsMark t := by
  have gap : ∀ t' : List Char, atGap (t'.flatMap escaped ++ '"' :: rest) = t'.head?.any isFolded := by
    intro t'
    rw [← gap_flatMap_escaped t' rest]
    cases t'.flatMap escaped <;> rfl
  rw [Bool.eq_iff_iff, marksDocument_iff]
  constructor
  · rintro ⟨mark, after, hmark, e, hgap⟩
    -- a mark has no escapes in it, so its three characters stand in the text as they are
    obtain ⟨t₁, rfl, e₁⟩ := flatMap_escaped_eq_cons hmark e
    obtain ⟨t₂, rfl, e₂⟩ := flatMap_escaped_eq_cons hmark e₁
    obtain ⟨t₃, rfl, rfl⟩ := flatMap_escaped_eq_cons hmark e₂
    rw [gap] at hgap
    cases t₃ with
    | nil => exact absurd hgap (by simp)
    | cons d t₃ => rcases hmark with rfl | rfl <;> simpa [beginsMark] using hgap
  · intro h
    unfold beginsMark at h
    split at h
    · next d t' =>
      exact ⟨'-', (d :: t').flatMap escaped ++ '"' :: rest, Or.inl rfl, rfl, by rw [gap]; simpa using h⟩
    · next d t' =>
      exact ⟨'.', (d :: t').flatMap escaped ++ '"' :: rest, Or.inr rfl, rfl, by rw [gap]; simpa using h⟩
    · exact absurd h (by simp)

/-- Outside of gaps what is written stands for itself, or is escaped. -/
theorem isQuotable_of_not_folded (h : isControl c = true ∨ isAllowed c = true)
    (hf : isFolded c = false) : isQuotable c = true ∧ c ≠ ' ' := by
  obtain ⟨hspace, hsep⟩ := Bool.or_eq_false_iff.1 hf
  refine ⟨?_, by simpa using hspace⟩
  by_cases hctl : isControl c = true
  · simp [isQuotable, hctl]
  · have hb : isBreak c = false := by
      rw [Bool.eq_false_iff]
      intro hb
      rw [isSeparator_of_isBreak hb (by simpa using hctl)] at hsep
      exact absurd hsep (by simp)
    simp [isQuotable, h.resolve_left hctl, hb]

end Escapes

section Quoted

variable {c : Cursor} {word gap rest : List Char} (text : List Char) (fuel : Nat)

/-- A quoted scalar goes on behind a separator. -/
theorem quotedOnto_separator {n : Nat} {b : Char} (hm : c.atDocumentMark = false)
    (hc : c.rest = word.flatMap escaped ++ (List.replicate n ' ' ++ b :: (gap ++ rest)))
    (hw : ∀ d ∈ word, isQuotable d = true ∧ d ≠ ' ') (hb : isSeparator b = true)
    (hg : ∀ d ∈ gap, isFolded d = true) (hr : rest.head?.any isGapOrBreak = false) :
    ∃ c' : Cursor, quotedOnto '"' text c (fuel + 1)
        = quotedOnto '"' (text ++ word ++ b :: gap.filter (· != ' ')) c' fuel
      ∧ c'.rest = rest ∧ c.index < c'.index ∧ (c'.column = 0 ↔ gap.getLast? ≠ some ' ') := by
  have hgap : ∀ d ∈ gap, d = ' ' ∨ Cursor.Breaks d := fun d hd => Cursor.breaks_of_isFolded (hg d hd)
  have hs : (c.skip (word.flatMap escaped).length).rest = List.replicate n ' ' ++ b :: (gap ++ rest) := by
    rw [Cursor.skip_rest, hc, List.drop_left]
  obtain ⟨c', h1, h2, h3, h4⟩ := Cursor.fold_lines 0 hs (Or.inr hb) hgap hr
  refine ⟨c', ?_, h2, by simp only [Cursor.skip_index] at h3; omega, h4⟩
  -- the run of the text ends at the gap, and not at a closing quote
  have hstop : (List.replicate n ' ' ++ b :: (gap ++ rest)).head?.any
      (fun d => isGapOrBreak d || d == '"') = true := by
    cases n with
    | zero => rcases eq_of_isSeparator hb with rfl | rfl <;> rfl
    | succ n => rfl
  have hquote : ((List.replicate n ' ' ++ b :: (gap ++ rest)).head? == some '"') = false := by
    cases n with
    | zero => rcases eq_of_isSeparator hb with rfl | rfl <;> rfl
    | succ n => rfl
  have hfeed : b ≠ '\n' := by rcases eq_of_isSeparator hb with rfl | rfl <;> decide
  rw [quotedOnto, hm, hc, doubleRun_word hw hstop, ← hc]
  simp only [show ('"' = '\'') = False by simp, if_false, Bool.false_or, List.isEmpty_iff,
    Cursor.skipTo_append hc, hs, hquote, h1, Bool.false_eq_true]
  simp [Cursor.Fold.text, hc, hfeed]

/-- A quoted scalar goes on behind any gap, which is squeezed. Behind a separator it goes on at the
beginning of a line. -/
theorem quotedOnto_squeezed (hm : c.atDocumentMark = false)
    (hc : c.rest = word.flatMap escaped ++ (gap ++ rest)) (hw : ∀ d ∈ word, isQuotable d = true ∧ d ≠ ' ')
    (hg : ∀ d ∈ gap, isFolded d = true) (hne : gap ≠ []) (hr : rest.head?.any isGapOrBreak = false) :
    ∃ c' : Cursor, quotedOnto '"' text c (fuel + 1)
        = quotedOnto '"' (text ++ word ++ squeezed gap) c' fuel
      ∧ c'.rest = rest ∧ c.index < c'.index ∧ (c'.column = 0 ↔ gap.getLast?.any isSeparator = true) := by
  obtain ⟨n, rfl | ⟨b, gap', hb, rfl⟩⟩ := gap_cases hg
  · obtain ⟨m, rfl⟩ : ∃ m, n = m + 1 := ⟨n - 1, by cases n <;> simp at hne ⊢⟩
    refine ⟨_, by rw [squeezed_spaces]; exact quotedOnto_gap hm hc hw hr, ?_, ?_, ?_⟩
    · rw [← Cursor.skip_skip]
      simp [hc]
    · simp only [Cursor.skip_index]
      omega
    · rw [List.getLast?_replicate]
      simp [show isSeparator ' ' = false by decide]
  · have hg' : ∀ d ∈ gap', isFolded d = true := fun d hd => hg d (by simp [hd])
    rw [List.append_assoc, List.cons_append] at hc
    obtain ⟨c', h1, h2, h3, h4⟩ := quotedOnto_separator text fuel hm hc hw hb hg' hr
    refine ⟨c', by rw [squeezed_separator hb, h1], h2, h3, h4.trans ?_⟩
    rw [List.getLast?_append, List.getLast?_cons]
    cases hlast : gap'.getLast? with
    | none => simp [hb]
    | some d =>
      have hd : d = ' ' ∨ isSeparator d = true := isFolded_iff.1 (hg' d (List.mem_of_getLast? hlast))
      rcases hd with rfl | hd
      · simp [show isSeparator ' ' = false by decide]
      · have hspace : d ≠ ' ' := by rcases eq_of_isSeparator hd with rfl | rfl <;> decide
        simp [hd, hspace]

theorem quotedOnto_mark (hm : c.atDocumentMark = true) : quotedOnto '"' text c fuel = .error .unclosed := by
  cases fuel with
  | zero => rfl
  | succ fuel => simp [quotedOnto, hm]

end Quoted

/-- A quoted text is read as what folding leaves of it. If a separator stands in front of a mark of a
document, the scalar is not closed. -/
theorem quotedOnto_folded : ∀ (size : Nat) (t text : List Char) (c : Cursor) (rest : List Char)
    (fuel : Nat), t.length ≤ size → t.length < fuel → (∀ d ∈ t, isControl d = true ∨ isAllowed d = true) →
    c.atDocumentMark = false → c.rest = t.flatMap escaped ++ '"' :: rest →
    if hidesMark t then quotedOnto '"' text c fuel = .error .unclosed
    else ∃ c' : Cursor, quotedOnto '"' text c fuel = .ok (text ++ folded t, c') ∧ c'.rest = rest ∧
      c.index < c'.index := by
  -- a round reads a word with the gap behind it, so the induction is on the length that is left
  intro size
  induction size with
  | zero =>
    intro t text c rest fuel hsize hfuel _ hm hc
    obtain rfl : t = [] := List.length_eq_zero_iff.1 (by omega)
    obtain ⟨fuel, rfl⟩ : ∃ m, fuel = m + 1 := ⟨fuel - 1, by omega⟩
    rw [hidesMark, if_neg (by simp), folded]
    exact ⟨_, quotedOnto_last hm hc (by simp), by simp [hc], by simp⟩
  | succ size ih =>
    intro t text c rest fuel hsize hfuel ht hm hc
    obtain ⟨fuel, rfl⟩ : ∃ m, fuel = m + 1 := ⟨fuel - 1, by omega⟩
    obtain ⟨word, gap, t', rfl, hw, hg, hstop, hn⟩ := exists_word_folded t
    have hword : ∀ d ∈ word, isQuotable d = true ∧ d ≠ ' ' := fun d hd =>
      isQuotable_of_not_folded (ht d (by simp [hd])) (hw d hd)
    have ht' : ∀ d ∈ t', isControl d = true ∨ isAllowed d = true := fun d hd => ht d (by simp [hd])
    rw [hidesMark_word hw, hidesMark_gap hg, folded_word hw, folded_gap hg hstop]
    by_cases hgap : gap = []
    · obtain rfl := hn hgap
      obtain rfl := hgap
      simp only [List.append_nil] at hc
      rw [show squeezed [] = [] from rfl, folded, hidesMark, if_neg (by simp), List.append_nil,
        List.append_nil]
      exact ⟨_, quotedOnto_last hm hc hword, by rw [← Cursor.skip_skip]; simp [hc], by simp⟩
    · have hpos : 0 < gap.length := List.length_pos_iff.2 hgap
      simp only [List.length_append] at hsize hfuel
      rw [List.flatMap_append, List.flatMap_append, flatMap_escaped_gap hg, List.append_assoc,
        List.append_assoc] at hc
      obtain ⟨c', h1, h2, h3, h4⟩ := quotedOnto_squeezed text fuel hm hc hword hg hgap
        (by rw [gap_flatMap_escaped]; exact hstop)
      have hmark : c'.atDocumentMark = (gap.getLast?.any isSeparator && beginsMark t') := by
        rw [atDocumentMark_eq, h2, marksDocument_escaped, Bool.eq_iff_iff, Bool.and_eq_true,
          Bool.and_eq_true, beq_iff_eq, h4]
      rw [h1, ← hmark]
      by_cases hm' : c'.atDocumentMark = true
      · rw [hm', Bool.true_or, if_pos rfl]
        exact quotedOnto_mark _ _ hm'
      · rw [Bool.not_eq_true] at hm'
        have hrest := ih t' (text ++ word ++ squeezed gap) c' rest fuel (by omega) (by omega) ht' hm' h2
        rw [hm', Bool.false_or]
        split
        · next h => rwa [if_pos h] at hrest
        · next h =>
          rw [if_neg h] at hrest
          obtain ⟨c₂, h5, h6, h7⟩ := hrest
          exact ⟨c₂, by simpa [List.append_assoc] using h5, h6, by omega⟩

section Scalar

variable {t rest : List Char} {c : Cursor} (hc : c.rest = doubleQuoted t ++ rest)
  (ht : ∀ d ∈ t, isControl d = true ∨ isAllowed d = true)

include hc ht

theorem quotedScalar_cases : if hidesMark t then quotedScalar '"' c = .error .unclosed
    else ∃ c' : Cursor, quotedScalar '"' c = .ok (folded t, c') ∧ c'.rest = rest ∧ c.index < c'.index := by
  have hc' : (c.skip 1).rest = t.flatMap escaped ++ '"' :: rest := by simp [hc, doubleQuoted]
  have hlength := length_le_flatMap_escaped t
  have h := quotedOnto_folded t.length t [] (c.skip 1) rest (c.rest.length + 1) (Nat.le_refl _)
    (by simp only [hc, doubleQuoted, List.cons_append, List.length_cons, List.length_append]; omega) ht
    (atDocumentMark_of_column (by simp)) hc'
  rw [quotedScalar]
  split
  · next hm => rwa [if_pos hm] at h
  · next hm =>
    rw [if_neg hm] at h
    obtain ⟨c', h1, h2, h3⟩ := h
    exact ⟨c', h1, h2, by simp at h3; omega⟩

/-- A text between double quotes is read as what folding leaves of it. -/
theorem quotedScalar_folded (hm : hidesMark t = false) :
    ∃ c' : Cursor, quotedScalar '"' c = .ok (folded t, c') ∧ c'.rest = rest ∧ c.index < c'.index := by
  have h := quotedScalar_cases hc ht
  rwa [if_neg (by simp [hm])] at h

/-- A separator in front of a mark of a document leaves a quoted text without its end. -/
theorem quotedScalar_unclosed (hm : hidesMark t = true) : quotedScalar '"' c = .error .unclosed := by
  have h := quotedScalar_cases hc ht
  rwa [if_pos hm] at h

end Scalar

/-! ## Plain -/

/-- A run is taken off the front, and no gap is in it. -/
theorem plainRun_append {flow : Bool} : ∀ {s run rest : List Char}, plainRun flow s = .ok (run, rest) →
    s = run ++ rest ∧ ∀ d ∈ run, isGapOrBreak d = false := by
  intro s
  induction s with
  | nil =>
    intro run rest h
    obtain ⟨rfl, rfl⟩ := by simpa [plainRun] using h
    exact ⟨rfl, List.forall_mem_nil _⟩
  | cons c s ih =>
    intro run rest h
    rw [plainRun] at h
    split at h
    · -- the run ends in front of a gap
      obtain ⟨rfl, rfl⟩ := by simpa using h
      exact ⟨rfl, List.forall_mem_nil _⟩
    · next hgap =>
      split at h
      · exact absurd h (by simp)
      split at h
      · obtain ⟨rfl, rfl⟩ := by simpa using h
        exact ⟨rfl, List.forall_mem_nil _⟩
      split at h
      · exact absurd h (by simp)
      · next run' rest' hrun =>
        obtain ⟨rfl, rfl⟩ := by simpa using h
        obtain ⟨rfl, hr⟩ := ih hrun
        exact ⟨rfl, List.forall_mem_cons.2 ⟨by simpa using hgap, hr⟩⟩

section Plain

variable {c : Cursor} (column : Nat)

/-- If a plain scalar can go on behind a gap at the end of its line, it has lost spaces beside any
separator in the gap. -/
theorem fold_plain {r : List Char} (h : c.rest = r ++ ['\n']) (hr : ∀ d ∈ r, isControl d = false) :
    ∃ (f : Cursor.Fold) (c' : Cursor), c.fold column {} = .ok (f, c') ∧
      (c'.column ≠ 0 → ∃ gap r', r = gap ++ r' ∧ c'.rest = r' ++ ['\n'] ∧ f.text = squeezed gap ∧
        (gap.any isSeparator = true → (squeezed gap).length < gap.length)) := by
  obtain ⟨gap, r', rfl, hg, hstop⟩ := exists_gap r
  have hcontent : ∀ d l, r' = d :: l → isGapOrBreak d = false := by
    rintro d l rfl
    rw [Bool.eq_false_iff]
    intro hd
    rw [List.head?_cons, Option.any_some, isFolded_of_isGapOrBreak hd (hr d (by simp))] at hstop
    exact absurd hstop (by simp)
  -- spaces alone, or spaces up to a first separator with the gap behind it
  obtain ⟨n, rfl | ⟨b, g, hb, rfl⟩⟩ := gap_cases hg
  · cases r' with
    | nil =>
      have h' : c.rest = List.replicate n ' ' ++ '\n' :: ([] ++ []) := by simpa using h
      obtain ⟨c', h1, -, -, h4⟩ := Cursor.fold_lines column h' (Or.inl rfl) nofun rfl
      exact ⟨_, c', h1, fun hcol => absurd (h4.2 (by simp)) hcol⟩
    | cons d r' =>
      have hd := hcontent d r' rfl
      rw [List.append_assoc] at h
      refine ⟨_, _, Cursor.fold_spaces h (by simpa using hd), fun _ => ⟨_, d :: r', rfl, by simp [h], ?_, ?_⟩⟩
      · rw [squeezed_spaces]
        rfl
      · intro hany
        obtain ⟨e, he, hsep⟩ := List.any_eq_true.1 hany
        rw [List.eq_of_mem_replicate he] at hsep
        exact absurd hsep (by decide)
  · have hgap : ∀ d ∈ g, d = ' ' ∨ Cursor.Breaks d := fun d hd => Cursor.breaks_of_isFolded (hg d (by simp [hd]))
    cases r' with
    | nil =>
      have h' : c.rest = List.replicate n ' ' ++ b :: ((g ++ ['\n']) ++ []) := by simpa using h
      have hlast : ∀ d ∈ g ++ ['\n'], d = ' ' ∨ Cursor.Breaks d :=
        List.forall_mem_append.2 ⟨hgap, by simp [Cursor.Breaks]⟩
      obtain ⟨c', h1, -, -, h4⟩ := Cursor.fold_lines column h' (Or.inr hb) hlast rfl
      exact ⟨_, c', h1, fun hcol => absurd (h4.2 (by simp)) hcol⟩
    | cons d r' =>
      have hd := hcontent d r' rfl
      have h' : c.rest = List.replicate n ' ' ++ b :: (g ++ (d :: r' ++ ['\n'])) := by simpa using h
      obtain ⟨c', h1, h2, -, h4⟩ := Cursor.fold_lines column h' (Or.inr hb) hgap (by simpa using hd)
      have hfeed : b ≠ '\n' := by rcases eq_of_isSeparator hb with rfl | rfl <;> decide
      refine ⟨_, c', h1, fun hcol => ⟨_, d :: r', rfl, h2, ?_, fun _ => ?_⟩⟩
      · rw [squeezed_separator hb]
        simp [Cursor.Fold.text, hfeed]
      · -- to the right of the first column a space stands in front, and it is lost
        have hspace : ' ' ∈ g := List.mem_of_getLast? (Decidable.not_not.1 (mt h4.2 hcol))
        have hless : (g.filter (· != ' ')).length < g.length :=
          List.length_filter_lt_length_iff_exists.2 ⟨' ', hspace, by simp⟩
        rw [squeezed_separator hb]
        simp only [List.length_cons, List.length_append]
        omega

/-- The characters of a plain scalar at the end of its line are among those that were written, and with a
separator at least one is lost. -/
theorem length_plainOnto {column : Nat} (hcol : 0 < column) : ∀ (fuel : Nat) {r text x : List Char} {f : Cursor.Fold}
    {c c' : Cursor} {broken : Bool}, c.rest = r ++ ['\n'] → (∀ d ∈ r, isControl d = false) →
    plainOnto false column text f c fuel = .ok (x, broken, c') →
    x.length + (if r.any isSeparator then 1 else 0) ≤ text.length + f.text.length + r.length := by
  have one : ∀ r : List Char, (if r.any isSeparator then 1 else 0) ≤ r.length := by
    intro r
    cases r with
    | nil => simp
    | cons d r => split <;> simp
  intro fuel
  induction fuel with
  | zero =>
    intro r text x f c c' broken _ _ h
    obtain ⟨rfl, -⟩ := by simpa [plainOnto] using h
    have := one r
    omega
  | succ fuel ih =>
    intro r text x f c c' broken hc hr h
    rw [plainOnto] at h
    split at h
    · obtain ⟨rfl, -⟩ := by simpa using h
      have := one r
      omega
    split at h
    · exact absurd h (by simp)
    · next run rest hrun =>
      obtain ⟨e, hword⟩ := plainRun_append hrun
      -- the line feed is a gap, so the run ends in front of it
      obtain ⟨r', rfl, rfl⟩ : ∃ r', r = run ++ r' ∧ rest = r' ++ ['\n'] := by
        rcases List.append_eq_append_iff.1 (hc.symm.trans e) with ⟨tail, rfl, e'⟩ | ⟨r', rfl, rfl⟩
        · cases tail with
          | nil => exact ⟨[], by simp, by simpa using e'.symm⟩
          | cons d tail =>
            obtain rfl := (List.cons.inj e').1
            exact absurd (hword '\n' (by simp)) (by decide)
        · exact ⟨r', rfl, rfl⟩
      have hany : (run ++ r').any isSeparator = r'.any isSeparator := by
        have hrun : run.any isSeparator = false := by
          rw [List.any_eq_false]
          intro d hd hsep
          have hgap : isGapOrBreak d = true := isGapOrBreak_of_isFolded (by simp [isFolded, hsep])
          rw [hword d hd] at hgap
          exact absurd hgap (by simp)
        rw [List.any_append, hrun, Bool.false_or]
      have htext : (if run.isEmpty then text else text ++ f.text ++ run).length
          ≤ text.length + f.text.length + run.length := by
        split
        · omega
        · simp only [List.length_append]
          omega
      generalize (if run.isEmpty then text else text ++ f.text ++ run) = text' at h htext
      have hr' : ∀ d ∈ r', isControl d = false := fun d hd => hr d (by simp [hd])
      rw [hany, List.length_append]
      split at h
      · obtain ⟨rfl, -⟩ := by simpa using h
        have := one r'
        omega
      · obtain ⟨f₂, c₂, hfold, hgo⟩ := @fold_plain (c.skipTo (r' ++ ['\n'])) column r' rfl hr'
        simp only [hfold, Bool.not_false, Bool.true_and, decide_eq_true_eq] at h
        split at h
        · obtain ⟨rfl, -⟩ := by simpa using h
          have := one r'
          omega
        · next hlt =>
          -- the scalar goes on, so what was folded in between is at most what was there
          obtain ⟨gap, r₂, rfl, hrest, hsqueezed, hlost⟩ := hgo (by omega)
          have hmore := ih hrest (fun d hd => hr' d (by simp [hd])) h
          have hle := length_squeezed_le gap
          rw [hsqueezed] at hmore
          rw [List.any_append, List.length_append]
          cases hsep : gap.any isSeparator
          · simp only [Bool.false_or]
            omega
          · have := hlost hsep
            simp only [Bool.true_or, if_true]
            omega

end Plain

/-- Of a plain text with a separator something is lost. -/
theorem length_plainScalar_lt {column : Nat} (hcol : 0 < column) {t x : List Char} {c c' : Cursor}
    {broken : Bool} (hc : c.rest = t ++ ['\n']) (ht : ∀ d ∈ t, isControl d = false)
    (hsep : t.any isSeparator = true) (h : plainScalar false column c = .ok (x, broken, c')) :
    x.length < t.length := by
  have hle := length_plainOnto hcol _ hc ht h
  have htext : ({} : Cursor.Fold).text = [] := rfl
  rw [hsep, if_pos rfl, htext, List.length_nil] at hle
  omega

end RoleChart.Yaml
