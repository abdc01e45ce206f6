import RoleChart.Proofs.Document.Draft
import RoleChart.Proofs.Document.Expansion
import RoleChart.Proofs.Yaml.Outline
import RoleChart.Proofs.Yaml.PlainText

/-!
# Outlines of drafts

What is left of the lines of a draft once its template is expanded is the text of an outline. The
outline has the parts that are left, with their spelling and the lines of their comments.

## Main statements

* `directive?_row`, `directive?_opening`, `directive?_closing` — which written lines are directives
* `Outlined.append`, `Outlined.cons` — what is left of lines, line by line
* `outlined_blocks` — the lines between the directives of blocks are left exactly if every block holds
* `Outlined.around` — so a part of a draft is left with its comment, or nothing of it is
-/

namespace RoleChart.Document

open RoleChart.Text
open RoleChart.Yaml (Outline Spelling)
open RoleChart.Yaml.Outline (remarksText tailText itemsText entriesText hang)

/-! ## Spellings -/

/-- The spelling of a text: as it is unless it needs quotes. -/
def spelling (s : List Char) : Spelling := if needsQuotes s then .quoted s else .plain s

/-- The spelling of a scalar. -/
def Datum.spelling : Datum → Spelling
  | .text s => Document.spelling s.toList
  | .integer z => .plain (decimalInt z)
  | .flag b => .plain (if b then "true" else "false").toList
  | .null => .plain ['~']

theorem chars_spelling {s : List Char} (h : isTemplated s = false) : (spelling s).chars = quote s := by
  rw [quote, h, Bool.false_and, if_neg (by simp), spelling]
  split <;> rfl

/-! ## Outlines -/

namespace Draft

mutual

/-- The outline of a part that is left. -/
def outline : Draft → Outline
  | scalar _ datum => .scalar datum.spelling
  | list _ [] => .noItems
  | list _ (d :: items) => .sequence (itemOutlines (d :: items))
  | mapping _ [] => .noEntries
  | mapping _ ((name, d) :: entries) =>
    .mapping d.around.notes.isEmpty (entryOutlines ((name, d) :: entries))

/-- The outlines of the items that are left. -/
def itemOutlines : List Draft → List (List (List Char) × Outline)
  | [] => []
  | d :: items =>
    if d.around.kept then (d.around.remarks, d.outline) :: itemOutlines items else itemOutlines items

/-- The outlines of the entries that are left. -/
def entryOutlines : List (String × Draft) → List (List (List Char) × Spelling × Outline)
  | [] => []
  | (name, d) :: entries =>
    if d.around.kept then
      (d.around.remarks, Document.spelling name.toList, d.outline) :: entryOutlines entries
    else entryOutlines entries

end

end Draft

/-! ## Characters -/

/-- A fact about characters of ASCII is a fact about their numbers. -/
theorem forall_ascii {p : Char → Prop} (h : ∀ n < 0x80, p (Char.ofNat n)) {c : Char}
    (hc : isAscii c = true) : p c :=
  of_toNat_lt h (by simpa [isAscii] using hc)

/-- A name character stands for itself, between quotes too. -/
theorem nameChar_facts {c : Char} (h : isNameChar c = true) :
    c ≠ '\'' ∧ c ≠ '\n' ∧ c ≠ ' ' ∧ c ≠ '\x7b' ∧ escaped c = [c] := by
  have hc : isAscii c = true := by
    simp only [isNameChar, isAlphanumeric, isDigit, Bool.or_eq_true, Bool.and_eq_true, decide_eq_true_eq,
      beq_iff_eq] at h
    simp only [isAscii, decide_eq_true_eq]
    rcases h with (((((h | h) | h) | rfl) | rfl) | rfl) | rfl
    all_goals first | omega | decide
  have all : ∀ n < 0x80, isNameChar (Char.ofNat n) = true → Char.ofNat n ≠ '\'' ∧ Char.ofNat n ≠ '\n' ∧
      Char.ofNat n ≠ ' ' ∧ Char.ofNat n ≠ '\x7b' ∧ escaped (Char.ofNat n) = [Char.ofNat n] := by
    decide +kernel
  exact forall_ascii (p := fun c => isNameChar c = true → c ≠ '\'' ∧ c ≠ '\n' ∧ c ≠ ' ' ∧ c ≠ '\x7b' ∧
    escaped c = [c]) all hc h

/-- Escaping makes no brace. -/
theorem mem_escaped_brace {c : Char} (h : '\x7b' ∈ escaped c) : c = '\x7b' := by
  have digit : ∀ k < 16, upperAscii (digitChar k) ≠ '\x7b' := by decide
  unfold escaped at h
  split at h
  · simp at h
  split at h
  · simp at h
  split at h
  · simp at h
  split at h
  · simp at h
  split at h
  · simp at h
  split at h
  · simp only [List.mem_cons, List.mem_map] at h
    rcases h with h | h | ⟨e, he, hd⟩
    · exact absurd h (by decide)
    · exact absurd h (by decide)
    · obtain ⟨k, hk, rfl⟩ := mem_hexadecimal he
      exact absurd hd (digit k hk)
  · exact (List.mem_singleton.1 h).symm

/-- What stands in front of a text does not begin a pattern whose first character it lacks. -/
theorem infix_of_append {c : Char} {p a b : List Char} (ha : c ∉ a) (h : c :: p <:+: a ++ b) :
    c :: p <:+: b := by
  induction a with
  | nil => exact h
  | cons d a ih =>
    rw [List.cons_append, List.infix_cons_iff] at h
    rcases h with h | h
    · rw [List.cons_prefix_cons] at h
      exact absurd h.1 fun e => ha (by simp [e])
    · exact ih (fun hm => ha (by simp [hm])) h

/-- Quoting makes no template expression. -/
theorem not_infix_doubleQuoted {s : List Char} (h : isTemplated s = false) :
    ¬ ['\x7b', '\x7b'] <:+: doubleQuoted s := by
  have inner : ∀ t : List Char, ['\x7b', '\x7b'] <:+: t.flatMap escaped ++ ['"'] →
      ['\x7b', '\x7b'] <:+: t := by
    intro t
    induction t with
    | nil => simp [List.infix_cons_iff, List.prefix_cons_iff]
    | cons c t ih =>
      intro hi
      rw [List.flatMap_cons, List.append_assoc] at hi
      -- a brace is written as itself, and nothing else is written with one
      by_cases hc : c = '\x7b'
      · subst hc
        rw [show escaped '\x7b' = ['\x7b'] from by decide, List.singleton_append, List.infix_cons_iff] at hi
        rcases hi with hi | hi
        · rw [List.cons_prefix_cons] at hi
          cases t with
          | nil => simp at hi
          | cons d t =>
            obtain ⟨e, rest, he⟩ := List.exists_cons_of_ne_nil (Yaml.escaped_ne_nil d)
            rw [List.flatMap_cons, he, List.cons_append, List.cons_append, List.cons_prefix_cons] at hi
            obtain rfl := mem_escaped_brace (c := d) (by simp [he, ← hi.2.1])
            exact ⟨[], t, rfl⟩
        · exact List.infix_cons (ih hi)
      · exact List.infix_cons (ih (infix_of_append (fun hm => hc (mem_escaped_brace hm)) hi))
  intro hi
  rw [doubleQuoted, List.cons_append] at hi
  have hs := inner s (infix_of_append (a := ['"']) (by simp) hi)
  rw [isTemplated, Bool.eq_false_iff, ne_eq, occurs_iff] at h
  exact h hs

/-! ## Rows -/

/-- The characters of a line without its line feed. -/
def Line.row (l : Line) : List Char := List.replicate l.indent ' ' ++ l.text

theorem unlines_rows (lines : List Line) : unlines (lines.map Line.row) = lines.flatMap Line.chars := by
  rw [unlines, List.flatMap_map]
  rfl

/-- Whether a row is one line and opens no quoted template expression. -/
structure Clean (row : List Char) : Prop where
  feed : '\n' ∉ row
  opening : ¬ templateOpening <:+: row

theorem not_mem_spaces {c : Char} (h : c ≠ ' ') (n : Nat) : c ∉ List.replicate n ' ' := by
  intro hm
  exact h (List.eq_of_mem_replicate hm)

/-- A lead without quotes in front of a text without template expressions is clean. -/
theorem clean_row (lead text : List Char) (hl : '\n' ∉ lead ∧ '\'' ∉ lead) (ht : '\n' ∉ text)
    (hb : ¬ ['\x7b', '\x7b'] <:+: text) (n : Nat) : Clean (Line.row ⟨n, lead ++ text⟩) where
  feed hm := by
    rcases List.mem_append.1 hm with hm | hm
    · exact not_mem_spaces (by decide) n hm
    · exact (List.mem_append.1 hm).elim hl.1 ht
  opening hi := by
    have h1 : templateOpening <:+: lead ++ text := infix_of_append (not_mem_spaces (by decide) n) hi
    have h2 : templateOpening <:+: text := infix_of_append hl.2 h1
    exact hb (List.IsInfix.trans ⟨['\''], [], rfl⟩ h2)

theorem clean_lead {lead : List Char} (hl : '\n' ∉ lead ∧ '\'' ∉ lead) (n : Nat) :
    Clean (Line.row ⟨n, lead⟩) := by
  simpa using clean_row _ [] hl (by simp) (by simp) n

theorem dropWhile_spaces {c : Char} (hs : c ≠ ' ') (n : Nat) (rest : List Char) :
    (List.replicate n ' ' ++ c :: rest).dropWhile (· == ' ') = c :: rest := by
  induction n with
  | zero => simp [hs]
  | succ n ih => simpa [List.replicate_succ] using ih

/-- A line that begins with something else than a brace is no directive. -/
theorem directive?_row {c : Char} (hs : c ≠ ' ') (hb : c ≠ '\x7b') (n : Nat) (rest : List Char) :
    directive? (List.replicate n ' ' ++ c :: rest) = none := by
  have hb' : ¬ '\x7b' = c := fun e => hb e.symm
  rw [directive?, dropWhile_spaces hs]
  simp [List.isPrefixOf, hb, hb']

theorem directive?_opening {block : String} (h : blockFits block = true) (n : Nat) :
    directive? (Line.opening n block).row = some .opening := by
  simp only [blockFits, Bool.and_eq_true] at h
  obtain ⟨rest, e⟩ := List.isPrefixOf_iff_prefix.1 h.1
  rw [Line.row, Line.opening, ← e]
  simp only [show "\x7b\x7b- ".toList = ['\x7b', '\x7b', '-', ' '] from rfl,
    show "if ".toList = ['i', 'f', ' '] from rfl, List.cons_append, List.nil_append]
  rw [directive?, dropWhile_spaces (by decide)]
  simp [List.isPrefixOf]

theorem directive?_closing (n : Nat) : directive? (Line.closing n).row = some .closing := by
  rw [Line.row, Line.closing]
  simp only [show "\x7b\x7b- end \x7d\x7d".toList = '\x7b' :: "\x7b- end \x7d\x7d".toList from rfl]
  rw [directive?, dropWhile_spaces (by decide)]
  rfl

theorem clean_opening {block : String} (h : blockFits block = true) (n : Nat) :
    Clean (Line.opening n block).row := by
  simp only [blockFits, Bool.and_eq_true, List.all_eq_true, bne_iff_ne, ne_eq] at h
  have hbrace : '\x7b' ∉ block.toList ++ " \x7d\x7d".toList := by
    intro hm
    rcases List.mem_append.1 hm with hm | hm
    · exact (h.2 _ hm).1.2 rfl
    · exact absurd hm (by decide)
  have hfeed : '\n' ∉ block.toList ++ " \x7d\x7d".toList := by
    intro hm
    rcases List.mem_append.1 hm with hm | hm
    · exact (h.2 _ hm).1.1 rfl
    · exact absurd hm (by decide)
  rw [Line.opening, List.append_assoc]
  exact clean_row _ _ (by decide) hfeed (fun hi => hbrace (hi.subset (by simp))) n

theorem clean_closing (n : Nat) : Clean (Line.closing n).row := clean_lead (by decide) n

theorem Wrapping.feed_not_mem_remarks {w : Wrapping} {r : List Char} (h : r ∈ w.remarks) : '\n' ∉ r := by
  unfold remarks at h
  cases hc : w.comment with
  | none =>
    rw [hc] at h
    exact absurd h List.not_mem_nil
  | some text =>
    rw [hc] at h
    exact feed_not_mem_lines h

/-! ## What is left of lines -/

/-- What is left of lines, once their blocks are expanded, is this text. -/
def Outlined (lines : List Line) (choices : List Bool) (text : List Char) : Prop :=
  (∀ l ∈ lines, Clean l.row) ∧
    ∃ kept, Segment (lines.map Line.row) choices kept ∧ unlines kept = text

theorem outlined_nil : Outlined [] [] [] := ⟨by simp, [], .nil, rfl⟩

section Outlined

variable {lines lines' : List Line} {choices choices' : List Bool} {text text' : List Char}

theorem Outlined.append (h : Outlined lines choices text) (h' : Outlined lines' choices' text') :
    Outlined (lines ++ lines') (choices ++ choices') (text ++ text') := by
  obtain ⟨hc, kept, hs, rfl⟩ := h
  obtain ⟨hc', kept', hs', rfl⟩ := h'
  refine ⟨?_, kept ++ kept', ?_, unlines_append kept kept'⟩
  · intro l hl
    exact (List.mem_append.1 hl).elim (hc l) (hc' l)
  · rw [List.map_append]
    exact hs.append hs'

/-- A line that is no directive is left. -/
theorem outlined_line {l : Line} (hd : directive? l.row = none) (hc : Clean l.row) :
    Outlined [l] [] l.chars := by
  refine ⟨by simpa using hc, [l.row], .single hd, ?_⟩
  simp [unlines, Line.row, Line.chars]

theorem Outlined.cons {l : Line} (hd : directive? l.row = none) (hc : Clean l.row)
    (h : Outlined lines choices text) : Outlined (l :: lines) choices (l.chars ++ text) :=
  (outlined_line hd hc).append h

/-- The lines of a block, one after the other around others. -/
theorem outlined_blocks {blocks : List (String × Bool)} (hb : ∀ b ∈ blocks, blockFits b.1 = true) (n : Nat)
    (h : Outlined lines choices text) :
    Outlined (blocks.map (fun b => Line.opening n b.1) ++ lines ++ blocks.map fun _ => Line.closing n)
      (blocks.map Prod.snd ++ choices) (if blocks.all Prod.snd then text else []) := by
  -- the outermost block comes first, so the closing line of each stands behind those of the others
  induction blocks with
  | nil => simpa using h
  | cons b blocks ih =>
    obtain ⟨hc, kept, hs, hk⟩ := ih fun x hx => hb x (by simp [hx])
    have hclosing : (b :: blocks).map (fun _ => Line.closing n)
        = blocks.map (fun _ => Line.closing n) ++ [Line.closing n] := by
      rw [List.map_const', List.map_const', List.length_cons, List.replicate_succ']
    have hlines : (b :: blocks).map (fun b => Line.opening n b.1) ++ lines
          ++ (b :: blocks).map (fun _ => Line.closing n)
        = Line.opening n b.1 :: ((blocks.map (fun b => Line.opening n b.1) ++ lines
          ++ blocks.map fun _ => Line.closing n) ++ [Line.closing n]) := by
      rw [hclosing]
      simp
    have hfit := hb b (by simp)
    rw [hlines]
    refine ⟨?_, if b.2 then kept else [], ?_, ?_⟩
    · intro l hl
      rcases List.mem_cons.1 hl with rfl | hl
      · exact clean_opening hfit n
      rcases List.mem_append.1 hl with hl | hl
      · exact hc l hl
      · rw [List.mem_singleton.1 hl]
        exact clean_closing n
    · rw [List.map_cons, List.map_append]
      exact hs.block (directive?_opening hfit n) (directive?_closing n) b.2
    · rw [List.all_cons]
      cases b.2
      · rfl
      · simpa only [Bool.true_and, if_true] using hk

theorem outlined_remarks {remarks : List (List Char)}
    (hr : ∀ r ∈ remarks, '\n' ∉ r ∧ isTemplated r = false) (n : Nat) :
    Outlined (remarks.map (Line.remark n)) [] (remarksText n remarks) := by
  induction remarks with
  | nil => exact outlined_nil
  | cons r remarks ih =>
    obtain ⟨hfeed, ht⟩ := hr r (by simp)
    have hrow : ∃ rest, (Line.remark n r).row = List.replicate n ' ' ++ '#' :: rest := by
      unfold Line.remark Line.row
      split <;> exact ⟨_, rfl⟩
    obtain ⟨rest, e⟩ := hrow
    refine Outlined.cons ?_ ?_ (ih fun x hx => hr x (by simp [hx]))
    · rw [e]
      exact directive?_row (by decide) (by decide) n rest
    · rw [isTemplated, Bool.eq_false_iff, ne_eq, occurs_iff] at ht
      unfold Line.remark
      split
      · exact clean_lead (by decide) n
      · exact clean_row ['#', ' '] _ (by decide) hfeed ht n

/-- A part of a draft is left with its comment if its blocks hold. -/
theorem Outlined.around {w : Wrapping} (hw : w.writable = true) (n : Nat)
    (h : Outlined lines choices text) :
    Outlined (w.notes.around n lines) (w.choices ++ choices)
      (if w.kept then remarksText n w.remarks ++ text else []) := by
  simp only [Wrapping.writable, Bool.and_eq_true, List.all_eq_true, Bool.not_eq_true'] at hw
  have hr : Outlined (w.remarks.map (Line.remark n)) [] (remarksText n w.remarks) :=
    outlined_remarks (fun r hm => ⟨Wrapping.feed_not_mem_remarks hm, hw.1 r hm⟩) n
  have hall := outlined_blocks hw.2 n (hr.append h)
  have hlines : w.notes.around n lines = w.blocks.map (fun b => Line.opening n b.1)
      ++ (w.remarks.map (Line.remark n) ++ lines) ++ w.blocks.map fun _ => Line.closing n := by
    obtain ⟨comment, blocks⟩ := w
    cases comment <;>
      simp [Notes.around, Wrapping.notes, Wrapping.remarks, Function.comp_def]
  have hkept : w.kept = w.blocks.all Prod.snd := by
    rw [Wrapping.kept, Wrapping.choices, List.all_map]
    rfl
  rw [hlines, hkept]
  simpa [Wrapping.choices] using hall

end Outlined

end RoleChart.Document
