import RoleChart.Proofs.Document.Joining
import RoleChart.Proofs.Document.Outlining

/-!
# The lines of a draft

The lines that a draft is laid out in are followed part by part to the text of its outline.

## Main statements

* `outlined_root` — the lines of a document without those of failed blocks are the text of its outline
* `expand_render` — so the expanded document is the text of the outline below the opening mark
* `render_of_no_choices` — and without blocks the document itself is
-/

namespace RoleChart.Document

open RoleChart.Text
open RoleChart.Yaml (Outline Spelling)
open RoleChart.Yaml.Outline (remarksText tailText itemsText entriesText hang)

/-! ## Scalars -/

section Spelling

variable {datum : Datum}

theorem chars_datum (h : datum.fits = true) :
    '\n' ∉ datum.spelling.chars ∧ ¬ ['\x7b', '\x7b'] <:+: datum.spelling.chars := by
  cases datum with
  | text s =>
    simp only [Datum.fits, Bool.and_eq_true, Bool.not_eq_true'] at h
    simp only [Datum.spelling, spelling]
    split
    · next hq =>
      refine ⟨fun hm => ?_, not_infix_doubleQuoted h.2⟩
      exact absurd (doubleQuoted_not_control _ _ hm) (by decide)
    · next hq =>
      obtain ⟨c, rest, -, -, -, -, -, -, hctl, -⟩ := Yaml.of_needsQuotes (by simpa using hq)
      refine ⟨fun hm => absurd (hctl _ hm) (by decide), ?_⟩
      rw [isTemplated, Bool.eq_false_iff, ne_eq, occurs_iff] at h
      exact h.2
  | integer z =>
    have hm : ∀ c ∈ decimalInt z, c ≠ '\n' ∧ c ≠ '\x7b' := by
      intro c hc
      rcases Yaml.mem_decimalInt hc with hd | rfl
      · constructor <;>
        · rintro rfl
          exact absurd hd (by decide)
      · decide
    exact ⟨fun h => (hm _ h).1 rfl, fun hi => (hm _ (hi.subset (by simp))).2 rfl⟩
  | flag b =>
    have hb : ∀ w ∈ ["true".toList, "false".toList], '\n' ∉ w ∧ '\x7b' ∉ w := by decide
    have h := hb (Datum.flag b).spelling.chars (by cases b <;> simp [Datum.spelling, Spelling.chars])
    exact ⟨h.1, fun hi => h.2 (hi.subset (by simp))⟩
  | null => exact ⟨by decide, fun hi => absurd (hi.subset (by simp)) (by decide : '\x7b' ∉ ['~'])⟩

/-- A scalar is written in its spelling. -/
theorem node_datum (h : datum.fits = true) (notes : Notes) :
    datum.node.withNotes notes = .scalar notes (String.ofList datum.spelling.chars) := by
  cases datum with
  | text s =>
    simp only [Datum.fits, Bool.and_eq_true, Bool.not_eq_true'] at h
    simp [Datum.node, Node.string, Node.withNotes, Datum.spelling, chars_spelling h.2]
  | integer z => rfl
  | flag b => cases b <;> rfl
  | null => rfl

/-- A text without line feeds stands on one line. -/
theorem scalarLines_single {text : List Char} (h : '\n' ∉ text) (n m : Nat) (lead : List Char) :
    scalarLines n m lead text = [⟨n, lead ++ text⟩] := by
  simp [scalarLines, scalarParts, h]

end Spelling

section Name

variable {name : String}

theorem isName_of_nameFits (h : nameFits name = true) : isName name = true := by
  rw [nameFits, Bool.and_eq_true] at h
  exact h.1

theorem isTemplated_name (h : isName name = true) : isTemplated name.toList = false := by
  simp only [isName, Bool.and_eq_true, List.all_eq_true] at h
  rw [isTemplated, Bool.eq_false_iff, ne_eq, occurs_iff]
  exact fun hi => (nameChar_facts (h.2 _ (hi.subset (by simp)))).2.2.2.1 rfl

/-- The key of a name is its spelling and a colon. -/
theorem keyText_name (h : isName name = true) : keyText name = (spelling name.toList).chars ++ [':'] := by
  rw [keyText, quoteKey, isTemplated_name h, if_neg (by simp), chars_spelling (isTemplated_name h)]

/-- No character of a name is escaped. -/
theorem flatMap_escaped_name (h : isName name = true) : name.toList.flatMap escaped = name.toList := by
  simp only [isName, Bool.and_eq_true, List.all_eq_true] at h
  have all : ∀ s : List Char, (∀ c ∈ s, isNameChar c = true) → s.flatMap escaped = s := by
    intro s
    induction s with
    | nil => simp
    | cons c s ih =>
      intro hs
      rw [List.flatMap_cons, (nameChar_facts (hs c (by simp))).2.2.2.2, ih fun d hd => hs d (by simp [hd])]
      rfl
  exact all _ h.2

/-- A key begins with a letter or a quote and holds name characters alone. -/
theorem chars_name (h : isName name = true) :
    ('\n' ∉ (spelling name.toList).chars ∧ '\'' ∉ (spelling name.toList).chars) ∧
      ∃ c rest, (spelling name.toList).chars = c :: rest ∧ c ≠ ' ' ∧ c ≠ '\x7b' ∧ c ≠ '-' ∧ c ≠ '.' := by
  have hself := flatMap_escaped_name h
  simp only [isName, Bool.and_eq_true, List.all_eq_true] at h
  obtain ⟨hl, hc⟩ := h
  have hfeed : '\n' ∉ name.toList := fun hm => (nameChar_facts (hc _ hm)).2.1 rfl
  have hquote : '\'' ∉ name.toList := fun hm => (nameChar_facts (hc _ hm)).1 rfl
  unfold spelling
  split
  · simp only [Spelling.chars, doubleQuoted, hself]
    refine ⟨⟨?_, ?_⟩, '"', name.toList ++ ['"'], rfl, by decide⟩
    · simpa using hfeed
    · simpa using hquote
  · refine ⟨⟨hfeed, hquote⟩, ?_⟩
    cases hn : name.toList with
    | nil => simp [hn] at hl
    | cons c rest =>
      have hf := nameChar_facts (hc c (by simp [hn]))
      have hletter : isLetter c = true := by simpa [hn] using hl
      refine ⟨c, rest, rfl, hf.2.2.1, hf.2.2.2.1, ?_, ?_⟩ <;>
      · rintro rfl
        exact absurd hletter (by decide)

end Name

/-! ## Parts -/

/-- A line that begins with a lead is no directive and clean. -/
theorem lead_line (lead : List Char) {text : List Char} (hl : '\n' ∉ lead ∧ '\'' ∉ lead)
    (hc : ∃ c rest, lead = c :: rest ∧ c ≠ ' ' ∧ c ≠ '\x7b')
    (ht : '\n' ∉ text ∧ ¬ ['\x7b', '\x7b'] <:+: text) (n : Nat) :
    directive? (Line.row ⟨n, lead ++ text⟩) = none ∧ Clean (Line.row ⟨n, lead ++ text⟩) := by
  refine ⟨?_, clean_row _ _ hl ht.1 ht.2 n⟩
  obtain ⟨c, rest, rfl, hs, hb⟩ := hc
  exact directive?_row hs hb n (rest ++ text)

theorem dash_line (text : List Char) (ht : '\n' ∉ text ∧ ¬ ['\x7b', '\x7b'] <:+: text) (n : Nat) :
    directive? (Line.row ⟨n, '-' :: text⟩) = none ∧ Clean (Line.row ⟨n, '-' :: text⟩) :=
  lead_line ['-'] (by decide) ⟨'-', [], rfl, by decide, by decide⟩ ht n

theorem key_line {name : String} (hn : isName name = true) (text : List Char)
    (ht : '\n' ∉ text ∧ ¬ ['\x7b', '\x7b'] <:+: text) (n : Nat) :
    directive? (Line.row ⟨n, keyText name ++ text⟩) = none ∧
      Clean (Line.row ⟨n, keyText name ++ text⟩) := by
  obtain ⟨hl, c, rest, hc, hs, hb, -⟩ := chars_name hn
  rw [keyText_name hn]
  refine lead_line _ ⟨?_, ?_⟩ ⟨c, rest ++ [':'], by simp [hc], hs, hb⟩ ht n
  · simpa using hl.1
  · simpa using hl.2

namespace Draft

theorem notes_node (d : Draft) : d.node.notes = d.around.notes := by
  cases d with
  | scalar w datum => simp [node, around]
  | list w items => simp [node, around, Node.notes]
  | mapping w entries => simp [node, around, Node.notes]

theorem eq_of_isEmpty {notes : Notes} (h : notes.isEmpty = true) : notes = {} := by
  obtain ⟨comment, blocks⟩ := notes
  simp only [Notes.isEmpty, Bool.and_eq_true, Option.isNone_iff_eq_none, List.isEmpty_iff] at h
  rw [h.1, h.2]

/-- An entry without notes begins with the line of its key. -/
theorem entryLines_head {n : Node} (h : n.notes.isEmpty = true) (step indent : Nat) (name : String) :
    ∃ text rest, entryLines step indent name n = ⟨indent, keyText name ++ text⟩ :: rest := by
  have hnotes := eq_of_isEmpty h
  cases n with
  | scalar notes text =>
    obtain rfl : notes = {} := hnotes
    rw [entryLines, around_nil, scalarLines]
    split
    · exact ⟨[' '], [], rfl⟩
    · next part parts _ =>
      exact ⟨' ' :: part, _, by rw [List.append_assoc]; rfl⟩
  | list notes items =>
    obtain rfl : notes = {} := hnotes
    cases items with
    | nil => exact ⟨" []".toList, [], by rw [entryLines, around_nil]⟩
    | cons item items => exact ⟨[], _, by rw [entryLines, around_nil, List.append_nil]⟩
  | mapping notes entries =>
    obtain rfl : notes = {} := hnotes
    cases entries with
    | nil => exact ⟨" \x7b\x7d".toList, [], by rw [entryLines, around_nil]⟩
    | cons entry entries => exact ⟨[], _, by rw [entryLines, around_nil, List.append_nil]⟩

/-- A line may be moved behind another lead. -/
theorem clean_behind {m n : Nat} (lead : List Char) {text : List Char} (hl : '\n' ∉ lead ∧ '\'' ∉ lead)
    (h : Clean (Line.row ⟨m, text⟩)) : Clean (Line.row ⟨n, lead ++ text⟩) where
  feed hm := by
    rcases List.mem_append.1 hm with hm | hm
    · exact not_mem_spaces (by decide) n hm
    rcases List.mem_append.1 hm with hm | hm
    · exact hl.1 hm
    · exact h.feed (List.mem_append_right _ hm)
  opening hi := by
    have h1 : templateOpening <:+: lead ++ text := infix_of_append (not_mem_spaces (by decide) n) hi
    have h2 : templateOpening <:+: text := infix_of_append hl.2 h1
    exact h.opening (h2.trans (List.suffix_append _ _).isInfix)

theorem hang_true {n : Nat} {rest : List Char} (h : rest ≠ []) :
    hang true n (List.replicate n ' ' ++ rest) = ' ' :: rest := by
  have hd : (List.replicate n ' ' ++ rest).drop n = rest := List.drop_left' (by simp)
  simp [hang, hd, h]

/-- A mapping behind a dash: its first line is put there, or below if it needs lines above itself. -/
theorem outlined_dashed {name : String} {first : Node} {m : Mapping} {step n : Nat}
    {choices : List Bool} {text : List Char} (hn : isName name = true)
    (h : Outlined (mappingLines step (n + 2) ((name, first) :: m)) choices text) :
    Outlined (dashed n ((name, first) :: m) (mappingLines step (n + 2) ((name, first) :: m))) choices
      (List.replicate n ' ' ++ '-' :: hang first.notes.isEmpty (n + 2) text) := by
  -- the first line moves behind the dash, and a line that is moved is left as before
  by_cases he : first.notes.isEmpty = true
  · obtain ⟨tail, rest, hl⟩ := entryLines_head he step (n + 2) name
    obtain ⟨-, c, key, hc, hs, hb, -⟩ := chars_name hn
    rw [mappingLines, hl, List.cons_append] at h ⊢
    obtain ⟨hclean, kept, hseg, rfl⟩ := h
    have hd : directive? (Line.row ⟨n + 2, keyText name ++ tail⟩) = none := by
      rw [keyText_name hn, hc]
      exact directive?_row hs hb _ _
    have hd' : directive? (Line.row ⟨n, '-' :: ' ' :: (keyText name ++ tail)⟩) = none :=
      directive?_row (by decide) (by decide) _ _
    obtain ⟨left, rfl, hseg'⟩ := hseg.setHead hd hd'
    rw [dashed]
    simp only [he, if_true]
    refine ⟨?_, _, hseg', ?_⟩
    · intro l hm
      rcases List.mem_cons.1 hm with rfl | hm
      · exact clean_behind ['-', ' '] (by decide) (hclean _ (List.mem_cons_self))
      · exact hclean l (by simp [hm])
    · have e : unlines (Line.row ⟨n + 2, keyText name ++ tail⟩ :: left)
          = List.replicate (n + 2) ' ' ++ (keyText name ++ tail ++ '\n' :: unlines left) := by
        simp [unlines, Line.row]
      rw [e, hang_true (by simp)]
      simp [unlines, Line.row]
  -- a comment or a block above the first entry keeps the dash on a line of its own
  · have hlines : dashed n ((name, first) :: m) (mappingLines step (n + 2) ((name, first) :: m))
        = ⟨n, ['-']⟩ :: mappingLines step (n + 2) ((name, first) :: m) := by
      rw [dashed.eq_def]
      split
      · next e hinner =>
        obtain ⟨⟨-, rfl⟩, -⟩ := by simpa using e
        rw [if_neg he, hinner]
      · rfl
    have hdash := dash_line [] (by simp) n
    rw [hlines]
    simpa [hang, he, Line.chars] using Outlined.cons hdash.1 hdash.2 h

mutual

/-- The lines of an item are left with its comment if its blocks hold. -/
theorem outlined_item (step : Nat) : ∀ (d : Draft) (n : Nat), d.writable = true →
    Outlined (itemLines step n d.node) d.choices
      (if d.around.kept then remarksText n d.around.remarks
        ++ (List.replicate n ' ' ++ '-' :: tailText step true n d.outline) else [])
  | scalar w datum, n, h => by
    obtain ⟨hw, hd⟩ := by simpa [writable, all] using h
    have hline := dash_line (' ' :: datum.spelling.chars)
      ⟨by simpa using (chars_datum hd).1, fun hi => (chars_datum hd).2 (infix_of_append (a := [' '])
        (by simp) hi)⟩ n
    have := (outlined_line hline.1 hline.2).around hw n
    rw [node, node_datum hd, itemLines, String.toList_ofList, scalarLines_single (chars_datum hd).1]
    simpa [choices, around, outline, tailText, Line.chars] using this
  | list w [], n, h => by
    obtain ⟨hw, -⟩ := by simpa [writable, all] using h
    have hline := dash_line (" []".toList) (by decide) n
    simpa [node, itemNodes, itemLines, choices, itemChoices, around, outline, tailText, Line.chars] using
      (outlined_line hline.1 hline.2).around hw n
  | list w (d :: items), n, h => by
    obtain ⟨hw, hd⟩ := by simpa only [writable, all, Bool.and_eq_true] using h
    have hline := dash_line [] (by simp) n
    have := ((outlined_items step (d :: items) (n + step) hd).cons hline.1 hline.2).around hw n
    simpa [node, itemNodes, itemLines, choices, around, outline, tailText, Line.chars] using this
  | mapping w [], n, h => by
    obtain ⟨hw, -⟩ := by simpa [writable, all] using h
    have hline := dash_line (" \x7b\x7d".toList) (by decide) n
    simpa [node, entryNodes, itemLines, choices, entryChoices, around, outline, tailText, Line.chars] using
      (outlined_line hline.1 hline.2).around hw n
  | mapping w ((name, d) :: entries), n, h => by
    obtain ⟨hw, hd⟩ := by simpa only [writable, all, Bool.and_eq_true] using h
    have hn : isName name = true := by
      simp only [allEntries, Bool.and_eq_true] at hd
      exact isName_of_nameFits hd.1.1.1
    -- the first entry stands on the line of the dash, two columns to the right of it
    have hm := outlined_entries step ((name, d) :: entries) (n + 2) hd
    have := (outlined_dashed hn (by simpa only [entryNodes] using hm)).around hw n
    simpa [node, entryNodes, itemLines, choices, around, outline, tailText, notes_node] using this

/-- The lines of the items of a list. -/
theorem outlined_items (step : Nat) : ∀ (items : List Draft) (n : Nat),
    allItems Wrapping.writable Datum.fits nameFits items = true →
    Outlined (listLines step n (itemNodes items)) (itemChoices items)
      (itemsText step n (itemOutlines items))
  | [], n, _ => outlined_nil
  | d :: items, n, h => by
    obtain ⟨hd, hs⟩ := by simpa only [allItems, Bool.and_eq_true] using h
    have := (outlined_item step d n hd).append (outlined_items step items n hs)
    rw [itemNodes, listLines, itemChoices, itemOutlines]
    split
    · next hk => simpa [hk, itemsText] using this
    · next hk => simpa [hk] using this

/-- The lines of an entry. -/
theorem outlined_entry (step : Nat) : ∀ (d : Draft) (name : String) (n : Nat), d.writable = true →
    isName name = true →
    Outlined (entryLines step n name d.node) d.choices
      (if d.around.kept then remarksText n d.around.remarks ++ (List.replicate n ' '
        ++ ((Document.spelling name.toList).chars ++ ':' :: tailText step false n d.outline)) else [])
  | scalar w datum, name, n, h, hn => by
    obtain ⟨hw, hd⟩ := by simpa [writable, all] using h
    -- a scalar stands on the line of its name
    have hline := key_line hn (' ' :: datum.spelling.chars)
      ⟨by simpa using (chars_datum hd).1, fun hi => (chars_datum hd).2 (infix_of_append (a := [' '])
        (by simp) hi)⟩ n
    have := (outlined_line hline.1 hline.2).around hw n
    rw [node, node_datum hd, entryLines, String.toList_ofList, scalarLines_single (chars_datum hd).1]
    simpa [choices, around, outline, tailText, Line.chars, keyText_name hn] using this
  | list w [], name, n, h, hn => by
    obtain ⟨hw, -⟩ := by simpa [writable, all] using h
    have hline := key_line hn (" []".toList) (by decide) n
    simpa [node, itemNodes, entryLines, choices, itemChoices, around, outline, tailText, Line.chars,
      keyText_name hn] using (outlined_line hline.1 hline.2).around hw n
  | list w (d :: items), name, n, h, hn => by
    obtain ⟨hw, hd⟩ := by simpa only [writable, all, Bool.and_eq_true] using h
    have hline := key_line hn [] (by simp) n
    rw [List.append_nil] at hline
    have := ((outlined_items step (d :: items) (n + step) hd).cons hline.1 hline.2).around hw n
    simpa [node, itemNodes, entryLines, choices, around, outline, tailText, Line.chars,
      keyText_name hn] using this
  | mapping w [], name, n, h, hn => by
    obtain ⟨hw, -⟩ := by simpa [writable, all] using h
    have hline := key_line hn (" \x7b\x7d".toList) (by decide) n
    simpa [node, entryNodes, entryLines, choices, entryChoices, around, outline, tailText, Line.chars,
      keyText_name hn] using (outlined_line hline.1 hline.2).around hw n
  | mapping w ((key, d) :: entries), name, n, h, hn => by
    obtain ⟨hw, hd⟩ := by simpa only [writable, all, Bool.and_eq_true] using h
    have hline := key_line hn [] (by simp) n
    rw [List.append_nil] at hline
    have hm := outlined_entries step ((key, d) :: entries) (n + step) hd
    have := (hm.cons hline.1 hline.2).around hw n
    simpa [node, entryNodes, entryLines, choices, around, outline, tailText, Line.chars,
      keyText_name hn] using this

/-- The lines of the entries of a mapping. -/
theorem outlined_entries (step : Nat) : ∀ (entries : List (String × Draft)) (n : Nat),
    allEntries Wrapping.writable Datum.fits nameFits entries = true →
    Outlined (mappingLines step n (entryNodes entries)) (entryChoices entries)
      (entriesText step n (entryOutlines entries))
  | [], n, _ => outlined_nil
  | (name, d) :: entries, n, h => by
    simp only [allEntries, Bool.and_eq_true] at h
    obtain ⟨⟨⟨hn, hd⟩, -⟩, hs⟩ := h
    have := (outlined_entry step d name n hd (isName_of_nameFits hn)).append
      (outlined_entries step entries n hs)
    rw [entryNodes, mappingLines, entryChoices, entryOutlines]
    split
    · next hk => simpa [hk, entriesText] using this
    · next hk => simpa [hk] using this

end

/-! ## Documents -/

/-- The text that is left of a document below its opening mark. -/
def rootText (step : Nat) (d : Draft) : List Char :=
  if d.around.kept then remarksText 0 d.around.remarks ++ d.outline.text step else []

theorem outlined_root (step : Nat) {d : Draft} (h : d.writable = true)
    (hs : ∀ w datum, d = scalar w datum → ∃ c rest, datum.spelling.chars = c :: rest ∧ c ≠ ' ' ∧ c ≠ '\x7b') :
    Outlined (rootLines step d.node) d.choices (d.rootText step) := by
  cases d with
  | scalar w datum =>
    obtain ⟨hw, hd⟩ := by simpa [writable, all] using h
    obtain ⟨hf, hb⟩ := chars_datum hd
    -- a scalar that began with braces would be taken for a directive
    have hline : directive? (Line.row ⟨0, datum.spelling.chars⟩) = none := by
      obtain ⟨c, rest, hc, hsp, hbr⟩ := hs w datum rfl
      rw [hc]
      exact directive?_row hsp hbr 0 rest
    have := (outlined_line hline (clean_row [] _ (by simp) hf hb 0)).around hw 0
    rw [node, node_datum hd, rootLines, String.toList_ofList, scalarLines_single hf, rootText, choices,
      outline, Outline.text]
    rw [List.append_nil] at this
    exact this
  | list w items =>
    obtain ⟨hw, hd⟩ := by simpa only [writable, all, Bool.and_eq_true] using h
    rw [node, rootText, choices]
    cases items with
    | nil =>
      have hline : directive? (Line.row ⟨0, "[]".toList⟩) = none := by decide
      have := (outlined_line hline (clean_lead (by decide) 0)).around hw 0
      rw [itemNodes, rootLines, itemChoices, outline]
      exact this
    | cons d items =>
      have := (outlined_items step (d :: items) 0 hd).around hw 0
      rw [itemNodes, rootLines, outline]
      · exact this
      · simp
  | mapping w entries =>
    obtain ⟨hw, hd⟩ := by simpa only [writable, all, Bool.and_eq_true] using h
    rw [node, rootText, choices]
    cases entries with
    | nil =>
      have hline : directive? (Line.row ⟨0, "\x7b\x7d".toList⟩) = none := by decide
      have := (outlined_line hline (clean_lead (by decide) 0)).around hw 0
      rw [entryNodes, rootLines, entryChoices, outline]
      exact this
    | cons entry entries =>
      obtain ⟨name, d⟩ := entry
      have := (outlined_entries step ((name, d) :: entries) 0 hd).around hw 0
      rw [entryNodes, rootLines, outline]
      · exact this
      · simp

section Document

variable {d : Draft} (h : d.writable = true)
  (hs : ∀ w datum, d = scalar w datum → ∃ c rest, datum.spelling.chars = c :: rest ∧ c ≠ ' ' ∧ c ≠ '\x7b')

include h hs

/-- The rows of a document with its opening mark, and what is left of them. -/
theorem exists_rows (step : Nat) :
    ∃ rows kept, renderWith step d.node = String.ofList (unlines rows) ∧
      (∀ row ∈ rows, '\n' ∉ row) ∧ Segment rows d.choices kept ∧
      unlines kept = "---\n".toList ++ d.rootText (max step 2) := by
  have hline : directive? (Line.row ⟨0, "---".toList⟩) = none := by decide
  obtain ⟨hclean, kept, hseg, hk⟩ :=
    (outlined_root (max step 2) h hs).cons hline (clean_lead (by decide) 0)
  have hrow : ∀ row ∈ (⟨0, "---".toList⟩ :: rootLines (max step 2) d.node).map Line.row, Clean row := by
    intro row hr
    obtain ⟨l, hl, rfl⟩ := List.mem_map.1 hr
    exact hclean l hl
  have hjoin := (joinTemplates_unlines_iff fun row hr => (hrow row hr).feed).2
    (closesOnLines_of_not_opening fun row hr => (hrow row hr).opening)
  refine ⟨_, kept, ?_, fun row hr => (hrow row hr).feed, hseg, hk⟩
  rw [renderWith, ← hjoin, unlines_rows]
  rfl

/-- A document without blocks is the text of its outline, whatever its comments say. -/
theorem render_of_writable (hc : d.choices = []) (step : Nat) :
    renderWith step d.node = String.ofList ("---\n".toList ++ d.rootText (max step 2)) := by
  obtain ⟨rows, kept, hr, -, hseg, hk⟩ := exists_rows h hs step
  rw [hr, ← hk, hseg.whole hc]

end Document

theorem writable_of_fits {d : Draft} (h : d.fits = true) : d.writable = true :=
  all_mono (fun w hw => by
    simp only [Wrapping.fits, Bool.and_eq_true, List.all_eq_true] at hw
    simp only [Wrapping.writable, Bool.and_eq_true, List.all_eq_true]
    exact ⟨fun r hr => (hw.1 r hr).2, hw.2⟩) (fun _ h => h) (fun _ h => h) d h

section Document

variable {d : Draft} (h : d.fits = true)
  (hs : ∀ w datum, d = scalar w datum → ∃ c rest, datum.spelling.chars = c :: rest ∧ c ≠ ' ' ∧ c ≠ '\x7b')

include h hs

/-- Expanding a document leaves the text of its outline. -/
theorem expand_render (step : Nat) :
    expand d.choices (renderWith step d.node)
      = String.ofList ("---\n".toList ++ d.rootText (max step 2)) := by
  obtain ⟨rows, kept, hr, hf, hseg, hk⟩ := exists_rows (writable_of_fits h) hs step
  rw [hr, expand_unlines hseg hf, hk]

/-- A document without blocks is the text of its outline. -/
theorem render_of_no_choices (hc : d.choices = []) (step : Nat) :
    renderWith step d.node = String.ofList ("---\n".toList ++ d.rootText (max step 2)) :=
  render_of_writable (writable_of_fits h) hs hc step

end Document

end Draft

end RoleChart.Document
