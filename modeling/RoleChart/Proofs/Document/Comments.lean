import RoleChart.Proofs.Document.RoundTrip

/-!
# Comments of documents

A comment is for people: a document is read as the same value with its comments and without them. A writer
ends a line of a comment at a line feed alone, so this holds of comments whose lines have no character at
which a reader ends them earlier, and which a reader takes at all.

## Main statements

* `content_uncommented` — comments are no part of the content
* `mem_rootText_of_mem_remarks` — the text holds the characters of all comments
* `ofText_renderWith_uncommented` — when comments leave what is read alone
-/

namespace RoleChart.Document.Draft

open RoleChart.Text
open RoleChart.Yaml (Value isAllowed isBreak maxDepth)
open RoleChart.Yaml.Outline (remarksText tailText itemsText entriesText hang)

/-! ## Drafts with other comments -/

section Wrappings

variable (f : Wrapping → Wrapping)

mutual

/-- The draft with something else around each of its parts. -/
def mapWrapping : Draft → Draft
  | scalar w datum => scalar (f w) datum
  | list w items => list (f w) (mapItems items)
  | mapping w entries => mapping (f w) (mapEntries entries)

/-- The items of a list with something else around each of their parts. -/
def mapItems : List Draft → List Draft
  | [] => []
  | d :: items => d.mapWrapping :: mapItems items

/-- The entries of a mapping with something else around each of their parts. -/
def mapEntries : List (String × Draft) → List (String × Draft)
  | [] => []
  | (name, d) :: entries => (name, d.mapWrapping) :: mapEntries entries

end

theorem names_mapEntries (entries : List (String × Draft)) :
    (mapEntries f entries).map Prod.fst = entries.map Prod.fst := by
  induction entries with
  | nil => rfl
  | cons entry entries ih => rw [mapEntries, List.map_cons, List.map_cons, ih]

mutual

/-- What stands around the parts of a draft does not change its content. -/
theorem content_mapWrapping : ∀ d : Draft, (d.mapWrapping f).content = d.content
  | scalar _ _ => rfl
  | list _ items => by rw [mapWrapping, content, content, itemContents_mapItems items]
  | mapping _ entries => by rw [mapWrapping, content, content, entryContents_mapEntries entries]

theorem itemContents_mapItems : ∀ items : List Draft, itemContents (mapItems f items) = itemContents items
  | [] => rfl
  | d :: items => by
    rw [mapItems, itemContents, itemContents, content_mapWrapping d, itemContents_mapItems items]

theorem entryContents_mapEntries : ∀ entries : List (String × Draft),
    entryContents (mapEntries f entries) = entryContents entries
  | [] => rfl
  | (name, d) :: entries => by
    rw [mapEntries, entryContents, entryContents, content_mapWrapping d, entryContents_mapEntries entries]

end

mutual

/-- Nor how deep it is. -/
theorem depth_mapWrapping : ∀ d : Draft, (d.mapWrapping f).depth = d.depth
  | scalar _ _ => rfl
  | list _ items => by rw [mapWrapping, depth, depth, itemsDepth_mapItems items]
  | mapping _ entries => by rw [mapWrapping, depth, depth, entriesDepth_mapEntries entries]

theorem itemsDepth_mapItems : ∀ items : List Draft, itemsDepth (mapItems f items) = itemsDepth items
  | [] => rfl
  | d :: items => by rw [mapItems, itemsDepth, itemsDepth, depth_mapWrapping d, itemsDepth_mapItems items]

theorem entriesDepth_mapEntries : ∀ entries : List (String × Draft),
    entriesDepth (mapEntries f entries) = entriesDepth entries
  | [] => rfl
  | (name, d) :: entries => by
    rw [mapEntries, entriesDepth, entriesDepth, depth_mapWrapping d, entriesDepth_mapEntries entries]

end

theorem isCollection_mapWrapping (d : Draft) : (d.mapWrapping f).isCollection = d.isCollection := by
  cases d <;> rfl

mutual

/-- Nor its choices, if the blocks around each part stay. -/
theorem choices_mapWrapping (hf : ∀ w, (f w).choices = w.choices) : ∀ d : Draft,
    (d.mapWrapping f).choices = d.choices
  | scalar w _ => hf w
  | list w items => by rw [mapWrapping, choices, choices, hf w, itemChoices_mapItems hf items]
  | mapping w entries => by rw [mapWrapping, choices, choices, hf w, entryChoices_mapEntries hf entries]

theorem itemChoices_mapItems (hf : ∀ w, (f w).choices = w.choices) : ∀ items : List Draft,
    itemChoices (mapItems f items) = itemChoices items
  | [] => rfl
  | d :: items => by
    rw [mapItems, itemChoices, itemChoices, choices_mapWrapping hf d, itemChoices_mapItems hf items]

theorem entryChoices_mapEntries (hf : ∀ w, (f w).choices = w.choices) : ∀ entries : List (String × Draft),
    entryChoices (mapEntries f entries) = entryChoices entries
  | [] => rfl
  | (name, d) :: entries => by
    rw [mapEntries, entryChoices, entryChoices, choices_mapWrapping hf d,
      entryChoices_mapEntries hf entries]

end

section Tests

variable {wrapping wrapping' : Wrapping → Bool} {datum : Datum → Bool} {name : String → Bool}

mutual

/-- A test of what stands around each part is passed on to what comes in its place. -/
theorem all_mapWrapping (hf : ∀ w, wrapping w = true → wrapping' (f w) = true) : ∀ d : Draft,
    d.all wrapping datum name = true → (d.mapWrapping f).all wrapping' datum name = true
  | scalar w x, h => by
    simp only [all, Bool.and_eq_true] at h
    simp only [mapWrapping, all, Bool.and_eq_true]
    exact ⟨hf w h.1, h.2⟩
  | list w items, h => by
    simp only [all, Bool.and_eq_true] at h
    simp only [mapWrapping, all, Bool.and_eq_true]
    exact ⟨hf w h.1, allItems_mapItems hf items h.2⟩
  | mapping w entries, h => by
    simp only [all, Bool.and_eq_true] at h
    simp only [mapWrapping, all, Bool.and_eq_true]
    exact ⟨hf w h.1, allEntries_mapEntries hf entries h.2⟩

theorem allItems_mapItems (hf : ∀ w, wrapping w = true → wrapping' (f w) = true) :
    ∀ items : List Draft, allItems wrapping datum name items = true →
      allItems wrapping' datum name (mapItems f items) = true
  | [], _ => rfl
  | d :: items, h => by
    simp only [allItems, Bool.and_eq_true] at h
    simp only [mapItems, allItems, Bool.and_eq_true]
    exact ⟨all_mapWrapping hf d h.1, allItems_mapItems hf items h.2⟩

theorem allEntries_mapEntries (hf : ∀ w, wrapping w = true → wrapping' (f w) = true) :
    ∀ entries : List (String × Draft), allEntries wrapping datum name entries = true →
      allEntries wrapping' datum name (mapEntries f entries) = true
  | [], _ => rfl
  | (key, d) :: entries, h => by
    simp only [allEntries, Bool.and_eq_true] at h
    simp only [mapEntries, allEntries, Bool.and_eq_true, names_mapEntries]
    exact ⟨⟨⟨h.1.1.1, all_mapWrapping hf d h.1.1.2⟩, h.1.2⟩, allEntries_mapEntries hf entries h.2⟩

end

end Tests

end Wrappings

/-- The draft without its comments. -/
def uncommented (d : Draft) : Draft := d.mapWrapping fun w => { w with comment := none }

/-- So a draft has the content that it has without its comments. -/
theorem content_uncommented (d : Draft) : d.uncommented.content = d.content := content_mapWrapping _ d

theorem depth_uncommented (d : Draft) : d.uncommented.depth = d.depth := depth_mapWrapping _ d

theorem choices_uncommented (d : Draft) : d.uncommented.choices = d.choices :=
  choices_mapWrapping (fun w : Wrapping => { w with comment := none }) (fun _ => rfl) d

/-! ## The lines of all comments -/

mutual

/-- The lines of the comments inside a part. -/
def innerRemarks : Draft → List (List Char)
  | scalar _ _ => []
  | list _ items => itemRemarks items
  | mapping _ entries => entryRemarks entries

/-- The lines of the comments of the items of a list, and inside them. -/
def itemRemarks : List Draft → List (List Char)
  | [] => []
  | d :: items => d.around.remarks ++ innerRemarks d ++ itemRemarks items

/-- The lines of the comments of the entries of a mapping, and inside them. -/
def entryRemarks : List (String × Draft) → List (List Char)
  | [] => []
  | (_, d) :: entries => d.around.remarks ++ innerRemarks d ++ entryRemarks entries

end

/-- The lines of all comments of a draft. -/
def remarks (d : Draft) : List (List Char) := d.around.remarks ++ d.innerRemarks

section Remarks

variable {wrapping : Wrapping → Bool} {datum : Datum → Bool} {name : String → Bool}
  {test : List Char → Bool}

mutual

/-- A test of the lines of all comments is one of the comment of each part. -/
theorem all_of_remarks : ∀ d : Draft, d.all wrapping datum name = true →
    (∀ r ∈ d.remarks, test r = true) → d.all (fun w => w.remarks.all test) datum name = true
  | scalar w x, h, hr => by
    simp only [all, Bool.and_eq_true, List.all_eq_true] at h ⊢
    exact ⟨fun r hm => hr r (List.mem_append_left _ hm), h.2⟩
  | list w items, h, hr => by
    simp only [all, Bool.and_eq_true, List.all_eq_true] at h ⊢
    exact ⟨fun r hm => hr r (List.mem_append_left _ hm),
      allItems_of_remarks items h.2 fun r hm => hr r (List.mem_append_right _ hm)⟩
  | mapping w entries, h, hr => by
    simp only [all, Bool.and_eq_true, List.all_eq_true] at h ⊢
    exact ⟨fun r hm => hr r (List.mem_append_left _ hm),
      allEntries_of_remarks entries h.2 fun r hm => hr r (List.mem_append_right _ hm)⟩

theorem allItems_of_remarks : ∀ items : List Draft, allItems wrapping datum name items = true →
    (∀ r ∈ itemRemarks items, test r = true) →
      allItems (fun w => w.remarks.all test) datum name items = true
  | [], _, _ => rfl
  | d :: items, h, hr => by
    simp only [allItems, Bool.and_eq_true] at h ⊢
    exact ⟨all_of_remarks d h.1 fun r hm => hr r (List.mem_append_left _ hm),
      allItems_of_remarks items h.2 fun r hm => hr r (List.mem_append_right _ hm)⟩

theorem allEntries_of_remarks : ∀ entries : List (String × Draft),
    allEntries wrapping datum name entries = true → (∀ r ∈ entryRemarks entries, test r = true) →
      allEntries (fun w => w.remarks.all test) datum name entries = true
  | [], _, _ => rfl
  | (key, d) :: entries, h, hr => by
    simp only [allEntries, Bool.and_eq_true] at h ⊢
    exact ⟨⟨⟨h.1.1.1, all_of_remarks d h.1.1.2 fun r hm => hr r (List.mem_append_left _ hm)⟩, h.1.2⟩,
      allEntries_of_remarks entries h.2 fun r hm => hr r (List.mem_append_right _ hm)⟩

end

end Remarks

/-! ## Comments in the text -/

/-- The characters of a comment stand in the lines that are written for it. -/
theorem mem_remarksText {remarks : List (List Char)} {r : List Char} {c : Char} (hr : r ∈ remarks)
    (hc : c ∈ r) (n : Nat) : c ∈ remarksText n remarks := by
  refine List.mem_flatMap.2 ⟨r, hr, ?_⟩
  have hne : r.isEmpty = false := by
    cases r with
    | nil => exact absurd hc List.not_mem_nil
    | cons d r => rfl
  simp [Line.remark, Line.chars, hne, hc]

/-- Only what stands in front of a column is dropped behind a dash. -/
theorem mem_hang {inline : Bool} {n : Nat} {text : List Char} {c : Char} (hc : c ∈ text)
    (hfront : inline = true → c ∉ text.take n) : c ∈ hang inline n text := by
  unfold hang
  split
  · next h =>
    rw [Bool.and_eq_true] at h
    rw [← List.take_append_drop n text, List.mem_append] at hc
    exact List.mem_cons_of_mem _ (hc.resolve_left (hfront h.1))
  · exact List.mem_cons_of_mem _ hc

section Text

variable {step : Nat} {r : List Char} {c : Char}

mutual

/-- The text of a part holds the comments inside it. -/
theorem mem_tailText (hc : c ∈ r) (hs : c ≠ ' ') : ∀ (d : Draft) (dash : Bool) (n : Nat),
    d.choices = [] → r ∈ d.innerRemarks → c ∈ tailText step dash n d.outline
  | scalar _ _, _, _, _, hr => absurd hr List.not_mem_nil
  | list _ [], _, _, _, hr => absurd hr List.not_mem_nil
  | list w (d :: items), dash, n, h, hr => by
    rw [choices, List.append_eq_nil_iff] at h
    rw [outline, tailText]
    exact List.mem_cons_of_mem _ (mem_itemsText hc hs (d :: items) (n + step) h.2 hr)
  | mapping _ [], _, _, _, hr => absurd hr List.not_mem_nil
  | mapping w ((name, d) :: entries), dash, n, h, hr => by
    rw [choices, List.append_eq_nil_iff] at h
    rw [outline, tailText]
    split
    · refine mem_hang (mem_entriesText hc hs ((name, d) :: entries) (n + 2) h.2 hr) fun hinline => ?_
      -- the first entry has no comment, so only its indentation stands in front of the column
      have hkept : d.around.kept = true := by
        have hd := h.2
        rw [entryChoices, List.append_eq_nil_iff] at hd
        exact kept_of_no_choices hd.1
      have hnone : d.around.remarks = [] := by
        have hnotes := eq_of_isEmpty hinline
        rw [Wrapping.notes, Notes.mk.injEq] at hnotes
        rw [Wrapping.remarks, hnotes.1]
        rfl
      rw [entryOutlines, if_pos hkept, entriesText, hnone]
      have hfront : (remarksText (n + 2) [] ++ (List.replicate (n + 2) ' '
          ++ ((Document.spelling name.toList).chars ++ ':' :: tailText step false (n + 2) d.outline))
          ++ entriesText step (n + 2) (entryOutlines entries)).take (n + 2) = List.replicate (n + 2) ' ' := by
        have hempty : remarksText (n + 2) [] = [] := rfl
        rw [hempty, List.nil_append, List.append_assoc, List.take_left' List.length_replicate]
      rw [hfront]
      exact not_mem_spaces hs _
    · exact List.mem_cons_of_mem _ (mem_entriesText hc hs ((name, d) :: entries) (n + step) h.2 hr)

/-- The characters of a comment in a list stand in the text of the list, unless they are spaces: those may be
taken for the front of a line. -/
theorem mem_itemsText (hc : c ∈ r) (hs : c ≠ ' ') : ∀ (items : List Draft) (n : Nat),
    itemChoices items = [] → r ∈ itemRemarks items → c ∈ itemsText step n (itemOutlines items)
  | [], _, _, hr => absurd hr List.not_mem_nil
  | d :: items, n, h, hr => by
    rw [itemChoices, List.append_eq_nil_iff] at h
    rw [itemOutlines, if_pos (kept_of_no_choices h.1), itemsText]
    rw [itemRemarks, List.mem_append, List.mem_append] at hr
    simp only [List.mem_append, List.mem_cons]
    rcases hr with (hr | hr) | hr
    · exact .inl (.inl (mem_remarksText hr hc n))
    · exact .inl (.inr (.inr (.inr (mem_tailText hc hs d true n h.1 hr))))
    · exact .inr (mem_itemsText hc hs items n h.2 hr)

/-- The same for the comments in a mapping. -/
theorem mem_entriesText (hc : c ∈ r) (hs : c ≠ ' ') : ∀ (entries : List (String × Draft)) (n : Nat),
    entryChoices entries = [] → r ∈ entryRemarks entries → c ∈ entriesText step n (entryOutlines entries)
  | [], _, _, hr => absurd hr List.not_mem_nil
  | (name, d) :: entries, n, h, hr => by
    rw [entryChoices, List.append_eq_nil_iff] at h
    rw [entryOutlines, if_pos (kept_of_no_choices h.1), entriesText]
    rw [entryRemarks, List.mem_append, List.mem_append] at hr
    simp only [List.mem_append, List.mem_cons]
    rcases hr with (hr | hr) | hr
    · exact .inl (.inl (mem_remarksText hr hc n))
    · exact .inl (.inr (.inr (.inr (.inr (mem_tailText hc hs d false n h.1 hr)))))
    · exact .inr (mem_entriesText hc hs entries n h.2 hr)

end

/-- The text of a document holds the characters of all comments. -/
theorem mem_rootText_of_mem_remarks {d : Draft} (h : d.choices = []) (hr : r ∈ d.remarks) (hc : c ∈ r)
    (hs : c ≠ ' ') : c ∈ d.rootText step := by
  rw [rootText, if_pos (kept_of_no_choices h)]
  rcases List.mem_append.1 hr with hr | hr
  · exact List.mem_append_left _ (mem_remarksText hr hc 0)
  · refine List.mem_append_right _ ?_
    cases d with
    | scalar w datum => exact absurd hr List.not_mem_nil
    | list w items =>
      rw [choices, List.append_eq_nil_iff] at h
      cases items with
      | nil => exact absurd hr List.not_mem_nil
      | cons d items => exact mem_itemsText hc hs (d :: items) 0 h.2 hr
    | mapping w entries =>
      rw [choices, List.append_eq_nil_iff] at h
      cases entries with
      | nil => exact absurd hr List.not_mem_nil
      | cons entry entries => exact mem_entriesText hc hs (entry :: entries) 0 h.2 hr

end Text

/-! ## Reading with and without comments -/

mutual

/-- Where no part has a block there are no conditions. -/
theorem choices_of_all {wrapping : Wrapping → Bool} {datum : Datum → Bool} {name : String → Bool}
    (hw : ∀ w, wrapping w = true → w.blocks = []) : ∀ d : Draft, d.all wrapping datum name = true →
      d.choices = []
  | scalar w x, h => by
    simp only [all, Bool.and_eq_true] at h
    rw [choices, Wrapping.choices, hw w h.1, List.map_nil]
  | list w items, h => by
    simp only [all, Bool.and_eq_true] at h
    rw [choices, Wrapping.choices, hw w h.1, itemChoices_of_all hw items h.2]
    rfl
  | mapping w entries, h => by
    simp only [all, Bool.and_eq_true] at h
    rw [choices, Wrapping.choices, hw w h.1, entryChoices_of_all hw entries h.2]
    rfl

theorem itemChoices_of_all {wrapping : Wrapping → Bool} {datum : Datum → Bool} {name : String → Bool}
    (hw : ∀ w, wrapping w = true → w.blocks = []) : ∀ items : List Draft,
      allItems wrapping datum name items = true → itemChoices items = []
  | [], _ => rfl
  | d :: items, h => by
    simp only [allItems, Bool.and_eq_true] at h
    rw [itemChoices, choices_of_all hw d h.1, itemChoices_of_all hw items h.2, List.append_nil]

theorem entryChoices_of_all {wrapping : Wrapping → Bool} {datum : Datum → Bool} {name : String → Bool}
    (hw : ∀ w, wrapping w = true → w.blocks = []) : ∀ entries : List (String × Draft),
      allEntries wrapping datum name entries = true → entryChoices entries = []
  | [], _ => rfl
  | (key, d) :: entries, h => by
    simp only [allEntries, Bool.and_eq_true] at h
    rw [entryChoices, choices_of_all hw d h.1.1.2, entryChoices_of_all hw entries h.2, List.append_nil]

end

/-- Whether nothing but a comment without template expressions stands around a part. -/
def isRemark (w : Wrapping) : Bool :=
  w.blocks.isEmpty && w.comment.all fun text => !isTemplated text.toList

/-- The lines of a comment without template expressions can be written, since none of them has one. -/
theorem writable_of_isRemark {w : Wrapping} (h : isRemark w = true) : w.writable = true := by
  simp only [isRemark, Bool.and_eq_true, List.isEmpty_iff] at h
  simp only [Wrapping.writable, h.1, List.all_nil, Bool.and_true, List.all_eq_true, Bool.not_eq_true']
  intro r hr
  obtain ⟨comment, blocks⟩ := w
  cases comment with
  | none => exact absurd hr List.not_mem_nil
  | some text =>
    have htext : isTemplated text.toList = false := by simpa using h.2
    rw [isTemplated, Bool.eq_false_iff, ne_eq, occurs_iff] at htext ⊢
    exact fun hi => htext (hi.trans (infix_of_mem_lines hr))

/-- Without its comments a draft with no blocks can be written. -/
theorem writable_uncommented {d : Draft} (h : d.all isRemark Datum.fits nameFits = true) :
    d.uncommented.writable = true :=
  all_mapWrapping _ (fun w hw => by
    have hblocks : w.blocks = [] := by
      simp only [isRemark, Bool.and_eq_true, List.isEmpty_iff] at hw
      exact hw.1
    simp [Wrapping.writable, Wrapping.remarks, hblocks]) d h

/-- And no comment is left that a reader could end early. -/
theorem legible_uncommented {d : Draft} (h : d.all isRemark Datum.fits nameFits = true) :
    d.uncommented.legible = true :=
  all_mapWrapping _ (fun w _ => by simp [Wrapping.legible, Wrapping.remarks]) d h

/-- A document whose comments end where a reader ends them is read as its content. -/
theorem ofText_renderWith_of_legible {d : Draft} (hw : d.writable = true) (hl : d.legible = true)
    (hc : d.choices = []) (hroot : d.isCollection = true) (hdepth : d.depth ≤ maxDepth) (step : Nat) :
    Value.ofText (renderWith step d.node) = .ok d.content := by
  have hscalar : ∀ w datum, d ≠ scalar w datum := by
    rintro w datum rfl
    simp [isCollection] at hroot
  rw [render_of_writable hw (fun w datum e => absurd e (hscalar w datum)) hc,
    ofText_of_legible hl (fun w datum e => absurd e (hscalar w datum)) hdepth (by omega), rootValue,
    kept_of_no_choices hc, if_pos rfl, value_eq_content d hc]

/-- A document is read as its content without its comments. With them it is not read at all if one of them
holds a character that no document holds, and it is read as its content if that is not so and a reader ends
no line of them early. -/
theorem ofText_renderWith_uncommented {d : Draft}
    (h : d.all isRemark Datum.fits (fun name => isName name && isShort 1000 name) = true)
    (hroot : d.isCollection = true) (hdepth : d.depth ≤ maxDepth) (step : Nat) :
    Value.ofText (renderWith step d.uncommented.node) = .ok d.content ∧
      ((∃ r ∈ d.remarks, ∃ c ∈ r, isAllowed c = false) →
        Value.ofText (renderWith step d.node) = .error .character) ∧
      ((∀ r ∈ d.remarks, ∀ c ∈ r, isAllowed c = true ∧ isBreak c = false) →
        Value.ofText (renderWith step d.node) = .ok d.content) := by
  have hfits : d.all isRemark Datum.fits nameFits = true := all_mono (fun _ h => h) (fun _ h => h)
    (fun name hn => by
      rw [Bool.and_eq_true] at hn
      exact nameFits_of_isShort hn.1 hn.2) d h
  have hchoices : d.choices = [] := choices_of_all (fun w hw => by
    simp only [isRemark, Bool.and_eq_true, List.isEmpty_iff] at hw
    exact hw.1) d hfits
  have hwritable : d.writable = true :=
    all_mono (fun _ => writable_of_isRemark) (fun _ h => h) (fun _ h => h) d hfits
  refine ⟨?_, ?_, ?_⟩
  · have hroot' : d.uncommented.isCollection = true := (isCollection_mapWrapping _ d).trans hroot
    rw [← content_uncommented]
    exact ofText_renderWith_of_legible (writable_uncommented hfits) (legible_uncommented hfits)
      ((choices_uncommented d).trans hchoices) hroot' ((depth_uncommented d).symm ▸ hdepth) step
  · rintro ⟨r, hr, c, hc, hbad⟩
    have hspace : c ≠ ' ' := by
      rintro rfl
      exact absurd hbad (by decide)
    have hscalar : ∀ w datum, d ≠ scalar w datum := by
      rintro w datum rfl
      simp [isCollection] at hroot
    rw [render_of_writable hwritable (fun w datum e => absurd e (hscalar w datum)) hchoices]
    exact Yaml.ofText_of_not_allowed (List.mem_append_right _
      (mem_rootText_of_mem_remarks hchoices hr hc hspace)) hbad
  · intro hremarks
    refine ofText_renderWith_of_legible hwritable ?_ hchoices hroot hdepth step
    refine all_of_remarks d hfits fun r hr => ?_
    simp only [List.all_eq_true, Bool.and_eq_true, Bool.not_eq_true']
    exact hremarks r hr

/-- Comments above an item, above the first entry of a mapping in a list, and on the root: letters of any
script, marks of other documents and what would be content without the comment sign. -/
def remarked : Draft :=
  .mapping { comment := some "---\r\n- über b: 2\n" }
    [("a", .list {} [.mapping {} [("b", .scalar { comment := some "\n# x: {y}\n" } (.integer 1))],
      .scalar { comment := some "%TAG \t ->" } (.text "c")])]

theorem ofText_renderWith_remarked :
    remarked.all isRemark Datum.fits (fun name => isName name && isShort 1000 name) = true ∧
      remarked.isCollection = true ∧ remarked.depth ≤ maxDepth ∧
      (∀ r ∈ remarked.remarks, ∀ c ∈ r, isAllowed c = true ∧ isBreak c = false) ∧
      Value.ofText (renderWith 2 remarked.node) = .ok remarked.content := by
  have hall : remarked.all isRemark Datum.fits (fun name => isName name && isShort 1000 name) = true := by
    decide +kernel
  have hremarks : ∀ r ∈ remarked.remarks, ∀ c ∈ r, isAllowed c = true ∧ isBreak c = false := by
    decide +kernel
  exact ⟨hall, rfl, by decide, hremarks,
    (ofText_renderWith_uncommented hall rfl (by decide) 2).2.2 hremarks⟩

-- a carriage return inside a line of a comment ends it for a reader, and what follows is content
example :
    let d : Draft := .mapping {} [("a", .scalar { comment := some "x\rb: 2" } (.integer 1))]
    d.all isRemark Datum.fits (fun name => isName name && isShort 1000 name) = true ∧
      (Value.ofText (renderWith 2 d.node)).toOption.any
        (Value.same (.mapping [(.string "b", .int 2), (.string "a", .int 1)])) = true := by
  decide +kernel

end RoleChart.Document.Draft
