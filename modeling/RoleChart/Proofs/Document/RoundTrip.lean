import RoleChart.Proofs.Document.Drafting
import RoleChart.Proofs.Yaml.Decoding
import RoleChart.Proofs.Yaml.Grouping
import RoleChart.Proofs.Yaml.Scanning

/-!
# Documents are read back

The text of a document is read as the value of its draft, and so is what is left of a template.

## Main statements

* `ofText_rootText` — the text of an outline is read as the value of its draft
-/

namespace RoleChart.Document

open RoleChart.Text
open RoleChart.Yaml (Outline Spelling Value Decodes maxDepth)
open RoleChart.Yaml.Outline (ReadableRemarks ReadableItems ReadableEntries itemsTrees entriesTrees remarksText)

/-! ## Scalars -/

theorem isQuotable_of_isAscii {c : Char} (h : isAscii c = true) : Yaml.isQuotable c = true :=
  forall_ascii (p := fun c => Yaml.isQuotable c = true) (by decide +kernel) h

theorem isAscii_of_isNameChar {c : Char} (h : isNameChar c = true) : isAscii c = true := by
  simp only [isNameChar, isAlphanumeric, isDigit, Bool.or_eq_true, Bool.and_eq_true, decide_eq_true_eq,
    beq_iff_eq] at h
  simp only [isAscii, decide_eq_true_eq]
  rcases h with (((((h | h) | h) | rfl) | rfl) | rfl) | rfl
  all_goals first | omega | decide

/-- A text of ASCII characters is read as one scalar, with quotes or without them. -/
theorem readable_spelling {s : List Char} (h : ∀ c ∈ s, isAscii c = true) : (spelling s).Readable := by
  have hq : ∀ c ∈ s, Yaml.isQuotable c = true := fun c hc => isQuotable_of_isAscii (h c hc)
  unfold spelling
  split
  · exact hq
  · next hn => exact Yaml.readable_plain hq (by simpa using hn)

/-- Its value is the text itself: one that would be read as something else has quotes. -/
theorem value_spelling (s : List Char) : (spelling s).value = .ok (.string (String.ofList s)) := by
  unfold spelling
  split
  · rfl
  · next hn => exact Yaml.plainValue_of_needsQuotes (by simpa using hn)

/-- Everything that fits a scalar is read as one. -/
theorem readable_datum {datum : Datum} (h : datum.fits = true) : datum.spelling.Readable := by
  cases datum with
  | text s =>
    simp only [Datum.fits, Bool.and_eq_true, List.all_eq_true] at h
    exact readable_spelling h.1
  | integer z => exact Yaml.readable_decimalInt z
  | flag b => cases b <;> exact ⟨by decide, by decide, List.all_eq_true.1 (by decide)⟩
  | null => exact ⟨by decide, by decide, List.all_eq_true.1 (by decide)⟩

/-- And the value is what was written. -/
theorem value_datum {datum : Datum} (h : datum.fits = true) : datum.spelling.value = .ok datum.value := by
  cases datum with
  | text s =>
    have hs := value_spelling s.toList
    rwa [String.ofList_toList] at hs
  | integer z =>
    simp only [Datum.fits, Bool.and_eq_true, decide_eq_true_eq] at h
    exact Yaml.plainValue_decimalInt h.1 h.2
  | flag b => cases b <;> rfl
  | null => rfl

/-- A name that fits is found as the key of an entry. -/
theorem readableKey_name {name : String} (h : nameFits name = true) :
    (spelling name.toList).ReadableKey := by
  have hn := isName_of_nameFits h
  have hlen : (spelling name.toList).chars.length ≤ Yaml.maxKeyLength := by
    rw [nameFits, Bool.and_eq_true, decide_eq_true_eq] at h
    have e : quoteKey name.toList = (spelling name.toList).chars := by
      rw [quoteKey, isTemplated_name hn, if_neg (by simp), chars_spelling (isTemplated_name hn)]
    rw [← e]
    exact h.2
  have hascii : ∀ c ∈ name.toList, isAscii c = true := by
    simp only [isName, Bool.and_eq_true, List.all_eq_true] at hn
    exact fun c hc => isAscii_of_isNameChar (hn.2 c hc)
  exact ⟨readable_spelling hascii, hlen⟩

/-- No name begins a line as the mark of a document does. -/
theorem marksDocument_name {name : String} (h : nameFits name = true) :
    Yaml.marksDocument (spelling name.toList).chars = false := by
  obtain ⟨-, c, rest, hc, -, -, hdash, hdot⟩ := chars_name (isName_of_nameFits h)
  exact Yaml.marksDocument_of_head (by simpa [hc] using hdash) (by simpa [hc] using hdot)

/-! ## Words and short names -/

theorem isName_of_isWord {s : String} (h : isWord s = true) : isName s = true := by
  simp only [isWord, Bool.and_eq_true, List.all_eq_true] at h
  simp only [isName, Bool.and_eq_true, List.all_eq_true]
  refine ⟨h.1.1.1, fun c hc => ?_⟩
  simp [isNameChar, h.1.1.2 c hc]

theorem chars_word {datum : Datum} (h : datum.isWord = true) :
    ∃ c rest, datum.spelling.chars = c :: rest ∧ c ≠ ' ' ∧ c ≠ '\x7b' ∧ c ≠ '-' ∧ c ≠ '.' := by
  cases datum with
  | text s => exact (chars_name (isName_of_isWord h)).2
  | integer z => exact absurd h (by simp [Datum.isWord])
  | flag b => exact absurd h (by simp [Datum.isWord])
  | null => exact absurd h (by simp [Datum.isWord])

/-- A word fits a scalar. -/
theorem fits_of_isWord {datum : Datum} (h : datum.isWord = true) : datum.fits = true := by
  cases datum with
  | text s =>
    have hn := isName_of_isWord h
    have hb := isTemplated_name hn
    simp only [isName, Bool.and_eq_true, List.all_eq_true] at hn
    simp only [Datum.fits, Bool.and_eq_true, List.all_eq_true, Bool.not_eq_true']
    exact ⟨fun c hc => isAscii_of_isNameChar (hn.2 c hc), hb⟩
  | integer z => exact absurd h (by simp [Datum.isWord])
  | flag b => exact absurd h (by simp [Datum.isWord])
  | null => exact absurd h (by simp [Datum.isWord])

/-- A word needs no quotes. -/
theorem needsQuotes_word {s : String} (h : isWord s = true) : needsQuotes s.toList = false := by
  simp only [isWord, Bool.and_eq_true, List.all_eq_true, Bool.not_eq_true'] at h
  obtain ⟨⟨⟨hl, hc⟩, hr⟩, hn⟩ := h
  have all : ∀ n < 0x80, isAlphanumeric (Char.ofNat n) = true → isBlank (Char.ofNat n) = false ∧
      isControl (Char.ofNat n) = false ∧ Char.ofNat n ≠ ' ' ∧ Char.ofNat n ≠ ':' ∧
      (isLetter (Char.ofNat n) = true → Char.ofNat n ∉ indicators) := by decide +kernel
  have facts : ∀ c ∈ s.toList, isBlank c = false ∧ isControl c = false ∧ c ≠ ' ' ∧ c ≠ ':' ∧
      (isLetter c = true → c ∉ indicators) := by
    intro c hm
    have ha : isAscii c = true := isAscii_of_isNameChar (by simp [isNameChar, hc c hm])
    exact forall_ascii (p := fun c => isAlphanumeric c = true → isBlank c = false ∧ isControl c = false ∧
      c ≠ ' ' ∧ c ≠ ':' ∧ (isLetter c = true → c ∉ indicators)) all ha (hc c hm)
  have hcolon : occurs [':', ' '] s.toList = false := by
    rw [Bool.eq_false_iff, ne_eq, occurs_iff]
    exact fun hi => (facts ' ' (hi.subset (by simp))).2.2.1 rfl
  have hhash : occurs [' ', '#'] s.toList = false := by
    rw [Bool.eq_false_iff, ne_eq, occurs_iff]
    exact fun hi => (facts ' ' (hi.subset (by simp))).2.2.1 rfl
  have hend : endsWith ':' s.toList = false := by
    simp only [endsWith, beq_eq_false_iff_ne]
    exact fun e => (facts ':' (List.mem_of_getLast? e)).2.2.2.1 rfl
  have hblank : hasOuterBlank s.toList = false := by
    simp only [hasOuterBlank, Bool.or_eq_false_iff, Option.any_eq_false]
    exact ⟨fun c e => by simp [(facts c (List.mem_of_head? e)).1],
      fun c e => by simp [(facts c (List.mem_of_getLast? e)).1]⟩
  have hctl : s.toList.any isControl = false := by
    rw [List.any_eq_false]
    exact fun c hm => by simp [(facts c hm).2.1]
  cases hs : s.toList with
  | nil => simp [hs] at hl
  | cons c rest =>
    have hind : indicators.contains c = false := by
      rw [List.contains_eq_mem, decide_eq_false_iff_not]
      exact (facts c (by simp [hs])).2.2.2.2 (by simpa [hs] using hl)
    rw [hs] at hblank hcolon hhash hend hctl hr hn
    simp only [needsQuotes, hblank, hind, hcolon, hhash, hend, hctl, hr, hn, Bool.or_self]

/-- A word is written without quotes, so it fits as a name if it is short enough itself. -/
theorem nameFits_of_isWord {name : String} (h : isWord name = true)
    (hs : isShort Yaml.maxKeyLength name = true) : nameFits name = true := by
  have hn := isName_of_isWord h
  have e : quoteKey name.toList = name.toList := by
    rw [quoteKey, isTemplated_name hn, if_neg (by simp), quote_eq_self_iff _ (isTemplated_name hn)]
    exact needsQuotes_word h
  rw [nameFits, hn, e]
  exact hs

/-- Quotes leave a name of a thousand characters short enough. -/
theorem nameFits_of_isShort {name : String} (h : isName name = true) (hs : isShort 1000 name = true) :
    nameFits name = true := by
  simp only [isShort, decide_eq_true_eq] at hs
  have hlen : (quoteKey name.toList).length ≤ 1002 := by
    rw [quoteKey, isTemplated_name h, if_neg (by simp), ← chars_spelling (isTemplated_name h), spelling]
    split
    · simp only [Spelling.chars, doubleQuoted, flatMap_escaped_name h, List.length_cons, List.length_append,
        List.length_nil, List.cons_append]
      omega
    · simp only [Spelling.chars]
      omega
  rw [nameFits, h, Bool.true_and, decide_eq_true_eq]
  exact Nat.le_trans hlen (by decide)

/-! ## Outlines -/

namespace Draft

theorem legible_around {d : Draft} (h : d.legible = true) : d.around.legible = true := by
  cases d <;>
  · simp only [legible, all, Bool.and_eq_true] at h
    exact h.1

/-- Legible comments stay comments for a reader. -/
theorem readable_remarks {w : Wrapping} (h : w.legible = true) : ReadableRemarks w.remarks := by
  simp only [Wrapping.legible, List.all_eq_true, Bool.and_eq_true, Bool.not_eq_true'] at h
  exact h

/-- What is printable is legible. -/
theorem Wrapping.legible_of_fits {w : Wrapping} (h : w.fits = true) : w.legible = true := by
  have all : ∀ n < 0x80, isPrintable (Char.ofNat n) = true →
      Yaml.isAllowed (Char.ofNat n) = true ∧ Yaml.isBreak (Char.ofNat n) = false := by decide +kernel
  simp only [Wrapping.fits, Bool.and_eq_true, List.all_eq_true] at h
  simp only [Wrapping.legible, List.all_eq_true, Bool.and_eq_true, Bool.not_eq_true']
  intro r hr c hc
  have hp := (h.1 r hr).1 c hc
  have ha : isAscii c = true := by
    simp only [isPrintable, Bool.and_eq_true, decide_eq_true_eq] at hp
    simp only [isAscii, decide_eq_true_eq]
    omega
  exact forall_ascii (p := fun c => isPrintable c = true → Yaml.isAllowed c = true ∧ Yaml.isBreak c = false)
    all ha hp

theorem legible_of_fits {d : Draft} (h : d.fits = true) : d.legible = true :=
  all_mono (fun _ => Wrapping.legible_of_fits) (fun _ h => h) (fun _ h => h) d h

mutual

theorem readable_outline : ∀ d : Draft, d.legible = true → d.outline.Readable
  | scalar w datum, h => by
    obtain ⟨-, hd⟩ := by simpa [legible, all] using h
    exact readable_datum hd
  | list w [], _ => trivial
  | list w (d :: items), h => by
    obtain ⟨-, hd⟩ := by simpa only [legible, all, Bool.and_eq_true] using h
    exact readable_items (d :: items) hd
  | mapping w [], _ => trivial
  | mapping w ((name, d) :: entries), h => by
    obtain ⟨-, hd⟩ := by simpa only [legible, all, Bool.and_eq_true] using h
    exact readable_entries ((name, d) :: entries) hd

/-- The items of a legible list can be read. -/
theorem readable_items : ∀ items : List Draft,
    allItems Wrapping.legible Datum.fits nameFits items = true → ReadableItems (itemOutlines items)
  | [], _ => trivial
  | d :: items, h => by
    obtain ⟨hd, hs⟩ := by simpa only [allItems, Bool.and_eq_true] using h
    have hitems := readable_items items hs
    rw [itemOutlines]
    split
    · exact ⟨readable_remarks (legible_around hd), readable_outline d hd, hitems⟩
    · exact hitems

/-- The entries of a legible mapping can be read. -/
theorem readable_entries : ∀ entries : List (String × Draft),
    allEntries Wrapping.legible Datum.fits nameFits entries = true →
    ReadableEntries (entryOutlines entries)
  | [], _ => trivial
  | (name, d) :: entries, h => by
    simp only [allEntries, Bool.and_eq_true] at h
    obtain ⟨⟨⟨hn, hd⟩, -⟩, hs⟩ := h
    have hentries := readable_entries entries hs
    rw [entryOutlines]
    split
    · exact ⟨readable_remarks (legible_around hd), readableKey_name hn, readable_outline d hd, hentries⟩
    · exact hentries

end

/-- No key of a document is a mark. -/
theorem marksDocument_entryOutlines {entries : List (String × Draft)}
    (h : allEntries Wrapping.legible Datum.fits nameFits entries = true) :
    ∀ entry ∈ entryOutlines entries, Yaml.marksDocument entry.2.1.chars = false := by
  induction entries with
  | nil => exact nofun
  | cons entry entries ih =>
    obtain ⟨name, d⟩ := entry
    simp only [allEntries, Bool.and_eq_true] at h
    obtain ⟨⟨⟨hn, -⟩, -⟩, hs⟩ := h
    rw [entryOutlines]
    split
    · exact List.forall_mem_cons.2 ⟨marksDocument_name hn, ih hs⟩
    · exact ih hs

/-- At the first column of a document whose root is a word or a collection no scalar is a mark. -/
theorem rootReadable_outline {d : Draft} (h : d.legible = true)
    (hroot : ∀ w datum, d = scalar w datum → datum.isWord = true) : d.outline.RootReadable := by
  refine ⟨readable_outline d h, ?_⟩
  cases d with
  | scalar w datum =>
    obtain ⟨c, rest, hc, -, -, hdash, hdot⟩ := chars_word (hroot w datum rfl)
    refine List.forall_mem_singleton.2 (Yaml.marksDocument_of_head ?_ ?_)
    · simpa [hc] using hdash
    · simpa [hc] using hdot
  | list w items => cases items <;> exact nofun
  | mapping w entries =>
    cases entries with
    | nil => exact nofun
    | cons entry entries =>
      obtain ⟨-, hentries⟩ := by simpa only [legible, all, Bool.and_eq_true] using h
      exact List.forall_mem_map.2 (marksDocument_entryOutlines hentries)

/-! ## Values -/

/-- A list of which something is left is decoded to a sequence; one that loses everything is decoded to nothing.
-/
theorem decodes_someItems {depth : Nat} {outlines : List (List (List Char) × Outline)}
    {values : List Value} (hlen : values.length = outlines.length)
    (h : Decodes ((itemsTrees outlines).mapM fun item => Yaml.Decode.valueWithin depth item) values) :
    Decodes (Yaml.Decode.valueWithin (depth + 1) (Outline.sequence outlines).tree) (someItems values) := by
  cases outlines with
  | nil =>
    obtain rfl := List.length_eq_zero_iff.1 hlen
    rw [Outline.tree]
    exact Yaml.decodes_empty _
  | cons o outlines =>
    have hne : values.isEmpty = false := by cases values <;> simp at hlen ⊢
    rw [Outline.tree, someItems, hne]
    exact Yaml.decodes_sequence h

/-- The same for a mapping. -/
theorem decodes_someEntries {depth : Nat} {inline : Bool}
    {outlines : List (List (List Char) × Spelling × Outline)} {values : List (Value × Value)}
    (hlen : values.length = outlines.length)
    (h : Decodes (Yaml.Decode.distinctEntries (fun part => Yaml.Decode.valueWithin depth part) []
      (entriesTrees outlines)) values) :
    Decodes (Yaml.Decode.valueWithin (depth + 1) (Outline.mapping inline outlines).tree)
      (someEntries values) := by
  cases outlines with
  | nil =>
    obtain rfl := List.length_eq_zero_iff.1 hlen
    rw [Outline.tree]
    exact Yaml.decodes_empty _
  | cons o outlines =>
    have hne : values.isEmpty = false := by cases values <;> simp at hlen ⊢
    rw [Outline.tree, someEntries, hne]
    exact Yaml.decodes_mapping h

theorem length_itemValues (items : List Draft) : (itemValues items).length = (itemOutlines items).length := by
  induction items with
  | nil => rfl
  | cons d items ih =>
    rw [itemValues, itemOutlines]
    split <;> simp [ih]

theorem length_entryValues (entries : List (String × Draft)) :
    (entryValues entries).length = (entryOutlines entries).length := by
  induction entries with
  | nil => rfl
  | cons entry entries ih =>
    rw [entryValues, entryOutlines]
    split <;> simp [ih]

mutual

/-- The outline of a part is decoded as its value, as deep as the part nests. -/
theorem decodes_outline : ∀ (d : Draft) (depth : Nat), d.legible = true → d.depth ≤ depth →
    Decodes (Yaml.Decode.valueWithin depth d.outline.tree) d.value
  | scalar w datum, depth, h, _ => by
    obtain ⟨-, hd⟩ := by simpa [legible, all] using h
    exact Yaml.decodes_scalar (value_datum hd) depth
  | list w [], depth, _, hdepth => by
    obtain ⟨depth, rfl⟩ : ∃ m, depth = m + 1 := ⟨depth - 1, by simp only [Draft.depth] at hdepth; omega⟩
    rw [outline, Outline.tree, value]
    exact Yaml.decodes_sequence (decodes_items [] depth rfl (Nat.zero_le _))
  | list w (d :: items), depth, h, hdepth => by
    obtain ⟨-, hd⟩ := by simpa only [legible, all, Bool.and_eq_true] using h
    rw [Draft.depth] at hdepth
    obtain ⟨depth, rfl⟩ : ∃ m, depth = m + 1 := ⟨depth - 1, by omega⟩
    rw [outline, value]
    exact decodes_someItems (length_itemValues _) (decodes_items (d :: items) depth hd (by omega))
  | mapping w [], depth, _, hdepth => by
    obtain ⟨depth, rfl⟩ : ∃ m, depth = m + 1 := ⟨depth - 1, by simp only [Draft.depth] at hdepth; omega⟩
    rw [outline, Outline.tree, value]
    exact Yaml.decodes_mapping (decodes_entries [] depth [] rfl (Nat.zero_le _) (Yaml.fresh_nil _))
  | mapping w ((name, d) :: entries), depth, h, hdepth => by
    obtain ⟨-, hd⟩ := by simpa only [legible, all, Bool.and_eq_true] using h
    rw [Draft.depth] at hdepth
    obtain ⟨depth, rfl⟩ : ∃ m, depth = m + 1 := ⟨depth - 1, by omega⟩
    rw [outline, value]
    exact decodes_someEntries (length_entryValues _)
      (decodes_entries ((name, d) :: entries) depth [] hd (by omega) (Yaml.fresh_nil _))

/-- The items that are left are decoded one after another. -/
theorem decodes_items : ∀ (items : List Draft) (depth : Nat),
    allItems Wrapping.legible Datum.fits nameFits items = true → itemsDepth items ≤ depth →
    Decodes ((itemsTrees (itemOutlines items)).mapM fun item => Yaml.Decode.valueWithin depth item)
      (itemValues items)
  | [], _, _, _ => Yaml.decodes_pure _
  | d :: items, depth, h, hdepth => by
    obtain ⟨hd, hs⟩ := by simpa only [allItems, Bool.and_eq_true] using h
    rw [itemsDepth] at hdepth
    have hitems := decodes_items items depth hs (by omega)
    rw [itemOutlines, itemValues]
    split
    · rw [itemsTrees]
      exact Yaml.decodes_items_cons (decodes_outline d depth hd (by omega)) hitems
    · exact hitems

/-- The entries that are left are decoded behind those before them, since no name comes twice. -/
theorem decodes_entries : ∀ (entries : List (String × Draft)) (depth : Nat) (done : List (Value × Value)),
    allEntries Wrapping.legible Datum.fits nameFits entries = true → entriesDepth entries ≤ depth →
    Yaml.Fresh done (entries.map Prod.fst) →
    Decodes (Yaml.Decode.distinctEntries (fun part => Yaml.Decode.valueWithin depth part) done
      (entriesTrees (entryOutlines entries))) (done.reverse ++ entryValues entries)
  | [], _, done, _, _, _ => by
    rw [entryValues, List.append_nil]
    exact Yaml.decodes_pure _
  | (name, d) :: entries, depth, done, h, hdepth, hdone => by
    simp only [allEntries, Bool.and_eq_true, Bool.not_eq_true', List.contains_eq_mem,
      decide_eq_false_iff_not] at h
    obtain ⟨⟨⟨hn, hd⟩, hnew⟩, hs⟩ := h
    rw [entriesDepth] at hdepth
    rw [entryOutlines, entryValues]
    split
    -- an entry that is left is new among those done before, as the names of the draft differ
    · have hkey : Decodes (Yaml.Decode.valueWithin depth (Document.spelling name.toList).tree)
          (.string name) := by
        have hv := value_spelling name.toList
        rw [String.ofList_toList] at hv
        exact Yaml.decodes_scalar hv depth
      have hrest := decodes_entries entries depth ((.string name, d.value) :: done) hs (by omega)
        (hdone.cons d.value hnew)
      rw [List.reverse_cons, List.append_assoc] at hrest
      rw [entriesTrees]
      exact Yaml.decodes_entries_cons hkey hdone (decodes_outline d depth hd (by omega)) hrest
    · exact decodes_entries entries depth done hs (by omega) hdone.tail

end

/-! ## Documents -/

/-- The text of an outline is read as the value of its tree. -/
theorem ofText_outline (o : Outline) (remarks : List (List Char)) (hr : o.RootReadable)
    (hrem : ReadableRemarks remarks) {v : Value}
    (hv : Decodes (Yaml.Decode.valueWithin maxDepth o.tree) v) {step : Nat} (hstep : 0 < step) :
    Value.ofText (String.ofList ("---\n".toList ++ (remarksText 0 remarks ++ o.text step))) = .ok v := by
  have hs : Yaml.Document.ofText (String.ofList ("---\n".toList ++ (remarksText 0 remarks ++ o.text step)))
      = .ok { root := o.tree, slots := [] } := by
    rw [Yaml.Document.ofText, String.toList_ofList, Outline.ofText_text hstep hr hrem]
    exact Outline.ofTokens_tokens o
  exact Yaml.ofText_of_tree hs hv

/-- What is left of a document is read as its value, whatever its comments say. -/
theorem ofText_of_legible {d : Draft} (h : d.legible = true)
    (hroot : ∀ w datum, d = scalar w datum → datum.isWord = true) (hdepth : d.depth ≤ maxDepth)
    {step : Nat} (hstep : 0 < step) :
    Value.ofText (String.ofList ("---\n".toList ++ d.rootText step)) = .ok d.rootValue := by
  rw [rootText, rootValue]
  split
  · exact ofText_outline _ _ (rootReadable_outline h hroot) (readable_remarks (legible_around h))
      (decodes_outline d maxDepth h hdepth) hstep
  · exact ofText_outline (.sequence []) [] ⟨trivial, by simp [Outline.margin]⟩ (by simp [ReadableRemarks])
      (Yaml.decodes_empty maxDepth) hstep

/-- What is left of a document is read as its value. -/
theorem ofText_rootText {d : Draft} (h : d.fits = true)
    (hroot : ∀ w datum, d = scalar w datum → datum.isWord = true) (hdepth : d.depth ≤ maxDepth)
    {step : Nat} (hstep : 0 < step) :
    Value.ofText (String.ofList ("---\n".toList ++ d.rootText step)) = .ok d.rootValue :=
  ofText_of_legible (legible_of_fits h) hroot hdepth hstep

/-- The text of a document without blocks is read back as all that is in it: every text as that text,
and every list and mapping with the same parts in the same order. -/
theorem ofText_renderWith {d : Draft}
    (h : d.all Wrapping.fits Datum.fits (fun name => isName name && isShort 1000 name) = true)
    (hblocks : d.choices = []) (hroot : d.isCollection = true) (hdepth : d.depth ≤ maxDepth)
    (step : Nat) : Value.ofText (renderWith step d.node) = .ok d.content := by
  have hfits : d.fits = true := all_mono (fun _ h => h) (fun _ h => h) (fun name hn => by
    rw [Bool.and_eq_true] at hn
    exact nameFits_of_isShort hn.1 hn.2) d h
  have hscalar : ∀ w datum, d ≠ scalar w datum := by
    rintro w datum rfl
    simp [isCollection] at hroot
  rw [render_of_no_choices hfits (fun w datum e => absurd e (hscalar w datum)) hblocks,
    ofText_rootText hfits (fun w datum e => absurd e (hscalar w datum)) hdepth (by omega), rootValue,
    kept_of_no_choices hblocks, if_pos rfl, value_eq_content d hblocks]

/-- A document with a comment, texts that need quotes, and lists and mappings in each other. -/
def sample : Draft :=
  .mapping { comment := some "ports\n\nand hosts" }
    [("hosts", .list {} [.scalar {} (.text "yes"), .scalar {} (.text "a: b\t#"), .scalar {} (.text "web")]),
      ("ports", .list {} [.mapping {} [("min", .scalar {} (.integer (-5))), ("max", .list {} [])],
        .mapping {} []]),
      ("true", .scalar {} (.flag true)), ("rest", .scalar { comment := some "none" } .null)]

theorem ofText_renderWith_sample :
    sample.all Wrapping.fits Datum.fits (fun name => isName name && isShort 1000 name) = true ∧
      sample.choices = [] ∧ sample.isCollection = true ∧ sample.depth ≤ maxDepth ∧
      Value.ofText (renderWith 4 sample.node) = .ok sample.content :=
  ⟨by decide +kernel, rfl, rfl, by decide,
    ofText_renderWith (by decide +kernel) rfl rfl (by decide) 4⟩

/-- What is left of a template is read as the value of what is left of its tree. -/
theorem ofText_expand {d : Draft}
    (h : d.all Wrapping.fits Datum.isWord
      (fun name => isWord name && isShort Yaml.maxKeyLength name) = true)
    (hdepth : d.depth ≤ maxDepth) (step : Nat) :
    Value.ofText (expand d.choices (renderWith step d.node)) = .ok d.rootValue := by
  have hfits : d.fits = true := all_mono (fun _ h => h) (fun _ h => fits_of_isWord h) (fun name hn => by
    rw [Bool.and_eq_true] at hn
    exact nameFits_of_isWord hn.1 hn.2) d h
  have hroot : ∀ w datum, d = scalar w datum → datum.isWord = true := by
    rintro w datum rfl
    rw [all, Bool.and_eq_true] at h
    exact h.2
  have hchars : ∀ w datum, d = scalar w datum →
      ∃ c rest, datum.spelling.chars = c :: rest ∧ c ≠ ' ' ∧ c ≠ '\x7b' := by
    intro w datum e
    obtain ⟨c, rest, hc, hs, hb, -⟩ := chars_word (hroot w datum e)
    exact ⟨c, rest, hc, hs, hb⟩
  rw [expand_render hfits hchars, ofText_rootText hfits hroot hdepth (by omega)]

/-- A template with a list that loses everything, and a mapping in a list that loses its first entry. -/
def guarded : Draft :=
  .mapping {}
    [("lost", .list {} [.scalar { blocks := [("if a", true), ("if b", false)] } (.text "x")]),
      ("left", .list {} [.mapping {} [("k", .scalar { blocks := [("if c", false)] } (.text "x")),
        ("l", .scalar { comment := some "note", blocks := [("if d", true)] } (.text "z"))]])]

theorem ofText_expand_guarded :
    guarded.all Wrapping.fits Datum.isWord
        (fun name => isWord name && isShort Yaml.maxKeyLength name) = true ∧
      guarded.depth ≤ maxDepth ∧
      Value.ofText (expand guarded.choices (renderWith 2 guarded.node)) = .ok guarded.rootValue :=
  ⟨by decide +kernel, by decide, ofText_expand (by decide +kernel) (by decide) 2⟩

/-- A word of one character more than a reader allows in front of a colon. -/
def longName : List Char := List.replicate 1025 'a'

/-- A document with such a key. -/
def longDraft : Draft := .mapping {} [(String.ofList longName, .scalar {} (.text "b"))]

/-- The document is one line, with the name as it is. -/
theorem render_longDraft :
    renderWith 2 longDraft.node = String.ofList ("---\n".toList ++ (longName ++ ": b\n".toList)) := by
  have hlines : rootLines 2 longDraft.node = [⟨0, longName ++ ": b".toList⟩] := by
    simp only [longDraft, node, entryNodes, rootLines, mappingLines, entryLines, Datum.node, Node.string,
      Node.withNotes, keyText, String.toList_ofList, Wrapping.notes]
    decide +kernel
  rw [renderWith, show max 2 2 = 2 from rfl, hlines, joinTemplates_of_not_occurs (by decide +kernel)]
  exact congrArg String.ofList (by decide +kernel)

/-- Without a bound on names the expanded text need not be read at all. -/
theorem not_ofText_expand_longDraft :
    longDraft.all Wrapping.fits Datum.isWord isWord = true ∧ longDraft.depth ≤ maxDepth ∧
      Value.ofText (expand longDraft.choices (renderWith 2 longDraft.node)) ≠ .ok longDraft.rootValue := by
  refine ⟨?_, by decide, ?_⟩
  · simp only [longDraft, all, allEntries, isWord, String.toList_ofList]
    decide +kernel
  · have hexpand : expand longDraft.choices (renderWith 2 longDraft.node)
        = String.ofList ("---\n".toList ++ (longName ++ ": b\n".toList)) := by
      rw [render_longDraft, expand, String.toList_ofList]
      exact congrArg String.ofList (by decide +kernel)
    have hbad : (match Yaml.Token.ofText ("---\n".toList ++ (longName ++ ": b\n".toList)) with
        | .ok _ => false
        | .error _ => true) = true := by
      decide +kernel
    rw [hexpand, Value.ofText, Yaml.Decode.ofText, Yaml.Document.ofText, String.toList_ofList]
    split at hbad
    · exact absurd hbad (by simp)
    · next e =>
      rw [e]
      simp [bind, Except.bind]

end Draft

end RoleChart.Document
