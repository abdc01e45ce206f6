import RoleChart.Proofs.Document.OfValue
import RoleChart.Proofs.Yaml.Keeping
import RoleChart.Proofs.Yaml.Separators

/-!
# Literal texts of any characters

A text that is data is written so that a reader gives it back, whatever characters it holds, with two
exceptions. Characters that no document may hold are written as they are unless they are control
characters. And the separators of lines and of paragraphs are no control characters, so they are neither
escaped nor a reason for quotes, while a reader takes them for line breaks.

## Main statements

* `ofText_quoted` — a quoted text is read as what folding leaves of it
* `ofText_plain_ne` — a plain text with a separator is never read back
* `ofText_literal_iff` — the texts that are read back
-/

namespace RoleChart.Document

open RoleChart.Text
open RoleChart.Yaml
open RoleChart.Built (bind_eq_ok_iff)

/-! ## The document of one text -/

/-- A mapping of one entry, whose name is a letter, with these characters for its value. -/
def entryText (chars : List Char) : List Char :=
  '-' :: '-' :: '-' :: '\n' :: 'k' :: ':' :: ' ' :: (chars ++ ['\n'])

/-- Such a document is one line below its opening mark, and there is none that it could be joined with. -/
theorem joinTemplates_entryText {chars : List Char} (h : '\n' ∉ chars) :
    joinTemplates (entryText chars) = entryText chars := by
  have hunlines : unlines [['-', '-', '-'], 'k' :: ':' :: ' ' :: chars] = entryText chars := by
    simp [unlines, entryText]
  have hclose : closesOnLines [['-', '-', '-'], 'k' :: ':' :: ' ' :: chars] = true := by
    have hfirst : leavesOpen ['-', '-', '-'] = false := by decide +kernel
    rw [closesOnLines, hfirst, if_neg (by simp), closesOnLines]
    split <;> rfl
  have hfeed : ∀ line ∈ [['-', '-', '-'], 'k' :: ':' :: ' ' :: chars], '\n' ∉ line := by simp [h]
  rw [← hunlines]
  exact (joinTemplates_unlines_iff hfeed).2 hclose

theorem render_literal (t : String) : render (.entries [("k", .literal t)])
    = String.ofList (entryText (quoteLiteral t.toList)) := by
  have hfeed : '\n' ∉ quoteLiteral t.toList := by
    rw [← chars_literalSpelling]
    exact feed_literalSpelling t.toList
  have hkey : keyText "k" = ['k', ':'] := by decide +kernel
  have hlines : rootLines (max defaultStep 2) (.entries [("k", .literal t)])
      = [⟨0, ['k', ':'] ++ [' '] ++ quoteLiteral t.toList⟩] := by
    simp only [Node.entries, Node.literal, rootLines, mappingLines, entryLines, around_nil,
      String.toList_ofList, scalarLines_single hfeed, hkey, List.append_nil]
  rw [render, renderWith, hlines, ← joinTemplates_entryText hfeed]
  simp [entryText, Line.chars]

/-- The outline of such a mapping. -/
def entryOutline (s : Spelling) : Outline := .mapping true [([], .plain ['k'], .scalar s)]

/-- The tree of such a mapping is decoded as its one entry. -/
theorem decodes_entry {s : Spelling} {v : Value} (h : s.value = .ok v) :
    Decodes (Decode.valueWithin maxDepth (entryOutline s).tree) (.mapping [(.string "k", v)]) := by
  have hkey : (Spelling.plain ['k']).value = .ok (.string "k") :=
    plainValue_of_needsQuotes (by decide +kernel)
  have hnone : Decodes (Decode.distinctEntries (fun part => Decode.valueWithin 127 part)
      [(.string "k", v)] []) [(.string "k", v)] := decodes_pure _
  exact decodes_mapping (decodes_entries_cons (decodes_scalar hkey 127) (fresh_nil ["k"]) (decodes_scalar h 127)
    hnone)

/-! ## In front of the value -/

/-- The reader behind the name: the tokens so far, and the block of the mapping. -/
def valueFrame : Frame :=
  ⟨[.value, .scalar .plain "k", .key, .blockMappingStart, .documentStart], 0, [-1]⟩

theorem leads_value (chars : List Char) : ∃ c : Cursor, c.rest = chars ++ ['\n'] ∧ c.index ≠ 0 ∧
    0 < c.column ∧ Stream.Leads { cursor := { rest := entryText chars } } (valueFrame.stream c false) := by
  obtain ⟨c, hc, hstart⟩ := Outline.passes_documentStart ('k' :: ':' :: ' ' :: (chars ++ ['\n']))
  have hkey : (Spelling.plain ['k']).Readable := ⟨by decide, by decide, by decide⟩
  have hmark : c.atDocumentMark = false := by simp [Cursor.atDocumentMark, hc.rest]
  have hindent : (-1 : Int) ≤ c.column := by omega
  have hname := Stream.leads_key (f := ⟨[.documentStart], -1, []⟩) hkey (by decide) hc.rest rfl hc.index
    hindent hmark
  rw [hc.column] at hname
  have hspace : (c.skip 2).rest = ' ' :: (chars ++ ['\n']) := by simp [hc.rest]
  refine ⟨(c.skip 2).skip 1, by simp [hc.rest], by simp, by simp, ?_⟩
  exact hstart.trans (hname.trans (Outline.leads_space (by simp) hspace))

/-- If all of its characters are allowed, the text is read on from the value. -/
theorem exists_readAll {chars : List Char} (h : ∀ d ∈ chars, isAllowed d = true) :
    ∃ (c : Cursor) (fuel : Nat), c.rest = chars ++ ['\n'] ∧ c.index ≠ 0 ∧ 0 < c.column ∧ chars.length < fuel ∧
      Token.ofText (entryText chars) = (valueFrame.stream c false).readAll (fuel + 1) := by
  obtain ⟨c, hc, hi, hcol, hl⟩ := leads_value chars
  have hall : (entryText chars).all isAllowed = true := by
    rw [List.all_eq_true]
    intro d hd
    rcases List.mem_append.1 (show d ∈ ['-', '-', '-', '\n', 'k', ':', ' '] ++ (chars ++ ['\n']) from hd)
      with hd | hd
    · exact (by decide : ∀ d ∈ ['-', '-', '-', '\n', 'k', ':', ' '], isAllowed d = true) d hd
    · rcases List.mem_append.1 hd with hd | hd
      · exact h d hd
      · rw [List.mem_singleton.1 hd]
        rfl
  obtain ⟨fuel, hfuel, e⟩ := hl _ (Nat.lt_succ_self _)
  obtain ⟨fuel, rfl⟩ : ∃ m, fuel = m + 1 := ⟨fuel - 1, by omega⟩
  refine ⟨c, fuel, hc, hi, hcol, ?_, ?_⟩
  · simp only [Frame.stream, hc, List.length_append, List.length_singleton] at hfuel
    omega
  · rw [Token.ofText, if_pos hall]
    exact e

/-- A token is read at a settled place, and reading goes on behind it. -/
theorem readAll_token {s : Stream} {first : Char} {rest : List Char} (h : s.Settled)
    (hr : s.cursor.rest = first :: rest) (fuel : Nat) :
    s.readAll (fuel + 1) = s.token first rest >>= fun s' => s'.readAll fuel := by
  rw [Stream.readAll, h.next]
  simp only [bind, Except.bind, h.blocks, hr]

/-! ## Quoted texts -/

section Quoted

variable {t : List Char} (ht : ∀ d ∈ t, isControl d = true ∨ isAllowed d = true)

include ht

theorem allowed_doubleQuoted : ∀ d ∈ doubleQuoted t, isAllowed d = true := by
  intro d hd
  simp only [doubleQuoted, List.cons_append, List.mem_cons, List.mem_append, List.mem_flatMap,
    List.not_mem_nil, or_false] at hd
  rcases hd with rfl | ⟨e, he, hd⟩ | rfl
  · rfl
  · exact Spelling.isAllowed_escaped (ht e he) d hd
  · rfl

/-- The tokens of a mapping with one quoted text: what folding leaves of it. -/
theorem tokens_quoted (hm : hidesMark t = false) : Token.ofText (entryText (doubleQuoted t))
    = .ok (.documentStart :: (entryOutline (.quoted (folded t))).tokens) := by
  obtain ⟨c, fuel, hc, hi, hcol, hfuel, e⟩ := exists_readAll (allowed_doubleQuoted ht)
  obtain ⟨fuel, rfl⟩ : ∃ m, fuel = m + 1 := ⟨fuel - 1, by omega⟩
  have hc' : c.rest = '"' :: (t.flatMap escaped ++ ['"'] ++ ['\n']) := hc
  have hset : (valueFrame.stream c false).Settled :=
    Stream.settled_stream hi hc' rfl (Int.natCast_nonneg c.column)
  obtain ⟨c', hread, hrest, hindex⟩ := quotedScalar_folded hc ht hm
  have htoken : (valueFrame.stream c false).token '"' (t.flatMap escaped ++ ['"'] ++ ['\n'])
      = .ok (Stream.behind valueFrame c false (.scalar .quoted (String.ofList (folded t))) c' false) := by
    rw [Stream.token_quoted (atDocumentMark_of_column (by omega : c.column ≠ 0))]
    refine Stream.keyable_stream fun p => ?_
    simp only [Frame.stream, hread, bind, Except.bind, pure, Except.pure]
  have hbetween : (c'.between false).1.rest = [] := by
    rw [Cursor.between_feed hrest, Cursor.between_end rfl]
    rfl
  rw [e, readAll_token hset hc', htoken]
  exact Stream.readAll_end (f := valueFrame.emit [.scalar .quoted (String.ofList (folded t))])
    (by omega) hbetween fuel

/-- A quoted text is read as what folding leaves of it. -/
theorem ofText_quoted (hm : hidesMark t = false) :
    Value.ofText (String.ofList (entryText (doubleQuoted t)))
      = .ok (.mapping [(.string "k", .string (String.ofList (folded t)))]) := by
  have hdocument : Yaml.Document.ofText (String.ofList (entryText (doubleQuoted t)))
      = .ok { root := (entryOutline (.quoted (folded t))).tree, slots := [] } := by
    rw [Yaml.Document.ofText, String.toList_ofList, tokens_quoted ht hm]
    exact Outline.ofTokens_tokens (entryOutline (.quoted (folded t)))
  exact ofText_of_tree hdocument (decodes_entry rfl)

/-- Behind a separator in front of a mark a quoted text is not closed. -/
theorem ofText_quoted_unclosed (hm : hidesMark t = true) :
    Value.ofText (String.ofList (entryText (doubleQuoted t))) = .error .unclosed := by
  obtain ⟨c, fuel, hc, hi, hcol, hfuel, e⟩ := exists_readAll (allowed_doubleQuoted ht)
  have hc' : c.rest = '"' :: (t.flatMap escaped ++ ['"'] ++ ['\n']) := hc
  have hset : (valueFrame.stream c false).Settled :=
    Stream.settled_stream hi hc' rfl (Int.natCast_nonneg c.column)
  have htoken : (valueFrame.stream c false).token '"' (t.flatMap escaped ++ ['"'] ++ ['\n'])
      = .error .unclosed := by
    rw [Stream.token_quoted (atDocumentMark_of_column (by omega : c.column ≠ 0))]
    have hread := quotedScalar_unclosed hc ht hm
    simp only [Stream.quoted, Stream.keyable, Stream.saveKeyPlace, Frame.stream, Bool.not_false, if_true,
      hread, bind, Except.bind, pure, Except.pure]
  have htokens : Token.ofText (entryText (doubleQuoted t)) = .error .unclosed := by
    rw [e, readAll_token hset hc', htoken]
    rfl
  rw [Value.ofText, Decode.ofText, Yaml.Document.ofText, String.toList_ofList, htokens]
  rfl

end Quoted

/-! ## Plain texts -/

/-- A plain scalar is read as no other text than its own. -/
theorem eq_of_plainValue {s t : String} (h : plainValue s = .ok (.string t)) : t = s := by
  rw [plainValue] at h
  split at h
  · cases h
  split at h
  · cases h
  split at h
  · cases h
  · cases h
  split at h
  · exact (Value.string.inj (Except.ok.inj h)).symm
  split at h
  · cases h
  · exact (Value.string.inj (Except.ok.inj h)).symm

section Plain

variable {t : List Char}

/-- A text without separators that needs no quotes is read back. -/
theorem ofText_plain (hq : ∀ d ∈ t, isQuotable d = true) (hn : needsQuotes t = false) :
    Value.ofText (String.ofList (entryText t)) = .ok (.mapping [(.string "k", .string (String.ofList t))]) := by
  have hreadable : (entryOutline (.plain t)).RootReadable := by
    refine ⟨⟨nofun, ⟨⟨by decide, by decide, by decide⟩, by decide⟩, readable_plain hq hn, trivial⟩, ?_⟩
    exact List.forall_mem_singleton.2 rfl
  have h := Draft.ofText_outline (entryOutline (.plain t)) [] hreadable nofun
    (decodes_entry (plainValue_of_needsQuotes hn)) (show 0 < 2 by decide)
  have htext : "---\n".toList ++ (Outline.remarksText 0 [] ++ (entryOutline (.plain t)).text 2)
      = entryText t := by
    simp [entryOutline, Outline.text, Outline.entriesText, Outline.tailText, Outline.remarksText, entryText,
      Spelling.chars]
  rwa [htext] at h

/-- A plain text begins with a character at which a token begins, even if there are separators in it. -/
theorem content_of_needsQuotes (hn : needsQuotes t = false) : ∃ first rest, t = first :: rest ∧
    isGapOrBreak first = false ∧ isContent first = true ∧ first ∉ indicators := by
  obtain ⟨first, rest, rfl, hblank, hindicator, -, -, -, hctl, -⟩ := of_needsQuotes hn
  have hedge : isBlank first = false := by
    simp only [hasOuterBlank, Bool.or_eq_false_iff] at hblank
    simpa using hblank.1
  have hgap : isGapOrBreak first = false := by
    rw [Bool.eq_false_iff]
    intro hgap
    have hfolded := isFolded_of_isGapOrBreak hgap (hctl first List.mem_cons_self)
    simp only [isFolded, Bool.or_eq_true, beq_iff_eq] at hfolded
    rcases hfolded with rfl | hfolded
    · exact absurd hedge (by decide)
    · rcases eq_of_isSeparator hfolded with rfl | rfl <;> exact absurd hedge (by decide)
  have hhash : first ≠ '#' := by
    rintro rfl
    exact hindicator (by decide)
  exact ⟨first, rest, rfl, hgap, by simp [isContent, hgap, hhash], hindicator⟩

/-- Where no key may begin, a plain scalar is added to the tokens and no place is remembered. -/
theorem plain_stream {f : Frame} {c : Cursor} {s : Stream} (h : (f.stream c false).plain = .ok s) :
    ∃ x broken c', plainScalar false (f.indent + 1).toNat c = .ok (x, broken, c') ∧
      s = Stream.behind f c false (Spelling.plain x).token c' broken := by
  obtain ⟨s₁, hsave, h⟩ := bind_eq_ok_iff.1 h
  obtain rfl := Except.ok.inj hsave
  obtain ⟨⟨token, k, c'⟩, htoken, h⟩ := bind_eq_ok_iff.1 h
  obtain ⟨⟨x, broken, c₂⟩, hx, htoken⟩ := bind_eq_ok_iff.1 htoken
  obtain ⟨rfl, rfl, rfl⟩ := by simpa using Except.ok.inj htoken
  obtain rfl := Except.ok.inj h
  exact ⟨x, broken, _, hx, rfl⟩

/-- A plain text with a separator is never read back: what the reader takes for the value is shorter. -/
theorem ofText_plain_ne (ht : ∀ d ∈ t, isControl d = true ∨ isAllowed d = true)
    (hn : needsQuotes t = false) (hsep : t.any isSeparator = true) :
    Value.ofText (String.ofList (entryText t)) ≠ .ok (.mapping [(.string "k", .string (String.ofList t))]) := by
  intro h
  obtain ⟨-, -, -, -, -, -, -, -, hctl, -⟩ := of_needsQuotes hn
  obtain ⟨first, rest, e, hgap, hcontent, hindicator⟩ := content_of_needsQuotes hn
  obtain ⟨c, fuel, hc, hi, hcol, -, hread⟩ := exists_readAll fun d hd =>
    (ht d hd).resolve_left (by simp [hctl d hd])
  have hc' : c.rest = first :: (rest ++ ['\n']) := by rw [hc, e]; rfl
  have hset : (valueFrame.stream c false).Settled :=
    Stream.settled_stream hi hc' hcontent (Int.natCast_nonneg c.column)
  rw [readAll_token hset hc', Stream.token_plain (atDocumentMark_of_column (by omega : c.column ≠ 0)) rfl hgap
    (Or.inl hindicator)] at hread
  -- the text is read, so its tokens are, and the plain scalar is among them
  have hdocument := h
  rw [Value.ofText, Decode.ofText, Yaml.Document.ofText, String.toList_ofList] at hdocument
  obtain ⟨document, hdocument, -⟩ := bind_eq_ok_iff.1 hdocument
  obtain ⟨tokens, htokens, -⟩ := bind_eq_ok_iff.1 hdocument
  obtain ⟨s, hs, hrest⟩ := bind_eq_ok_iff.1 (hread.symm.trans htokens)
  obtain ⟨x, broken, c', hx, rfl⟩ := plain_stream hs
  -- whatever comes behind it, this scalar stays the value
  have hkeeps : Stream.Keeps ((Spelling.plain x).token :: valueFrame.tokens)
      (Stream.behind valueFrame c false (Spelling.plain x).token c' broken) := by
    refine ⟨List.suffix_rfl, ?_, ?_⟩
    · rintro k ⟨⟩
    · rintro k ⟨⟩
  obtain ⟨more, rfl⟩ := Stream.prefix_readAll fuel hkeeps hrest
  have hall : Token.ofText (String.ofList (entryText t)).toList
      = .ok (.documentStart :: .blockMappingStart :: .key :: (Spelling.plain ['k']).token :: .value ::
          (Spelling.plain x).token :: more) := by
    rw [String.toList_ofList]
    exact htokens
  obtain ⟨key, value, others, -, hvalue, hentries⟩ := head_of_ofText hall h
  obtain ⟨⟨-, rfl⟩, -⟩ := by simpa using hentries
  obtain rfl : t = x := by simpa using congrArg String.toList (eq_of_plainValue hvalue)
  have hless := length_plainScalar_lt (by decide) hc hctl hsep hx
  omega

end Plain

/-! ## All texts -/

theorem spacesApart_of_no_separator : ∀ {t : List Char}, t.any isSeparator = false → spacesApart t = true
  | [], _ => rfl
  | [_], _ => rfl
  | c :: d :: rest, h => by
    simp only [List.any_cons, Bool.or_eq_false_iff] at h
    have hrest : spacesApart (d :: rest) = true :=
      spacesApart_of_no_separator (by simpa only [List.any_cons, Bool.or_eq_false_iff] using h.2)
    simp [spacesApart, h.1, h.2.1, hrest]

theorem hidesMark_of_no_separator {t : List Char} (h : t.any isSeparator = false) : hidesMark t = false := by
  induction t with
  | nil => rfl
  | cons c t ih =>
    rw [List.any_cons, Bool.or_eq_false_iff] at h
    rw [hidesMark, h.1, ih h.2]
    rfl

/-- Without separators all that may be written is written as itself or as an escape. -/
theorem isQuotable_of_no_separator {t : List Char} (ht : ∀ d ∈ t, isControl d = true ∨ isAllowed d = true)
    (h : t.any isSeparator = false) : ∀ d ∈ t, isQuotable d = true := by
  intro d hd
  by_cases hctl : isControl d = true
  · simp [isQuotable, hctl]
  · have hbreak : isBreak d = false := by
      rw [Bool.eq_false_iff]
      intro hb
      exact absurd (isSeparator_of_isBreak hb (by simpa using hctl)) (List.any_eq_false.1 h d hd)
    simp [isQuotable, (ht d hd).resolve_left hctl, hbreak]

/-- A character that no document may hold is written as it is, so the document is refused. -/
theorem ofText_literal_not_allowed {t : String} {d : Char} (hd : d ∈ t.toList) (hctl : isControl d = false)
    (h : isAllowed d = false) :
    Value.ofText (render (.entries [("k", .literal t)])) = .error .character := by
  have hne : ∀ e, isAllowed e = true → d ≠ e := by
    rintro e he rfl
    rw [h] at he
    exact absurd he (by simp)
  have hself : escaped d = [d] := by
    rw [escaped, if_neg (hne '"' rfl), if_neg (hne '\\' rfl), if_neg (hne '\n' rfl), if_neg (hne '\r' rfl),
      if_neg (hne '\t' rfl), if_neg (by simp [hctl])]
  have hmem : d ∈ quoteLiteral t.toList := by
    unfold quoteLiteral
    split
    · exact List.mem_append_left _ (List.mem_cons_of_mem _ (List.mem_flatMap.2 ⟨d, hd, by simp [hself]⟩))
    · exact hd
  rw [render_literal]
  exact ofText_of_not_allowed (by simp [entryText, hmem]) h

/-- What a text needs for a reader to give it back: that its characters may be written, and, if there are
separators in it, that it is written between quotes, with no space beside a separator and no mark of a
document behind one. -/
structure ReadsBack (t : List Char) : Prop where
  allowed : ∀ d ∈ t, isControl d = true ∨ isAllowed d = true
  quoted : t.any isSeparator = true → (needsQuotes t || isTemplated t) = true
  apart : spacesApart t = true
  marks : hidesMark t = false

/-- A text between quotes is read back if folding leaves all of it. -/
theorem ofText_quoted_iff {t : List Char} (ht : ∀ d ∈ t, isControl d = true ∨ isAllowed d = true) :
    Value.ofText (String.ofList (entryText (doubleQuoted t)))
        = .ok (.mapping [(.string "k", .string (String.ofList t))]) ↔
      spacesApart t = true ∧ hidesMark t = false := by
  cases hm : hidesMark t with
  | true =>
    rw [ofText_quoted_unclosed ht hm]
    simp
  | false =>
    rw [ofText_quoted ht hm, ← folded_eq_self_iff]
    simp [String.ofList_inj]

/-- The texts that are read back. -/
theorem ofText_literal_iff (t : String) :
    Value.ofText (render (.entries [("k", .literal t)])) = .ok (.mapping [(.string "k", .string t)]) ↔
      ReadsBack t.toList := by
  by_cases hbad : ∃ d ∈ t.toList, isControl d = false ∧ isAllowed d = false
  · obtain ⟨d, hd, hctl, hallowed⟩ := hbad
    rw [ofText_literal_not_allowed hd hctl hallowed]
    refine iff_of_false nofun fun h => ?_
    have := h.allowed d hd
    simp [hctl, hallowed] at this
  have ht : ∀ d ∈ t.toList, isControl d = true ∨ isAllowed d = true := by
    intro d hd
    by_cases hctl : isControl d = true
    · exact Or.inl hctl
    · refine Or.inr (Bool.not_eq_false _ ▸ fun hallowed => hbad ⟨d, hd, by simpa using hctl, hallowed⟩)
  rw [render_literal, quoteLiteral]
  have htext : String.ofList t.toList = t := String.ofList_toList
  split
  · next hq =>
    have h := ofText_quoted_iff ht
    rw [htext] at h
    rw [h]
    exact ⟨fun h => ⟨ht, fun _ => hq, h.1, h.2⟩, fun h => ⟨h.apart, h.marks⟩⟩
  · next hq =>
    simp only [Bool.or_eq_true, not_or, Bool.not_eq_true] at hq
    obtain ⟨hn, htemplated⟩ := hq
    cases hsep : t.toList.any isSeparator with
    | true =>
      have h := ofText_plain_ne ht hn hsep
      rw [htext] at h
      refine iff_of_false h fun hread => ?_
      have := hread.quoted hsep
      simp [hn, htemplated] at this
    | false =>
      have h := ofText_plain (isQuotable_of_no_separator ht hsep) hn
      rw [htext] at h
      refine iff_of_true h ⟨ht, ?_, spacesApart_of_no_separator hsep, hidesMark_of_no_separator hsep⟩
      simp [hsep]

-- a plain text is lost at a separator; between quotes only the space beside it is
example :
    let v := Value.mapping [(.string "k", .string "a\u2028b")]
    (Value.ofText (render (.entries [("k", .literal "a\u2028b")]))).toOption.any (Value.same v) = false := by
  decide +kernel

example :
    let v := Value.mapping [(.string "k", .string "\u2028a:\t\x7b\x7b")]
    (Value.ofText (render (.entries [("k", .literal "\u2028 a:\t\x7b\x7b")]))).toOption.any (Value.same v)
      = true := by
  decide +kernel

end RoleChart.Document
