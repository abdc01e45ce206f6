import RoleChart.Proofs.Document.Outlining

/-!
# Written forms of texts

What stands in a document for a text tells which text it is, with one exception. A text with a template
expression is written as it is, but put between quotes if it has a line break as well; and what then
stands there is a text with a template expression itself.

## Main statements

* `doubleQuoted_injective` — what stands between quotes tells the text
* `quote_eq_quote_iff`, `Node.string_eq_string_iff` — two texts are written alike exactly if they are the
  same text or one is the quoted form of the other, template expression included
-/

namespace RoleChart.Document

open RoleChart.Text

/-! ## Escapes -/

/-- The first character of an escaped text, and what is behind it. -/
def unescape? : List Char → Option (Char × List Char)
  | [] => none
  | '\\' :: 'u' :: rest => (Yaml.codePoint? (rest.take 4)).map fun c => (c, rest.drop 4)
  | '\\' :: letter :: rest => (Yaml.escapeChar? letter).map fun c => (c, rest)
  | c :: rest => some (c, rest)

theorem unescape?_self {c : Char} (h : c ≠ '\\') (s : List Char) : unescape? (c :: s) = some (c, s) := by
  rw [unescape?]
  · rintro rest rfl
    exact absurd rfl h
  · rintro letter rest rfl
    exact absurd rfl h

/-- An escaped character is told apart in front of any text. -/
theorem unescape?_escaped (c : Char) (s : List Char) : unescape? (escaped c ++ s) = some (c, s) := by
  unfold escaped
  split
  · next e => subst e; rfl
  split
  · next e => subst e; rfl
  split
  · next e => subst e; rfl
  split
  · next e => subst e; rfl
  split
  · next e => subst e; rfl
  split
  · next hc =>
    obtain ⟨hcode, hlength⟩ := Yaml.codePoint?_hexadecimal hc
    have hlength' : ((hexadecimal 4 c.toNat).map upperAscii).length = 4 := by simpa using hlength
    rw [List.cons_append, List.cons_append, unescape?, List.take_left' hlength', List.drop_left' hlength',
      hcode]
    rfl
  · next _ hbackslash _ _ _ _ => exact unescape?_self hbackslash s

theorem flatMap_escaped_injective {s t : List Char} (h : s.flatMap escaped = t.flatMap escaped) : s = t := by
  induction s generalizing t with
  | nil =>
    cases t with
    | nil => rfl
    | cons d t => exact absurd (List.append_eq_nil_iff.1 h.symm).1 (Yaml.escaped_ne_nil d)
  | cons c s ih =>
    cases t with
    | nil => exact absurd (List.append_eq_nil_iff.1 h).1 (Yaml.escaped_ne_nil c)
    | cons d t =>
      have hread := congrArg unescape? h
      rw [List.flatMap_cons, List.flatMap_cons, unescape?_escaped, unescape?_escaped, Option.some.injEq,
        Prod.mk.injEq] at hread
      obtain ⟨rfl, hrest⟩ := hread
      rw [ih hrest]

/-- What stands between quotes tells the text. -/
theorem doubleQuoted_injective {s t : List Char} (h : doubleQuoted s = doubleQuoted t) : s = t := by
  have hinner := List.append_cancel_right (List.cons.inj h).2
  exact flatMap_escaped_injective hinner

/-! ## Template expressions -/

/-- Quotes hide no template expression. -/
theorem isTemplated_doubleQuoted (s : List Char) : isTemplated (doubleQuoted s) = isTemplated s := by
  rw [Bool.eq_iff_iff]
  constructor
  · intro h
    cases hs : isTemplated s with
    | true => rfl
    | false => exact absurd ((occurs_iff _ _).1 h) (not_infix_doubleQuoted hs)
  · intro h
    obtain ⟨front, rest, rfl⟩ := (occurs_iff _ _).1 h
    refine (occurs_iff _ _).2 ⟨'"' :: front.flatMap escaped, rest.flatMap escaped ++ ['"'], ?_⟩
    have hbrace : escaped '\x7b' = ['\x7b'] := by decide
    simp [doubleQuoted, hbrace]

theorem feed_not_mem_doubleQuoted (s : List Char) : '\n' ∉ doubleQuoted s := by
  intro h
  exact absurd (doubleQuoted_not_control s _ h) (by decide)

theorem needsQuotes_doubleQuoted (s : List Char) : needsQuotes (doubleQuoted s) = true := by
  have hmark : indicators.contains '"' = true := by decide
  simp only [doubleQuoted, List.cons_append, needsQuotes, hmark, Bool.or_true, Bool.true_or]

theorem needsQuotes_of_feed {s : List Char} (h : '\n' ∈ s) : needsQuotes s = true := by
  have hcontrol : s.any isControl = true := List.any_eq_true.2 ⟨'\n', h, by decide⟩
  cases s with
  | nil => rfl
  | cons c s => simp only [needsQuotes, hcontrol, Bool.or_true, Bool.true_or]

/-! ## Texts that are written alike -/

/-- Whether a text is the quoted form of another one, which holds a template expression and a line break.
It holds the expression too and no line break, so it is written as it is, just like the other one. -/
def IsQuotedForm (s t : List Char) : Prop := isTemplated t = true ∧ '\n' ∈ t ∧ s = doubleQuoted t

/-- The three ways to write a text. -/
theorem quote_cases (s : List Char) :
    (quote s = s ∧ isTemplated s = true ∧ '\n' ∉ s) ∨
    (quote s = doubleQuoted s ∧ (isTemplated s = true → '\n' ∈ s)) ∨
    (quote s = s ∧ needsQuotes s = false) := by
  unfold quote
  split
  · next h =>
    rw [Bool.and_eq_true, Bool.not_eq_true', ← Bool.not_eq_true, List.contains_iff_mem] at h
    exact .inl ⟨rfl, h.1, h.2⟩
  next h =>
  split
  · refine .inr (.inl ⟨rfl, fun ht => ?_⟩)
    simpa [ht] using h
  · next hq => exact .inr (.inr ⟨rfl, Bool.not_eq_true _ ▸ hq⟩)

theorem isTemplated_quote (s : List Char) : isTemplated (quote s) = isTemplated s := by
  rcases quote_cases s with ⟨h, -⟩ | ⟨h, -⟩ | ⟨h, -⟩
  · rw [h]
  · rw [h, isTemplated_doubleQuoted]
  · rw [h]

theorem quote_of_isQuotedForm {s t : List Char} (h : IsQuotedForm s t) : quote s = quote t := by
  obtain ⟨htemplated, hfeed, rfl⟩ := h
  have hs : quote (doubleQuoted t) = doubleQuoted t := by
    simp [quote, isTemplated_doubleQuoted, htemplated, feed_not_mem_doubleQuoted]
  have ht : quote t = doubleQuoted t := by
    simp [quote, hfeed, needsQuotes_of_feed hfeed]
  rw [hs, ht]

/-- A text that is written as it is, like another one that is quoted, is its quoted form. -/
theorem isQuotedForm_of_quote {s t : List Char} (hs : quote s = s) (ht : quote t = doubleQuoted t)
    (hfeed : isTemplated t = true → '\n' ∈ t) (h : quote s = quote t)
    (hplain : isTemplated s = true ∨ needsQuotes s = false) : IsQuotedForm s t := by
  obtain rfl : s = doubleQuoted t := by rw [← hs, h, ht]
  rw [isTemplated_doubleQuoted, needsQuotes_doubleQuoted] at hplain
  have htemplated : isTemplated t = true := by simpa using hplain
  exact ⟨htemplated, hfeed htemplated, rfl⟩

/-- Two texts are written alike exactly if they are the same or one is the quoted form of the other. -/
theorem quote_eq_quote_iff {s t : List Char} :
    quote s = quote t ↔ s = t ∨ IsQuotedForm s t ∨ IsQuotedForm t s := by
  constructor
  · intro h
    -- two texts that are both quoted, or both written as they are, are the same
    rcases quote_cases s with ⟨hs, hs', -⟩ | ⟨hs, hs'⟩ | ⟨hs, hs'⟩ <;>
      rcases quote_cases t with ⟨ht, ht', -⟩ | ⟨ht, ht'⟩ | ⟨ht, ht'⟩
    · exact .inl (by rw [← hs, h, ht])
    · exact .inr (.inl (isQuotedForm_of_quote hs ht ht' h (.inl hs')))
    · exact .inl (by rw [← hs, h, ht])
    · exact .inr (.inr (isQuotedForm_of_quote ht hs hs' h.symm (.inl ht')))
    · exact .inl (doubleQuoted_injective (by rw [← hs, h, ht]))
    · exact .inr (.inr (isQuotedForm_of_quote ht hs hs' h.symm (.inr ht')))
    · exact .inl (by rw [← hs, h, ht])
    · exact .inr (.inl (isQuotedForm_of_quote hs ht ht' h (.inr hs')))
    · exact .inl (by rw [← hs, h, ht])
  · rintro (rfl | h | h)
    · rfl
    · exact quote_of_isQuotedForm h
    · exact (quote_of_isQuotedForm h).symm

theorem Node.string_eq_string_iff {x y : String} :
    Node.string x = Node.string y ↔
      x = y ∨ IsQuotedForm x.toList y.toList ∨ IsQuotedForm y.toList x.toList := by
  rw [← String.toList_inj, ← quote_eq_quote_iff]
  simp [Node.string, String.ofList_inj]

end RoleChart.Document
