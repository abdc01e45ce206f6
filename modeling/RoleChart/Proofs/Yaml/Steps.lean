import RoleChart.Proofs.Yaml.Spelling

/-!
# Steps of the token reader

One step for each thing that stands on a line outside of brackets: a scalar, a key, the dash of an
item, an empty collection, and the end of a block. A step is stated with whatever follows it, so
that the steps of a text are put together by `Leads.trans`.

## Main statements

* `leads_scalar`, `leads_key`, `leads_dash`, `leads_brackets` — what is read at a token
* `same_closed` — a block ends in front of text further left
-/

namespace RoleChart.Yaml

open Text RoleChart.Document

/-- What the reader knows of the blocks around a place: the tokens so far in reverse order, the
indentation of the innermost block, and the indentations of the blocks around it. -/
structure Frame where
  tokens : List Token
  indent : Int
  outer : List Int

namespace Frame

/-- Adds tokens. -/
def emit (f : Frame) (tokens : List Token) : Frame := { f with tokens := tokens.reverse ++ f.tokens }

/-- Opens a block at a column that is deeper than the innermost block. -/
def opened (f : Frame) (column : Nat) (t : Token) : Frame :=
  if f.indent < column then ⟨t :: f.tokens, column, f.indent :: f.outer⟩ else f

/-- The reader at a place where no key has begun. -/
def stream (f : Frame) (c : Cursor) (keyAllowed : Bool) : Stream :=
  { cursor := c, tokens := f.tokens, indent := f.indent, indents := f.outer, keyAllowed := keyAllowed }

end Frame

namespace Stream

/-! ## Readers that read the same -/

/-- Two readers from which the same is read. -/
def Same (s s' : Stream) : Prop := ∀ fuel, s.readAll fuel = s'.readAll fuel

/-- From the first reader the second is reached, and enough fuel is left there. -/
def Leads (s s' : Stream) : Prop :=
  ∀ fuel, s.cursor.rest.length < fuel →
    ∃ fuel', s'.cursor.rest.length < fuel' ∧ s.readAll fuel = s'.readAll fuel'

theorem Leads.refl (s : Stream) : Leads s s := fun fuel h => ⟨fuel, h, rfl⟩

theorem Leads.trans {a b c : Stream} (hab : Leads a b) (hbc : Leads b c) : Leads a c := by
  intro fuel h
  obtain ⟨fuel', h', e⟩ := hab fuel h
  obtain ⟨fuel'', h'', e'⟩ := hbc fuel' h'
  exact ⟨fuel'', h'', e.trans e'⟩

theorem Same.leads {s s' : Stream} (h : Same s s')
    (hl : s'.cursor.rest.length ≤ s.cursor.rest.length) : Leads s s' :=
  fun fuel hf => ⟨fuel, by omega, h fuel⟩

theorem Same.refl (s : Stream) : Same s s := fun _ => rfl

theorem same_of_toNext {s s' : Stream} (h : s.toNext.refreshKeyPlaces = s'.toNext.refreshKeyPlaces) :
    Same s s' := by
  intro fuel
  cases fuel with
  | zero => rfl
  | succ fuel => rw [readAll, readAll, h]

/-- A reader that stands at a token: nothing is to be passed over, and no block to be closed. -/
structure Settled (s : Stream) : Prop where
  next : s.toNext.refreshKeyPlaces = .ok s
  blocks : s.closeBlocks s.cursor.column = s

/-- Reading one token. -/
theorem leads_token {s s' s'' : Stream} {first : Char} {rest : List Char} (h : s.Settled)
    (hr : s.cursor.rest = first :: rest) (ht : s.token first rest = .ok s') (hs : Same s' s'')
    (hl : s''.cursor.rest.length ≤ rest.length) : Leads s s'' := by
  intro fuel hf
  obtain ⟨fuel, rfl⟩ : ∃ m, fuel = m + 1 := ⟨fuel - 1, by omega⟩
  refine ⟨fuel, by simp only [hr, List.length_cons] at hf; omega, ?_⟩
  rw [readAll, h.next]
  simp only [bind, Except.bind, h.blocks, hr, ht]
  exact hs fuel

/-! ## Moving to a token -/

theorem line_skipBetween_le (flow : Bool) : ∀ (fuel : Nat) (c : Cursor) (k : Bool),
    c.line ≤ (skipBetween c flow k fuel).1.line := by
  have skipWhile (c : Cursor) (p : Char → Bool) : (c.skipWhile p).line = c.line := rfl
  have skipLine (c : Cursor) : c.line ≤ c.skipLine.line := by
    unfold Cursor.skipLine
    split
    · simp
    · split <;> simp
    · simp
  intro fuel
  induction fuel with
  | zero => intro c k; exact Nat.le_refl _
  | succ fuel ih =>
    intro c k
    rw [skipBetween]
    generalize hd : c.skipWhile (fun d => d == ' ' || ((flow || !k) && d == '\t')) = d
    have h1 : d.line = c.line := hd ▸ skipWhile c _
    generalize he : (if d.rest.head? == some '#' then d.skipWhile fun x => !isBreak x else d) = e
    have h2 : e.line = d.line := by
      rw [← he]
      split
      · exact skipWhile d _
      · rfl
    have h3 := skipLine e
    split
    · have := ih e.skipLine (k || !flow)
      omega
    · simp only
      omega

theorem toNext_eq {s : Stream} (hf : s.outerKeyPlaces = []) (hi : s.cursor.index ≠ 0) :
    s.toNext = { s with cursor := (s.cursor.between s.keyAllowed).1,
                        keyAllowed := (s.cursor.between s.keyAllowed).2 } := by
  simp [toNext, hi, inFlow, hf, Cursor.between]

theorem refreshKeyPlaces_none {s : Stream} (hf : s.outerKeyPlaces = []) (hk : s.keyPlace = none) :
    s.refreshKeyPlaces = .ok s := by
  obtain ⟨c, t, i, is, k, o, a⟩ := s
  simp only at hf hk
  subst hf hk
  rfl

variable {f : Frame} {c c' : Cursor} {k k' : Bool}

theorem toNext_stream (hi : c.index ≠ 0) :
    (f.stream c k).toNext.refreshKeyPlaces
      = .ok (f.stream (c.between k).1 (c.between k).2) := by
  rw [toNext_eq rfl hi]
  exact refreshKeyPlaces_none rfl rfl

theorem same_between (hi : c.index ≠ 0) (hi' : c'.index ≠ 0) (h : c.between k = c'.between k') :
    Same (f.stream c k) (f.stream c' k') := by
  refine same_of_toNext ?_
  rw [toNext_stream hi, toNext_stream hi', h]

/-- The place of a key on a line above is given up. -/
theorem same_stale {s : Stream} (hf : s.outerKeyPlaces = [])
    (hk : ∀ p, s.keyPlace = some p → p.required = false ∧ p.line < c'.line)
    (hi : s.cursor.index ≠ 0) (hi' : c'.index ≠ 0)
    (h : s.cursor.between s.keyAllowed = c'.between true) :
    Same s ((⟨s.tokens, s.indent, s.indents⟩ : Frame).stream c' true) := by
  refine same_of_toNext ?_
  rw [toNext_stream hi', toNext_eq hf hi, h]
  obtain ⟨c, t, i, is, p, o, a⟩ := s
  simp only at hf hk
  subst hf
  cases p with
  | none => exact refreshKeyPlaces_none rfl rfl
  | some p =>
    -- moving on never goes back to an earlier line, so the place stays behind
    obtain ⟨h1, h2⟩ := hk p rfl
    have h3 : c'.line ≤ (c'.between true).1.line := line_skipBetween_le false _ c' true
    have h4 : p.line < (c'.between true).1.line := by omega
    simp [refreshKeyPlaces, freshPlace, h1, h4, Frame.stream, bind, Except.bind, pure, Except.pure]

/-! ## The end of a block -/

theorem closeOnto_of_le {column indent : Int} (h : indent ≤ column) (tokens : List Token)
    (outer : List Int) : closeOnto column tokens indent outer = (tokens, indent, outer) := by
  cases outer with
  | nil => rfl
  | cons i outer => rw [closeOnto, if_neg (by omega)]

theorem closeOnto_lt {column indent : Int} (h : column < indent) (tokens : List Token) (i : Int)
    (outer : List Int) :
    closeOnto column tokens indent (i :: outer) = closeOnto column (.blockEnd :: tokens) i outer := by
  rw [closeOnto, if_pos h]

/-- Closing to a column first does not matter for closing further. -/
theorem closeOnto_closeOnto {a b : Int} (hab : a ≤ b) :
    ∀ (outer : List Int) (tokens : List Token) (indent : Int),
    closeOnto a (closeOnto b tokens indent outer).1 (closeOnto b tokens indent outer).2.1
        (closeOnto b tokens indent outer).2.2
      = closeOnto a tokens indent outer := by
  intro outer
  induction outer with
  | nil => intro tokens indent; rfl
  | cons i outer ih =>
    intro tokens indent
    by_cases h : b < indent
    · rw [closeOnto_lt h, ih, closeOnto_lt (by omega)]
    · rw [closeOnto_of_le (Int.not_lt.1 h)]

theorem closeBlocks_stream (column : Int) :
    (f.stream c k).closeBlocks column
      = (⟨(closeOnto column f.tokens f.indent f.outer).1, (closeOnto column f.tokens f.indent f.outer).2.1,
          (closeOnto column f.tokens f.indent f.outer).2.2⟩ : Frame).stream c k := rfl

/-- The last thing that is read is the end of the text, where all blocks are closed. -/
theorem readAll_end (hi : c.index ≠ 0) (hc : (c.between k).1.rest = []) (fuel : Nat) :
    (f.stream c k).readAll (fuel + 1) = .ok (closeOnto (-1) f.tokens f.indent f.outer).1.reverse := by
  rw [readAll, toNext_stream hi]
  simp only [bind, Except.bind, closeBlocks_stream]
  simp only [Frame.stream, hc, dropKeyPlace, Bool.false_eq_true, if_false, Option.any_none, pure,
    Except.pure]
  rw [closeOnto_closeOnto (by omega)]

/-- A block ends in front of text further left, or at the end of the text. -/
theorem same_closed (tokens : List Token) (outer : List Int) {column : Nat} {indent : Int}
    {rest : List Char} (hlt : indent < column) (hs : Shallow indent rest)
    (hc : c.rest = rest) (hcol : c.column = 0) (hi : c.index ≠ 0) :
    Same ((⟨tokens, column, indent :: outer⟩ : Frame).stream c true)
      ((⟨.blockEnd :: tokens, indent, outer⟩ : Frame).stream c true) := by
  -- both readers stop at the same place, further left than the block, and close it there
  obtain ⟨c', hb, -, -, h⟩ := Cursor.between_shallow hs hc hcol
  intro fuel
  cases fuel with
  | zero => rfl
  | succ fuel =>
    rcases h with ⟨hr, -⟩ | ⟨d, rest', hr, -, hle⟩
    · rw [readAll_end hi (by rw [hb]; exact hr), readAll_end hi (by rw [hb]; exact hr)]
      simp only [closeOnto_lt (show (-1 : Int) < column by omega)]
    · rw [readAll, readAll, toNext_stream hi, toNext_stream hi, hb]
      simp only [bind, Except.bind, closeBlocks_stream]
      rw [show (Frame.stream ⟨tokens, column, indent :: outer⟩ c' true).cursor = c' from rfl,
        show (Frame.stream ⟨.blockEnd :: tokens, indent, outer⟩ c' true).cursor = c' from rfl]
      simp only [closeOnto_lt (show (c'.column : Int) < column by omega)]

/-! ## Tokens -/

theorem settled_stream {d : Char} {rest : List Char} (hi : c.index ≠ 0) (hc : c.rest = d :: rest)
    (hd : isContent d = true) (hcol : f.indent ≤ c.column) : (f.stream c k).Settled := by
  refine ⟨?_, ?_⟩
  · rw [toNext_stream hi, Cursor.between_content hc hd]
  · rw [closeBlocks_stream, show (f.stream c k).cursor = c from rfl, closeOnto_of_le hcol]

theorem token_quoted {s : Stream} (hm : s.cursor.atDocumentMark = false) (rest : List Char) :
    s.token '"' rest = s.quoted '"' := by
  simp [token, hm]

theorem indicators_eq : indicators = ['-', '?', ':', ',', '[', ']', '\x7b', '\x7d', '#', '&',
    '*', '!', '|', '>', '\'', '"', '%', '@', '\x60'] := by rfl

theorem beginsPlain_eq (flow : Bool) (c : Char) (rest : List Char) :
    beginsPlain flow c rest = (!(isGapOrBreak c || indicators.contains c)
      || (c == '-' && !rest.head?.any isGap) || (!flow && (c == '?' || c == ':') && !atGap rest)) := rfl

theorem token_plain {s : Stream} {first : Char} {rest : List Char}
    (hm : s.cursor.atDocumentMark = false) (hf : s.inFlow = false) (hg : isGapOrBreak first = false)
    (hi : first ∉ indicators ∨ first = '-' ∧ atGap rest = false) :
    s.token first rest = s.plain := by
  -- a first character that is no indicator passes all tests; a dash passes by what follows it
  rcases hi with hi | ⟨rfl, hr⟩
  · have hb : beginsPlain false first rest = true := by simp [beginsPlain_eq, hg, hi]
    rw [indicators_eq] at hi
    simp only [List.mem_cons, not_or] at hi
    simp [token, hm, hf, hb, hi]
  · have hr' : rest.head?.any isGap = false := by
      cases rest with
      | nil => rfl
      | cons d rest => simp_all [atGap, isGapOrBreak]
    simp [token, hm, hf, hr, beginsPlain_eq, hr', isGapOrBreak, isGap, isBreak, indicators_eq]

/-- The place where a key may begin. -/
def place (f : Frame) (c : Cursor) : KeyPlace :=
  ⟨f.indent == c.column, f.tokens.length, c.index, c.line, c.column⟩

/-- The reader behind a token that may be a key. -/
def behind (f : Frame) (c : Cursor) (k : Bool) (t : Token) (c' : Cursor) (k' : Bool) : Stream :=
  { (f.emit [t]).stream c' k' with keyPlace := if k then some (place f c) else none }

theorem keyable_stream {t : Token} {token : Stream → Except Problem (Token × Bool × Cursor)}
    (h : ∀ p, token { f.stream c k with keyPlace := p } = .ok (t, k', c')) :
    (f.stream c k).keyable token = .ok (behind f c k t c' k') := by
  cases k with
  | false =>
    have h := h none
    rw [show { f.stream c false with keyPlace := none } = f.stream c false from rfl] at h
    simp only [keyable, saveKeyPlace, Frame.stream, bind, Except.bind, pure, Except.pure] at h ⊢
    simp [h, behind, emitAt, emit, Frame.emit, Frame.stream]
  | true =>
    have h := h (some (place f c))
    simp only [keyable, saveKeyPlace, dropKeyPlace, Frame.stream, inFlow, place, bind, Except.bind,
      pure, Except.pure] at h ⊢
    simp [h, behind, emitAt, emit, Frame.emit, Frame.stream, place]

/-- Reading a spelling gives its token. -/
theorem token_spelling {s : Spelling} {first : Char} {rest : List Char} (tail : List Char) (hr : s.Readable)
    (hc : s.chars ++ tail = first :: rest) (hm : c.atDocumentMark = false)
    (hq : ∀ t, s = .quoted t → quotedScalar '"' c = .ok (t, c') ∧ k' = false)
    (hp : ∀ t, s = .plain t → plainScalar false (f.indent + 1).toNat c = .ok (t, k', c')) :
    (f.stream c k).token first rest = .ok (behind f c k s.token c' k') := by
  cases s with
  | quoted t =>
    obtain ⟨hread, rfl⟩ := hq t rfl
    obtain rfl : first = '"' := by
      simp only [Spelling.chars, doubleQuoted, List.cons_append, List.cons.injEq] at hc
      exact hc.1.symm
    rw [token_quoted hm]
    refine keyable_stream fun p => ?_
    simp only [Frame.stream, hread, bind, Except.bind, pure, Except.pure]
    rfl
  | plain t =>
    obtain ⟨hs, -, -⟩ := hr
    cases t with
    | nil => simp [startsPlain] at hs
    | cons d t =>
      simp only [Spelling.chars, List.cons_append, List.cons.injEq] at hc
      obtain ⟨rfl, rfl⟩ := hc
      obtain ⟨hg, hi⟩ := startsPlain_head hs
      -- a dash in front of a gap would be the mark of an item
      have hi' : d ∉ indicators ∨ d = '-' ∧ atGap (t ++ tail) = false := by
        rcases hi with hi | ⟨rfl, hi⟩
        · exact Or.inl hi
        · refine Or.inr ⟨rfl, ?_⟩
          cases t with
          | nil => simp [atGap] at hi
          | cons e t => exact hi
      rw [token_plain hm rfl hg hi']
      refine keyable_stream fun p => ?_
      simp only [Frame.stream, inFlow, List.isEmpty_nil, Bool.not_true, hp _ rfl, bind, Except.bind,
        pure, Except.pure]
      rfl

/-! ## Steps -/

/-- The place is the beginning of a line that is not the first, and this is left to read. -/
structure Begins (c : Cursor) (rest : List Char) : Prop where
  rest : c.rest = rest
  column : c.column = 0
  index : c.index ≠ 0

theorem begins_nextLine (c : Cursor) (rest : List Char) : Begins (c.nextLine rest) rest :=
  ⟨rfl, rfl, by simp [Cursor.nextLine]⟩

/-- To the right of its block nothing has to be a key, so the place is given up behind the line. -/
theorem place_stale (hcol : f.indent < c.column) (p : KeyPlace)
    (hp : (if k then some (place f c) else none) = some p) :
    p.required = false ∧ p.line < c.line + 1 := by
  split at hp
  · obtain rfl := Option.some.inj hp
    exact ⟨by simp [place]; omega, by simp [place]⟩
  · simp at hp

section Steps

variable {s : Spelling} {rest : List Char}

/-- A scalar to the right of its block is read with the end of its line. -/
theorem leads_scalar (hr : s.Readable) (hc : c.rest = s.chars ++ '\n' :: rest)
    (hs : Shallow f.indent rest) (hi : c.index ≠ 0) (hcol : f.indent < c.column)
    (hm : c.atDocumentMark = false) :
    ∃ c', Begins c' rest ∧ Leads (f.stream c k) ((f.emit [s.token]).stream c' true) := by
  obtain ⟨d, l, hd, hcont⟩ := Spelling.exists_content hr
  have hc' : c.rest = d :: (l ++ '\n' :: rest) := by rw [hc, hd]; rfl
  have hset : (f.stream c k).Settled := settled_stream hi hc' hcont (by omega)
  -- the scalar ends with its line, so a key could only stand on the next one
  have hend := begins_nextLine (c.skip s.chars.length) rest
  refine ⟨_, hend, ?_⟩
  cases s with
  | quoted t =>
    have hread := quotedScalar_doubleQuoted ('\n' :: rest) hr hc
    have htok : (f.stream c k).token d (l ++ '\n' :: rest) = .ok (behind f c k _ _ false) :=
      token_spelling ('\n' :: rest) hr (by rw [hd]; rfl) hm
        (fun t' ht => by cases ht; exact ⟨hread, rfl⟩) (fun t' ht => by cases ht)
    refine leads_token hset hc' htok (same_stale rfl (place_stale hcol) ?_ hend.index ?_) ?_
    · simp [behind, Frame.stream, hi]
    · exact Cursor.between_feed (by simp [behind, Frame.stream, Spelling.chars] at hc ⊢; simp [hc]) false
    · simp [Frame.stream, Cursor.nextLine]
      omega
  | plain t =>
    obtain ⟨n, tail, hn, hread⟩ := plainScalar_line hr.1 hr.2.1 hc hs hm (by omega)
    have htok : (f.stream c k).token d (l ++ '\n' :: rest) = .ok (behind f c k _ _ true) :=
      token_spelling ('\n' :: rest) hr (by rw [hd]; rfl) hm
        (fun t' ht => by cases ht) (fun t' ht => by cases ht; exact hread)
    refine leads_token hset hc' htok (same_stale rfl (place_stale hcol) ?_ hend.index ?_) ?_
    · simp [behind, Frame.stream, Cursor.nextLine]
    · exact (Cursor.between_spaces (c := (c.skip t.length).nextLine rest) hn true).symm
    · simp [Frame.stream, Cursor.nextLine]
      omega

/-- Behind a key of the allowed length the colon is next. -/
theorem settled_key {t : Token} {n : Nat} (hi : c.index ≠ 0) (hn : n ≤ maxKeyLength)
    (hc : (c.skip n).rest = ':' :: rest) (hcol : f.indent ≤ c.column) :
    (behind f c true t (c.skip n) false).Settled := by
  refine ⟨?_, ?_⟩
  · have hb : (c.skip n).between false = (c.skip n, false) := Cursor.between_content hc rfl false
    rw [toNext_eq rfl (by simp [behind, Frame.stream, hi])]
    simp only [behind, Frame.stream, hb, if_true, refreshKeyPlaces, List.mapM_nil, freshPlace, place,
      Cursor.skip_line, Cursor.skip_index, bind, Except.bind, pure, Except.pure]
    simp [Nat.not_lt.2 hn]
  · simp only [behind, Frame.stream, closeBlocks, inFlow, List.isEmpty_nil, Bool.not_true,
      Bool.false_eq_true, if_false, Frame.emit, Cursor.skip_column]
    rw [closeOnto_of_le (by omega)]

/-- The colon makes the token in front of it a key. -/
theorem token_colon {t : Token} (hg : atGap rest = true) (hn : 0 < c'.column) :
    (behind f c true t c' false).token ':' rest
      = .ok (((f.opened c.column .blockMappingStart).emit [.key, t, .value]).stream (c'.skip 1) false) := by
  have hm : c'.atDocumentMark = false := atDocumentMark_of_column (by omega)
  have ht : (behind f c true t c' false).token ':' rest = (behind f c true t c' false).value := by
    simp [token, behind, Frame.stream, hm, hg]
  rw [ht]
  simp only [value, behind, Frame.stream, if_true, place, Frame.emit, inFlow, List.isEmpty_nil,
    Bool.not_true, List.reverse_cons, List.reverse_nil, List.nil_append, List.singleton_append,
    insertAt_last, Frame.opened, emitAt, emit, Bool.not_false, Bool.true_and, decide_eq_true_eq,
    pure, Except.pure]
  split <;> rfl

/-- A key is read with its colon. -/
theorem leads_key (hr : s.Readable) (hlen : s.chars.length ≤ maxKeyLength)
    (hc : c.rest = s.chars ++ ':' :: rest) (hg : atGap rest = true) (hi : c.index ≠ 0)
    (hcol : f.indent ≤ c.column) (hm : c.atDocumentMark = false) :
    Leads (f.stream c true)
      (((f.opened c.column .blockMappingStart).emit [.key, s.token, .value]).stream
        (c.skip (s.chars.length + 1)) false) := by
  obtain ⟨d, l, hd, hcont⟩ := Spelling.exists_content hr
  have hc' : c.rest = d :: (l ++ ':' :: rest) := by rw [hc, hd]; rfl
  have hset : (f.stream c true).Settled := settled_stream hi hc' hcont hcol
  have hcolon : (c.skip s.chars.length).rest = ':' :: rest := by simp [hc]
  have htok : (f.stream c true).token d (l ++ ':' :: rest)
      = .ok (behind f c true s.token (c.skip s.chars.length) false) := by
    refine token_spelling (':' :: rest) hr (by rw [hd]; rfl) hm ?_ ?_
    · rintro t rfl
      exact ⟨quotedScalar_doubleQuoted (':' :: rest) hr hc, rfl⟩
    · rintro t rfl
      exact plainScalar_key hr.1 hr.2.1 hc hg hm (by omega)
  -- two tokens: the spelling, and the colon that turns it into a key
  refine (leads_token hset hc' htok (Same.refl _) ?_).trans ?_
  · simp only [behind, Frame.stream, hcolon, List.length_cons, List.length_append]
    omega
  have hpos : 0 < s.chars.length := by simp [hd]
  refine leads_token (settled_key hi hlen hcolon hcol) hcolon
    (token_colon hg (by simp only [Cursor.skip_column]; omega))
    (by rw [Cursor.skip_skip]; exact Same.refl _) ?_
  simp [Frame.stream, hc]

theorem openBlock_stream (column : Nat) (t : Token) :
    (f.stream c k).openBlock column t = (f.opened column t).stream c k := by
  by_cases h : f.indent < column
  · rw [Frame.opened, if_pos h]
    exact if_neg (Bool.not_eq_true _ ▸ decide_eq_false (Int.not_le.2 h))
  · simp [openBlock, Frame.opened, Frame.stream, inFlow, h, Int.not_lt.1 h]

/-- The dash of an item is read. -/
theorem leads_dash (hc : c.rest = '-' :: rest) (hg : atGap rest = true) (hi : c.index ≠ 0)
    (hcol : f.indent ≤ c.column) :
    Leads (f.stream c true)
      (((f.opened c.column .blockSequenceStart).emit [.blockEntry]).stream (c.skip 1) true) := by
  have hm : c.atDocumentMark = false := by
    cases rest with
    | nil => simp [Cursor.atDocumentMark, hc]
    | cons d rest =>
      have hd : d ≠ '-' := by
        rintro rfl
        simp [atGap, isGapOrBreak, isGap, isBreak] at hg
      simp [Cursor.atDocumentMark, hc, hd]
  have htok : (f.stream c true).token '-' rest
      = .ok (((f.opened c.column .blockSequenceStart).emit [.blockEntry]).stream (c.skip 1) true) := by
    have ht : (f.stream c true).token '-' rest = (f.stream c true).blockEntry := by
      simp [token, Frame.stream, hm, hg]
    rw [ht]
    rw [blockEntry, show (f.stream c true).cursor = c from rfl, openBlock_stream]
    simp only [Frame.stream, inFlow, List.isEmpty_nil, Bool.not_true, Bool.and_false,
      Bool.false_eq_true, if_false, bind, Except.bind, pure, Except.pure]
    rfl
  exact leads_token (settled_stream hi hc rfl hcol) hc htok (Same.refl _) (by simp [Frame.stream, hc])

/-- The reader behind an opening bracket. -/
def inside (f : Frame) (c : Cursor) (k : Bool) (opening : Token) : Stream :=
  { (f.emit [opening]).stream (c.skip 1) true with
    outerKeyPlaces := [if k then some (place f c) else none] }

theorem openFlow_stream (opening : Token) :
    (f.stream c k).openFlow opening = .ok (inside f c k opening) := by
  cases k <;> rfl

theorem closeFlow_inside {opening closing : Token} :
    (inside f c k opening).closeFlow closing
      = .ok { (f.emit [opening, closing]).stream (c.skip 2) false with
          keyPlace := if k then some (place f c) else none } := by
  rw [← Cursor.skip_skip c 1 1]
  rfl

theorem settled_inside {opening : Token} {last : Char}
    (hc : (c.skip 1).rest = last :: rest) (hl : isContent last = true) :
    (inside f c k opening).Settled := by
  refine ⟨?_, rfl⟩
  have hnext : (inside f c k opening).toNext = inside f c k opening := by
    have hb : ¬ ((c.skip 1).index = 0 ∧ (c.skip 1).rest.head? = some (Char.ofNat 0xFEFF)) := by simp
    simp only [toNext, inside, Frame.stream, inFlow, List.isEmpty_cons, Bool.not_false, hb, if_false,
      Cursor.skipBetween_content hc hl]
  rw [hnext]
  cases k <;> simp [refreshKeyPlaces, inside, Frame.stream, freshPlace, place, maxKeyLength, bind,
    Except.bind, pure, Except.pure]

/-- An empty collection is read with the end of its line. -/
theorem leads_brackets {first last : Char} {opening closing : Token}
    (h : first = '[' ∧ last = ']' ∧ opening = .flowSequenceStart ∧ closing = .flowSequenceEnd ∨
      first = '\x7b' ∧ last = '\x7d' ∧ opening = .flowMappingStart ∧ closing = .flowMappingEnd)
    (hc : c.rest = first :: last :: '\n' :: rest) (hi : c.index ≠ 0) (hcol : f.indent < c.column) :
    ∃ c', Begins c' rest ∧ Leads (f.stream c k) ((f.emit [opening, closing]).stream c' true) := by
  have hlast : (c.skip 1).rest = last :: '\n' :: rest := by simp [hc]
  have hopen : isContent first = true ∧
      (f.stream c k).token first (last :: '\n' :: rest) = .ok (inside f c k opening) := by
    rw [← openFlow_stream]
    rcases h with ⟨rfl, rfl, rfl, rfl⟩ | ⟨rfl, rfl, rfl, rfl⟩ <;>
      exact ⟨rfl, by simp [token, Frame.stream, Cursor.atDocumentMark, hc]⟩
  have hclose : isContent last = true ∧
      (inside f c k opening).token last ('\n' :: rest) = (inside f c k opening).closeFlow closing := by
    rcases h with ⟨rfl, rfl, rfl, rfl⟩ | ⟨rfl, rfl, rfl, rfl⟩ <;>
      exact ⟨rfl, by simp [token, inside, Frame.stream, Cursor.atDocumentMark]⟩
  have hfeed : (c.skip 2).rest = '\n' :: rest := by simp [hc]
  have hend := begins_nextLine (c.skip 2) rest
  refine ⟨_, hend, ?_⟩
  refine (leads_token (settled_stream hi hc hopen.1 (by omega)) hc hopen.2 (Same.refl _)
    (by simp [inside, Frame.stream, hc])).trans ?_
  refine leads_token (settled_inside hlast hclose.1) hlast (hclose.2.trans closeFlow_inside)
    (same_stale rfl (place_stale hcol) (by simp [Frame.stream]) hend.index (Cursor.between_feed hfeed false)) ?_
  simp [Frame.stream, Cursor.nextLine]

end Steps

end Stream

end RoleChart.Yaml
