import RoleChart.Proofs.Yaml.Outline
import RoleChart.Proofs.Yaml.Steps

/-!
# From the text of an outline to its tokens

The text of an outline is read line by line. The invariant is on the frame: in front of a part of a
collection the innermost block is the one of the collection, or it is still to be opened there, and
what follows the part is indented no further.

## Main statements

* `ofText_text` — the tokens of a whole document
-/

namespace RoleChart.Yaml

open Text RoleChart.Document RoleChart.Yaml.Stream

namespace Outline

/-! ## What follows a part -/

/-- A comment line is its indentation, the sign and what the comment says. -/
theorem remarksText_cons (n : Nat) (r : List Char) (remarks : List (List Char)) (rest : List Char) :
    ∃ text, remarksText n (r :: remarks) ++ rest
        = List.replicate n ' ' ++ ('#' :: text ++ '\n' :: (remarksText n remarks ++ rest)) ∧
      ∀ p : Char → Prop, p ' ' → (∀ c ∈ r, p c) → ∀ c ∈ text, p c := by
  cases r with
  | nil => exact ⟨[], by simp [remarksText, Line.remark, Line.chars], by simp⟩
  | cons c r =>
    refine ⟨' ' :: c :: r, by simp [remarksText, Line.remark, Line.chars], ?_⟩
    intro p hs hr d hd
    rcases List.mem_cons.1 hd with rfl | hd
    · exact hs
    · exact hr d hd

/-- Comments stand as deep as what they are about. -/
theorem shallow_remarks {n : Nat} {remarks : List (List Char)} {rest : List Char}
    (hr : ReadableRemarks remarks) (h : Shallow n rest) : Shallow n (remarksText n remarks ++ rest) := by
  induction remarks with
  | nil => exact h
  | cons r remarks ih =>
    obtain ⟨text, e, ht⟩ := remarksText_cons n r remarks rest
    rw [e]
    refine .remark (Int.le_refl _) (ht (fun d => isBreak d = false) rfl ?_) (ih fun x hx => hr x (by simp [hx]))
    exact fun c hc => (hr r (by simp) c hc).2

/-- Items begin at the column of their list. -/
theorem shallow_items {step n : Nat} {rest : List Char} (h : Shallow n rest) :
    ∀ items, ReadableItems items → Shallow n (itemsText step n items ++ rest)
  | [], _ => h
  | (remarks, o) :: items, hr => by
    simp only [itemsText, List.append_assoc]
    exact shallow_remarks hr.1 (.token (Int.le_refl _) rfl)

/-- Entries begin at the column of their mapping. -/
theorem shallow_entries {step n : Nat} {rest : List Char} (h : Shallow n rest) :
    ∀ entries, ReadableEntries entries → Shallow n (entriesText step n entries ++ rest)
  | [], _ => h
  | (remarks, key, o) :: entries, hr => by
    obtain ⟨c, l, hc, hcont⟩ := Spelling.exists_content hr.2.1.1
    simp only [entriesText, List.append_assoc, hc, List.cons_append]
    exact shallow_remarks hr.1 (.token (Int.le_refl _) hcont)

/-! ## In front of a part -/

/-- The place is on the first line of the text, at its beginning or behind its indentation. -/
structure Fronts (c : Cursor) (n : Nat) (text : List Char) : Prop where
  index : c.index ≠ 0
  column : c.column = 0 ∨ c.column = n
  rest : c.rest = text.drop c.column

/-- At the beginning of a line a text is still before its indentation. -/
theorem fronts_of_begins {c : Cursor} {n : Nat} {text : List Char} (h : Begins c text) :
    Fronts c n text := ⟨h.index, Or.inl h.column, by rw [h.column, h.rest]; rfl⟩

/-- With nothing but gaps in between, a place at a column and in front of a text is reached. -/
def Arrives (c : Cursor) (n : Nat) (body : List Char) : Prop :=
  ∃ c' : Cursor, c'.index ≠ 0 ∧ c'.column = n ∧ c'.rest = body ∧ c.between true = c'.between true ∧
    c'.rest.length ≤ c.rest.length

/-- The gap in front of a part is its indentation. -/
theorem arrives_indentation {c : Cursor} {n : Nat} {body : List Char}
    (h : Fronts c n (List.replicate n ' ' ++ body)) : Arrives c n body := by
  obtain ⟨hi, h0 | hn, hc⟩ := h
  · rw [h0, List.drop_zero] at hc
    exact ⟨c.skip n, by simp [hi], by simp [h0], by simp [hc], Cursor.between_spaces hc true,
      by simp⟩
  · exact ⟨c, hi, hn, by simpa [hn] using hc, rfl, Nat.le_refl _⟩

/-- Behind the comment lines the place is in front of the part itself. -/
theorem arrives_remarks {n : Nat} {body : List Char} : ∀ (remarks : List (List Char)) {c : Cursor},
    ReadableRemarks remarks →
    Fronts c n (remarksText n remarks ++ (List.replicate n ' ' ++ body)) → Arrives c n body := by
  intro remarks
  induction remarks with
  | nil => intro c _ h; exact arrives_indentation h
  | cons r remarks ih =>
    intro c hr h
    obtain ⟨text, e, ht⟩ := remarksText_cons n r remarks (List.replicate n ' ' ++ body)
    rw [e] at h
    obtain ⟨c₁, h1, h2, h3, h4, h5⟩ := arrives_indentation h
    have hb := Cursor.between_remark h3
      (ht (fun d => isBreak d = false) rfl fun d hd => (hr r (by simp) d hd).2) true
    obtain ⟨c', h6, h7, h8, h9, h10⟩ := ih (fun x hx => hr x (by simp [hx]))
      (fronts_of_begins (begins_nextLine (c₁.skip (text.length + 1)) _))
    refine ⟨c', h6, h7, h8, h4.trans (hb.trans h9), ?_⟩
    simp only [Cursor.nextLine, h3, List.length_append, List.length_cons] at h10 h5
    omega

/-- The reader moves on to such a place. -/
theorem leads_of_arrives {f : Frame} {c : Cursor} {n : Nat} {body : List Char} (hi : c.index ≠ 0)
    (h : Arrives c n body) :
    ∃ c' : Cursor, c'.index ≠ 0 ∧ c'.column = n ∧ c'.rest = body ∧
      Leads (f.stream c true) (f.stream c' true) := by
  obtain ⟨c', h1, h2, h3, h4, h5⟩ := h
  exact ⟨c', h1, h2, h3, (same_between hi h1 h4).leads h5⟩

/-! ## Frames -/

theorem emit_emit (f : Frame) (a b : List Token) : (f.emit a).emit b = f.emit (a ++ b) := by
  simp [Frame.emit]

/-- No block is opened at a column that is not deeper. -/
theorem opened_of_le {f : Frame} {n : Nat} (h : (n : Int) ≤ f.indent) (t : Token) : f.opened n t = f := by
  rw [Frame.opened, if_neg (by omega)]

theorem indent_opened {f : Frame} {n : Nat} (h : f.indent ≤ n) (t : Token) :
    (f.opened n t).indent = n := by
  unfold Frame.opened
  split
  · rfl
  · omega

/-- A block that was opened for tokens is closed behind them. -/
theorem same_opened {f : Frame} {c : Cursor} {n : Nat} {t : Token} {tokens : List Token}
    {rest : List Char} (hlt : f.indent < n) (hc : Begins c rest) (hs : Shallow f.indent rest) :
    Same (((f.opened n t).emit tokens).stream c true)
      ((f.emit (t :: tokens ++ [.blockEnd])).stream c true) := by
  have h := same_closed (tokens.reverse ++ t :: f.tokens) f.outer hlt hs hc.rest
    hc.column hc.index
  simpa [Frame.opened, hlt, Frame.emit] using h

/-! ## Reading -/

/-- From the reader the beginning of a line is reached, with this frame and this left to read. -/
def Passes (s : Stream) (f : Frame) (rest : List Char) : Prop :=
  ∃ c, Begins c rest ∧ Leads s (f.stream c true)

/-- What is reached from a later place is reached from here. -/
theorem Passes.of_leads {s s' : Stream} {f : Frame} {rest : List Char} (h : Leads s s')
    (h' : Passes s' f rest) : Passes s f rest := by
  obtain ⟨c, hb, hl⟩ := h'
  exact ⟨c, hb, h.trans hl⟩

/-- The next line goes on from where this one ended. -/
theorem Passes.next {s : Stream} {f g : Frame} {rest rest' : List Char} (h : Passes s f rest)
    (h' : ∀ c, Begins c rest → Passes (f.stream c true) g rest') : Passes s g rest' := by
  obtain ⟨c, hb, hl⟩ := h
  exact (h' c hb).of_leads hl

/-- Behind the tokens of its parts a block is closed. -/
theorem Passes.closed {s : Stream} {f : Frame} {n : Nat} {t : Token} {tokens : List Token}
    {rest : List Char} (hlt : f.indent < n) (hs : Shallow f.indent rest)
    (h : Passes s ((f.opened n t).emit tokens) rest) :
    Passes s (f.emit (t :: tokens ++ [.blockEnd])) rest := by
  obtain ⟨c, hb, hl⟩ := h
  exact ⟨c, hb, hl.trans ((same_opened hlt hb hs).leads (Nat.le_refl _))⟩

/-- A line feed ends the line of a scalar. -/
theorem passes_feed {f g : Frame} {c : Cursor} {k : Bool} {rest rest' : List Char} (hi : c.index ≠ 0)
    (hc : c.rest = '\n' :: rest)
    (h : ∀ c', Begins c' rest → Passes (f.stream c' true) g rest') : Passes (f.stream c k) g rest' := by
  have hb := begins_nextLine c rest
  refine (h _ hb).of_leads ((same_between hi hb.index (Cursor.between_feed hc k)).leads ?_)
  simp [Frame.stream, Cursor.nextLine, hc]

theorem leads_space {f : Frame} {c : Cursor} {k : Bool} {rest : List Char} (hi : c.index ≠ 0)
    (hc : c.rest = ' ' :: rest) : Leads (f.stream c k) (f.stream (c.skip 1) k) := by
  refine (same_between hi (by simp) (Cursor.between_spaces (n := 1) hc k)).leads ?_
  simp [Frame.stream]

theorem length_entriesText (step n : Nat) {entries : List (List (List Char) × Spelling × Outline)}
    (h : entries ≠ []) : n ≤ (entriesText step n entries).length := by
  cases entries with
  | nil => exact absurd rfl h
  | cons entry entries =>
    simp only [entriesText, List.length_append, List.length_replicate]
    omega

/-- Empty collections open no block. -/
theorem frame_of_opened {f : Frame} {n : Nat} {t : Token} {empty : Bool} (h : (n : Int) ≤ f.indent) :
    (if empty then f else f.opened n t) = f := by
  split
  · rfl
  · exact opened_of_le h t

/-- Behind a name or a dash there is a space or the end of the line. -/
theorem atGap_tailText (step : Nat) (dash : Bool) (n : Nat) (o : Outline) (rest : List Char) :
    atGap (tailText step dash n o ++ rest) = true := by
  cases o with
  | mapping inline entries =>
    simp only [tailText, hang]
    split
    · split <;> rfl
    · rfl
  | _ => rfl

/-- A text that is no mark at the first column is none anywhere. -/
theorem atDocumentMark_scalar {c : Cursor} {t rest : List Char} {d : Char} (hc : c.rest = t ++ d :: rest)
    (hdash : d ≠ '-') (hdot : d ≠ '.') (h : c.column = 0 → marksDocument t = false) :
    c.atDocumentMark = false := by
  rw [atDocumentMark_eq, hc, Bool.and_eq_false_imp, beq_iff_eq]
  exact fun hcol => marksDocument_append hdash hdot (h hcol)

mutual

theorem scan_tail {step : Nat} (hstep : 0 < step) : ∀ (o : Outline) {dash : Bool} {f : Frame}
    {c : Cursor} {k : Bool} {n : Nat} {rest : List Char}, o.Readable → f.indent = n →
    c.rest = tailText step dash n o ++ rest → n < c.column → (dash = true → c.column = n + 1 ∧ k = true) →
    c.index ≠ 0 → Shallow n rest → Passes (f.stream c k) (f.emit o.tokens) rest
  | .scalar s, dash, f, c, k, n, rest, hr, hf, hc, hlt, hcol, hi, hs => by
    have hc' : c.rest = ' ' :: (s.chars ++ '\n' :: rest) := by simpa [tailText] using hc
    exact .of_leads (leads_space hi hc') (leads_scalar hr (by simp [hc']) (hf ▸ hs) (by simp [hi])
      (by simp; omega) (atDocumentMark_of_column (by simp)))
  | .noItems, dash, f, c, k, n, rest, hr, hf, hc, hlt, hcol, hi, hs => by
    have hc' : c.rest = ' ' :: '[' :: ']' :: '\n' :: rest := hc
    exact .of_leads (leads_space hi hc') (leads_brackets (Or.inl ⟨rfl, rfl, rfl, rfl⟩)
      (by simp [hc']) (by simp) (by simp; omega))
  | .noEntries, dash, f, c, k, n, rest, hr, hf, hc, hlt, hcol, hi, hs => by
    have hc' : c.rest = ' ' :: '\x7b' :: '\x7d' :: '\n' :: rest := hc
    exact .of_leads (leads_space hi hc') (leads_brackets (Or.inr ⟨rfl, rfl, rfl, rfl⟩)
      (by simp [hc']) (by simp) (by simp; omega))
  | .sequence items, dash, f, c, k, n, rest, hr, hf, hc, hlt, hcol, hi, hs => by
    refine passes_feed hi hc fun c' hb => ?_
    have h := scan_items hstep items (f := f) hr (n := n + step) (by omega) hb
      (hs.mono (by omega))
    cases items with
    | nil => exact h
    | cons item items => exact h.closed (by omega) (hf ▸ hs)
  | .mapping inline entries, dash, f, c, k, n, rest, hr, hf, hc, hlt, hcol, hi, hs => by
    -- the entries stand at some column to the right, wherever the first of them begins
    have block : ∀ {c' : Cursor} {k' : Bool} (m : Nat), n < m →
        Passes (f.stream c' k') ((if entries.isEmpty then f else f.opened m .blockMappingStart).emit
          (entriesTokens entries)) rest →
        Passes (f.stream c' k') (f.emit (mapping inline entries).tokens) rest := by
      intro c' k' m hm h
      cases entries with
      | nil => exact h
      | cons entry entries => exact h.closed (by omega) (hf ▸ hs)
    have below : ∀ m, n < m → c.rest = '\n' :: (entriesText step m entries ++ rest) →
        Passes (f.stream c k) (f.emit (mapping inline entries).tokens) rest := by
      intro m hm hc
      refine block m hm (passes_feed hi hc fun c' hb => ?_)
      exact scan_entries hstep entries hr (by omega) (by omega) (fronts_of_begins hb)
        (fun _ => hb.column) (hs.mono (by omega))
    -- only behind a dash the first entry may stand on the same line
    cases dash with
    | false => exact below (n + step) (by omega) hc
    | true =>
      obtain ⟨hbehind, rfl⟩ := hcol rfl
      simp only [tailText, if_true, hang] at hc
      split at hc
      · next h =>
        simp only [Bool.and_eq_true, Bool.not_eq_true', List.isEmpty_eq_false_iff] at h
        have hne : entries ≠ [] := by
          rintro rfl
          exact h.2 rfl
        have hfront : Fronts (c.skip 1) (n + 2) (entriesText step (n + 2) entries ++ rest) := by
          refine ⟨by simp, Or.inr (by simp [hbehind]), ?_⟩
          rw [Cursor.skip_column, hbehind, List.drop_append_of_le_length (length_entriesText step _ hne)]
          simp [hc]
        refine .of_leads (leads_space hi hc) (block (n + 2) (by omega) ?_)
        exact scan_entries hstep entries hr (by omega) (by omega) hfront (fun h => absurd h hne)
          (hs.mono (by omega))
      · exact below (n + 2) (by omega) hc

theorem scan_items {step : Nat} (hstep : 0 < step) : ∀ (items : List (List (List Char) × Outline))
    {f : Frame} {c : Cursor} {n : Nat} {rest : List Char}, ReadableItems items → f.indent ≤ n →
    Begins c (itemsText step n items ++ rest) → Shallow n rest →
    Passes (f.stream c true)
      ((if items.isEmpty then f else f.opened n .blockSequenceStart).emit (itemsTokens items)) rest
  | [], f, c, n, rest, _, _, hc, _ => ⟨c, hc, Leads.refl _⟩
  | (remarks, o) :: items, f, c, n, rest, hr, hf, hc, hs => by
    obtain ⟨hr1, hr2, hr3⟩ := hr
    have hfront := fronts_of_begins (n := n) hc
    simp only [itemsText, List.append_assoc, List.cons_append] at hfront
    obtain ⟨c', hi', hcol', hc', hl⟩ := leads_of_arrives (f := f) hc.index
      (arrives_remarks remarks hr1 hfront)
    have hdash := leads_dash hc' (atGap_tailText step true n o _) hi' (f := f) (by omega)
    rw [hcol'] at hdash
    have hg := indent_opened hf .blockSequenceStart
    have hrest : (c'.skip 1).rest
        = tailText step true n o ++ (itemsText step n items ++ rest) := by simp [hc']
    have htail := scan_tail hstep o (k := true)
      (f := (f.opened n .blockSequenceStart).emit [.blockEntry]) hr2 hg hrest (by simp; omega)
      (fun _ => ⟨by simp [hcol'], rfl⟩) (by simp) (shallow_items hs items hr3)
    -- the frame stays open for the items that follow, so they find it at their own column
    refine .of_leads (hl.trans hdash) (htail.next fun c₂ hb => ?_)
    have h := scan_items hstep items hr3 (Int.le_of_eq hg) hb hs
      (f := ((f.opened n .blockSequenceStart).emit [.blockEntry]).emit o.tokens)
    rw [frame_of_opened (f := (Frame.emit _ _).emit _) (Int.le_of_eq hg.symm)] at h
    simpa [emit_emit, itemsTokens] using h

theorem scan_entries {step : Nat} (hstep : 0 < step) :
    ∀ (entries : List (List (List Char) × Spelling × Outline)) {f : Frame} {c : Cursor} {n : Nat}
    {rest : List Char}, ReadableEntries entries →
    (n = 0 → ∀ entry ∈ entries, marksDocument entry.2.1.chars = false) → f.indent ≤ n →
    Fronts c n (entriesText step n entries ++ rest) → (entries = [] → c.column = 0) →
    Shallow n rest →
    Passes (f.stream c true)
      ((if entries.isEmpty then f else f.opened n .blockMappingStart).emit (entriesTokens entries)) rest
  | [], f, c, n, rest, _, _, _, hc, h0, _ =>
    ⟨c, ⟨by rw [hc.rest, h0 rfl]; rfl, h0 rfl, hc.index⟩, Leads.refl _⟩
  | (remarks, key, o) :: entries, f, c, n, rest, hr, hmark, hf, hc, _, hs => by
    obtain ⟨hr1, ⟨hk1, hk2⟩, hr2, hr3⟩ := hr
    have hfront := hc
    simp only [entriesText, List.append_assoc, List.cons_append] at hfront
    -- first the comments, then the name with its colon, then the value and what follows it
    obtain ⟨c', hi', hcol', hc', hl⟩ := leads_of_arrives (f := f) hc.index
      (arrives_remarks remarks hr1 hfront)
    have hkey := leads_key (f := f) hk1 hk2 hc' (atGap_tailText step false n o _) hi' (by omega)
      (atDocumentMark_scalar hc' (by decide) (by decide) fun h0 =>
        hmark (hcol'.symm.trans h0) _ List.mem_cons_self)
    rw [hcol'] at hkey
    have hg := indent_opened hf .blockMappingStart
    have hrest : (c'.skip (key.chars.length + 1)).rest
        = tailText step false n o ++ (entriesText step n entries ++ rest) := by
      rw [← Cursor.skip_skip]
      simp [hc']
    have htail := scan_tail hstep o (k := false)
      (f := (f.opened n .blockMappingStart).emit [.key, key.token, .value]) hr2 hg hrest
      (by simp; omega) (fun h => by simp at h) (by simp) (shallow_entries hs entries hr3)
    refine .of_leads (hl.trans hkey) (htail.next fun c₂ hb => ?_)
    have h := scan_entries hstep entries hr3 (fun h0 entry he => hmark h0 entry (List.mem_cons_of_mem _ he))
      (Int.le_of_eq hg) (fronts_of_begins hb) (fun _ => hb.column) hs
      (f := ((f.opened n .blockMappingStart).emit [.key, key.token, .value]).emit o.tokens)
    rw [frame_of_opened (f := (Frame.emit _ _).emit _) (Int.le_of_eq hg.symm)] at h
    simpa [emit_emit, entriesTokens] using h

end

/-! ## Whole documents -/

/-- The scalars that stand at the first column of a document. -/
def margin : Outline → List Spelling
  | scalar s => [s]
  | mapping _ entries => entries.map fun entry => entry.2.1
  | noItems | noEntries | sequence _ => []

/-- Whether an outline is read as the root of a document: at the first column no scalar is a mark. -/
def RootReadable (o : Outline) : Prop :=
  o.Readable ∧ ∀ s ∈ o.margin, marksDocument s.chars = false

/-- The root stands at the first column, so what is taken for the mark of a document must be kept out there. -/
theorem scan_root {step : Nat} (hstep : 0 < step) {o : Outline} (hr : o.RootReadable) {f : Frame}
    {c : Cursor} (hf : f.indent = -1) (hi : c.index ≠ 0) (h0 : c.column = 0)
    (hc : c.rest = o.text step) : Passes (f.stream c true) (f.emit o.tokens) [] := by
  obtain ⟨hr, hroot⟩ := hr
  cases o with
  | scalar s =>
    exact leads_scalar hr hc .nothing hi (by omega) (atDocumentMark_scalar hc (by decide) (by decide)
      fun _ => hroot s List.mem_cons_self)
  | noItems => exact leads_brackets (Or.inl ⟨rfl, rfl, rfl, rfl⟩) hc hi (by omega)
  | noEntries => exact leads_brackets (Or.inr ⟨rfl, rfl, rfl, rfl⟩) hc hi (by omega)
  | sequence items =>
    have hb : Begins c (itemsText step 0 items ++ []) := ⟨by simpa [text] using hc, h0, hi⟩
    have h := scan_items hstep items (f := f) hr (by omega) hb .nothing
    cases items with
    | nil => exact h
    | cons item items => exact h.closed (by omega) .nothing
  | mapping inline entries =>
    have hb : Fronts c 0 (entriesText step 0 entries ++ []) :=
      ⟨hi, Or.inl h0, by simpa [h0, text] using hc⟩
    have hmark : ∀ entry ∈ entries, marksDocument entry.2.1.chars = false := fun entry he =>
      hroot _ (List.mem_map_of_mem he)
    have h := scan_entries hstep entries (f := f) hr (fun _ => hmark) (by omega) hb (fun _ => h0) .nothing
    cases entries with
    | nil => exact h
    | cons entry entries => exact h.closed (by omega) .nothing

/-- The opening mark of a document is read. -/
theorem passes_documentStart (rest : List Char) :
    Passes { cursor := { rest := '-' :: '-' :: '-' :: '\n' :: rest } } ⟨[.documentStart], -1, []⟩ rest := by
  refine ⟨_, begins_nextLine ⟨'\n' :: rest, 3, 0, 3⟩ rest, ?_⟩
  refine @leads_token _ ((⟨[.documentStart], -1, []⟩ : Frame).stream ⟨'\n' :: rest, 3, 0, 3⟩ false) _ _ _
    ⟨?_, rfl⟩ rfl ?_ ?_ ?_
  · have hc : ({ rest := '-' :: '-' :: '-' :: '\n' :: rest } : Cursor).rest
        = '-' :: '-' :: '-' :: '\n' :: rest := rfl
    simp [toNext, inFlow, Cursor.skipBetween_content hc rfl, refreshKeyPlaces, freshPlace, bind,
      Except.bind, pure, Except.pure]
  · rfl
  · exact same_between (by simp) (by simp [Cursor.nextLine]) (Cursor.between_feed rfl false)
  · simp [Frame.stream, Cursor.nextLine]
    omega

/-! ## Allowed characters -/

/-- Whether a text may be read at all. -/
def Allowed (s : List Char) : Prop := ∀ c ∈ s, isAllowed c = true

theorem allowed_append {s t : List Char} (hs : Allowed s) (ht : Allowed t) : Allowed (s ++ t) :=
  fun c hc => (List.mem_append.1 hc).elim (hs c) (ht c)

theorem allowed_cons {d : Char} {s : List Char} (hd : isAllowed d = true) (hs : Allowed s) :
    Allowed (d :: s) := by
  intro c hc
  rcases List.mem_cons.1 hc with rfl | hc
  · exact hd
  · exact hs c hc

theorem allowed_nil : Allowed [] := fun c hc => by simp at hc

theorem allowed_spaces (n : Nat) : Allowed (List.replicate n ' ') := by
  intro c hc
  rw [List.eq_of_mem_replicate hc]
  rfl

/-- Comments are printable. -/
theorem allowed_remarks {n : Nat} {remarks : List (List Char)} (hr : ReadableRemarks remarks) :
    Allowed (remarksText n remarks) := by
  induction remarks with
  | nil => exact allowed_nil
  | cons r remarks ih =>
    obtain ⟨text, e, ht⟩ := remarksText_cons n r remarks []
    rw [List.append_nil, List.append_nil] at e
    rw [e]
    have htext : Allowed text :=
      ht (fun c => isAllowed c = true) rfl fun c hc => (hr r (by simp) c hc).1
    exact allowed_append (allowed_spaces n) (allowed_append (allowed_cons rfl htext)
      (allowed_cons rfl (ih fun x hx => hr x (by simp [hx]))))

mutual

theorem allowed_tail {step : Nat} {dash : Bool} : ∀ (o : Outline) {n : Nat}, o.Readable →
    Allowed (tailText step dash n o)
  | .scalar s, n, hr =>
    allowed_append (allowed_cons rfl (Spelling.chars_allowed hr)) (allowed_cons rfl allowed_nil)
  | .noItems, n, _ => by simp [tailText, Allowed, isAllowed]
  | .noEntries, n, _ => by simp [tailText, Allowed, isAllowed]
  | .sequence items, n, hr => allowed_cons rfl (allowed_items items hr)
  | .mapping inline entries, n, hr => by
    have h : ∀ m, Allowed (entriesText step m entries) := fun m => allowed_entries entries hr
    simp only [tailText, hang]
    split
    · split
      · exact allowed_cons rfl fun c hc => h _ c (List.mem_of_mem_drop hc)
      · exact allowed_cons rfl (h _)
    · exact allowed_cons rfl (h _)

theorem allowed_items {step : Nat} : ∀ (items : List (List (List Char) × Outline)) {n : Nat},
    ReadableItems items → Allowed (itemsText step n items)
  | [], _, _ => allowed_nil
  | (_, o) :: items, n, hr =>
    allowed_append (allowed_append (allowed_remarks hr.1)
      (allowed_append (allowed_spaces n) (allowed_cons rfl (allowed_tail o hr.2.1))))
      (allowed_items items hr.2.2)

theorem allowed_entries {step : Nat} : ∀ (entries : List (List (List Char) × Spelling × Outline))
    {n : Nat}, ReadableEntries entries → Allowed (entriesText step n entries)
  | [], _, _ => allowed_nil
  | (_, _, o) :: entries, n, hr =>
    allowed_append (allowed_append (allowed_remarks hr.1)
      (allowed_append (allowed_spaces n) (allowed_append (Spelling.chars_allowed hr.2.1.1)
        (allowed_cons rfl (allowed_tail o hr.2.2.1)))))
      (allowed_entries entries hr.2.2.2)

end

/-- The reader takes every character of a document. -/
theorem allowed_text {step : Nat} {o : Outline} (hr : o.Readable) : Allowed (o.text step) := by
  cases o with
  | scalar s => exact allowed_append (Spelling.chars_allowed hr) (allowed_cons rfl allowed_nil)
  | noItems => simp [text, Allowed, isAllowed]
  | noEntries => simp [text, Allowed, isAllowed]
  | sequence items => exact allowed_items items hr
  | mapping inline entries => exact allowed_entries entries hr

/-- The tokens of a document are the mark at its beginning and those of its root. -/
theorem ofText_text {step : Nat} (hstep : 0 < step) {o : Outline} (hr : o.RootReadable)
    {remarks : List (List Char)} (hrem : ReadableRemarks remarks) :
    Token.ofText ("---\n".toList ++ (remarksText 0 remarks ++ o.text step))
      = .ok (.documentStart :: o.tokens) := by
  rw [show "---\n".toList = ['-', '-', '-', '\n'] from rfl]
  have hall : Allowed (['-', '-', '-', '\n'] ++ (remarksText 0 remarks ++ o.text step)) :=
    allowed_append (by simp [Allowed, isAllowed]) (allowed_append (allowed_remarks hrem) (allowed_text hr.1))
  obtain ⟨c, hb, hl⟩ := passes_documentStart (remarksText 0 remarks ++ o.text step)
  obtain ⟨c', hi', h0', hc', hl'⟩ := leads_of_arrives (f := ⟨[.documentStart], -1, []⟩) hb.index
    (@arrives_remarks 0 (o.text step) remarks _ hrem (fronts_of_begins hb))
  obtain ⟨c₂, hb₂, hl₂⟩ := scan_root hstep hr (f := ⟨[.documentStart], -1, []⟩) rfl hi' h0' hc'
  obtain ⟨fuel, hfuel, e⟩ := ((hl.trans hl').trans hl₂) _ (Nat.lt_succ_self _)
  obtain ⟨fuel, rfl⟩ : ∃ m, fuel = m + 1 := ⟨fuel - 1, by omega⟩
  rw [Token.ofText, if_pos (List.all_eq_true.2 hall)]
  refine e.trans ?_
  rw [readAll_end hb₂.index (by rw [Cursor.between_end hb₂.rest]; exact hb₂.rest)]
  simp [Frame.emit, closeOnto]

end Outline

end RoleChart.Yaml
