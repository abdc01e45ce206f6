import RoleChart.Document.Render

/-!
# Expanding block directives

A template engine takes the lines of the blocks out of a document. What stands inside of a block is
left if the condition of the block holds, and goes with it otherwise. The outcomes of the conditions
are given in the order in which the blocks open.

## Main statements

* `Segment.append`, `Segment.block` — lines whose blocks are closed are expanded on their own
* `expand_unlines` — a whole text is expanded line by line
-/

namespace RoleChart.Document

open RoleChart.Text

/-! ## Directives -/

/-- A line that opens a block or closes one. -/
inductive Directive where
  | opening
  | closing
deriving DecidableEq, Repr

/-- The directive on a line, whatever its indentation. -/
def directive? (line : List Char) : Option Directive :=
  let body := line.dropWhile (· == ' ')
  if body = "\x7b\x7b- end \x7d\x7d".toList then some .closing
  else if "\x7b\x7b- if ".toList.isPrefixOf body then some .opening
  else none

/-- The lines that are left of a template. Blocks that are open stand on a stack with their outcomes,
and a line is left if all of them hold. -/
def expandLines : List Bool → List Bool → List (List Char) → List (List Char)
  | _, _, [] => []
  | choices, stack, line :: rest =>
    match directive? line with
    | some .opening => expandLines choices.tail (choices.headD true :: stack) rest
    | some .closing => expandLines choices stack.tail rest
    | none =>
      if stack.all id then line :: expandLines choices stack rest else expandLines choices stack rest

/-- The text that is left of a template. -/
def expand (choices : List Bool) (s : String) : String :=
  String.ofList (join ['\n'] (expandLines choices [] (splitOn '\n' s.toList)))

/-! ## Segments -/

/-- Lines that close every block they open. What is left of them depends on their own conditions and
on whether they are left at all. -/
structure Segment (lines : List (List Char)) (choices : List Bool) (kept : List (List Char)) : Prop where
  expands : ∀ further stack rest, expandLines (choices ++ further) stack (lines ++ rest)
    = (if stack.all id then kept else []) ++ expandLines further stack rest
  whole : choices = [] → kept = lines

namespace Segment

variable {lines lines' kept kept' : List (List Char)} {choices choices' : List Bool} {line : List Char}

theorem nil : Segment [] [] [] where
  expands := by simp
  whole _ := rfl

theorem append (h : Segment lines choices kept) (h' : Segment lines' choices' kept') :
    Segment (lines ++ lines') (choices ++ choices') (kept ++ kept') where
  expands further stack rest := by
    rw [List.append_assoc, List.append_assoc, h.expands, h'.expands]
    split <;> simp
  whole he := by
    obtain ⟨h1, h2⟩ := List.append_eq_nil_iff.1 he
    rw [h.whole h1, h'.whole h2]

theorem single (h : directive? line = none) : Segment [line] [] [line] where
  expands further stack rest := by
    rw [List.nil_append, List.singleton_append, expandLines, h]
    simp only
    split <;> simp
  whole _ := rfl

/-- A block around lines: both of its lines go, and the lines inside too if its condition fails. -/
theorem block {opening closing : List Char} (ho : directive? opening = some .opening)
    (hc : directive? closing = some .closing) (b : Bool) (h : Segment lines choices kept) :
    Segment (opening :: (lines ++ [closing])) (b :: choices) (if b then kept else []) where
  expands further stack rest := by
    have e : opening :: (lines ++ [closing]) ++ rest = opening :: (lines ++ (closing :: rest)) := by
      simp
    rw [e, expandLines, ho]
    simp only [List.cons_append, List.tail_cons, List.headD_cons]
    rw [h.expands, expandLines, hc]
    cases b <;> simp
  whole he := by simp at he

/-- The first line may be written in another way. -/
theorem setHead (h : Segment (line :: lines) choices kept) (hd : directive? line = none)
    {line' : List Char} (hd' : directive? line' = none) :
    ∃ rest, kept = line :: rest ∧ Segment (line' :: lines) choices (line' :: rest) := by
  have head : ∀ further stack rest, expandLines (choices ++ further) stack (line :: lines ++ rest)
      = (if stack.all id then [line] else []) ++ expandLines (choices ++ further) stack (lines ++ rest) := by
    intro further stack rest
    rw [List.cons_append, expandLines, hd]
    simp only
    split <;> simp
  -- outside of all blocks the line is left, which shows what the rest leaves
  have hkept : kept = line :: expandLines choices [] lines := by
    have e := h.expands [] [] []
    rw [head] at e
    simpa [expandLines] using e.symm
  refine ⟨expandLines choices [] lines, hkept, ?_, ?_⟩
  · intro further stack rest
    have e := h.expands further stack rest
    rw [head, hkept] at e
    rw [List.cons_append, expandLines, hd']
    simp only
    split
    · next hs =>
      rw [if_pos hs, if_pos hs] at e
      simpa using e
    · next hs =>
      rw [if_neg hs, if_neg hs] at e
      simpa using e
  · intro he
    have := h.whole he
    rw [hkept] at this
    rw [(List.cons.inj this).2]

end Segment

/-! ## Whole texts -/

/-- Lines, each with a line feed behind it. -/
def unlines (lines : List (List Char)) : List Char := lines.flatMap (· ++ ['\n'])

theorem unlines_append (a b : List (List Char)) : unlines (a ++ b) = unlines a ++ unlines b :=
  List.flatMap_append

theorem splitOn_unlines {lines : List (List Char)} (h : ∀ line ∈ lines, '\n' ∉ line) :
    splitOn '\n' (unlines lines) = lines ++ [[]] := by
  induction lines with
  | nil => rfl
  | cons line lines ih =>
    have e : unlines (line :: lines) = line ++ '\n' :: unlines lines := by simp [unlines]
    rw [e, splitOn_append_cons (h line (by simp)), ih fun l hl => h l (by simp [hl])]
    rfl

theorem join_unlines (lines : List (List Char)) : join ['\n'] (lines ++ [[]]) = unlines lines := by
  induction lines with
  | nil => rfl
  | cons line lines ih =>
    have e : unlines (line :: lines) = line ++ ['\n'] ++ unlines lines := by simp [unlines]
    rw [e, ← ih]
    cases lines <;> rfl

/-- A text is expanded line by line. -/
theorem expand_unlines {lines kept : List (List Char)} {choices : List Bool}
    (h : Segment lines choices kept) (hl : ∀ line ∈ lines, '\n' ∉ line) :
    expand choices (String.ofList (unlines lines)) = String.ofList (unlines kept) := by
  have hn : directive? [] = none := by decide
  have e := h.expands [] [] [[]]
  rw [expandLines, hn] at e
  simp only [List.append_nil, List.all_nil, if_true, expandLines] at e
  rw [expand, String.toList_ofList, splitOn_unlines hl, e, join_unlines]

end RoleChart.Document
