import RoleChart.Proofs.Document.Expansion

/-!
# Joining quoted template expressions

A document is joined once all of its lines are put together, so an expression that one scalar opens can
be closed by a scalar on another line. Joining leaves a text alone exactly if every expression that is
closed at all is closed on the line that opens it.

## Main statements

* `joinTemplates_line` — a line that leaves no expression open is joined on its own, which changes nothing
* `joinTemplates_unlines_iff` — the texts that joining leaves alone
-/

namespace RoleChart.Document

open RoleChart.Text

/-! ## Marks on lines -/

theorem prefix_line (line : List Char) {rest : List Char} : ∀ {pattern : List Char}, '\n' ∉ pattern →
    pattern <+: line ++ '\n' :: rest → pattern <+: line := by
  induction line with
  | nil =>
    intro pattern hp h
    cases pattern with
    | nil => exact List.nil_prefix
    | cons p pattern =>
      rw [List.nil_append, List.cons_prefix_cons] at h
      exact absurd h.1 fun e => hp (by simp [e])
  | cons c line ih =>
    intro pattern hp h
    cases pattern with
    | nil => exact List.nil_prefix
    | cons p pattern =>
      rw [List.cons_append, List.cons_prefix_cons] at h
      exact List.cons_prefix_cons.2 ⟨h.1, ih (fun hm => hp (by simp [hm])) h.2⟩

/-- A pattern without a line feed stands on one of the lines. -/
theorem infix_line {pattern line rest : List Char} (hne : pattern ≠ []) (hp : '\n' ∉ pattern)
    (h : pattern <:+: line ++ '\n' :: rest) : pattern <:+: line ∨ pattern <:+: rest := by
  induction line with
  | nil =>
    rw [List.nil_append, List.infix_cons_iff] at h
    rcases h with h | h
    · exact absurd (List.prefix_nil.1 (prefix_line [] hp h)) hne
    · exact Or.inr h
  | cons c line ih =>
    rw [List.cons_append, List.infix_cons_iff] at h
    rcases h with h | h
    · exact Or.inl (prefix_line (c :: line) hp h).isInfix
    · rcases ih h with h | h
      · exact Or.inl (List.infix_cons h)
      · exact Or.inr h

theorem infix_unlines_iff {pattern : List Char} {lines : List (List Char)} (hne : pattern ≠ [])
    (hfeed : '\n' ∉ pattern) : pattern <:+: unlines lines ↔ ∃ line ∈ lines, pattern <:+: line := by
  induction lines with
  | nil => simp [unlines, hne]
  | cons line lines ih =>
    have e : unlines (line :: lines) = line ++ '\n' :: unlines lines := by simp [unlines]
    have hcons : (∃ l ∈ line :: lines, pattern <:+: l) ↔ pattern <:+: line ∨ ∃ l ∈ lines, pattern <:+: l := by
      simp
    rw [e, hcons, ← ih]
    constructor
    · exact infix_line hne hfeed
    · rintro (h | h)
      · exact h.trans (List.prefix_append _ _).isInfix
      · exact h.trans ((List.suffix_cons _ _).trans (List.suffix_append _ _)).isInfix

section Cut

variable {pattern line : List Char}

/-- On a line without the pattern nothing is found. -/
theorem cutAt?_line (hne : pattern ≠ []) (hfeed : '\n' ∉ pattern) (hline : ¬ pattern <:+: line)
    (rest : List Char) : cutAt? pattern (line ++ '\n' :: rest)
      = (cutAt? pattern rest).map fun p => (line ++ '\n' :: p.1, p.2) := by
  induction line with
  | nil =>
    have hdrop : dropPrefix? pattern ('\n' :: rest) = none := by
      rw [dropPrefix?_eq_none_iff]
      intro h
      exact hne (List.prefix_nil.1 (prefix_line [] hfeed h))
    rw [List.nil_append, cutAt?, hdrop]
    rfl
  | cons c line ih =>
    have hdrop : dropPrefix? pattern (c :: (line ++ '\n' :: rest)) = none := by
      rw [dropPrefix?_eq_none_iff]
      exact fun h => hline (prefix_line (c :: line) hfeed h).isInfix
    rw [List.cons_append, cutAt?, hdrop, ih fun h => hline (List.infix_cons h)]
    simp [Function.comp_def]

end Cut

/-! ## Lines that leave an expression open -/

/-- Whether a quoted template expression that a line opens is not closed on it. -/
def leavesOpen (line : List Char) : Bool :=
  match _opened : cutAt? templateOpening line with
  | none => false
  | some (_, after) =>
    match _closed : cutAt? templateClosing after with
    | none => true
    | some (_, rest) => leavesOpen rest
termination_by line.length
decreasing_by
  have e := congrArg List.length (eq_append_of_cutAt? _opened)
  have e' := congrArg List.length (eq_append_of_cutAt? _closed)
  simp only [templateOpening, templateClosing, List.length_append, List.length_cons,
    List.length_nil] at e e'
  omega

section LeavesOpen

variable {line before after inside rest : List Char}

theorem leavesOpen_of_not_opened (ho : cutAt? templateOpening line = none) : leavesOpen line = false := by
  rw [leavesOpen]
  split
  · rfl
  · next ho' => simp [ho] at ho'

theorem leavesOpen_of_not_closed (ho : cutAt? templateOpening line = some (before, after))
    (hc : cutAt? templateClosing after = none) : leavesOpen line = true := by
  rw [leavesOpen]
  split
  · next ho' => simp [ho] at ho'
  · next ho' =>
    obtain ⟨rfl, rfl⟩ := by simpa [ho] using ho'
    split
    · rfl
    · next hc' => simp [hc] at hc'

theorem leavesOpen_of_closed (ho : cutAt? templateOpening line = some (before, after))
    (hc : cutAt? templateClosing after = some (inside, rest)) : leavesOpen line = leavesOpen rest := by
  rw [leavesOpen]
  split
  · next ho' => simp [ho] at ho'
  · next ho' =>
    obtain ⟨rfl, rfl⟩ := by simpa [ho] using ho'
    split
    · next hc' => simp [hc] at hc'
    · next hc' =>
      obtain ⟨rfl, rfl⟩ := by simpa [hc] using hc'
      rfl

end LeavesOpen

/-- Whether no expression that a line leaves open is closed on a later line. -/
def closesOnLines : List (List Char) → Bool
  | [] => true
  | line :: lines =>
    if leavesOpen line then lines.all fun later => !occurs templateClosing later
    else closesOnLines lines

theorem closesOnLines_of_not_opening {lines : List (List Char)}
    (h : ∀ line ∈ lines, ¬ templateOpening <:+: line) : closesOnLines lines = true := by
  induction lines with
  | nil => rfl
  | cons line lines ih =>
    have hline := leavesOpen_of_not_opened (cutAt?_eq_none_iff.2 (h line List.mem_cons_self))
    rw [closesOnLines, hline, if_neg (by simp)]
    exact ih fun l hl => h l (List.mem_cons_of_mem line hl)

/-! ## Joining line by line -/

section Join

variable {s line before after inside rest : List Char}

theorem joinTemplates_of_not_closed (ho : cutAt? templateOpening s = some (before, after))
    (hc : cutAt? templateClosing after = none) : joinTemplates s = s := by
  rw [joinTemplates]
  split
  · rfl
  · next ho' =>
    obtain ⟨rfl, rfl⟩ := by simpa [ho] using ho'
    split
    · rfl
    · next hc' => simp [hc] at hc'

theorem joinTemplates_of_closed (ho : cutAt? templateOpening s = some (before, after))
    (hc : cutAt? templateClosing after = some (inside, rest)) :
    joinTemplates s
      = before ++ templateOpening ++ joinLines inside ++ templateClosing ++ joinTemplates rest := by
  rw [joinTemplates]
  split
  · next ho' => simp [ho] at ho'
  · next ho' =>
    obtain ⟨rfl, rfl⟩ := by simpa [ho] using ho'
    split
    · next hc' => simp [hc] at hc'
    · next hc' =>
      obtain ⟨rfl, rfl⟩ := by simpa [hc] using hc'
      rfl

theorem joinLines_line (h : '\n' ∉ line) : joinLines line = line := by
  rw [joinLines, splitOn_eq_singleton h]
  rfl

/-- Behind a line without an opening mark joining begins anew. -/
theorem joinTemplates_behind (h : ¬ templateOpening <:+: line) (rest : List Char) :
    joinTemplates (line ++ '\n' :: rest) = line ++ '\n' :: joinTemplates rest := by
  have hcut := cutAt?_line (by decide) (by decide) h rest
  cases ho : cutAt? templateOpening rest with
  | none =>
    rw [ho] at hcut
    rw [joinTemplates_of_not_occurs ho, joinTemplates_of_not_occurs hcut]
  | some parts =>
    obtain ⟨before, after⟩ := parts
    rw [ho] at hcut
    cases hc : cutAt? templateClosing after with
    | none => rw [joinTemplates_of_not_closed ho hc, joinTemplates_of_not_closed hcut hc]
    | some parts =>
      rw [joinTemplates_of_closed ho hc, joinTemplates_of_closed hcut hc]
      simp

/-- A line that leaves no expression open is joined on its own, which changes nothing. -/
theorem joinTemplates_line (h : leavesOpen line = false) (hfeed : '\n' ∉ line) (rest : List Char) :
    joinTemplates (line ++ '\n' :: rest) = line ++ '\n' :: joinTemplates rest := by
  induction line using leavesOpen.induct with
  | case1 line ho => exact joinTemplates_behind (cutAt?_eq_none_iff.1 ho) rest
  | case2 line before after ho hc => simp [leavesOpen_of_not_closed ho hc] at h
  | case3 line before after ho inside tail hc ih =>
    rw [leavesOpen_of_closed ho hc] at h
    have e := eq_append_of_cutAt? ho
    have e' := eq_append_of_cutAt? hc
    rw [e, e'] at hfeed
    simp only [List.mem_append, not_or] at hfeed
    obtain ⟨-, ⟨hinside, -⟩, htail⟩ := hfeed
    rw [joinTemplates_of_closed (cutAt?_behind ho _) (cutAt?_behind hc _), joinLines_line hinside,
      ih h htail, e, e']
    simp

theorem not_mem_joinOnto {parts : List (List Char)} (hline : '\n' ∉ line)
    (h : ∀ part ∈ parts, '\n' ∉ part) : '\n' ∉ joinOnto line parts := by
  induction parts generalizing line with
  | nil => exact hline
  | cons next parts ih =>
    have htrimmed : '\n' ∉ trimEnd isGap line := by
      intro hm
      rw [trimEnd, List.mem_reverse] at hm
      exact hline (List.mem_reverse.1 ((List.dropWhile_sublist _).subset hm))
    have hnext : '\n' ∉ next.dropWhile isGap := fun hm =>
      h next List.mem_cons_self ((List.dropWhile_sublist _).subset hm)
    rw [joinOnto]
    simp only [List.mem_append, List.mem_cons, not_or]
    exact ⟨htrimmed, by decide, ih hnext fun part hm => h part (List.mem_cons_of_mem next hm)⟩

/-- Joined lines are one line. -/
theorem not_mem_joinLines (s : List Char) : '\n' ∉ joinLines s := by
  have hparts : ∀ part ∈ splitOn '\n' s, '\n' ∉ part := fun part => not_mem_splitOn
  unfold joinLines
  split
  · simp
  · next first rest e =>
    rw [e] at hparts
    exact not_mem_joinOnto (hparts first List.mem_cons_self)
      fun part hm => hparts part (List.mem_cons_of_mem first hm)

/-- Joining makes no line breaks. -/
theorem count_joinTemplates_le (s : List Char) : (joinTemplates s).count '\n' ≤ s.count '\n' := by
  induction s using joinTemplates.induct with
  | case1 s ho => exact Nat.le_of_eq (by rw [joinTemplates_of_not_occurs ho])
  | case2 s before after ho hc => exact Nat.le_of_eq (by rw [joinTemplates_of_not_closed ho hc])
  | case3 s before after ho inside rest hc ih =>
    have hinside := List.count_eq_zero.2 (not_mem_joinLines inside)
    rw [joinTemplates_of_closed ho hc, eq_append_of_cutAt? ho, eq_append_of_cutAt? hc]
    simp only [List.count_append]
    omega

/-- An expression that a line leaves open is closed behind it exactly if joining changes the text. -/
theorem joinTemplates_leavesOpen_iff (h : leavesOpen line = true) (hfeed : '\n' ∉ line) (rest : List Char) :
    joinTemplates (line ++ '\n' :: rest) = line ++ '\n' :: rest ↔ ¬ templateClosing <:+: rest := by
  induction line using leavesOpen.induct with
  | case1 line ho => simp [leavesOpen_of_not_opened ho] at h
  | case2 line before after ho hc =>
    have ho' := cutAt?_behind ho ('\n' :: rest)
    have hcut := cutAt?_line (by decide) (by decide) (cutAt?_eq_none_iff.1 hc) rest
    rw [← cutAt?_eq_none_iff]
    cases hrest : cutAt? templateClosing rest with
    | none =>
      rw [hrest] at hcut
      simp [joinTemplates_of_not_closed ho' hcut]
    | some parts =>
      obtain ⟨inside, tail⟩ := parts
      rw [hrest] at hcut
      -- the line break between the marks is lost
      have hlost := List.count_eq_zero.2 (not_mem_joinLines (after ++ '\n' :: inside))
      have htail := count_joinTemplates_le tail
      simp only [reduceCtorEq, iff_false]
      intro e
      have hcount := congrArg (List.count '\n') e
      rw [joinTemplates_of_closed ho' hcut, eq_append_of_cutAt? ho, eq_append_of_cutAt? hrest] at hcount
      simp only [List.count_append, List.count_cons_self] at hcount
      omega
  | case3 line before after ho inside tail hc ih =>
    rw [leavesOpen_of_closed ho hc] at h
    have e := eq_append_of_cutAt? ho
    have e' := eq_append_of_cutAt? hc
    rw [e, e'] at hfeed
    simp only [List.mem_append, not_or] at hfeed
    obtain ⟨-, ⟨hinside, -⟩, htail⟩ := hfeed
    rw [joinTemplates_of_closed (cutAt?_behind ho _) (cutAt?_behind hc _), joinLines_line hinside, e, e',
      ← ih h htail]
    simp

end Join

/-- The texts that joining leaves alone. -/
theorem joinTemplates_unlines_iff {lines : List (List Char)} (h : ∀ line ∈ lines, '\n' ∉ line) :
    joinTemplates (unlines lines) = unlines lines ↔ closesOnLines lines = true := by
  induction lines with
  | nil => exact iff_of_true (joinTemplates_of_not_occurs rfl) rfl
  | cons line lines ih =>
    have e : unlines (line :: lines) = line ++ '\n' :: unlines lines := by simp [unlines]
    have hline := h line List.mem_cons_self
    rw [e, closesOnLines]
    split
    · next hopen =>
      rw [joinTemplates_leavesOpen_iff hopen hline, infix_unlines_iff (by decide) (by decide)]
      simp [List.all_eq_true, Bool.eq_false_iff, occurs_iff]
    · next hclosed =>
      rw [joinTemplates_line (by simpa using hclosed) hline,
        ← ih fun l hl => h l (List.mem_cons_of_mem line hl)]
      simp

end RoleChart.Document
