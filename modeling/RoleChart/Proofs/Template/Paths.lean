import RoleChart.Chart.Template
import RoleChart.Names

/-!
# Value paths in texts

Which values of a release a text looks up. Wherever the name of all values stands in a text, it is
followed by the steps of a path, up to the first character that no step can hold.

## Main statements

* `valuePaths_append` — texts that meet at the end of a word have the paths of both
* `valuePaths_steps` — steps with dots between them are a path with these steps
* `valuePaths_eq_nil` — a text without the name of all values has no paths
-/

namespace RoleChart.Template

open Text (cutAt? splitOn dropPrefix?)

/-- The characters of a step of a path: letters, digits, dashes and underscores. -/
def isStepChar (c : Char) : Bool := Text.isAlphanumeric c || c == '-' || c == '_'

/-- The characters of a path: those of its steps, and the dots between them. -/
def isPathChar (c : Char) : Bool := isStepChar c || c == '.'

/-- The name of all values, in front of the steps of a path. -/
def valuesPrefix : List Char := ".Values.".toList

/-- The steps of the path in a word. -/
def wordPath? (word : List Char) : Option (List String) :=
  (cutAt? valuesPrefix word).map fun p => (splitOn '.' p.2).map String.ofList

/-- The paths in a text, each by its steps. -/
def valuePaths (s : List Char) : List (List String) :=
  (s.splitOnP fun c => !isPathChar c).filterMap wordPath?

/-- Whether a name can be a step of a path. -/
def IsStep (name : String) : Prop := name.toList.all isStepChar = true

instance (name : String) : Decidable (IsStep name) := inferInstanceAs (Decidable (_ = true))

variable {a b s : List Char} {c : Char}

/-! ## Texts put together -/

theorem valuePaths_append_cons (a b : List Char) (h : isPathChar c = false) :
    valuePaths (a ++ c :: b) = valuePaths a ++ valuePaths b := by
  rw [valuePaths, List.splitOnP_append_cons a b (by simp [h]), List.filterMap_append]
  rfl

theorem valuePaths_nil : valuePaths [] = [] := rfl

theorem valuePaths_cons (s : List Char) (h : isPathChar c = false) :
    valuePaths (c :: s) = valuePaths s := by
  have hcons := valuePaths_append_cons [] s h
  rwa [List.nil_append, valuePaths_nil, List.nil_append] at hcons

theorem valuePaths_concat (s : List Char) (h : isPathChar c = false) :
    valuePaths (s ++ [c]) = valuePaths s := by
  rw [valuePaths_append_cons s [] h, valuePaths_nil, List.append_nil]

/-- Whether a text ends with a character that no path holds. -/
def endsWord (s : List Char) : Bool := s.getLast?.any fun c => !isPathChar c

/-- Whether a text begins with a character that no path holds. -/
def beginsWord (s : List Char) : Bool := s.head?.any fun c => !isPathChar c

/-- Texts that meet at the end of a word have the paths of both. -/
theorem valuePaths_append (h : endsWord a = true ∨ beginsWord b = true) :
    valuePaths (a ++ b) = valuePaths a ++ valuePaths b := by
  rcases h with h | h
  · obtain ⟨c, hc, hp⟩ := (Option.any_eq_true _ _).1 h
    obtain ⟨front, rfl⟩ := List.getLast?_eq_some_iff.1 hc
    have hp : isPathChar c = false := by simpa using hp
    rw [List.append_assoc, List.singleton_append, valuePaths_append_cons front b hp,
      valuePaths_concat front hp]
  · obtain ⟨c, hc, hp⟩ := (Option.any_eq_true _ _).1 h
    obtain ⟨rest, rfl⟩ := List.head?_eq_some_iff.1 hc
    have hp : isPathChar c = false := by simpa using hp
    rw [valuePaths_append_cons a rest hp, valuePaths_cons rest hp]

/-! ## Texts without paths -/

/-- Every word of a text is a part of it, and the first one is its beginning. -/
theorem parts_of_words (p : Char → Bool) (s : List Char) :
    (∀ word ∈ s.splitOnP p, word <:+: s) ∧ ∀ word, (s.splitOnP p).head? = some word → word <+: s := by
  induction s with
  | nil => simp
  | cons c s ih =>
    obtain ⟨hall, hfirst⟩ := ih
    rw [List.splitOnP_cons_eq_if_modifyHead]
    split
    · refine ⟨fun word hword => ?_, fun word hword => ?_⟩
      · rcases List.mem_cons.1 hword with rfl | hword
        · exact List.nil_infix
        · exact (hall word hword).trans (List.suffix_cons c s).isInfix
      · obtain rfl : [] = word := by simpa using hword
        exact List.nil_prefix
    · cases hs : s.splitOnP p with
      | nil => exact absurd hs (List.splitOnP_ne_nil p s)
      | cons first rest =>
        rw [hs] at hall hfirst
        have hprefix : c :: first <+: c :: s := List.cons_prefix_cons.2 ⟨rfl, hfirst first rfl⟩
        refine ⟨fun word hword => ?_, fun word hword => ?_⟩
        · rcases List.mem_cons.1 hword with rfl | hword
          · exact hprefix.isInfix
          · exact (hall word (List.mem_cons_of_mem _ hword)).trans (List.suffix_cons c s).isInfix
        · obtain rfl : c :: first = word := by simpa using hword
          exact hprefix

/-- A text without the name of all values has no paths. -/
theorem valuePaths_eq_nil (h : ¬ valuesPrefix <:+: s) : valuePaths s = [] := by
  rw [valuePaths, List.filterMap_eq_nil_iff]
  intro word hword
  cases hpath : wordPath? word with
  | none => rfl
  | some steps =>
    obtain ⟨⟨before, after⟩, hcut, -⟩ := Option.map_eq_some_iff.1 hpath
    have hword := (parts_of_words _ s).1 word hword
    rw [Text.eq_append_of_cutAt? hcut] at hword
    exact absurd ((List.infix_append before valuesPrefix after).trans hword) h

/-! ## Paths by their steps -/

theorem cutAt?_append {pattern : List Char} (h : pattern ≠ []) (rest : List Char) :
    cutAt? pattern (pattern ++ rest) = some ([], rest) := by
  cases pattern with
  | nil => exact absurd rfl h
  | cons c pattern =>
    have hdrop := (Text.dropPrefix?_eq_some_iff (c :: pattern) (c :: pattern ++ rest) rest).2 rfl
    rw [List.cons_append] at hdrop ⊢
    rw [cutAt?, hdrop]

/-- A path that is written by its steps has exactly these steps. -/
theorem valuePaths_path {steps : List Char} (h : steps.all isPathChar = true) :
    valuePaths (valuesPrefix ++ steps) = [(splitOn '.' steps).map String.ofList] := by
  have hword : (valuesPrefix ++ steps).splitOnP (fun c => !isPathChar c) = [valuesPrefix ++ steps] := by
    refine List.splitOnP_eq_singleton fun c hc => ?_
    rcases List.mem_append.1 hc with hc | hc
    · have hprefix : valuesPrefix.all isPathChar = true := rfl
      simpa using List.all_eq_true.1 hprefix c hc
    · simpa using List.all_eq_true.1 h c hc
  rw [valuePaths, hword, List.filterMap_cons, wordPath?, cutAt?_append (by decide)]
  rfl

/-! ## Steps -/

theorem isPathChar_of_isStep {name : String} (h : IsStep name) : name.toList.all isPathChar = true := by
  rw [List.all_eq_true]
  intro c hc
  rw [isPathChar, List.all_eq_true.1 h c hc, Bool.true_or]

theorem dot_not_mem {name : String} (h : IsStep name) : '.' ∉ name.toList := by
  intro hc
  exact absurd (List.all_eq_true.1 h '.' hc) (by decide)

theorem isStep_varName {name : String} (h : IsStep name) : IsStep (varName name) := by
  rw [IsStep, varName, String.toList_ofList, List.all_map, List.all_eq_true]
  intro c hc
  rw [Function.comp_apply]
  split
  · rfl
  · exact List.all_eq_true.1 h c hc

theorem all_isPathChar_join {parts : List (List Char)} (h : ∀ part ∈ parts, part.all isPathChar = true) :
    (Text.join ['.'] parts).all isPathChar = true := by
  fun_induction Text.join ['.'] parts with
  | case1 => rfl
  | case2 part => exact h part (List.mem_singleton_self part)
  | case3 part parts _ ih =>
    have hrest := ih fun other hother => h other (List.mem_cons_of_mem part hother)
    rw [List.all_append, List.all_append, h part List.mem_cons_self, hrest]
    rfl

/-- Steps with dots between them are a path with these steps. -/
theorem valuePaths_steps {steps : List String} (hne : steps ≠ []) (h : ∀ step ∈ steps, IsStep step) :
    valuePaths (valuesPrefix ++ Text.join ['.'] (steps.map String.toList)) = [steps] := by
  have hchars : ∀ part ∈ steps.map String.toList, part.all isPathChar = true := by
    intro part hpart
    obtain ⟨step, hstep, rfl⟩ := List.mem_map.1 hpart
    exact isPathChar_of_isStep (h step hstep)
  have hdots : ∀ part ∈ steps.map String.toList, '.' ∉ part := by
    intro part hpart
    obtain ⟨step, hstep, rfl⟩ := List.mem_map.1 hpart
    exact dot_not_mem (h step hstep)
  rw [valuePaths_path (all_isPathChar_join hchars), Text.splitOn_join (by simpa using hne) hdots]
  simp

/-! ## Actions -/

theorem valuePaths_action (body : String) :
    valuePaths (action body).toList = valuePaths body.toList := by
  have hopen : valuePaths "\x7b\x7b ".toList = [] := by decide
  have hclose : valuePaths " \x7d\x7d".toList = [] := by decide
  rw [action, String.toList_append, String.toList_append, valuePaths_append (.inr rfl),
    valuePaths_append (.inl rfl), hopen, hclose, List.append_nil, List.nil_append]

end RoleChart.Template
