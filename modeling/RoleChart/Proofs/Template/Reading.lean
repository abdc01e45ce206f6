import RoleChart.Chart.Template
import RoleChart.Proofs.Yaml.PlainText

/-!
# Reading template expressions

A reader of conditions and numbers in the syntax of the template engine: words are separated by blanks,
a function stands in front of its arguments, and an argument is a single word or stands in parentheses.
The reader knows which paths there are, so the name of a group may hold any character.

## Main statements

* `Term.ofText?_render` — the reader finds in a condition the term that was written
* `Quantity.ofText?_render` — and in a number the choice that was written
-/

namespace RoleChart.Template

open Text (dropPrefix? splitOnce)

/-! ## Words -/

/-- Whether a word ends here: at the end of the text, at a blank, and at a closing parenthesis. -/
def stops : List Char → Bool
  | [] => true
  | c :: _ => c == ' ' || c == ')'

/-- Reads one of the known paths as a whole word. -/
def readPath? (paths : List String) (s : List Char) : Option (String × List Char) :=
  paths.findSome? fun p =>
    (dropPrefix? p.toList s).bind fun rest => if stops rest then some (p, rest) else none

/-- Reads the digits of a number. -/
def readDigits? (s : List Char) : Option (Nat × List Char) :=
  let digits := s.takeWhile Text.isDigit
  if digits.isEmpty then none
  else (Text.ofDigits? 10 digits).map fun n => (n, s.dropWhile Text.isDigit)

theorem stops_blank (s : List Char) : stops (' ' :: s) = true := rfl

namespace Term

/-- Reads a single word: a text between quotes, a path or a number. -/
def readAtom? (paths : List String) : List Char → Option (Term × List Char)
  | '"' :: s => (splitOnce '"' s).map fun p => (text (String.ofList p.1), p.2)
  | s =>
    ((readPath? paths s).map fun p => (path p.1, p.2)).or
      ((readDigits? s).map fun p => (number p.1, p.2))

/-- Reads an argument: a single word, or anything in parentheses. -/
def readArgument? (paths : List String) (read? : List Char → Option (Term × List Char)) :
    List Char → Option (Term × List Char)
  | '(' :: s =>
    match read? s with
    | some (t, ')' :: rest) => some (t, rest)
    | _ => none
  | s => readAtom? paths s

/-- The functions of one argument. -/
def unaryFunctions : List (List Char × (Term → Term)) :=
  [("int".toList, int), ("not".toList, not)]

/-- The functions of two arguments. -/
def binaryFunctions : List (List Char × (Term → Term → Term)) :=
  [("mod".toList, mod), ("eq".toList, eq), ("ne".toList, ne), ("lt".toList, lt), ("gt".toList, gt),
    ("and".toList, and)]

/-- Reads a term. The depth bounds how far parentheses are followed. -/
def readTerm? (paths : List String) : Nat → List Char → Option (Term × List Char)
  | 0, _ => none
  | depth + 1, s =>
    (readAtom? paths s).or <| (splitOnce ' ' s).bind fun p =>
      match unaryFunctions.lookup p.1, binaryFunctions.lookup p.1 with
      | some f, _ => (readArgument? paths (readTerm? paths depth) p.2).map fun a => (f a.1, a.2)
      | none, some f => do
        let (a, rest) ← readArgument? paths (readTerm? paths depth) p.2
        let rest ← dropPrefix? [' '] rest
        let (b, rest) ← readArgument? paths (readTerm? paths depth) rest
        some (f a b, rest)
      | none, none => none

/-- The term that a whole text writes. No term is deeper than its text is long. -/
def ofText? (paths : List String) (s : String) : Option Term :=
  match readTerm? paths (s.toList.length + 1) s.toList with
  | some (t, []) => some t
  | _ => none

end Term

/-- The number that a whole text writes: a path, or a constant under a condition and a path
otherwise. -/
def Quantity.ofText? (paths : List String) (s : String) : Option Quantity :=
  match dropPrefix? "\x7b\x7b if ".toList s.toList with
  | some rest => do
    let (condition, rest) ← Term.readTerm? paths (rest.length + 1) rest
    let (n, rest) ← readDigits? (← dropPrefix? " -\x7d\x7d ".toList rest)
    let (path, rest) ← readPath? paths (← dropPrefix? " \x7b\x7b- else -\x7d\x7d \x7b\x7b ".toList rest)
    if rest = " \x7d\x7d \x7b\x7b- end \x7d\x7d".toList then some (.constantIf condition n path) else none
  | none => do
    let (path, rest) ← readPath? paths (← dropPrefix? "\x7b\x7b ".toList s.toList)
    if rest = " \x7d\x7d".toList then some (.value path) else none

/-! ## Paths that can be told apart -/

/-- Paths that a reader can tell from numbers and functions, and from each other: none goes on where
another one ends. -/
structure Legible (paths : List String) : Prop where
  dot : ∀ p ∈ paths, p.toList.head? = some '.'
  apart : ∀ p ∈ paths, ∀ q ∈ paths, ∀ rest, p.toList = q.toList ++ rest → stops rest = true → p = q

variable {paths : List String} {rest : List Char}

theorem readPath?_append (hl : Legible paths) {p : String} (hp : p ∈ paths) (hs : stops rest = true) :
    readPath? paths (p.toList ++ rest) = some (p, rest) := by
  -- whatever path is read there is the written one, so it does not matter which comes first
  have honly : ∀ q ∈ paths, ∀ after, p.toList ++ rest = q.toList ++ after → stops after = true →
      q = p := by
    intro q hq after h ha
    rcases List.append_eq_append_iff.1 h with ⟨more, hmore, rfl⟩ | ⟨more, hmore, rfl⟩
    · refine hl.apart q hq p hp more hmore ?_
      cases more with
      | nil => rfl
      | cons c more => simpa [stops] using hs
    · refine (hl.apart p hp q hq more hmore ?_).symm
      cases more with
      | nil => rfl
      | cons c more => simpa [stops] using ha
  unfold readPath?
  cases hf : paths.findSome? fun q => (dropPrefix? q.toList (p.toList ++ rest)).bind fun after =>
      if stops after then some (q, after) else none with
  | none =>
    have hnone := List.findSome?_eq_none_iff.1 hf p hp
    rw [(Text.dropPrefix?_eq_some_iff _ _ rest).2 rfl, Option.bind_some, if_pos hs] at hnone
    simp at hnone
  | some found =>
    obtain ⟨q, hq, hfound⟩ := List.exists_of_findSome?_eq_some hf
    obtain ⟨after, hafter, hfound⟩ := Option.bind_eq_some_iff.1 hfound
    have hafter := (Text.dropPrefix?_eq_some_iff _ _ _).1 hafter
    split at hfound
    · next ha =>
      obtain rfl := honly q hq after hafter ha
      obtain rfl := List.append_cancel_left hafter
      exact hfound.symm
    · simp at hfound

/-- Nothing but a dot begins a path. -/
theorem readPath?_eq_none (hl : Legible paths) {s : List Char} (h : s.head? ≠ some '.') :
    readPath? paths s = none := by
  rw [readPath?, List.findSome?_eq_none_iff]
  intro p hp
  cases hd : dropPrefix? p.toList s with
  | none => rfl
  | some after =>
    obtain rfl := (Text.dropPrefix?_eq_some_iff _ _ _).1 hd
    have hdot := hl.dot p hp
    cases hc : p.toList with
    | nil => simp [hc] at hdot
    | cons c rest => simp_all

theorem digits_cons (n : Nat) : ∃ c s, (digits n).toList = c :: s ∧ Text.isDigit c = true := by
  rw [digits, String.toList_ofList]
  rcases Yaml.decimal_cases n with ⟨h, -⟩ | ⟨c, s, h, hc, -⟩
  · exact ⟨'0', [], h, rfl⟩
  · exact ⟨c, s, h, hc⟩

theorem readDigits?_append (n : Nat) (hs : stops rest = true) :
    readDigits? ((digits n).toList ++ rest) = some (n, rest) := by
  have hall : ∀ c ∈ Text.decimal n, Text.isDigit c = true := fun c h => Yaml.isDigit_decimal h
  have hrest : rest.takeWhile Text.isDigit = [] ∧ rest.dropWhile Text.isDigit = rest := by
    cases rest with
    | nil => exact ⟨rfl, rfl⟩
    | cons c rest =>
      have hc : Text.isDigit c = false := by
        simp only [stops, Bool.or_eq_true, beq_iff_eq] at hs
        rcases hs with rfl | rfl
        all_goals rfl
      simp [hc]
  have hne : Text.decimal n ≠ [] := by
    obtain ⟨c, s, h, -⟩ := digits_cons n
    rw [digits, String.toList_ofList] at h
    simp [h]
  unfold readDigits?
  simp only [digits, String.toList_ofList, List.takeWhile_append_of_pos hall,
    List.dropWhile_append_of_pos hall, hrest.1, hrest.2, List.append_nil, List.isEmpty_iff, hne,
    Yaml.ofDigits?_decimal]
  rfl

/-! ## Terms -/

namespace Term

/-- The terms of known paths and of texts without quotes. Lists of words are not read. -/
def Readable (paths : List String) : Term → Prop
  | path p => p ∈ paths
  | number _ => True
  | text s => '"' ∉ s.toList
  | int t | not t => t.Readable paths
  | mod a b | eq a b | ne a b | lt a b | gt a b | and a b => a.Readable paths ∧ b.Readable paths
  | lists _ _ => False

variable {t a b : Term}

theorem readAtom?_append (hl : Legible paths) (hr : t.Readable paths) (ha : t.isAtom = true)
    (hs : stops rest = true) : readAtom? paths (t.render.toList ++ rest) = some (t, rest) := by
  cases t with
  | path p =>
    have hread := readPath?_append hl hr hs
    have hdot := hl.dot p hr
    cases hp : p.toList with
    | nil => simp [hp] at hdot
    | cons c s =>
      obtain rfl : c = '.' := by simpa [hp] using hdot
      rw [hp, List.cons_append] at hread
      simp [render, hp, readAtom?, hread]
  | number n =>
    have hread := readDigits?_append n hs
    obtain ⟨c, s, hn, hc⟩ := digits_cons n
    have hquote : c ≠ '"' := by
      rintro rfl
      exact absurd hc (by decide)
    have hdot : c ≠ '.' := by
      rintro rfl
      exact absurd hc (by decide)
    rw [hn, List.cons_append] at hread
    -- a number begins with a digit, and no path does
    have hnone : readPath? paths (c :: (s ++ rest)) = none := readPath?_eq_none hl (by simpa using hdot)
    rw [render, hn, List.cons_append, readAtom?.eq_2 _ _ (by simpa using hquote), hnone, hread]
    rfl
  | text word =>
    have hcut := (Text.splitOnce_eq_some_iff '"' (word.toList ++ '"' :: rest) word.toList rest).2
      ⟨rfl, hr⟩
    simp [render, quoted, readAtom?, hcut]
  | _ => simp [isAtom] at ha

/-- Whether a word can be the name of a function: no single word begins like it. -/
def isFunctionName : List Char → Bool
  | [] => false
  | c :: s => c != '.' && c != '"' && !Text.isDigit c && !(c :: s).contains ' '

theorem readAtom?_eq_none (hl : Legible paths) {s : List Char} {c : Char}
    (hdot : c ≠ '.') (hquote : c ≠ '"') (hdigit : Text.isDigit c = false) :
    readAtom? paths (c :: s) = none := by
  have hpath : readPath? paths (c :: s) = none := readPath?_eq_none hl (by simpa using hdot)
  simp [readAtom?, hquote, hpath, readDigits?, hdigit]

theorem readTerm?_function (hl : Legible paths) {name : List Char} (hname : isFunctionName name = true)
    (s : List Char) :
    readAtom? paths (name ++ ' ' :: s) = none ∧ splitOnce ' ' (name ++ ' ' :: s) = some (name, s) := by
  cases name with
  | nil => simp [isFunctionName] at hname
  | cons c name =>
    simp only [isFunctionName, Bool.and_eq_true, bne_iff_ne, ne_eq, Bool.not_eq_true',
      List.contains_eq_mem, decide_eq_false_iff_not] at hname
    obtain ⟨⟨⟨hdot, hquote⟩, hdigit⟩, hblank⟩ := hname
    exact ⟨readAtom?_eq_none hl hdot hquote hdigit, (Text.splitOnce_eq_some_iff _ _ _ _).2 ⟨rfl, hblank⟩⟩

/-- An argument that is no single word is read inside of its parentheses. -/
theorem readArgument?_append (hl : Legible paths) {read? : List Char → Option (Term × List Char)}
    (hr : t.Readable paths) (hs : stops rest = true)
    (hread : ∀ after, stops after = true → read? (t.render.toList ++ after) = some (t, after)) :
    readArgument? paths read? ((group t.isAtom t.render).toList ++ rest) = some (t, rest) := by
  cases ha : t.isAtom with
  | true =>
    have hatom := readAtom?_append hl hr ha hs
    rw [group, if_pos rfl, readArgument?.eq_2, hatom]
    intro s h
    -- no single word begins with a parenthesis
    rw [h, readAtom?_eq_none hl (by decide) (by decide) (by decide)] at hatom
    cases hatom
  | false => simp [group, readArgument?, hread (')' :: rest) rfl]

/-- Whether the reader finds the term where it is written, if it looks deep enough. -/
def Reads (paths : List String) (t : Term) : Prop :=
  ∀ depth rest, t.render.toList.length < depth → stops rest = true →
    readTerm? paths depth (t.render.toList ++ rest) = some (t, rest)

theorem reads_atom (hl : Legible paths) (hr : t.Readable paths) (ha : t.isAtom = true) :
    Reads paths t := by
  intro depth rest hd hs
  cases depth with
  | zero => omega
  | succ depth => simp [readTerm?, readAtom?_append hl hr ha hs]

theorem length_le_group (atom : Bool) (s : String) :
    s.toList.length ≤ (group atom s).toList.length := by
  cases atom <;> simp [group]
  omega

theorem reads_unary (hl : Legible paths) (name : List Char) {f : Term → Term}
    (hname : isFunctionName name = true) (hf : unaryFunctions.lookup name = some f)
    (hrender : (f a).render.toList = name ++ ' ' :: (group a.isAtom a.render).toList)
    (hr : a.Readable paths) (ha : Reads paths a) : Reads paths (f a) := by
  intro depth rest hd hs
  have hlength := length_le_group a.isAtom a.render
  simp only [hrender, List.length_append, List.length_cons] at hd
  cases depth with
  | zero => omega
  | succ depth =>
    obtain ⟨hatom, hcut⟩ := readTerm?_function hl hname ((group a.isAtom a.render).toList ++ rest)
    have hread := readArgument?_append hl hr hs fun after => ha depth after (by omega)
    rw [hrender, List.append_assoc, List.cons_append, readTerm?, hatom, hcut]
    simp [hf, hread]

theorem reads_binary (hl : Legible paths) (name : List Char) {f : Term → Term → Term}
    (hname : isFunctionName name = true) (hu : unaryFunctions.lookup name = none)
    (hf : binaryFunctions.lookup name = some f)
    (hrender : (f a b).render.toList = name ++ ' ' :: ((group a.isAtom a.render).toList
      ++ ' ' :: (group b.isAtom b.render).toList))
    (hr : a.Readable paths ∧ b.Readable paths) (ha : Reads paths a) (hb : Reads paths b) :
    Reads paths (f a b) := by
  intro depth rest hd hs
  have hlengtha := length_le_group a.isAtom a.render
  have hlengthb := length_le_group b.isAtom b.render
  simp only [hrender, List.length_append, List.length_cons] at hd
  cases depth with
  | zero => omega
  | succ depth =>
    obtain ⟨hatom, hcut⟩ := readTerm?_function hl hname ((group a.isAtom a.render).toList
      ++ ' ' :: ((group b.isAtom b.render).toList ++ rest))
    have hreada := readArgument?_append hl hr.1 (stops_blank ((group b.isAtom b.render).toList ++ rest))
      fun after => ha depth after (by omega)
    have hreadb := readArgument?_append hl hr.2 hs fun after => hb depth after (by omega)
    simp only [hrender, List.append_assoc, List.cons_append, readTerm?, hatom, hcut]
    simp [hu, hf, hreada, hreadb, dropPrefix?]

theorem reads_of_readable (hl : Legible paths) (hr : t.Readable paths) : Reads paths t := by
  induction t with
  | path p => exact reads_atom hl hr rfl
  | number n => exact reads_atom hl hr rfl
  | text s => exact reads_atom hl hr rfl
  | int a ih => exact reads_unary hl "int".toList rfl rfl (by simp [render]) hr (ih hr)
  | not a ih => exact reads_unary hl "not".toList rfl rfl (by simp [render]) hr (ih hr)
  | mod a b iha ihb =>
    exact reads_binary hl "mod".toList rfl rfl rfl (by simp [render]) hr (iha hr.1) (ihb hr.2)
  | eq a b iha ihb =>
    exact reads_binary hl "eq".toList rfl rfl rfl (by simp [render]) hr (iha hr.1) (ihb hr.2)
  | ne a b iha ihb =>
    exact reads_binary hl "ne".toList rfl rfl rfl (by simp [render]) hr (iha hr.1) (ihb hr.2)
  | lt a b iha ihb =>
    exact reads_binary hl "lt".toList rfl rfl rfl (by simp [render]) hr (iha hr.1) (ihb hr.2)
  | gt a b iha ihb =>
    exact reads_binary hl "gt".toList rfl rfl rfl (by simp [render]) hr (iha hr.1) (ihb hr.2)
  | and a b iha ihb =>
    exact reads_binary hl "and".toList rfl rfl rfl (by simp [render]) hr (iha hr.1) (ihb hr.2)
  | lists word p => exact absurd hr (by simp [Readable])

/-- The reader finds in the text of a term the term itself. -/
theorem ofText?_render (hl : Legible paths) (hr : t.Readable paths) :
    ofText? paths t.render = some t := by
  have h := reads_of_readable hl hr (t.render.toList.length + 1) [] (Nat.lt_succ_self _) rfl
  rw [List.append_nil] at h
  rw [ofText?, h]

end Term

/-! ## Numbers -/

namespace Quantity

/-- The numbers of readable conditions and known paths. -/
def Readable (paths : List String) : Quantity → Prop
  | value p => p ∈ paths
  | constantIf condition _ p => condition.Readable paths ∧ p ∈ paths

theorem dropPrefix?_append (p s : List Char) : dropPrefix? p (p ++ s) = some s :=
  (Text.dropPrefix?_eq_some_iff _ _ _).2 rfl

/-- The reader finds in the text of a number the choice that it writes. -/
theorem ofText?_render (hl : Legible paths) {q : Quantity} (hr : q.Readable paths) :
    ofText? paths q.render = some q := by
  cases q with
  | value p =>
    have htext : (value p).render.toList = "\x7b\x7b ".toList ++ (p.toList ++ " \x7d\x7d".toList) := by
      simp [render, action]
    have hcondition : dropPrefix? "\x7b\x7b if ".toList (value p).render.toList = none := by
      -- a path does not begin like a condition
      have hdot := hl.dot p hr
      cases hp : p.toList with
      | nil => simp [hp] at hdot
      | cons c s =>
        obtain rfl : c = '.' := by simpa [hp] using hdot
        simp [htext, hp, dropPrefix?]
    rw [ofText?, hcondition]
    simp only [htext, dropPrefix?_append, Option.bind_eq_bind, Option.bind_some]
    rw [readPath?_append hl hr rfl]
    rfl
  | constantIf condition n p =>
    obtain ⟨hc, hp⟩ := hr
    have htext : (constantIf condition n p).render.toList = "\x7b\x7b if ".toList
        ++ (condition.render.toList ++ (" -\x7d\x7d ".toList ++ ((digits n).toList
          ++ (" \x7b\x7b- else -\x7d\x7d \x7b\x7b ".toList
            ++ (p.toList ++ " \x7d\x7d \x7b\x7b- end \x7d\x7d".toList))))) := by
      simp [render, action, ifBlock]
    have hcondition := Term.reads_of_readable hl hc
    rw [ofText?, htext, dropPrefix?_append]
    simp only [Option.bind_eq_bind]
    rw [hcondition _ _ (by rw [List.length_append]; omega) rfl]
    simp only [Option.bind_some, dropPrefix?_append]
    rw [readDigits?_append n rfl]
    simp only [Option.bind_some, dropPrefix?_append]
    rw [readPath?_append hl hp rfl]
    rfl

end Quantity

end RoleChart.Template
