import RoleChart.Document.Node
import RoleChart.Proofs.Building
import RoleChart.Proofs.Template.Paths
import RoleChart.Proofs.Template.Reading

/-!
# Counting up

A block that counts repeats its node with a counter from zero on. The actions of a template that read the counter
show it, or add a number to it. What the template engine makes of a node is a copy for each value of the counter,
with every action replaced by what it shows.

## Main statements

* `textAt?_of_free` — a text without actions stays
* `textAt?_append_action` — an action behind a text is replaced
* `textAt?_eq_none` — an action that does not read the counter is none of them
-/

namespace RoleChart.Template

open RoleChart.Document
open Text (cutAt? splitOn decimal)

/-! ## Actions -/

/-- What stands in front of an action. -/
def opening : List Char := "\x7b\x7b".toList

/-- What stands behind an action. -/
def closing : List Char := "\x7d\x7d".toList

/-- The name of the counter. -/
def counterName : List Char := "$i".toList

/-- What an action shows that reads the counter: the counter, or its sum with a number. -/
def actionAt? (counter : Nat) (body : List Char) : Option (List Char) :=
  match (splitOn ' ' body).filter (· ≠ []) with
  | [word] => if word = counterName then some (decimal counter) else none
  | [function, number, word] =>
    if function = "add".toList ∧ word = counterName then
      (Text.ofDigits? 10 number).map fun n => decimal (n + counter)
    else none
  | _ => none

/-- The text at a counter: each of its actions is replaced by what it shows. -/
def textAt? (counter : Nat) (s : List Char) : Option (List Char) :=
  match _hopening : cutAt? opening s with
  | none => some s
  | some (front, behind) =>
    match _hclosing : cutAt? closing behind with
    | none => none
    | some (body, rest) => do
      let made ← actionAt? counter body
      let more ← textAt? counter rest
      some (front ++ made ++ more)
termination_by s.length
decreasing_by
  rw [Text.eq_append_of_cutAt? _hopening, Text.eq_append_of_cutAt? _hclosing]
  simp [opening]
  omega

/-! ## Nodes -/

mutual

/-- The node at a counter. Names stay. -/
def nodeAt? (counter : Nat) : Node → Option Node
  | .scalar notes text => (textAt? counter text.toList).map fun t => .scalar notes (String.ofList t)
  | .list notes items => (itemsAt? counter items).map (.list notes)
  | .mapping notes m => (entriesAt? counter m).map (.mapping notes)

/-- The items of a list at a counter. -/
def itemsAt? (counter : Nat) : List Node → Option (List Node)
  | [] => some []
  | n :: rest => do some ((← nodeAt? counter n) :: (← itemsAt? counter rest))

/-- The entries of a mapping at a counter. -/
def entriesAt? (counter : Nat) : List (String × Node) → Option Mapping
  | [] => some []
  | (name, n) :: rest => do some ((name, ← nodeAt? counter n) :: (← entriesAt? counter rest))

end

/-- What a block that counts makes of a node: a copy at each counter, without the block. -/
def copies? (count : Nat) (n : Node) : Option (List Node) :=
  (List.range count).mapM fun i => nodeAt? i (n.withNotes { n.notes with blocks := [] })

/-! ## Texts at a counter -/

variable {counter : Nat} {s : List Char}

theorem textAt?_of_free (h : ¬ opening <:+: s) (counter : Nat) : textAt? counter s = some s := by
  rw [textAt?, Text.cutAt?_eq_none_iff.2 h]

theorem textAt?_of_cut {front behind body rest : List Char} (h : cutAt? opening s = some (front, behind))
    (h' : cutAt? closing behind = some (body, rest)) :
    textAt? counter s = (actionAt? counter body).bind fun made =>
      (textAt? counter rest).map fun more => front ++ made ++ more := by
  rw [textAt?, h]
  dsimp only
  rw [h']
  dsimp only
  cases actionAt? counter body with
  | none => rfl
  | some made => cases textAt? counter rest <;> rfl

/-- A pattern behind a text without its first character is found there. -/
theorem cutAt?_behind_of_not_mem {c : Char} {pattern front : List Char} (h : c ∉ front) (rest : List Char) :
    cutAt? (c :: pattern) (front ++ (c :: pattern ++ rest)) = some (front, rest) := by
  induction front with
  | nil => exact cutAt?_append (List.cons_ne_nil c pattern) rest
  | cons d front ih =>
    rw [List.mem_cons, not_or] at h
    have hdrop : Text.dropPrefix? (c :: pattern) (d :: (front ++ (c :: pattern ++ rest))) = none := if_neg h.1
    rw [List.cons_append, cutAt?, hdrop, ih h.2]
    rfl

/-- An action at the end of a text is replaced by what it shows. -/
theorem textAt?_append_action {front : List Char} {body : String} (hfront : '\x7b' ∉ front)
    (hbody : '\x7d' ∉ body.toList) :
    textAt? counter (front ++ (action body).toList)
      = (actionAt? counter (' ' :: body.toList ++ [' '])).map (front ++ ·) := by
  have haction : (action body).toList = opening ++ ((' ' :: body.toList ++ [' ']) ++ closing) := by
    simp [action, opening, closing]
  have hopened : cutAt? opening (front ++ (action body).toList)
      = some (front, (' ' :: body.toList ++ [' ']) ++ closing) := by
    rw [haction]
    exact cutAt?_behind_of_not_mem hfront _
  have hclosed : cutAt? closing ((' ' :: body.toList ++ [' ']) ++ closing)
      = some (' ' :: body.toList ++ [' '], []) := by
    have hinside : '\x7d' ∉ ' ' :: body.toList ++ [' '] := by simp [hbody]
    exact cutAt?_behind_of_not_mem hinside []
  rw [textAt?_of_cut hopened hclosed, textAt?_of_free (by decide)]
  cases actionAt? counter (' ' :: body.toList ++ [' ']) with
  | none => rfl
  | some made => simp

/-- What reads the counter has its name in it. -/
theorem actionAt?_eq_none {body : List Char} (h : 'i' ∉ body) (counter : Nat) : actionAt? counter body = none := by
  have hword : ∀ word ∈ (splitOn ' ' body).filter (· ≠ []), word ≠ counterName := by
    rintro word hmem rfl
    have hinner : counterName <:+: Text.join [' '] (splitOn ' ' body) :=
      Text.infix_of_mem_join (List.mem_filter.1 hmem).1
    rw [Text.join_splitOn] at hinner
    exact h (hinner.subset (by decide))
  unfold actionAt?
  split
  · next word heq => rw [if_neg (hword word (by rw [heq]; exact List.mem_cons_self))]
  · next function number word heq =>
    have hmem : word ∈ (splitOn ' ' body).filter (· ≠ []) := by
      rw [heq]
      exact List.mem_cons_of_mem _ (List.mem_cons_of_mem _ List.mem_cons_self)
    rw [if_neg fun hboth => hword word hmem hboth.2]
  · rfl

/-- A text with an action that does not read the counter is not made. -/
theorem textAt?_eq_none (h : opening <:+: s) (hname : 'i' ∉ s) (counter : Nat) : textAt? counter s = none := by
  cases hopened : cutAt? opening s with
  | none => exact absurd h (Text.cutAt?_eq_none_iff.1 hopened)
  | some p =>
    obtain ⟨front, behind⟩ := p
    have hs := Text.eq_append_of_cutAt? hopened
    cases hclosed : cutAt? closing behind with
    | none =>
      rw [textAt?, hopened]
      simp only
      rw [hclosed]
    | some q =>
      obtain ⟨body, rest⟩ := q
      have hbehind := Text.eq_append_of_cutAt? hclosed
      have hbody : 'i' ∉ body := fun hmem => hname (by simp [hs, hbehind, hmem])
      rw [textAt?_of_cut hopened hclosed, actionAt?_eq_none hbody]
      rfl

/-! ## The counter and its sums -/

/-- A text in front of the counter is followed by it. -/
theorem textAt?_counter {front : List Char} (hfront : '\x7b' ∉ front) (counter : Nat) :
    textAt? counter (front ++ (action "$i").toList) = some (front ++ decimal counter) := by
  rw [textAt?_append_action hfront (by decide)]
  rfl

/-- The sum of a number and the counter is written in digits. -/
theorem textAt?_sum (first counter : Nat) :
    textAt? counter (action ("add " ++ digits first ++ " $i")).toList = some (decimal (first + counter)) := by
  have hnot {c : Char} (hc : Text.isDigit c = false) : c ∉ decimal first := fun hmem => by
    rw [Yaml.isDigit_decimal hmem] at hc
    cases hc
  have hbody : ("add " ++ digits first ++ " $i").toList = "add ".toList ++ decimal first ++ " $i".toList := by
    simp [digits]
  have hclosing : '\x7d' ∉ ("add " ++ digits first ++ " $i").toList := by
    simp [hbody, hnot (c := '\x7d') rfl]
  -- neither the digits nor the name of the counter hold a blank, so there are three words
  have hwords : splitOn ' ' (' ' :: ("add " ++ digits first ++ " $i").toList ++ [' '])
      = [[], "add".toList, decimal first, counterName, []] := by
    have hspaced : ' ' :: ("add " ++ digits first ++ " $i").toList ++ [' ']
        = [] ++ ' ' :: ("add".toList ++ ' ' :: (decimal first ++ ' ' :: (counterName ++ ' ' :: []))) := by
      simp [hbody, counterName]
    rw [hspaced, Text.splitOn_append_cons List.not_mem_nil, Text.splitOn_append_cons (by decide),
      Text.splitOn_append_cons (hnot rfl), Text.splitOn_append_cons (by decide)]
    rfl
  have hsome : decimal first ≠ [] := by
    obtain ⟨c, rest, h, -⟩ := digits_cons first
    rw [digits, String.toList_ofList] at h
    simp [h]
  have haction : actionAt? counter (' ' :: ("add " ++ digits first ++ " $i").toList ++ [' '])
      = some (decimal (first + counter)) := by
    unfold actionAt?
    rw [hwords]
    simp [hsome, counterName, Yaml.ofDigits?_decimal]
  show textAt? counter ([] ++ (action ("add " ++ digits first ++ " $i")).toList) = _
  rw [textAt?_append_action List.not_mem_nil hclosing, haction]
  rfl

end RoleChart.Template
