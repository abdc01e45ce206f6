import RoleChart.Decimal.Literal
import RoleChart.Text.Blank

/-!
# Quoting

A text is written as it is where a reader takes the plain form for that same text, and between
double quotes otherwise. A text with a template expression stays plain, so that the template engine
sees the expression, unless it is data that no engine expands.

## Main statements

* `quote_eq_self_iff` — a text without a template expression stays plain exactly if it needs no quotes
* `doubleQuoted_not_control` — between the quotes no control character is left
-/

namespace RoleChart.Document

open RoleChart.Text

/-- Whether the text holds a template expression. -/
def isTemplated (s : List Char) : Bool := occurs ['\x7b', '\x7b'] s

/-- The words that some reader takes for a truth value, a null or a number. -/
def reservedWords : List String :=
  ["y", "n", "yes", "no", "true", "false", "on", "off", "null", "~", ".inf", "-.inf", "+.inf", ".nan"]

/-- Whether the text is a reserved word in any case. -/
def isReserved (s : List Char) : Bool := reservedWords.contains (String.ofList (s.map lowerAscii))

/-- The characters of numbers in other bases, of base sixty, and of grouped digits. -/
def isNumberChar (c : Char) : Bool :=
  isHexDigit c || c == '_' || c == '.' || c == ':' || c == 'x' || c == 'o' || c == '+' || c == '-'

/-- Whether some reader takes the text for a number. -/
def looksNumeric (s : List Char) : Bool :=
  match s.dropWhile fun c => c == '+' || c == '-' with
  | [] => false
  | c :: rest =>
    (Decimal.Literal.ofText? s).isSome
      || ((isDigit c || c == '.') && (c :: rest).all isNumberChar)

/-- The characters that a plain text does not begin with. -/
def indicators : List Char := "-?:,[]\x7b\x7d#&*!|>'\"%@\x60".toList

/-- Whether the plain form of the text would not be read as the text. -/
def needsQuotes (s : List Char) : Bool :=
  match s with
  | [] => true
  | first :: _ =>
    hasOuterBlank s || indicators.contains first
      || occurs [':', ' '] s || occurs [' ', '#'] s || endsWith ':' s
      || s.any isControl || isReserved s || looksNumeric s

/-- One character between double quotes. -/
def escaped (c : Char) : List Char :=
  if c = '"' then ['\\', '"']
  else if c = '\\' then ['\\', '\\']
  else if c = '\n' then ['\\', 'n']
  else if c = '\r' then ['\\', 'r']
  else if c = '\t' then ['\\', 't']
  else if isControl c then '\\' :: 'u' :: (hexadecimal 4 c.toNat).map upperAscii
  else [c]

/-- The text between double quotes. -/
def doubleQuoted (s : List Char) : List Char := '"' :: s.flatMap escaped ++ ['"']

/-- The written form of a text that may hold template expressions. -/
def quote (s : List Char) : List Char :=
  if isTemplated s && !s.contains '\n' then s
  else if needsQuotes s then doubleQuoted s
  else s

/-- The written form of data. -/
def quoteLiteral (s : List Char) : List Char :=
  if needsQuotes s || isTemplated s then doubleQuoted s else s

/-- The written form of a name in a mapping. -/
def quoteKey (s : List Char) : List Char := if isTemplated s then s else quote s

theorem doubleQuoted_ne_self (s : List Char) : doubleQuoted s ≠ s := by
  intro h
  have one : ∀ c : Char, 1 ≤ (escaped c).length := by
    intro c
    unfold escaped
    repeat' split
    all_goals simp
  have many : ∀ l : List Char, l.length ≤ (l.flatMap escaped).length := by
    intro l
    induction l with
    | nil => simp
    | cons c l ih =>
      have := one c
      rw [List.flatMap_cons, List.length_append, List.length_cons]
      omega
  have := congrArg List.length h
  have := many s
  simp only [doubleQuoted, List.cons_append, List.length_cons, List.length_append, List.length_nil] at *
  omega

theorem quote_eq_self_iff (s : List Char) (h : isTemplated s = false) :
    quote s = s ↔ needsQuotes s = false := by
  cases hn : needsQuotes s
  · simp [quote, h, hn]
  · simp [quote, h, hn, doubleQuoted_ne_self]

theorem doubleQuoted_not_control (s : List Char) : ∀ c ∈ doubleQuoted s, isControl c = false := by
  have digit : ∀ d : Fin 16, isControl (upperAscii (digitChar d.val)) = false := by decide +kernel
  have pair : ∀ a b : Char, isControl a = false → isControl b = false →
      ∀ d ∈ [a, b], isControl d = false := by simp_all
  have one : ∀ c d : Char, d ∈ escaped c → isControl d = false := by
    intro c d hd
    -- the named escapes first, then the numbered ones; what is left is no control character
    unfold escaped at hd
    split at hd
    · exact pair _ _ (by decide) (by decide) d hd
    split at hd
    · exact pair _ _ (by decide) (by decide) d hd
    split at hd
    · exact pair _ _ (by decide) (by decide) d hd
    split at hd
    · exact pair _ _ (by decide) (by decide) d hd
    split at hd
    · exact pair _ _ (by decide) (by decide) d hd
    split at hd
    · simp only [List.mem_cons, List.mem_map] at hd
      rcases hd with rfl | rfl | ⟨e, he, rfl⟩
      · decide
      · decide
      · obtain ⟨k, hk, rfl⟩ := mem_hexadecimal he
        exact digit ⟨k, hk⟩
    · next hc =>
      rw [List.mem_singleton.1 hd]
      simpa using hc
  intro c hc
  simp only [doubleQuoted, List.cons_append, List.mem_cons, List.mem_append, List.mem_flatMap,
    List.not_mem_nil, or_false] at hc
  rcases hc with rfl | ⟨d, _, hd⟩ | rfl
  · decide
  · exact one d c hd
  · decide

end RoleChart.Document
