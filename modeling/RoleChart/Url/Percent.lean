import RoleChart.Names

/-!
# Percent encoding

Bytes as a percent sign and two digits, for what a part of a URL cannot hold. Each part has its own
set of characters that are encoded; controls and what is not ASCII always are.

## Main statements

* `decode_encodeByte` — an encoded byte reads back
-/

namespace RoleChart.Url

open Text

/-- The encoded form of a byte. -/
def encodeByte (b : UInt8) : List Char := '%' :: (hexadecimal 2 b.toNat).map upperAscii

/-- The encoded form of a text, where the given characters are encoded too. -/
def encode (set : List Char) (s : List Char) : List Char :=
  s.flatMap fun c =>
    if 0x20 ≤ c.toNat ∧ c.toNat < 0x7F ∧ c ∉ set then [c]
    else (bytes (String.singleton c)).flatMap encodeByte

/-- The bytes of a text in which encoded bytes are decoded. A percent sign without two digits stands
for itself. -/
def decode : List Char → List UInt8
  | '%' :: a :: b :: rest =>
    match hexValue? a, hexValue? b with
    | some high, some low => UInt8.ofNat (high * 16 + low) :: decode rest
    | _, _ => 0x25 :: decode (a :: b :: rest)
  | [] => []
  | c :: rest => bytes (String.singleton c) ++ decode rest

/-- The characters that a fragment cannot hold. -/
def fragmentSet : List Char := [' ', '"', '<', '>', '\x60']

/-- The characters that a path cannot hold. -/
def pathSet : List Char := fragmentSet ++ ['#', '?', '\x7b', '\x7d']

/-- The characters that a user or a password cannot hold. -/
def userSet : List Char := pathSet ++ ['/', ':', ';', '=', '@', '[', '\\', ']', '^', '|']

/-- The characters that a query cannot hold. -/
def querySet (special : Bool) : List Char :=
  [' ', '"', '#', '<', '>'] ++ if special then ['\''] else []

theorem decode_encodeByte (b : UInt8) (rest : List Char) :
    decode (encodeByte b ++ rest) = b :: decode rest := by
  have all : ∀ n : Fin 256, ∃ x y h l, (hexadecimal 2 n.val).map upperAscii = [x, y]
      ∧ hexValue? x = some h ∧ hexValue? y = some l ∧ h * 16 + l = n.val := by
    intro n
    have step : ∀ n : Fin 256, (hexadecimal 2 n.val).map upperAscii
        = [upperAscii (digitChar (n.val / 16)), upperAscii (digitChar (n.val % 16))]
        ∧ hexValue? (upperAscii (digitChar (n.val / 16))) = some (n.val / 16)
        ∧ hexValue? (upperAscii (digitChar (n.val % 16))) = some (n.val % 16) := by decide +kernel
    obtain ⟨h1, h2, h3⟩ := step n
    exact ⟨_, _, _, _, h1, h2, h3, by omega⟩
  obtain ⟨x, y, h, l, h1, h2, h3, h4⟩ := all ⟨b.toNat, b.toNat_lt⟩
  simp only at h1 h4
  simp only [encodeByte, h1, List.cons_append, List.nil_append, decode, h2, h3, h4,
    UInt8.ofNat_toNat]

end RoleChart.Url
