/-
Reading octets as text although some of them are malformed: every longest run of octets that begins a
character but does not complete one, and every octet that begins none, becomes a replacement
character.
-/
namespace ApiScaffold.Text

/-- The character that stands for malformed octets. -/
def replacement : Char := Char.ofNat 0xFFFD

/-- A character that has begun: how many octets are left, the bounds of the next one and the value so
far. -/
structure Utf8Start where
  left : Nat
  lo : Nat
  hi : Nat
  value : Nat

/-- The beginning of a character of several octets, if an octet is one. -/
def utf8Start? (b : Nat) : Option Utf8Start :=
  if 0xC2 ≤ b && b ≤ 0xDF then some ⟨1, 0x80, 0xBF, b - 0xC0⟩
  else if b == 0xE0 then some ⟨2, 0xA0, 0xBF, 0⟩
  else if b == 0xED then some ⟨2, 0x80, 0x9F, 0xD⟩
  else if 0xE1 ≤ b && b ≤ 0xEF then some ⟨2, 0x80, 0xBF, b - 0xE0⟩
  else if b == 0xF0 then some ⟨3, 0x90, 0xBF, 0⟩
  else if 0xF1 ≤ b && b ≤ 0xF3 then some ⟨3, 0x80, 0xBF, b - 0xF0⟩
  else if b == 0xF4 then some ⟨3, 0x80, 0x8F, 4⟩
  else none

/-- What an octet between characters becomes, and the character that it begins. -/
def utf8Fresh (b : Nat) : List Char × Option Utf8Start :=
  if b < 0x80 then ([Char.ofNat b], none)
  else match utf8Start? b with
    | some s => ([], some s)
    | none => ([replacement], none)

/-- The characters of octets, after a character has begun or not. -/
def decodeLossyFrom : Option Utf8Start → List UInt8 → List Char
  | none, [] => []
  | some _, [] => [replacement]
  | none, b :: bs =>
    let (cs, s) := utf8Fresh b.toNat
    cs ++ decodeLossyFrom s bs
  | some s, b :: bs =>
    if s.lo ≤ b.toNat && b.toNat ≤ s.hi then
      let value := s.value * 64 + (b.toNat - 0x80)
      if s.left ≤ 1 then Char.ofNat value :: decodeLossyFrom none bs
      else decodeLossyFrom (some ⟨s.left - 1, 0x80, 0xBF, value⟩) bs
    else
      let (cs, s) := utf8Fresh b.toNat
      replacement :: (cs ++ decodeLossyFrom s bs)

/-- The text of a file, as it is if it is well formed. -/
def decodeLossy (content : ByteArray) : String :=
  (String.fromUTF8? content).getD (String.ofList (decodeLossyFrom none content.data.toList))

end ApiScaffold.Text
