/-
Texts in double quotes, with everything that cannot be seen written out.
-/
import ApiScaffold.Text.Case
import ApiScaffold.Text.HiddenTable

namespace ApiScaffold.Text

/-- Whether a character shows nothing by itself. -/
def isHidden (c : Char) : Bool := c.toNat < 0x20 || inRanges hiddenRanges c.toNat

/-- A character inside quotes. -/
def quotedChar (c : Char) : List Char :=
  if c == '"' || c == '\\' then ['\\', c]
  else if c == '\n' then ['\\', 'n']
  else if c == '\r' then ['\\', 'r']
  else if c == '\t' then ['\\', 't']
  else if c.toNat == 0 then ['\\', '0']
  else if isHidden c then ['\\', 'u', '\x7b'] ++ Nat.toDigits 16 c.toNat ++ ['\x7d']
  else [c]

def quoted (s : String) : String := String.ofList ('"' :: s.toList.flatMap quotedChar ++ ['"'])

end ApiScaffold.Text
