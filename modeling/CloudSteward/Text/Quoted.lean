import CloudSteward.Text.Unshown

/-!
# Quoted texts

How a message shows a text that the user wrote: between double quotes, with the
quote and the backslash escaped, short escapes for the common controls, and the
code point in braces for every other character that is not shown as it is.
-/

namespace CloudSteward.Text

/-- The characters that stand for one character between the quotes. -/
def quotedChar (c : Char) : List Char :=
  if c = '"' then ['\\', '"']
  else if c = '\\' then ['\\', '\\']
  else if c = '\n' then ['\\', 'n']
  else if c = '\r' then ['\\', 'r']
  else if c = '\t' then ['\\', 't']
  else if c = '\x00' then ['\\', '0']
  else if isUnshown c then
    ['\\', 'u', '\x7b'] ++ Nat.toDigits 16 c.toNat ++ ['\x7d']
  else [c]

/-- A text between double quotes, with escapes where it needs them. -/
def quoted (s : String) : String :=
  String.ofList ('"' :: s.toList.flatMap quotedChar ++ ['"'])

end CloudSteward.Text
