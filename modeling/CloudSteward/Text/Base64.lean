/-!
# Bytes as letters

Three bytes are written as four signs of six bits each.  Where bytes are missing at the
end, equals signs fill the four.
-/

namespace CloudSteward.Text

/-- The sign for six bits. -/
def base64Char (value : Nat) : Char :=
  if value < 26 then Char.ofNat ('A'.toNat + value)
  else if value < 52 then Char.ofNat ('a'.toNat + value - 26)
  else if value < 62 then Char.ofNat ('0'.toNat + value - 52)
  else if value = 62 then '+'
  else '/'

/-- The signs of a number of `count` times six bits, the highest first. -/
def base64Chars (count number : Nat) : List Char :=
  (List.range count).reverse.map fun place => base64Char (number / Nat.pow 64 place % 64)

/-- Bytes as letters. -/
def base64 : List UInt8 → List Char
  | [] => []
  | [first] => base64Chars 2 (first.toNat * 16) ++ ['=', '=']
  | [first, second] => base64Chars 3 ((first.toNat * 256 + second.toNat) * 4) ++ ['=']
  | first :: second :: third :: rest =>
      base64Chars 4 ((first.toNat * 256 + second.toNat) * 256 + third.toNat) ++ base64 rest

end CloudSteward.Text
