import StoreClient.Text.Printable

/-!
# Quoted text

Text between double quotes, in which quotes, backslashes and the common control characters have a
short escape and all other characters that are not printable are written by their number.
-/

namespace StoreClient.Text

/-- The lowercase hexadecimal digits of a number, the most significant first. -/
def hexDigits (n : Nat) : List Char :=
  let digit := Char.ofNat (if n % 16 < 10 then '0'.toNat + n % 16 else 'a'.toNat + n % 16 - 10)
  if n < 16 then [digit] else hexDigits (n / 16) ++ [digit]

/-- How a character is written between quotes. -/
def escape (c : Char) : List Char :=
  if c = '\t' then ['\\', 't']
  else if c = '\r' then ['\\', 'r']
  else if c = '\n' then ['\\', 'n']
  else if c = '"' then ['\\', '"']
  else if c = '\\' then ['\\', '\\']
  else if c = '\x00' then ['\\', '0']
  else if isPrintable c then [c]
  else ['\\', 'u', '\x7b'] ++ hexDigits c.toNat ++ ['\x7d']

/-- A text between quotes. -/
def quoted (s : String) : String := String.ofList (['"'] ++ s.toList.flatMap escape ++ ['"'])

end StoreClient.Text
