import KeyText.Text.GraphemeExtend
import KeyText.Text.Unprintable

/-!
# Quoted text

Messages quote the characters and texts they complain about. Inside the quotes every character is visible: a backslash
spells the quote itself, the backslash and the usual controls, and a code point in braces spells whatever has no printed
form or would join the character before it.
-/

namespace KeyText.Quoted

/-- A character spelled by its code point. -/
def spelled (c : Char) : List Char :=
  "\\u\x7b".toList ++ Nat.toDigits 16 c.toNat ++ ['\x7d']

/-- One character as it stands between the given quotes. -/
def item (quote c : Char) : List Char :=
  if c = '\t' then ['\\', 't']
  else if c = '\r' then ['\\', 'r']
  else if c = '\n' then ['\\', 'n']
  else if c = '\x00' then ['\\', '0']
  else if c = '\\' ∨ c = quote then ['\\', c]
  else if GraphemeExtend.holds c || Unprintable.holds c then spelled c
  else [c]

/-- A character between single quotes. -/
def char (c : Char) : String :=
  String.ofList ('\'' :: (item '\'' c ++ ['\'']))

/-- A text between double quotes. -/
def text (s : String) : String :=
  String.ofList ('"' :: (s.toList.flatMap (item '"') ++ ['"']))

end KeyText.Quoted
