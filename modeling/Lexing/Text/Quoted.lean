import Lexing.Unicode.Property

/-!
# Characters in messages

A message shows a character between single quotes. A character that would not be seen there, or that
would change how the quotes look, is written as an escape.
-/

namespace Lexing.Text

/-- The lower-case hexadecimal digits of a number, without leading zeros. -/
def hexDigits (n : Nat) : String := String.ofList (Nat.toDigits 16 n)

/-- The escape for a character by its number. -/
def numericEscape (c : Char) : String := "\\u\x7b" ++ hexDigits c.toNat ++ "\x7d"

/-- The character can stand in a message as it is. -/
def isPrintable (c : Char) : Bool :=
  c = ' ' || Unicode.visible.contains c && !Unicode.graphemeExtend.contains c

/-- How a character is written between the quotes. -/
def escaped (c : Char) : String :=
  if c = '\x00' then "\\0"
  else if c = '\t' then "\\t"
  else if c = '\r' then "\\r"
  else if c = '\n' then "\\n"
  else if c = '\'' then "\\'"
  else if c = '\\' then "\\\\"
  else if isPrintable c then String.singleton c
  else numericEscape c

/-- A character between single quotes. -/
def quoted (c : Char) : String := "'" ++ escaped c ++ "'"

end Lexing.Text
