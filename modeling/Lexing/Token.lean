import Lexing.Text.Position

/-!
# Tokens

A token is a piece of the input with what the lexer found out about it. It keeps its own text and
the place where it begins, so a message about it can be written without the lexer.
-/

namespace Lexing

open Text

/-- A piece of input that a rule has recognised. -/
structure Token where
  kind : String
  /-- The text, or what the rule made of it. -/
  value : String
  text : String
  /-- The number of bytes of input before the token. -/
  offset : Nat
  /-- The line breaks in the text; none are counted for a rule that does not track lines. -/
  lineBreaks : Counter
  line : Counter
  column : Counter
  isError : Bool
deriving DecidableEq

namespace Token

def start (t : Token) : Position := ⟨t.line, t.column, t.offset⟩

/-- The value, or the kind of a token whose value is empty. -/
def display (t : Token) : String :=
  if t.value.isEmpty then t.kind else t.value

end Token

end Lexing
