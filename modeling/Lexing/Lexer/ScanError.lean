import Lexing.Text.Position
import Lexing.Text.Quoted

/-!
# Errors while scanning
-/

namespace Lexing

open Text

/-- Why a lexer cannot go on. -/
inductive ScanError where
  /-- Nothing matches, and the state has no way to go on. -/
  | unexpected (character : Char) (place : Position) (state : String)
  /-- A rule returns from more states than there are. -/
  | stackUnderflow (state rule : String) (depth count : Nat)
  /-- A snapshot refers to a state that the lexer does not have. -/
  | unknownState (state : Nat)
deriving DecidableEq

namespace ScanError

/-- The place of an error that is about the input. -/
def place? : ScanError → Option Position
  | unexpected _ place _ => some place
  | stackUnderflow .. | unknownState _ => none

def message : ScanError → String
  | unexpected character place state =>
    s!"unexpected {quoted character} at line {place.line} col {place.column} in state `{state}`"
  | stackUnderflow state rule depth count =>
    s!"rule `{rule}` in state `{state}` pops {count} state(s) " ++
      s!"but only {depth} are on the stack"
  | unknownState state =>
    s!"snapshot refers to state #{state}, which this lexer does not define"

end ScanError

end Lexing
