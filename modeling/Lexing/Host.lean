import Lexing.Regex.Size
import Lexing.Text.Overflow

/-!
# Where a lexer runs

Three things depend neither on a declaration nor on its settings. The engine for regular expressions
knows more properties of characters than there are tables for here. It refuses patterns whose
automaton would be too large, and what is too large is a matter of how it builds automata. And a sum
that is too large for a machine word has either of two outcomes.
-/

namespace Lexing

structure Host where
  names : Unicode.Names
  /-- The engine has room for all of some patterns together. -/
  fits : List (List Char) → Bool
  overflow : Text.Overflow

/-- A host on which sums wrap, and whose engine has ten mebibytes for the patterns of a state and no
names of its own. -/
def Host.standard : Host where
  names _ := none
  fits sources := Regex.room (fun _ => none) sources ≤ 10 * 1024 * 1024
  overflow := .wraps

end Lexing
