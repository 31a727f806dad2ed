/-!
# Sums of machine words

Lines are numbered in machine words of 64 bits. A sum that is too large for a word either stops the
program or loses its highest bit, and which of the two it is depends on how the program was built.
-/

namespace Lexing.Text

/-- What becomes of a sum that is too large for a word. -/
inductive Overflow where
  /-- The program stops. -/
  | stops
  /-- The sum is cut to a word. -/
  | wraps
deriving DecidableEq

namespace Overflow

/-- The sum of two words, unless it stops the program. -/
def sum? (overflow : Overflow) (a b : Nat) : Option Nat :=
  if a + b < UInt64.size then some (a + b)
  else
    match overflow with
    | stops => none
    | wraps => some ((a + b) % UInt64.size)

variable {overflow : Overflow} {a b n : Nat}

theorem sum?_of_lt (h : a + b < UInt64.size) : overflow.sum? a b = some (a + b) := if_pos h

end Overflow

end Lexing.Text
