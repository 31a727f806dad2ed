import Lexing.Regex.Reader

/-!
# How large automata are

An automaton for an expression has a state for each character of a literal and for each set, and
repetitions are written out. The automaton for several patterns runs all of them side by side. This
is a rough measure: an engine may need several states for a set of characters beyond ASCII.
-/

namespace Lexing.Regex

def states : Regex → Nat
  | empty | set _ | assertion _ => 1
  | literal text => Text.utf8Length text
  | repetition body min none _ => body.states * Nat.max min 1 + 1
  | repetition body min (some max) _ => body.states * max + (max - min)
  | group _ body => body.states + 2
  | seq first rest => first.states + rest.states
  | alt first rest => first.states + rest.states + 1

/-- The room in bytes for an automaton for some patterns. A state takes 32 bytes. Each pattern has
three states of its own, for its two ends and for the match, and 4 bytes that lead to it. -/
def room (names : Unicode.Names) : List (List Char) → Nat
  | [] => 32 * 4
  | source :: sources =>
    32 * ((parse names source).toOption.elim 0 states + 3) + 4 + room names sources

end Lexing.Regex
