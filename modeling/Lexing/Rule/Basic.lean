import Lexing.Rule.Mapper

/-!
# Rules

A rule says what it matches and what becomes of the match. Of two rules that match at a place, the
one declared first wins. Recovery rules match where no other rule does.

A rule may ask for any of the three ways to change the state. Asking for more than one is a fault,
which is found only when the rule is compiled.
-/

namespace Lexing

inductive Pattern where
  /-- Any of some texts, the longest one possible. -/
  | literals (texts : List String)
  /-- What a regular expression matches. -/
  | regex (source : String)
  /-- One character that no other rule matches. -/
  | fallback
  /-- All characters up to where some other rule matches. -/
  | collector
deriving DecidableEq

/-- The pattern takes what no rule matches. -/
def Pattern.recovers : Pattern → Bool
  | fallback | collector => true
  | literals _ | regex _ => false

/-- A rule as it is declared. -/
structure Rule where
  pattern : Pattern
  /-- Matches may hold line breaks, and these are counted. -/
  lineBreaks : Bool := false
  /-- Enter a state, to return from it later. -/
  push : Option String := none
  /-- Return from this number of states. -/
  pop : Option Nat := none
  /-- Enter a state in place of the current one. -/
  next : Option String := none
  /-- Matches are errors. -/
  isError : Bool := false
  kind : Option KindMapper := none
  value : Option Transform := none

/-- One entry in the list of rules of a state. -/
inductive Entry where
  | rule (name : String) (rule : Rule)
  /-- The rules of another state, put in here. -/
  | include (state : String)

namespace Entry

def rules (name : String) (rules : List Rule) : List Entry :=
  rules.map (Entry.rule name)

end Entry

end Lexing
