import Lexing.Regex.SyntaxError

/-!
# Faults in declarations

The causes for which a declaration is rejected, what a reader is told about them, and what a reader
is told about a declaration that is accepted with doubts.
-/

namespace Lexing

/-- Why a declaration is rejected. -/
inductive Fault where
  | noStates
  | duplicateState (state : String)
  | missingStart (state : String)
  | missingState (state rule target : String)
  | conflictingTransitions (state rule : String)
  | emptyPop (state rule : String)
  /-- There is only one state, and the rule asks for another. -/
  | transitionWithoutStates (rule : String)
  | transitionOnRecovery (state rule : String)
  | secondRecovery (state first second : String)
  | emptyPattern (state rule : String)
  | emptyMatch (state rule : String)
  | invalidPattern (state rule : String) (cause : Regex.SyntaxError)
  | undeclaredLineBreaks (state rule : String)
deriving DecidableEq

namespace Fault

/-- The rule that faults of an include are reported for. -/
def includeRule : String := "include"

/-- The rule that faults of all patterns of a state together are reported for. -/
def allRules : String := "*"

/-- What a reader is told about the fault, in the given words for faulty expressions. -/
def messageWith (describe : Regex.SyntaxError → String) : Fault → String
  | noStates => "no states to compile"
  | duplicateState state => s!"state `{state}` is defined more than once"
  | missingStart state => s!"start state `{state}` does not exist"
  | missingState state rule target =>
    s!"rule `{rule}` in state `{state}` refers to missing state `{target}`"
  | conflictingTransitions state rule =>
    s!"rule `{rule}` in state `{state}` combines more than one of push, pop and next"
  | emptyPop state rule => s!"rule `{rule}` in state `{state}` pops zero states"
  | transitionWithoutStates rule =>
    s!"rule `{rule}` switches state, but a single-state lexer has no states to switch to"
  | transitionOnRecovery state rule =>
    s!"recovery rule `{rule}` in state `{state}` cannot switch state"
  | secondRecovery state first second =>
    s!"state `{state}` has more than one recovery rule (`{first}` and `{second}`)"
  | emptyPattern state rule => s!"rule `{rule}` in state `{state}` has nothing to match"
  | emptyMatch state rule => s!"rule `{rule}` in state `{state}` can match the empty string"
  | invalidPattern state rule cause =>
    s!"rule `{rule}` in state `{state}` has an invalid pattern: " ++ describe cause
  | undeclaredLineBreaks state rule =>
    s!"rule `{rule}` in state `{state}` may match a line break; " ++
      "declare it with `line_breaks()`"

def message : Fault → String := messageWith Regex.SyntaxError.message

end Fault

/-- A rule that may match a line break but does not count line breaks. -/
structure Warning where
  state : String
  rule : String
deriving DecidableEq

def Warning.message (w : Warning) : String :=
  s!"rule `{w.rule}` in state `{w.state}` may match a line break but does not track line breaks"

end Lexing
