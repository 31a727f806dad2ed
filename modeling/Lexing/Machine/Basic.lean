import Lexing.Config
import Lexing.Declaration.Fault
import Lexing.Regex.Match
import Lexing.Rule.Mapper

/-!
# Compiled lexers

A machine has a table for each state. A table finds the rule that matches at a place: by the
character there, if it has been listed for quick look-up, or else as the first pattern that matches.
Lengths and distances are counted in characters.
-/

namespace Lexing

/-- A change of state. States are known by their numbers. -/
inductive Transition where
  | push (target : Nat)
  | pop (count : Nat)
  | next (target : Nat)
deriving DecidableEq

/-- The stack of states after a change, the current state first. The last state stays. -/
def Transition.apply (stack : List Nat) : Transition → List Nat
  | push target => target :: stack
  | pop count => stack.drop (min count (stack.length - 1))
  | next target =>
    match stack with
    | [] => []
    | _ :: rest => target :: rest

/-- What becomes of a match of a rule. -/
structure Action where
  /-- The name of the rule. -/
  name : String
  kind : Option KindMapper := none
  value : Option Transform := none
  lineBreaks : Bool := false
  isError : Bool := false
  transition : Option Transition := none

namespace Action

def kindOf (a : Action) (text : String) : String :=
  (a.kind.bind (·.kindOf text)).getD a.name

def valueOf (a : Action) (text : String) : String :=
  match a.value with
  | some transform => transform text
  | none => text

/-- The kinds that tokens are said to have. -/
def kinds (a : Action) : List String :=
  a.name :: (a.kind.map (·.kinds)).getD []

end Action

/-- How a state goes on where no pattern matches, and the number of the action for it. -/
inductive Recovery where
  | oneCharacter (action : Nat)
  | untilMatch (action : Nat)
deriving DecidableEq

def Recovery.action : Recovery → Nat
  | oneCharacter action | untilMatch action => action

/-- The rules of one state. -/
structure StateTable where
  name : String
  /-- What becomes of matches, in the order of the rules. -/
  actions : List Action := []
  /-- Single characters and the actions for them. -/
  quick : List (Char × Nat) := []
  /-- Expressions and the actions for them. -/
  patterns : List (Nat × Regex) := []
  recovery : Option Recovery := none

namespace StateTable

variable (t : StateTable)

/-- The action for a character that is listed for quick look-up. -/
def quickAction? (ahead : List Char) : Option Nat :=
  ahead.head?.bind (t.quick.lookup ·)

/-- The action for the first pattern that matches, and the length of the match. -/
def patternMatch? (before : Option Char) (ahead : List Char) : Option (Nat × Nat) :=
  t.patterns.findSome? fun (action, r) => (r.matchLength? before ahead).map (action, ·)

/-- The action for what comes next, and the length of the match. -/
def match? (before : Option Char) (ahead : List Char) : Option (Nat × Nat) :=
  match t.quickAction? ahead with
  | some action => some (action, 1)
  | none => t.patternMatch? before ahead

/-- The distance to the first character that is listed for quick look-up. -/
def quickDistance? (ahead : List Char) : Option Nat :=
  ahead.findIdx? fun c => (t.quick.lookup c).isSome

/-- The distance to the first place where a pattern matches. -/
def patternDistance? (before : Option Char) : List Char → Option Nat
  | [] => if (t.patternMatch? before []).isSome then some 0 else none
  | c :: cs =>
    if (t.patternMatch? before (c :: cs)).isSome then some 0
    else (patternDistance? (some c) cs).map (· + 1)

/-- The smaller of two distances, where one that is missing does not count. -/
def nearer : Option Nat → Option Nat → Option Nat
  | some m, some n => some (min m n)
  | some m, none => some m
  | none, n => n

/-- The distance to the next place further on where something matches. -/
def distance? (before : Option Char) (ahead : List Char) : Option Nat :=
  (nearer (t.quickDistance? ahead) (t.patternDistance? before ahead)).filter (0 < ·)

/-- The action for what comes next, and its length: what matches there, or what is taken where
nothing does. -/
def select (before : Option Char) (ahead : List Char) : Option (Nat × Nat) :=
  match t.match? before ahead with
  | some found => some found
  | none =>
    t.recovery.map fun
      | .oneCharacter action => (action, 1)
      | .untilMatch action => (action, (t.distance? before ahead).getD ahead.length)

end StateTable

/-- A compiled lexer. -/
structure Machine where
  states : List StateTable
  /-- The number of the state to begin in. -/
  start : Nat
  warnings : List Warning := []
  config : Config := {}
  overflow : Text.Overflow := .wraps

namespace Machine

variable (m : Machine)

/-- The state with the given number. A number that no state has stands for a state without rules. -/
def state (id : Nat) : StateTable := (m.states[id]?).getD ⟨"", [], [], [], none⟩

def stateId? (name : String) : Option Nat := m.states.findIdx? (·.name = name)

def kinds : List String := m.states.flatMap fun t => t.actions.flatMap Action.kinds

end Machine

end Lexing
