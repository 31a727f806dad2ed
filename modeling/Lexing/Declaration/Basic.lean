import Lexing.Declaration.Fault
import Lexing.Rule.Basic

/-!
# Declarations

A declaration lists states, and for each state the entries that say which rules it has. An entry
that includes another state stands for the rules of that state, those that it includes itself among
them. A state whose rules are in the list already is passed over, so states may include one another.
-/

namespace Lexing

abbrev NamedRule := String × Rule

/-- A state as it is declared. -/
structure StateDecl where
  name : String
  entries : List Entry

/-- The states of a lexer, in the order in which they are declared. -/
abbrev Declaration := List StateDecl

namespace Declaration

variable (d : Declaration)

def stateId? (name : String) : Option Nat := d.findIdx? (·.name = name)

def entries? (name : String) : Option (List Entry) :=
  (d.find? (·.name = name)).map (·.entries)

/-- The first name that repeats an earlier one. -/
def firstRepeated : List String → List String → Option String
  | _, [] => none
  | seen, name :: rest =>
    if seen.contains name then some name else firstRepeated (name :: seen) rest

/-- A list of rules that is being put together, and the states whose rules have been put in. -/
structure Expansion where
  visited : List String
  rules : List NamedRule := []

/-- Put entries into the list of rules of state `owner`. The first argument bounds the depth to
which includes nest; every level visits a state that was not visited before. -/
def expandInto (owner : String) : Nat → Expansion → List Entry → Except Fault Expansion
  | 0, ex, _ => .ok ex
  | n + 1, ex, entries =>
    entries.foldlM (fun ex entry =>
      match entry with
      | .rule name rule => .ok { ex with rules := ex.rules ++ [(name, rule)] }
      | .include target =>
        match d.entries? target with
        | none => .error (.missingState owner Fault.includeRule target)
        | some included =>
          if ex.visited.contains target then .ok ex
          else expandInto owner n { ex with visited := target :: ex.visited } included) ex

/-- The rules of a state with those it includes. -/
def expand (s : StateDecl) : Except Fault (List NamedRule) := do
  let ex ← expandInto d s.name d.length { visited := [s.name] } s.entries
  return ex.rules

end Declaration

end Lexing
