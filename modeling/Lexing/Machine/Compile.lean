import Lexing.Declaration.Basic
import Lexing.Host
import Lexing.Machine.Basic
import Lexing.Regex.Reader

/-!
# Compiling declarations

Every rule of every state is checked in turn, and the first fault ends the compilation. A rule that
several states include is checked in each of them.

Single characters go into the table for quick look-up until the first rule that needs a pattern;
from there on a look-up could overtake that pattern. All other rules become patterns, which are kept
as text until their state is complete.
-/

namespace Lexing

namespace Declaration

/-- What is the same for all states. -/
structure Context where
  states : Declaration
  host : Host
  /-- Rules may change the state. -/
  stateful : Bool
  config : Config

/-- A table that is being put together. -/
structure Draft where
  actions : List Action := []
  quick : List (Char × Nat) := []
  /-- The next rule may use quick look-up. -/
  quickOpen : Bool
  /-- The texts of the patterns and the actions for them. -/
  sources : List (Nat × List Char) := []
  recovery : Option Recovery := none
  warnings : List Warning := []

variable (ctx : Context) (state : String)

/-- The number of a state that a rule refers to. -/
def stateNamed (name target : String) : Except Fault Nat :=
  match ctx.states.stateId? target with
  | some id => .ok id
  | none => .error (.missingState state name target)

/-- The change of state that a rule asks for. -/
def transitionOf (name : String) (rule : Rule) : Except Fault (Option Transition) :=
  let checked (transition : Except Fault Transition) : Except Fault (Option Transition) :=
    if ctx.stateful then transition.map some else .error (.transitionWithoutStates name)
  match rule.push, rule.pop, rule.next with
  | none, none, none => .ok none
  | some target, none, none => checked ((stateNamed ctx state name target).map .push)
  | none, some count, none =>
    checked (if count = 0 then .error (.emptyPop state name) else .ok (.pop count))
  | none, none, some target => checked ((stateNamed ctx state name target).map .next)
  | _, _, _ => .error (.conflictingTransitions state name)

/-- The warnings for a rule that may match a line break or not. -/
def lineBreakWarnings (name : String) (rule : Rule) (mayBreak : Bool) :
    Except Fault (List Warning) :=
  if rule.lineBreaks || !mayBreak then .ok []
  else
    match ctx.config.lineBreaks with
    | .allow => .ok []
    | .warn => .ok [⟨state, name⟩]
    | .deny => .error (.undeclaredLineBreaks state name)

/-- The only character of a text. -/
def onlyChar? (text : String) : Option Char :=
  match text.toList with
  | [c] => some c
  | _ => none

namespace Draft

def nextAction (draft : Draft) : Nat := draft.actions.length

def addWarnings (draft : Draft) (warnings : List Warning) : Draft :=
  { draft with warnings := draft.warnings ++ warnings }

/-- Add a pattern for the next action. No later rule may use quick look-up. -/
def addSource (draft : Draft) (source : List Char) : Draft :=
  { draft with
    sources := draft.sources ++ [(draft.nextAction, source)]
    quickOpen := false }

/-- Add what a literal rule matches. -/
def addLiterals (draft : Draft) (name : String) (rule : Rule) (texts : List String) :
    Except Fault Draft := do
  if texts.isEmpty then .error (.emptyPattern state name)
  if texts.any (·.isEmpty) then .error (.emptyMatch state name)
  let warnings ← lineBreakWarnings ctx state name rule (texts.any (·.toList.contains '\n'))
  let draft := draft.addWarnings warnings
  match draft.quickOpen, texts.mapM onlyChar? with
  | true, some chars =>
    return { draft with quick := draft.quick ++ chars.map (·, draft.nextAction) }
  | _, _ => return draft.addSource (Regex.literalChoice (texts.map (·.toList)))

/-- Add what a rule with an expression matches. The expression is judged on its own, and used as
part of all the patterns of the state. -/
def addRegex (draft : Draft) (name : String) (rule : Rule) (source : String) :
    Except Fault Draft :=
  match Regex.parse ctx.host.names source.toList with
  | .error cause => .error (.invalidPattern state name cause)
  | .ok r => do
    if r.minLength = some 0 then .error (.emptyMatch state name)
    let warnings ← lineBreakWarnings ctx state name rule r.mayBreakLine
    return (draft.addWarnings warnings).addSource (Regex.inLines source.toList)

/-- Add a way to go on where nothing matches. A state has at most one. -/
def addRecovery (draft : Draft) (name : String) (transition : Option Transition)
    (recovery : Nat → Recovery) : Except Fault Draft :=
  if transition.isSome then .error (.transitionOnRecovery state name)
  else
    match draft.recovery with
    | some earlier =>
      let first := (draft.actions[earlier.action]?).elim "" (·.name)
      .error (.secondRecovery state first name)
    | none => .ok { draft with recovery := some (recovery draft.nextAction) }

def addRule (draft : Draft) : NamedRule → Except Fault Draft
  | (name, rule) => do
    let transition ← transitionOf ctx state name rule
    let draft ← match rule.pattern with
      | .fallback => draft.addRecovery state name transition .oneCharacter
      | .collector => draft.addRecovery state name transition .untilMatch
      | .literals texts => draft.addLiterals ctx state name rule texts
      | .regex source => draft.addRegex ctx state name rule source
    let action : Action :=
      { name
        kind := rule.kind
        value := rule.value
        lineBreaks := rule.lineBreaks || rule.pattern.recovers
        isError := rule.isError || rule.pattern = .collector
        transition }
    return { draft with actions := draft.actions ++ [action] }

/-- Read a pattern, with the action for it. -/
def readPattern : Nat × List Char → Except Fault (Nat × Regex)
  | (action, source) =>
    match Regex.parse ctx.host.names source with
    | .ok r => .ok (action, r)
    | .error cause => .error (.invalidPattern state Fault.allRules cause)

/-- Read the patterns of a state. Those that can be read are refused together if the engine has no
room for them. How it counts is left out here, and up to the host. -/
def readPatterns (draft : Draft) : Except Fault (List (Nat × Regex)) := do
  let patterns ← draft.sources.mapM (readPattern ctx state)
  if !draft.sources.isEmpty && !ctx.host.fits (draft.sources.map (·.2)) then
    .error (.invalidPattern state Fault.allRules .tooLarge)
  return patterns

end Draft

/-- The table of a state with the given rules, and the warnings about them. -/
def tableOf (rules : List NamedRule) : Except Fault (StateTable × List Warning) := do
  let draft ← rules.foldlM (Draft.addRule ctx state) { quickOpen := ctx.config.quickLookup }
  let patterns ← draft.readPatterns ctx state
  let table : StateTable :=
    { name := state
      actions := draft.actions
      quick := draft.quick
      patterns
      recovery := draft.recovery }
  return (table, draft.warnings)

/-- The number of the state to begin in: the first one if none is named. -/
def startOf (d : Declaration) : Option String → Except Fault Nat
  | none => .ok 0
  | some name =>
    match d.stateId? name with
    | some id => .ok id
    | none => .error (.missingStart name)

/-- The machine for a declaration. -/
def compile (d : Declaration) (host : Host) (start : Option String) (stateful : Bool)
    (config : Config) : Except Fault Machine := do
  if d.isEmpty then .error .noStates
  if let some name := firstRepeated [] (d.map (·.name)) then .error (.duplicateState name)
  let start ← startOf d start
  let tables ← d.mapM fun s => do
    let rules ← d.expand s
    tableOf ⟨d, host, stateful, config⟩ s.name rules
  return {
    states := tables.map (·.1)
    start
    warnings := tables.flatMap (·.2)
    config
    overflow := host.overflow }

/-- The name of the state of a lexer that has only one. -/
def onlyState : String := "start"

def compileSingle (host : Host) (entries : List Entry) (config : Config) : Except Fault Machine :=
  compile [⟨onlyState, entries⟩] host none false config

end Declaration

end Lexing
