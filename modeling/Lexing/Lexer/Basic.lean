import Lexing.Lexer.ScanError
import Lexing.Machine.Basic
import Lexing.Text.Cursor
import Lexing.Token

/-!
# Lexers

A lexer runs a machine on a chunk of text. It keeps its place in the chunk, the position of that
place in the whole input, and the states it is in. Each call of `Lexer.next` takes one token from
the chunk.

Input may come in several chunks. A snapshot carries the position and the states over to the next
chunk, so that lines, columns and offsets are those of the whole input.

An operation that fails leaves the lexer as it was.
-/

namespace Lexing

open Text

/-- A machine at work on a chunk. -/
structure Lexer where
  machine : Machine
  cursor : Cursor
  /-- Where the cursor stands in the input. -/
  position : Position
  /-- Where the chunk begins in the input. -/
  origin : Position
  /-- The numbers of the states that the lexer is in, the current one first. -/
  stack : List Nat

/-- What is needed to go on with another chunk. -/
structure Snapshot where
  position : Position
  /-- The current state comes first. -/
  stack : List Nat
deriving DecidableEq

namespace Lexer

def defaultMessage : String := "invalid syntax"

/-- A lexer that has not been given any text. -/
def ofMachine (m : Machine) : Lexer := ⟨m, .ofList [], .start, .start, [m.start]⟩

variable (l : Lexer)

def stateId : Nat := l.stack.headD l.machine.start

def state : StateTable := l.machine.state l.stateId

def depth : Nat := l.stack.length

/-- Some rule can give tokens this kind. -/
def has (kind : String) : Bool := l.machine.kinds.contains kind

/-- Begin anew with a text. -/
def reset (text : List Char) : Lexer := ⟨l.machine, .ofList text, .start, .start, [l.machine.start]⟩

/-- Keep the position and the states. -/
def save : Snapshot := ⟨l.position, l.stack⟩

/-- The first state, from the oldest on, that is not one of the machine. -/
def unknownState? (s : Snapshot) : Option Nat :=
  s.stack.reverse.find? fun id => !decide (id < l.machine.states.length)

/-- Go on with a text that begins where the snapshot was taken. -/
def restore (text : List Char) (s : Snapshot) : Except ScanError Unit × Lexer :=
  match l.unknownState? s with
  | some id => (.error (.unknownState id), l)
  | none => (.ok (), ⟨l.machine, .ofList text, s.position, s.position, s.stack⟩)

/-- The action and the length that the current state selects for the text ahead. -/
def select : Option (Nat × Nat) := l.state.select l.cursor.behind.head? l.cursor.ahead

def action (i : Nat) : Action := (l.state.actions[i]?).getD { name := "" }

/-- The action returns from more states than the lexer can leave. -/
def underflow? (a : Action) : Option Nat :=
  match a.transition with
  | some (.pop count) => if l.depth ≤ count then some count else none
  | _ => none

/-- Take the next `length` characters as a token for the action. -/
def take (a : Action) (length : Nat) : Token × Lexer :=
  let chars := l.cursor.ahead.take length
  let text := String.ofList chars
  let (position, breaks) := l.position.advance chars a.lineBreaks
  let token : Token :=
    { kind := a.kindOf text
      value := a.valueOf text
      text
      offset := l.position.offset
      lineBreaks := breaks
      line := l.position.line
      column := l.position.column
      isError := a.isError }
  let stack := a.transition.elim l.stack (Transition.apply l.stack)
  (token, { l with cursor := l.cursor.advance length, position, stack })

/-- The next token, or nothing at the end of the chunk. -/
def next : Except ScanError (Option Token) × Lexer :=
  match l.cursor.current? with
  | none => (.ok none, l)
  | some c =>
    match l.select with
    | none => (.error (.unexpected c l.position l.state.name), l)
    | some (i, length) =>
      let a := l.action i
      match l.underflow? a with
      | some count => (.error (.stackUnderflow l.state.name a.name l.depth count), l)
      | none =>
        let (token, l) := l.take a length
        (.ok (some token), l)

/-- A message about a token, or about the place of the cursor, unless the program stops. It shows
the text around only if the place belongs to the present chunk. -/
def report (token : Option Token) (message : Option String) : Option String :=
  Snippet.render l.machine.overflow (String.ofList l.cursor.chunk)
    (token.elim l.position Token.start) (message.getD defaultMessage)
    ⟨l.origin, l.machine.config.contextLines⟩

end Lexer

/-- The tokens that are left in a chunk, one after another. After an error there are no more. -/
structure Tokens where
  lexer : Lexer
  done : Bool := false

namespace Tokens

/-- The next token or error, if there is one. -/
def next (ts : Tokens) : Option (Except ScanError Token) × Tokens :=
  if ts.done then (none, ts)
  else
    match ts.lexer.next with
    | (.ok (some token), l) => (some (.ok token), ⟨l, false⟩)
    | (.ok none, l) => (none, ⟨l, true⟩)
    | (.error e, l) => (some (.error e), ⟨l, true⟩)

end Tokens

end Lexing
