import Lexing.Text.LineMap
import Lexing.Text.Overflow
import Lexing.Text.Position

/-!
# Messages that show the source

A snippet is a headline, then the lines around a place with their numbers, and under the line of the
place a row with a caret. The caret row copies the tabs of the line above it, so that the caret
stands under its character however wide a tab is shown.

A chunk may begin in the middle of a line: the options say where its first character stands, and
line numbers and the columns of the first line are counted from there.
-/

namespace Lexing.Text.Snippet

/-- How many lines are shown on each side when nothing else is said. -/
def defaultContext : UInt64 := 2

/-- Where a source begins, and how much of it is shown. -/
structure Options where
  origin : Position := .start
  contextLines : UInt64 := defaultContext
deriving DecidableEq

/-- One printed row. -/
inductive Row where
  /-- A line of the source and its number. -/
  | line (number : Nat) (text : List Char)
  /-- What stands between the gutter and the caret. -/
  | caret (padding : List Char)
deriving DecidableEq

/-- The blanks and tabs that bring a caret under the character after the first `width` of `line`. -/
def padding (line : List Char) (width : Nat) : List Char :=
  (line.take width).map (fun c => if c = '\t' then '\t' else ' ') ++
    List.replicate (width - line.length) ' '

/-- The number of characters before `place` on its line, which is line `i` of the source. -/
def indent (options : Options) (place : Position) (i : Nat) : Nat :=
  place.column.toNat - (if i = 0 then options.origin.column.toNat else 1)

/-- The place as a byte offset into the source, if it belongs to the source at all. -/
def relative? (source : List Char) (place : Position) (options : Options) : Option Nat :=
  if options.origin.offset ≤ place.offset ∧
      place.offset - options.origin.offset ≤ utf8Length source then
    some (place.offset - options.origin.offset)
  else
    none

/-- The first and the last line shown around line `target`. The last one may be out of reach, where
the sum is no machine word. -/
def window? (overflow : Overflow) (lines : LineMap) (target : Nat) (options : Options) :
    Option (Nat × Nat) := do
  let last ← overflow.sum? target options.contextLines.toNat
  return (target - options.contextLines.toNat, min last (lines.count - 1))

/-- The rows for line `i`: the line, and the caret under it if it is the one pointed at. -/
def rowsOfLine (source : List Char) (lines : LineMap) (place : Position) (options : Options)
    (target i : Nat) : List Row :=
  let text := (lines.line? source i).getD []
  let row := Row.line (options.origin.line.toNat + i) text
  if i = target then [row, .caret (padding text (indent options place i))] else [row]

def rows (source : List Char) (place : Position) (options : Options) (target : Nat) :
    Nat × Nat → List Row
  | (first, last) =>
    (List.range' first (last + 1 - first)).flatMap
      (rowsOfLine source (LineMap.ofText source) place options target)

/-- The width of the number of the last line shown. -/
def gutter (options : Options) (last : Nat) : Nat :=
  (toString (options.origin.line.toNat + last)).length

def Row.render (width : Nat) : Row → List Char
  | .line number text =>
    let digits := (toString number).toList
    List.replicate (width - digits.length) ' ' ++ digits ++ [' ', ' '] ++ text
  | .caret padding => List.replicate (width + 2) ' ' ++ padding ++ ['^']

/-- The first line of every snippet. -/
def headline (message : String) (place : Position) : String :=
  s!"{message} at line {place.line} col {place.column}:"

/-- The whole snippet, unless the program stops. For a place that is not in the source it is the
headline alone. -/
def render (overflow : Overflow) (source : String) (place : Position) (message : String)
    (options : Options) : Option String :=
  let text := source.toList
  match relative? text place options with
  | none => some (headline message place)
  | some offset => do
    let lines := LineMap.ofText text
    let target := lines.lineAt offset
    let window ← window? overflow lines target options
    let shown := (rows text place options target window).map (Row.render (gutter options window.2))
    return headline message place ++ "\n\n" ++ String.ofList (List.intercalate ['\n'] shown)

end Lexing.Text.Snippet
