import Lexing.Proofs.Text.Lines
import Mathlib.Data.List.Forall2

/-!
# What messages show

A message about a place in the source shows the lines around that place, one after another, and a
caret under the line that has the place. There is no other caret. A message about any other place is
its headline alone.
-/

namespace Lexing.Text.Snippet

variable {source : List Char} {options : Options} {place : Position} {offset : Nat}

/-- A row shows line `i` of the source with its number. -/
def Shows (source : List Char) (options : Options) (i : Nat) (row : Row) : Prop :=
  ∃ text, (LineMap.ofText source).line? source i = some text ∧
    row = .line (options.origin.line.toNat + i) text

/-- Below the headline the message shows lines of the source that follow each other. Under the one
that has the byte at `offset` there is a caret. -/
def PointsAt (source : List Char) (options : Options) (offset : Nat) (headline : String)
    (message : Option String) : Prop :=
  ∃ width first before row padding after,
    message = some (headline ++ "\n\n" ++ String.ofList (List.intercalate ['\n']
      ((before ++ row :: .caret padding :: after).map (Row.render width)))) ∧
    first + before.length = (LineMap.ofText source).lineAt offset ∧
    List.Forall₂ (Shows source options)
      (List.range' first (before.length + (1 + after.length))) (before ++ row :: after)

def lineRow (source : List Char) (options : Options) (i : Nat) : Row :=
  .line (options.origin.line.toNat + i) (((LineMap.ofText source).line? source i).getD [])

/-- There is no message, or below the headline it shows lines that end before the one that has the
byte at `offset`, and no caret. -/
def Misses (source : List Char) (options : Options) (offset : Nat) (headline : String)
    (message : Option String) : Prop :=
  ∀ shown, message = some shown → ∃ width first count,
    shown = headline ++ "\n\n" ++ String.ofList (List.intercalate ['\n']
      (((List.range' first count).map (lineRow source options)).map (Row.render width))) ∧
    ∀ i ∈ List.range' first count, i < (LineMap.ofText source).lineAt offset

end Lexing.Text.Snippet
