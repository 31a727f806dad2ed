import Lexing.Text.Basic

/-!
# Where the lines of a text begin

The map lists the byte offset of every line start. The first line starts at zero and every line
break starts another line, so a break at the very end opens an empty last line.
-/

namespace Lexing.Text

/-- The byte offsets at which lines begin, in order. -/
structure LineMap where
  starts : List Nat := []
deriving DecidableEq

namespace LineMap

/-- The offsets right after the line breaks of a text that begins at `offset`. -/
def afterBreaks (offset : Nat) : List Char → List Nat
  | [] => []
  | c :: cs =>
    let next := offset + c.utf8Size
    if c = '\n' then next :: afterBreaks next cs else afterBreaks next cs

def ofText (text : List Char) : LineMap := ⟨0 :: afterBreaks 0 text⟩

def count (m : LineMap) : Nat := m.starts.length

/-- The line that holds the byte at `offset`: the last one that starts no later. Lines are numbered
from zero. -/
def lineAt (m : LineMap) (offset : Nat) : Nat :=
  m.starts.countP (· ≤ offset) - 1

/-- Line `i` of `source` without the break that ends it, and without the carriage return before the
break. -/
def line? (m : LineMap) (source : List Char) (i : Nat) : Option (List Char) := do
  let start ← m.starts[i]?
  let stop := match m.starts[i + 1]? with
    | some next => next - 1
    | none => utf8Length source
  let line ← slice? source start stop
  return dropReturn line

@[simp] theorem count_ofText_pos (text : List Char) : 0 < (ofText text).count := by
  simp [count, ofText]

@[simp] theorem length_afterBreaks (offset : Nat) (text : List Char) :
    (afterBreaks offset text).length = lineBreaks text := by
  induction text generalizing offset with
  | nil => rfl
  | cons c cs ih => by_cases h : c = '\n' <;> simp [afterBreaks, lineBreaks, h] <;> exact ih _

theorem count_ofText (text : List Char) : (ofText text).count = lineBreaks text + 1 := by
  simp [count, ofText]

end LineMap

end Lexing.Text
