import Lexing.Text.Basic
import Lexing.Text.Counter

/-!
# Places in the input

A position says where a reader stands: its line and column, both counted from one, and the number of
bytes before it. Columns count characters. Line breaks count only for a reader who tracks them;
without tracking a text is taken to lie on one line, whatever it holds.
-/

namespace Lexing.Text

/-- A place in the input, which may have come in several chunks. -/
structure Position where
  line : Counter
  column : Counter
  offset : Nat
deriving DecidableEq

namespace Position

/-- The place before any input. -/
def start : Position := ⟨1, 1, 0⟩

instance : Inhabited Position := ⟨start⟩

/-- The place after `text`, and the number of line breaks that were counted on the way. -/
def advance (p : Position) (text : List Char) (track : Bool) : Position × Counter :=
  let offset := p.offset + utf8Length text
  if track && text.contains '\n' then
    let breaks := Counter.ofNat (lineBreaks text)
    (⟨p.line + breaks, Counter.ofNat (lastLine text).length + 1, offset⟩, breaks)
  else
    (⟨p.line, p.column + Counter.ofNat text.length, offset⟩, 0)

@[simp] theorem advance_offset (p : Position) (text : List Char) (track : Bool) :
    (p.advance text track).1.offset = p.offset + utf8Length text := by
  unfold advance; dsimp only; split <;> rfl

@[simp] theorem advance_untracked (p : Position) (text : List Char) :
    p.advance text false =
      (⟨p.line, p.column + Counter.ofNat text.length, p.offset + utf8Length text⟩, 0) := rfl

/-- The line and the column, as people write them. -/
def display (p : Position) : String := s!"{p.line}:{p.column}"

end Position

end Lexing.Text
