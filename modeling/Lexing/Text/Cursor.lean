import Lexing.Text.Basic

/-!
# A chunk of text and a place in it

A cursor keeps the characters it has passed apart from those still ahead. It therefore always stands
between two characters of its chunk, and it can only move forward.
-/

namespace Lexing.Text

/-- A chunk that has been read up to some character. -/
structure Cursor where
  /-- The characters already passed, the nearest first. -/
  behind : List Char := []
  /-- The characters still to be read. -/
  ahead : List Char := []
deriving DecidableEq

namespace Cursor

/-- The cursor at the beginning of a chunk. -/
def ofList (chunk : List Char) : Cursor := ⟨[], chunk⟩

instance : Inhabited Cursor := ⟨ofList []⟩

/-- The whole chunk, whatever has been read of it. -/
def chunk (c : Cursor) : List Char := c.behind.reverse ++ c.ahead

def byteIndex (c : Cursor) : Nat := utf8Length c.behind.reverse

/-- The character that would be read next. -/
def current? (c : Cursor) : Option Char := c.ahead.head?

def advance (c : Cursor) (n : Nat) : Cursor :=
  ⟨(c.ahead.take n).reverse ++ c.behind, c.ahead.drop n⟩

/-- Pass the next `len` bytes. A cursor that cannot stand there stays where it is. -/
def advanceBytes (c : Cursor) (len : Nat) : Cursor :=
  match cut? c.ahead len with
  | some (passed, rest) => ⟨passed.reverse ++ c.behind, rest⟩
  | none => c

@[simp] theorem chunk_ofList (cs : List Char) : (ofList cs).chunk = cs := rfl

@[simp] theorem byteIndex_ofList (cs : List Char) : (ofList cs).byteIndex = 0 := rfl

@[simp] theorem ahead_advance (c : Cursor) (n : Nat) : (c.advance n).ahead = c.ahead.drop n := rfl

@[simp] theorem advance_zero (c : Cursor) : c.advance 0 = c := by simp [advance]

@[simp] theorem chunk_advance (c : Cursor) (n : Nat) : (c.advance n).chunk = c.chunk := by
  simp [chunk, advance]

theorem byteIndex_advance (c : Cursor) (n : Nat) :
    (c.advance n).byteIndex = c.byteIndex + utf8Length (c.ahead.take n) := by
  simp [byteIndex, advance]

end Cursor

end Lexing.Text
