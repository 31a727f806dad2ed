/-!
# Texts as lists of characters

Sizes and offsets of a text are counted in bytes of its UTF-8 form, lengths in characters. An offset
is usable only where it falls between two characters, so cutting a text at an offset may fail.
-/

namespace Lexing.Text

/-- The number of bytes that the characters take in UTF-8. -/
def utf8Length : List Char → Nat
  | [] => 0
  | c :: cs => c.utf8Size + utf8Length cs

@[simp] theorem utf8Length_nil : utf8Length [] = 0 := rfl

@[simp] theorem utf8Length_cons (c : Char) (cs : List Char) :
    utf8Length (c :: cs) = c.utf8Size + utf8Length cs := rfl

@[simp] theorem utf8Length_append (xs ys : List Char) :
    utf8Length (xs ++ ys) = utf8Length xs + utf8Length ys := by
  induction xs with
  | nil => simp
  | cons c cs ih => simp [ih, Nat.add_assoc]

theorem utf8Length_pos {text : List Char} (h : text ≠ []) : 0 < utf8Length text := by
  obtain ⟨c, rest, rfl⟩ := List.exists_cons_of_ne_nil h
  rw [utf8Length_cons]
  exact Nat.add_pos_left c.utf8Size_pos _

def lineBreaks (cs : List Char) : Nat :=
  cs.count '\n'

@[simp] theorem lineBreaks_nil : lineBreaks [] = 0 := rfl

@[simp] theorem lineBreaks_append (xs ys : List Char) :
    lineBreaks (xs ++ ys) = lineBreaks xs + lineBreaks ys :=
  List.count_append

/-- What follows the last line break: the whole text if there is none. -/
def lastLine (cs : List Char) : List Char :=
  (cs.reverse.takeWhile (· ≠ '\n')).reverse

/-- Cut a text at a byte offset. There is no cut past the end or inside a character. -/
def cut? : List Char → Nat → Option (List Char × List Char)
  | cs, 0 => some ([], cs)
  | [], _ + 1 => none
  | c :: cs, n + 1 =>
    if c.utf8Size ≤ n + 1 then
      (cut? cs (n + 1 - c.utf8Size)).map fun (before, after) => (c :: before, after)
    else
      none

@[simp] theorem cut?_zero (cs : List Char) : cut? cs 0 = some ([], cs) := by
  cases cs <;> rfl

/-- The part between two byte offsets, if both are usable and in order. -/
def slice? (cs : List Char) (start stop : Nat) : Option (List Char) := do
  guard (start ≤ stop)
  let (_, rest) ← cut? cs start
  let (part, _) ← cut? rest (stop - start)
  return part

/-- A text without the carriage return that may end it. -/
def dropReturn (cs : List Char) : List Char :=
  if cs.getLast? = some '\r' then cs.dropLast else cs

end Lexing.Text
