import Lexing.Regex.Escape
import Lexing.Regex.Nesting

/-!
# Classes in brackets

A class lists characters, ranges and other classes. Between two such lists may stand an operator:
`&&` for what both hold, `--` for what only the first holds, `~~` for what exactly one holds. All
operators bind alike, from the left.
-/

namespace Lexing.Regex

/-- An operator between two parts of a class. -/
inductive SetOperator where
  | inter
  | diff
  | symmDiff
deriving DecidableEq

def SetOperator.apply : SetOperator → CharSet → CharSet → CharSet
  | inter, s, t => s ∩ t
  | diff, s, t => s \ t
  | symmDiff, s, t => s.symmDiff t

/-- What a class stands for, and how deep it nests. -/
structure Class where
  set : CharSet
  depth : Nat
deriving DecidableEq

/-- A class that is still open. -/
structure Bracket where
  negated : Bool
  /-- What stands before the last operator, and the operator. -/
  left : Option (Class × SetOperator) := none
  /-- What has been listed since. -/
  items : CharSet := .empty
  /-- The depths of what has been listed since. -/
  row : Row := {}
deriving DecidableEq

namespace Bracket

variable (f : Flags)

def add (b : Bracket) (s : CharSet) (depth : Nat := 0) : Bracket :=
  { b with items := s ∪ b.items, row := b.row.add depth }

/-- What the class holds so far. -/
def value (b : Bracket) : Class :=
  match b.left with
  | none => ⟨b.items, b.row.depth⟩
  | some (c, op) =>
    ⟨op.apply (f.closeCase c.set) (f.closeCase b.items), max c.depth b.row.depth + 1⟩

def operator (b : Bracket) (op : SetOperator) : Bracket :=
  { b with left := some (b.value f, op), items := .empty, row := {} }

/-- The class once it is closed. -/
def close (b : Bracket) : Except SyntaxError Class := do
  let s ← f.classSet b.negated (b.value f).set
  return ⟨s, (b.value f).depth + 1⟩

/-- Read the mark of a negated class, if it comes next. -/
def readMark : List Char → Bool × List Char
  | '^' :: cs => (true, cs)
  | cs => (false, cs)

/-- Read the beginning of a class after its bracket. Hyphens there stand for themselves, and so does
a closing bracket in front. -/
def openFrom (cs : List Char) : Bracket × List Char :=
  let (negated, cs) := readMark (f.skip cs)
  match f.span (· = '-') cs with
  | ([], ']' :: rest) => (⟨negated, none, .singleton ']', ⟨1, 0⟩⟩, rest)
  | ([], rest) => (⟨negated, none, .empty, {}⟩, rest)
  | (_ :: hyphens, rest) => (⟨negated, none, .singleton '-', ⟨hyphens.length + 1, 0⟩⟩, rest)

/-- The ASCII characters of a class that is written between colons. -/
def asciiClass? (name : String) : Option CharSet :=
  match name with
  | "alnum" => some (.ofTable [(0x30, 0x39), (0x41, 0x5A), (0x61, 0x7A)])
  | "alpha" => some (.ofTable [(0x41, 0x5A), (0x61, 0x7A)])
  | "ascii" => some Unicode.ascii
  | "blank" => some (.ofTable [(0x09, 0x09), (0x20, 0x20)])
  | "cntrl" => some (.ofTable [(0x00, 0x1F), (0x7F, 0x7F)])
  | "digit" => some (.range '0' '9')
  | "graph" => some (.range '!' '~')
  | "lower" => some (.range 'a' 'z')
  | "print" => some (.range ' ' '~')
  | "punct" => some (.ofTable [(0x21, 0x2F), (0x3A, 0x40), (0x5B, 0x60), (0x7B, 0x7E)])
  | "space" => some (.ofTable [(0x09, 0x0D), (0x20, 0x20)])
  | "upper" => some (.range 'A' 'Z')
  | "word" => some (.ofTable [(0x30, 0x39), (0x41, 0x5A), (0x5F, 0x5F), (0x61, 0x7A)])
  | "xdigit" => some Unicode.asciiHexDigit
  | _ => none

/-- Read a class between colons, after its bracket: whether it is negated, what it holds and what
follows it. -/
def named? (cs : List Char) : Option (Bool × CharSet × List Char) := do
  let ':' :: cs := cs | none
  let (negated, cs) := readMark cs
  let ':' :: ']' :: rest := cs.dropWhile (· ≠ ':') | none
  let s ← asciiClass? (String.ofList (cs.takeWhile (· ≠ ':')))
  return (negated, s, rest)

/-- Read what stands for itself or is escaped. -/
def readAtom : List Char → Except SyntaxError (Escape × List Char)
  | [] => .error .classUnclosed
  | '\\' :: cs => Escape.read f cs
  | c :: cs => .ok (.char c, cs)

/-- What an atom adds to a class. -/
def atomSet : Escape → Except SyntaxError CharSet
  | .char c => f.polarity false (.singleton c)
  | .set s => .ok s
  | .assertion _ => .error .classItem

/-- Read an atom or a range. A hyphen joins two atoms only if it is not the last character of the
class and no operator begins there. -/
def readItem (cs : List Char) : Except SyntaxError (CharSet × List Char) := do
  let (first, cs) ← readAtom f cs
  match f.skip cs with
  | [] => .error .classUnclosed
  | '-' :: rest =>
    if f.peek? rest = some ']' || f.peek? rest = some '-' then
      return (← atomSet f first, '-' :: rest)
    else
      match first, ← readAtom f (f.skip rest) with
      | .char a, (.char b, rest) =>
        if b.toNat < a.toNat then .error .classRangeReversed
        return (← f.polarity false (.range a b), rest)
      | _, _ => .error .classRangeEnd
  | rest => return (← atomSet f first, rest)

/-- Read up to the end of the outermost class. Every round passes a character, so the length of the
text is enough for the first argument. -/
def readFrom : Nat → List Bracket → Bracket → List Char → Except SyntaxError (Class × List Char)
  | 0, _, _, _ => .error .classUnclosed
  | n + 1, outer, b, cs =>
    match f.skip cs with
    | [] => .error .classUnclosed
    | '[' :: rest =>
      match named? rest with
      | some (negated, s, rest) => do
        let s ← f.classSet negated s
        readFrom n outer (b.add s) rest
      | none =>
        let (inner, rest) := openFrom f rest
        readFrom n (b :: outer) inner rest
    | ']' :: rest => do
      let c ← b.close f
      match outer with
      | [] => return (c, rest)
      | parent :: outer => readFrom n outer (parent.add c.set c.depth) rest
    | '&' :: '&' :: rest => readFrom n outer (b.operator f .inter) rest
    | '-' :: '-' :: rest => readFrom n outer (b.operator f .diff) rest
    | '~' :: '~' :: rest => readFrom n outer (b.operator f .symmDiff) rest
    | rest => do
      let (s, rest) ← readItem f rest
      readFrom n outer (b.add s) rest

def read (cs : List Char) : Except SyntaxError (Class × List Char) :=
  let (b, rest) := openFrom f cs
  readFrom f (rest.length + 1) [] b rest

end Bracket

end Lexing.Regex
