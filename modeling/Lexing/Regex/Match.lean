import Lexing.Regex.Basic
import Lexing.Unicode.Property

/-!
# Searching for matches

A match is searched for by trying what an expression allows, the preferred ways first: earlier
alternatives before later ones, and more rounds of a greedy repetition before fewer. The first way
that leads to a match of the whole expression gives the match.

Where an expression allows several ways to go on, it has a branching point, known by a number. A
search that comes to a branching point again at the same place of the text would only repeat what it
has tried or is trying, so it gives up there. Rounds that match the empty text do no harm for this
reason, and the number of steps is bounded by the product of the lengths of the expression and of
the text.

A place knows the character before it and all characters after it, so assertions may look both ways.
-/

namespace Lexing

/-- A place in a text, counted in characters from where matching began. -/
structure Point where
  index : Nat
  before : Option Char
  ahead : List Char
deriving DecidableEq

namespace Point

/-- Pass the next character if it satisfies `p`. -/
def passIf (pt : Point) (p : Char → Bool) : Option Point :=
  match pt.ahead with
  | [] => none
  | c :: rest => if p c then some ⟨pt.index + 1, some c, rest⟩ else none

/-- Pass a text, if it comes next. -/
def pass? (pt : Point) : List Char → Option Point
  | [] => some pt
  | c :: cs =>
    match pt.ahead with
    | [] => none
    | d :: rest => if d = c then (Point.mk (pt.index + 1) (some d) rest).pass? cs else none

/-- A neighbour of the place, if there is one, belongs to a word. -/
def isWord (asciiOnly : Bool) : Option Char → Bool
  | none => false
  | some c => if asciiOnly then c.isAlphanum || c = '_' else Unicode.wordPart.contains c

end Point

def WordEdge.holds (edge : WordEdge) (left right : Bool) : Bool :=
  match edge with
  | boundary => left != right
  | noBoundary => left == right
  | start => !left && right
  | stop => left && !right
  | startHalf => !left
  | stopHalf => !right

/-- The condition holds at the place. Between a carriage return and a line feed no line begins or
ends. -/
def Assertion.holds (a : Assertion) (pt : Point) : Bool :=
  let next := pt.ahead.head?
  match a with
  | textStart => pt.before.isNone
  | textEnd => next.isNone
  | lineStart false => pt.before.isNone || pt.before = some '\n'
  | lineEnd false => next.isNone || next = some '\n'
  | lineStart true =>
    pt.before.isNone || pt.before = some '\n' || (pt.before = some '\r' && next ≠ some '\n')
  | lineEnd true =>
    next.isNone || next = some '\r' || (next = some '\n' && pt.before ≠ some '\r')
  | word edge asciiOnly =>
    edge.holds (Point.isWord asciiOnly pt.before) (Point.isWord asciiOnly next)

/-- A set of small numbers, kept as the bits of one number. -/
structure Marks where
  bits : Nat := 0
deriving DecidableEq

namespace Marks

def contains (m : Marks) (i : Nat) : Bool := m.bits.testBit i

def insert (m : Marks) (i : Nat) : Marks := ⟨m.bits ||| 1 <<< i⟩

@[simp] theorem contains_empty (i : Nat) : (Marks.mk 0).contains i = false := by
  simp [contains]

@[simp] theorem contains_insert (m : Marks) (i j : Nat) :
    (m.insert i).contains j = (m.contains j || i = j) := by
  simp only [contains, insert, Nat.testBit_or, Nat.one_shiftLeft, Nat.testBit_two_pow]

end Marks

/-- The branching points at which a search has been, each with the place it was at. -/
abbrev Tried := Marks

/-- How a search ends. -/
inductive Outcome where
  /-- A match ends at the index. -/
  | found (stop : Nat)
  | failed (tried : Tried)
deriving DecidableEq

/-- What is left to do from a place: a search that knows what has been tried before. -/
abbrev Search := Point → Tried → Outcome

namespace Outcome

/-- Search another way if the first has failed. -/
def orElse (first : Outcome) (second : Tried → Outcome) : Outcome :=
  match first with
  | found stop => found stop
  | failed tried => second tried

/-- Search at a branching point, unless the search has been there before. -/
def branch (key : Nat) (tried : Tried) (search : Tried → Outcome) : Outcome :=
  if tried.contains key then failed tried else search (tried.insert key)

/-- Choose between two ways at a branching point, of which the first is preferred or the second. -/
def choose (preferFirst : Bool) (first second : Tried → Outcome) (tried : Tried) : Outcome :=
  if preferFirst then (first tried).orElse second else (second tried).orElse first

end Outcome

namespace Regex

/-- The number of branching points, at most. -/
def branchings : Regex → Nat
  | empty | literal _ | set _ | assertion _ => 0
  | repetition body min max _ => 1 + (body.branchings + 1) * max.getD (Nat.max min 1)
  | group _ body => body.branchings
  | seq first rest => first.branchings + rest.branchings
  | alt first rest => 1 + first.branchings + rest.branchings

/-- The key of a branching point at a place, in an expression with `width` branching points. -/
def keyAt (width point : Nat) (pt : Point) : Nat := pt.index * width + point

section Rounds

-- Repetitions are searched with a given search for one round, `round`. It is told the number of the
-- first branching point it may use and what is left to do after the round. One round and the end of
-- it have `size` branching points.
variable (width size : Nat) (round : Nat → Search → Search)

/-- Exactly `n` rounds, each with branching points of its own. -/
def exactly : Nat → Nat → Search → Search
  | 0, _, next => next
  | n + 1, first, next => round first (exactly n (first + size) next)

/-- At most `n` rounds, each with branching points of its own. -/
def atMost (greedy : Bool) : Nat → Nat → Search → Search
  | 0, _, next, pt, tried => next pt tried
  | n + 1, first, next, pt, tried =>
    .branch (keyAt width first pt) tried <|
      .choose greedy (round (first + 1) (atMost greedy n (first + size) next) pt) (next pt)

/-- Any number of rounds. Every round that leads to a new place passes a character, so there are no
more rounds than characters in `room`, which is the text ahead. -/
def anyNumber (greedy : Bool) (first : Nat) (next : Search) : List Char → Search
  | [], pt, tried => .branch (keyAt width first pt) tried (next pt)
  | _ :: room, pt, tried =>
    .branch (keyAt width first pt) tried <|
      .choose greedy (round (first + 1) (anyNumber greedy first next room) pt) (next pt)

def someNumber (greedy : Bool) (first : Nat) (next : Search) : Search := fun pt tried =>
  round (first + 1) (anyNumber width round greedy first next pt.ahead) pt tried

end Rounds

/-- Search for a match of the expression that begins at a place, and do what is left from its end.
The branching points of the expression have the numbers from `first` on. -/
def search (width : Nat) : Regex → Nat → Search → Search
  | empty, _, next, pt, tried => next pt tried
  | literal text, _, next, pt, tried =>
    match pt.pass? text with
    | some pt => next pt tried
    | none => .failed tried
  | set chars, _, next, pt, tried =>
    match pt.passIf chars.contains with
    | some pt => next pt tried
    | none => .failed tried
  | assertion condition, _, next, pt, tried =>
    if condition.holds pt then next pt tried else .failed tried
  | group _ body, first, next, pt, tried => body.search width first next pt tried
  | seq left right, first, next, pt, tried =>
    left.search width first (right.search width (first + left.branchings) next) pt tried
  | alt left right, first, next, pt, tried =>
    .branch (keyAt width first pt) tried <|
      .choose true (left.search width (first + 1) next pt)
        (right.search width (first + 1 + left.branchings) next pt)
  | repetition body min max greedy, first, next, pt, tried =>
    let size := body.branchings + 1
    let round := body.search width
    match max, min with
    | some max, min =>
      exactly size round min first
        (atMost width size round greedy (max - min) (first + size * min) next) pt tried
    | none, n + 1 =>
      exactly size round n first (someNumber width round greedy (first + size * n) next) pt tried
    | none, 0 =>
      if body.minLength.any (0 < ·) then
        anyNumber width round greedy first next pt.ahead pt tried
      else
        .branch (keyAt width first pt) tried <|
          .choose greedy (someNumber width round greedy (first + 1) next pt) (next pt)

def matchLength? (r : Regex) (before : Option Char) (ahead : List Char) : Option Nat :=
  match r.search r.branchings 0 (fun pt _ => .found pt.index) ⟨0, before, ahead⟩ {} with
  | .found stop => some stop
  | .failed _ => none

end Regex

end Lexing
