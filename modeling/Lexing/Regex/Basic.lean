import Lexing.CharSet

/-!
# Regular expressions

A regular expression is a tree. Sequences and alternatives are binary and lean to the right;
`factors` and `options` give their parts as lists. The trees that readers build come from `concat`,
`choice`, `ofSet` and `repeated`, which put an expression into a simple form: neighbouring literals
are joined, alternatives of single characters become one set, and a beginning that all alternatives
share is written once.
-/

namespace Lexing

/-- A place relative to words. -/
inductive WordEdge where
  /-- Exactly one of the neighbours belongs to a word. -/
  | boundary
  /-- Both neighbours belong to words or neither does. -/
  | noBoundary
  | start
  | stop
  /-- No word goes on from the left. -/
  | startHalf
  /-- No word goes on to the right. -/
  | stopHalf
deriving DecidableEq

/-- A condition on the place between two characters. -/
inductive Assertion where
  | textStart
  | textEnd
  /-- A line begins here. With `crlf` the lines may also end in a carriage return, alone or before a
  line feed. -/
  | lineStart (crlf : Bool)
  | lineEnd (crlf : Bool)
  /-- A place relative to words, which are made of ASCII characters only or of any. -/
  | word (edge : WordEdge) (asciiOnly : Bool)
deriving DecidableEq

inductive Regex where
  /-- Matches the empty text. -/
  | empty
  | literal (text : List Char)
  /-- Matches one character of a set. -/
  | set (chars : CharSet)
  | assertion (condition : Assertion)
  /-- Matches `body` at least `min` times and at most `max` times, if there is a maximum. A greedy
  repetition prefers more rounds to fewer. -/
  | repetition (body : Regex) (min : Nat) (max : Option Nat) (greedy : Bool)
  /-- A numbered group. -/
  | group (index : Nat) (body : Regex)
  | seq (first rest : Regex)
  /-- Prefers what `first` matches. -/
  | alt (first rest : Regex)
deriving DecidableEq, Inhabited

namespace Regex

/-- The least number of characters in a match, or `none` if the expression holds a part that matches
nothing and cannot be left out. -/
def minLength : Regex → Option Nat
  | empty | assertion _ => some 0
  | literal text => some text.length
  | set chars => if chars.isEmpty then none else some 1
  | repetition body min _ _ => body.minLength.map (· * min)
  | group _ body => body.minLength
  | seq first rest => do return (← first.minLength) + (← rest.minLength)
  | alt first rest => do return min (← first.minLength) (← rest.minLength)

/-- The greatest number of characters in a match, if there is one. -/
def maxLength : Regex → Option Nat
  | empty | assertion _ => some 0
  | literal text => some text.length
  | set chars => if chars.isEmpty then none else some 1
  | repetition body _ max _ => do return (← body.maxLength) * (← max)
  | group _ body => body.maxLength
  | seq first rest => do return (← first.maxLength) + (← rest.maxLength)
  | alt first rest => do return max (← first.maxLength) (← rest.maxLength)

/-- A match may hold a line break. -/
def mayBreakLine : Regex → Bool
  | empty | assertion _ => false
  | literal text => text.contains '\n'
  | set chars => chars.contains '\n'
  | repetition body _ max _ => max != some 0 && body.mayBreakLine
  | group _ body => body.mayBreakLine
  | seq first rest => first.mayBreakLine || rest.mayBreakLine
  | alt first rest => first.mayBreakLine || rest.mayBreakLine

/-- The parts of a sequence, of which the empty expression has none. -/
def factors : Regex → List Regex
  | empty => []
  | seq first rest => first :: rest.factors
  | r => [r]

/-- The alternatives of an expression. -/
def options : Regex → List Regex
  | alt first rest => first :: rest.options
  | r => [r]

def seqAll : List Regex → Regex
  | [] => empty
  | [r] => r
  | r :: rest => seq r (seqAll rest)

/-- Matches nothing at all. -/
def fail : Regex := set .empty

def altAll : List Regex → Regex
  | [] => fail
  | [r] => r
  | r :: rest => alt r (altAll rest)

/-- One character of a set. -/
def ofSet (chars : CharSet) : Regex :=
  match chars.single? with
  | some c => literal [c]
  | none => set chars

/-- Put a part before others, joined with a literal that follows it. -/
def consFactor : Regex → List Regex → List Regex
  | literal text, literal more :: rest => literal (text ++ more) :: rest
  | r, rest => r :: rest

/-- The expressions one after another, in simple form. -/
def concat : List Regex → Regex
  | [r] => r
  | rs => seqAll ((rs.flatMap factors).foldr consFactor [])

/-- A repetition in simple form. More than one round of an expression that matches only the empty
text is no different from one round. -/
def repeated (body : Regex) (min : Nat) (max : Option Nat) (greedy : Bool) : Regex :=
  let onlyEmpty := body.maxLength = some 0
  let min := if onlyEmpty then Nat.min min 1 else min
  let max := if onlyEmpty then some ((max.map (Nat.min 1)).getD 1) else max
  if min = 0 ∧ max = some 0 then empty
  else if min = 1 ∧ max = some 1 then body
  else repetition body min max greedy

def char? : Regex → Option Char
  | literal [c] => some c
  | _ => none

/-- The characters of a set. -/
def set? : Regex → Option CharSet
  | set chars => some chars
  | _ => none

/-- The alternatives as one set, if all are single characters or all are sets. -/
def asSet? (rs : List Regex) : Option CharSet :=
  match rs.mapM char? with
  | some cs => some (.ofRanges (cs.map fun c => ⟨c, c⟩))
  | none => (rs.mapM set?).map (·.foldr CharSet.union .empty)

/-- Alternatives in simple form, each kept whole unless all become one set. -/
def choiceWhole (rs : List Regex) : Regex :=
  match rs.flatMap options with
  | [] => fail
  | [r] => r
  | rs => (asSet? rs).elim (altAll rs) ofSet

/-- The longest beginning that two lists share. -/
def sharedStart : List Regex → List Regex → List Regex
  | r :: rs, s :: ss => if r = s then r :: sharedStart rs ss else []
  | _, _ => []

/-- The beginning that several sequences of two or more parts have in common. -/
def sharedFactors (rs : List Regex) : List Regex :=
  match rs.map factors with
  | [] => []
  | fs :: fss => if (fs :: fss).all (1 < ·.length) then fss.foldl sharedStart fs else []

/-- Alternatives in simple form. -/
def choice (rs : List Regex) : Regex :=
  match rs.flatMap options with
  | [] => fail
  | [r] => r
  | rs =>
    match asSet? rs, sharedFactors rs with
    | some chars, _ => ofSet chars
    | none, [] => altAll rs
    | none, start =>
      concat (start ++ [choiceWhole (rs.map fun r => concat (r.factors.drop start.length))])

end Regex

end Lexing
