/-!
# How deep expressions nest

An expression whose parts are nested too deeply is refused. How deep they are depends on how the
expression is written, not on what it matches, so depths are counted beside the expression that is
being built. A group, a repetition and a class are one deeper than what they hold. So are things
that stand side by side, if there are two or more of them.
-/

namespace Lexing.Regex

def maxDepth : Nat := 250

/-- Things that stand side by side: how many there are, and the depth of the deepest. -/
structure Row where
  length : Nat := 0
  deepest : Nat := 0
deriving DecidableEq

namespace Row

def add (row : Row) (depth : Nat) : Row := ⟨row.length + 1, max row.deepest depth⟩

/-- A thing that stands alone is no deeper for it. -/
def depth (row : Row) : Nat := if row.length ≤ 1 then row.deepest else row.deepest + 1

end Row

/-- The depths of what has been read of a group. -/
structure Nesting where
  /-- The alternatives that are complete. -/
  branches : Row := {}
  /-- The parts of the alternative being read. -/
  parts : Row := {}
  /-- The part that a repetition would apply to. -/
  last : Option Nat := none
deriving DecidableEq

namespace Nesting

def settle (n : Nesting) : Nesting :=
  { n with parts := n.last.elim n.parts n.parts.add, last := none }

def push (n : Nesting) (depth : Nat) : Nesting := { n.settle with last := some depth }

/-- Flags without a group count as a part, though not as one to be repeated. -/
def pushFlags (n : Nesting) : Nesting := (n.push 0).settle

def repeatLast (n : Nesting) : Nesting := { n with last := n.last.map (· + 1) }

def nextBranch (n : Nesting) : Nesting := { branches := n.branches.add n.settle.parts.depth }

def depth (n : Nesting) : Nat := n.nextBranch.branches.depth

@[simp] theorem depth_push_empty (depth : Nat) : (push {} depth).depth = depth := by
  simp [Nesting.depth, nextBranch, push, settle, Row.add, Row.depth]

end Nesting

end Lexing.Regex
