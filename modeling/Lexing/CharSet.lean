/-!
# Sets of characters

A set is a list of ranges in ascending order with a gap between each two of them. The operations
keep that form, so a set has one list of ranges however it was put together.

Code points that are no characters lie in no range of their own: the character after U+D7FF is
U+E000.
-/

namespace Lexing

def nextChar (c : Char) : Char :=
  Char.ofNat (if c.toNat = 0xD7FF then 0xE000 else c.toNat + 1)

def previousChar (c : Char) : Char :=
  Char.ofNat (if c.toNat = 0xE000 then 0xD7FF else c.toNat - 1)

/-- The characters from `first` to `last`. -/
structure CharRange where
  first : Char
  last : Char
deriving DecidableEq

namespace CharRange

def contains (r : CharRange) (c : Char) : Bool :=
  r.first.toNat ≤ c.toNat && c.toNat ≤ r.last.toNat

/-- The range with the given ends, in whatever order they come. -/
def between (a b : Char) : CharRange :=
  if a.toNat ≤ b.toNat then ⟨a, b⟩ else ⟨b, a⟩

/-- There is a code point between the end of `r` and the beginning of `s`. -/
def endsBefore (r s : CharRange) : Bool :=
  r.last.toNat + 1 < s.first.toNat

/-- The least range that covers both. -/
def cover (r s : CharRange) : CharRange where
  first := if r.first.toNat ≤ s.first.toNat then r.first else s.first
  last := if s.last.toNat ≤ r.last.toNat then r.last else s.last

/-- What two ranges share. -/
def inter? (r s : CharRange) : Option CharRange :=
  let first := if r.first.toNat ≤ s.first.toNat then s.first else r.first
  let last := if s.last.toNat ≤ r.last.toNat then s.last else r.last
  if first.toNat ≤ last.toNat then some ⟨first, last⟩ else none

/-- What `s` leaves of `r`. -/
def diff (r s : CharRange) : List CharRange :=
  if (r.inter? s).isNone then
    [r]
  else
    (if r.first.toNat < s.first.toNat then [⟨r.first, previousChar s.first⟩] else []) ++
      (if s.last.toNat < r.last.toNat then [⟨nextChar s.last, r.last⟩] else [])

end CharRange

structure CharSet where
  ranges : List CharRange
deriving DecidableEq

namespace CharSet

def empty : CharSet := ⟨[]⟩

/-- The set of all characters. -/
def any : CharSet := ⟨[⟨'\x00', Char.ofNat 0x10FFFF⟩]⟩

def contains (s : CharSet) (c : Char) : Bool :=
  s.ranges.any (·.contains c)

instance : Membership Char CharSet := ⟨fun s c => s.contains c = true⟩

instance (c : Char) (s : CharSet) : Decidable (c ∈ s) :=
  inferInstanceAs (Decidable (s.contains c = true))

/-- Put a range among ascending ranges, joined with those that it meets or touches. -/
def insertRange (r : CharRange) : List CharRange → List CharRange
  | [] => [r]
  | s :: rest =>
    if r.endsBefore s then r :: s :: rest
    else if s.endsBefore r then s :: insertRange r rest
    else insertRange (r.cover s) rest

/-- The characters of all the ranges. -/
def ofRanges (ranges : List CharRange) : CharSet :=
  ⟨ranges.foldr insertRange []⟩

/-- The set given by ascending pairs of code points with gaps between them. -/
def ofTable (table : List (Nat × Nat)) : CharSet :=
  ⟨table.map fun (first, last) => ⟨Char.ofNat first, Char.ofNat last⟩⟩

def range (first last : Char) : CharSet := ⟨[⟨first, last⟩]⟩

def singleton (c : Char) : CharSet := range c c

def insert (c : Char) (s : CharSet) : CharSet :=
  ⟨insertRange ⟨c, c⟩ s.ranges⟩

def union (s t : CharSet) : CharSet :=
  ⟨s.ranges.foldr insertRange t.ranges⟩

instance : Union CharSet := ⟨union⟩

def inter (s t : CharSet) : CharSet :=
  ⟨s.ranges.flatMap fun r => t.ranges.filterMap r.inter?⟩

instance : Inter CharSet := ⟨inter⟩

/-- The characters of `s` that are not in `t`. -/
def diff (s t : CharSet) : CharSet :=
  ⟨s.ranges.flatMap fun r =>
    t.ranges.foldl (fun pieces cut => pieces.flatMap (·.diff cut)) [r]⟩

instance : SDiff CharSet := ⟨diff⟩

/-- The characters that are in one of the sets and not in both. -/
def symmDiff (s t : CharSet) : CharSet := (s ∪ t) \ (s ∩ t)

/-- What lies between ascending ranges and after the last of them. -/
def gaps : List CharRange → List CharRange
  | [] => []
  | [r] =>
    if r.last.toNat < 0x10FFFF then [⟨nextChar r.last, Char.ofNat 0x10FFFF⟩] else []
  | r :: s :: rest =>
    .between (nextChar r.last) (previousChar s.first) :: gaps (s :: rest)

def complement (s : CharSet) : CharSet :=
  match s.ranges with
  | [] => any
  | r :: rest =>
    let below : List CharRange :=
      if 0 < r.first.toNat then [⟨'\x00', previousChar r.first⟩] else []
    ⟨below ++ gaps (r :: rest)⟩

def isEmpty (s : CharSet) : Bool := s.ranges.isEmpty

/-- The only character of a set, if it has exactly one. -/
def single? (s : CharSet) : Option Char :=
  match s.ranges with
  | [r] => if r.first = r.last then some r.first else none
  | _ => none

/-- All characters of the set are ASCII. -/
def isAscii (s : CharSet) : Bool :=
  s.ranges.all (·.last.toNat < 0x80)

@[simp] theorem contains_empty (c : Char) : empty.contains c = false := rfl

end CharSet

end Lexing
