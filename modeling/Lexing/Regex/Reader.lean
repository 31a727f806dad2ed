import Lexing.Regex.Bracket

/-!
# Reading expressions

An expression is read from left to right. The reader keeps what it has read of the innermost open
group and, for each open group, what came before it. `Regex.parse` reads a whole text.
-/

namespace Lexing.Regex

/-- What has been read of a group. -/
structure Level where
  /-- The alternatives that are complete, the latest first. -/
  branches : List Regex := []
  /-- The parts of the alternative being read, the latest first. -/
  parts : List Regex := []
  /-- The part that a repetition would apply to. -/
  last : Option Regex := none
  nesting : Nesting := {}

namespace Level

/-- Keep the last part from being repeated. -/
def settle (l : Level) : Level :=
  { l with parts := l.last.toList ++ l.parts, last := none, nesting := l.nesting.settle }

def push (l : Level) (r : Regex) (depth : Nat := 0) : Level :=
  { l.settle with last := some r, nesting := l.nesting.push depth }

/-- Keep the last part from being repeated, and so the flags that follow it. -/
def pushFlags (l : Level) : Level := { l.settle with nesting := l.nesting.pushFlags }

def branch (l : Level) : Regex := concat l.settle.parts.reverse

/-- Begin another alternative. -/
def nextBranch (l : Level) : Level :=
  { branches := l.branch :: l.branches, nesting := l.nesting.nextBranch }

def regex (l : Level) : Regex := choice (l.branch :: l.branches).reverse

end Level

structure OpenGroup where
  /-- What came before the group. -/
  outer : Level
  /-- The flags to return to. -/
  flags : Flags
  /-- The number of the group, if it has one. -/
  index : Option Nat

/-- The state of reading. -/
structure Reader where
  flags : Flags := {}
  level : Level := {}
  /-- The open groups, the innermost first. -/
  groups : List OpenGroup := []
  /-- How many numbered groups have been opened. -/
  numbered : Nat := 0
  /-- The names given to groups. -/
  names : List (List Char) := []

namespace Reader

/-- The greatest number of rounds that a repetition may ask for. -/
def maxCount : Nat := 4294967295

def push (r : Reader) (part : Regex) (depth : Nat := 0) : Reader :=
  { r with level := r.level.push part depth }

/-- Enter a group whose parts are read under the given flags. -/
def enter (r : Reader) (flags : Flags) (index : Option Nat) : Reader :=
  { r with
    flags
    level := {}
    groups := ⟨r.level, r.flags, index⟩ :: r.groups }

def enterNumbered (r : Reader) : Reader :=
  { r.enter r.flags (some (r.numbered + 1)) with numbered := r.numbered + 1 }

/-- Leave the innermost group. -/
def leave (r : Reader) : Except SyntaxError Reader :=
  match r.groups with
  | [] => .error .groupUnopened
  | g :: groups =>
    let body := match g.index with
      | some i => .group i r.level.regex
      | none => r.level.regex
    .ok { r with
      flags := g.flags
      level := g.outer.push body (r.level.nesting.depth + 1)
      groups }

/-- The character can stand in the name of a group. -/
def isNamePart (first : Bool) (c : Char) : Bool :=
  c = '_' || Unicode.alphabetic.contains c ||
    (!first && (c = '.' || c = '[' || c = ']' || Unicode.number.contains c))

def isName : List Char → Bool
  | [] => false
  | c :: cs => isNamePart true c && cs.all (isNamePart false)

/-- Read the name of a group, up to the bracket that closes it, and enter the group. -/
def enterNamed (r : Reader) (cs : List Char) : Except SyntaxError (Reader × List Char) :=
  let name := cs.takeWhile (· ≠ '>')
  match cs.dropWhile (· ≠ '>') with
  | [] => .error .groupNameUnclosed
  | _ :: rest =>
    if !isName name then .error (.groupNameInvalid (String.ofList name))
    else if r.names.contains name then .error (.groupNameRepeated (String.ofList name))
    else .ok ({ r.enterNumbered with names := name :: r.names }, rest)

/-- Read flags up to the character that ends them: the flags as they are then, the letters and the
minus sign read so far, the last one first, that character and what follows it. -/
def readFlags (flags : Flags) (seen : List Char) (on : Bool) :
    List Char → Except SyntaxError (Flags × List Char × Char × List Char)
  | [] => .error .flagsUnclosed
  | c :: cs =>
    if c = ':' || c = ')' then
      if seen.head? = some '-' then .error .flagsDangling else .ok (flags, seen, c, cs)
    else if seen.contains c then .error (.flagRepeated c)
    else if c = '-' then readFlags flags (c :: seen) false cs
    else
      match flags.set? c on with
      | some flags => readFlags flags (c :: seen) on cs
      | none => .error (.flagUnknown c)

/-- Read what follows an opening parenthesis. Flags without a group of their own hold for the rest
of the group around them. -/
def openGroup (r : Reader) (cs : List Char) : Except SyntaxError (Reader × List Char) :=
  match r.flags.skip cs with
  | '?' :: '=' :: _ | '?' :: '!' :: _ | '?' :: '<' :: '=' :: _ | '?' :: '<' :: '!' :: _ =>
    .error .lookAround
  | '?' :: 'P' :: '<' :: rest | '?' :: '<' :: rest => r.enterNamed rest
  | '?' :: rest => do
    let (flags, seen, stop, rest) ← readFlags r.flags [] true rest
    if stop = ':' then return (r.enter flags none, rest)
    else if seen.isEmpty then .error .nothingToRepeat
    else return ({ r with flags, level := r.level.pushFlags }, rest)
  | rest => .ok (r.enterNumbered, rest)

def repeatLast (r : Reader) (min : Nat) (max : Option Nat) (lazily : Bool) :
    Except SyntaxError Reader :=
  match r.level.last with
  | none => .error .nothingToRepeat
  | some part =>
    let part := part.repeated min max (lazily == r.flags.swapGreed)
    .ok { r with
      level := { r.level with last := some part, nesting := r.level.nesting.repeatLast } }

/-- Read the mark of a lazy repetition, if it comes next. -/
def readLazy : List Char → Bool × List Char
  | '?' :: rest => (true, rest)
  | rest => (false, rest)

/-- Read a repetition that is written as one character. -/
def repeatMarked (r : Reader) (min : Nat) (max : Option Nat) (cs : List Char) :
    Except SyntaxError (Reader × List Char) := do
  let (lazily, rest) := readLazy cs
  let r ← r.repeatLast min max lazily
  return (r, rest)

/-- Read a decimal number, with blanks around it. -/
def readCount (f : Flags) (cs : List Char) : Except SyntaxError (Nat × List Char) :=
  let (digits, rest) := f.span Char.isDigit (cs.dropWhile isBlank)
  let n := digits.foldl (fun n c => n * 10 + (c.toNat - '0'.toNat)) 0
  if digits.isEmpty then .error .countMissing
  else if maxCount < n then .error .countTooLarge
  else .ok (n, rest.dropWhile isBlank)

/-- Read the bounds of a repetition up to the brace that closes them. -/
def readBounds (f : Flags) (cs : List Char) :
    Except SyntaxError (Nat × Option Nat × List Char) := do
  let (min, cs) ← readCount f (f.skip cs)
  match cs with
  | '}' :: rest => return (min, some min, rest)
  | ',' :: rest =>
    match f.skip rest with
    | '}' :: rest => return (min, none, rest)
    | rest =>
      match ← readCount f rest with
      | (max, '}' :: rest) => return (min, some max, rest)
      | _ => .error .countUnclosed
  | _ => .error .countUnclosed

/-- Read a repetition after its opening brace. -/
def repeatCounted (r : Reader) (cs : List Char) : Except SyntaxError (Reader × List Char) := do
  if r.level.last.isNone then .error .nothingToRepeat
  let (min, max, rest) ← readBounds r.flags cs
  let (lazily, rest) := readLazy (r.flags.skip rest)
  if max.any (· < min) then .error .countReversed
  let r ← r.repeatLast min max lazily
  return (r, rest)

def pushEscape (r : Reader) : Escape → Reader
  | .char c => r.push (r.flags.char c)
  | .set s => r.push (ofSet s)
  | .assertion a => r.push (.assertion a)

def step (r : Reader) (c : Char) (cs : List Char) : Except SyntaxError (Reader × List Char) :=
  match c with
  | '(' => r.openGroup cs
  | ')' => do return (← r.leave, cs)
  | '|' => .ok ({ r with level := r.level.nextBranch }, cs)
  | '[' => do
    let (c, rest) ← Bracket.read r.flags cs
    return (r.push (ofSet c.set) c.depth, rest)
  | '?' => r.repeatMarked 0 (some 1) cs
  | '*' => r.repeatMarked 0 none cs
  | '+' => r.repeatMarked 1 none cs
  | '{' => r.repeatCounted cs
  | '\\' => do
    let (e, rest) ← Escape.read r.flags cs
    return (r.pushEscape e, rest)
  | '.' => do return (r.push (← r.flags.dot), cs)
  | '^' => .ok (r.push (.assertion r.flags.lineStart), cs)
  | '$' => .ok (r.push (.assertion r.flags.lineEnd), cs)
  | c => .ok (r.push (r.flags.char c), cs)

/-- Read to the end of the text. Every step passes a character, so the length of the text is enough
for the first argument. -/
def run : Nat → Reader → List Char → Except SyntaxError Reader
  | 0, r, cs => if (r.flags.skip cs).isEmpty then .ok r else .error .tooLong
  | n + 1, r, cs =>
    match r.flags.skip cs with
    | [] => .ok r
    | c :: cs => do
      let (r, rest) ← r.step c cs
      run n r rest

/-- What has been read, if no group is left open and nothing is nested too deeply. -/
def finish (r : Reader) : Except SyntaxError Regex :=
  if !r.groups.isEmpty then .error .groupUnclosed
  else if maxDepth < r.level.nesting.depth then .error .nestedTooDeeply
  else .ok r.level.regex

end Reader

/-- The expression that a text stands for under the given flags. -/
def parseWith (flags : Flags) (source : List Char) : Except SyntaxError Regex := do
  let r ← Reader.run source.length { flags } source
  r.finish

/-- The expression that a text stands for. Expressions may not nest too deeply, but how large they
become when repetitions are written out does not matter here. -/
def parse (names : Unicode.Names) (source : List Char) : Except SyntaxError Regex :=
  parseWith { names } source

/-- How deep the expression nests that a text stands for under the given flags. -/
def depthWith (flags : Flags) (source : List Char) : Nat :=
  match Reader.run source.length { flags } source with
  | .ok r => r.level.nesting.depth
  | .error _ => 0

def depth (names : Unicode.Names) (source : List Char) : Nat := depthWith { names } source

end Lexing.Regex
