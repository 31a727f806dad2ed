import Lexing.Regex.Basic
import Lexing.Regex.SyntaxError
import Lexing.Unicode.CaseFolding
import Lexing.Unicode.Property

/-!
# Flags

Flags change what the parts of an expression mean and how it is read. A flag holds from where it is
set to the end of the group that it is set in. This module says what the simple parts of an
expression match under given flags, and how blanks and comments are passed over in verbose mode.
-/

namespace Lexing.Regex

/-- What holds while an expression is read. -/
structure Flags where
  ignoreCase : Bool := false
  /-- Lines, and not only the text, have a start and an end. -/
  multiLine : Bool := false
  /-- The dot matches line breaks too. -/
  dotAll : Bool := false
  /-- Greedy and lazy repetitions are written the other way round. -/
  swapGreed : Bool := false
  /-- Classes, case and words are those of Unicode, not of ASCII. -/
  unicode : Bool := true
  /-- Lines may end in a carriage return. -/
  crlf : Bool := false
  /-- Blanks and comments in the expression have no meaning. -/
  verbose : Bool := false
  /-- What else the engine knows by a name, besides the properties here. -/
  names : Unicode.Names := fun _ => none

namespace Flags

variable (f : Flags)

/-- Turn the flag with the given letter on or off. -/
def set? (letter : Char) (on : Bool) : Option Flags :=
  match letter with
  | 'i' => some { f with ignoreCase := on }
  | 'm' => some { f with multiLine := on }
  | 's' => some { f with dotAll := on }
  | 'U' => some { f with swapGreed := on }
  | 'u' => some { f with unicode := on }
  | 'R' => some { f with crlf := on }
  | 'x' => some { f with verbose := on }
  | _ => none

/-- The set with all characters that differ in case from one of its own, if case is ignored. -/
def closeCase (s : CharSet) : CharSet :=
  if f.ignoreCase then
    Unicode.closeUnder (if f.unicode then Unicode.CaseRun.all else Unicode.CaseRun.ascii) s
  else
    s

/-- The set or its complement. Without Unicode only sets of ASCII characters can be matched. -/
def polarity (negated : Bool) (s : CharSet) : Except SyntaxError CharSet :=
  let s := if negated then s.complement else s
  if f.unicode || s.isAscii then .ok s else .error .beyondAscii

/-- The set that a class stands for: closed under case, then taken or left out. -/
def classSet (negated : Bool) (s : CharSet) : Except SyntaxError CharSet :=
  f.polarity negated (f.closeCase s)

def char (c : Char) : Regex := ofSet (f.closeCase (.singleton c))

def dot : Except SyntaxError Regex :=
  if f.unicode then
    .ok (.set (
      if f.dotAll then .any
      else if f.crlf then .complement (.ofTable [(0x0A, 0x0A), (0x0D, 0x0D)])
      else .complement (.singleton '\n')))
  else
    .error .beyondAscii

def lineStart : Assertion := if f.multiLine then .lineStart f.crlf else .textStart

def lineEnd : Assertion := if f.multiLine then .lineEnd f.crlf else .textEnd

def wordEdge (edge : WordEdge) : Assertion := .word edge (!f.unicode)

/-- The class of digits, blanks or parts of words that a letter after a backslash stands for. -/
def shorthand? (letter : Char) : Option CharSet :=
  match letter with
  | 'd' => some (if f.unicode then Unicode.decimalDigit else .range '0' '9')
  | 's' => some (if f.unicode then Unicode.whiteSpace else .ofTable [(0x09, 0x0D), (0x20, 0x20)])
  | 'w' =>
    some (if f.unicode then Unicode.wordPart
      else .ofTable [(0x30, 0x39), (0x41, 0x5A), (0x5F, 0x5F), (0x61, 0x7A)])
  | _ => none

/-- The text after blanks and comments. The flag tells whether the text begins inside a comment,
which ends with its line. -/
def skipBlanks : Bool → List Char → List Char
  | _, [] => []
  | true, c :: cs => skipBlanks (c ≠ '\n') cs
  | false, c :: cs =>
    if isBlank c then skipBlanks false cs
    else if c = '#' then skipBlanks true cs
    else c :: cs

/-- The text after what has no meaning. -/
def skip (cs : List Char) : List Char :=
  if f.verbose then skipBlanks false cs else cs

/-- The longest run of characters that satisfy `p`, at most `limit` of them, and the text after it.
What has no meaning is passed over before, within and after the run. -/
def spanFrom (p : Char → Bool) : Bool → Nat → List Char → List Char × List Char
  | _, _, [] => ([], [])
  | true, limit, c :: cs => spanFrom p (c ≠ '\n') limit cs
  | false, limit, c :: cs =>
    if f.verbose && isBlank c then spanFrom p false limit cs
    else if f.verbose && c = '#' then spanFrom p true limit cs
    else
      match limit with
      | 0 => ([], c :: cs)
      | limit + 1 =>
        if p c then
          let (run, rest) := spanFrom p false limit cs
          (c :: run, rest)
        else
          ([], c :: cs)

/-- The longest run of characters that satisfy `p`, and the text after it. -/
def span (p : Char → Bool) (cs : List Char) : List Char × List Char :=
  f.spanFrom p false cs.length cs

/-- The first character with a meaning in the text after the current character. A comment is passed
over as far as the blanks after its mark only. -/
def peek? (cs : List Char) : Option Char :=
  if f.verbose then
    match cs.dropWhile isBlank with
    | '#' :: rest => (rest.dropWhile isBlank).head?
    | rest => rest.head?
  else
    cs.head?

end Flags

end Lexing.Regex
