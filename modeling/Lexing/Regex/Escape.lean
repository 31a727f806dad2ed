import Lexing.Regex.Flags
import Lexing.Text.Basic

/-!
# Escapes

What a backslash and the characters after it stand for, and how a plain text is written as an
expression that matches just this text.
-/

namespace Lexing.Regex

/-- The character has a meaning of its own in some part of an expression. -/
def isMeta (c : Char) : Bool := "\\.+*?()|[]\x7b\x7d^$#&-~".toList.contains c

/-- The expression that matches a text literally. -/
def escape : List Char → List Char
  | [] => []
  | c :: cs => if isMeta c then '\\' :: c :: escape cs else c :: escape cs

/-- Put a text before the first that is not longer in bytes. -/
def insertByLength (text : List Char) : List (List Char) → List (List Char)
  | [] => [text]
  | other :: rest =>
    if Text.utf8Length text < Text.utf8Length other then other :: insertByLength text rest
    else text :: other :: rest

/-- The texts, longer ones first, those of one length in their own order. -/
def longestFirst (texts : List (List Char)) : List (List Char) :=
  texts.foldr insertByLength []

/-- The expression that matches any of some texts, and prefers longer ones. -/
def literalChoice (texts : List (List Char)) : List Char :=
  List.intercalate ['|'] ((longestFirst texts).map escape)

/-- The expression as a part of its own, in which lines have a start and an end. -/
def inLines (source : List Char) : List Char :=
  "(?m:".toList ++ source ++ [')']

inductive Escape where
  | char (c : Char)
  | set (chars : CharSet)
  | assertion (condition : Assertion)
deriving DecidableEq

namespace Escape

variable (f : Flags)

def isHex (c : Char) : Bool :=
  c.isDigit || ('a' ≤ c && c ≤ 'f') || ('A' ≤ c && c ≤ 'F')

def hexValue (c : Char) : Nat :=
  if c.isDigit then c.toNat - '0'.toNat
  else if 'a' ≤ c then c.toNat - 'a'.toNat + 10
  else c.toNat - 'A'.toNat + 10

def ofHex (digits : List Char) : Except SyntaxError Char :=
  let code := digits.foldl (fun n c => n * 16 + hexValue c) 0
  if digits ≠ [] ∧ code.isValidChar then .ok (Char.ofNat code) else .error .codeInvalid

/-- The character given by its number: in braces, or in exactly `width` digits. Without Unicode a
number of two digits stands for a byte, which must be ASCII. -/
def readCode (width : Nat) (cs : List Char) : Except SyntaxError (Char × List Char) :=
  match f.skip cs with
  | '{' :: rest =>
    match f.span isHex rest with
    | (digits, '}' :: rest) => do
      let c ← ofHex digits
      return (c, rest)
    | _ => .error .codeInvalid
  | cs =>
    let (digits, rest) := f.spanFrom isHex false width cs
    if digits.length = width then do
      let c ← ofHex digits
      if width = 2 && !f.unicode && 0x80 ≤ c.toNat then .error .beyondAscii
      return (c, rest)
    else
      .error .codeInvalid

/-- Cut a text at the first place where `mark` stands. -/
def cutAt? (mark : List Char) : List Char → Option (List Char × List Char)
  | [] => none
  | c :: cs =>
    if mark.isPrefixOf (c :: cs) then some ([], (c :: cs).drop mark.length)
    else (cutAt? mark cs).map fun (left, right) => (c :: left, right)

/-- The characters with a property. A kind of property and its value may be joined in three ways,
which all mean the same: whether the characters without the property are meant is said before the
name. -/
def propertySet? (name : List Char) : Option CharSet :=
  let known := match cutAt? ['!', '='] name <|> cutAt? [':'] name <|> cutAt? ['='] name with
    | some (kind, value) => Unicode.valued? kind value
    | none => Unicode.named? name
  known <|> f.names name

def property (negated : Bool) (name : List Char) : Except SyntaxError CharSet :=
  if f.unicode then
    match propertySet? f name with
    | some s => f.classSet negated s
    | none => .error (.propertyUnknown (String.ofList name))
  else
    .error .beyondAscii

/-- The set of a property, which is named by one letter or in braces. -/
def readProperty (negated : Bool) (cs : List Char) : Except SyntaxError (CharSet × List Char) :=
  match f.skip cs with
  | [] => .error .escapeUnfinished
  | '{' :: rest =>
    match f.span (· ≠ '}') rest with
    | (name, '}' :: rest) => do
      let s ← property f negated name
      return (s, rest)
    | _ => .error .escapeUnfinished
  | '\\' :: _ => .error (.propertyUnknown "\\")
  | c :: rest => do
    let s ← property f negated [c]
    return (s, rest)

/-- What follows the escape for the edge of a word: a kind of edge in braces, or nothing that
belongs to it. A brace that does not begin with a letter opens the bounds of a repetition. -/
def readWordEdge (cs : List Char) : Except SyntaxError (WordEdge × List Char) :=
  let isNamePart (c : Char) : Bool := c.isAlpha || c = '-'
  match cs with
  | '{' :: rest =>
    match f.skip rest with
    | [] => .error .wordEdgeInvalid
    | c :: more =>
      if isNamePart c then
        match f.span isNamePart (c :: more) with
        | (name, '}' :: rest) =>
          match String.ofList name with
          | "start" => .ok (.start, rest)
          | "end" => .ok (.stop, rest)
          | "start-half" => .ok (.startHalf, rest)
          | "end-half" => .ok (.stopHalf, rest)
          | _ => .error .wordEdgeInvalid
        | _ => .error .wordEdgeInvalid
      else
        .ok (.boundary, cs)
  | cs => .ok (.boundary, cs)

def read : List Char → Except SyntaxError (Escape × List Char)
  | [] => .error .escapeUnfinished
  | c :: cs =>
    if c.isDigit then .error .backreference
    else
      match c with
      | 'x' => do let (c, cs) ← readCode f 2 cs; return (.char c, cs)
      | 'u' => do let (c, cs) ← readCode f 4 cs; return (.char c, cs)
      | 'U' => do let (c, cs) ← readCode f 8 cs; return (.char c, cs)
      | 'p' => do let (s, cs) ← readProperty f false cs; return (.set s, cs)
      | 'P' => do let (s, cs) ← readProperty f true cs; return (.set s, cs)
      | 'a' => .ok (.char '\x07', cs)
      | 'f' => .ok (.char '\x0C', cs)
      | 't' => .ok (.char '\t', cs)
      | 'n' => .ok (.char '\n', cs)
      | 'r' => .ok (.char '\r', cs)
      | 'v' => .ok (.char '\x0B', cs)
      | 'A' => .ok (.assertion .textStart, cs)
      | 'z' => .ok (.assertion .textEnd, cs)
      | 'b' => do let (edge, cs) ← readWordEdge f cs; return (.assertion (f.wordEdge edge), cs)
      | 'B' => .ok (.assertion (f.wordEdge .noBoundary), cs)
      | '<' => .ok (.assertion (f.wordEdge .start), cs)
      | '>' => .ok (.assertion (f.wordEdge .stop), cs)
      | c =>
        match f.shorthand? c, f.shorthand? c.toLower with
        | some s, _ => do let s ← f.polarity false s; return (.set s, cs)
        | none, some s => do let s ← f.polarity true s; return (.set s, cs)
        | none, none =>
          if c.toNat < 0x80 && !c.isAlphanum then .ok (.char c, cs) else .error (.escapeUnknown c)

end Escape

end Lexing.Regex
