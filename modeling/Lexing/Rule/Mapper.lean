/-!
# What a rule makes of a text

The kind of a token may depend on its text: a kind mapper says how, and lists the kinds it may give.
A keyword mapper gives each of some spellings a kind of its own. The value of a token may depend on
the text too; the usual ways to get one are listed here.
-/

namespace Lexing

/-- Gives texts their kinds. A text without a kind here keeps the kind of its rule. -/
structure KindMapper where
  kindOf : String → Option String
  /-- The kinds that are said to be given. -/
  kinds : List String := []

namespace KindMapper

/-- Say that some more kinds may be given. -/
def addKinds (m : KindMapper) (kinds : List String) : KindMapper :=
  { m with kinds := m.kinds ++ kinds }

def const (kind : String) : KindMapper := { kindOf := fun _ => some kind }

def never : KindMapper := { kindOf := fun _ => none }

/-- The spellings listed so far with their kinds, the latest first, and the kinds in order. -/
structure Spellings where
  table : List (String × String) := []
  kinds : List String := []

/-- List the spellings of a kind. -/
def Spellings.add (s : Spellings) (kind : String) (spellings : List String) : Spellings where
  table := spellings.foldl (fun table spelling => (spelling, kind) :: table) s.table
  kinds := if s.kinds.contains kind then s.kinds else s.kinds ++ [kind]

/-- Each spelling has the kind under which it is listed last. -/
def keywords (entries : List (String × List String)) : KindMapper :=
  let all := entries.foldl (fun s (kind, spellings) => s.add kind spellings) ({} : Spellings)
  addKinds { kindOf := fun text => all.table.lookup text } all.kinds

@[simp] theorem kindOf_addKinds (m : KindMapper) (kinds : List String) :
    (m.addKinds kinds).kindOf = m.kindOf := rfl

@[simp] theorem kinds_addKinds (m : KindMapper) (kinds : List String) :
    (m.addKinds kinds).kinds = m.kinds ++ kinds := rfl

end KindMapper

/-- Makes the value of a token from its text. -/
abbrev Transform := String → String

namespace Transform

/-- Replace the occurrences of a text, from left to right and without overlap. The number says how
many characters still belong to the last occurrence. An empty text occurs around every character. -/
def replaceFrom (old new : List Char) : Nat → List Char → List Char
  | _, [] => if old.isEmpty then new else []
  | n + 1, _ :: cs => replaceFrom old new n cs
  | 0, c :: cs =>
    if old.isEmpty then new ++ c :: replaceFrom old new 0 cs
    else if old.isPrefixOf (c :: cs) then new ++ replaceFrom old new (old.length - 1) cs
    else c :: replaceFrom old new 0 cs

def const (value : String) : Transform := fun _ => value

def replace (old new : String) : Transform := fun text =>
  String.ofList (replaceFrom old.toList new.toList 0 text.toList)

/-- ASCII letters in their capital forms. -/
def upper : Transform := fun text => String.ofList (text.toList.map Char.toUpper)

def reverse : Transform := fun text => String.ofList text.toList.reverse

def strip : Transform := fun text => String.ofList text.toList.tail.dropLast

def count : Transform := fun text => toString text.toList.length

end Transform

end Lexing
