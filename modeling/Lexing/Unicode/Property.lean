import Lexing.Unicode.Blank
import Lexing.Unicode.CasedLetter
import Lexing.Unicode.Extra
import Lexing.Unicode.Letter
import Lexing.Unicode.Mark
import Lexing.Unicode.Number
import Lexing.Unicode.Script
import Lexing.Unicode.Sign

/-!
# Properties of characters

A property is a set of characters with a name. Names are compared loosely: case, blanks, hyphens and
underscores do not matter, and neither does a leading "is".
-/

namespace Lexing.Unicode

/-- Letters that come in several cases. -/
def casedLetter : CharSet := uppercaseLetter ∪ lowercaseLetter ∪ titlecaseLetter

def letter : CharSet := casedLetter ∪ modifierLetter ∪ otherLetter

def mark : CharSet := nonspacingMark ∪ spacingMark ∪ enclosingMark

def number : CharSet := decimalDigit ∪ letterNumber ∪ otherNumber

def punctuation : CharSet :=
  connectorPunctuation ∪ dashPunctuation ∪ openPunctuation ∪ closePunctuation ∪
    initialPunctuation ∪ finalPunctuation ∪ otherPunctuation

def symbol : CharSet := mathSymbol ∪ currencySymbol ∪ modifierSymbol ∪ otherSymbol

def separator : CharSet := spaceSeparator ∪ lineSeparator ∪ paragraphSeparator

/-- The characters that can be seen in print. -/
def visible : CharSet := letter ∪ mark ∪ number ∪ punctuation ∪ symbol

/-- The characters that are neither seen nor separate others. -/
def other : CharSet := (visible ∪ separator).complement

/-- The characters to which no meaning has been given. -/
def unassigned : CharSet := (visible ∪ separator ∪ control ∪ format ∪ privateUse).complement

def ascii : CharSet := .range '\x00' '\x7F'

def alphabetic : CharSet := letter ∪ letterNumber ∪ otherAlphabetic

def lowercase : CharSet := lowercaseLetter ∪ otherLowercase

def uppercase : CharSet := uppercaseLetter ∪ otherUppercase

def cased : CharSet := lowercase ∪ uppercase ∪ titlecaseLetter

/-- The characters that attach to the one before them. -/
def graphemeExtend : CharSet := nonspacingMark ∪ enclosingMark ∪ otherGraphemeExtend

/-- The two invisible characters that join or separate their neighbours. -/
def joinControl : CharSet := .range '\u200C' '\u200D'

/-- The characters that words are made of. -/
def wordPart : CharSet := alphabetic ∪ mark ∪ decimalDigit ∪ connectorPunctuation ∪ joinControl

def idStart : CharSet := (letter ∪ letterNumber ∪ otherIdStart) \ notIdStart

def idContinue : CharSet :=
  idStart ∪ nonspacingMark ∪ spacingMark ∪ decimalDigit ∪ connectorPunctuation ∪ otherIdContinue

def xidStart : CharSet := idStart \ notXidStart

def xidContinue : CharSet := idContinue \ notXidContinue

def asciiHexDigit : CharSet := .ofTable [(0x30, 0x39), (0x41, 0x46), (0x61, 0x66)]

/-- The digits of hexadecimal numbers, the wide forms included. -/
def hexDigit : CharSet :=
  asciiHexDigit ∪ .ofTable [(0xFF10, 0xFF19), (0xFF21, 0xFF26), (0xFF41, 0xFF46)]

/-- The general categories and unions of them, with their loose names. -/
def categories : List (List String × CharSet) := [
  (["any"], .any),
  (["assigned"], unassigned.complement),
  (["ascii"], ascii),
  (["lu", "uppercaseletter"], uppercaseLetter),
  (["ll", "lowercaseletter"], lowercaseLetter),
  (["lt", "titlecaseletter"], titlecaseLetter),
  (["lc", "casedletter"], casedLetter),
  (["lm", "modifierletter"], modifierLetter),
  (["lo", "otherletter"], otherLetter),
  (["l", "letter"], letter),
  (["mn", "nonspacingmark"], nonspacingMark),
  (["mc", "spacingmark"], spacingMark),
  (["me", "enclosingmark"], enclosingMark),
  (["m", "mark", "combiningmark"], mark),
  (["nd", "decimalnumber", "digit"], decimalDigit),
  (["nl", "letternumber"], letterNumber),
  (["no", "othernumber"], otherNumber),
  (["n", "number"], number),
  (["pc", "connectorpunctuation"], connectorPunctuation),
  (["pd", "dashpunctuation"], dashPunctuation),
  (["ps", "openpunctuation"], openPunctuation),
  (["pe", "closepunctuation"], closePunctuation),
  (["pi", "initialpunctuation"], initialPunctuation),
  (["pf", "finalpunctuation"], finalPunctuation),
  (["po", "otherpunctuation"], otherPunctuation),
  (["p", "punctuation", "punct"], punctuation),
  (["sm", "mathsymbol"], mathSymbol),
  (["sc", "currencysymbol"], currencySymbol),
  (["sk", "modifiersymbol"], modifierSymbol),
  (["so", "othersymbol"], otherSymbol),
  (["s", "symbol"], symbol),
  (["zs", "spaceseparator"], spaceSeparator),
  (["zl", "lineseparator"], lineSeparator),
  (["zp", "paragraphseparator"], paragraphSeparator),
  (["z", "separator"], separator),
  (["cc", "control", "cntrl"], control),
  (["cf", "format"], format),
  (["cn", "unassigned"], unassigned),
  (["co", "privateuse"], privateUse),
  (["c", "other"], other)]

/-- Further sets that an engine knows, each by the text that names it. -/
abbrev Names := List Char → Option CharSet

/-- The properties that are no categories, with their loose names. Others, such as that of signs of
mathematics, are left to the engine. -/
def properties : List (List String × CharSet) := [
  (["alphabetic", "alpha"], alphabetic),
  (["lowercase", "lower"], lowercase),
  (["uppercase", "upper"], uppercase),
  (["cased"], cased),
  (["whitespace", "wspace", "space"], whiteSpace),
  (["graphemeextend", "grext"], graphemeExtend),
  (["joincontrol", "joinc"], joinControl),
  (["idstart", "ids"], idStart),
  (["idcontinue", "idc"], idContinue),
  (["xidstart", "xids"], xidStart),
  (["xidcontinue", "xidc"], xidContinue),
  (["asciihexdigit", "ahex"], asciiHexDigit),
  (["hexdigit", "hex"], hexDigit),
  (["emoji"], emoji)]

/-- A name without what is ignored when names are compared. Of "isc" the beginning is kept, since it
names a property that has nothing to do with the category "c". -/
def looseName (name : List Char) : String :=
  let (stem, cut) := match name with
    | a :: b :: rest =>
      if (a = 'i' || a = 'I') && (b = 's' || b = 'S') then (rest, true) else (name, false)
    | _ => (name, false)
  let kept := stem.filter fun c => c.toNat < 0x80 && c ≠ ' ' && c ≠ '_' && c ≠ '-'
  let kept := kept.map Char.toLower
  if cut && kept = ['c'] then "isc" else String.ofList kept

/-- The set with the given loose name. -/
def find? (table : List (List String × CharSet)) (name : String) : Option CharSet :=
  (table.find? fun (names, _) => names.contains name).map (·.2)

/-- The characters with a property that is given by its name alone: a property, a category or a
script. -/
def named? (name : List Char) : Option CharSet :=
  let name := looseName name
  find? properties name <|> find? categories name <|> find? Script.all name

/-- The characters of a category or a script that is given together with the word for its kind. All
other kinds, such as that of ages, are left to the names of the engine. -/
def valued? (kind value : List Char) : Option CharSet :=
  let value := looseName value
  match looseName kind with
  | "gc" | "generalcategory" => find? categories value
  | "sc" | "script" => find? Script.all value
  | _ => none

end Lexing.Unicode

namespace Lexing

def isBlank (c : Char) : Bool := Unicode.whiteSpace.contains c

end Lexing
