/-!
# Faults in written expressions

Each cause for which a text is no regular expression, and what a reader is told about it.
-/

namespace Lexing.Regex

/-- Why a text is no regular expression. -/
inductive SyntaxError where
  | groupUnclosed
  | groupUnopened
  | groupNameUnclosed
  | groupNameInvalid (name : String)
  | groupNameRepeated (name : String)
  | lookAround
  | flagsUnclosed
  | flagUnknown (flag : Char)
  | flagRepeated (flag : Char)
  | flagsDangling
  | nothingToRepeat
  | countUnclosed
  | countMissing
  | countTooLarge
  | countReversed
  | escapeUnfinished
  | escapeUnknown (c : Char)
  | backreference
  | codeInvalid
  | propertyUnknown (name : String)
  | wordEdgeInvalid
  | classUnclosed
  | classRangeReversed
  | classRangeEnd
  | classItem
  /-- The expression needs all of Unicode where only ASCII is matched. -/
  | beyondAscii
  | tooLong
  | nestedTooDeeply
  /-- The engine has no room for the expressions that are used together. -/
  | tooLarge
deriving DecidableEq

def SyntaxError.message : SyntaxError → String
  | groupUnclosed => "a group is not closed"
  | groupUnopened => "a group is closed that was not opened"
  | groupNameUnclosed => "the name of a group is not closed"
  | groupNameInvalid name => "not a name for a group: " ++ name
  | groupNameRepeated name => "two groups have the name " ++ name
  | lookAround => "look-around is not supported"
  | flagsUnclosed => "the flags of a group are not closed"
  | flagUnknown flag => "not a flag: " ++ flag.toString
  | flagRepeated flag => "a flag occurs twice: " ++ flag.toString
  | flagsDangling => "no flag follows the minus sign"
  | nothingToRepeat => "there is nothing to repeat"
  | countUnclosed => "the bounds of a repetition are not closed"
  | countMissing => "a bound of a repetition is missing"
  | countTooLarge => "a bound of a repetition is too large"
  | countReversed => "the bounds of a repetition are not in order"
  | escapeUnfinished => "an escape is not finished"
  | escapeUnknown c => "not an escape: " ++ c.toString
  | backreference => "references to groups are not supported"
  | codeInvalid => "not the number of a character"
  | propertyUnknown name => "not a property of characters: " ++ name
  | wordEdgeInvalid => "not a place relative to words"
  | classUnclosed => "a class of characters is not closed"
  | classRangeReversed => "the ends of a range are not in order"
  | classRangeEnd => "the end of a range is not a character"
  | classItem => "an assertion stands in a class of characters"
  | beyondAscii => "only ASCII can be matched here"
  | tooLong => "the expression is too long"
  | nestedTooDeeply => "the expression is nested too deeply"
  | tooLarge => "the expressions take too much room"

end Lexing.Regex
