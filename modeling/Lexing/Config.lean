import Lexing.Text.Snippet

/-!
# Settings of a lexer
-/

namespace Lexing

/-- What to do with a rule that may match a line break but does not count line breaks. After such a
match lines and columns are wrong. -/
inductive LineBreakPolicy where
  | allow
  | warn
  | deny
deriving DecidableEq

/-- The settings with which a lexer is compiled. -/
structure Config where
  lineBreaks : LineBreakPolicy := .warn
  /-- Look up single characters before trying regular expressions, where this makes no difference to
  what is matched. -/
  quickLookup : Bool := true
  /-- How many lines a message shows on each side of the line it is about. -/
  contextLines : UInt64 := Text.Snippet.defaultContext
deriving DecidableEq

namespace Config

/-- No rule may match line breaks without counting them. -/
def strict : Config := { lineBreaks := .deny }

def withLineBreaks (config : Config) (policy : LineBreakPolicy) : Config :=
  { config with lineBreaks := policy }

end Config

end Lexing
