import Lexing.CharSet

/-!
# Blanks and invisible characters

The characters that separate others or are not seen at all, as of version 16 of the Unicode
character database.
-/

namespace Lexing.Unicode

/-- Blanks of some width. -/
def spaceSeparator : CharSet := .ofTable [
  (0x20, 0x20), (0xA0, 0xA0), (0x1680, 0x1680), (0x2000, 0x200A), (0x202F, 0x202F),
  (0x205F, 0x205F), (0x3000, 0x3000)]

def lineSeparator : CharSet := .ofTable [
  (0x2028, 0x2028)]

def paragraphSeparator : CharSet := .ofTable [
  (0x2029, 0x2029)]

def control : CharSet := .ofTable [
  (0x0, 0x1F), (0x7F, 0x9F)]

/-- Characters that are not seen but steer their neighbours. -/
def format : CharSet := .ofTable [
  (0xAD, 0xAD), (0x600, 0x605), (0x61C, 0x61C), (0x6DD, 0x6DD), (0x70F, 0x70F), (0x890, 0x891),
  (0x8E2, 0x8E2), (0x180E, 0x180E), (0x200B, 0x200F), (0x202A, 0x202E), (0x2060, 0x2064),
  (0x2066, 0x206F), (0xFEFF, 0xFEFF), (0xFFF9, 0xFFFB), (0x110BD, 0x110BD), (0x110CD, 0x110CD),
  (0x13430, 0x1343F), (0x1BCA0, 0x1BCA3), (0x1D173, 0x1D17A), (0xE0001, 0xE0001),
  (0xE0020, 0xE007F)]

/-- Characters whose meaning is left to private agreement. -/
def privateUse : CharSet := .ofTable [
  (0xE000, 0xF8FF), (0xF0000, 0xFFFFD), (0x100000, 0x10FFFD)]

/-- White space: the blanks, the tabs and all that ends a line. -/
def whiteSpace : CharSet := .ofTable [
  (0x9, 0xD), (0x20, 0x20), (0x85, 0x85), (0xA0, 0xA0), (0x1680, 0x1680), (0x2000, 0x200A),
  (0x2028, 0x2029), (0x202F, 0x202F), (0x205F, 0x205F), (0x3000, 0x3000)]

end Lexing.Unicode
