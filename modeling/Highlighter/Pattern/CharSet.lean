import Highlighter.Unicode.Ranges
import Highlighter.Unicode.Word
import Highlighter.Unicode.Folding
import Highlighter.Unicode.Category

/-!
# Sets of characters

A character set is the first-order form of what one position of a pattern
accepts. The sets of word characters, decimal digits and blanks are constructors
of their own, so that a pattern that names one stays small. `CharSet.holds` is
their meaning. `anyCase` closes a set under simple case folding and is applied
before a complement, never after.
-/

namespace Highlighter

/-- A set of characters. -/
inductive CharSet where
  /-- No character. -/
  | none
  /-- One character. -/
  | only (c : Char)
  /-- The characters between two, both included. -/
  | between (lo hi : Char)
  /-- The characters of words. -/
  | word
  /-- The decimal digits of every script. -/
  | digit
  /-- The blank characters. -/
  | space
  /-- The characters of a table. -/
  | table (ranges : Unicode.Ranges)
  /-- The characters of either set. -/
  | union (s t : CharSet)
  /-- The characters of both sets. -/
  | inter (s t : CharSet)
  /-- The characters outside a set. -/
  | complement (s : CharSet)
  /-- The characters equal up to case to one of a set. -/
  | anyCase (s : CharSet)
  /-- The characters equal to one of a set up to the case of ASCII letters. -/
  | anyAsciiCase (s : CharSet)
  deriving DecidableEq, Repr

/-- The blank characters: U+0009 to U+000D, the space, and the blanks beyond ASCII. -/
def isBlank (c : Char) : Bool :=
  c == ' ' || ('\t' ≤ c && c ≤ '\x0d') || c == '\u0085' || c == '\u00a0' || c == '\u1680' ||
    ('\u2000' ≤ c && c ≤ '\u200a') || c == '\u2028' || c == '\u2029' || c == '\u202f' ||
    c == '\u205f' || c == '\u3000'

/-- The characters of words. -/
def isWordChar (c : Char) : Bool := Unicode.wordRanges.holds c.toNat

/-- The ASCII letter of the other case, and any other character itself. -/
def swapAsciiCase (c : Char) : Char := if c.isUpper then c.toLower else c.toUpper

namespace CharSet

/-- Whether a character is in a set. -/
def holds : CharSet → Char → Bool
  | none, _ => false
  | only d, c => c == d
  | between lo hi, c => lo ≤ c && c ≤ hi
  | word, c => isWordChar c
  | digit, c => Unicode.Category.decimalNumber.holds c.toNat
  | space, c => isBlank c
  | table ranges, c => ranges.holds c.toNat
  | union s t, c => holds s c || holds t c
  | inter s t, c => holds s c && holds t c
  | complement s, c => !holds s c
  | anyCase s, c => (Unicode.caseVariants c).any (holds s)
  | anyAsciiCase s, c => holds s c || holds s (swapAsciiCase c)

/-- Every character. -/
def all : CharSet := complement none

/-- The characters of a list. -/
def ofList : List Char → CharSet
  | [] => none
  | [c] => only c
  | c :: rest => union (only c) (ofList rest)

/-- The characters of the first set that are not in the second. -/
def diff (s t : CharSet) : CharSet := inter s (complement t)

/-- The ASCII characters. -/
def ascii : CharSet := between '\x00' '\x7f'

/-- The ASCII decimal digits. -/
def asciiDigit : CharSet := between '0' '9'

/-- The ASCII blanks. -/
def asciiSpace : CharSet := union (only ' ') (between '\t' '\x0d')

/-- The ASCII letters. -/
def asciiLetter : CharSet := union (between 'A' 'Z') (between 'a' 'z')

/-- The ASCII letters, digits and `_`. -/
def asciiWord : CharSet := union asciiLetter (union asciiDigit (only '_'))

end CharSet

end Highlighter
