import Highlighter.Text
import Highlighter.Unicode.Escaped

/-!
# Quoted texts

A text in quotes for a reader who has to see every character. The backslash, the
quote, the line controls and the characters that are not shown are escaped, so a
quoted text never breaks its line.
-/

namespace Highlighter.Quoted

/-- A character in a quoted text. -/
def escape (c : Char) : Text :=
  if c == '\x00' then ['\\', '0']
  else if c == '\t' then ['\\', 't']
  else if c == '\r' then ['\\', 'r']
  else if c == '\n' then ['\\', 'n']
  else if c == '"' then ['\\', '"']
  else if c == '\\' then ['\\', '\\']
  else if Unicode.escapedRanges.holds c.toNat then
    ['\\', 'u', '\x7b'] ++ Nat.toDigits 16 c.toNat ++ ['\x7d']
  else [c]

/-- A text in quotes. -/
def quote (t : Text) : Text := '"' :: t.flatMap escape ++ ['"']

end Highlighter.Quoted
