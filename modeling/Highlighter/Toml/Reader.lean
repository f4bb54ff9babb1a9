import Highlighter.Text

/-!
# Readers

A reader takes its part from the front of a text and gives it with the rest. Where
it cannot go on it stops, and gives the text from that place on, so that a message
can tell the place.
-/

namespace Highlighter.Toml

/-- What reads a part from the front of a text. -/
abbrev Reader (α : Type) := Text → Except Text (α × Text)

namespace Reader

/-- Stops at a text. -/
def stop {α : Type} (t : Text) : Except Text α := .error t

/-- Reads a given beginning. -/
def exactly (start : Text) (t : Text) : Except Text Text :=
  match Text.stripStart? start t with
  | some rest => .ok rest
  | none => stop t

/-- Stops where there is nothing. -/
def orStop {α : Type} (t : Text) : Option α → Except Text α
  | some a => .ok a
  | none => stop t

/-- Whether a character may stand between the parts of a line. -/
def isBlank (c : Char) : Bool := c == ' ' || c == '\t'

/-- A text without blanks at its start. -/
def skipBlanks (t : Text) : Text := t.dropWhile isBlank

/-- The text after the end of a line, if a text starts with one. -/
def lineEnd? : Text → Option Text
  | '\n' :: rest => some rest
  | '\r' :: '\n' :: rest => some rest
  | _ => none

/-- Whether a character may stand in a comment or in a text without escapes. -/
def isPrintable (c : Char) : Bool := c == '\t' || (' ' ≤ c && c != '\x7f')

/-- The text after a comment, if a text starts with one. -/
def skipComment : Text → Text
  | '#' :: rest => rest.dropWhile isPrintable
  | t => t

/-- Reads the end of a line, with blanks and a comment before it. The end of the document is the
end of a line too. -/
def endOfLine (t : Text) : Except Text Text :=
  match skipComment (skipBlanks t) with
  | [] => .ok []
  | c :: rest => orStop (c :: rest) (lineEnd? (c :: rest))

/-- Reads blanks, comments and ends of lines, as long as there are any. A comment has to end with
its line. -/
def skipLines : Nat → Text → Except Text Text
  | 0, t => .ok t
  | fuel + 1, t =>
    match skipBlanks t with
    | '#' :: rest =>
      let after := rest.dropWhile isPrintable
      match lineEnd? after with
      | some rest => skipLines fuel rest
      | none => stop after
    | t =>
      match lineEnd? t with
      | some rest => skipLines fuel rest
      | none => .ok t

end Reader

end Highlighter.Toml
