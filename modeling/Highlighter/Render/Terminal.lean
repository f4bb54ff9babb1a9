import Highlighter.Token

/-!
# Terminal colors

Each token is written between the control sequences that set and reset its style.
A style with a color alone is reset by the default color, one with an emphasis by
the sequence that resets everything. Whitespace and plain text have no style, so
the sequences stay off line breaks.
-/

namespace Highlighter.Terminal

/-- The colors in use. -/
inductive Color where
  /-- Dark grey. -/
  | darkGrey
  /-- Red. -/
  | red
  /-- Green. -/
  | green
  /-- Yellow. -/
  | yellow
  /-- Magenta. -/
  | magenta
  /-- Cyan. -/
  | cyan
  /-- White. -/
  | white
  deriving DecidableEq, Repr

/-- The number of a color in the palette of a terminal. -/
def Color.number : Color → Nat
  | darkGrey => 8
  | red => 9
  | green => 10
  | yellow => 11
  | magenta => 13
  | cyan => 14
  | white => 15

/-- The kinds of emphasis in use. -/
inductive Emphasis where
  /-- Heavy strokes. -/
  | bold
  /-- Slanted letters. -/
  | italic
  /-- A line under the text. -/
  | underlined
  deriving DecidableEq, Repr

/-- The number of an emphasis in a control sequence. -/
def Emphasis.number : Emphasis → Nat
  | bold => 1
  | italic => 3
  | underlined => 4

/-- The style of a piece of text. -/
structure Style where
  /-- The color of the text. -/
  color : Color
  /-- An emphasis besides. -/
  emphasis : Option Emphasis
  deriving DecidableEq, Repr

/-- The style of a category, if it has one. -/
def style? : Category → Option Style
  | .keyword => some ⟨.magenta, some .bold⟩
  | .identifier => some ⟨.cyan, none⟩
  | .string => some ⟨.green, none⟩
  | .constant => some ⟨.yellow, none⟩
  | .operator => some ⟨.white, some .bold⟩
  | .punctuation => some ⟨.darkGrey, none⟩
  | .comment => some ⟨.darkGrey, some .italic⟩
  | .whitespace => none
  | .error => some ⟨.red, some .underlined⟩
  | .text => none

/-- The control sequence with some parameters. -/
def sequence (parameters : Text) : Text := '\x1b' :: '[' :: parameters ++ ['m']

/-- The sequence that sets a color. -/
def setColor (c : Color) : Text := sequence ("38;5;".toList ++ Text.ofNat c.number)

/-- The sequence that sets an emphasis. -/
def setEmphasis (a : Emphasis) : Text := sequence (Text.ofNat a.number)

/-- A text in a style. -/
def styled (s : Style) (t : Text) : Text :=
  match s.emphasis with
  | none => setColor s.color ++ t ++ sequence "39".toList
  | some a => setColor s.color ++ setEmphasis a ++ t ++ sequence "0".toList

/-- A token in its style. -/
def token (t : Token) : Text :=
  match style? t.category with
  | none => t.text
  | some s => styled s t.text

/-- Tokens in their styles. -/
def render (tokens : List Token) : Text := tokens.flatMap token

end Highlighter.Terminal
