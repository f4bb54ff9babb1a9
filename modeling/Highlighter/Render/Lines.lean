import Highlighter.Text.Quoted
import Highlighter.Token

/-!
# The line dump

One line for each token: its category padded to twelve characters, its positions,
and its text in quotes.
-/

namespace Highlighter.Lines

/-- The line of a token. -/
def line (t : Token) : Text :=
  Text.padRight 12 t.category.name.toList ++ ' ' :: Text.ofNat t.start ++ ['.', '.'] ++
    Text.ofNat t.stop ++ ' ' :: Quoted.quote t.text ++ ['\n']

/-- The lines of tokens. -/
def render (tokens : List Token) : Text := tokens.flatMap line

end Highlighter.Lines
