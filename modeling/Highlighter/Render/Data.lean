import Highlighter.Json.Basic
import Highlighter.Token

/-!
# The JSON dump

An array with one object for each token: its category by the name used in dumps,
its text, and its span.
-/

namespace Highlighter

/-- A token as a JSON value. -/
def Token.toJson (t : Token) : Json :=
  .obj [
    ("category".toList, .str t.category.dataName.toList),
    ("text".toList, .str t.text),
    ("span".toList, .obj [("start".toList, .num t.start), ("end".toList, .num t.stop)])]

/-- Tokens as printed JSON. -/
def Json.render (tokens : List Token) : Text := (Json.arr (tokens.map Token.toJson)).print

end Highlighter
