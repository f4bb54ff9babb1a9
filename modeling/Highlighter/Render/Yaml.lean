import Highlighter.Token
import Highlighter.Yaml.Scalar

/-!
# The YAML dump

A sequence with one mapping for each token: its category by the name used in dumps,
its text, and its span.
-/

namespace Highlighter.Yaml

/-- The item of a token. -/
def item (t : Token) : Text :=
  "- category: ".toList ++ t.category.dataName.toList ++
    "\n  text: ".toList ++ scalar t.text ++
    "  span:\n    start: ".toList ++ Text.ofNat t.start ++
    "\n    end: ".toList ++ Text.ofNat t.stop ++ ['\n']

/-- The dump of tokens. -/
def render (tokens : List Token) : Text :=
  if tokens.isEmpty then "[]\n".toList else tokens.flatMap item

end Highlighter.Yaml
