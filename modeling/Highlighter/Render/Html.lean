import Highlighter.Token

/-!
# HTML

Each token becomes a `span` whose class is a prefix and the class of its category.
Whitespace is written without a `span`, so that the lines stay readable inside
`pre`. Five characters are escaped, which is enough for element content and for
quoted attribute values.
-/

namespace Highlighter.Html

/-- A character as it is written. -/
def escapeChar (c : Char) : Text :=
  if c == '&' then "&amp;".toList
  else if c == '<' then "&lt;".toList
  else if c == '>' then "&gt;".toList
  else if c == '"' then "&quot;".toList
  else if c == '\'' then "&#39;".toList
  else [c]

/-- A text with the five special characters escaped. -/
def escape (t : Text) : Text := t.flatMap escapeChar

/-- The settings of the markup. -/
structure Options where
  /-- What every class name starts with. -/
  classPrefix : Text := []
  /-- Whether the whole is put into `pre` and `code`. -/
  wrap : Bool := true
  deriving DecidableEq, Repr

/-- The opening of the whole. -/
def opening (options : Options) : Text :=
  if options.wrap then
    "<pre class=\"".toList ++ escape options.classPrefix ++ "highlight\"><code>".toList
  else []

/-- The closing of the whole. -/
def closing (options : Options) : Text :=
  if options.wrap then "</code></pre>".toList else []

/-- The markup of a token. -/
def token (options : Options) (t : Token) : Text :=
  if t.category == .whitespace then escape t.text
  else
    "<span class=\"".toList ++ escape options.classPrefix ++ t.category.cssClass.toList ++
      "\">".toList ++ escape t.text ++ "</span>".toList

/-- The markup of tokens. -/
def render (options : Options) (tokens : List Token) : Text :=
  opening options ++ tokens.flatMap (token options) ++ closing options

end Highlighter.Html
