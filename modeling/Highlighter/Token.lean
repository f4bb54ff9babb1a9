import Highlighter.Text

/-!
# Tokens

A token is a classified part of a source: its category, its text, and the byte
positions where it starts and ends. Nothing ties the text to the positions here.
`covers` is the check that tokens tile a source, and `detokenize` puts their texts
together again.
-/

namespace Highlighter

/-- The lexical classes of tokens. -/
inductive Category where
  /-- A word with a meaning of its own. -/
  | keyword
  /-- An identifier: a field, a key, an item of a list, a subcommand. -/
  | identifier
  /-- A value given literally. -/
  | string
  /-- One of a closed set of values, or an escape. -/
  | constant
  /-- An operator. -/
  | operator
  /-- A separator. -/
  | punctuation
  /-- A comment. -/
  | comment
  /-- Blanks and line ends. -/
  | whitespace
  /-- What looks like a known construct of the wrong shape. -/
  | error
  /-- Anything else. -/
  | text
  deriving DecidableEq, Repr

namespace Category

/-- Every category. -/
def all : List Category :=
  [keyword, identifier, string, constant, operator, punctuation, comment, whitespace, error, text]

/-- The plain name. -/
def name : Category → String
  | keyword => "keyword"
  | identifier => "variable"
  | string => "string"
  | constant => "constant"
  | operator => "operator"
  | punctuation => "punctuation"
  | comment => "comment"
  | whitespace => "whitespace"
  | error => "error"
  | text => "text"

/-- The name in dumps that are meant for other programs. -/
def dataName : Category → String
  | string => "string-literal"
  | text => "plain-text"
  | c => c.name

/-- The names in documents. -/
def documentNames : List (String × Category) := all.map fun c => (c.dataName, c)

/-- The class in style sheets. -/
def cssClass : Category → String
  | keyword => "k"
  | identifier => "nv"
  | string => "s"
  | constant => "no"
  | operator => "o"
  | punctuation => "p"
  | comment => "c"
  | whitespace => "w"
  | error => "err"
  | text => "x"

/-- The category with a plain name. -/
def ofName? (s : String) : Option Category := all.find? (·.name == s)

end Category

/-- A classified part of a source. -/
structure Token where
  /-- The class of the token. -/
  category : Category
  /-- The byte position where it starts. -/
  start : Nat
  /-- The byte position where it ends. -/
  stop : Nat
  /-- Its text. -/
  text : Text
  deriving DecidableEq, Repr

/-- The texts of tokens, put together. -/
def detokenize (tokens : List Token) : Text := tokens.flatMap (·.text)

/-- Whether tokens tile the part of a source from a position on. -/
def coversFrom (source : Text) : Nat → List Token → Bool
  | position, [] => position == source.size
  | position, t :: rest =>
      t.start == position && Text.slice? t.start t.stop source == some t.text &&
        coversFrom source t.stop rest

/-- Whether tokens tile a source: each starts where the one before it ends, has the text at
its positions, and the last ends where the source ends. -/
def covers (tokens : List Token) (source : Text) : Bool := coversFrom source 0 tokens

end Highlighter
