import Highlighter.Regex.Escape

/-!
# Quoting and word lists

`quote` writes a text so that it stands for itself in a regular expression. `words`
writes the choice between some words, the longer before the shorter, so that a
word never loses to its own beginning. Words of one length in bytes are in the
order of their characters, and each word is written once. So the written form
depends on the set of the words alone.
-/

namespace Highlighter.Regex

/-- A text with a backslash before each character that has a meaning of its own. -/
def quote : Text → Text
  | [] => []
  | c :: rest => if metaChars.contains c then '\\' :: c :: quote rest else c :: quote rest

/-- Whether a word is written before another: by size from the largest, then by characters. -/
def writtenBefore (s t : Text) : Bool :=
  t.size < s.size || (s.size == t.size && decide (s < t))

/-- A list in written order with one more word, unless it is there already. -/
def insertWord (w : Text) : List Text → List Text
  | [] => [w]
  | v :: rest =>
      if writtenBefore w v then w :: v :: rest
      else if w == v then v :: rest
      else v :: insertWord w rest

/-- The distinct words of a list, in written order. -/
def arrange (list : List Text) : List Text := list.foldr insertWord []

/-- The choice between the words of a list, as a regular expression. -/
def words (list : List Text) : Text :=
  "(?:".toList ++ Text.join ['|'] ((arrange list).map quote) ++ [')']

end Highlighter.Regex
