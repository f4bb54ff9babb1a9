import Highlighter.Text

/-!
# JSON values

The values that a dump holds, and their printed form over several lines. A string
is quoted with the short escapes where JSON has them and with `\u` and four digits
for the other control characters. Everything else is written as it is.
-/

namespace Highlighter

/-- A JSON value of the kinds that occur in dumps. -/
inductive Json where
  /-- A string. -/
  | str (t : Text)
  /-- A number that counts something. -/
  | num (n : Nat)
  /-- An array. -/
  | arr (items : List Json)
  /-- An object, its fields in order. -/
  | obj (fields : List (Text × Json))

namespace Json

/-- The hexadecimal digit of a number below sixteen, in lower case. -/
def hexDigit (n : Nat) : Char := Nat.digitChar n

/-- A character in a quoted string. -/
def escape (c : Char) : Text :=
  if c == '"' then ['\\', '"']
  else if c == '\\' then ['\\', '\\']
  else if c == '\x08' then ['\\', 'b']
  else if c == '\t' then ['\\', 't']
  else if c == '\n' then ['\\', 'n']
  else if c == '\x0c' then ['\\', 'f']
  else if c == '\r' then ['\\', 'r']
  else if c.toNat < 32 then ['\\', 'u', '0', '0', hexDigit (c.toNat / 16), hexDigit (c.toNat % 16)]
  else [c]

/-- A quoted string. -/
def quote (t : Text) : Text := '"' :: t.flatMap escape ++ ['"']

/-- The line break and the indentation at a depth. -/
def lineAt (depth : Nat) : Text := '\n' :: List.replicate (2 * depth) ' '

mutual

/-- A value over several lines, its inner lines indented to a depth. -/
def pretty (depth : Nat) : Json → Text
  | str t => quote t
  | num n => Text.ofNat n
  | arr [] => ['[', ']']
  | arr (item :: rest) =>
      '[' :: lineAt (depth + 1) ++ pretty (depth + 1) item ++ prettyItems (depth + 1) rest ++
        lineAt depth ++ [']']
  | obj [] => ['\x7b', '\x7d']
  | obj (field :: rest) =>
      '\x7b' :: lineAt (depth + 1) ++ prettyField (depth + 1) field ++
        prettyFields (depth + 1) rest ++ lineAt depth ++ ['\x7d']

/-- The items after the first. -/
def prettyItems (depth : Nat) : List Json → Text
  | [] => []
  | item :: rest => ',' :: lineAt depth ++ pretty depth item ++ prettyItems depth rest

/-- The fields after the first. -/
def prettyFields (depth : Nat) : List (Text × Json) → Text
  | [] => []
  | field :: rest => ',' :: lineAt depth ++ prettyField depth field ++ prettyFields depth rest

/-- A field. -/
def prettyField (depth : Nat) : Text × Json → Text
  | (key, value) => quote key ++ [':', ' '] ++ pretty depth value

end

/-- A value over several lines. -/
def print (j : Json) : Text := j.pretty 0

end Json

end Highlighter
