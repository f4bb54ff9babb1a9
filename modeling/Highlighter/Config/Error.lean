import Highlighter.Config.Value
import Highlighter.Text.Quoted

/-!
# Configuration errors

The reasons why a configuration cannot be loaded, and their texts.
-/

namespace Highlighter.Config

/-- What is found where a value of another kind is expected. -/
inductive Found where
  /-- A value without parts. -/
  | scalar (s : Scalar)
  /-- A list. -/
  | array
  /-- A table. -/
  | table
  deriving DecidableEq, Repr

/-- What kind of value a value is. -/
def Value.found : Value → Found
  | scalar _ s => .scalar s
  | array _ _ => .array
  | table _ _ => .table

/-- What is found, in words. -/
def Found.describe : Found → Text
  | scalar .nil => "unit value".toList
  | scalar (.boolean b) => "boolean `".toList ++ Text.ofBool b ++ ['`']
  | scalar (.integer n) => "integer `".toList ++ Text.ofInt n ++ ['`']
  | scalar (.float d) => "floating point `".toList ++ d.toPointedText ++ ['`']
  | scalar (.string t) => "string ".toList ++ Quoted.quote t
  | array => "sequence".toList
  | table => "map".toList

/-- Why a configuration cannot be loaded. -/
inductive ConfigError where
  /-- The text of a key is wrong. -/
  | badKey (e : KeyError)
  /-- There is no file with a name. -/
  | notFound (name : Text)
  /-- A file does not hold a text. -/
  | notText
  /-- A file cannot be read beyond a line and a character in it. -/
  | badFile (file : Text) (line column : Nat)
  /-- A value cannot be turned into the kind that is expected at a place. -/
  | wrongKind (found : Found) (expected : String) (place : Text) (origin : Origin)
  /-- A value has no parts where a group of settings is expected. -/
  | notGroup (found : Found) (group : String)
  /-- A list has fewer items than a group has settings. -/
  | tooShort (length : Nat) (group : String) (settings : Nat)
  /-- A setting of a group is missing. -/
  | missing (setting : String)
  /-- A value has no form that can stand for a name. -/
  | notName (choice : String)
  /-- A name is none of those to choose from. -/
  | unknownName (choice : String) (name : Text)
  deriving DecidableEq, Repr

namespace ConfigError

/-- The text that reports an error. -/
def message : ConfigError → Text
  | badKey e => e.message.toList
  | notFound name => "configuration file \"".toList ++ name ++ "\" not found".toList
  | notText => "stream did not contain valid UTF-8".toList
  | badFile _ line column =>
      "TOML parse error at line ".toList ++ Text.ofNat line ++ ", column ".toList ++
        Text.ofNat column
  | wrongKind found expected place origin =>
      "invalid type: ".toList ++ found.describe ++ ", expected ".toList ++ expected.toList ++
        " for key `".toList ++ place ++ ['`'] ++
        (match origin with
          | some file => " in ".toList ++ file
          | none => [])
  | notGroup found group =>
      "invalid type: ".toList ++ found.describe ++ ", expected struct ".toList ++ group.toList
  | tooShort length group settings =>
      "invalid length ".toList ++ Text.ofNat length ++ ", expected struct ".toList ++
        group.toList ++ " with ".toList ++ Text.ofNat settings ++
        (if settings = 1 then " element".toList else " elements".toList)
  | missing setting => "missing field `".toList ++ setting.toList ++ ['`']
  | notName choice =>
      "value of enum ".toList ++ choice.toList ++
        " should be represented by either string or table with exactly one key".toList
  | unknownName choice name =>
      "enum ".toList ++ choice.toList ++ " does not have variant constructor ".toList ++ name

/-- An error inside a part of a value, as an error of the value. -/
def inside (part : Text) : ConfigError → ConfigError
  | wrongKind found expected place origin =>
      let dot := if place.isEmpty || place.head? == some '[' then [] else ['.']
      wrongKind found expected (part ++ dot ++ place) origin
  | e => e

end ConfigError

end Highlighter.Config
