import Highlighter.Config.Error
import Highlighter.Language
import Highlighter.OutputFormat
import Highlighter.Unicode.Lower

/-!
# Settings

The settings have a kind each, and are read from the tree of values in three groups.
A setting takes values of other kinds as far as they make sense: a truth value may be
a number or a word, a text may be a number, and a name may be the only key of a
table. A group may be a list of its settings in order.
-/

namespace Highlighter.Config

/-- The settings of the program. -/
structure Settings where
  /-- The language of a file that tells none. -/
  language : Language
  /-- The format of the output. -/
  format : OutputFormat
  /-- The settings of the formats. -/
  render : RenderOptions
  deriving DecidableEq, Repr

/-- How a value is read. -/
abbrev Reading (α : Type) := Value → Except ConfigError α

/-! ## Single settings -/

/-- The refusal of a value that is not of the kind that is expected. -/
def refuse {α : Type} (found : Found) (expected : String) (origin : Origin) :
    Except ConfigError α :=
  .error (.wrongKind found expected [] origin)

/-- The words for yes. -/
def yesWords : List String := ["1", "true", "on", "yes"]

/-- The words for no. -/
def noWords : List String := ["0", "false", "off", "no"]

/-- A value as a truth value. A number is true unless it is zero, and a word counts in any
case. -/
def readBool : Reading Bool
  | .scalar _ (.boolean b) => .ok b
  | .scalar _ (.integer n) => .ok (n != 0)
  | .scalar _ (.float d) => .ok !d.isZero
  | .scalar origin (.string t) =>
      let word := Unicode.lower t
      if yesWords.any (·.toList == word) then .ok true
      else if noWords.any (·.toList == word) then .ok false
      else refuse (.scalar (.string word)) "a boolean" origin
  | v => refuse v.found "a boolean" v.origin

/-- A value as a text. -/
def readText : Reading Text
  | .scalar _ (.string t) => .ok t
  | .scalar _ (.boolean b) => .ok (Text.ofBool b)
  | .scalar _ (.integer n) => .ok (Text.ofInt n)
  | .scalar _ (.float d) => .ok d.toText
  | v => refuse v.found "a string" v.origin

/-- A value as one of some names, in any case of ASCII letters. -/
def readName {α : Type} (choice : String) (names : List (String × α)) : Reading α := fun v =>
  let ofName (name : Text) : Except ConfigError α :=
    match names.find? fun n => Text.eqIgnoreCase n.1.toList name with
    | some (_, a) => .ok a
    | none => .error (.unknownName choice name)
  match v with
  | .scalar _ (.string name) => ofName name
  | .table _ [(name, _)] => ofName name
  | _ => .error (.notName choice)

/-! ## Groups of settings -/

/-- A setting of a group. -/
structure Setting (α : Type) where
  /-- The name of the setting. -/
  name : String
  /-- How its value is read. -/
  read : Reading α

/-- The setting in a table, if it is there. -/
def Setting.inTable? {α : Type} (s : Setting α) (fields : List (Text × Value)) :
    Except ConfigError (Option α) :=
  match fields.lookup s.name.toList with
  | none => .ok none
  | some v => ((s.read v).map some).mapError (·.inside s.name.toList)

/-- A setting that has to be there. -/
def Setting.present {α : Type} (s : Setting α) : Option α → Except ConfigError α
  | some a => .ok a
  | none => .error (.missing s.name)

/-- The setting at a position of a list. -/
def Setting.inList {α : Type} (s : Setting α) (group : String) (settings index : Nat)
    (items : List Value) : Except ConfigError α :=
  match items[index]? with
  | none => .error (.tooShort index group settings)
  | some v => (s.read v).mapError (·.inside ('[' :: Text.ofNat index ++ [']']))

/-- A group of one setting. -/
def readOne {α : Type} (group : String) (s : Setting α) : Reading α
  | .table _ fields => do s.present (← s.inTable? fields)
  | .array _ items => s.inList group 1 0 items
  | v => .error (.notGroup v.found group)

/-- A group of two settings. In a table a wrong value is reported before a missing one. -/
def readTwo {α β : Type} (group : String) (s : Setting α) (t : Setting β) : Reading (α × β)
  | .table _ fields => do
    let a? ← s.inTable? fields
    let b? ← t.inTable? fields
    let a ← s.present a?
    let b ← t.present b?
    return (a, b)
  | .array _ items => do
    let a ← s.inList group 2 0 items
    let b ← t.inList group 2 1 items
    return (a, b)
  | v => .error (.notGroup v.found group)

/-! ## All settings -/

/-- The choice of a language. -/
def languageSetting : Setting Language :=
  ⟨"grammar", readName "GrammarName" Language.documentNames⟩

/-- The choice of a format. -/
def formatSetting : Setting OutputFormat :=
  ⟨"format", readName "OutputFormat" OutputFormat.documentNames⟩

/-- What the class names in markup start with. -/
def classPrefixSetting : Setting Text := ⟨"class_prefix", readText⟩

/-- Whether markup is put into a block. -/
def wrapSetting : Setting Bool := ⟨"wrap", readBool⟩

/-- Whether terminal colors are wanted. -/
def colorSetting : Setting Bool := ⟨"enabled", readBool⟩

/-- The group of the choices. -/
def highlightGroup : Setting (Language × OutputFormat) :=
  ⟨"highlight", readTwo "HighlightConfig" languageSetting formatSetting⟩

/-- The group of the markup. -/
def htmlGroup : Setting (Text × Bool) :=
  ⟨"html", readTwo "HtmlConfig" classPrefixSetting wrapSetting⟩

/-- The group of the terminal colors. -/
def ansiGroup : Setting Bool := ⟨"ansi", readOne "AnsiConfig" colorSetting⟩

/-- The settings in a tree of values. -/
def readSettings (root : Value) : Except ConfigError Settings := do
  let highlight? ← highlightGroup.inTable? root.fields
  let html? ← htmlGroup.inTable? root.fields
  let ansi? ← ansiGroup.inTable? root.fields
  let (language, format) ← highlightGroup.present highlight?
  let (classPrefix, wrap) ← htmlGroup.present html?
  let color ← ansiGroup.present ansi?
  return { language, format, render := { html := { classPrefix, wrap }, color } }

end Highlighter.Config
