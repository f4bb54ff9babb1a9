import Highlighter.Files
import Highlighter.Pdfile
import Highlighter.Prldevops
import Highlighter.Scan

/-!
# The built-in languages

There are two languages with a grammar of their own. A language answers to some
names, in any case of ASCII letters, and can be guessed for a file: from the name
of the file first, and else from the first word of the first line that is neither
blank nor a comment.
-/

namespace Highlighter

/-! ## Languages and their names -/

/-- A built-in language. -/
inductive Language where
  /-- Machine descriptions. -/
  | pdfile
  /-- Command lines of `prldevops`. -/
  | prldevops
  deriving DecidableEq, Repr

namespace Language

/-- Every language. -/
def all : List Language := [pdfile, prldevops]

/-- The name of a language. -/
def name : Language → String
  | pdfile => Pdfile.name
  | prldevops => Prldevops.name

/-- Every name a language answers to, its own name first. -/
def aliases : Language → List String
  | pdfile => ["pdfile", "parallels-file"]
  | prldevops => ["prldevops"]

/-- The declaration of the grammar of a language. -/
def declaration : Language → GrammarDecl
  | pdfile => Pdfile.declaration
  | prldevops => Prldevops.declaration

/-- The grammar of the pdfile language. -/
def pdfileGrammar : Grammar :=
  (Pdfile.declaration.build .standard).toOption.getD ⟨Pdfile.name, Pdfile.root, []⟩

/-- The grammar of the prldevops language. -/
def prldevopsGrammar : Grammar :=
  (Prldevops.declaration.build .standard).toOption.getD ⟨Prldevops.name, Prldevops.root, []⟩

/-- The grammar of a language. -/
def grammar : Language → Grammar
  | pdfile => pdfileGrammar
  | prldevops => prldevopsGrammar

/-- The language that answers to a name. -/
def ofName? (s : Text) : Option Language :=
  all.find? fun l => l.aliases.any fun a => Text.eqIgnoreCase a.toList s

/-- The names in documents, in the order in which messages list them. -/
def documentNames : List (String × Language) :=
  [("parallels-file", pdfile), ("pdfile", pdfile), ("prldevops", prldevops)]

/-- The text that reports a name no language answers to. -/
def unknownMessage (s : Text) : String :=
  "unknown grammar '" ++ String.ofList s ++
    "' (expected one of: pdfile, parallels-file, prldevops)"

end Language

/-! ## Guessing -/

namespace Text

/-- A text without the blanks at its start. -/
def trimStart (t : Text) : Text := t.dropWhile isBlank

/-- A text without the blanks at both ends. -/
def trim (t : Text) : Text := (trimStart (trimStart t).reverse).reverse

/-- The characters up to the first blank, without blanks before them. -/
def firstWord (t : Text) : Text := (trimStart t).takeWhile (!isBlank ·)

end Text

namespace Language

/-- The language that the name of a file tells. -/
def ofPath? (path : Text) : Option Language :=
  let fileName := (FilePath.fileName? path).getD []
  let extension := (FilePath.extension? fileName).getD []
  if Text.eqIgnoreCase fileName "pdfile".toList || Text.eqIgnoreCase extension "pdfile".toList then
    some pdfile
  else if extension == "sh".toList then some prldevops
  else none

/-- The first line that is neither blank nor a comment, without blanks at its ends. -/
def decidingLine? (content : Text) : Option Text :=
  ((Text.splitAt '\n' content).map Text.trim).find? fun line =>
    !line.isEmpty && line.head? != some '#'

/-- The language that the content of a file tells. -/
def ofContent? (content : Text) : Option Language :=
  match decidingLine? content with
  | none => none
  | some line =>
    let word := Text.firstWord line
    if Text.eqIgnoreCase word Prldevops.program.toList then some prldevops
    else if Pdfile.keywords.any fun k => Text.eqIgnoreCase k.toList word then some pdfile
    else none

/-- The language of a file, from its name and else from its content. -/
def guess (path content : Text) : Option Language :=
  match ofPath? path with
  | some l => some l
  | none => ofContent? content

end Language

end Highlighter
