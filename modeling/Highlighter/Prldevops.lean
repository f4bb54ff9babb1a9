import Highlighter.Grammar.Declare
import Highlighter.Regex.Quote

/-!
# The prldevops grammar

Command lines of the `prldevops` program. The name of the program and the
subcommand are picked out. What follows a subcommand is one run of arguments, with
backslash escapes and line continuations.

    prldevops catalog push --file ./pdfile \
        --verbose

The state `root` has the start of a command line and anything that is none. The
state `command-body` has the arguments and is left at the end of the line.
-/

namespace Highlighter.Prldevops

open Category

/-- The name of the grammar. -/
def name : String := "prldevops"

/-- The state between command lines. -/
def root : String := "root"

/-- The state of arguments. -/
def commandBody : String := "command-body"

/-- The name of the program. -/
def program : String := "prldevops"

/-- The subcommands. -/
def subcommands : List String := [
  "catalog", "push", "pull", "run", "list", "import", "import-vm", "api",
  "update-root-password", "gen-rsa"]

/-- The pattern of the program, blanks and a subcommand, each in parentheses. -/
def commandStart : Text :=
  '(' :: Regex.quote program.toList ++ ")([ \\t]+)(".toList ++
    Regex.words (subcommands.map String.toList) ++ [')']

/-- The rules of `root`. A subcommand without arguments has to be followed by the end of the
line, since an edge of a word would also stand before a hyphen. -/
def rootRules : List Rule := [
  (rule "\\s+".toList).as whitespace,
  (rule (commandStart ++ "([ \\t]+)".toList)).atLineStart.anyCase
    |>.asGroups [keyword, whitespace, identifier, whitespace] |>.entering commandBody,
  (rule commandStart).atLineStart.anyCase
    |>.before "[ \\t\\r]*(?:#|$)".toList |>.asGroups [keyword, whitespace, identifier],
  (rule (Regex.quote program.toList ++ "\\b".toList)).atLineStart.anyCase.as keyword,
  (rule "#[^\\n]*".toList).as comment,
  (rule "\\w+".toList).as text,
  (rule "[^\\w\\s]+".toList).as text]

/-- The rules of `command-body`. -/
def commandBodyRules : List Rule := [
  (rule "\\r?\\n".toList).as whitespace |>.leaving,
  (rule "\\\\(?:\\r?\\n|.)".toList).as constant,
  (rule "[^\\n\\\\]+".toList).as string]

/-- The declaration of the grammar. -/
def declaration : GrammarDecl :=
  ⟨name, root, [⟨root, rootRules⟩, ⟨commandBody, commandBodyRules⟩]⟩

end Highlighter.Prldevops
