import Highlighter.Grammar.Declare
import Highlighter.Regex.Quote

/-!
# The pdfile grammar

A pdfile describes a virtual machine. It is line oriented: a line starts with a
directive keyword, and its arguments follow.

    FROM catalog.example.com AS golden
    AUTHENTICATE USERNAME admin
    PROVIDER NAME=aws-s3; BUCKET=images; REGION=eu-west-1
    TAG ubuntu,lts,arm64
    FORCE true
    RUN echo "provisioning" \
        && ./setup.sh

There are four states.

* `root` has the directives. A directive with a closed set of values has two rules,
  one for the values and one that makes anything else an error. A directive with
  fields has three.
* `provider-attributes` has the `KEY=VALUE;` pairs after `PROVIDER`.
* `comma-list` has the items after `TAG`, `ROLE` and `CLAIM`.
* `shell-command-body` has the command after `RUN`, `DO` and `EXECUTE`, with its
  continuation lines.

The last three are left at the end of their line or at a comment.
-/

namespace Highlighter.Pdfile

open Category

/-! ## Names and words -/

/-- The name of the grammar. -/
def name : String := "pdfile"

/-- The state of directives. -/
def root : String := "root"

/-- The state of attributes. -/
def providerAttributes : String := "provider-attributes"

/-- The state of list items. -/
def commaList : String := "comma-list"

/-- The state of shell commands. -/
def shellCommandBody : String := "shell-command-body"

/-- Every directive keyword. -/
def keywords : List String := [
  "TO", "FROM", "INSECURE", "AUTHENTICATE", "PROVIDER", "LOCAL_PATH", "DESCRIPTION", "TAG",
  "ROLE", "CLAIM", "CATALOG_ID", "VERSION", "ARCHITECTURE", "MACHINE_NAME", "OWNER",
  "DESTINATION", "START_AFTER_PULL", "DO", "MINIMUM_REQUIREMENT", "COMPRESS_PACK",
  "COMPRESS_PACK_LEVEL", "VM_REMOTE_PATH", "FORCE", "VM_SIZE", "VM_TYPE", "IS_COMPRESSED",
  "EXECUTE", "CLONE", "RUN"]

/-- The fields of credentials. -/
def credentialFields : List String :=
  ["USERNAME", "PASSWORD", "NAME", "BUCKET", "REGION", "ACCESS_KEY", "SECRET_KEY"]

/-- The fields of requirements. -/
def resources : List String := ["CPU", "RAM", "DISK", "MEMORY"]

/-- The truth values. -/
def booleans : List String := ["true", "false"]

/-- The levels of compression. -/
def compressionLevels : List String :=
  ["default", "balanced", "best_speed", "best_compression", "no_compression"]

/-- The types of machines. -/
def vmTypes : List String := ["pvm", "macvm"]

/-- The directives with a field and a value, and their fields. -/
def fieldDirectives : List (String × List String) := [
  ("AUTHENTICATE", credentialFields),
  ("PROVIDER", credentialFields),
  ("MINIMUM_REQUIREMENT", resources)]

/-- The directives with a value from a closed set, and the set. -/
def valueDirectives : List (String × List String) := [
  ("FORCE", booleans),
  ("COMPRESS_PACK_LEVEL", compressionLevels),
  ("COMPRESS_PACK", booleans),
  ("IS_COMPRESSED", booleans),
  ("VM_TYPE", vmTypes)]

/-- The directives with a list of items. -/
def listDirectives : List String := ["TAG", "ROLE", "CLAIM"]

/-- The directives with a shell command. -/
def shellDirectives : List String := ["RUN", "DO", "EXECUTE"]

/-- The only shell directive that `ONBUILD` may defer. -/
def onbuildDirective : String := "RUN"

/-- The directive that takes attributes when its line has a `=`. -/
def attributeDirective : String := "PROVIDER"

/-! ## Patterns -/

/-- The end of the line, after blanks or before a comment. -/
def lineEnd : Text := "[ \\t\\r]*(?:#|$)".toList

/-- The rest of the line up to a comment, without the blanks at its end. -/
def argument : Text := "[^#\\s](?:[^#\\n]*[^#\\s])?".toList

/-- A run of blanks within a line. -/
def blanks : Text := "[ \\t]+".toList

/-- A text in parentheses. -/
def group (t : Text) : Text := '(' :: t ++ [')']

/-- The choice between some words. -/
def anyOf (list : List String) : Text := Regex.words (list.map String.toList)

/-! ## Rules -/

/-- A rule for a directive: at the start of a line and in any letter case. -/
def directive (pattern : Text) : Rule := (rule pattern).atLineStart.anyCase

/-- The rules for the blanks and comments of `root`. -/
def blankRules : List Rule := [
  (rule "\\s+".toList).as whitespace,
  (rule "#[^\\n]*".toList).as comment]

/-- The directives that have rules of their own. -/
def leadRules : List Rule := [
  (directive (group ("(?:ONBUILD[ \\t]+)?".toList ++ onbuildDirective.toList ++ ['|'] ++
      anyOf (shellDirectives.filter (· != onbuildDirective))) ++ group blanks))
    |>.asGroups [keyword, whitespace] |>.entering shellCommandBody,
  (directive (group "FROM".toList ++ group blanks ++ group argument ++ group blanks ++
      group "AS".toList ++ group blanks ++ group argument))
    |>.asGroups [keyword, whitespace, string, whitespace, keyword, whitespace, string],
  (directive (group attributeDirective.toList ++ group blanks))
    |>.before "[^#\\n]*=".toList
    |>.asGroups [keyword, whitespace] |>.entering providerAttributes]

/-- The rules of a directive with fields: a field and its value, a field that is glued to
something or lacks its value, and anything else. -/
def fieldRules (entry : String × List String) : List Rule :=
  let start := group entry.1.toList ++ group blanks
  let field := group (anyOf entry.2)
  [ (directive (start ++ field ++ group blanks ++ group argument))
      |>.asGroups [keyword, whitespace, identifier, whitespace, string],
    (directive (start ++ field ++ "([^#\\n]*[^#\\s])?".toList))
      |>.asGroups [keyword, whitespace, error, error],
    (directive (start ++ group argument)) |>.asGroups [keyword, whitespace, error]]

/-- The rules of a directive with a closed set of values: one of them, and anything else. -/
def valueRules (entry : String × List String) : List Rule :=
  let start := group entry.1.toList ++ group blanks
  [ (directive (start ++ group (anyOf entry.2)))
      |>.before lineEnd |>.asGroups [keyword, whitespace, constant],
    (directive (start ++ group argument)) |>.asGroups [keyword, whitespace, error]]

/-- The rules for lists, for all other directives, and for what is no directive. -/
def lastRules : List Rule := [
  (directive (group (anyOf listDirectives) ++ group blanks))
    |>.asGroups [keyword, whitespace] |>.entering commaList,
  (directive (group (anyOf keywords) ++ "\\b([ \\t]*)".toList ++ group argument ++ ['?']))
    |>.asGroups [keyword, whitespace, string],
  (rule "\\w+".toList).as text,
  (rule "[^\\w\\s]+".toList).as text]

/-- The rules of `root`. -/
def rootRules : List Rule :=
  blankRules ++ leadRules ++ fieldDirectives.flatMap fieldRules ++
    valueDirectives.flatMap valueRules ++ lastRules

/-- A comment that ends a state. -/
def closingComment : Rule := (rule "#[^\\n]*".toList).as comment |>.leaving

/-- A line end that ends a state. -/
def closingLineEnd : Rule := (rule "\\r?\\n".toList).as whitespace |>.leaving

/-- Blanks within a line. -/
def innerBlanks : Rule := (rule "[^\\S\\n]+".toList).as whitespace

/-- The rules of `provider-attributes`. -/
def providerAttributeRules : List Rule := [
  closingComment, closingLineEnd, innerBlanks,
  (rule "([A-Z0-9_-]+)(=)([^;#\\s]+)(;)".toList).anyCase
    |>.asGroups [identifier, operator, string, punctuation],
  (rule "([A-Z0-9_-]+)(=)([^;#\\s]+)".toList).anyCase
    |>.asGroups [identifier, operator, string],
  (rule ".".toList).as text]

/-- The rules of `comma-list`. -/
def commaListRules : List Rule := [
  closingComment, closingLineEnd, innerBlanks,
  (rule "([^,#\\s]+)(,)".toList).asGroups [identifier, punctuation],
  (rule "[^,#\\s]+".toList).as identifier,
  (rule ".".toList).as text]

/-- The rules of `shell-command-body`. -/
def shellCommandRules : List Rule := [
  closingLineEnd, closingComment,
  (rule "\\\\(?:\\r?\\n|.)".toList).as constant,
  innerBlanks,
  (rule "[^\\s\\\\#]+(?:[^\\S\\n]+[^\\s\\\\#]+)*".toList).as string]

/-- The declaration of the grammar. -/
def declaration : GrammarDecl :=
  ⟨name, root, [
    ⟨root, rootRules⟩, ⟨providerAttributes, providerAttributeRules⟩,
    ⟨commaList, commaListRules⟩, ⟨shellCommandBody, shellCommandRules⟩]⟩

end Highlighter.Pdfile
