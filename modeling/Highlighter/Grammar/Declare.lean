import Highlighter.Grammar.Basic

/-!
# Declaring rules

The vocabulary in which rules are declared. A rule starts from its pattern, emits
plain text and leaves the stack alone; each operation settles one of its fields.
-/

namespace Highlighter

/-- A rule that gives its match as plain text. -/
def rule (pattern : Text) : Rule := { pattern }

namespace Rule

/-- The rule, tried at the start of a line only. -/
def atLineStart (r : Rule) : Rule := { r with lineStart := true }

/-- The rule, with letter case ignored. -/
def anyCase (r : Rule) : Rule := { r with ignoreCase := true }

/-- The rule, where a lookahead has to match right after the match. -/
def before (r : Rule) (lookahead : Text) : Rule := { r with followedBy := some lookahead }

/-- The rule, giving its match as one token. -/
def as (r : Rule) (category : Category) : Rule := { r with action := .token category }

/-- The rule, giving one token for each group. -/
def asGroups (r : Rule) (categories : List Category) : Rule :=
  { r with action := .groups categories }

/-- The rule, entering a state. -/
def entering (r : Rule) (state : String) : Rule := { r with transition := .push state }

/-- The rule, leaving the innermost state. -/
def leaving (r : Rule) : Rule := { r with transition := .pop }

end Rule

end Highlighter
