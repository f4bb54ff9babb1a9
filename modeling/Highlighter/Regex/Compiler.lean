import Highlighter.Regex.Read

/-!
# Compilers of regular expressions

A compiler turns the text of a regular expression into the expression, or tells why
there is none. `Compiler.within` is the one that reads the text and then keeps to some
limits, whatever these are. `Limits.standard` bounds two measures: how deeply the
constructs are nested, and how many states an automaton for the expression has.
-/

namespace Highlighter.Regex

/-! ## Compilers -/

/-- What turns the text of a regular expression, with letter case ignored or not, into the
expression, or tells why there is none. -/
abbrev Compiler : Type := (ignoreCase : Bool) → Text → Except String Regex

/-- The text of a pattern tied to the start of what it is matched against. -/
def tiedText (pattern : Text) : Text := "\\A(?:".toList ++ pattern ++ [')']

/-- A pattern text compiled, tied to the start of what it is matched against. -/
def Compiler.tied (compile : Compiler) (ignoreCase : Bool) (pattern : Text) :
    Except String Regex :=
  compile ignoreCase (tiedText pattern)

/-! ## Measures -/

/-- The depth to which constructs are nested. A sequence or a choice of many parts is one level. -/
def depth : Regex → Nat
  | empty => 0
  | one _ => 0
  | bracket _ depth => depth
  | check _ => 0
  | group _ r => r.depth + 1
  | scope r => r.depth + 1
  | seq r s =>
    match s with
    | seq .. => max (r.depth + 1) s.depth
    | _ => max r.depth s.depth + 1
  | alt r s =>
    match s with
    | alt .. => max (r.depth + 1) s.depth
    | _ => max r.depth s.depth + 1
  | times _ _ _ r => r.depth + 1

/-- The states for one character of a set, which is read byte by byte. For the larger sets this
is an estimate. -/
def setStates : CharSet → Nat
  | .none => 1
  | .only c => c.utf8Size
  | .between .. => 2
  | .word => 1500
  | .digit => 140
  | .space => 20
  | .table ranges => 2 * ranges.length + 1
  | .union s t => setStates s + setStates t
  | .inter s t => setStates s + setStates t
  | .complement s => setStates s + 4
  | .anyCase s => setStates s + 1
  | .anyAsciiCase s => setStates s + 1

/-- The states of an automaton for an expression. -/
def states : Regex → Nat
  | empty => 1
  | one s => setStates s
  | bracket s _ => setStates s
  | check _ => 1
  | group _ r => r.states + 2
  | scope r => r.states
  | seq r s => r.states + s.states
  | alt r s => r.states + s.states + 1
  | times min (some max) _ r => min * r.states + (max - min) * (r.states + 1)
  | times min none _ r => Nat.max 1 min * r.states + 1

/-! ## Limits -/

/-- Why the expression that is read from a text is refused all the same, if it is. -/
abbrev Limits : Type := (ignoreCase : Bool) → Text → Regex → Option String

/-- The deepest nesting of constructs. -/
def maxDepth : Nat := 250

/-- The size of a state in bytes. -/
def stateSize : Nat := 32

/-- The greatest size of an automaton in bytes. -/
def maxSize : Nat := 10485760

/-- The limits on the depth of an expression and on the size of its automaton. -/
def Limits.standard : Limits := fun _ _ r =>
  if maxDepth < r.depth then some "exceeded the maximum number of nested parentheses/brackets (250)"
  else if maxSize < stateSize * r.states then
    some "Compiled regex exceeds size limit of 10485760 bytes."
  else none

/-- The compiler that reads a text and keeps to some limits. -/
def Compiler.within (limits : Limits) : Compiler := fun ignoreCase t =>
  match read? (ruleFlags ignoreCase) t with
  | none => .error "regex parse error"
  | some r =>
    match limits ignoreCase t r with
    | some message => .error message
    | none => .ok r

/-- The compiler that keeps to the standard limits. -/
def Compiler.standard : Compiler := .within .standard

/-- What is compiled within some limits is what is read. -/
theorem Compiler.within_eq_ok_iff {limits : Limits} {ignoreCase : Bool} {t : Text} {r : Regex} :
    within limits ignoreCase t = .ok r ↔
      read? (ruleFlags ignoreCase) t = some r ∧ limits ignoreCase t r = none := by
  rw [within]
  cases read? (ruleFlags ignoreCase) t with
  | none => simp
  | some s =>
    dsimp only
    cases hlimits : limits ignoreCase t s with
    | none =>
      simp only [Except.ok.injEq, Option.some.injEq]
      exact ⟨fun h => h ▸ ⟨rfl, hlimits⟩, fun h => h.1⟩
    | some message =>
      simp only [reduceCtorEq, Option.some.injEq, false_iff, not_and]
      rintro rfl
      simp [hlimits]

end Highlighter.Regex
