import Highlighter.Pattern.Basic

/-!
# Regular expressions

The form in which patterns are written, after reading: flags are resolved into
the character sets and the assertions they govern, and a repetition still has its
bounds. `Regex.toPattern` unfolds the repetitions.

`a{n,}` is `n - 1` copies of `a`, then `a` and a loop. `a{n,m}` is `n` copies and
then `m - n` nested options. Where `a` may be empty the choices in it are marked,
each copy with marks of its own, while the `a` of a loop shares its marks with
the copy just before it.
-/

namespace Highlighter

/-- A regular expression. -/
inductive Regex where
  /-- The empty text. -/
  | empty
  /-- One character of a set. -/
  | one (s : CharSet)
  /-- One character of a set in brackets, nested to a depth. -/
  | bracket (s : CharSet) (depth : Nat)
  /-- A test of the place. -/
  | check (a : Assertion)
  /-- A group, captured under a number. -/
  | group (index : Nat) (r : Regex)
  /-- A group that is not captured. -/
  | scope (r : Regex)
  /-- One expression after another. -/
  | seq (r s : Regex)
  /-- One expression or another. -/
  | alt (r s : Regex)
  /-- At least `min` and at most `max` copies. -/
  | times (min : Nat) (max : Option Nat) (greedy : Bool) (r : Regex)
  deriving DecidableEq, Repr

namespace Regex

/-! ## What an expression can match -/

/-- Whether an expression can match without consuming. -/
def nullable : Regex → Bool
  | empty => true
  | one _ => false
  | bracket _ _ => false
  | check _ => true
  | group _ r => r.nullable
  | scope r => r.nullable
  | seq r s => r.nullable && s.nullable
  | alt r s => r.nullable || s.nullable
  | times min _ _ r => min == 0 || r.nullable

/-- Whether an expression never consumes. -/
def neverConsumes : Regex → Bool
  | empty => true
  | one _ => false
  | bracket _ _ => false
  | check _ => true
  | group _ r => r.neverConsumes
  | scope r => r.neverConsumes
  | seq r s => r.neverConsumes && s.neverConsumes
  | alt r s => r.neverConsumes && s.neverConsumes
  | times _ max _ r => max == some 0 || r.neverConsumes

/-- Whether an expression has no test of a place but in what is repeated no times. -/
def assertionFree : Regex → Bool
  | empty => true
  | one _ => true
  | bracket _ _ => true
  | check _ => false
  | group _ r => r.assertionFree
  | scope r => r.assertionFree
  | seq r s => r.assertionFree && s.assertionFree
  | alt r s => r.assertionFree && s.assertionFree
  | times min max _ r => (min == 0 && max == some 0) || r.assertionFree

/-- The greatest number of a group, or zero. What is repeated no times has no groups. -/
def groupCount : Regex → Nat
  | empty => 0
  | one _ => 0
  | bracket _ _ => 0
  | check _ => 0
  | group index r => max index r.groupCount
  | scope r => r.groupCount
  | seq r s => max r.groupCount s.groupCount
  | alt r s => max r.groupCount s.groupCount
  | times min max _ r => if min = 0 ∧ max = some 0 then 0 else r.groupCount

/-! ## The pattern of an expression -/

/-- A step of unfolding: it takes the next free mark and returns the one after those it used. -/
abbrev Unfolding (α : Type) := Nat → α × Nat

/-- A choice, marked if marks are asked for. -/
def choice (marked : Bool) (p : Pattern) : Unfolding Pattern := fun next =>
  if marked then (.seq (.mark next) p, next + 1) else (p, next)

/-- A pattern or nothing, in the order greed asks for. -/
def optional (greedy : Bool) (p : Pattern) : Pattern :=
  if greedy then .alt p .empty else .alt .empty p

/-- A pattern any number of times, marked at the start of each turn if marks are asked for. -/
def repeated (marked greedy : Bool) (p : Pattern) : Unfolding Pattern := fun next =>
  if marked then (.seq (.mark next) (.loop greedy (.seq p (.mark next))), next + 1)
  else
    match p with
    | .one s => (.many greedy s, next)
    | _ => (.loop greedy p, next)

/-- A number of copies one after another, each unfolded anew. -/
def copies (unfold : Unfolding Pattern) : Nat → Unfolding Pattern
  | 0, next => (.empty, next)
  | 1, next => unfold next
  | n + 1, next =>
    let (p, next) := unfold next
    let (q, next) := copies unfold n next
    (.seq p q, next)

/-- Up to a number of copies, each an option inside the one before. -/
def options (marked greedy : Bool) (unfold : Unfolding Pattern) : Nat → Unfolding Pattern
  | 0, next => (.empty, next)
  | n + 1, next =>
    let (p, next) := unfold next
    let (q, next) := options marked greedy unfold n next
    choice marked (optional greedy (if n = 0 then p else .seq p q)) next

/-- The pattern of an expression, with its choices marked if marks are asked for. -/
def unfold (marked : Bool) : Regex → Unfolding Pattern
  | empty, next => (.empty, next)
  | one s, next => (.one s, next)
  | bracket s _, next => (.one s, next)
  | check a, next => (.check a, next)
  | group index r, next =>
    let (p, next) := unfold marked r next
    (.group index p, next)
  | scope r, next => unfold marked r next
  | seq r s, next =>
    let (p, next) := unfold marked r next
    let (q, next) := unfold marked s next
    (.seq p q, next)
  | alt r s, next =>
    let (p, next) := unfold marked r next
    let (q, next) := unfold marked s next
    choice marked (.alt p q) next
  | times min (some max) greedy r, next =>
    let (p, next) := copies (unfold marked r) min next
    if max ≤ min then (p, next)
    else
      let (q, next) := options marked greedy (unfold marked r) (max - min) next
      if min = 0 then (q, next) else (.seq p q, next)
  | times min none greedy r, next =>
    let marked := marked || r.nullable
    if min = 0 && !r.nullable then
      let (p, next) := unfold marked r next
      repeated marked greedy p next
    else
      let (front, next) := copies (unfold marked r) (min - 1) next
      let (p, next) := unfold marked r next
      let (q, next) := repeated marked greedy p next
      let (whole, next) := if min = 0 then choice marked (optional greedy (.seq p q)) next
        else (.seq p q, next)
      if min ≤ 1 then (whole, next) else (.seq front whole, next)

/-- The pattern that has the matches of an expression. -/
def toPattern (r : Regex) : Pattern := (r.unfold false 0).1

end Regex

end Highlighter
