import Highlighter.Number.Digits
import Highlighter.Number.Double

/-!
# Decimal notation

A decimal has a sign, digits with a point among them, and an exponent. The sign, the
point and the exponent may be missing, and so may the digits on one side of the
point. `Decimal.read?` reads this notation and `Decimal.toDouble` gives the nearest
double.
-/

namespace Highlighter

/-- The decimal `digits * 10 ^ exponent`, with its sign. -/
structure Decimal where
  /-- Whether the sign is minus. -/
  negative : Bool
  /-- The digits without the point. -/
  digits : Nat
  /-- The power of ten. -/
  exponent : Int
  deriving DecidableEq, Repr

namespace Decimal

/-- A sign in front of a text, and the rest. Without one the sign is plus. -/
def sign : Text → Bool × Text
  | '-' :: rest => (true, rest)
  | '+' :: rest => (false, rest)
  | t => (false, t)

/-- An exponent with its letter. The empty text is the exponent zero. -/
def readExponent? : Text → Option Int
  | [] => some 0
  | c :: rest =>
    if c == 'e' || c == 'E' then
      let (negative, rest) := sign rest
      (Digits.read? 10 rest).map fun n => if negative then -(n : Int) else n
    else none

/-- The digits after the point, if there is a point, and the rest. -/
def fraction : Text → Text × Text
  | '.' :: rest => rest.span (Digits.isDigit 10)
  | t => ([], t)

/-- The decimal in a text. -/
def read? (t : Text) : Option Decimal :=
  let (negative, t) := sign t
  let (whole, t) := t.span (Digits.isDigit 10)
  let (part, t) := fraction t
  if whole.isEmpty && part.isEmpty then none
  else
    (readExponent? t).map fun e =>
      ⟨negative, Digits.extend 10 0 (whole ++ part), e - part.length⟩

/-- The nearest double. -/
def toDouble (d : Decimal) : Double := Double.ofDecimal d.negative d.digits d.exponent

end Decimal

end Highlighter
