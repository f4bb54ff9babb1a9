import Highlighter.Text

/-!
# Digits

The value of digits in a base up to sixteen. Letters stand for the digits from ten
on, in either case.
-/

namespace Highlighter.Digits

/-- The value of a hexadecimal digit. -/
def hexValue? (c : Char) : Option Nat :=
  if '0' ≤ c && c ≤ '9' then some (c.toNat - '0'.toNat)
  else if 'a' ≤ c && c ≤ 'f' then some (c.toNat - 'a'.toNat + 10)
  else if 'A' ≤ c && c ≤ 'F' then some (c.toNat - 'A'.toNat + 10)
  else none

/-- The value of a digit in a base. -/
def value? (base : Nat) (c : Char) : Option Nat := (hexValue? c).filter (· < base)

/-- Whether a character is a digit in a base. -/
def isDigit (base : Nat) (c : Char) : Bool := (value? base c).isSome

/-- The number that starts with the digits of `n` and goes on with those of a text. -/
def extend (base : Nat) (n : Nat) (t : Text) : Nat :=
  t.foldl (fun n c => base * n + (value? base c).getD 0) n

/-- The number that a text of digits stands for. The empty text stands for none. -/
def read? (base : Nat) (t : Text) : Option Nat :=
  if !t.isEmpty && t.all (isDigit base) then some (extend base 0 t) else none

/-- Whether a number without a sign has a given number of bits at most. -/
def fitsUnsigned (bits n : Nat) : Bool := decide (n < Nat.pow 2 bits)

/-- Whether the number with a sign and a magnitude fits into a given number of bits, one of which
is for the sign. -/
def fitsSigned (bits : Nat) (negative : Bool) (n : Nat) : Bool :=
  fitsUnsigned (bits - 1) n || (negative && n == Nat.pow 2 (bits - 1))

end Highlighter.Digits
