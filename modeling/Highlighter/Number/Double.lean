import Highlighter.Text

/-!
# Binary floating point

A double is an integer of at most 53 bits times a power of two, an infinity, or no
number. `Double.ofDecimal` rounds a decimal to the nearest double, a tie to the even
mantissa. `Double.digits` gives the fewest digits that read back as the same
double, and of those the ones nearest to it. Both work on exact integers.
-/

namespace Highlighter

/-- A double. The value of `finite negative m e` is `m * 2 ^ e`, with its sign. -/
inductive Double where
  /-- A finite number. -/
  | finite (negative : Bool) (mantissa : Nat) (exponent : Int)
  /-- An infinity. -/
  | infinite (negative : Bool)
  /-- No number. -/
  | nan
  deriving DecidableEq, Repr

namespace Double

/-- The least mantissa of a normal number. -/
def leastNormal : Nat := Nat.pow 2 52

/-- The least exponent. -/
def leastExponent : Int := -1074

/-- The greatest exponent. -/
def greatestExponent : Int := 971

/-- A power with an integer exponent, as a fraction. -/
def power (base : Nat) (e : Int) : Nat × Nat :=
  if 0 ≤ e then (Nat.pow base e.toNat, 1) else (1, Nat.pow base (-e).toNat)

/-- The nearest integer to a fraction, a tie to the even one. -/
def roundEven (num den : Nat) : Nat :=
  let q := num / den
  let r := num % den
  if 2 * r < den then q
  else if den < 2 * r then q + 1
  else if q % 2 = 0 then q else q + 1

/-- The nearest double to a positive fraction. -/
def ofFraction (negative : Bool) (num den : Nat) : Double :=
  let guess : Int := (num.log2 : Int) - (den.log2 : Int) - 52
  -- the guess is one too high at most
  let fits (e : Int) : Bool :=
    let (a, b) := power 2 e
    decide (den * a * leastNormal ≤ num * b)
  let e := max (if fits guess then guess else guess - 1) leastExponent
  let (a, b) := power 2 e
  let m := roundEven (num * b) (den * a)
  let (m, e) := if m = 2 * leastNormal then (leastNormal, e + 1) else (m, e)
  if greatestExponent < e then infinite negative else finite negative m e

/-- The number of decimal digits of a number. -/
def digitCount (n : Nat) : Nat := (Nat.toDigits 10 n).length

/-- The nearest double to `digits * 10 ^ e`. What is far beyond the range is settled without
computing the power. -/
def ofDecimal (negative : Bool) (digits : Nat) (e : Int) : Double :=
  if digits = 0 then finite negative 0 leastExponent
  else if (digitCount digits : Int) + e < -400 then finite negative 0 leastExponent
  else if 400 < (digitCount digits : Int) + e then infinite negative
  else
    let (a, b) := power 10 e
    ofFraction negative (digits * a) b

/-- Whether a double is neither an infinity nor no number. -/
def isFinite : Double → Bool
  | finite .. => true
  | _ => false

/-- Whether a double is zero, of either sign. -/
def isZero : Double → Bool
  | finite _ 0 _ => true
  | _ => false

/-! ## Shortest digits -/

/-- The position of the first digit of a positive fraction: it is below ten to that power and
not below a tenth of it. -/
def decimalPoint (num den : Nat) : Int :=
  let guess : Int := (digitCount num : Int) - (digitCount den : Int)
  let below (e : Int) : Bool :=
    let (a, b) := power 10 e
    decide (num * b < den * a)
  if below guess then guess else guess + 1

/-- A decimal with a number of digits that reads back as the double with mantissa `m` and
exponent `e`, the nearer of two. The interval of what reads back is counted in quarters of
the last place, and its ends belong to it when `m` is even. -/
def digitsOfLength? (m : Nat) (e : Int) (n : Nat) : Option (Nat × Int) :=
  let (a, b) := power 2 e
  let num := m * a
  let den := b
  let unit := decimalPoint num den - n
  let (c, d) := power 10 unit
  -- everything is scaled so that the double is `4 * m` quarters
  let low := if m = leastNormal && leastExponent < e then 4 * m - 1 else 4 * m - 2
  let high := 4 * m + 2
  let inside (x : Nat) : Bool :=
    let left := 4 * x * c * b
    let lowSide := low * a * d
    let highSide := high * a * d
    if m % 2 = 0 then decide (lowSide ≤ left ∧ left ≤ highSide)
    else decide (lowSide < left ∧ left < highSide)
  let down := num * d / (den * c)
  let up := down + 1
  let nearerDown := decide (2 * num * d ≤ (2 * down + 1) * den * c)
  match inside down, inside up with
  | true, true => some (if nearerDown then down else up, unit)
  | true, false => some (down, unit)
  | false, true => some (up, unit)
  | false, false => none

/-- A decimal without zeros at its end. -/
def trimZeros : Nat → Nat → Int → Nat × Int
  | 0, x, e => (x, e)
  | fuel + 1, x, e => if x ≠ 0 ∧ x % 10 = 0 then trimZeros fuel (x / 10) (e + 1) else (x, e)

/-- The fewest digits that read back as a positive double, with their exponent. -/
def digits (m : Nat) (e : Int) : Nat × Int :=
  match (List.range 17).findSome? fun n => digitsOfLength? m e (n + 1) with
  | some (x, k) => trimZeros 400 x k
  | none => (m, 0)

/-- The text of a decimal in positional notation. -/
def positional (x : Nat) (e : Int) : Text :=
  let ds := Text.ofNat x
  if 0 ≤ e then ds ++ List.replicate e.toNat '0'
  else
    let places := (-e).toNat
    let ds := List.replicate (places + 1 - ds.length) '0' ++ ds
    ds.take (ds.length - places) ++ '.' :: ds.drop (ds.length - places)

/-- The text of a double: always positional, with no fraction when there is none. -/
def toText : Double → Text
  | nan => "NaN".toList
  | infinite negative => (if negative then ['-'] else []) ++ "inf".toList
  | finite negative m e =>
    let sign := if negative then ['-'] else []
    if m = 0 then sign ++ ['0']
    else
      let (x, k) := digits m e
      sign ++ positional x k

/-- The text of a double that shows it is none of the integers. -/
def toPointedText (d : Double) : Text :=
  let t := d.toText
  if d.isFinite && !t.contains '.' then t ++ ['.', '0'] else t

end Double

end Highlighter
