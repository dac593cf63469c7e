/-
  Inlay.Decimal.Places
  ────────────────────────────────
  **FLOATS WITH A GIVEN NUMBER OF DIGITS.**

  The digits of a float up to a given place, or so many of them.  A float is
  a fraction of whole numbers, so the rounding is exact: to the nearest
  digit, and to the even one in the middle.

  `Digits.written` is the text of digits with a decimal point or with an
  exponent.
-/
import Inlay.Decimal.Exact
import Inlay.Decimal.Notation

namespace Inlay.Decimal

/-! ## §1. Digits. -/

/-- Digits with the decimal point after the first `point` of them. -/
structure Digits where
  digits : List Char
  point : Int
  deriving Repr, DecidableEq

/-- Digits without the zeros at their end, but at least one. -/
def withoutEndZeros (digits : List Char) : List Char :=
  match (digits.reverse.dropWhile (· = '0')).reverse with
  | [] => ['0']
  | ds => ds

/-- The size of a finite float as a fraction. -/
def sizeFraction (x : Float) : Nat × Nat :=
  let (n, d) := fraction x
  (n.natAbs, d)

/-- The digits of a finite float up to so many places behind the point. -/
def fixedDigits (x : Float) (places : Nat) : Digits :=
  let (num, den) := sizeFraction x
  let ds := digitsOf (roundedQuotient (num * Nat.pow 10 places) den)
  let ds := List.replicate (places + 1 - ds.length) '0' ++ ds
  ⟨ds, (ds.length : Int) - places⟩

/-- A fraction to so many digits of which the first one is not zero; `point` tells where the
fraction has its point. -/
def leadingDigits (num den : Nat) (point : Int) (count : Nat) : Digits :=
  let scale : Int := count - point
  let q := roundedQuotient (num * Nat.pow 10 scale.toNat) (den * Nat.pow 10 (-scale).toNat)
  let ds := digitsOf q
  ⟨withoutEndZeros ds, point + ((ds.length : Int) - count)⟩

/-- So many significant digits of a finite float, at least one; zeros at the end are left out. -/
def significantDigits (x : Float) (count : Nat) : Digits :=
  if x == 0 then ⟨['0'], 1⟩
  else
    let (num, den) := sizeFraction x
    leadingDigits num den (Binary.ofBits x.toBits).scale (max 1 count)

/-- The fewest digits of a finite float that read back. -/
def shortestDigits (x : Float) : Digits :=
  if x == 0 then ⟨['0'], 1⟩
  else
    let d := (Binary.ofBits x.toBits).shortest
    let ds := digitsOf d.digits
    ⟨ds, ds.length + d.exponent⟩

/-! ## §2. Texts. -/

/-- The text of an exponent, with its sign and at least two digits. -/
def exponentText (e : Int) : List Char :=
  let size := digitsOf e.natAbs
  'e' :: (if e < 0 then '-' else '+') :: (List.replicate (2 - size.length) '0' ++ size)

/-- Digits behind the point up to a place, filled with zeros. -/
def placesText (ds : List Char) (places : Nat) : List Char :=
  ds ++ List.replicate (places - ds.length) '0'

/-- Digits with their point: zeros stand for what is missing in front of it, and `places` digits
at least behind it.  A point with nothing behind it is kept only if `keepsPoint` says so. -/
def Digits.pointed (d : Digits) (places : Nat) (keepsPoint : Bool) : List Char :=
  let (whole, rest) :=
    if d.point ≤ 0 then (['0'], List.replicate (-d.point).toNat '0' ++ d.digits)
    else
      let n := d.point.toNat
      (d.digits.take n ++ List.replicate (n - d.digits.length) '0', d.digits.drop n)
  let rest := placesText rest places
  whole ++ (if rest.isEmpty && !keepsPoint then [] else '.' :: rest)

/-- Digits with the point behind the first one, and the exponent. -/
def Digits.withExponent (d : Digits) (places : Nat) (keepsPoint : Bool) : List Char :=
  Digits.pointed ⟨d.digits, 1⟩ places keepsPoint ++ exponentText (d.point - 1)

/-- Ways to write a float. -/
inductive Style where
  /-- So many places behind the point. -/
  | fixed (places : Nat)
  /-- With an exponent, and so many places behind the point. -/
  | exponent (places : Nat)
  /-- So many significant digits, with an exponent where the size asks for one. -/
  | general (count : Nat)
  /-- The same, but with a digit behind the point. -/
  | generalPointed (count : Nat)
  /-- The fewest digits that read back. -/
  | shortest
  deriving Repr, DecidableEq

/-- The text of the size of a finite float.  `full` keeps the point and the zeros at the end. -/
def sizeText (style : Style) (full : Bool) (x : Float) : List Char :=
  match style with
  | .fixed places =>
    let d := fixedDigits x places
    d.pointed places full
  | .exponent places => (significantDigits x (places + 1)).withExponent places full
  | .general count =>
    let count := max 1 count
    let d := significantDigits x count
    if d.point ≤ -4 || (count : Int) < d.point then
      d.withExponent (if full then count - 1 else 0) full
    else d.pointed (if full then ((count : Int) - d.point).toNat else 0) full
  | .generalPointed count =>
    let count := max 1 count
    let d := significantDigits x count
    if d.point ≤ -4 || (count : Int) - 1 < d.point then
      d.withExponent (if full then count - 1 else 0) full
    else d.pointed (max 1 (if full then ((count : Int) - d.point).toNat else 0)) full
  | .shortest =>
    let d := shortestDigits x
    if d.point ≤ -4 || 16 < d.point then d.withExponent 0 full else d.pointed 1 full

end Inlay.Decimal
