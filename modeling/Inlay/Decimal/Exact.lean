/-
  Inlay.Decimal.Exact
  ────────────────────────────────
  **EXACT STEPS BETWEEN WHOLE NUMBERS AND FLOATS.**

  A quotient of whole numbers becomes the float that is nearest to it, a tie
  goes to the even mantissa.  A remainder of floats is computed on whole
  numbers, so nothing is rounded.
-/
import Inlay.Decimal.Shortest

namespace Inlay.Decimal

/-! ## §1. The nearest float. -/

/-- The number of binary digits of a number. -/
def bitCount (n : Nat) : Nat := if n = 0 then 0 else n.log2 + 1

/-- The quotient of two numbers as the nearest whole number; a tie goes to the even one. -/
def roundedQuotient (num den : Nat) : Nat :=
  let q := num / den
  match compare (2 * (num % den)) den with
  | .lt => q
  | .gt => q + 1
  | .eq => if q % 2 = 0 then q else q + 1

/-- The float that is nearest to `num / den`. -/
def nearestFloat (num den : Nat) : Float :=
  if num = 0 then 0
  else
    let guess : Int := bitCount num - bitCount den - 53
    let scaled (e : Int) : Nat := num * Nat.pow 2 (-e).toNat / (den * Nat.pow 2 e.toNat)
    let e := if 0x20000000000000 ≤ scaled guess then guess + 1 else guess
    let e := max e (-1074)
    let m := roundedQuotient (num * Nat.pow 2 (-e).toNat) (den * Nat.pow 2 e.toNat)
    (Float.ofNat m).scaleB e

/-- The float that is nearest to a quotient of whole numbers. -/
def nearestQuotient (a b : Int) : Float :=
  let x := nearestFloat a.natAbs b.natAbs
  if decide (a < 0) == decide (b < 0) then x else -x

/-! ## §2. Floats as fractions. -/

/-- A finite float as a whole number over a power of two. -/
def fraction (x : Float) : Int × Nat :=
  let b := Binary.ofBits x.toBits
  let m : Int := b.mantissa * Nat.pow 2 b.exponent.toNat
  (if x < 0 then -m else m, Nat.pow 2 (-b.exponent).toNat)

/-- A finite float without what stands after its point. -/
def truncated (x : Float) : Int := let (n, d) := fraction x; n.tdiv d

/-- Does a finite float have nothing after its point? -/
def isWhole (x : Float) : Bool := let (n, d) := fraction x; n % d = 0

/-- The remainder of a division of finite floats, with the sign of the first one. -/
def remainder (x y : Float) : Float :=
  let (a, b) := fraction x
  let (c, d) := fraction y
  let r := (a.natAbs * d) % (c.natAbs * b)
  let z := nearestFloat r (b * d)
  if x.toBits >>> 63 = 1 then -z else z

end Inlay.Decimal
