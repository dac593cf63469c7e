/-
  Inlay.Decimal.Shortest
  ────────────────────────────────
  **THE FEWEST DIGITS THAT READ BACK.**

  A finite float is m · 2^q.  The reals that round to it form an interval,
  whose ends belong to it exactly when m is even.  `shortest` looks for a
  decimal of one digit inside the interval, then of two, and so on: on the
  grid of decimals with that many digits it is enough to test the two
  neighbours of the value.  All comparisons are exact.
-/

namespace Inlay.Decimal

/-! ## §1. Floats and decimals. -/

/-- A finite non-negative float, `mantissa · 2 ^ exponent`. -/
structure Binary where
  mantissa : Nat
  exponent : Int
  /-- The gap to the float below is half the gap to the float above. -/
  narrowBelow : Bool
  deriving Repr, DecidableEq

/-- The value of the bits of a finite float, its sign aside. -/
def Binary.ofBits (bits : UInt64) : Binary :=
  let e := ((bits >>> 52) &&& 0x7FF).toNat
  let f := (bits &&& 0xFFFFFFFFFFFFF).toNat
  if e = 0 then ⟨f, -1074, false⟩ else ⟨0x10000000000000 + f, (e : Int) - 1075, f = 0 && e > 1⟩

/-- A decimal, `digits · 10 ^ exponent`. -/
structure Scaled where
  digits : Nat
  exponent : Int
  deriving Repr, DecidableEq

/-! ## §2. Which decimals read back. -/

/-- Compare `a · 10 ^ i` with `n · 2 ^ j`. -/
def compareScaled (a : Nat) (i : Int) (n : Nat) (j : Int) : Ordering :=
  compare (a * Nat.pow 10 i.toNat * Nat.pow 2 (-j).toNat)
    (n * Nat.pow 2 j.toNat * Nat.pow 10 (-i).toNat)

/-- Does the decimal lie among the reals that round to the float? -/
def Binary.readsBack (x : Binary) (d : Scaled) : Bool :=
  let low := if x.narrowBelow then 4 * x.mantissa - 1 else 4 * x.mantissa - 2
  let closed := x.mantissa % 2 == 0
  let atLow := compareScaled d.digits d.exponent low (x.exponent - 2)
  let atHigh := compareScaled d.digits d.exponent (4 * x.mantissa + 2) (x.exponent - 2)
  (atLow == .gt || (closed && atLow == .eq)) && (atHigh == .lt || (closed && atHigh == .eq))

/-! ## §3. The search. -/

/-- The number of digits before the decimal point; zero or less for values below one tenth.  The
value is at least the power of two with its highest bit and less than twice that, so the power of
ten is known up to one. -/
def Binary.scale (x : Binary) : Int :=
  let guess := (x.mantissa.log2 + x.exponent) * 30103 / 100000 + 1
  if compareScaled 1 guess x.mantissa x.exponent == .gt then guess else guess + 1

/-- The decimal of the given length that reads back and is closest to the value, if there is
one; between two that are equally close, the even one.  `scale` tells how many digits stand before
the decimal point. -/
def Binary.ofLength? (x : Binary) (scale : Int) (length : Nat) : Option Scaled :=
  let e := scale - length
  let num := x.mantissa * Nat.pow 2 x.exponent.toNat * Nat.pow 10 (-e).toNat
  let den := Nat.pow 2 (-x.exponent).toNat * Nat.pow 10 e.toNat
  let low : Scaled := ⟨num / den, e⟩
  let high : Scaled := ⟨num / den + 1, e⟩
  match x.readsBack low, x.readsBack high with
  | false, false => none
  | true, false => some low
  | false, true => some high
  | true, true =>
    match compare (2 * num) ((2 * low.digits + 1) * den) with
    | .lt => some low
    | .gt => some high
    | .eq => if low.digits % 2 = 0 then some low else some high

/-- Move the trailing zeros of at most `fuel` digits into the exponent. -/
def Scaled.withoutZeros (fuel : Nat) (d : Scaled) : Scaled :=
  match fuel with
  | 0 => d
  | n + 1 =>
    if d.digits ≠ 0 && d.digits % 10 = 0 then
      Scaled.withoutZeros n ⟨d.digits / 10, d.exponent + 1⟩
    else d

/-- The shortest decimal that reads back as the float. -/
def Binary.shortest (x : Binary) : Scaled :=
  match (List.range' 1 17).findSome? (x.ofLength? x.scale) with
  | some d => d.withoutZeros 17
  | none =>
    ⟨x.mantissa * Nat.pow 2 x.exponent.toNat * Nat.pow 5 (-x.exponent).toNat,
      -(-x.exponent).toNat⟩

end Inlay.Decimal
