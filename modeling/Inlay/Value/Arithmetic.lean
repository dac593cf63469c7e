/-
  Inlay.Value.Arithmetic
  ────────────────────────────────
  **ARITHMETIC ON NUMBERS.**

  Whole numbers are unbounded; together with a float they become floats.
  Division of whole numbers is exact before it is rounded, and a floor
  division and its remainder have the sign of the divisor.
-/
import Inlay.Decimal.Exact
import Inlay.Value.Kind

namespace Inlay

open Inlay.Code

/-! ## §1. Faults. -/

/-- What keeps an operation on numbers from having a result. -/
inductive ArithmeticFault where
  | divisionByZero | floorDivisionByZero | moduloByZero
  | realDivisionByZero | realFloorDivisionByZero | realModuloByZero
  | zeroToNegativePower
  | quotientTooLarge | wholeTooLarge | powerTooLarge
  | negativeShift
  /-- The operation is not defined for these kinds of numbers. -/
  | unsupported
  /-- The result is not part of this model. -/
  | unmodelled

namespace ArithmeticFault

/-- The class of the exception for a fault. -/
def errorClass : ArithmeticFault → ErrorClass
  | quotientTooLarge | wholeTooLarge | powerTooLarge => .overflow
  | negativeShift => .value
  | unsupported | unmodelled => .type
  | _ => .zeroDivision

/-- What the exception for a fault says. -/
def message : ArithmeticFault → String
  | divisionByZero => "division by zero"
  | floorDivisionByZero => "integer division or modulo by zero"
  | moduloByZero => "integer modulo by zero"
  | realDivisionByZero => "float division by zero"
  | realFloorDivisionByZero => "float floor division by zero"
  | realModuloByZero => "float modulo"
  | zeroToNegativePower => "0.0 cannot be raised to a negative power"
  | quotientTooLarge => "integer division result too large for a float"
  | wholeTooLarge => "int too large to convert to float"
  | powerTooLarge => "Numerical result out of range"
  | negativeShift => "negative shift count"
  | unsupported | unmodelled => ""

/-- The number of the fault that the host system gives for a result out of range. -/
def rangeFaultNumber : Int := 34

/-- The exception for a fault. -/
def toExc : ArithmeticFault → Exc
  | powerTooLarge =>
    .of .overflow [.int rangeFaultNumber, .text powerTooLarge.message]
  | f => .saying f.errorClass f.message

end ArithmeticFault

/-! ## §2. Whole numbers. -/

/-- Shifts and powers with a larger second operand are not part of this model. -/
def maxExponent : Int := 1000000

/-- A bitwise operation on whole numbers, in a width that holds both of them. -/
def bitwise (f : Nat → Nat → Nat) (a b : Int) : Int :=
  let width := max (Decimal.bitCount a.natAbs) (Decimal.bitCount b.natAbs) + 1
  let modulus : Int := Nat.pow 2 width
  let r : Int := f (a % modulus).toNat (b % modulus).toNat
  if 2 * r < modulus then r else r - modulus

/-- A whole number as a float. -/
def wholeToFloat (n : Int) : Except ArithmeticFault Float :=
  let x := Decimal.nearestQuotient n 1
  if x.isInf then .error .wholeTooLarge else .ok x

/-- A power of floats. -/
def realPower (x y : Float) : Except ArithmeticFault Number :=
  if x == 0 && y < 0 then .error .zeroToNegativePower
  else if x < 0 && x.isFinite && y.isFinite && !Decimal.isWhole y then .error .unmodelled
  else
    let z := x.pow y
    if z.isInf && x.isFinite && y.isFinite then .error .powerTooLarge else .ok (.real z)

/-- An operation on whole numbers. -/
def wholeBinary (op : BinaryOp) (a b : Int) : Except ArithmeticFault Number :=
  match op with
  | .add => .ok (.whole (a + b))
  | .sub => .ok (.whole (a - b))
  | .mul => .ok (.whole (a * b))
  | .matMul => .error .unsupported
  | .div =>
    if b = 0 then .error .divisionByZero
    else
      let x := Decimal.nearestQuotient a b
      if x.isInf then .error .quotientTooLarge else .ok (.real x)
  | .floorDiv => if b = 0 then .error .floorDivisionByZero else .ok (.whole (a.fdiv b))
  | .mod => if b = 0 then .error .moduloByZero else .ok (.whole (a.fmod b))
  | .pow =>
    if b < 0 then do realPower (← wholeToFloat a) (← wholeToFloat b)
    else if b ≤ maxExponent then .ok (.whole (a.pow b.toNat))
    else if a.natAbs ≤ 1 then .ok (.whole (a.pow (2 - b.toNat % 2)))
    else .error .unmodelled
  | .shiftLeft =>
    if b < 0 then .error .negativeShift
    else if maxExponent < b then .error .unmodelled
    else .ok (.whole (a * Nat.pow 2 b.toNat))
  | .shiftRight =>
    if b < 0 then .error .negativeShift
    else if maxExponent < b then .ok (.whole (if a < 0 then -1 else 0))
    else .ok (.whole (a.fdiv (Nat.pow 2 b.toNat)))
  | .bitOr => .ok (.whole (bitwise (· ||| ·) a b))
  | .bitXor => .ok (.whole (bitwise (· ^^^ ·) a b))
  | .bitAnd => .ok (.whole (bitwise (· &&& ·) a b))

/-! ## §3. Floats. -/

/-- The zero with the sign of a float. -/
def signedZero (x : Float) : Float := if x.toBits >>> 63 = 1 then -0.0 else 0.0

/-- Quotient and remainder of a floor division of floats. -/
def realFloorDivision (x y : Float) : Float × Float :=
  let m := if x.isFinite && y.isFinite then Decimal.remainder x y
    else if y.isInf && x.isFinite then x else 0.0 / 0.0
  let q := (x - m) / y
  let (m, q) :=
    if m == 0 then (signedZero y, q)
    else if decide (y < 0) != decide (m < 0) then (m + y, q - 1) else (m, q)
  if q == 0 then (signedZero (x / y), m)
  else
    let f := q.floor
    (if 0.5 < q - f then f + 1 else f, m)

/-- An operation on floats. -/
def realBinary (op : BinaryOp) (x y : Float) : Except ArithmeticFault Number :=
  match op with
  | .add => .ok (.real (x + y))
  | .sub => .ok (.real (x - y))
  | .mul => .ok (.real (x * y))
  | .div => if y == 0 then .error .realDivisionByZero else .ok (.real (x / y))
  | .floorDiv =>
    if y == 0 then .error .realFloorDivisionByZero else .ok (.real (realFloorDivision x y).1)
  | .mod => if y == 0 then .error .realModuloByZero else .ok (.real (realFloorDivision x y).2)
  | .pow => realPower x y
  | _ => .error .unsupported

/-! ## §4. Numbers. -/

/-- A number as a float. -/
def Number.toReal : Number → Except ArithmeticFault Float
  | whole n => wholeToFloat n
  | real x => .ok x

/-- Does the operation work on bits? -/
def isBitwise : BinaryOp → Bool
  | .matMul | .shiftLeft | .shiftRight | .bitOr | .bitXor | .bitAnd => true
  | _ => false

/-- An operation on numbers. -/
def Number.binary (op : BinaryOp) : Number → Number → Except ArithmeticFault Number
  | whole a, whole b => wholeBinary op a b
  | a, b => if isBitwise op then .error .unsupported else do realBinary op (← a.toReal) (← b.toReal)

/-- A number as a value. -/
def Number.toValue : Number → Run Value
  | whole n => return .int n
  | real x => .float x

end Inlay
