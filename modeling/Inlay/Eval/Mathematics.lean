/-
  Inlay.Eval.Mathematics
  ────────────────────────────────
  **THE MATHEMATICS MODULE.**

  Functions of numbers that a program must import.  Floats are taken as the
  fractions that they are, so nothing is rounded but the result.
-/
import Inlay.Decimal.Exact
import Inlay.Eval.Conversion

namespace Inlay

/-! ## §1. Arguments. -/

/-- The float that an argument stands for. -/
def Value.realArgument (v : Value) : Run Float := do
  match v.number?.map Number.toReal with
  | some (.ok x) => return x
  | some (.error f) => .throw f.toExc
  | Option.none => .fail .type ("must be real number, not " ++ (← v.kind))

/-- A number as a whole one, by a way to round fractions; `refusal` is told of what is no number. -/
def Value.rounded (round : Int → Nat → Int) (refusal : String) (v : Value) : Run Value := do
  match v.number? with
  | some (.whole n) => return .int n
  | some (.real x) =>
    if x.isNaN then .fail .value "cannot convert float NaN to integer"
    else if x.isInf then .fail .overflow "cannot convert float infinity to integer"
    else
      let (n, d) := Decimal.fraction x
      return .int (round n d)
  | Option.none => .fail .type refusal

/-! ## §2. Functions. -/

/-- Factorials above this one take too long. -/
def factorialLimit : Int := 100000

/-- The function `factorial`. -/
def callFactorial (v : Value) : Run Value := do
  let n ← v.toIndex
  if n < 0 then .fail .value "factorial() not defined for negative values"
  else if !fitsSize n then
    .fail .overflow "factorial() argument should not exceed 9223372036854775807"
  else if factorialLimit < n then .leave "large factorials"
  else return .int ((List.range n.toNat).foldl (fun p i => p * (i + 1)) 1 : Nat)

/-- Combine the sizes of whole numbers. -/
def combineSizes (op : Nat → Nat → Nat) (start : Nat) (args : List Value) : Run Value := do
  let ns ← args.mapM Value.toIndex
  return .int (ns.foldl (fun a n => op a n.natAbs) start : Nat)

/-- Call a function of the mathematics module. -/
def NumberFunction.call (f : NumberFunction) (args : List Value)
    (keywords : List (String × Value)) : Run Value := do
  let label := "math." ++ f.label
  let only := oneArgument label args keywords
  match f with
  | .floor => do
    let v ← only
    v.rounded (fun n d => n.fdiv d) ("must be real number, not " ++ (← v.kind))
  | .ceil => do
    let v ← only
    v.rounded (fun n d => -((-n).fdiv d)) ("must be real number, not " ++ (← v.kind))
  | .trunc => do
    let v ← only
    v.rounded (fun n d => n.tdiv d) ("type " ++ (← v.kind) ++ " doesn't define __trunc__ method")
  | .sqrt => do
    let x ← (← only).realArgument
    if x < 0 then .fail .value "math domain error" else Run.float x.sqrt
  | .fabs => do Run.float (← (← only).realArgument).abs
  | .isNan => return .bool (← (← only).realArgument).isNaN
  | .isInf => return .bool (← (← only).realArgument).isInf
  | .isFinite => return .bool (← (← only).realArgument).isFinite
  | .gcd => do
    noKeywords label keywords
    combineSizes Nat.gcd 0 args
  | .lcm => do
    noKeywords label keywords
    combineSizes Nat.lcm 1 args
  | .factorial => do callFactorial (← only)

end Inlay
