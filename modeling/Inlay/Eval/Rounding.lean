/-
  Inlay.Eval.Rounding
  ────────────────────────────────
  **FUNCTIONS OF NUMBERS.**

  Rounding to places, quotient and remainder, powers with a modulus, numbers
  in other bases, and characters by their code points.
-/
import Inlay.Decimal.Places
import Inlay.Eval.Conversion

namespace Inlay

open Inlay.Code

/-! ## §1. Rounding. -/

/-- A whole number rounded to a multiple of another one; a tie goes to the even multiple. -/
def roundedTo (n : Int) (unit : Nat) : Int :=
  let q : Int := Decimal.roundedQuotient n.natAbs unit
  (if n < 0 then -q else q) * unit

/-- A float rounded to places behind its point. -/
def roundedFloat (x : Float) (places : Int) : Float :=
  if 400 < places then x
  else
    let (n, d) := Decimal.fraction x
    let q := Decimal.roundedQuotient (n.natAbs * Nat.pow 10 places.toNat) (d * Nat.pow 10 (-places).toNat)
    let z := floatOf q (-places)
    if x.toBits >>> 63 = 1 then -z else z

/-- The function `round`. -/
def callRound (args : List Value) (keywords : List (String × Value)) : Run Value := do
  let values ← argumentsOf "round" ["number", "ndigits"] 1 args keywords
  let v := values.head?.join.getD .none
  match v.number?, values[1]?.join.getD .none with
  | none, _ => .fail .type ("type " ++ (← v.kind) ++ " doesn't define __round__ method")
  | some (.whole n), .none => return .int n
  | some (.whole n), places => do
    let k ← places.toIndex
    return .int (if 0 ≤ k then n else if k < -10000 then 0 else roundedTo n (Nat.pow 10 (-k).toNat))
  | some (.real x), .none =>
    if x.isNaN then .fail .value "cannot convert float NaN to integer"
    else if x.isInf then .fail .overflow "cannot convert float infinity to integer"
    else
      let (n, d) := Decimal.fraction x
      let q : Int := Decimal.roundedQuotient n.natAbs d
      return .int (if n < 0 then -q else q)
  | some (.real x), places => do
    let k ← places.toIndex
    if !x.isFinite then return v
    else if k < -400 then return .float (if x.toBits >>> 63 = 1 then -0.0 else 0.0)
    else
      let z := roundedFloat x k
      if z.isInf then .fail .overflow "rounded value too large to represent" else return .float z

/-! ## §2. Quotients and powers. -/

/-- The function `divmod`. -/
def callDivMod (args : List Value) (keywords : List (String × Value)) : Run Value := do
  noKeywords "divmod" keywords
  argumentRange "divmod" 2 2 args
  let a := args[0]?.getD .none
  let b := args[1]?.getD .none
  match a.number?, b.number? with
  | some (.whole m), some (.whole n) =>
    if n = 0 then .fail .zeroDivision "integer division or modulo by zero"
    else return .tuple [.int (m.fdiv n), .int (m.fmod n)]
  | some x, some y =>
    match x.toReal, y.toReal with
    | .ok u, .ok v =>
      if v == 0 then .fail .zeroDivision "float divmod()"
      else
        let (q, r) := realFloorDivision u v
        return .tuple [← Run.float q, ← Run.float r]
    | .error f, _ => .throw f.toExc
    | _, .error f => .throw f.toExc
  | _, _ =>
    .fail .type ("unsupported operand type(s) for divmod(): '" ++ (← a.kind) ++ "' and '"
      ++ (← b.kind) ++ "'")

/-- A power modulo a number, by squaring. -/
def powerMod (base exponent modulus : Nat) : Nat → Nat
  | 0 => 1 % modulus
  | n + 1 =>
    if exponent = 0 then 1 % modulus
    else
      let half := powerMod (base * base % modulus) (exponent / 2) modulus n
      if exponent % 2 = 1 then half * base % modulus else half

/-- The function `pow`. -/
def callPow (args : List Value) (keywords : List (String × Value)) : Run Value := do
  let values ← argumentsOf "pow" ["base", "exp", "mod"] 2 args keywords
  let arg (i : Nat) : Value := values[i]?.join.getD .none
  match arg 2 with
  | .none => (arg 0).binary false .pow (arg 1)
  | m =>
    match (arg 0).whole?, (arg 1).whole?, m.whole? with
    | some x, some y, some z =>
      if z = 0 then .fail .value "pow() 3rd argument cannot be 0"
      else if y < 0 then .leave "inverses"
      else
        let r : Int := powerMod (x.emod z).toNat y.toNat z.natAbs (y.toNat.log2 + 1)
        return .int (if z < 0 && r ≠ 0 then r + z else r)
    | _, _, _ =>
      let kinds := [← (arg 0).kind, ← (arg 1).kind, ← m.kind]
      if kinds.contains "float" then
        .fail .type "pow() 3rd argument not allowed unless all arguments are integers"
      else
        .fail .type ("unsupported operand type(s) for ** or pow(): "
          ++ String.intercalate ", " (kinds.map (fun k => "'" ++ k ++ "'")))

/-! ## §3. Digits and characters. -/

/-- A whole number in a base, with the prefix of that base. -/
def inBase (lead : Char) (base : Nat) (v : Value) : Run Value := do
  let n ← v.toIndex
  return .text (String.ofList
    ((if n < 0 then ['-'] else []) ++ '0' :: lead :: Nat.toDigits base n.natAbs))

/-- The function `chr`. -/
def Value.toCharacter (v : Value) : Run Value := do
  let n ← v.toIndex
  if n < -0x80000000 || 0x80000000 ≤ n then
    .fail .overflow "Python int too large to convert to C int"
  else if n < 0 || 0x110000 ≤ n then .fail .value "chr() arg not in range(0x110000)"
  else if n.toNat.isValidChar then return .text (String.singleton (Char.ofNat n.toNat))
  else .leave "a character that is none"

/-- The function `ord`. -/
def Value.codePoint (v : Value) : Run Value := do
  match v with
  | .text s =>
    match s.toList with
    | [c] => return .int c.toNat
    | cs =>
      .fail .type ("ord() expected a character, but string of length " ++ toString cs.length
        ++ " found")
  | _ => .fail .type ("ord() expected string of length 1, but " ++ (← v.kind) ++ " found")

end Inlay
