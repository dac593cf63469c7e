/-
  Inlay.Value.Reading
  ────────────────────────────────
  **NUMBERS READ FROM TEXTS.**

  Blanks around a number are ignored; single underscores may stand between
  its digits, which may be those of any script.
-/
import Inlay.Code.Number
import Inlay.Text.Blank
import Inlay.Text.Digit

namespace Inlay

open Inlay.Code

/-! ## §1. Digits and blanks. -/

/-- A blank of ASCII at the edge of a number. -/
def isEdgeBlank (c : Char) : Bool := c = ' ' || (9 ≤ c.toNat && c.toNat ≤ 13)

/-- A character beyond ASCII as the blank or the digit of ASCII that it stands for. -/
def plainChar (c : Char) : Char :=
  if c.toNat < 128 then c
  else if Text.isBlank c then ' '
  else
    match Text.decimalValue? c with
    | some n => Char.ofNat (48 + n)
    | none => '?'

/-- The characters of a number, without the blanks around it. -/
def numberChars (s : String) : List Char :=
  let cs := (s.toList.map plainChar).dropWhile isEdgeBlank
  (cs.reverse.dropWhile isEdgeBlank).reverse

/-- The sign at the start of a text, and what stands behind it. -/
def signOf : List Char → Bool × List Char
  | '-' :: s => (true, s)
  | '+' :: s => (false, s)
  | s => (false, s)

/-- The digits at the start of a text, the first of which is one. -/
def leadingDigits? (s : List Char) : Option (List Char × List Char) :=
  if s.head?.any Char.isDigit then digitRun? 10 s else none

/-! ## §2. Whole numbers. -/

/-- The value of a digit in bases up to thirty-six. -/
def letterValue? (base : Nat) (c : Char) : Option Nat :=
  let v :=
    if '0' ≤ c && c ≤ '9' then c.toNat - 48
    else if 'a' ≤ c && c ≤ 'z' then c.toNat - 87
    else if 'A' ≤ c && c ≤ 'Z' then c.toNat - 55
    else 36
  if v < base then some v else none

/-- The base that a prefix announces. -/
def prefixBase? : List Char → Option Nat
  | '0' :: x :: _ =>
    if x = 'x' || x = 'X' then some 16
    else if x = 'o' || x = 'O' then some 8
    else if x = 'b' || x = 'B' then some 2
    else none
  | _ => none

/-- The base of a number, and its digits: without a base, the prefix tells it, and a number in
base ten does not start with a zero. -/
def baseAndDigits? (base : Nat) (s : List Char) : Option (Nat × List Char) :=
  match prefixBase? s with
  | some b =>
    if base = 0 || base = b then
      let r := s.drop 2
      some (b, if r.head? = some '_' then r.tail else r)
    else some (base, s)
  | none =>
    if base ≠ 0 then some (base, s)
    else if s.head? = some '0' && s.any (fun c => c ≠ '0' && c ≠ '_') then none
    else some (10, s)

/-- The digits at the start of a text, single underscores between them dropped; nothing if an
underscore is out of place.  `last` tells whether a digit stands in front. -/
def letterRun? (base : Nat) (last : Bool) : List Char → Option (List Nat × List Char)
  | [] => if last then some ([], []) else none
  | c :: s =>
    if c = '_' then
      if last then letterRun? base false s else none
    else
      match letterValue? base c with
      | some v => (letterRun? base true s).map (fun p => (v :: p.1, p.2))
      | none => if last then some ([], c :: s) else none

/-- What a text says that should be a whole number. -/
inductive WholeReading where
  | number (n : Int)
  /-- There are too many digits. -/
  | tooLong (digits : Nat)
  | none

/-- May so many digits of a base be read? -/
def readsDigits (base count limit : Nat) : Bool :=
  [2, 4, 8, 16, 32].contains base || count ≤ limit

/-- The whole number that a text spells in a base, which is told by a prefix if it is zero; in
other bases than powers of two there may be `limit` digits. -/
def readWhole (limit base : Nat) (s : String) : WholeReading :=
  let (negative, cs) := signOf (numberChars s)
  match baseAndDigits? base cs with
  | Option.none => .none
  | some (b, cs) =>
    match letterRun? b false cs with
    | Option.none => .none
    | some (digits, rest) =>
      if !readsDigits b digits.length limit then .tooLong digits.length
      else if !rest.isEmpty then .none
      else
        let n := digits.foldl (fun n v => n * b + v) 0
        .number (if negative then -(n : Int) else n)

/-! ## §3. Floats. -/

/-- What remains of a text behind the exponent at its start, with the exponent. -/
def readScale? (s : List Char) : Option Int :=
  match s with
  | [] => some 0
  | e :: r =>
    if e = 'e' || e = 'E' then do
      let (negative, r) := signOf r
      match ← leadingDigits? r with
      | (digits, []) =>
        let n : Int := digitsValue 10 digits
        some (if negative then -n else n)
      | _ => none
    else none

/-- The float that a text without blanks and sign spells. -/
def readMagnitude? (s : List Char) : Option Float := do
  let word := s.map Char.toLower
  if word = "inf".toList || word = "infinity".toList then return 1.0 / 0.0
  if word = "nan".toList then return 0.0 / 0.0
  let (whole, rest) := (leadingDigits? s).getD ([], s)
  let (fraction, rest) :=
    match rest with
    | '.' :: r => (leadingDigits? r).getD ([], r)
    | r => ([], r)
  if whole.isEmpty && fraction.isEmpty then none
  let scale ← readScale? rest
  return floatOf (digitsValue 10 (whole ++ fraction)) (scale - fraction.length)

/-- The float that a text spells. -/
def readReal? (s : String) : Option Float := do
  let (negative, cs) := signOf (numberChars s)
  let x ← readMagnitude? cs
  return if negative then -x else x

end Inlay
