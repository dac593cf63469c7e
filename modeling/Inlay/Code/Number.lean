/-
  Inlay.Code.Number
  ────────────────────────────────
  **NUMBERS IN EMBEDDED CODE.**

  Whole numbers in the bases two, eight, ten and sixteen, decimal fractions
  with and without exponent, and multiples of the imaginary unit.  Single
  underscores may stand between digits.  A number of base ten other than
  zero does not start with a zero.

  `readNumber?` gives the constant and the text behind it, and refuses a
  number that a letter or a digit follows at once, except where the letters
  begin a word that may stand behind a number.
-/
import Inlay.Code.Syntax
import Inlay.Text.Identifier

namespace Inlay.Code

/-! ## §1. Runs of digits. -/

/-- The value of a digit in a base up to sixteen. -/
def digitValue? (base : Nat) (c : Char) : Option Nat :=
  let v :=
    if '0' ≤ c && c ≤ '9' then c.toNat - 48
    else if 'a' ≤ c && c ≤ 'f' then c.toNat - 87
    else if 'A' ≤ c && c ≤ 'F' then c.toNat - 55
    else 16
  if v < base then some v else none

/-- Is the character a digit of the base? -/
def isDigitOf (base : Nat) (c : Char) : Bool := (digitValue? base c).isSome

/-- The digits at the start of a text, with single underscores between them dropped; refused if
an underscore stands where no digit follows. -/
def digitRun? (base : Nat) : List Char → Option (List Char × List Char)
  | [] => some ([], [])
  | '_' :: s =>
    match s with
    | c :: _ => if isDigitOf base c then digitRun? base s else none
    | [] => none
  | c :: s =>
    if isDigitOf base c then (digitRun? base s).map (fun p => (c :: p.1, p.2))
    else some ([], c :: s)

/-- The number that digits spell. -/
def digitsValue (base : Nat) (digits : List Char) : Nat :=
  digits.foldl (fun n c => n * base + (digitValue? base c).getD 0) 0

/-! ## §2. The end of a number. -/

/-- May the text follow a number? -/
def endsNumber (s : List Char) : Bool :=
  match s with
  | [] => true
  | c :: r =>
    if [("and".toList), ("else".toList), ("for".toList), ("if".toList), ("in".toList),
        ("is".toList), ("or".toList), ("not".toList)].any (·.isPrefixOf (c :: r)) then true
    else !(c.isAlphanum || c = '_' || 128 ≤ c.toNat)

/-- A constant and the text behind it, if that text may follow. -/
def finishNumber? (c : Constant) (rest : List Char) : Option (Constant × List Char) :=
  if endsNumber rest then some (c, rest) else none

/-! ## §3. Reading a number. -/

/-- A number of base ten may have so many digits. -/
def maxWrittenDigits : Nat := 4300

/-- A whole number of base ten, unless it has too many digits. -/
def wholeConstant? (digits : List Char) : Option Constant :=
  let n := digitsValue 10 digits
  if n ≠ 0 && maxWrittenDigits < digits.length then none else some (.int n)

/-- A whole number whose base was announced. -/
def readBase? (base : Nat) (s : List Char) : Option (Constant × List Char) := do
  let s := if s.head? = some '_' then s.tail else s
  if !(s.head?.any (isDigitOf base)) then none
  let (digits, rest) ← digitRun? base s
  if rest.head?.any Char.isDigit then none
  finishNumber? (.int (digitsValue base digits)) rest

/-- The exponent at the start of a text: its value and the text behind it.  A letter e that no
exponent follows ends the number. -/
def readExponent? (s : List Char) : Option (Option Int × List Char) :=
  match s with
  | e :: r =>
    if e = 'e' || e = 'E' then
      let (sign, digits) : Option Int × List Char :=
        match r with
        | '+' :: t => (some 1, t)
        | '-' :: t => (some (-1), t)
        | t => (none, t)
      if digits.head?.any Char.isDigit then
        (digitRun? 10 digits).map
          (fun p => (some (sign.getD 1 * (digitsValue 10 p.1 : Int)), p.2))
      else if sign.isSome then none
      else if endsNumber s then some (none, s) else none
    else some (none, s)
  | [] => some (none, [])

/-- Decimals whose first digit stands at this place or before it are above all floats. -/
def infinitePlace : Int := 310

/-- Decimals whose first digit stands behind this place are too small for floats. -/
def vanishingPlace : Int := -330

/-- The float nearest to `digits · 10 ^ exponent`.  The place of the first digit is between three
tenths and a third of the number of binary digits. -/
def floatOf (digits : Nat) (exponent : Int) : Float :=
  let bits : Int := digits.log2
  if digits = 0 || (bits + 1) / 3 + 1 + exponent < vanishingPlace then 0
  else if infinitePlace ≤ bits * 3 / 10 + exponent then 1.0 / 0.0
  else Float.ofScientific digits (exponent < 0) exponent.natAbs

/-- What follows the whole part of a number of base ten.  `whole` has its digits, and
`leadingZero` says that they are not those of a whole number. -/
def readTail? (whole : List Char) (leadingZero : Bool) (s : List Char) :
    Option (Constant × List Char) := do
  let (fraction, s, hasPoint) ←
    match s with
    | '.' :: r =>
      if r.head?.any Char.isDigit then (digitRun? 10 r).map (fun p => (p.1, p.2, true))
      else some ([], r, true)
    | _ => some ([], s, false)
  let (exponent, s) ← readExponent? s
  let isFloat := hasPoint || exponent.isSome
  let digits := digitsValue 10 (whole ++ fraction)
  let scale := exponent.getD 0 - fraction.length
  match s with
  | j :: r =>
    if j = 'j' || j = 'J' then finishNumber? (.imaginary (floatOf digits scale)) r
    else if isFloat then finishNumber? (.float (floatOf digits scale)) s
    else if leadingZero then none
    else finishNumber? (← wholeConstant? whole) s
  | [] =>
    if isFloat then some (.float (floatOf digits scale), [])
    else if leadingZero then none
    else some (← wholeConstant? whole, [])

/-- The number at the start of a text that starts with a digit, or with a point and a digit. -/
def readNumber? (s : List Char) : Option (Constant × List Char) :=
  match s with
  | '0' :: 'x' :: r | '0' :: 'X' :: r => readBase? 16 r
  | '0' :: 'o' :: r | '0' :: 'O' :: r => readBase? 8 r
  | '0' :: 'b' :: r | '0' :: 'B' :: r => readBase? 2 r
  | '.' :: _ => readTail? [] false s
  | _ => do
    let (whole, rest) ← digitRun? 10 s
    readTail? whole (whole.head? = some '0' && whole.any (· ≠ '0')) rest

end Inlay.Code
