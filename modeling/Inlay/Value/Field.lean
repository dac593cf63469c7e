/-
  Inlay.Value.Field
  ────────────────────────────────
  **FIELDS OF FORMATTED TEXT.**

  A format says how a value fills a field: which character pads it and on
  which side, which signs are shown, how wide the field is at least, how
  digits are grouped, how precise the value is, and in which presentation.

      [[fill]align][sign][z][#][0][width][grouping][.precision][presentation]
-/
import Inlay.Decimal.Places
import Inlay.Text.Digit
import Inlay.Value.Arithmetic

namespace Inlay

/-! ## §1. Formats. -/

/-- How a value fills a field. -/
structure Field where
  fill : Char := ' '
  /-- The side that the value stands on: `<`, `>`, `^`, or `=` for padding behind the sign. -/
  align : Char
  sign : Option Char := none
  /-- A negative zero becomes a positive one. -/
  coercesZero : Bool := false
  alternate : Bool := false
  width : Option Nat := none
  grouping : Option Char := none
  precision : Option Nat := none
  presentation : Option Char := none
  deriving Repr, DecidableEq

/-- What is wrong with a format. -/
inductive FieldFault where
  | invalid (spec kind : String)
  | unknownPresentation (presentation : Char) (kind : String)
  | tooManyDigits
  | noPrecision
  | bothGroupings
  | grouping (separator presentation : Char)
  | notForText (what : String)
  | precisionOfWhole
  | zeroOfWhole
  | notForCharacter (what : String)
  | characterRange
  | characterSize
  | precisionTooBig
  | arithmetic (f : ArithmeticFault)
  /-- The value has no text. -/
  | tooLong
  /-- The result is not part of this model. -/
  | unmodelled

/-- A character as messages about formats show it. -/
def shownPresentation (c : Char) : String :=
  if 32 < c.toNat && c.toNat < 128 then String.singleton c
  else "\\x" ++ String.ofList (Nat.toDigits 16 c.toNat)

/-- What is said of a fault. -/
def FieldFault.message : FieldFault → String
  | invalid spec kind =>
    "Invalid format specifier '" ++ spec ++ "' for object of type '" ++ kind ++ "'"
  | unknownPresentation c kind =>
    "Unknown format code '" ++ shownPresentation c ++ "' for object of type '" ++ kind ++ "'"
  | tooManyDigits => "Too many decimal digits in format string"
  | noPrecision => "Format specifier missing precision"
  | bothGroupings => "Cannot specify both ',' and '_'."
  | grouping s c =>
    "Cannot specify '" ++ String.singleton s ++ "' with '" ++ shownPresentation c ++ "'."
  | notForText what => what ++ " not allowed in string format specifier"
  | precisionOfWhole => "Precision not allowed in integer format specifier"
  | zeroOfWhole => "Negative zero coercion (z) not allowed in integer format specifier"
  | notForCharacter what => what ++ " not allowed with integer format specifier 'c'"
  | characterRange => "%c arg not in range(0x110000)"
  | characterSize => "Python int too large to convert to C long"
  | precisionTooBig => "precision too big"
  | arithmetic f => f.message
  | tooLong => "Exceeds the limit (4300 digits) for integer string conversion"
  | unmodelled => ""

/-- The class of the exception for a fault. -/
def FieldFault.errorClass : FieldFault → ErrorClass
  | characterRange | characterSize => .overflow
  | arithmetic f => f.errorClass
  | _ => .value

/-! ## §2. Reading formats. -/

/-- Does the character tell a side? -/
def isAlign (c : Char) : Bool := c = '<' || c = '>' || c = '=' || c = '^'

/-- The fill and the side at the start of a format, as far as they are given. -/
def readAlign : List Char → Option Char × Option Char × List Char
  | f :: a :: s =>
    if isAlign a then (some f, some a, s)
    else if isAlign f then (none, some f, a :: s)
    else (none, none, f :: a :: s)
  | [a] => if isAlign a then (none, some a, []) else (none, none, [a])
  | [] => (none, none, [])

/-- A certain character at the start of a format, and what stands behind it. -/
def takeChar (c : Char) : List Char → Bool × List Char
  | d :: s => if c = d then (true, s) else (false, d :: s)
  | [] => (false, [])

/-- The decimal digits of any script at the start of a format, as a number. -/
def readCount (s : List Char) : Option Nat × List Char :=
  let ds := s.takeWhile (fun c => (Text.decimalValue? c).isSome)
  let n := ds.foldl (fun n c => 10 * n + (Text.decimalValue? c).getD 0) 0
  (if ds.isEmpty then none else some n, s.drop ds.length)

/-- The first count that is too large for a format. -/
def countLimit : Nat := 0x8000000000000000

/-- The separator of groups at the start of a format. -/
def readGrouping (s : List Char) : Except FieldFault (Option Char × List Char) :=
  let (comma, s) := takeChar ',' s
  let (bar, s) := takeChar '_' s
  if comma && bar then .error .bothGroupings
  else if bar && s.head? = some ',' then .error .bothGroupings
  else .ok (if comma then some ',' else if bar then some '_' else none, s)

/-- May digits be grouped by the separator in the presentation? -/
def allowsGrouping (separator presentation : Char) : Bool :=
  ['d', 'e', 'f', 'g', 'E', 'G', '%', 'F'].contains presentation
    || (separator = '_' && ['b', 'o', 'x', 'X'].contains presentation)

/-- A format for values of a kind, which stand on the given side and have the given presentation
unless it says something else. -/
def Field.read (kind : String) (align : Char) (presentation : Option Char) (spec : String) :
    Except FieldFault Field := do
  let (fill, side, s) := readAlign spec.toList
  let (sign, s) :=
    match s with
    | c :: r => if c = ' ' || c = '+' || c = '-' then (some c, r) else (none, c :: r)
    | [] => (none, [])
  let (coerces, s) := takeChar 'z' s
  let (alternate, s) := takeChar '#' s
  let (zero, s) := if fill.isNone then takeChar '0' s else (false, s)
  let fill := fill.getD (if zero then '0' else ' ')
  let side := side.getD (if zero && align = '>' then '=' else align)
  let (width, s) := readCount s
  if width.any (countLimit ≤ ·) then throw .tooManyDigits
  let (grouping, s) ← readGrouping s
  let (dot, s) := takeChar '.' s
  let (precision, s) := if dot then readCount s else (none, s)
  if precision.any (countLimit ≤ ·) then throw .tooManyDigits
  if dot && precision.isNone then throw .noPrecision
  let presentation ←
    match s with
    | [] => pure presentation
    | [c] => pure (some c)
    | _ => throw (.invalid spec kind)
  match grouping, presentation with
  | some g, some c => if !allowsGrouping g c then throw (.grouping g c)
  | _, _ => pure ()
  return ⟨fill, side, sign, coerces, alternate, width, grouping, precision, presentation⟩

/-! ## §3. Padding. -/

/-- Fields wider than this are not part of this model. -/
def maxWidth : Nat := 10000000

/-- A text in a field of at least the given width. -/
def padded (f : Field) (s : List Char) : List Char :=
  let n := f.width.getD 0 - s.length
  match f.align with
  | '<' => s ++ List.replicate n f.fill
  | '^' => List.replicate (n / 2) f.fill ++ s ++ List.replicate (n - n / 2) f.fill
  | _ => List.replicate n f.fill ++ s

/-- The groups of digits, the last one first: digits in reverse, filled with zeros up to a
width in which the separators count. -/
def groupDigits (separator : Char) (size : Nat) (width : Int) : Nat → List Char → List Char
  | 0, reversed => reversed
  | n + 1, reversed =>
    let count := min size (max (max reversed.length width.toNat) 1)
    let here := reversed.take count ++ List.replicate (count - reversed.length) '0'
    let rest := reversed.drop count
    let width := width - count
    if rest.isEmpty && width ≤ 0 then here
    else here ++ separator :: groupDigits separator size (width - 1) n rest

/-- Digits filled with zeros up to a width, in groups if a separator is given. -/
def groupedDigits (separator : Option Char) (size : Nat) (width : Int) (digits : List Char) :
    List Char :=
  match separator with
  | none => List.replicate (max 1 width.toNat - digits.length) '0' ++ digits
  | some c =>
    (groupDigits c size width (digits.length + width.toNat + 1) digits.reverse).reverse

/-- A number in a field: its sign, what stands in front of its digits, the digits of its whole
part, and what stands behind them. -/
def numberInField (f : Field) (groupSize : Nat) (negative : Bool) (lead digits rest : List Char) :
    List Char :=
  let sign :=
    if negative then ['-']
    else match f.sign with
      | some '+' => ['+']
      | some ' ' => [' ']
      | _ => []
  let others : Int := sign.length + lead.length + rest.length
  let width : Int := f.width.getD 0
  let least : Int := if f.fill = '0' && f.align = '=' then width - others else 0
  let digits := if digits.isEmpty then [] else groupedDigits f.grouping groupSize least digits
  if f.align = '=' then
    let n := (width - others - digits.length).toNat
    sign ++ lead ++ List.replicate n f.fill ++ digits ++ rest
  else padded f (sign ++ lead ++ digits ++ rest)

/-- Fail if a field is wider than this model allows. -/
def Field.checkWidth (f : Field) : Except FieldFault Unit :=
  if f.width.any (maxWidth < ·) then .error .unmodelled else .ok ()

/-! ## §4. Texts. -/

/-- A text in a field. -/
def formatText (s spec : String) : Except FieldFault String := do
  if spec.isEmpty then return s
  let f ← Field.read "str" '<' (some 's') spec
  match f.presentation with
  | some 's' | none => pure ()
  | some c => throw (.unknownPresentation c "str")
  if f.sign.isSome then
    throw (.notForText (if f.sign = some ' ' then "Space" else "Sign"))
  if f.coercesZero then throw (.notForText "Negative zero coercion (z)")
  if f.alternate then throw (.notForText "Alternate form (#)")
  if f.align = '=' then throw (.notForText "'=' alignment")
  f.checkWidth
  let cs := s.toList
  return String.ofList (padded f (match f.precision with
    | some n => cs.take n
    | none => cs))

/-! ## §5. Numbers. -/

/-- What is joined to the digits of a base. -/
def basePrefix : Char → List Char
  | 'b' => ['0', 'b']
  | 'o' => ['0', 'o']
  | 'x' => ['0', 'x']
  | 'X' => ['0', 'X']
  | _ => []

/-- The base of a presentation. -/
def baseOf : Char → Nat
  | 'b' => 2
  | 'o' => 8
  | 'x' => 16
  | 'X' => 16
  | _ => 10

/-- Letters of ASCII in upper case. -/
def upperAscii (s : List Char) : List Char := s.map Char.toUpper

/-- Whole numbers with more digits than this have no text in base ten. -/
def maxShownDigits : Nat := 4300

/-- A whole number as a character in a field. -/
def formatCharacter (f : Field) (n : Int) : Except FieldFault String := do
  if f.sign.isSome then throw (.notForCharacter "Sign")
  if f.alternate then throw (.notForCharacter "Alternate form (#)")
  if n < -0x8000000000000000 || 0x8000000000000000 ≤ n then throw .characterSize
  if n < 0 || 0x110000 ≤ n then throw .characterRange
  if !n.toNat.isValidChar then throw .unmodelled
  return String.ofList (numberInField f 3 false [] [] [Char.ofNat n.toNat])

/-- A whole number in a field, digit by digit. -/
def formatDigits (f : Field) (presentation : Char) (n : Int) : Except FieldFault String := do
  let base := baseOf presentation
  if base = 10 && Nat.pow 10 maxShownDigits ≤ n.natAbs then throw .tooLong
  let ds := Nat.toDigits base n.natAbs
  let ds := if presentation = 'X' then upperAscii ds else ds
  return String.ofList (numberInField f (if base = 10 then 3 else 4) (n < 0)
    (if f.alternate then basePrefix presentation else []) ds [])

/-- The style of a presentation of floats. -/
def styleOf (presentation : Option Char) (precision : Option Nat) : Decimal.Style :=
  match presentation, precision with
  | none, none => .shortest
  | none, some n => .generalPointed n
  | some c, p =>
    let n := p.getD 6
    if c = 'e' || c = 'E' then .exponent n
    else if c = 'f' || c = 'F' || c = '%' then .fixed n
    else .general n

/-- A float in a field. -/
def formatReal (f : Field) (x : Float) : Except FieldFault String := do
  if f.precision.any (0x80000000 ≤ ·) then throw .precisionTooBig
  if f.precision.any (100000 ≤ ·) then throw .unmodelled
  f.checkWidth
  let percent := f.presentation = some '%'
  let x := if percent then x * 100 else x
  let raised := f.presentation.any (fun c => c = 'E' || c = 'F' || c = 'G')
  let negative := x.toBits >>> 63 = 1 && !x.isNaN
  let tail := if percent then ['%'] else []
  let cased (s : List Char) : List Char := if raised then upperAscii s else s
  if x.isNaN then return String.ofList (numberInField f 3 false [] [] (cased "nan".toList ++ tail))
  if x.isInf then
    return String.ofList (numberInField f 3 negative [] [] (cased "inf".toList ++ tail))
  let s := Decimal.sizeText (styleOf f.presentation f.precision) f.alternate x
  let negative := negative && !(f.coercesZero && s.all (fun c => !('1' ≤ c && c ≤ '9')))
  let whole := s.takeWhile Char.isDigit
  return String.ofList
    (numberInField f 3 negative [] whole (cased (s.drop whole.length) ++ tail))

/-- The presentations of whole numbers. -/
def wholePresentations : List Char := ['b', 'c', 'd', 'o', 'x', 'X', 'n']

/-- The presentations of floats. -/
def realPresentations : List Char := ['e', 'E', 'f', 'F', 'g', 'G', '%', 'n']

/-- A whole number in a field. -/
def formatWhole (kind : String) (n : Int) (spec : String) : Except FieldFault String := do
  let f ← Field.read kind '>' (some 'd') spec
  let c := f.presentation.getD 'd'
  if wholePresentations.contains c then
    if f.precision.isSome then throw .precisionOfWhole
    if f.coercesZero then throw .zeroOfWhole
    f.checkWidth
    if c = 'c' then formatCharacter f n else formatDigits f c n
  else if realPresentations.contains c then
    match wholeToFloat n with
    | .ok x => formatReal f x
    | .error e => throw (.arithmetic e)
  else throw (.unknownPresentation c kind)

/-- A float in a field. -/
def formatFloat (x : Float) (spec : String) : Except FieldFault String := do
  let f ← Field.read "float" '>' none spec
  match f.presentation with
  | some c =>
    if !realPresentations.contains c then throw (.unknownPresentation c "float")
    formatReal f x
  | none => formatReal f x

end Inlay
