/-
  Inlay.Value.Gap
  ────────────────────────────────
  **TEXTS WITH GAPS.**

  A gap is a percent sign, then perhaps a key in parentheses, flags, a width
  and a precision, and at last a letter that says how the value is shown.

      %[(key)][flags][width][.precision][h|l|L]letter

  Values come one by one from a tuple; a single value fills a single gap; a
  key takes its value from a dictionary.
-/
import Inlay.Value.Field
import Inlay.Value.Sequence
import Inlay.Value.Show

namespace Inlay

/-! ## §1. Values for gaps. -/

/-- The values that gaps take: what is left of them, and the mapping that keys refer to. -/
structure Supply where
  rest : List Value
  mapping : Option Value

/-- Is the value asked for items by key? -/
def World.isMapping (w : World) : Value → Bool
  | .tuple _ => false
  | .text _ => false
  | .range _ _ _ => true
  | v =>
    match w.objectOf? v with
    | some (.list _) => true
    | some (.dict _) => true
    | _ => false

/-- The values that a value supplies. -/
def World.supplyOf (w : World) (v : Value) : Supply :=
  match v with
  | .tuple items => { rest := items, mapping := none }
  | v => { rest := [v], mapping := if w.isMapping v then some v else none }

/-- The next value. -/
def Supply.take (s : Supply) : Run (Value × Supply) :=
  match s.rest with
  | v :: rest => return (v, { s with rest := rest })
  | [] => .fail .type "not enough arguments for format string"

/-! ## §2. Gaps. -/

/-- A gap in a text. -/
structure Gap where
  flags : List Char
  width : Option Int
  precision : Option Int
  letter : Char
  /-- The place of the letter in the text. -/
  place : Nat
  deriving Repr, DecidableEq

/-- What is wrong with a text with gaps. -/
inductive GapFault where
  | incompleteKey
  | incomplete
  | widthTooBig
  | precisionTooBig
  deriving Repr, DecidableEq

/-- What is said of a fault. -/
def GapFault.message : GapFault → String
  | incompleteKey => "incomplete format key"
  | incomplete => "incomplete format"
  | widthTooBig => "width too big"
  | precisionTooBig => "precision too big"

/-- End with a fault. -/
def GapFault.raise {α : Type} (f : GapFault) : Run α := .fail .value f.message

/-- The key up to the closing parenthesis that belongs to it; `depth` are open ones inside. -/
def readKey (depth : Nat) : List Char → Option (List Char × List Char)
  | [] => none
  | ')' :: s =>
    match depth with
    | 0 => some ([], s)
    | d + 1 => (readKey d s).map (fun p => (')' :: p.1, p.2))
  | c :: s => (readKey (if c = '(' then depth + 1 else depth) s).map (fun p => (c :: p.1, p.2))

/-- What follows the key of a gap, and the supply, which is the value of the key if there is
one. -/
def takeKey (text : List Char) (s : Supply) : Run (List Char × Supply) := do
  match text, s.mapping with
  | '(' :: _, none => .fail .type "format requires a mapping"
  | '(' :: r, some d =>
    match readKey 0 r with
    | some (k, r) => return (r, { s with rest := [← d.item (.text (String.ofList k))] })
    | none => GapFault.incompleteKey.raise
  | text, _ => return (text, s)

/-- A width or a precision: how large it may be, and what is said if it is not. -/
structure Measure where
  limit : Nat
  fault : GapFault
  overflow : String

/-- Widths. -/
def Measure.width : Measure :=
  ⟨0x8000000000000000, .widthTooBig, "Python int too large to convert to C ssize_t"⟩

/-- Precisions. -/
def Measure.precision : Measure :=
  ⟨0x80000000, .precisionTooBig, "Python int too large to convert to C int"⟩

/-- A width or precision at the start of a text, which an asterisk takes from the supply. -/
def Measure.take (m : Measure) (text : List Char) (s : Supply) :
    Run (Option Int × List Char × Supply) := do
  match text with
  | '*' :: r =>
    let (v, s) ← s.take
    match v.whole? with
    | some n =>
      if n < -m.limit || m.limit ≤ n then .fail .overflow m.overflow else return (some n, r, s)
    | none => .fail .type "* wants int"
  | text =>
    let ds := text.takeWhile Char.isDigit
    let n := ds.foldl (fun n c => 10 * n + (c.toNat - 48)) 0
    if m.limit ≤ n then m.fault.raise
    else return (if ds.isEmpty then none else some n, text.drop ds.length, s)

/-- A gap behind its percent sign, what follows it, and what it leaves of the supply; `length` is
that of the whole text. -/
def readGap (length : Nat) (text : List Char) (s : Supply) : Run (Gap × List Char × Supply) := do
  let (text, s) ← takeKey text s
  let flags := text.takeWhile (['-', '+', ' ', '#', '0'].contains ·)
  let (width, text, s) ← Measure.width.take (text.drop flags.length) s
  let (precision, text, s) ←
    match text with
    | '.' :: r => do
      let (n, r, s) ← Measure.precision.take r s
      Pure.pure (some (n.getD 0), r, s)
    | r => Pure.pure (none, r, s)
  let text :=
    match text with
    | c :: r => if c = 'h' || c = 'l' || c = 'L' then r else text
    | [] => text
  match text with
  | [] => GapFault.incomplete.raise
  | c :: r => return (⟨flags, width, precision, c, length - text.length⟩, r, s)

/-! ## §3. Filling gaps. -/

/-- What stands in a gap: the text of the value, and whether it has a sign. -/
structure Filling where
  text : List Char
  signed : Bool
  /-- What stands between the sign and the digits. -/
  lead : List Char := []

/-- Fail because a value has the wrong kind for a gap. -/
def wrongKind {α : Type} (letter : Char) (wanted : String) (v : Value) : Run α := do
  .fail .type ("%" ++ String.singleton letter ++ " format: " ++ wanted ++ " is required, not "
    ++ (← v.kind))

/-- A value as a whole number for a gap. -/
def wholeForGap (letter : Char) (v : Value) : Run Int := do
  let exact := letter = 'o' || letter = 'x' || letter = 'X'
  match v.number? with
  | some (.whole n) => return n
  | some (.real x) =>
    if exact then wrongKind letter "an integer" v
    else if x.isNaN then .fail .value "cannot convert float NaN to integer"
    else if x.isInf then .fail .overflow "cannot convert float infinity to integer"
    else return Decimal.truncated x
  | none => wrongKind letter (if exact then "an integer" else "a real number") v

/-- A value as a float for a gap. -/
def realForGap (v : Value) : Run Float := do
  match v.number? with
  | some n =>
    match n.toReal with
    | .ok x => return x
    | .error f => .throw f.toExc
  | none => .fail .type ("must be real number, not " ++ (← v.kind))

/-- The text of a whole number in a gap. -/
def wholeFilling (g : Gap) (precision : Option Int) (n : Int) : Run Filling := do
  let c := if g.letter = 'i' || g.letter = 'u' then 'd' else g.letter
  let base := baseOf c
  if base = 10 && Nat.pow 10 maxDigits ≤ n.natAbs then .fail .value tooLongMessage
  let ds := Nat.toDigits base n.natAbs
  let ds := if c = 'X' then upperAscii ds else ds
  let ds := List.replicate ((precision.getD 0).toNat - ds.length) '0' ++ ds
  return ⟨(if n < 0 then ['-'] else []) ++ ds, true,
    if g.flags.contains '#' then basePrefix c else []⟩

/-- The text of a float in a gap. -/
def realFilling (g : Gap) (precision : Option Int) (x : Float) : Filling :=
  let raised := g.letter = 'E' || g.letter = 'F' || g.letter = 'G'
  let sign := if x.toBits >>> 63 = 1 && !x.isNaN then ['-'] else []
  let s :=
    if x.isNaN then "nan".toList
    else if x.isInf then "inf".toList
    else Decimal.sizeText (styleOf (some g.letter) (some (precision.getD 6).toNat))
      (g.flags.contains '#') x
  ⟨sign ++ (if raised then upperAscii s else s), true, []⟩

/-- The text of a character in a gap. -/
def characterFilling (v : Value) : Run Filling := do
  match v with
  | .text s =>
    if s.length = 1 then return ⟨s.toList, false, []⟩
    else .fail .type "%c requires int or char"
  | v =>
    match v.whole? with
    | some n =>
      if n < 0 || 0x110000 ≤ n then .fail .overflow "%c arg not in range(0x110000)"
      else if n.toNat.isValidChar then return ⟨[Char.ofNat n.toNat], false, []⟩
      else .leave "a character that is none"
    | Option.none => .fail .type "%c requires int or char"

/-- The text of data in a gap, cut to the precision. -/
def textFilling (precision : Option Int) (s : String) : Filling :=
  match precision with
  | some n => ⟨s.toList.take n.toNat, false, []⟩
  | none => ⟨s.toList, false, []⟩

/-- What a value puts into a gap. -/
def Gap.filling (g : Gap) (precision : Option Int) (v : Value) : Run Filling := do
  match g.letter with
  | 's' => return textFilling precision (← v.plain)
  | 'r' => return textFilling precision (← v.display)
  | 'a' => return textFilling precision (← v.displayAscii)
  | 'c' => characterFilling v
  | c =>
    if ['d', 'i', 'u', 'o', 'x', 'X'].contains c then
      wholeFilling g precision (← wholeForGap c v)
    else if ['e', 'E', 'f', 'F', 'g', 'G'].contains c then
      return realFilling g precision (← realForGap v)
    else
      .fail .value ("unsupported format character '" ++ String.singleton c ++ "' (0x"
        ++ String.ofList (Nat.toDigits 16 c.toNat) ++ ") at index " ++ toString g.place)

/-- A filling in a gap of a width: the sign stands in front of zeros, and behind blanks. -/
def Filling.fit (f : Filling) (flags : List Char) (width : Int) : List Char :=
  let left := flags.contains '-' || width < 0
  let (sign, body) :=
    match f.signed, f.text with
    | true, '-' :: r => (['-'], r)
    | true, s =>
      (if flags.contains '+' then ['+'] else if flags.contains ' ' then [' '] else [], s)
    | false, s => ([], s)
  let fill := if flags.contains '0' && f.signed then '0' else ' '
  let n := width.natAbs - (sign.length + f.lead.length + body.length)
  if left then sign ++ f.lead ++ body ++ List.replicate n ' '
  else if fill = '0' then sign ++ f.lead ++ List.replicate n '0' ++ body
  else List.replicate n ' ' ++ sign ++ f.lead ++ body

/-- The text of a gap, and the supply behind it. -/
def Gap.fill (g : Gap) (s : Supply) : Run (List Char × Supply) := do
  let (v, s) ← s.take
  if g.width.any (fun n => 10000000 < n.natAbs) || g.precision.any (100000 < ·) then
    .leave "a gap that wide"
  let filling ← g.filling g.precision v
  return (filling.fit g.flags (g.width.getD 0), s)

/-- A text with its gaps filled, in pieces in reverse. -/
def fillFrom (length : Nat) : Nat → List Char → List Char → Supply → Run (List Char × Supply)
  | 0, done, _, s => return (done, s)
  | _, done, [], s => return (done, s)
  | n + 1, done, c :: rest, s => do
    if c ≠ '%' then fillFrom length n (c :: done) rest s
    else
      match rest with
      | '%' :: rest => fillFrom length n ('%' :: done) rest s
      | rest =>
        let (g, rest, s) ← readGap length rest s
        let (text, s) ← g.fill s
        fillFrom length n (text.reverseAux done) rest s

/-- A text with its gaps filled by a value. -/
def fillGaps (s : String) (v : Value) : Run String := do
  let supply ← Run.ask (·.supplyOf v)
  let cs := s.toList
  let (reversed, left) ← fillFrom cs.length (cs.length + 1) [] cs supply
  if !left.rest.isEmpty && left.mapping.isNone then
    .fail .type "not all arguments converted during string formatting"
  return String.ofList reversed.reverse

end Inlay
