/-
  Inlay.Eval.Braces
  ────────────────────────────────
  **TEXTS WITH BRACES.**

  How a value is formatted, and the method that fills fields in braces.  A
  field names an argument by its number or its name, or takes the next one;
  attributes and items may follow, then a conversion, then a format, which
  may have fields of its own.
-/
import Inlay.Eval.Conversion
import Inlay.Value.Attribute
import Inlay.Value.Field

namespace Inlay

/-! ## §1. Formatting values. -/

/-- End as a fault of a format demands, or go on with the text. -/
def Run.ofField : Except FieldFault String → Run String
  | .ok s => return s
  | .error .tooLong => .fail .value tooLongMessage
  | .error .unmodelled => .leave "a format"
  | .error (.arithmetic f) => .throw f.toExc
  | .error f => .fail f.errorClass f.message

/-- A value in a format. -/
def Value.formatted (v : Value) (spec : String) : Run String := do
  match v with
  | .text s => .ofField (formatText s spec)
  | _ =>
    if spec.isEmpty then v.plain
    else
      match v.number? with
      | some (.whole n) => .ofField (formatWhole (← v.kind) n spec)
      | some (.real x) => .ofField (formatFloat x spec)
      | Option.none =>
        .fail .type ("unsupported format string passed to " ++ (← v.kind) ++ ".__format__")

/-- A value in the form that a conversion asks for. -/
def Value.converted (v : Value) (conversion : Option Char) : Run Value := do
  match conversion with
  | some 'r' => return .text (← v.display)
  | some 'a' => return .text (← v.displayAscii)
  | some 's' => return .text (← v.plain)
  | _ => return v

/-- The function `format`. -/
def callFormat (args : List Value) (keywords : List (String × Value)) : Run Value := do
  noKeywords "format" keywords
  argumentRange "format" 1 2 args
  match args.head?.getD .none, args[1]?.getD (.text "") with
  | v, .text spec => return .text (← v.formatted spec)
  | _, w => .fail .type ("format() argument 2 must be str, not " ++ (← w.argumentKind))

/-! ## §2. Reading fields. -/

/-- A field: what it names, its conversion, and its format. -/
structure BraceField where
  name : List Char
  conversion : Option Char := none
  format : List Char := []

/-- What is wrong with a text with braces. -/
inductive BraceFault where
  | singleOpening | singleClosing
  | openingInName
  | unclosedName
  | noConversion
  | noColon
  | unclosedFormat
  | tooDeep

/-- What is said of a fault. -/
def BraceFault.message : BraceFault → String
  | singleOpening => "Single '\x7b' encountered in format string"
  | singleClosing => "Single '\x7d' encountered in format string"
  | openingInName => "unexpected '\x7b' in field name"
  | unclosedName => "expected '\x7d' before end of string"
  | noConversion => "end of string while looking for conversion specifier"
  | noColon => "expected ':' after conversion specifier"
  | unclosedFormat => "unmatched '\x7b' in format spec"
  | tooDeep => "Max string recursion exceeded"

/-- The format of a field up to the brace that closes the field; `depth` are braces open
inside. -/
def readFormat (depth : Nat) : List Char → Except BraceFault (List Char × List Char)
  | [] => .error .unclosedFormat
  | '\x7d' :: s =>
    match depth with
    | 0 => .ok ([], s)
    | d + 1 => (readFormat d s).map (fun p => ('\x7d' :: p.1, p.2))
  | c :: s =>
    (readFormat (if c = '\x7b' then depth + 1 else depth) s).map (fun p => (c :: p.1, p.2))

/-- The name of a field, the sign that ends it, and what follows.  In square brackets only the
closing one counts. -/
def readFieldName (bracketed : Bool) :
    List Char → Except BraceFault (List Char × Char × List Char)
  | [] => .error .unclosedName
  | c :: s =>
    let keep (b : Bool) := (readFieldName b s).map (fun p => (c :: p.1, p.2))
    if bracketed then keep (c ≠ ']')
    else if c = '\x7b' then .error .openingInName
    else if c = '\x7d' || c = ':' || c = '!' then .ok ([], c, s)
    else keep (c = '[')

/-- A field behind its opening brace, and what follows. -/
def readField (s : List Char) : Except BraceFault (BraceField × List Char) := do
  let (name, stop, s) ← readFieldName false s
  if stop = '\x7d' then return ({ name }, s)
  let (conversion, s) ←
    if stop = '!' then
      match s with
      | [] => throw .noConversion
      | [_] => throw .unclosedFormat
      | c :: d :: r =>
        if d = '\x7d' then return ({ name, conversion := some c }, r)
        else if d = ':' then pure (some c, r)
        else throw .noColon
    else pure (none, s)
  let (format, s) ← readFormat 0 s
  return ({ name, conversion, format }, s)

/-! ## §3. Values of fields. -/

/-- How the fields so far have named their arguments. -/
inductive Numbering where
  | unknown
  | automatic (next : Nat)
  | manual

/-- The number that digits spell, if there is nothing else. -/
def indexOf? (s : List Char) : Option Nat :=
  match readCount s with
  | (some n, []) => some n
  | _ => none

/-- The argument that a name in braces means. -/
def fieldArgument (args : List Value) (keywords : List (String × Value)) (name : List Char)
    (numbering : Numbering) : Run (Value × Numbering) := do
  let at' (n : Nat) (next : Numbering) : Run (Value × Numbering) := do
    match args[n]? with
    | some v => return (v, next)
    | none =>
      .fail .index ("Replacement index " ++ toString n
        ++ " out of range for positional args tuple")
  match indexOf? name, numbering with
  | some n, .automatic _ =>
    let _ := n
    .fail .value "cannot switch from automatic field numbering to manual field specification"
  | some n, _ =>
    if countLimit ≤ n then .fail .value "Too many decimal digits in format string"
    else at' n .manual
  | none, _ =>
    if name.isEmpty then
      match numbering with
      | .manual =>
        .fail .value
          "cannot switch from manual field specification to automatic field numbering"
      | .automatic n => at' n (.automatic (n + 1))
      | .unknown => at' 0 (.automatic 1)
    else
      match keywords.lookup (String.ofList name) with
      | some v => return (v, numbering)
      | none => .throw (missingKey (.text (String.ofList name)))

/-- The value behind attributes and items, in so many steps. -/
def fieldValue (v : Value) : Nat → List Char → Run Value
  | 0, _ => return v
  | _, [] => return v
  | n + 1, '.' :: s => do
    let name := s.takeWhile (fun c => c ≠ '.' && c ≠ '[')
    if name.isEmpty then .fail .value "Empty attribute in format string"
    else fieldValue (← v.attribute (String.ofList name)) n (s.drop name.length)
  | n + 1, '[' :: s => do
    let name := s.takeWhile (· ≠ ']')
    let rest := s.drop name.length
    if rest.isEmpty then .fail .value "Missing ']' in format string"
    else if name.isEmpty then .fail .value "Empty attribute in format string"
    else
      match indexOf? name with
      | some k =>
        if countLimit ≤ k then .fail .value "Too many decimal digits in format string"
        else fieldValue (← v.item (.int k)) n (rest.drop 1)
      | none => fieldValue (← v.item (.text (String.ofList name))) n (rest.drop 1)
  | _, _ => .fail .value "Only '.' or '[' may follow ']' in format field specifier"

/-- Fail because of a conversion that does not exist. -/
def badConversion {α : Type} (c : Char) : Run α :=
  .fail .value ("Unknown conversion specifier " ++ shownPresentation c)

/-! ## §4. Filling fields. -/

/-- A text with its fields filled, nested at most so deep.  `done` is what has been filled, in
reverse. -/
def fillFields (args : List Value) (keywords : List (String × Value)) (depth : Nat) :
    Nat → List Char → Numbering → List Char → Run (List Char × Numbering)
  | _, done, numbering, [] => return (done, numbering)
  | 0, _, _, _ => .starve
  | n + 1, done, numbering, c :: s => do
    if c ≠ '\x7b' && c ≠ '\x7d' then fillFields args keywords depth n (c :: done) numbering s
    else if s.head? = some c then
      fillFields args keywords depth n (c :: done) numbering (s.drop 1)
    else if c = '\x7d' then .fail .value BraceFault.singleClosing.message
    else if s.isEmpty then .fail .value BraceFault.singleOpening.message
    else
      match readField s with
      | .error f => .fail .value f.message
      | .ok (field, s) =>
        let first := field.name.takeWhile (fun c => c ≠ '.' && c ≠ '[')
        let (v, numbering) ← fieldArgument args keywords first numbering
        let v ← fieldValue v (field.name.length + 1) (field.name.drop first.length)
        match field.conversion with
        | some c => if !(['r', 's', 'a'].contains c) then badConversion c
        | none => Pure.pure ()
        let v ← v.converted field.conversion
        let (spec, numbering) ←
          if field.format.contains '\x7b' then
            match depth with
            | 0 => .fail .value BraceFault.tooDeep.message
            | d + 1 => fillFields args keywords d n [] numbering field.format
          else Pure.pure (field.format.reverse, numbering)
        let text ← v.formatted (String.ofList spec.reverse)
        fillFields args keywords depth n (text.toList.reverseAux done) numbering s
  termination_by n => n

/-- A text with its fields filled. -/
def fillBraces (s : String) (args : List Value) (keywords : List (String × Value)) :
    Run String := do
  let (reversed, _) ← fillFields args keywords 1 (s.length + 1) [] .unknown s.toList
  return String.ofList reversed.reverse

end Inlay
