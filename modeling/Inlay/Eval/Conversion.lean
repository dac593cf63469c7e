/-
  Inlay.Eval.Conversion
  ────────────────────────────────
  **CONVERSIONS.**

  Numbers, truth values, texts, lists, tuples and dictionaries made from
  other values.
-/
import Inlay.Eval.Arguments
import Inlay.Eval.Iterate
import Inlay.Text.Quoted
import Inlay.Value.Operation
import Inlay.Value.Reading

namespace Inlay

/-! ## §1. Numbers. -/

/-- So much of a text is quoted when it is no number. -/
def maxQuoted : Nat := 200

/-- The whole number that a text spells in a base. -/
def wholeOfText (base : Nat) (s : String) : Run Value :=
  match readWhole maxDigits base s with
  | .number n => return .int n
  | .tooLong digits =>
    .fail .value ("Exceeds the limit (4300 digits) for integer string conversion: value has "
      ++ toString digits
      ++ " digits; use sys.set_int_max_str_digits() to increase the limit")
  | .none =>
    .fail .value ("invalid literal for int() with base " ++ toString base ++ ": "
      ++ String.ofList ((Text.quoted s).toList.take maxQuoted))

/-- The whole number that a float has in front of its point. -/
def wholeOfFloat (x : Float) : Run Value :=
  if x.isInf then .fail .overflow "cannot convert float infinity to integer"
  else return .int (Decimal.truncated x)

/-- A value as a whole number. -/
def Value.toWhole (v : Value) : Run Value := do
  match v with
  | .text s => wholeOfText 10 s
  | .nan _ => .fail .value "cannot convert float NaN to integer"
  | .float x => wholeOfFloat x
  | _ =>
    match v.whole? with
    | some n => return .int n
    | Option.none =>
      .fail .type ("int() argument must be a string, a bytes-like object or a real number, not '"
        ++ (← v.kind) ++ "'")

/-- A whole number that a function asks for. -/
def Value.toIndex (v : Value) : Run Int := do
  match v.whole? with
  | some n => return n
  | Option.none =>
    .fail .type ("'" ++ (← v.kind) ++ "' object cannot be interpreted as an integer")

/-- A text as a whole number in a base. -/
def wholeInBase (v base : Value) : Run Value := do
  let b ← base.toIndex
  if b ≠ 0 && (b < 2 || 36 < b) then .fail .value "int() base must be >= 2 and <= 36, or 0"
  else
    match v with
    | .text s => wholeOfText b.toNat s
    | _ => .fail .type "int() can't convert non-string with explicit base"

/-- The function `int`. -/
def callInt (args : List Value) (keywords : List (String × Value)) : Run Value := do
  match ← argumentsOf "int" ["", "base"] 0 args keywords with
  | [some v, some base] => wholeInBase v base
  | some v :: _ => v.toWhole
  | [_, some _] => .fail .type "int() missing string argument"
  | _ => return .int 0

/-- A value as a float. -/
def Value.toReal (v : Value) : Run Value := do
  match v with
  | .text s =>
    match readReal? s with
    | some x => Run.float x
    | Option.none => .fail .value ("could not convert string to float: " ++ Text.quoted s)
  | .nan _ => return v
  | _ =>
    match v.number? with
    | some n =>
      match n.toReal with
      | .ok x => return .float x
      | .error f => .throw f.toExc
    | Option.none =>
      .fail .type ("float() argument must be a string or a real number, not '"
        ++ (← v.kind) ++ "'")

/-- The function `float`. -/
def callFloat (args : List Value) (keywords : List (String × Value)) : Run Value := do
  noKeywords "float" keywords
  argumentRange "float" 0 1 args
  match args with
  | v :: _ => v.toReal
  | [] => return .float 0

/-- The function `abs`. -/
def Value.magnitude (v : Value) : Run Value := do
  match v.number? with
  | some (.whole n) => return .int n.natAbs
  | some (.real x) => Run.float x.abs
  | Option.none => .fail .type ("bad operand type for abs(): '" ++ (← v.kind) ++ "'")

/-! ## §2. Truth values and texts. -/

/-- The function `bool`. -/
def callBool (args : List Value) (keywords : List (String × Value)) : Run Value := do
  noKeywords "bool" keywords
  argumentRange "bool" 0 1 args
  match args with
  | v :: _ => return .bool (← v.truth)
  | [] => return .bool false

/-- Fail unless an argument of `str` is a text, if it is given. -/
def ensureTextArgument (name : String) (v : Option Value) : Run Unit := do
  match v with
  | none => return ()
  | some (.text _) => return ()
  | some v =>
    .fail .type ("str() argument '" ++ name ++ "' must be str, not " ++ (← v.argumentKind))

/-- The function `str`. -/
def callText (args : List Value) (keywords : List (String × Value)) : Run Value := do
  let values ← argumentsOf "str" ["object", "encoding", "errors"] 0 args keywords
  let encoding := values[1]?.join
  let errors := values[2]?.join
  ensureTextArgument "encoding" encoding
  ensureTextArgument "errors" errors
  match values.head?.join, encoding.or errors with
  | none, _ => return .text ""
  | some v, none => return .text (← v.plain)
  | some (.text _), some _ => .fail .type "decoding str is not supported"
  | some v, some _ =>
    .fail .type ("decoding to str: need a bytes-like object, " ++ (← v.kind) ++ " found")

/-- The value as output text; nothing for the absent value. -/
def Value.outputText (v : Value) : Run String :=
  match v with
  | .none => return ""
  | v => v.plain

/-! ## §3. Collections. -/

/-- The function `list`. -/
def callList (p : Power) (args : List Value) (keywords : List (String × Value)) : Run Value := do
  noKeywords "list" keywords
  argumentRange "list" 0 1 args
  match args with
  | v :: _ => Run.newList (← v.collect p)
  | [] => Run.newList []

/-- The function `tuple`. -/
def callTuple (p : Power) (args : List Value) (keywords : List (String × Value)) : Run Value := do
  noKeywords "tuple" keywords
  argumentRange "tuple" 0 1 args
  match args with
  | v :: _ => return .tuple (← v.collect p)
  | [] => return .tuple []

/-- A pair as an entry; `index` is its place among others. -/
def pairEntry (p : Power) (index : Nat) (pair : Value) : Run (Value × Value) := do
  let items ← Run.catching (pair.collect p) (fun e =>
    if e.cls = .type then
      .fail .type ("cannot convert dictionary update sequence element #" ++ toString index
        ++ " to a sequence")
    else .throw e)
  match items with
  | [k, v] =>
    k.ensureKey
    return (k, v)
  | _ =>
    .fail .value ("dictionary update sequence element #" ++ toString index ++ " has length "
      ++ toString items.length ++ "; 2 is required")

/-- Put the entries of a dictionary, or of pairs, into the dictionary at a place. -/
def updateDict (p : Power) (r : Ref) (v : Value) : Run Unit := do
  match ← Run.ask (fun w => (w.dictionaryOf? v).map Dictionary.toList) with
  | some entries => Run.changeEntries r (·.putAll entries)
  | none =>
    let it ← v.iterator
    let _ ← foldValues p it (fun index pair => do
      let e ← pairEntry p index pair
      Run.changeEntries r (·.put e.1 e.2)
      return index + 1) p.rounds 0

/-- The function `dict`. -/
def callDict (p : Power) (args : List Value) (keywords : List (String × Value)) : Run Value := do
  argumentRange "dict" 0 1 args
  let r ← Run.alloc (.dict .empty)
  match args with
  | [] => Pure.pure ()
  | v :: _ => updateDict p r v
  Run.changeEntries r (fun d => keywords.foldl (fun d b => d.putName b.1 b.2) d)
  return .ref r

/-- Members with the values of an iterable added. -/
def gatherMembers (p : Power) (start : Dictionary) (v : Value) : Run Dictionary := do
  let it ← v.iterator
  foldValues p it (fun d u => do
    u.ensureKey
    return Dictionary.put d u .none) p.rounds start

/-- The function `set`. -/
def callSet (p : Power) (args : List Value) (keywords : List (String × Value)) : Run Value := do
  noKeywords "set" keywords
  argumentRange "set" 0 1 args
  match args with
  | v :: _ => return .ref (← Run.alloc (.set (← gatherMembers p .empty v)))
  | [] => return .ref (← Run.alloc (.set .empty))

/-- The function `frozenset`. -/
def callFrozen (p : Power) (args : List Value) (keywords : List (String × Value)) :
    Run Value := do
  noKeywords "frozenset" keywords
  argumentRange "frozenset" 0 1 args
  match args with
  | .frozen members :: _ => return .frozen members
  | v :: _ => do
    let d ← gatherMembers p .empty v
    return .frozen (orderedMembers (d.toList.map Prod.fst))
  | [] => return .frozen []

/-- The function `range`. -/
def callRange (args : List Value) (keywords : List (String × Value)) : Run Value := do
  noKeywords "range" keywords
  argumentRange "range" 1 3 args
  match ← args.mapM Value.toIndex with
  | [b] => return .range 0 b 1
  | [a, b] => return .range a b 1
  | a :: b :: c :: _ =>
    if c = 0 then .fail .value "range() arg 3 must not be zero" else return .range a b c
  | [] => return .none

end Inlay
