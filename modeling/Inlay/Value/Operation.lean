/-
  Inlay.Value.Operation
  ────────────────────────────────
  **OPERATORS.**

  Arithmetic, the joining and repeating of sequences, the combination of sets
  and dictionaries, and the messages about operands that do not fit.
-/
import Inlay.Code.Spelling.Expression
import Inlay.Value.Arithmetic
import Inlay.Value.Compare
import Inlay.Value.Gap
import Inlay.Value.Sequence

namespace Inlay

open Inlay.Code

/-! ## §1. Operators in messages. -/

/-- An operator as messages name it. -/
def operatorTitle (inPlace : Bool) (op : BinaryOp) : String :=
  if inPlace then op.sign ++ "="
  else match op with
    | .pow => "** or pow()"
    | op => op.sign

/-- Fail because the operands do not fit. -/
def unsupportedOperands (inPlace : Bool) (op : BinaryOp) (a b : Value) : Run Value := do
  .fail .type ("unsupported operand type(s) for " ++ operatorTitle inPlace op ++ ": '"
    ++ (← a.kind) ++ "' and '" ++ (← b.kind) ++ "'")

/-! ## §2. Sequences. -/

/-- A list of items, so many times. -/
def repeated {α : Type} (n : Int) (items : List α) : List α :=
  if items.isEmpty then [] else (List.replicate n.toNat items).flatten

/-- A text, so many times. -/
def repeatedText (n : Int) (s : String) : String :=
  if s.isEmpty then "" else String.join (List.replicate n.toNat s)

/-- Can the value be repeated? -/
def World.isRepeatable (w : World) : Value → Bool
  | .text _ => true
  | v => (w.itemsOf? v).isSome

/-- Sequences of more items than this are not part of this model. -/
def maxRepeated : Int := 10000000

/-- A sequence so many times, if it is a sequence. -/
def Value.repeat (v : Value) (n : Int) : Run Value := do
  let size ← Run.ask (fun w => ((w.sizeOf? v).getD 0 : Int) * n)
  if !fitsSize n then .fail .overflow unfitSizeMessage
  else if maxRepeated < size then
    match v with
    | .text _ =>
      if fitsSize size then .leave "a text that long"
      else .fail .overflow "repeated string is too long"
    | _ =>
      if fitsSize (8 * size) then .leave "a sequence that long"
      else .throw (.of .memory [])
  else
    match v with
    | .text s => return .text (repeatedText n s)
    | .tuple items => return .tuple (repeated n items)
    | v => Run.newList (repeated n ((← Run.ask (·.itemsOf? v)).getD []))

/-- Kinds of values that are asked as sequences before the second operand of an operation in place
is, although they cannot be repeated. -/
def sequenceLikeKinds : List String :=
  ["dict", "dict_keys", "dict_values", "dict_items", "range", "set", "frozenset", "Obj", "Ctx",
   "RenderContext"]

/-- Fail because a sequence is to be repeated by what is no whole number. -/
def cannotRepeat (n : Value) : Run Value := do
  .fail .type ("can't multiply sequence by non-int of type '" ++ (← n.kind) ++ "'")

/-- A product with at least one operand that is no number. -/
def multiply (inPlace : Bool) (a b : Value) : Run Value := do
  match ← Run.ask (·.isRepeatable a), ← Run.ask (·.isRepeatable b) with
  | false, false => unsupportedOperands inPlace .mul a b
  | true, _ =>
    match b.whole? with
    | some n => a.repeat n
    | none => cannotRepeat b
  | false, true =>
    match a.whole? with
    | some n => b.repeat n
    | none =>
      if inPlace && sequenceLikeKinds.contains (← a.kind) then
        unsupportedOperands inPlace .mul a b
      else cannotRepeat a

/-- Fail because what is joined to a sequence is of another kind. -/
def cannotJoin (kind : String) (b : Value) : Run Value := do
  .fail .type ("can only concatenate " ++ kind ++ " (not \"" ++ (← b.kind) ++ "\") to " ++ kind)

/-- A sum with at least one operand that is no number. -/
def join (inPlace : Bool) (a b : Value) : Run Value := do
  match a, b with
  | .text s, .text t => return .text (s ++ t)
  | .text _, _ => cannotJoin "str" b
  | .tuple xs, .tuple ys => return .tuple (xs ++ ys)
  | .tuple _, _ => cannotJoin "tuple" b
  | _, _ =>
    match ← Run.ask (·.objectOf? a), ← Run.ask (·.objectOf? b) with
    | some (.list xs), some (.list ys) => return .ref (← Run.alloc (.list (xs ++ ys)))
    | some (.list _), _ => cannotJoin "list" b
    | _, _ => unsupportedOperands inPlace .add a b

/-! ## §3. Sets and dictionaries. -/

/-- The members of a set, or what a view of keys or entries shows. -/
def World.operandMembers? (w : World) : Value → Option Dictionary
  | .view _ r .keys => some (w.dictionaryAt r)
  | .view _ r .items =>
    some (.ofList ((w.dictionaryAt r).toList.map (fun e => (.tuple [e.1, e.2], .none))))
  | v => w.membersOf? v

/-- Is the value a view of a dictionary? -/
def isView : Value → Bool
  | .view _ _ .values => false
  | .view _ _ _ => true
  | _ => false

/-- The members of the first set that are members of the second one, or that are not. -/
def siftMembers (kept : Bool) (xs ys : Dictionary) : Dictionary :=
  xs.toList.foldl (fun d e => if ys.contains e.1 == kept then d.put e.1 .none else d) .empty

/-- Members without what a dictionary maps them to. -/
def bareMembers (d : Dictionary) : Dictionary :=
  d.toList.foldl (fun m e => m.put e.1 .none) .empty

/-- An operation on the members of two sets. -/
def combineMembers? (op : BinaryOp) (xs ys : Dictionary) : Option Dictionary :=
  match op with
  | .bitOr => some ((bareMembers xs).putAll (bareMembers ys).toList)
  | .bitAnd =>
    some (if xs.size < ys.size then siftMembers true xs ys else siftMembers true ys xs)
  | .sub => some (siftMembers false xs ys)
  | .bitXor => some ((siftMembers false xs ys).putAll (siftMembers false ys xs).toList)
  | _ => none

/-- A new set of the kind of an operand. -/
def newMembers (like : Value) (members : Dictionary) : Run Value :=
  match like with
  | .frozen _ => return .frozen (orderedMembers (members.toList.map Prod.fst))
  | _ => return .ref (← Run.alloc (.set members))

/-- The members that an operation on two sets leaves. -/
def World.combined? (w : World) (op : BinaryOp) (a b : Value) : Option Dictionary :=
  match w.operandMembers? a, w.operandMembers? b with
  | some xs, some ys => combineMembers? op xs ys
  | _, _ => none

/-- The union of two dictionaries. -/
def World.united? (w : World) (op : BinaryOp) (a b : Value) : Option Dictionary :=
  match op, w.dictionaryOf? a, w.dictionaryOf? b with
  | .bitOr, some xs, some ys => some (xs.putAll ys.toList)
  | _, _, _ => none

/-- An operation with at least one operand that is no number, and none that is a sequence. -/
def combine (inPlace : Bool) (op : BinaryOp) (a b : Value) : Run Value := do
  match ← Run.ask (·.combined? op a b), ← Run.ask (·.united? op a b) with
  | some d, _ =>
    d.toList.forM (fun e => e.1.ensureKey)
    newMembers (if isView a then .none else a) d
  | none, some d => Run.newDict d
  | none, none =>
    if op = .bitOr && ((← a.kind) == "type" || (← b.kind) == "type") then
      .leave "unions of types"
    else if (isView a || isView b) && (combineMembers? op .empty .empty).isSome then
      .leave "operations on views"
    else unsupportedOperands inPlace op a b

/-! ## §4. Operators. -/

/-- The result of an operation on numbers. -/
def Run.ofNumber (inPlace : Bool) (op : BinaryOp) (a b : Value) :
    Except ArithmeticFault Number → Run Value
  | .ok n => n.toValue
  | .error .unsupported => unsupportedOperands inPlace op a b
  | .error .unmodelled => .leave "a number"
  | .error f => .throw f.toExc

/-- An operation on two truth values, if it has one as a result. -/
def boolBinary? (op : BinaryOp) (a b : Bool) : Option Bool :=
  match op with
  | .bitOr => some (a || b)
  | .bitAnd => some (a && b)
  | .bitXor => some (a != b)
  | _ => none

/-- An operation on two values. -/
def Value.binary (inPlace : Bool) (op : BinaryOp) (a b : Value) : Run Value := do
  match a.number?, b.number? with
  | some x, some y =>
    match a, b with
    | .bool p, .bool q =>
      match boolBinary? op p q with
      | some r => return .bool r
      | Option.none => Run.ofNumber inPlace op a b (x.binary op y)
    | _, _ => Run.ofNumber inPlace op a b (x.binary op y)
  | _, _ =>
    match op, a with
    | .add, _ => join inPlace a b
    | .mul, _ => multiply inPlace a b
    | .mod, .text s => return .text (← fillGaps s b)
    | _, _ => combine inPlace op a b

/-- An operation on a value. -/
def Value.unary (op : UnaryOp) (v : Value) : Run Value := do
  match op, v.number? with
  | .logicalNot, _ => return .bool !(← v.truth)
  | .negate, some (.whole n) => return .int (-n)
  | .negate, some (.real x) => Run.float (-x)
  | .plus, some (.whole n) => return .int n
  | .plus, some (.real _) => return v
  | .invert, some (.whole n) => return .int (-n - 1)
  | _, _ =>
    .fail .type ("bad operand type for unary " ++ op.sign ++ ": '" ++ (← v.kind) ++ "'")

end Inlay
