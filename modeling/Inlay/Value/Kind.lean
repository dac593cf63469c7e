/-
  Inlay.Value.Kind
  ────────────────────────────────
  **KINDS OF VALUES.**

  What a value is called, what it holds, whether it counts as true, whether
  it is a number, and whether it may be a key of a dictionary.
-/
import Inlay.Decimal.Shortest
import Inlay.Run

namespace Inlay

/-! ## §1. Names of kinds. -/

namespace Iter

/-- What an iterator is called. -/
def kind : Iter → String
  | values _ k => k
  | list _ _ => "list_iterator"
  | listBack _ _ => "list_reverseiterator"
  | range _ _ _ => "range_iterator"
  | dict _ .keys _ _ _ => "dict_keyiterator"
  | dict _ .values _ _ _ => "dict_valueiterator"
  | dict _ .items _ _ _ => "dict_itemiterator"
  | members _ _ _ => "set_iterator"
  | enumerate _ _ => "enumerate"
  | map _ _ => "map"
  | filter _ _ => "filter"
  | zip _ _ => "zip"
  | calls _ _ => "callable_iterator"
  | generator _ => "generator"
  | running => "generator"
  | exhausted k => k

end Iter

/-- What an object is called. -/
def Object.kind : Object → String
  | .list _ => "list"
  | .dict _ => "dict"
  | .set _ => "set"
  | .record _ => "Obj"
  | .context _ => "RenderContext"
  | .scope _ => "scope"
  | .iter i => i.kind
  | .cell _ => "cell"

/-- What a value is called. -/
def World.kindOf (w : World) : Value → String
  | .none => "NoneType"
  | .bool _ => "bool"
  | .int _ => "int"
  | .float _ => "float"
  | .nan _ => "float"
  | .text _ => "str"
  | .ellipsis => "ellipsis"
  | .notImplemented => "NotImplementedType"
  | .tuple _ => "tuple"
  | .frozen _ => "frozenset"
  | .range _ _ _ => "range"
  | .slice _ _ _ => "slice"
  | .ref r => (w.heap[r]?.getD default).kind
  | .view _ _ .keys => "dict_keys"
  | .view _ _ .values => "dict_values"
  | .view _ _ .items => "dict_items"
  | .exception e => e.cls.label
  | .errorClass _ => "type"
  | .builtin (.outputText) => "function"
  | .builtin (.realign) => "function"
  | .builtin (.reindent) => "function"
  | .builtin b => if b.isClass then "type" else "builtin_function_or_method"
  | .method _ _ _ => "builtin_function_or_method"
  | .function _ => "function"
  | .module _ => "module"
  | .manager _ _ _ => "Ctx"
  | .probe _ => "function"
  | .raiser _ _ => "function"
  | .includer _ _ => "function"

/-- What a value is called. -/
def Value.kind (v : Value) : Run String := Run.ask (·.kindOf v)

/-- What a value is called as an argument that does not fit. -/
def Value.argumentKind : Value → Run String
  | .none => return "None"
  | v => v.kind

/-! ## §2. Objects behind values. -/

/-- The object that a value refers to. -/
def World.objectOf? (w : World) : Value → Option Object
  | .ref r => w.heap[r]?
  | _ => none

/-- The items of the list at a place. -/
def World.itemsAt (w : World) (r : Ref) : Array Value :=
  match w.heap[r]? with
  | some (.list items) => items
  | _ => #[]

/-- The items of a list or a tuple. -/
def World.itemsOf? (w : World) : Value → Option (List Value)
  | .tuple items => some items
  | .ref r =>
    match w.heap[r]? with
    | some (.list items) => some items.toList
    | _ => none
  | _ => none

/-- The dictionary at a place. -/
def World.dictionaryAt (w : World) (r : Ref) : Dictionary :=
  match w.heap[r]? with
  | some (.dict d) => d
  | _ => .empty

/-- The dictionary that a value is. -/
def World.dictionaryOf? (w : World) : Value → Option Dictionary
  | .ref r =>
    match w.heap[r]? with
    | some (.dict d) => some d
    | _ => none
  | _ => none

/-- The members of a set, in the order in which they came. -/
def World.membersOf? (w : World) : Value → Option Dictionary
  | .frozen members => some (.ofList (members.map (fun v => (v, .none))))
  | .ref r =>
    match w.heap[r]? with
    | some (.set members) => some members
    | _ => none
  | _ => none

/-- The members of the set at a place. -/
def World.membersAt (w : World) (r : Ref) : Dictionary := (w.membersOf? (.ref r)).getD .empty

/-! ## §3. Truth. -/

/-- The size of what has one. -/
def World.sizeOf? (w : World) : Value → Option Nat
  | .text s => some s.length
  | .tuple items => some items.length
  | .frozen members => some members.length
  | .range start stop step => some (rangeLength start stop step)
  | .view _ r _ => some (w.dictionaryAt r).size
  | .ref r =>
    match w.heap[r]? with
    | some (.list items) => some items.size
    | some (.dict d) => some d.size
    | some (.set d) => some d.size
    | _ => none
  | _ => none

/-- Does the value count as true? -/
def World.truth (w : World) : Value → Bool
  | .none => false
  | .bool b => b
  | .int n => n ≠ 0
  | .float x => x != 0
  | v =>
    match w.sizeOf? v with
    | some n => n ≠ 0
    | none => true

/-- Does the value count as true? -/
def Value.truth (v : Value) : Run Bool := Run.ask (·.truth v)

/-! ## §4. Numbers. -/

/-- A number. -/
inductive Number where
  | whole (n : Int)
  | real (x : Float)

/-- The float that is no number. -/
def notANumber : Float := 0.0 / 0.0

/-- The number that a value is; truth values count as one and zero. -/
def Value.number? : Value → Option Number
  | bool b => some (.whole (if b then 1 else 0))
  | int n => some (.whole n)
  | float x => some (.real x)
  | nan _ => some (.real notANumber)
  | _ => Option.none

/-- The whole number that a value is. -/
def Value.whole? : Value → Option Int
  | bool b => some (if b then 1 else 0)
  | int n => some n
  | _ => Option.none

/-- Compare a whole number with a float, exactly; nothing compares with what is no number. -/
def compareWhole (n : Int) (x : Float) : Option Ordering :=
  if x.isNaN then none
  else if x.isInf then some (if 0 < x then .lt else .gt)
  else
    let b := Decimal.Binary.ofBits x.toBits
    let m : Int := if x < 0 then -(b.mantissa : Int) else b.mantissa
    some (compare (n * Nat.pow 2 (-b.exponent).toNat) (m * Nat.pow 2 b.exponent.toNat))

/-- Compare two numbers, exactly. -/
def Number.compare : Number → Number → Option Ordering
  | whole a, whole b => some (Ord.compare a b)
  | whole a, real y => compareWhole a y
  | real x, whole b => (compareWhole b x).map Ordering.swap
  | real x, real y =>
    if x < y then some .lt else if y < x then some .gt else if x == y then some .eq else none

/-! ## §5. Keys. -/

mutual

/-- The first part of a value that keeps it from being a key. -/
def World.unhashable? (w : World) : Value → Option Value
  | .tuple items => w.unhashableIn? items
  | .slice a b c => some (.slice a b c)
  | .view _ _ .values => none
  | .view id r k => some (.view id r k)
  | .ref r =>
    match w.heap[r]? with
    | some (.list _) => some (.ref r)
    | some (.dict _) => some (.ref r)
    | some (.set _) => some (.ref r)
    | some (.context _) => some (.ref r)
    | _ => none
  | _ => none

/-- The first part of some values that keeps them from being a key. -/
def World.unhashableIn? (w : World) : List Value → Option Value
  | [] => none
  | v :: vs => (w.unhashable? v).or (w.unhashableIn? vs)

end

/-- Fail unless the value may be a key. -/
def Value.ensureKey (v : Value) : Run Unit := do
  match ← Run.ask (·.unhashable? v) with
  | Option.none => return ()
  | Option.some part => .fail .type ("unhashable type: '" ++ (← part.kind) ++ "'")

/-! ## §6. Bindings. -/

/-- Bindings with that of a name changed, or with a new one at the end. -/
def bindName (name : String) (value : Value) : List (String × Value) → List (String × Value)
  | [] => [(name, value)]
  | (n, v) :: rest => if n == name then (n, value) :: rest else (n, v) :: bindName name value rest

/-- Bindings with those of a second list added, which win. -/
def bindAll (base extra : List (String × Value)) : List (String × Value) :=
  extra.foldl (fun bs b => bindName b.1 b.2 bs) base

end Inlay
