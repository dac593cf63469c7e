/-
  Inlay.Value.Key
  ────────────────────────────────
  **KEYS.**

  A key is a value up to equality: two values are the same entry of a
  dictionary exactly when they have the same key.  Numbers of all kinds that
  are equal share one, data have the keys of their parts, and what can change
  is a key as an object.
-/
import Inlay.Decimal.Exact
import Inlay.Value

namespace Inlay

/-! ## §1. Ranges. -/

/-- The number of values that a range holds. -/
def rangeLength (start stop step : Int) : Nat :=
  if 0 < step then ((stop - start + step - 1).fdiv step).toNat
  else if step < 0 then ((start - stop - step - 1).fdiv (-step)).toNat
  else 0

/-! ## §2. Keys. -/

/-- A value up to equality. -/
inductive Key where
  | none
  | ellipsis
  | notImplemented
  | whole (n : Int)
  /-- A float that is not whole, by its bits. -/
  | fraction (bits : UInt64)
  | nan (id : Nat)
  | text (s : String)
  | empty
  | item (first rest : Key)
  /-- A range by its length, its first member, and its step. -/
  | range (length : Nat) (start step : Int)
  | slice (lower upper step : Key)
  | frozen (members : Key)
  | object (r : Ref)
  | stamped (id : Nat)
  | errorClass (c : ErrorClass)
  | builtin (b : Builtin)
  | method (owner : Key) (m : Method)
  | module (name : String)
  | includer (context globals : Ref)
  deriving Repr, DecidableEq, Hashable

namespace Key

/-- The key of a sequence. -/
def ofItems (keys : List Key) : Key := keys.foldr item empty

/-- The key of a collection whose order does not count. -/
def ofMembers (keys : List Key) : Key :=
  frozen (ofItems (keys.mergeSort (fun a b => hash a ≤ hash b)))

/-- The key of a float. -/
def ofFloat (x : Float) : Key :=
  if x.isFinite && Decimal.isWhole x then whole (Decimal.truncated x) else fraction x.toBits

/-- The key of a range. -/
def ofRange (start stop step : Int) : Key :=
  match rangeLength start stop step with
  | 0 => range 0 0 1
  | 1 => range 1 start 1
  | n => range n start step

end Key

mutual

/-- The key of a value. -/
def Value.key : Value → Key
  | .none => .none
  | .bool b => .whole (if b then 1 else 0)
  | .int n => .whole n
  | .float x => .ofFloat x
  | .nan id => .nan id
  | .text s => .text s
  | .ellipsis => .ellipsis
  | .notImplemented => .notImplemented
  | .tuple items => .ofItems (keysOf items)
  | .frozen members => .ofMembers (keysOf members)
  | .range a b c => .ofRange a b c
  | .slice a b c => .slice a.key b.key c.key
  | .ref r => .object r
  | .view id _ _ => .stamped id
  | .exception e => .stamped e.id
  | .errorClass c => .errorClass c
  | .builtin b => .builtin b
  | .method _ owner m => .method owner.key m
  | .function f => .stamped f.id
  | .module name => .module name
  | .manager id _ _ => .stamped id
  | .probe id => .stamped id
  | .raiser id _ => .stamped id
  | .includer c g => .includer c g

/-- The keys of some values. -/
def keysOf : List Value → List Key
  | [] => []
  | v :: vs => v.key :: keysOf vs

end

/-- Are two values the same key? -/
def Value.sameKey (a b : Value) : Bool := a.key == b.key

end Inlay
