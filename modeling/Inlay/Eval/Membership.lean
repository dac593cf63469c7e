/-
  Inlay.Eval.Membership
  ────────────────────────────────
  **MEMBERSHIP AND COMPARISONS.**

  Whether a value is a member of another one.  A sequence or an iterator is
  searched from the front, up to the first item that is the value or equal to
  it; dictionaries and sets know their keys.
-/
import Inlay.Eval.Iterate
import Inlay.Text.Search
import Inlay.Value.Operation

namespace Inlay

open Inlay.Code

/-! ## §1. Searching. -/

/-- Is a value one of the items, or equal to one of them? -/
def Value.isAmong (v : Value) : List Value → Run Bool
  | [] => return false
  | x :: xs => do if ← x.matches v then return true else v.isAmong xs

/-- Does an iterator give a value, or an equal one?  It is not asked further then. -/
def searchIter (p : Power) (it v : Value) : Nat → Run Bool
  | 0 => .starve
  | n + 1 => do
    match ← it.advance p with
    | none => return false
    | some x => if ← x.matches v then return true else searchIter p it v n

/-- Is a value a member of a range? -/
def isInRange (n start stop step : Int) : Bool :=
  let k := rangeLength start stop step
  let d := n - start
  k ≠ 0 && d % step == 0 && 0 ≤ d / step && d / step < k

/-- Is a pair among the entries of a dictionary? -/
def isEntry (d : Dictionary) (pair : Value) : Run Bool := do
  match pair with
  | .tuple [k, v] =>
    k.ensureKey
    match d.get? k with
    | some u => u.matches v
    | none => return false
  | _ => return false

/-- Fail because a value has no members. -/
def noMembers (container : Value) : Run Bool := do
  .fail .type ("argument of type '" ++ (← container.kind) ++ "' is not iterable")

/-- What stands for a set that is looked for in a set: a set that cannot change. -/
def Value.asMember (v : Value) : Run Value := do
  match v with
  | .ref r =>
    match ← Run.object r with
    | .set d => return .frozen (orderedMembers (d.toList.map Prod.fst))
    | _ => return v
  | v => return v

/-- Is a value a member of another one? -/
def Value.isMember (p : Power) (v container : Value) : Run Bool := do
  match container with
  | .text s =>
    match v with
    | .text t => return Text.occursIn t.toList s.toList
    | _ =>
      .fail .type ("'in <string>' requires string as left operand, not " ++ (← v.kind))
  | .tuple xs => v.isAmong xs
  | .range a b c =>
    match v.whole? with
    | some n => return isInRange n a b c
    | Option.none => searchIter p (← container.iterator) v p.rounds
  | .view _ r .keys => do
    v.ensureKey
    Run.ask (fun w => (w.dictionaryAt r).contains v)
  | .view _ r .items => do isEntry (← Run.ask (·.dictionaryAt r)) v
  | .view _ _ .values => do searchIter p (← container.iterator) v p.rounds
  | .frozen members => do
    let v ← v.asMember
    v.ensureKey
    return members.any (·.sameKey v)
  | .ref r =>
    match ← Run.object r with
    | .list xs => v.isAmong xs.toList
    | .dict d => do
      v.ensureKey
      return d.contains v
    | .set d => do
      let v ← v.asMember
      v.ensureKey
      return d.contains v
    | .iter _ => searchIter p container v p.rounds
    | _ => noMembers container
  | _ => noMembers container

/-! ## §2. Comparisons. -/

/-- Does a comparison hold? -/
def Value.compare (p : Power) (op : CompareOp) (a b : Value) : Run Bool := do
  match op with
  | .equal => a.equal b
  | .notEqual => return !(← a.equal b)
  | .same => return a.same b
  | .notSame => return !a.same b
  | .member => a.isMember p b
  | .notMember => return !(← a.isMember p b)
  | op => a.ordered op b

end Inlay
