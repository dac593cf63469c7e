/-
  Inlay.Eval.SequenceMethods
  ────────────────────────────────
  **THE METHODS OF LISTS, TUPLES AND RANGES.**

  What changes a list changes it in its place, so that all who hold it see
  it; what is added from an iterator is added one by one.
-/
import Inlay.Eval.Membership
import Inlay.Eval.Sort

namespace Inlay

/-! ## §1. Places. -/

/-- A whole number that names a place. -/
def Value.toPlace (v : Value) : Run Int := do
  let n ← v.toIndex
  if fitsSize n then return n
  else .fail .overflow "Python int too large to convert to C ssize_t"

/-- A bound of the part of a sequence that is searched. -/
def searchBound (v : Value) (size : Nat) : Run Nat := do
  match v.whole? with
  | some n => return (if n < 0 then n + size else n).toNat
  | Option.none => .fail .type "slice indices must be integers or have an __index__ method"

/-- The first place from a given one on where a value stands among items. -/
def placeFrom (v : Value) (place : Nat) : List Value → Run (Option Nat)
  | [] => return none
  | x :: xs => do
    if ← x.matches v then return some place else placeFrom v (place + 1) xs

/-- How often a value stands among items. -/
def countAmong (v : Value) : List Value → Run Nat
  | [] => return 0
  | x :: xs => do
    let here := if ← x.matches v then 1 else 0
    return here + (← countAmong v xs)

/-- The place of a value among items, perhaps in a part of them; `missing` is what is said if it
is not there. -/
def callPlace (items : List Value) (missing : Value → Run String) (args : List Value) :
    Run Value := do
  argumentRange "index" 1 3 args
  let v := args.head?.getD .none
  let low ← searchBound (args[1]?.getD (.int 0)) items.length
  let high ← searchBound (args[2]?.getD (.int items.length)) items.length
  match ← placeFrom v low ((items.take high).drop low) with
  | some k => return .int k
  | none => .fail .value (← missing v)

/-! ## §2. Lists. -/

/-- Add an item to the list at a place. -/
def pushItem (r : Ref) (v : Value) : Run Unit := Run.changeItems r (·.push v)

/-- Add the values of an iterable to the list at a place, those of a list or tuple all at once. -/
def extendList (p : Power) (r : Ref) (v : Value) : Run Unit := do
  match ← Run.ask (·.itemsOf? v) with
  | some new => Run.changeItems r (· ++ new.toArray)
  | none =>
    foldValues p (← v.iterator) (fun _ u => pushItem r u) p.rounds ()

/-- Take an item out of the list at a place. -/
def popItem (r : Ref) (index : Int) : Run Value := do
  let size ← listSize r
  match place? index size with
  | some k =>
    let v ← Run.ask (fun w => (w.itemsAt r)[k]?.getD .none)
    Run.changeItems r (·.eraseIdxIfInBounds k)
    return v
  | none =>
    if size = 0 then .fail .index "pop from empty list" else .fail .index "pop index out of range"

/-- Put an item into the list at a place, in front of the one at an index. -/
def insertItem (r : Ref) (index : Int) (v : Value) : Run Unit :=
  Run.changeItems r (fun items =>
    items.insertIdxIfInBounds (clampBound items.size 0 items.size index).toNat v)

/-- Sort the list at a place, which is empty meanwhile. -/
def sortList (p : Power) (r : Ref) (o : SortOrder) : Run Unit := do
  let items ← Run.ask (·.itemsAt r)
  Run.setObject r (.list #[])
  match ← Run.attempt (o.sort p items.toList) with
  | .error e =>
    Run.setObject r (.list items)
    .throw e
  | .ok new =>
    let untouched ← Run.ask (fun w => (w.itemsAt r).isEmpty)
    Run.setObject r (.list new.toArray)
    if untouched then return () else .fail .value "list modified during sort"

/-- Call a method of a list. -/
def callListMethod (p : Power) (r : Ref) (m : Method) (args : List Value)
    (keywords : List (String × Value)) : Run Value := do
  let title := "list." ++ m.label
  match m with
  | .append => do
    pushItem r (← oneArgument title args keywords)
    return .none
  | .extend => do
    extendList p r (← oneArgument title args keywords)
    return .none
  | .pop => do
    noKeywords title keywords
    argumentRange m.label 0 1 args
    popItem r (← (args.head?.getD (.int (-1))).toPlace)
  | .insert => do
    noKeywords title keywords
    argumentRange m.label 2 2 args
    let index ← (args.head?.getD .none).toPlace
    insertItem r index (args[1]?.getD .none)
    return .none
  | .remove => do
    let v ← oneArgument title args keywords
    match ← placeFrom v 0 (← Run.ask (·.itemsAt r)).toList with
    | some k =>
      Run.changeItems r (·.eraseIdxIfInBounds k)
      return .none
    | none => .fail .value "list.remove(x): x not in list"
  | .reverse => do
    noArguments title args keywords
    Run.changeItems r Array.reverse
    return .none
  | .sort => do
    argumentLimit m.label 2 args keywords
    if !args.isEmpty then .fail .type "sort() takes no positional arguments"
    sortList p r (← SortOrder.ofKeywords keywords)
    return .none
  | .clear => do
    noArguments title args keywords
    Run.setObject r (.list #[])
    return .none
  | .copy => do
    noArguments title args keywords
    return .ref (← Run.alloc (.list (← Run.ask (·.itemsAt r))))
  | .index => do
    noKeywords title keywords
    let missing (v : Value) : Run String := return (← v.display) ++ " is not in list"
    callPlace (← Run.ask (·.itemsAt r)).toList missing args
  | .count => do
    let v ← oneArgument title args keywords
    return .int (← countAmong v (← Run.ask (·.itemsAt r)).toList)
  | m => .leave ("the method " ++ m.label)

/-! ## §3. Tuples and ranges. -/

/-- Call a method of a tuple. -/
def callTupleMethod (items : List Value) (m : Method) (args : List Value)
    (keywords : List (String × Value)) : Run Value := do
  match m with
  | .index => do
    noKeywords "tuple.index" keywords
    callPlace items (fun _ => return "tuple.index(x): x not in tuple") args
  | .count => do
    return .int (← countAmong (← oneArgument "tuple.count" args keywords) items)
  | m => .leave ("the method " ++ m.label)

/-- The whole number that equals a value. -/
def Value.equalWhole? (v : Value) : Option Int :=
  match v.key with
  | .whole n => some n
  | _ => Option.none

/-- Call a method of a range. -/
def callRangeMethod (start stop step : Int) (m : Method) (args : List Value)
    (keywords : List (String × Value)) : Run Value := do
  let v ← oneArgument ("range." ++ m.label) args keywords
  let held := v.equalWhole?.filter (isInRange · start stop step)
  match m, held with
  | .index, some n => return .int ((n - start) / step)
  | .index, none =>
    if v.whole?.isSome then .fail .value ((← v.display) ++ " is not in range")
    else .fail .value "sequence.index(x): x not in sequence"
  | .count, held => return .int (if held.isSome then 1 else 0)
  | m, _ => .leave ("the method " ++ m.label)

end Inlay
