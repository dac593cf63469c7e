/-
  Inlay.Eval.Sort
  ────────────────────────────────
  **SORTING.**

  A run at the start that is already in order is kept; every further item is
  put in its place among those before it, by halving.  Only the question
  whether one item is less than another is asked, and always about the later
  item first, which decides what a failing comparison says.
-/
import Inlay.Eval.Conversion

namespace Inlay

open Inlay.Code

/-! ## §1. Items in their places. -/

/-- An item with the key that it is sorted by. -/
abbrev Keyed := Value × Value

/-- Does the first item stand before the second one? -/
def Keyed.before (a b : Keyed) : Run Bool := Value.ordered .less a.1 b.1

/-- Take the items of a run, each of which stands before the one in front of it or not, as
`falling` says.  The run comes in reverse. -/
def takeRun (falling : Bool) (last : Keyed) (run : List Keyed) :
    List Keyed → Run (List Keyed × List Keyed)
  | [] => return (last :: run, [])
  | x :: rest => do
    if (← x.before last) == falling then takeRun falling x (last :: run) rest
    else return (last :: run, x :: rest)

/-- The run at the start, in order, and the other items. -/
def firstRun : List Keyed → Run (List Keyed × List Keyed)
  | [] => return ([], [])
  | [a] => return ([a], [])
  | a :: b :: rest => do
    let falling ← b.before a
    let (run, others) ← takeRun falling b [a] rest
    return (if falling then run else run.reverse, others)

/-- The place of an item among items in order, between two bounds. -/
def placeAmong (x : Keyed) (sorted : Array Keyed) : Nat → Nat → Nat → Run Nat
  | 0, low, _ => return low
  | n + 1, low, high => do
    if low < high then
      let middle := (low + high) / 2
      match sorted[middle]? with
      | some y =>
        if ← x.before y then placeAmong x sorted n low middle
        else placeAmong x sorted n (middle + 1) high
      | none => return low
    else return low

/-- Items with one put in at a place. -/
def putIn (k : Nat) (x : Keyed) (sorted : Array Keyed) : Array Keyed :=
  if h : k ≤ sorted.size then sorted.insertIdx k x else sorted.push x

/-- Put items in their places, one by one. -/
def insertAll (sorted : Array Keyed) : List Keyed → Run (Array Keyed)
  | [] => return sorted
  | x :: rest => do
    let k ← placeAmong x sorted (sorted.size + 1) 0 sorted.size
    insertAll (putIn k x sorted) rest

/-! ## §2. Keys that are all of one kind. -/

/-- Is the key a text? -/
def isTextKey : Keyed → Bool
  | (.text _, _) => true
  | _ => false

/-- Is the key a number that compares with all numbers? -/
def isNumberKey : Keyed → Bool
  | (.nan _, _) => false
  | (k, _) => k.number?.isSome

/-- Does a text not stand behind another one? -/
def textAtMost (a b : Keyed) : Bool :=
  match a.1, b.1 with
  | .text s, .text t => compareTexts s t != .gt
  | _, _ => true

/-- Does a number not stand behind another one? -/
def numberAtMost (a b : Keyed) : Bool :=
  match a.1.number?, b.1.number? with
  | some x, some y => x.compare y != some .gt
  | _, _ => true

/-! ## §3. Sorting. -/

/-- Items in the order of their keys; those with equal keys stay in their order.  Texts and
numbers always compare, so it does not matter in which order they are compared. -/
def sortKeyed (items : List Keyed) : Run (List Keyed) := do
  if items.all isNumberKey then return items.mergeSort numberAtMost
  else if items.all isTextKey then return items.mergeSort textAtMost
  else
    let (run, rest) ← firstRun items
    return (← insertAll run.toArray rest).toList

/-- Items in the order of their keys, or the other way round. -/
def sortItems (keys items : List Value) (falling : Bool) : Run (List Value) := do
  let pairs := keys.zip items
  if falling then return ((← sortKeyed pairs.reverse).map Prod.snd).reverse
  else return (← sortKeyed pairs).map Prod.snd

/-! ## §4. What programs ask for. -/

/-- How a program wants items sorted: by what function of them, and which way. -/
structure SortOrder where
  key : Value
  falling : Bool

/-- How keyword arguments want items sorted. -/
def SortOrder.ofKeywords (keywords : List (String × Value)) : Run SortOrder := do
  argumentLimit "sort" 2 [] keywords
  onlyKeywords "sort" ["key", "reverse"] keywords
  let falling ← ((keywords.lookup "reverse").getD (.bool false)).toIndex
  return ⟨(keywords.lookup "key").getD .none, falling ≠ 0⟩

/-- Items in the order that a program wants. -/
def SortOrder.sort (p : Power) (o : SortOrder) (items : List Value) : Run (List Value) := do
  let keys ←
    match o.key with
    | .none => Pure.pure items
    | f => items.mapM (fun v => p.call f [v] [])
  sortItems keys items o.falling

end Inlay
