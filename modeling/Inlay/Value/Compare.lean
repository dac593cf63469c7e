/-
  Inlay.Value.Compare
  ────────────────────────────────
  **IDENTITY, EQUALITY AND ORDER.**

  Numbers compare exactly, texts by their characters, lists and tuples item
  by item, dictionaries by their entries, sets by their members.  Items are
  equal also if they are the same object, which matters for the float that
  is no number.  Values that hold themselves make a comparison too deep;
  `maxCompareDepth` is where it gives up.
-/
import Inlay.Value.Kind

namespace Inlay

open Inlay.Code

/-- So deep may values nest in a comparison. -/
def maxCompareDepth : Nat := 985

/-! ## §1. Identity. -/

mutual

/-- Are two values the same object?  Plain data that look the same and are of one kind count as
one object. -/
def Value.same : Value → Value → Bool
  | .bool a, .bool b => a == b
  | .int a, .int b => a == b
  | .float a, .float b => a.toBits == b.toBits
  | .text s, .text t => s == t
  | .tuple xs, .tuple ys => sameItems xs ys
  | .frozen xs, .frozen ys => sameItems xs ys
  | .slice a b c, .slice x y z => a.same x && b.same y && c.same z
  | .method i _ _, .method j _ _ => i == j
  | .bool _, _ => false
  | .int _, _ => false
  | .float _, _ => false
  | _, .bool _ => false
  | _, .int _ => false
  | _, .float _ => false
  | .method _ _ _, _ => false
  | a, b => a.sameKey b

/-- Are the values the same objects, one by one? -/
def sameItems : List Value → List Value → Bool
  | [], [] => true
  | a :: as, b :: bs => a.same b && sameItems as bs
  | _, _ => false

end

/-! ## §2. Equality. -/

/-- Compare two lists of values by a comparison of values; nothing if one of these gives up. -/
def equalItems (equal : Value → Value → Option Bool) : List Value → List Value → Option Bool
  | [], [] => some true
  | a :: as, b :: bs =>
    match equal a b with
    | some true => equalItems equal as bs
    | r => r
  | _, _ => some false

/-- Does every entry have an equal one in the second dictionary? -/
def equalEntries (equal : Value → Value → Option Bool) (others : Dictionary) :
    List (Value × Value) → Option Bool
  | [] => some true
  | (k, v) :: rest =>
    match others.get? k with
    | none => some false
    | some u =>
      match equal v u with
      | some true => equalEntries equal others rest
      | r => r

/-- Are two ranges the same as sequences? -/
def equalRanges (a b c x y z : Int) : Bool := Key.ofRange a b c == Key.ofRange x y z

/-- Are all members of a set members of another one? -/
def subsetOf (xs ys : Dictionary) : Bool := xs.toList.all (fun e => ys.contains e.1)

/-- The members of a set, or the keys of a dictionary that a view shows. -/
def World.membersLike? (w : World) : Value → Option Dictionary
  | .view _ r .keys => some (w.dictionaryAt r)
  | v => w.membersOf? v

/-- Are two values equal, apart from being the same object?  Nothing if they nest too deep. -/
def World.equal? (w : World) : Nat → Value → Value → Option Bool
  | 0, _, _ => none
  | n + 1, a, b =>
    let either (x y : Value) : Option Bool := if x.same y then some true else w.equal? n x y
    match a, b with
    | .nan _, _ => some false
    | _, .nan _ => some false
    | .tuple xs, .tuple ys => equalItems either xs ys
    | .range x y z, .range s t u => some (equalRanges x y z s t u)
    | .slice x y z, .slice s t u => equalItems either [x, y, z] [s, t, u]
    | .view i r .items, .view j t .items =>
      if i = j then some true
      else if (w.dictionaryAt r).size = (w.dictionaryAt t).size then
        equalEntries either (w.dictionaryAt t) (w.dictionaryAt r).toList
      else some false
    | a, b =>
      match w.membersLike? a, w.membersLike? b with
      | some xs, some ys => some (xs.size = ys.size && subsetOf xs ys)
      | _, _ =>
        match w.objectOf? a, w.objectOf? b with
        | some (.list xs), some (.list ys) =>
          if xs.size = ys.size then equalItems either xs.toList ys.toList
          else some false
        | some (.dict xs), some (.dict ys) =>
          if xs.size = ys.size then equalEntries either ys xs.toList else some false
        | some (.context c), some (.context d) => some (c == d)
        | _, _ => some (a.sameKey b)

/-- Are two values equal? -/
def Value.equal (a b : Value) : Run Bool := do
  match ← Run.ask (·.equal? maxCompareDepth a b) with
  | some r => return r
  | Option.none => .fail .recursion "maximum recursion depth exceeded in comparison"

/-- Are two values equal, or the same object? -/
def Value.matches (a b : Value) : Run Bool := do
  if a.same b then return true else a.equal b

/-! ## §3. Order. -/

/-- The sign of an operator that orders. -/
def orderSign : CompareOp → String
  | .less => "<"
  | .atMost => "<="
  | .greater => ">"
  | _ => ">="

/-- Does an outcome of a comparison satisfy an operator that orders? -/
def orderHolds (op : CompareOp) (o : Ordering) : Bool :=
  match op with
  | .less => o == .lt
  | .atMost => o != .gt
  | .greater => o == .gt
  | _ => o != .lt

/-- Compare two texts by their characters. -/
def compareTexts (a b : String) : Ordering :=
  if a < b then .lt else if b < a then .gt else .eq

/-- What keeps two values from being ordered. -/
inductive OrderFault where
  | unordered (left right : Value)
  | tooDeep

/-- The first pair of items that differ, or how the lengths compare if none does. -/
def firstDifference (equal : Value → Value → Option Bool) :
    List Value → List Value → Except OrderFault (Ordering ⊕ (Value × Value))
  | [], [] => .ok (.inl .eq)
  | [], _ :: _ => .ok (.inl .lt)
  | _ :: _, [] => .ok (.inl .gt)
  | a :: as, b :: bs =>
    match if a.same b then some true else equal a b with
    | some true => firstDifference equal as bs
    | some false => .ok (.inr (a, b))
    | none => .error .tooDeep

/-- Does one set hold the other one, as an operator that orders says? -/
def orderedMembersHold (op : CompareOp) (xs ys : Dictionary) : Bool :=
  match op with
  | .less => xs.size < ys.size && subsetOf xs ys
  | .atMost => subsetOf xs ys
  | .greater => ys.size < xs.size && subsetOf ys xs
  | _ => subsetOf ys xs

/-- Does an operator that orders hold between two values? -/
def World.ordered (w : World) (op : CompareOp) : Nat → Value → Value → Except OrderFault Bool
  | 0, _, _ => .error .tooDeep
  | n + 1, a, b =>
    match a.number?, b.number? with
    | some x, some y => .ok ((x.compare y).any (orderHolds op))
    | _, _ =>
      let items (xs ys : List Value) : Except OrderFault Bool :=
        match firstDifference (w.equal? n) xs ys with
        | .ok (.inl o) => .ok (orderHolds op o)
        | .ok (.inr (x, y)) => w.ordered op n x y
        | .error f => .error f
      match a, b with
      | .text s, .text t => .ok (orderHolds op (compareTexts s t))
      | .tuple xs, .tuple ys => items xs ys
      | .slice x y z, .slice s t u => items [x, y, z] [s, t, u]
      | a, b =>
        match w.membersLike? a, w.membersLike? b with
        | some xs, some ys => .ok (orderedMembersHold op xs ys)
        | _, _ =>
          match w.objectOf? a, w.objectOf? b with
          | some (.list xs), some (.list ys) => items xs.toList ys.toList
          | _, _ => .error (.unordered a b)

/-- Does an operator that orders hold between two values? -/
def Value.ordered (op : CompareOp) (a b : Value) : Run Bool := do
  match ← Run.ask (·.ordered op maxCompareDepth a b) with
  | .ok r => return r
  | .error .tooDeep => .fail .recursion "maximum recursion depth exceeded in comparison"
  | .error (.unordered x y) =>
    .fail .type ("'" ++ orderSign op ++ "' not supported between instances of '"
      ++ (← x.kind) ++ "' and '" ++ (← y.kind) ++ "'")

end Inlay
