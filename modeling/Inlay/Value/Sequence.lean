/-
  Inlay.Value.Sequence
  ────────────────────────────────
  **ITEMS AND SLICES.**

  An index counts from the start, or, if it is negative, from the end.  A
  slice is resolved against a length into a range of indices that lie inside
  of the sequence.
-/
import Inlay.Value.Kind

namespace Inlay

/-! ## §1. Indices. -/

/-- The place that an index names in a sequence of a given length. -/
def place? (index : Int) (length : Nat) : Option Nat :=
  let i := if index < 0 then index + length else index
  if 0 ≤ i && i < length then some i.toNat else none

/-- The members of a range, at most so many. -/
def rangeMembers (start step : Int) (count : Nat) : List Int :=
  (List.range count).map (fun (i : Nat) => start + step * (i : Int))

/-- A slice against a length: the range of the indices that it takes. -/
structure Span where
  start : Int
  stop : Int
  step : Int
  deriving Repr, DecidableEq

/-- The number of indices in a span. -/
def Span.length (s : Span) : Nat := rangeLength s.start s.stop s.step

/-- The indices in a span, in order. -/
def Span.indices (s : Span) : List Nat :=
  (rangeMembers s.start s.step s.length).map Int.toNat

/-- The items at the indices of a span. -/
def Span.pick {α : Type} (s : Span) (items : Array α) : List α :=
  s.indices.filterMap (items[·]?)

/-- What is wrong with a slice. -/
inductive SliceFault where
  | notWhole
  | zeroStep

/-- The class of the exception for a fault. -/
def SliceFault.errorClass : SliceFault → ErrorClass
  | notWhole => .type
  | zeroStep => .value

/-- What the exception for a fault says. -/
def SliceFault.message : SliceFault → String
  | notWhole => "slice indices must be integers or None or have an __index__ method"
  | zeroStep => "slice step cannot be zero"

/-- A bound of a slice, if it is given. -/
def sliceBound : Value → Except SliceFault (Option Int)
  | .none => .ok none
  | v =>
    match v.whole? with
    | some n => .ok (some n)
    | none => .error .notWhole

/-- Move a bound of a slice into what a sequence has. -/
def clampBound (length low high : Int) (n : Int) : Int :=
  let m := if n < 0 then n + length else n
  max low (min high m)

/-- A slice against the length of a sequence. -/
def resolveSlice (lower upper step : Value) (length : Nat) : Except SliceFault Span := do
  let step := (← sliceBound step).getD 1
  if step = 0 then throw .zeroStep
  let lower ← sliceBound lower
  let upper ← sliceBound upper
  let n : Int := length
  if 0 < step then
    return ⟨(lower.map (clampBound n 0 n)).getD 0, (upper.map (clampBound n 0 n)).getD n, step⟩
  else
    return ⟨(lower.map (clampBound n (-1) (n - 1))).getD (n - 1),
      (upper.map (clampBound n (-1) (n - 1))).getD (-1), step⟩

/-- A slice against the length of a sequence, or the exception for its fault. -/
def resolveSpan (lower upper step : Value) (length : Nat) : Run Span :=
  match resolveSlice lower upper step length with
  | .ok s => return s
  | .error f => .fail f.errorClass f.message

/-! ## §2. Reading items. -/

/-- The exception for a key that is not there. -/
def missingKey (key : Value) : Exc := .of .key [key]

/-- Sizes and indices lie below this. -/
def sizeLimit : Int := 0x8000000000000000

/-- Does a number fit where sizes and indices do? -/
def fitsSize (n : Int) : Bool := -sizeLimit ≤ n && n < sizeLimit

/-- What is said of a number that does not fit where sizes and indices do. -/
def unfitSizeMessage : String := "cannot fit 'int' into an index-sized integer"

/-- The place that an index names in a sequence of a given length; `outside` is said if there is
no such place. -/
def placeOrFail (index : Int) (length : Nat) (outside : String) : Run Nat :=
  if fitsSize index then
    match place? index length with
    | some k => return k
    | none => .fail .index outside
  else .fail .index unfitSizeMessage

/-- The exception for an index that is no number. -/
def badIndex (kind : String) (index : Value) : Run Value := do
  .fail .type (kind ++ " indices must be integers or slices, not " ++ (← index.kind))

/-- The item of a list or a tuple at an index, or its slice. -/
def itemAt (kind : String) (items : Array Value) (wrap : List Value → Run Value) :
    Value → Run Value
  | .slice a b c => do
    let span ← resolveSpan a b c items.size
    wrap (span.pick items)
  | index =>
    match index.whole? with
    | none => badIndex kind index
    | some i => do
      let k ← placeOrFail i items.size (kind ++ " index out of range")
      return items[k]?.getD .none

/-- The character of a text at an index, or its slice. -/
def characterAt (s : String) : Value → Run Value
  | .slice a b c => do
    let span ← resolveSpan a b c s.length
    return .text (String.ofList (span.pick s.toList.toArray))
  | index =>
    match index.whole? with
    | none => do .fail .type ("string indices must be integers, not '" ++ (← index.kind) ++ "'")
    | some i => do
      let k ← placeOrFail i s.length "string index out of range"
      return .text (String.ofList ((s.toList.drop k).take 1))

/-- The member of a range at an index, or its slice. -/
def memberAt (start stop step : Int) : Value → Run Value
  | .slice a b c => do
    let span ← resolveSpan a b c (rangeLength start stop step)
    return .range (start + step * span.start) (start + step * span.stop) (step * span.step)
  | index =>
    match index.whole? with
    | none => badIndex "range" index
    | some i =>
      match place? i (rangeLength start stop step) with
      | some k => return .int (start + step * k)
      | none => .fail .index "range object index out of range"

/-- The classes that may be subscripted. -/
def genericClasses : List Builtin :=
  [.list, .tuple, .dict, .set, .frozenset, .enumerate, .type]

/-- The item of a value that an index or key names. -/
def Value.item (v index : Value) : Run Value := do
  match v with
  | .text s => characterAt s index
  | .tuple items => itemAt "tuple" items.toArray (fun xs => return .tuple xs) index
  | .range a b c => memberAt a b c index
  | .ref r =>
    match ← Run.object r with
    | .list items => itemAt "list" items Run.newList index
    | .dict d =>
      index.ensureKey
      match d.get? index with
      | some u => return u
      | Option.none => .throw (missingKey index)
    | o => .fail .type ("'" ++ o.kind ++ "' object is not subscriptable")
  | .errorClass c => .fail .type ("type '" ++ c.label ++ "' is not subscriptable")
  | .builtin b =>
    match ← v.kind with
    | "type" =>
      if genericClasses.contains b then .leave "generic types"
      else .fail .type ("type '" ++ b.label ++ "' is not subscriptable")
    | k => .fail .type ("'" ++ k ++ "' object is not subscriptable")
  | _ => .fail .type ("'" ++ (← v.kind) ++ "' object is not subscriptable")

/-! ## §3. Changing items. -/

/-- Items with those of a span replaced. -/
def replaceSpan (span : Span) (new : List Value) (items : Array Value) :
    Except String (Array Value) :=
  if span.step = 1 then
    let start := span.start.toNat
    .ok (items.extract 0 start ++ new.toArray
      ++ items.extract (max start span.stop.toNat) items.size)
  else if new.length = span.length then
    .ok ((span.indices.zip new).foldl (fun xs p => xs.setIfInBounds p.1 p.2) items)
  else
    .error ("attempt to assign sequence of size " ++ toString new.length
      ++ " to extended slice of size " ++ toString span.length)

/-- Items without those of a span. -/
def removeSpan (span : Span) (items : Array Value) : Array Value :=
  let gone := span.indices.foldl (fun (a : Array Bool) i => a.setIfInBounds i true)
    (Array.replicate items.size false)
  (items.zip gone).filterMap (fun p => if p.2 then none else some p.1)

/-- The place that an index names in a list, for a change. -/
def placeToChange (index : Value) (size : Nat) : Run Nat := do
  match index.whole? with
  | some i => placeOrFail i size "list assignment index out of range"
  | Option.none =>
    .fail .type ("list indices must be integers or slices, not " ++ (← index.kind))

/-- The number of items of the list at a place. -/
def listSize (r : Ref) : Run Nat := Run.ask (fun w => (w.itemsAt r).size)

/-- Set the item of a value that an index or key names.  `new` are the items of the value, for
a slice. -/
def Value.setItem (v index value : Value) (new : Run (List Value)) : Run Unit := do
  match v, ← v.kind, index with
  | .ref r, "list", .slice a b c => do
    let span ← resolveSpan a b c (← listSize r)
    let xs ← new
    match replaceSpan span xs (← Run.ask (·.itemsAt r)) with
    | .ok ys => Run.setObject r (.list ys)
    | .error message => .fail .value message
  | .ref r, "list", _ => do
    let k ← placeToChange index (← listSize r)
    Run.changeItems r (·.setIfInBounds k value)
  | .ref r, "dict", _ => do
    index.ensureKey
    Run.changeEntries r (·.put index value)
  | _, kind, _ => .fail .type ("'" ++ kind ++ "' object does not support item assignment")

/-- Kinds of values that are asked as sequences when an item is removed by its index. -/
def indexedKinds : List String :=
  ["str", "tuple", "range", "dict_keys", "dict_values", "dict_items", "set", "frozenset", "Obj",
   "Ctx", "RenderContext"]

/-- Fail because nothing can be removed from a value. -/
def noRemoval (v index : Value) : Run Unit := do
  let kind ← v.kind
  let verb :=
    if indexedKinds.contains kind && index.whole?.isSome then "doesn't" else "does not"
  .fail .type ("'" ++ kind ++ "' object " ++ verb ++ " support item deletion")

/-- Remove the item of a value that an index or key names. -/
def Value.removeItem (v index : Value) : Run Unit := do
  match v, ← v.kind, index with
  | .ref r, "list", .slice a b c => do
    let span ← resolveSpan a b c (← listSize r)
    Run.setObject r (.list (removeSpan span (← Run.ask (·.itemsAt r))))
  | .ref r, "list", _ => do
    let k ← placeToChange index (← listSize r)
    Run.changeItems r (·.eraseIdxIfInBounds k)
  | .ref r, "dict", _ => do
    index.ensureKey
    if ← Run.ask (fun w => (w.dictionaryAt r).contains index) then
      Run.changeEntries r (·.drop index)
    else .throw (missingKey index)
  | _, _, _ => noRemoval v index

end Inlay
