/-
  Inlay.Eval.Unpack
  ────────────────────────────────
  **VALUES TAKEN APART.**

  How the values of an iterable are dealt out to several targets, one of
  which may take all that the others leave.
-/
import Inlay.Eval.Iterate

namespace Inlay

/-- The values that an iterator gives next, at most so many. -/
def takeValues (p : Power) (it : Value) : Nat → Run (List Value)
  | 0 => return []
  | n + 1 => do
    match ← it.advance p with
    | none => return []
    | some v => return v :: (← takeValues p it n)

/-- Fail because there are fewer values than targets. -/
def tooFewValues {α : Type} (least expected got : String) : Run α :=
  .fail .value ("not enough values to unpack (expected " ++ least ++ expected ++ ", got " ++ got
    ++ ")")

/-- An iterator over a value that is taken apart. -/
def Value.unpacking (v : Value) : Run Value := do
  match ← Run.attempt v.iterator with
  | .ok it => return it
  | .error _ => .fail .type ("cannot unpack non-iterable " ++ (← v.kind) ++ " object")

/-- Exactly so many values. -/
def Value.unpack (p : Power) (v : Value) (count : Nat) : Run (List Value) := do
  let it ← v.unpacking
  let values ← takeValues p it (count + 1)
  if values.length < count then
    tooFewValues "" (toString count) (toString values.length)
  else if count < values.length then
    .fail .value ("too many values to unpack (expected " ++ toString count ++ ")")
  else return values

/-- So many values, then a list of those between, then so many values from the end. -/
def Value.unpackAround (p : Power) (v : Value) (before after : Nat) : Run (List Value) := do
  let it ← v.unpacking
  let values ← collectAll p it
  let n := values.length
  if n < before + after then
    tooFewValues "at least " (toString (before + after)) (toString n)
  else
    let middle ← Run.newList ((values.take (n - after)).drop before)
    return values.take before ++ middle :: values.drop (n - after)

end Inlay
