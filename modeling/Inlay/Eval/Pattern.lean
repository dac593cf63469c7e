/-
  Inlay.Eval.Pattern
  ────────────────────────────────
  **PATTERNS.**

  Whether a value matches a pattern, and which names it binds then.
-/
import Inlay.Eval.Expression

namespace Inlay

open Inlay.Code

/-! ## §1. Classes. -/

/-- Is the value an instance of the class that a pattern names? -/
def Value.isOfClass (v cls : Value) : Run Bool := do
  if isClass cls then Run.ask (·.isInstance v cls)
  else .fail .type "called match pattern must be a type"

/-- Classes whose values match one pattern by position as a whole. -/
def matchesWhole : Value → Bool
  | .builtin b =>
    [Builtin.bool, .float, .int, .text, .list, .dict, .tuple, .set, .frozenset,
      .otherClass "bytearray", .otherClass "bytes"].contains b
  | _ => false

/-- The name of a class. -/
def className : Value → String
  | .builtin b => b.label
  | .errorClass c => c.label
  | _ => ""

/-- Fail unless a class takes so many patterns by position. -/
def positionalPatterns (cls : Value) (count : Nat) : Run Unit :=
  let most := if matchesWhole cls then 1 else 0
  if most < count then
    .fail .type (className cls ++ "() accepts " ++ toString most ++ " positional sub-pattern"
      ++ (if most = 1 then "" else "s") ++ " (" ++ toString count ++ " given)")
  else return ()

/-! ## §2. Sequences and mappings. -/

/-- The items of a value that sequence patterns take apart. -/
def World.sequenceItems? (w : World) (v : Value) : Option (List Value) :=
  match v with
  | .range a b c => some ((rangeMembers a c (rangeLength a b c)).map .int)
  | v => w.itemsOf? v

/-- How many patterns stand before the rest of a sequence, and how many behind it. -/
def restPlace? (patterns : List Pattern) : Option (Nat × Nat) :=
  let before := patterns.takeWhile (fun q => !q.isRest)
  if before.length < patterns.length then
    some (before.length, patterns.length - before.length - 1)
  else none

/-- The items for the patterns of a sequence, if their number fits. -/
def itemsForPatterns (patterns : List Pattern) (items : List Value) :
    Run (Option (List Value)) := do
  let n := items.length
  match restPlace? patterns with
  | none => return if n = patterns.length then some items else none
  | some (before, after) =>
    if n < before + after then return none
    else
      let middle ← Run.newList ((items.take (n - after)).drop before)
      return some (items.take before ++ middle :: items.drop (n - after))

/-- The values that a dictionary holds under keys, if it has all of them; no key may come twice.
`seen` are the keys before. -/
def valuesOfKeys (held : Dictionary) (seen : List Value) : List Value → Run (Option (List Value))
  | [] => return some []
  | k :: rest => do
    k.ensureKey
    if seen.any (·.sameKey k) then
      .fail .value ("mapping pattern checks duplicate key (" ++ (← k.display) ++ ")")
    else
      match held.get? k with
      | none => return none
      | some v => return (← valuesOfKeys held (k :: seen) rest).map (v :: ·)

/-- What a match has bound, if it succeeded. -/
abbrev Matched := Option (List (String × Value))

/-! ## §3. Patterns. -/

mutual

/-- What a value binds under a pattern, if it matches. -/
def Code.Pattern.matchWith (p : Power) (fr : Frame) : Pattern → Value → Run Matched
  | .value e, v => do
    return if ← v.equal (← e.eval p fr) then some [] else none
  | .singleton c, v => do
    return if v.same (← c.value) then some [] else none
  | .sequence patterns, v => do
    match ← Run.ask (·.sequenceItems? v) with
    | none => return none
    | some items =>
      match ← itemsForPatterns patterns items with
      | none => return none
      | some values => matchAll p fr patterns values
  | .mapping entries rest, v => do
    match ← Run.ask (·.dictionaryOf? v) with
    | none => return none
    | some held =>
      if held.size < entries.length then return none
      else
        let keys ← patternKeys p fr entries
        match ← valuesOfKeys held [] keys with
        | none => return none
        | some values =>
          match ← matchEntries p fr entries values, rest with
          | some bound, some name =>
            let d ← Run.newDict (keys.foldl Dictionary.drop (.ofList held.toList))
            return some (bound ++ [(name, d)])
          | bound?, _ => return bound?
  | .instanceOf cls positional named, v => do
    let c ← cls.eval p fr
    if ← v.isOfClass c then
      positionalPatterns c positional.length
      match ← matchAll p fr positional [v] with
      | none => return none
      | some bound =>
        match ← matchNamed p fr v named with
        | none => return none
        | some more => return some (bound ++ more)
    else return none
  | .rest none, _ => return some []
  | .rest (some name), v => return some [(name, v)]
  | .capture none none, _ => return some []
  | .capture none (some name), v => return some [(name, v)]
  | .capture (some q) none, v => q.matchWith p fr v
  | .capture (some q) (some name), v => do
    return (← q.matchWith p fr v).map (· ++ [(name, v)])
  | .alternatives patterns, v => matchAny p fr patterns v

/-- What some values bind under some patterns, one by one. -/
def matchAll (p : Power) (fr : Frame) : List Pattern → List Value → Run Matched
  | q :: qs, v :: vs => do
    match ← q.matchWith p fr v with
    | none => return none
    | some bound => return (← matchAll p fr qs vs).map (bound ++ ·)
  | _, _ => return some []

/-- What a value binds under the first pattern that it matches. -/
def matchAny (p : Power) (fr : Frame) : List Pattern → Value → Run Matched
  | [], _ => return none
  | q :: qs, v => do
    match ← q.matchWith p fr v with
    | some bound => return some bound
    | none => matchAny p fr qs v

/-- The keys that a pattern names. -/
def patternKeys (p : Power) (fr : Frame) : List MapEntry → Run (List Value)
  | [] => return []
  | .mk key _ :: rest => do
    let k ← key.eval p fr
    return k :: (← patternKeys p fr rest)

/-- What the values of keys bind under the patterns of these keys. -/
def matchEntries (p : Power) (fr : Frame) : List MapEntry → List Value → Run Matched
  | .mk _ q :: rest, v :: vs => do
    match ← q.matchWith p fr v with
    | none => return none
    | some bound => return (← matchEntries p fr rest vs).map (bound ++ ·)
  | _, _ => return some []

/-- What the attributes of a value bind under patterns. -/
def matchNamed (p : Power) (fr : Frame) (v : Value) : List NamedPattern → Run Matched
  | [] => return some []
  | .mk name q :: rest => do
    match ← v.attributeIfAny name with
    | none => return none
    | some u =>
      match ← q.matchWith p fr u with
      | none => return none
      | some bound => return (← matchNamed p fr v rest).map (bound ++ ·)

end

/-- Bind names to what a match has found. -/
def bindMatched (fr : Frame) : List (String × Value) → Run Unit
  | [] => return ()
  | (name, v) :: rest => do
    writeName fr name v
    bindMatched fr rest

end Inlay
