/-
  Inlay.Eval.Iterate
  ────────────────────────────────
  **ITERATION.**

  What gives values one by one: an iterator over data that may still change,
  an iterator over other iterators, or a generator expression, which is
  evaluated from one value to the next.
-/
import Inlay.Eval.Power
import Inlay.Value.Compare
import Inlay.Value.Members
import Inlay.Value.Sequence

namespace Inlay

open Inlay.Code

/-! ## §1. Iterators of values. -/

/-- What the iterator of a text is called. -/
def textIteratorKind (s : String) : String :=
  if s.toList.all (·.toNat < 128) then "str_ascii_iterator" else "str_iterator"

/-- An iterator over what a dictionary holds. -/
def dictIterator (w : World) (r : Ref) (kind : ViewKind) : Iter :=
  let n := (w.dictionaryAt r).size
  .dict r kind 0 n n

/-- A new iterator over a value. -/
def Value.iterator (v : Value) : Run Value := do
  match v with
  | .tuple items => Run.newIter (.values items "tuple_iterator")
  | .text s =>
    Run.newIter (.values (s.toList.map (fun c => .text (String.singleton c)))
      (textIteratorKind s))
  | .range a b c => Run.newIter (.range a (rangeLength a b c) c)
  | .view _ r kind => Run.newIter (← Run.ask (dictIterator · r kind))
  | .frozen members => Run.newIter (.values members "set_iterator")
  | .ref r =>
    match ← Run.object r with
    | .list _ => Run.newIter (.list r 0)
    | .dict _ => Run.newIter (← Run.ask (dictIterator · r .keys))
    | .set d => Run.newIter (.members r (orderedMembers (d.toList.map Prod.fst)) d.size)
    | .iter _ => return v
    | o => .fail .type ("'" ++ o.kind ++ "' object is not iterable")
  | _ => .fail .type ("'" ++ (← v.kind) ++ "' object is not iterable")

/-- What a view shows of an entry. -/
def viewOf (kind : ViewKind) (e : Value × Value) : Value :=
  match kind with
  | .keys => e.1
  | .values => e.2
  | .items => .tuple [e.1, e.2]

/-! ## §2. The next value. -/

/-- The next values of some iterators, if all of them have one; otherwise the number of those in
front of the first one that has none.  `count` are the iterators before. -/
def nextAll (next : Value → Run (Option Value)) (count : Nat) :
    List Value → Run (Except Nat (List Value))
  | [] => return .ok []
  | it :: rest => do
    match ← next it with
    | none => return .error count
    | some v =>
      match ← nextAll next (count + 1) rest with
      | .error n => return .error n
      | .ok vs => return .ok (v :: vs)

/-- Iterators as the arguments of `zip` that they are. -/
def zipArguments (count : Nat) : String :=
  if count = 1 then "argument 1" else "arguments 1-" ++ toString count

/-- Fail if one of the iterators behind the first one still has a value; `count` are those in
front. -/
def ensureOver (next : Value → Run (Option Value)) (count : Nat) : List Value → Run Unit
  | [] => return ()
  | it :: rest => do
    match ← next it with
    | none => ensureOver next (count + 1) rest
    | some _ =>
      .fail .value ("zip() argument " ++ toString (count + 1) ++ " is longer than "
        ++ zipArguments count)

/-- What strict pairing demands when an iterator ends, in front of which others gave values. -/
def ensureSameLength (next : Value → Run (Option Value)) (count : Nat) (inners : List Value) :
    Run Unit :=
  if count = 0 then ensureOver next 1 (inners.drop 1)
  else
    .fail .value ("zip() argument " ++ toString (count + 1) ++ " is shorter than "
      ++ zipArguments count)

/-- Do all conditions hold? -/
def allHold (p : Power) (fr : Frame) : List Expr → Run Bool
  | [] => return true
  | e :: es => do
    if ← (← p.expression fr e).truth then allHold p fr es else return false

/-- How one step of a generator ends. -/
inductive GeneratorStep where
  | gives (v : Value) (g : Generator)
  | goesOn (g : Generator)
  | isOver

/-- One step of a generator: the innermost clause takes its next value. -/
def Generator.step (p : Power) (g : Generator) : Run GeneratorStep := do
  match g.active with
  | [] => return .isOver
  | it :: outer =>
    match g.clauses[outer.length]? with
    | none => return .isOver
    | some (.mk _ target _ conditions) =>
      match ← p.next it with
      | none => return .goesOn { g with active := outer }
      | some v =>
        p.assign g.frame target v
        if ← allHold p g.frame conditions then
          match g.clauses[outer.length + 1]? with
          | none => return .gives (← p.expression g.frame g.element) g
          | some (.mk _ _ inner _) =>
            let it' ← (← p.expression g.frame inner).iterator
            return .goesOn { g with active := it' :: g.active }
        else return .goesOn g

/-- Steps of a generator until it gives a value or is over. -/
def Generator.run (p : Power) : Nat → Generator → Run (Option (Value × Generator))
  | 0, _ => .starve
  | n + 1, g => do
    match ← g.step p with
    | .gives v g' => return some (v, g')
    | .isOver => return none
    | .goesOn g' => Generator.run p n g'

/-- The exception that leaves a generator instead of the given one. -/
def leavingGenerator (e : Exc) : Exc :=
  if e.cls.isA .stopIteration then .saying .runtime "generator raised StopIteration" else e

/-- Work whose end of iteration means that there is no value. -/
def untilStop (x : Run (Option Value)) : Run (Option Value) :=
  Run.catching x (fun e => if e.cls.isA .stopIteration then return none else .throw e)

/-- The next value of a mapped function; the end of its iteration may come from the function. -/
def nextMapped (p : Power) (f : Value) (inners : List Value) : Run (Option Value) := do
  match ← nextAll p.next 0 inners with
  | .error _ => return none
  | .ok vs => untilStop (some <$> p.call f vs [])

/-- Does a function hold of a value?  Without a function, does it count as true? -/
def holdsOf (p : Power) (f v : Value) : Run Bool := do
  match f with
  | .none => v.truth
  | .builtin .bool => v.truth
  | f => (← p.call f [v] []).truth

/-- The next value of an iterator of which a function holds. -/
def nextHolding (p : Power) (f inner : Value) : Nat → Run (Option Value)
  | 0 => .starve
  | n + 1 => do
    match ← p.next inner with
    | none => return none
    | some v => if ← holdsOf p f v then return some v else nextHolding p f inner n

/-- The entry of a dictionary at a place or behind it, and the place behind it. -/
def Dictionary.entryFrom? (d : Dictionary) (place : Nat) : Nat → Option ((Value × Value) × Nat)
  | 0 => none
  | n + 1 =>
    match d.at? place with
    | some e => some (e, place + 1)
    | none => d.entryFrom? (place + 1) n

/-- The next thing that a dictionary holds, and the iterator behind it. -/
def nextEntry (r : Ref) (kind : ViewKind) (place size left : Nat) : Run (Option Value × Iter) := do
  let d ← Run.ask (·.dictionaryAt r)
  if d.size ≠ size then .fail .runtime "dictionary changed size during iteration"
  else
    match d.entryFrom? place (d.span - place) with
    | none => return (none, .exhausted (Iter.dict r kind place size left).kind)
    | some (e, place') =>
      if left = 0 then .fail .runtime "dictionary keys changed during iteration"
      else return (some (viewOf kind e), .dict r kind place' size (left - 1))

/-- The next value of an iterator, and what the iterator is then. -/
def Iter.next (p : Power) (it : Iter) : Run (Option Value × Iter) := do
  match it with
  | .values [] kind => return (none, .exhausted kind)
  | .values (v :: rest) kind => return (some v, .values rest kind)
  | .list r i =>
    match ← Run.ask (fun w => (w.itemsAt r)[i]?) with
    | some v => return (some v, .list r (i + 1))
    | none => return (none, .exhausted it.kind)
  | .listBack _ 0 => return (none, .exhausted it.kind)
  | .listBack r (i + 1) =>
    match ← Run.ask (fun w => (w.itemsAt r)[i]?) with
    | some v => return (some v, .listBack r i)
    | none => return (none, .exhausted it.kind)
  | .range _ 0 _ => return (none, it)
  | .range a (n + 1) c => return (some (.int a), .range (a + c) n c)
  | .dict r kind place size left => nextEntry r kind place size left
  | .members _ [] _ => return (none, .exhausted it.kind)
  | .members r (v :: rest) size =>
    match ← Run.ask (·.membersOf? (.ref r)) with
    | some d =>
      if d.size ≠ size then .fail .runtime "Set changed size during iteration"
      else return (some v, .members r rest size)
    | none => return (none, .exhausted it.kind)
  | .enumerate inner n =>
    match ← p.next inner with
    | some v => return (some (.tuple [.int n, v]), .enumerate inner (n + 1))
    | none => return (none, it)
  | .map f inners => return (← nextMapped p f inners, it)
  | .filter f inner => return (← untilStop (nextHolding p f inner p.rounds), it)
  | .zip [] _ => return (none, it)
  | .zip inners strict =>
    match ← nextAll p.next 0 inners with
    | .ok vs => return (some (.tuple vs), it)
    | .error n =>
      if strict then ensureSameLength p.next n inners
      return (none, it)
  | .calls f sentinel =>
    match ← untilStop (some <$> p.call f [] []) with
    | none => return (none, .exhausted it.kind)
    | some v =>
      if ← sentinel.matches v then return (none, .exhausted it.kind) else return (some v, it)
  | .generator g =>
    match ← g.run p p.rounds with
    | some (v, g') => return (some v, .generator g')
    | none => return (none, .exhausted it.kind)
  | .running => .fail .value "generator already executing"
  | .exhausted kind => return (none, .exhausted kind)

/-- Note that the iterator at a place begins to work; generators do not begin twice. -/
def Iter.begin (r : Ref) : Iter → Run Unit
  | .generator _ => Run.setObject r (.iter .running)
  | _ => return ()

/-- What an iterator is after an exception. -/
def Iter.afterFailure : Iter → Iter
  | .generator _ => .exhausted "generator"
  | it => it

/-- What leaves an iterator instead of an exception. -/
def Iter.leaving : Iter → Exc → Exc
  | .generator _, e => leavingGenerator e
  | _, e => e

/-- The next value of an iterator. -/
def Value.advance (p : Power) (v : Value) : Run (Option Value) := do
  match v with
  | .ref r =>
    match ← Run.object r with
    | .iter it =>
      it.begin r
      match ← Run.attempt (it.next p) with
      | .ok (u, it') =>
        Run.setObject r (.iter it')
        return u
      | .error e =>
        Run.setObject r (.iter it.afterFailure)
        .throw (it.leaving e)
    | o => .fail .type ("'" ++ o.kind ++ "' object is not an iterator")
  | _ => .fail .type ("'" ++ (← v.kind) ++ "' object is not an iterator")

/-! ## §3. Whole iterations. -/

/-- Put the values that an iterator still gives, at most so many, to use one by one. -/
def foldValues {α : Type} (p : Power) (it : Value) (f : α → Value → Run α) : Nat → α → Run α
  | 0, _ => .starve
  | n + 1, a => do
    match ← it.advance p with
    | some v => foldValues p it f n (← f a v)
    | none => return a

/-- The values that an iterator still gives. -/
def collectAll (p : Power) (it : Value) : Run (List Value) := do
  return (← foldValues p it (fun xs v => return Array.push xs v) p.rounds #[]).toList

/-- The values that a value gives. -/
def Value.collect (p : Power) (v : Value) : Run (List Value) := do
  collectAll p (← v.iterator)

/-- Run something for each value that an iterator gives.  The flow is normal if the iterator came
to its end. -/
def forEach {m : Type → Type} [Monad m] [MonadLiftT Run m] (p : Power) (it : Value)
    (body : Value → m Flow) : Nat → m Flow
  | 0 => (Run.starve : Run Flow)
  | n + 1 => do
    match ← (it.advance p : Run (Option Value)) with
    | none => return .normal
    | some v =>
      match ← body v with
      | .normal => forEach p it body n
      | .continueLoop => forEach p it body n
      | flow => return flow

end Inlay
