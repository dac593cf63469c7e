/-
  Inlay.Eval.MappingMethods
  ────────────────────────────────
  **THE METHODS OF DICTIONARIES AND SETS.**

  What changes a dictionary or a set changes it in its place, so that all who
  hold it see it.
-/
import Inlay.Eval.Membership
import Inlay.Eval.Conversion

namespace Inlay

/-! ## §1. Dictionaries. -/

/-- The key of a look-up with a default, and the default; nothing if there is none. -/
def keyArguments (name : String) (args : List Value) (keywords : List (String × Value)) :
    Run (Value × Option Value) := do
  noKeywords ("dict." ++ name) keywords
  argumentRange name 1 2 args
  return (args.head?.getD .none, args[1]?)

/-- The value of a key in the dictionary at a place. -/
def entryAt (r : Ref) (key : Value) : Run (Option Value) :=
  Run.ask (fun w => (w.dictionaryAt r).get? key)

/-- A new view of the dictionary at a place. -/
def newView (r : Ref) (kind : ViewKind) : Run Value := return .view (← Run.fresh) r kind

/-- Call a method of a dictionary. -/
def callDictMethod (p : Power) (r : Ref) (m : Method) (args : List Value)
    (keywords : List (String × Value)) : Run Value := do
  let title := "dict." ++ m.label
  match m with
  | .get => do
    let (key, fallback) ← keyArguments m.label args keywords
    key.ensureKey
    return ((← entryAt r key).or fallback).getD .none
  | .items => do
    noArguments title args keywords
    newView r .items
  | .keys => do
    noArguments title args keywords
    newView r .keys
  | .values => do
    noArguments title args keywords
    newView r .values
  | .pop => do
    let (key, fallback) ← keyArguments m.label args keywords
    if (← Run.ask (fun w => (w.dictionaryAt r).size)) ≠ 0 then key.ensureKey
    match ← entryAt r key, fallback with
    | some v, _ =>
      Run.changeEntries r (·.drop key)
      return v
    | none, some v => return v
    | none, none => .throw (missingKey key)
  | .popitem => do
    noArguments title args keywords
    match ← Run.ask (fun w => (w.dictionaryAt r).last?) with
    | some (k, v) =>
      Run.changeEntries r (·.dropLast k)
      return .tuple [k, v]
    | none => .throw (missingKey (.text "popitem(): dictionary is empty"))
  | .setdefault => do
    let (key, fallback) ← keyArguments m.label args keywords
    key.ensureKey
    match ← entryAt r key with
    | some v => return v
    | none =>
      let v := fallback.getD .none
      Run.changeEntries r (·.put key v)
      return v
  | .update => do
    argumentRange m.label 0 1 args
    match args with
    | [] => Pure.pure ()
    | v :: _ => updateDict p r v
    Run.changeEntries r (fun d => keywords.foldl (fun d b => d.putName b.1 b.2) d)
    return .none
  | .clear => do
    noArguments title args keywords
    Run.setObject r (.dict .empty)
    return .none
  | .copy => do
    noArguments title args keywords
    Run.newDict (.ofList (← Run.ask (fun w => (w.dictionaryAt r).toList)))
  | m => .leave ("the method " ++ m.label)

/-! ## §2. What sets tell. -/

/-- The members of a set, or of an iterable as a set. -/
def membersIn (p : Power) (v : Value) : Run Dictionary := do
  match ← Run.ask (·.membersOf? v) with
  | some d => return d
  | none => gatherMembers p .empty v

/-- The members of a set together with those of others. -/
def unite (p : Power) (start : Dictionary) : List Value → Run Dictionary
  | [] => return start
  | v :: rest => do
    match ← Run.ask (·.membersOf? v) with
    | some d => unite p (start.putAll d.toList) rest
    | none => unite p (← gatherMembers p start v) rest

/-- The members of a set changed by an operation with each of some others. -/
def combineAll (p : Power) (f : Dictionary → Dictionary → Dictionary) (start : Dictionary) :
    List Value → Run Dictionary
  | [] => return start
  | v :: rest => do combineAll p f (f start (← membersIn p v)) rest

/-- The members that two sets have in common. -/
def commonMembers (xs ys : Dictionary) : Dictionary :=
  (combineMembers? .bitAnd xs ys).getD .empty

/-- The members that one of two sets has. -/
def unsharedMembers (xs ys : Dictionary) : Dictionary :=
  (combineMembers? .bitXor xs ys).getD .empty

/-- Call a method that leaves a set as it is. -/
def callFrozenMethod (p : Power) (self : Value) (m : Method) (args : List Value)
    (keywords : List (String × Value)) : Run Value := do
  let title := (← self.kind) ++ "." ++ m.label
  let members ← membersIn p self
  match m with
  | .copy => do
    noArguments title args keywords
    match self with
    | .frozen _ => return self
    | _ => newMembers self members
  | .union => do
    noKeywords title keywords
    newMembers self (← unite p members args)
  | .intersection => do
    noKeywords title keywords
    newMembers self (← combineAll p commonMembers members args)
  | .difference => do
    noKeywords title keywords
    newMembers self (← combineAll p (siftMembers false) members args)
  | .symmetricDifference => do
    let other ← membersIn p (← oneArgument title args keywords)
    newMembers self (unsharedMembers members other)
  | .isSubset => do
    let other ← membersIn p (← oneArgument title args keywords)
    return .bool (subsetOf members other)
  | .isSuperset => do
    let other ← membersIn p (← oneArgument title args keywords)
    return .bool (subsetOf other members)
  | .isDisjoint => do
    let other ← membersIn p (← oneArgument title args keywords)
    return .bool (siftMembers true members other).toList.isEmpty
  | m => .leave ("the method " ++ m.label)

/-! ## §3. What changes sets. -/

/-- Add the values of iterables to the set at a place. -/
def extendSet (p : Power) (r : Ref) : List Value → Run Unit
  | [] => return ()
  | v :: rest => do
    match ← Run.ask (fun w => (w.membersOf? v).map Dictionary.toList) with
    | some members => Run.changeMembers r (·.putAll members)
    | none =>
      foldValues p (← v.iterator) (fun _ u => do
        u.ensureKey
        Run.changeMembers r (·.put u .none)) p.rounds ()
    extendSet p r rest

/-- Call a method of a set. -/
def callSetMethod (p : Power) (r : Ref) (m : Method) (args : List Value)
    (keywords : List (String × Value)) : Run Value := do
  let title := "set." ++ m.label
  match m with
  | .add => do
    let v ← oneArgument title args keywords
    v.ensureKey
    Run.changeMembers r (·.put v .none)
    return .none
  | .discard => do
    let v ← (← oneArgument title args keywords).asMember
    v.ensureKey
    Run.changeMembers r (·.drop v)
    return .none
  | .remove => do
    let v ← oneArgument title args keywords
    let sought ← v.asMember
    sought.ensureKey
    if ← Run.ask (fun w => (w.membersAt r).contains sought) then
      Run.changeMembers r (·.drop sought)
      return .none
    else .throw (missingKey v)
  | .pop => do
    noArguments title args keywords
    match ← Run.ask (fun w => orderedMembers ((w.membersAt r).toList.map Prod.fst)) with
    | [] => .throw (missingKey (.text "pop from an empty set"))
    | v :: _ =>
      Run.changeMembers r (·.drop v)
      return v
  | .clear => do
    noArguments title args keywords
    Run.setObject r (.set .empty)
    return .none
  | .update => do
    noKeywords title keywords
    extendSet p r args
    return .none
  | m => callFrozenMethod p (.ref r) m args keywords

end Inlay
