/-
  Inlay.Eval.Statement
  ────────────────────────────────
  **STATEMENTS.**

  What a statement does, by recursion on its tree.  Simple statements end
  normally or leave a loop or a function; compound statements put their parts
  together as `Inlay.Eval.Control` says.  Other work may take the place of
  bodies that are a single `pass`.
-/
import Inlay.Code.Skeleton
import Inlay.Eval.Control
import Inlay.Eval.Pattern

namespace Inlay

open Inlay.Code

/-! ## §1. Updates in place. -/

/-- Repeat the items of the list at a place. -/
def repeatList (r : Ref) (n : Int) : Run Unit := do
  match ← (Value.ref r).repeat n with
  | .ref new => Run.setObject r (← Run.object new)
  | _ => return ()

/-- Replace the members of the set at a place by what an operation with another set makes of
them. -/
def updateSet (r : Ref) (op : BinaryOp) (others : Dictionary) : Run Unit := do
  match op with
  | .bitOr => Run.changeMembers r (·.putAll others.toList)
  | op => Run.changeMembers r (fun d => (combineMembers? op d others).getD d)

/-- Does an operation change sets in their place? -/
def changesSets (op : BinaryOp) : Bool := (combineMembers? op .empty .empty).isSome

/-- An operation whose result takes the place of the first operand; lists, dictionaries and sets
change and stay the same objects. -/
def Value.updated (p : Power) (op : BinaryOp) (a b : Value) : Run Value := do
  match a with
  | .ref r =>
    match ← a.kind, op, b.whole?, ← Run.ask (·.membersOf? b) with
    | "list", .add, _, _ => do
      extendList p r b
      return a
    | "list", .mul, some n, _ => do
      repeatList r n
      return a
    | "dict", .bitOr, _, _ => do
      updateDict p r b
      return a
    | "set", op, _, some others =>
      if changesSets op then
        updateSet r op others
        return a
      else a.binary true op b
    | _, _, _, _ => a.binary true op b
  | _ => a.binary true op b

/-- Update a target with a value. -/
def updateTarget (p : Power) (fr : Frame) (op : BinaryOp) (value : Run Value) :
    Expr → Run Unit
  | .name id => do
    let a ← readName fr id
    writeName fr id (← a.updated p op (← value))
  | .attribute e name => do
    let owner ← e.eval p fr
    let a ← owner.attribute name
    owner.setAttribute name (← a.updated p op (← value))
  | .subscript e index => do
    let owner ← e.eval p fr
    let i ← index.eval p fr
    let a ← owner.item i
    let v ← a.updated p op (← value)
    owner.setItem i v (assignedItems p v)
  | _ => .leave "a target"

/-! ## §2. Removal. -/

mutual

/-- Remove what a target names. -/
def removeTarget (p : Power) (fr : Frame) : Expr → Run Unit
  | .name id => removeName fr id
  | .attribute e name => do (← e.eval p fr).removeAttribute name
  | .subscript e index => do
    let owner ← e.eval p fr
    owner.removeItem (← index.eval p fr)
  | .tuple targets => removeTargets p fr targets
  | .list targets => removeTargets p fr targets
  | _ => .leave "a target"

/-- Remove what some targets name. -/
def removeTargets (p : Power) (fr : Frame) : List Expr → Run Unit
  | [] => return ()
  | e :: es => do
    removeTarget p fr e
    removeTargets p fr es

end

/-! ## §3. Exceptions. -/

/-- An exception with the class of what it was raised from in its report. -/
def Exc.raisedFrom (e : Exc) (cause : Option String) : Exc :=
  match e with
  | .mk id c args name (some (.failure f)) =>
    .mk id c args name (some (.failure { f with cause := cause }))
  | e => e

/-- The exception that a value raises. -/
def Value.toExc (v : Value) (message : String) : Run Exc := do
  match v with
  | .exception e => return e
  | .errorClass c =>
    match ← c.call [] [] with
    | .exception e => return e
    | _ => .fail .type message
  | _ => .fail .type message

/-- Raise the exception that is being handled. -/
def raiseAgain : Run Flow := do
  match ← Run.ask World.handled with
  | e :: _ => .throw e
  | [] => .fail .runtime "No active exception to reraise"

/-- Raise an exception. -/
def raiseValue (v : Value) : Run Flow := do
  .throw (← v.toExc "exceptions must derive from BaseException")

/-- Raise an exception from another one. -/
def raiseFrom (v cause : Value) : Run Flow := do
  let e ← v.toExc "exceptions must derive from BaseException"
  match cause with
  | .none => .throw (e.raisedFrom none)
  | c =>
    let from' ← c.toExc "exception causes must derive from BaseException"
    .throw (e.raisedFrom (some from'.cls.label))

/-- The exception class that a value is. -/
def Value.errorClass? : Value → Option ErrorClass
  | errorClass c => some c
  | _ => Option.none

/-- Is an exception of one of the classes that a handler names? -/
def Exc.isCaughtBy (e : Exc) (type : Value) : Run Bool :=
  let classes :=
    match type with
    | .tuple items => items
    | v => [v]
  let known := classes.filterMap Value.errorClass?
  if known.length < classes.length then
    .fail .type "catching classes that do not inherit from BaseException is not allowed"
  else return known.any e.cls.isA

/-- Work with an exception bound to a name, which is unbound afterwards. -/
def withCaught {m : Type → Type} [Monad m] [MonadLiftT Run m] [Attempts m] (fr : Frame)
    (name : Option String) (e : Exc) (x : m Flow) : m Flow :=
  match name with
  | none => x
  | some n => do
    writeName fr n (.exception e)
    let outcome ← Attempts.attempt x
    writeName fr n .none
    removeName fr n
    match outcome with
    | .ok flow => return flow
    | .error e' => (Run.throw e' : Run Flow)

/-! ## §4. Imports. -/

/-- The module of a name. -/
def importedModule (name : String) : Run Value :=
  if knownModules.contains name then return .module name
  else if name.toList.contains '.' then .leave "modules of modules"
  else
    .throw (.of .moduleNotFound [.text ("No module named '" ++ name ++ "'")] (some name))

/-- The name of the function that imports. -/
def importerName : String := "__import__"

/-- The module that an import names, with the members that are asked of it.  The names behind those
of the module may hold another function that imports. -/
def importNamed (p : Power) (fr : Frame) (name : String) (members : Value) (level : Int) :
    Run Value := do
  match fr.behind with
  | none => importedModule name
  | some r =>
    match ← Run.object r with
    | .dict d =>
      match d.named? importerName with
      | none => .fail .importing "__import__ not found"
      | some f =>
        openNames fr.globals
        let here : Value := if fr.scopes.isEmpty then .ref fr.globals else .none
        f.callFrom p (some fr) [.text name, .ref fr.globals, here, members, .int level] []
    | _ => .leave "imports"

/-- Bind the modules that an import names. -/
def importAll (p : Power) (fr : Frame) : List ImportName → Run Unit
  | [] => return ()
  | n :: rest => do
    writeName fr (n.boundAs.getD n.name) (← importNamed p fr n.name .none 0)
    importAll p fr rest

/-- Bind the members of a module that an import names. -/
def importMembersOf (fr : Frame) (m : Value) : List ImportName → Run Unit
  | [] => return ()
  | n :: rest => do
    match ← m.attributeIfAny n.name with
    | some v => writeName fr (n.boundAs.getD n.name) v
    | none => .leave "a missing member of a module"
    importMembersOf fr m rest

/-! ## §5. Functions and annotations. -/

/-- Evaluate what is noted beside the parameters of a function. -/
def evalHints (p : Power) (fr : Frame) : List Param → Run Unit
  | [] => return ()
  | .mk _ _ (some e) _ :: rest => do
    let _ ← e.eval p fr
    evalHints p fr rest
  | .mk _ _ none _ :: rest => evalHints p fr rest

/-- A value with functions applied to it, the last one first. -/
def decorate (p : Power) (fr : Frame) : List Value → Value → Run Value
  | [], v => return v
  | d :: rest, v => do d.callFrom p (some fr) [← decorate p fr rest v] []

/-- The name under which a module keeps what is noted beside its names. -/
def hintsName : String := "__annotations__"

/-- Keep what is noted beside a target of a module. -/
def keepHint (p : Power) (fr : Frame) (target hint : Expr) (bare : Bool) : Run Unit := do
  if fr.scopes.isEmpty then
    let h ← hint.eval p fr
    match target, bare with
    | .name id, true =>
      (← readName fr hintsName).setItem (.text id) h (return [])
    | _, _ => return ()
  else return ()

/-- Evaluate the parts of a target that gets no value. -/
def visitTarget (p : Power) (fr : Frame) : Expr → Run Unit
  | .attribute e _ => do
    let _ ← e.eval p fr
  | .subscript e index => do
    let _ ← e.eval p fr
    let _ ← index.eval p fr
  | _ => return ()

/-! ## §6. Simple statements. -/

/-- Start an empty list of the program's own, if that is what an assignment does. -/
def startsList (fr : Frame) (targets : List Expr) (value : Expr) : Run Bool := do
  match targets, value with
  | [.name id], .list [] =>
    if Program.isReserved id && fr.scopes.isEmpty then keepName fr.globals id (.pieces [])
    else return false
  | _, _ => return false

/-- Run a statement that has no statements in it, or puts them off. -/
def Code.Stmt.runSimple (p : Power) (fr : Frame) : Stmt → Run Flow
  | .expression e => do
    let _ ← e.eval p fr
    return .normal
  | .assign targets value => do
    if ← startsList fr targets value then return .normal
    let v ← value.eval p fr
    targets.forM (fun t => t.bindTo p fr v)
    return .normal
  | .augment target op value => do
    updateTarget p fr op (value.eval p fr) target
    return .normal
  | .annotate target hint value bare => do
    match value with
    | some e => target.bindTo p fr (← e.eval p fr)
    | none => visitTarget p fr target
    keepHint p fr target hint bare
    return .normal
  | .delete targets => do
    removeTargets p fr targets
    return .normal
  | .breakLoop => return .breakLoop
  | .continueLoop => return .continueLoop
  | .giveBack none => return .giveBack .none
  | .giveBack (some e) => return .giveBack (← e.eval p fr)
  | .throw none _ => raiseAgain
  | .throw (some e) none => do raiseValue (← e.eval p fr)
  | .throw (some e) (some c) => do
    let v ← e.eval p fr
    raiseFrom v (← c.eval p fr)
  | .assertion test message => do
    if ← (← test.eval p fr).truth then return .normal
    else
      match message with
      | none => .throw (.of .assertion [])
      | some e => .throw (.of .assertion [← e.eval p fr])
  | .importModules names => do
    importAll p fr names
    return .normal
  | .importMembers module names level => do
    if level ≠ 0 then .throw (missingKey (.text "'__name__' not in globals"))
    else
      let members : Value := .tuple (names.map (fun n => .text n.name))
      importMembersOf fr (← importNamed p fr (module.getD "") members 0) names
      return .normal
  | .function isAsync name params body decorators returns => do
    if isAsync then .leave "asynchronous functions"
    let ds ← decorators.mapM (fun e => e.eval p fr)
    let defaults ← evalDefaults p fr params
    evalHints p fr params
    let _ ← evalOption p fr returns
    let f : Value := .function (.mk (← Run.fresh) (fr.path ++ name) params defaults
      (.statements body) (← fr.renewed))
    writeName fr name (← decorate p fr ds f)
    return .normal
  | .classBlock _ _ _ _ _ => .leave "classes"
  | _ => return .normal

/-! ## §7. All statements. -/

section Statements

variable {m : Type → Type} [Monad m] [MonadLiftT Run m] [Attempts m] (p : Power) (fr : Frame)

/-- Work with the value of a context manager. -/
def enterItem (item : WithItem) (body : m Flow) : m Flow := do
  let manager ← (item.manager.eval p fr : Run Value)
  managed manager (fun entered => do
    match item.target with
    | some target => (target.bindTo p fr entered : Run Unit)
    | none => Pure.pure ()
    body)

/-- The work that takes the place of a body, if the body is a `pass` for which there is some. -/
def workFor? (slots : List (Nat × m Flow)) : List Stmt → Option (m Flow)
  | [.pass line] => slots.lookup line
  | _ => none

/-- Does a statement put off a body for which there is other work? -/
def putsOff (slots : List (Nat × m Flow)) : Stmt → Bool
  | .function _ _ _ body _ _ => slots.any (fun l => (bodyPath? l.1 body).isSome)
  | _ => false

mutual

/-- Run a statement, with other work in the place of some bodies. -/
def Code.Stmt.runWith (slots : List (Nat × m Flow)) : Stmt → m Flow
  | .conditional test body orelse =>
    branch (do (← test.eval p fr).truth) (runBodyWith slots body) (runBodyWith slots orelse)
  | .whileLoop test body orelse =>
    repeatWhile (do (← test.eval p fr).truth) (runBodyWith slots body) (runBodyWith slots orelse)
      p.rounds
  | .forLoop isAsync target iter body orelse => do
    if isAsync then (Run.leave "asynchronous loops" : Run Unit)
    let it ← (do (← iter.eval p fr).iterator : Run Value)
    repeatFor p it
      (fun v => do
        (target.bindTo p fr v : Run Unit)
        runBodyWith slots body)
      (runBodyWith slots orelse)
  | .withBlock isAsync items body => do
    if isAsync then (Run.leave "asynchronous context managers" : Run Unit)
    items.foldr (enterItem p fr) (runBodyWith slots body)
  | .tryBlock isGroup body handlers orelse finalbody => do
    if isGroup then (Run.leave "groups of exceptions" : Run Unit)
    withFinal
      (guarded (runBodyWith slots body) (fun e => runHandlersWith slots e handlers)
        (runBodyWith slots orelse))
      (runBodyWith slots finalbody)
  | .matchBlock subject cases => do
    let v ← (subject.eval p fr : Run Value)
    runCasesWith slots v cases
  | s => do
    if putsOff slots s then (Run.leave "a body in a function" : Run Unit)
    (s.runSimple p fr : Run Flow)

/-- Run a body, with other work in the place of some bodies. -/
def runBodyWith (slots : List (Nat × m Flow)) : List Stmt → m Flow
  | [] => return .normal
  | s :: ss =>
    match workFor? slots (s :: ss) with
    | some x => x
    | none => do
      match ← s.runWith slots with
      | .normal => runRestWith slots ss
      | flow => return flow

/-- Run statements that are no body of their own. -/
def runRestWith (slots : List (Nat × m Flow)) : List Stmt → m Flow
  | [] => return .normal
  | s :: ss => do
    match ← s.runWith slots with
    | .normal => runRestWith slots ss
    | flow => return flow

/-- Run the first handler that catches an exception. -/
def runHandlersWith (slots : List (Nat × m Flow)) (e : Exc) : List Handler → m Flow
  | [] => (Run.throw e : Run Flow)
  | .mk none name body :: _ => withCaught fr name e (runBodyWith slots body)
  | .mk (some type) name body :: rest => do
    if ← (do e.isCaughtBy (← type.eval p fr) : Run Bool) then
      withCaught fr name e (runBodyWith slots body)
    else runHandlersWith slots e rest

/-- Run the first case that a value matches. -/
def runCasesWith (slots : List (Nat × m Flow)) (v : Value) : List Case → m Flow
  | [] => return .normal
  | .mk pattern guard body :: rest => do
    match ← (pattern.matchWith p fr v : Run (Option _)) with
    | none => runCasesWith slots v rest
    | some bound =>
      (bindMatched fr bound : Run Unit)
      match guard with
      | none => runBodyWith slots body
      | some e =>
        if ← (do (← e.eval p fr).truth : Run Bool) then runBodyWith slots body
        else runCasesWith slots v rest

end

end Statements

/-- Run a statement. -/
def Code.Stmt.run (p : Power) (fr : Frame) (s : Stmt) : Run Flow := s.runWith p fr []

/-- Run statements, one after the other, until one does not end normally. -/
def runBody (p : Power) (fr : Frame) (ss : List Stmt) : Run Flow := runRestWith p fr [] ss

/-! ## §8. Modules. -/

mutual

/-- Does a statement note something beside a name of the module? -/
def Code.Stmt.annotates : Stmt → Bool
  | .annotate _ _ _ _ => true
  | .conditional _ body orelse => bodyAnnotates body || bodyAnnotates orelse
  | .whileLoop _ body orelse => bodyAnnotates body || bodyAnnotates orelse
  | .forLoop _ _ _ body orelse => bodyAnnotates body || bodyAnnotates orelse
  | .withBlock _ _ body => bodyAnnotates body
  | .tryBlock _ body handlers orelse finalbody =>
    bodyAnnotates body || handlersAnnotate handlers || bodyAnnotates orelse
      || bodyAnnotates finalbody
  | .matchBlock _ cases => casesAnnotate cases
  | _ => false

/-- Does one of some statements note something beside a name of the module? -/
def bodyAnnotates : List Stmt → Bool
  | [] => false
  | s :: ss => s.annotates || bodyAnnotates ss

/-- Does the body of one of some handlers note something beside a name? -/
def handlersAnnotate : List Handler → Bool
  | [] => false
  | .mk _ _ body :: rest => bodyAnnotates body || handlersAnnotate rest

/-- Does the body of one of some cases note something beside a name? -/
def casesAnnotate : List Case → Bool
  | [] => false
  | .mk _ _ body :: rest => bodyAnnotates body || casesAnnotate rest

end

@[simp]
theorem bodyAnnotates_nil : bodyAnnotates [] = false := by
  rw [bodyAnnotates]

@[simp]
theorem bodyAnnotates_cons (s : Stmt) (ss : List Stmt) :
    bodyAnnotates (s :: ss) = (s.annotates || bodyAnnotates ss) := by
  rw [bodyAnnotates]

/-- Enter a module whose names are in a dictionary; what holds the names behind them.  There is room
for notes beside names if the statements of the module make some. -/
def enterModule (globals : Ref) (annotates : Bool) : Run (Option Ref) := do
  let behind ← behindOf globals none
  let noted ← Run.ask (fun w => (w.dictionaryAt globals).contains (.text hintsName))
  if annotates && !noted then
    bindInModule globals hintsName (← Run.newDict .empty)
  return behind

/-- Run the statements of a module whose names are in a dictionary. -/
def runModule (p : Power) (globals : Ref) (body : List Stmt) : Run Unit := do
  let behind ← enterModule globals (bodyAnnotates body)
  let _ ← p.body { globals, behind } body

end Inlay
