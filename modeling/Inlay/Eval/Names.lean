/-
  Inlay.Eval.Names
  ────────────────────────────────
  **NAMES AND THEIR VALUES.**

  A name belongs to the innermost scope that lists it, or else to the module;
  the module's names are the entries of a dictionary, behind which stand the
  names that every program knows.  Reserved names of a module are held apart
  from the dictionary until somebody asks for the dictionary itself.
-/
import Inlay.Program.Names
import Inlay.Value.Sequence

namespace Inlay

/-! ## §1. Scopes. -/

/-- The scope at a place. -/
def World.scopeAt (w : World) (r : Ref) : Scope :=
  match w.heap[r]? with
  | some (.scope s) => s
  | _ => ⟨[], [], []⟩

/-- Where a name belongs. -/
inductive Home where
  | module
  | scope (r : Ref)
  /-- A scope around the one at hand. -/
  | outer (r : Ref)
  deriving Repr, DecidableEq

/-- Where a name belongs, among scopes around the one at hand. -/
def World.outerHome (w : World) (name : String) : List Ref → Home
  | [] => .module
  | r :: rest =>
    let s := w.scopeAt r
    if s.globalNames.contains name then .module
    else if s.names.contains name then .outer r
    else w.outerHome name rest

/-- Where a name belongs. -/
def World.home (w : World) (name : String) : List Ref → Home
  | [] => .module
  | r :: rest =>
    let s := w.scopeAt r
    if s.globalNames.contains name then .module
    else if s.names.contains name then .scope r
    else w.outerHome name rest

/-! ## §2. Reserved names. -/

/-- The dictionary with entries put in at given places, in front of what stands there. -/
def Dictionary.putAt (d : Dictionary) (names : List (Nat × String × Value)) : Dictionary :=
  .ofList ((List.range (d.span + 1)).flatMap (fun i =>
    (names.filter (·.1 = i)).map (fun n => (.text n.2.1, n.2.2)) ++ (d.at? i).toList))

/-- What is held under a name, as a value; a list becomes an object. -/
def Held.toValue : Held → Run Value
  | value v => return v
  | pieces items => Run.newList items.reverse

/-- The lists among some names with their values. -/
def listsAmong : List (Kept × Value) → List (String × Ref)
  | [] => []
  | (⟨name, _, .pieces _⟩, .ref r) :: rest => (name, r) :: listsAmong rest
  | _ :: rest => listsAmong rest

/-- Make the reserved names of a module entries of its dictionary. -/
def openNames (globals : Ref) : Run Unit := do
  let names ← Run.changeOwn globals (fun o =>
    match o with
    | .kept ks => (ks, .opened [])
    | o => ([], o))
  if names.isEmpty then return ()
  let made ← names.mapM (fun k => do return (k, ← k.held.toValue))
  Run.changeEntries globals (·.putAt (made.map (fun m => (m.1.place, m.1.name, m.2))))
  Run.changeOwn globals (fun _ => ((), .opened (listsAmong made)))

/-- Hold something under a reserved name of a module, unless all names are entries of its
dictionary. -/
def keepName (globals : Ref) (name : String) (h : Held) : Run Bool := do
  let place ← Run.ask (fun w => (w.dictionaryAt globals).span)
  Run.changeOwn globals (fun o =>
    match o with
    | .kept ks => (true, .kept (Own.put name place h ks))
    | o => (false, o))

/-- The pieces of a list that a module holds under a name, the last one first. -/
def piecesOf (globals : Ref) (name : String) : Run (Option (List Value)) := do
  match ← Run.heldAt globals name with
  | some (.pieces items) => return some items
  | _ => return none

/-- Append a value to a list that a module holds under a name, or held there when all its names
became entries of its dictionary. -/
def pushPiece (globals : Ref) (name : String) (v : Value) : Run Unit := do
  let list ← Run.changeOwn globals (fun o =>
    match o with
    | .kept ks =>
      match Own.find? name ks with
      | some (.pieces items) => (none, .kept (Own.put name 0 (.pieces (v :: items)) ks))
      | _ => (none, o)
    | .opened lists => (lists.lookup name, o)
    | o => (none, o))
  match list with
  | some r => Run.changeItems r (·.push v)
  | none => return ()

/-! ## §3. Reading names. -/

/-- The exception for a name that is not bound. -/
def unboundName (name : String) : Exc :=
  .of .name [.text ("name '" ++ name ++ "' is not defined")] (some name)

/-- The exception for a name of a function that is not bound yet. -/
def unboundLocal (name : String) : Exc :=
  .saying .unboundLocal
    ("cannot access local variable '" ++ name ++ "' where it is not associated with a value")

/-- The exception for a name of a function around that is not bound yet. -/
def unboundOuter (name : String) : Exc :=
  .of .name [.text ("cannot access free variable '" ++ name
    ++ "' where it is not associated with a value in enclosing scope")] (some name)

/-- What the names that every program knows are about. -/
def knownDoc : String :=
  "Built-in functions, types, exceptions, and other objects.\n\n"
    ++ "This module provides direct access to all 'built-in'\n"
    ++ "identifiers of Python; for example, builtins.len is\n"
    ++ "the full name for the built-in function len().\n\n"
    ++ "This module is not normally accessed explicitly by most\n"
    ++ "applications, but can be useful in modules that provide\n"
    ++ "objects with the same name as a built-in value, but in\n"
    ++ "which the built-in of that name is also needed."

/-- The names that every program knows. -/
def knownBindings : List (String × Value) :=
  ErrorClass.named.map (fun c => (c.label, .errorClass c))
    ++ [("EnvironmentError", .errorClass .os), ("IOError", .errorClass .os),
        ("Ellipsis", .ellipsis), ("NotImplemented", .notImplemented),
        ("__name__", .text "builtins"), ("__debug__", .bool true), ("__package__", .text ""),
        ("__doc__", .text knownDoc)]
    ++ (Builtin.classes ++ Builtin.functions).map (fun b => (b.label, .builtin b))
    ++ Builtin.otherFunctions.map (fun s => (s, .builtin (.otherFunction s)))
    ++ Builtin.otherClasses.map (fun s => (s, .builtin (.otherClass s)))

/-- The names that every program knows, for look-up. -/
def knownNames : Std.HashMap String Value := .ofList knownBindings

/-- What a name means to every program. -/
def knownName? (name : String) : Option Value := knownNames[name]?

/-- Names that exist but are not part of this model. -/
def otherNames : List String :=
  ["__loader__", "__spec__", "copyright", "credits", "exit", "help", "license", "quit",
   "BaseExceptionGroup", "ExceptionGroup"]

/-- The value of a name that the module does not bind. -/
def readBehind (behind : Option Ref) (name : String) : Run Value := do
  match behind with
  | none =>
    match knownName? name with
    | some v => return v
    | none =>
      if otherNames.contains name then .leave ("the name " ++ name)
      else .throw (unboundName name)
  | some r =>
    match ← Run.object r with
    | .dict d =>
      match d.named? name with
      | some v => return v
      | none => .throw (unboundName name)
    | .cell v =>
      Run.catching (v.item (.text name)) (fun e =>
        if e.cls.isA .key then .throw (unboundName name) else .throw e)
    | _ => .throw (unboundName name)

/-- The name under which a module keeps what holds the names behind its own. -/
def builtinsName : String := "__builtins__"

/-- What holds the names behind those of a module now; `current` if the module does not say. -/
def behindOf (globals : Ref) (current : Option Ref) : Run (Option Ref) := do
  match ← Run.ask (fun w => (w.dictionaryAt globals).named? builtinsName) with
  | none => return current
  | some (.module _) => return none
  | some (.ref r) =>
    match ← Run.object r with
    | .dict _ => return some r
    | _ => return some (← Run.alloc (.cell (.ref r)))
  | some v => return some (← Run.alloc (.cell v))

/-- The frame that the functions made in a frame start from. -/
def Frame.renewed (fr : Frame) : Run Frame := do
  return { fr with behind := ← behindOf fr.globals fr.behind }

/-- The value of a name, if the module binds it. -/
def readInModule (globals : Ref) (name : String) : Run (Option Value) := do
  if Program.isReserved name then
    match ← Run.heldAt globals name with
    | some (.value v) => return some v
    | some (.pieces _) => openNames globals
    | none => Pure.pure ()
  Run.ask (fun w => (w.dictionaryAt globals).named? name)

/-- The value of a name. -/
def readName (fr : Frame) (name : String) : Run Value := do
  match ← Run.ask (·.home name fr.scopes) with
  | .module =>
    match ← readInModule fr.globals name with
    | some v => return v
    | none => readBehind fr.behind name
  | .scope r =>
    match ← Run.ask (fun w => (w.scopeAt r).bound.lookup name) with
    | some v => return v
    | none => .throw (unboundLocal name)
  | .outer r =>
    match ← Run.ask (fun w => (w.scopeAt r).bound.lookup name) with
    | some v => return v
    | none => .throw (unboundOuter name)

/-! ## §4. Changing names. -/

/-- A scope with a name bound to a value. -/
def Scope.bind (name : String) (value : Value) (s : Scope) : Scope :=
  { s with bound := bindName name value s.bound }

/-- An object with its scope changed, if it is one. -/
def Object.mapScope (f : Scope → Scope) : Object → Object
  | .scope s => .scope (f s)
  | o => o

/-- Bind a name in the scope at a place. -/
def bindInScope (r : Ref) (name : String) (value : Value) : Run Unit :=
  Run.modify r (Object.mapScope (Scope.bind name value))

/-- Bind a name of a module in its dictionary. -/
def bindInModule (globals : Ref) (name : String) (value : Value) : Run Unit :=
  Run.changeEntries globals (·.putName name value)

/-- Bind a name of a module. -/
def writeInModule (globals : Ref) (name : String) (value : Value) : Run Unit := do
  if Program.isReserved name then
    if ← keepName globals name (.value value) then return ()
  bindInModule globals name value

/-- Bind a name. -/
def writeName (fr : Frame) (name : String) (value : Value) : Run Unit := do
  match ← Run.ask (·.home name fr.scopes) with
  | .module => writeInModule fr.globals name value
  | .scope r => bindInScope r name value
  | .outer r => bindInScope r name value

/-- Unbind a name in the scope at a place, or fail. -/
def unbindInScope (r : Ref) (name : String) (missing : Exc) : Run Unit := do
  let s ← Run.ask (·.scopeAt r)
  if (s.bound.lookup name).isSome then
    Run.setObject r (.scope { s with bound := s.bound.filter (·.1 ≠ name) })
  else .throw missing

/-- Unbind a name of a module, or fail. -/
def removeInModule (globals : Ref) (name : String) : Run Unit := do
  if Program.isReserved name then openNames globals
  if ← Run.ask (fun w => (w.dictionaryAt globals).contains (.text name)) then
    Run.changeEntries globals (·.drop (.text name))
  else .throw (unboundName name)

/-- Unbind a name. -/
def removeName (fr : Frame) (name : String) : Run Unit := do
  match ← Run.ask (·.home name fr.scopes) with
  | .module => removeInModule fr.globals name
  | .scope r => unbindInScope r name (unboundLocal name)
  | .outer r => unbindInScope r name (unboundOuter name)

/-- A frame with a new innermost scope; `path` stands before the names of its functions. -/
def Frame.enter (fr : Frame) (path : String) (s : Scope) : Run Frame := do
  let r ← Run.alloc (.scope s)
  return { fr with scopes := r :: fr.scopes, path := path }

end Inlay
