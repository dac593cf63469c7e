/-
  Inlay.Eval.Classes
  ────────────────────────────────
  **CLASSES OF VALUES.**

  Which class a value belongs to, which classes are special cases of which,
  and what programs can ask about that.
-/
import Inlay.Eval.Arguments
import Inlay.Value.Attribute

namespace Inlay

/-! ## §1. Classes. -/

/-- Is the value a class? -/
def isClass : Value → Bool
  | .errorClass _ => true
  | .builtin b => b.isClass
  | _ => false

/-- Is the first class the second one, or a special case of it? -/
def isSubclass (c d : Value) : Bool :=
  match c, d with
  | _, .builtin .object => true
  | .errorClass c, .errorClass d => c.isA d
  | .builtin .bool, .builtin .int => true
  | .builtin b, .builtin c => b == c
  | _, _ => false

/-- The class of a value; classes have the class of all classes. -/
def World.typeOf (w : World) (v : Value) : Value :=
  if isClass v then .builtin .type else w.classOf v

/-- Is the value an instance of a class? -/
def World.isInstance (w : World) (v cls : Value) : Bool := isSubclass (w.typeOf v) cls

/-! ## §2. What programs ask. -/

mutual

/-- Does something hold of one of the classes that a value stands for?  Nothing if it stands for
none. -/
def anyClass? (holds : Value → Bool) : Value → Option Bool
  | .tuple items => anyClassOf? holds items
  | v => if isClass v then some (holds v) else none

/-- Does something hold of one of the classes that some values stand for? -/
def anyClassOf? (holds : Value → Bool) : List Value → Option Bool
  | [] => some false
  | v :: vs =>
    match anyClass? holds v with
    | some false => anyClassOf? holds vs
    | r => r

end

/-- The function `isinstance`. -/
def callIsInstance (args : List Value) (keywords : List (String × Value)) : Run Value := do
  let (v, c) ← twoArguments "isinstance" args keywords
  match ← Run.ask (fun w => anyClass? (w.isInstance v) c) with
  | some b => return .bool b
  | none =>
    .fail .type "isinstance() arg 2 must be a type, a tuple of types, or a union"

/-- The function `issubclass`. -/
def callIsSubclass (args : List Value) (keywords : List (String × Value)) : Run Value := do
  let (c, d) ← twoArguments "issubclass" args keywords
  match d with
  | .tuple [] => return .bool false
  | d =>
    if !isClass c then .fail .type "issubclass() arg 1 must be a class"
    match anyClass? (isSubclass c) d with
    | some b => return .bool b
    | none =>
      .fail .type "issubclass() arg 2 must be a class, a tuple of classes, or a union"

/-- The function `type`. -/
def callType (args : List Value) (keywords : List (String × Value)) : Run Value := do
  match args, keywords with
  | [v], [] => Run.ask (·.typeOf v)
  | [_, _, _], _ => .leave "new classes"
  | [_], _ :: _ => .fail .type "type() takes no keyword arguments"
  | _, _ => .fail .type "type() takes 1 or 3 arguments"

/-- Can the value be called? -/
def isCallable : Value → Bool
  | .builtin _ => true
  | .errorClass _ => true
  | .method _ _ _ => true
  | .function _ => true
  | .probe _ => true
  | .raiser _ _ => true
  | .includer _ _ => true
  | _ => false

/-! ## §3. Attributes by name. -/

/-- The name of an attribute. -/
def attributeName (v : Value) : Run String := do
  match v with
  | .text s => return s
  | _ => .fail .type ("attribute name must be string, not '" ++ (← v.kind) ++ "'")

/-- The function `getattr`. -/
def callGetAttribute (args : List Value) (keywords : List (String × Value)) : Run Value := do
  noKeywords "getattr" keywords
  argumentRange "getattr" 2 3 args
  let v := args.head?.getD .none
  let name ← attributeName (args[1]?.getD .none)
  match args[2]? with
  | none => v.attribute name
  | some fallback => return (← v.attributeIfAny name).getD fallback

/-- The function `hasattr`. -/
def callHasAttribute (args : List Value) (keywords : List (String × Value)) : Run Value := do
  let (v, n) ← twoArguments "hasattr" args keywords
  let found ← v.attributeIfAny (← attributeName n)
  return .bool found.isSome

/-- The function `setattr`. -/
def callSetAttribute (args : List Value) (keywords : List (String × Value)) : Run Value := do
  noKeywords "setattr" keywords
  argumentRange "setattr" 3 3 args
  let name ← attributeName (args[1]?.getD .none)
  Value.setAttribute (args[0]?.getD .none) name (args[2]?.getD .none)
  return .none

/-- The function `delattr`. -/
def callRemoveAttribute (args : List Value) (keywords : List (String × Value)) : Run Value := do
  let (v, n) ← twoArguments "delattr" args keywords
  v.removeAttribute (← attributeName n)
  return .none

end Inlay
