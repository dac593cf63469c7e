/-
  Inlay.Eval.Methods
  ────────────────────────────────
  **METHODS.**

  Which methods a call of a method means: those of the kind of its owner.  A
  method of a class takes its owner as the first argument.
-/
import Inlay.Eval.Classes
import Inlay.Eval.MappingMethods
import Inlay.Eval.SequenceMethods
import Inlay.Eval.TextMethods

namespace Inlay

/-- Call a method of a value. -/
def callMethodOf (p : Power) (owner : Value) (m : Method) (args : List Value)
    (keywords : List (String × Value)) : Run Value := do
  match owner with
  | .text s => callTextMethod p s m args keywords
  | .tuple items => callTupleMethod items m args keywords
  | .range a b c => callRangeMethod a b c m args keywords
  | .frozen _ =>
    callFrozenMethod p owner m args keywords
  | .ref r =>
    match ← owner.kind with
    | "list" => callListMethod p r m args keywords
    | "dict" => callDictMethod p r m args keywords
    | "set" => callSetMethod p r m args keywords
    | _ => .leave ("the method " ++ m.label)
  | _ => .leave ("the method " ++ m.label)

/-- Call a method of a value, or of a class with the value as the first argument. -/
def callMethod (p : Power) (owner : Value) (m : Method) (args : List Value)
    (keywords : List (String × Value)) : Run Value := do
  match owner with
  | .builtin cls =>
    match args with
    | [] =>
      .fail .type ("unbound method " ++ cls.label ++ "." ++ m.label ++ "() needs an argument")
    | v :: rest =>
      if ← Run.ask (·.isInstance v owner) then callMethodOf p v m rest keywords
      else
        .fail .type ("descriptor '" ++ m.label ++ "' for '" ++ cls.label
          ++ "' objects doesn't apply to a '" ++ (← v.kind) ++ "' object")
  | owner => callMethodOf p owner m args keywords

end Inlay
