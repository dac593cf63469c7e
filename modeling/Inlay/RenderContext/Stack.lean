/-
  Inlay.RenderContext.Stack
  ────────────────────────────────
  **CONTEXTS IN PROGRESS.**

  The contexts of the renders in progress, the current one first.  Every step
  answers with the stack that it leaves behind, or with what is wrong.
-/
import Inlay.RenderContext

namespace Inlay

open Inlay.Diagnostic

/-- The contexts of the renders in progress, the current one first. -/
abbrev ContextStack := List RenderContext

/-- What is wrong with a step. -/
inductive ContextFault where
  /-- There is no current context. -/
  | outside
  | tooDeep (r : Failure)
  /-- A context has no such field, or it may not be given. -/
  | unexpected (callee field : String)
  /-- A context for an included template is asked for with so many arguments. -/
  | childArguments (given : Nat)
  deriving Repr, DecidableEq

/-- What is said where a context is needed and there is none. -/
def outsideMessage : String := "Not in a render context"

/-- A fault in words; a report has words of its own. -/
def ContextFault.message : ContextFault → String
  | outside => outsideMessage
  | tooDeep r => r.text
  | unexpected callee field =>
    callee ++ "() got an unexpected keyword argument '" ++ field ++ "'"
  | childArguments given =>
    "RenderContext.child_context() " ++
      (if given = 0 then "missing 1 required positional argument: 'template_name'"
      else "takes from 2 to 4 positional arguments but " ++ toString (given + 1) ++ " were given")

/-! ## §1. Fields. -/

/-- The fields that may be given when a render starts. -/
def startingFields : List String := ["template_name", "filename", "source", "max_include_depth"]

/-- The fields of a context. -/
def contextFields : List String :=
  startingFields ++ ["line", "include_depth", "template_stack"]

/-- Refuse fields that are not among the allowed ones. -/
def onlyFields (callee : String) (allowed given : List String) : Except ContextFault Unit :=
  match given.find? (!allowed.contains ·) with
  | some f => .error (.unexpected callee f)
  | none => .ok ()

/-! ## §2. Steps. -/

namespace ContextStack

/-- The current context, which must exist. -/
def required (s : ContextStack) : Except ContextFault RenderContext :=
  match s with
  | c :: _ => .ok c
  | [] => .error .outside

/-- Make a context current. -/
def enter (s : ContextStack) (c : RenderContext) : ContextStack := c :: s

/-- Make a context current that a render starts with; `given` are the fields that are given. -/
def start (s : ContextStack) (given : List String) (c : RenderContext) :
    Except ContextFault ContextStack := do
  onlyFields "render_context" startingFields given
  return s.enter c

/-- Make a context of the given fields current. -/
def push (s : ContextStack) (given : List String) (c : RenderContext) :
    Except ContextFault ContextStack := do
  onlyFields "RenderContext.__init__" contextFields given
  return s.enter c

/-- A context for an included template is made from at most so many arguments. -/
def maxChildArguments : Nat := 3

/-- Make a context for an included template current: its name, its file and its source. -/
def enterChild (s : ContextStack) (args : List (Option String)) :
    Except ContextFault ContextStack := do
  let c ← required s
  if args.isEmpty || maxChildArguments < args.length then throw (.childArguments args.length)
  let arg (i : Nat) : Option String := args[i]?.getD none
  return c.child (arg 0) (arg 1) (arg 2) :: s

/-- Note the line of the current context. -/
def setLine (s : ContextStack) (line : Int) : Except ContextFault ContextStack :=
  match s with
  | c :: rest => .ok ({ c with line := line } :: rest)
  | [] => .error .outside

/-- Ask whether a template may be included. -/
def check (s : ContextStack) (name : String) : Except ContextFault ContextStack := do
  match (← required s).includeFault? name with
  | some r => .error (.tooDeep r)
  | none => .ok s

/-- Go back to the context before the current one. -/
def leave (s : ContextStack) : Except ContextFault ContextStack :=
  match s with
  | _ :: rest => .ok rest
  | [] => .error .outside

end ContextStack

end Inlay
