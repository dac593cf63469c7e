/-
  Inlay.Eval.Power
  ────────────────────────────────
  **WHAT RUNNING CODE MAY COME BACK TO.**

  Code is evaluated by recursion on its syntax tree.  The trees of functions,
  generators and included templates are not part of the tree at hand, so
  evaluation comes back to itself for them: through a `Power`, of which each
  use has one level less.  At level zero calls are nested too deep.
-/
import Inlay.Run

namespace Inlay

open Inlay.Code

/-- How a statement ends. -/
inductive Flow where
  | normal
  | breakLoop
  | continueLoop
  | giveBack (v : Value)

instance : Inhabited Flow := ⟨.normal⟩

/-- What running code may come back to. -/
structure Power where
  /-- How many rounds a loop may take. -/
  rounds : Nat
  /-- Call a value with arguments by position and by name. -/
  call : Value → List Value → List (String × Value) → Run Value
  /-- The next value of an iterator. -/
  next : Value → Run (Option Value)
  /-- The value of an expression. -/
  expression : Frame → Expr → Run Value
  /-- Bind a target to a value. -/
  assign : Frame → Expr → Value → Run Unit
  /-- Run statements. -/
  body : Frame → List Stmt → Run Flow
  /-- Include a template into the render with the given context and global names. -/
  includeTemplate : Ref → Ref → List Value → List (String × Value) → Run Value

/-- Calls are nested too deep. -/
def tooDeep {α : Type} : Run α := .fail .recursion "maximum recursion depth exceeded"

/-- No calls at all. -/
def Power.exhausted (rounds : Nat) : Power :=
  { rounds
    call := fun _ _ _ => tooDeep
    next := fun _ => tooDeep
    expression := fun _ _ => tooDeep
    assign := fun _ _ _ => tooDeep
    body := fun _ _ => tooDeep
    includeTemplate := fun _ _ _ _ => tooDeep }

end Inlay
