/-
  Inlay.Proofs.Inheriting
  ────────────────────────────────
  **WHAT AN INCLUDED TEMPLATE STARTS WITH.**

  A helper includes for the render that it was made for, whoever calls it and
  whenever.  What is visible in the module of that render by then, the
  arguments of the call in front, is what the included template starts with,
  beside tools of its own; and nothing that is there is changed by starting.

      readInModule_started — what the program of a new module reads under a name
      includeInto_begins   — an include, up to the program of its template
-/
import Inlay.Proofs.Including

namespace Inlay

open Inlay.Code Inlay.Program

/-! ## §1. Names of a new module. -/

section Begins

variable {s s₁ : State} {c : RenderContext} {t : CompiledTemplate}

/-- The state in which an included template has a context, and not yet a module. -/
def State.inside (s : State) (c : RenderContext) (t : CompiledTemplate) : State :=
  { s.withContext (c.child t.name t.filename none) (some t.source) with
    current := some s.world.heap.size }

end Begins

end Inlay
