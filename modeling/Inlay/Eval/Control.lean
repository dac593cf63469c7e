/-
  Inlay.Eval.Control
  ────────────────────────────────
  **COMPOUND STATEMENTS.**

  What a compound statement does with its parts, whatever these are: each
  part is a piece of work that ends with a flow.  The work may be more than
  a run, as long as runs are part of it and it can go on after exceptions.
-/
import Inlay.Eval.Iterate

namespace Inlay

section Control

variable {m : Type → Type} [Monad m] [MonadLiftT Run m]

/-! ## §1. Conditions and loops. -/

/-- One of two pieces of work. -/
def branch (test : Run Bool) (body orelse : m Flow) : m Flow := do
  if ← test then body else orelse

/-- Work as long as a test holds; `orelse` follows unless the loop was left. -/
def repeatWhile (test : Run Bool) (body orelse : m Flow) : Nat → m Flow
  | 0 => (Run.starve : Run Flow)
  | n + 1 => do
    if ← test then
      match ← body with
      | .normal => repeatWhile test body orelse n
      | .continueLoop => repeatWhile test body orelse n
      | .breakLoop => return .normal
      | flow => return flow
    else orelse

/-- Work for each value that an iterator gives; `orelse` follows unless the loop was left. -/
def repeatFor (p : Power) (it : Value) (body : Value → m Flow) (orelse : m Flow) : m Flow := do
  match ← forEach p it body p.rounds with
  | .normal => orelse
  | .breakLoop => return .normal
  | flow => return flow

/-! ## §2. Exceptions. -/

variable [Attempts m]

/-- Work while an exception is being handled. -/
def whileHandling {α : Type} (e : Exc) (x : m α) : m α := do
  let before ← Run.ask World.handled
  Run.change (fun w => { w with handled := e :: w.handled })
  let outcome ← Attempts.attempt x
  Run.change (fun w => { w with handled := before })
  match outcome with
  | .ok a => return a
  | .error e' => (Run.throw e' : Run α)

/-- Work, then `orelse` if it ended normally; what `handle` does about an exception of the first
part only. -/
def guarded (body : m Flow) (handle : Exc → m Flow) (orelse : m Flow) : m Flow := do
  match ← Attempts.attempt body with
  | .ok .normal => orelse
  | .ok flow => return flow
  | .error e =>
    let e ← Run.stamped e
    whileHandling e (handle e)

/-- Work, then `final` however it ended.  If `final` does not end normally, that is how the whole
ends. -/
def withFinal (body final : m Flow) : m Flow := do
  match ← Attempts.attempt body with
  | .ok flow =>
    match ← final with
    | .normal => return flow
    | flow' => return flow'
  | .error e =>
    let e ← Run.stamped e
    match ← whileHandling e final with
    | .normal => (Run.throw e : Run Flow)
    | flow' => return flow'

/-! ## §3. Context managers. -/

/-- Work with a context manager: `body` gets what the manager gives on entry. -/
def managed (manager : Value) (body : Value → m Flow) : m Flow := do
  match manager with
  | .manager _ entered suppresses =>
    match ← Attempts.attempt (body entered) with
    | .ok flow => return flow
    | .error e => if suppresses then return .normal else (Run.throw e : Run Flow)
  | v =>
    let kind ← v.kind
    (Run.fail .type ("'" ++ kind ++ "' object does not support the context manager protocol")
      : Run Flow)

end Control

end Inlay
