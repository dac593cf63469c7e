/-
  Inlay.Environment
  ────────────────────────────────
  **ASKING FOR TEMPLATES.**

  A program asks its environment for templates by name, and does not see
  whether they were kept.  A host program compiles templates of its own, and
  gets them with the numbers that tell them apart.
-/
import Inlay.Program.Rewritten
import Inlay.Value.Show

namespace Inlay

open Inlay.Code Inlay.Program

/-- The exception for a tree that is not written as code. -/
def writeExc : WriteFault → Exc
  | .unwritable => .saying .value "Unable to avoid backslash in f-string expression part"
  | .tooLong => .saying .value tooLongMessage
  | .tooDeep => depthExc false

/-! ## §1. The work of a host program. -/

/-- Work that gives an answer and another world, or fails and leaves the world as it is. -/
def Work.ofWorld {α : Type} (f : World → Except Exc (α × World)) : Work State α := fun s =>
  match f s.world with
  | .ok (a, w) => .done a { s with world := w }
  | .error e => .raised e s

section OfWorld

variable {α : Type} {f : World → Except Exc (α × World)} {s t : State} {a : α} {e : Exc}

theorem Work.ofWorld_ok {p : α × World} (h : f s.world = .ok p) :
    Work.ofWorld f s = .done p.1 { s with world := p.2 } := by
  unfold Work.ofWorld
  rw [h]

theorem Work.ofWorld_error (h : f s.world = .error e) : Work.ofWorld f s = .raised e s := by
  unfold Work.ofWorld
  rw [h]

theorem Work.of_ofWorld_done (h : Work.ofWorld f s = .done a t) : f s.world = .ok (a, t.world) := by
  cases hf : f s.world with
  | error e =>
    rw [ofWorld_error hf] at h
    cases h
  | ok p =>
    rw [ofWorld_ok hf] at h
    obtain ⟨rfl, rfl⟩ := Outcome.done.inj h
    rfl

theorem Work.of_ofWorld_raised (h : Work.ofWorld f s = .raised e t) : t = s := by
  cases hf : f s.world with
  | error e =>
    rw [ofWorld_error hf] at h
    exact (Outcome.raised.inj h).2.symm
  | ok p =>
    rw [ofWorld_ok hf] at h
    cases h

/-- Such work leaves a state as it was, or with the world that belongs to an answer. -/
theorem Work.of_ofWorld_state (h : (Work.ofWorld f s).state? = some t) :
    t = s ∨ ∃ a w, f s.world = .ok (a, w) ∧ t = { s with world := w } := by
  cases hf : f s.world with
  | error e =>
    rw [ofWorld_error hf] at h
    exact Or.inl (Option.some.inj h).symm
  | ok p =>
    rw [ofWorld_ok hf] at h
    exact Or.inr ⟨p.1, p.2, rfl, (Option.some.inj h).symm⟩

end OfWorld

/-- Compile a template. -/
def compileTemplate (source : String) (name filename : Option String) :
    Work State CompiledTemplate :=
  .ofWorld (·.compile source name filename)

/-- The template of a name, with its number. -/
def fetchTemplate (name : String) : Work State CompiledTemplate := .ofWorld (·.fetch name)

/-- Change the environment. -/
def changeEnvironment (f : Environment → Environment) : Work State Unit := fun s =>
  .done () { s with world := s.world.mapEnvironment f }

/-- Clear the store of templates. -/
def clearStore : Work State Unit := fun s => .done () { s with world := s.world.cleared }

/-- Runs are work of a host program as well. -/
instance : MonadLift Run (Work State) := ⟨Run.work⟩

/-! ## §2. The work of a program. -/

/-- The template of a name. -/
def getTemplate (name : String) : Run CompiledTemplate :=
  .step (.ofWorld (·.answer name))
    (fun s t ht => by
      rcases Work.of_ofWorld_state ht with rfl | ⟨_, _, hanswer, rfl⟩
      · exact Moment.here_isReached t
      · exact ⟨World.keeps_of_heap (congrArg (·.heap) (World.answer_apart hanswer)), .refl s,
          World.uses_answer hanswer, rfl⟩)
    (fun s s' h => by
      cases hanswer : s.world.answer name with
      | error e =>
        rw [Work.ofWorld_error hanswer, Work.ofWorld_error (h.world ▸ hanswer)]
        exact ⟨rfl, h.moves⟩
      | ok p =>
        rw [Work.ofWorld_ok hanswer, Work.ofWorld_ok (h.world ▸ hanswer)]
        exact ⟨rfl, h.moves_world rfl⟩)
    (fun s s' h => by
      rcases h.world.answer name with ⟨e, hw, hw'⟩ | ⟨t, u, u', hw, hw', hlike⟩
      · rw [Work.ofWorld_error hw, Work.ofWorld_error hw']
        exact ⟨rfl, h⟩
      · rw [Work.ofWorld_ok hw, Work.ofWorld_ok hw']
        exact ⟨rfl, hlike, h.current, h.own⟩)

/-! ## §3. Names that are no texts. -/

mutual

/-- The exception when a loader is asked for a name that is no text.  `kind` is what the name is
called, `shown` its text. -/
def Loader.refuse (kind shown : String) : Loader → Exc
  | .table _ => .saying .type ("'" ++ kind ++ "' object is not iterable")
  | .lookup _ => .ofReport (.notFound ("Template '" ++ shown ++ "' not found"))
  | .directory [] _ _ => .ofReport (.notFound ("Template '" ++ shown ++ "' not found in: "))
  | .directory (_ :: _) _ _ =>
    .saying .type ("unsupported operand type(s) for /: 'PosixPath' and '" ++ kind ++ "'")
  | .choice loaders =>
    (refuseAll kind shown loaders).getD
      (.ofReport (.notFound ("Template '" ++ shown ++ "' not found in any of "
        ++ toString loaders.length ++ " loaders")))

/-- The exception of the first of some loaders that does more than not knowing the name. -/
def refuseAll (kind shown : String) : List Loader → Option Exc
  | [] => none
  | l :: ls =>
    let e := Loader.refuse kind shown l
    if e.cls = .templateNotFound then refuseAll kind shown ls else some e

end

/-- The template of a name, which may be any value. -/
def getTemplateOf (name : Value) : Run CompiledTemplate := do
  match name with
  | .text s => getTemplate s
  | .tuple _ => .leave "a tuple as the name of a template"
  | v =>
    v.ensureKey
    let shown ← v.plain
    match ← Run.ask (·.environment.loader) with
    | none => .report (.notFound (noLoaderMessage shown))
    | some l => .throw (l.refuse (← v.kind) shown)

end Inlay
