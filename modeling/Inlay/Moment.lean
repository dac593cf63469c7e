/-
  Inlay.Moment
  ────────────────────────────────
  **MOMENTS OF WORK.**

  Work goes through moments: states, and in each of them the includes that
  are in progress.  Wherever work may lead, this holds at its moments:

      keeps   — contexts stay where they are, and keep all but their lines
      sources — and so do the sources that stand apart from them
      uses    — the store changes by templates that are got, and stays recent
      nested  — an include is entered from the context that is current, and its
                own context is one level below that of the helper it goes through
-/
import Inlay.Store

namespace Inlay

/-! ## §1. Contexts that stay. -/

/-- The context in an object, if it is one. -/
def Object.context? : Object → Option RenderContext
  | .context c => some c
  | _ => none

/-- The context at another line. -/
def RenderContext.atLine (c : RenderContext) (line : Int) : RenderContext := { c with line }

/-- Is the first context one level below the second, whose limit allows it? -/
structure RenderContext.IsBelow (inner outer : RenderContext) : Prop where
  depth : inner.includeDepth = outer.includeDepth + 1
  limit : inner.maxIncludeDepth = outer.maxIncludeDepth
  stack : inner.stack = outer.stack ++ [outer.site]
  allowed : outer.includeDepth < outer.maxIncludeDepth

namespace World

/-- Do all contexts stay where they are, with all but their lines as they were? -/
def Keeps (w w' : World) : Prop :=
  ∀ r c, w.contextAt? r = some c → ∃ line, w'.contextAt? r = some (c.atLine line)

theorem contextAt?_eq (w : World) (r : Ref) :
    w.contextAt? r = w.heap[r]?.bind Object.context? := by
  unfold contextAt?
  cases w.heap[r]? with
  | none => rfl
  | some o => cases o <;> rfl

theorem Keeps.refl (w : World) : w.Keeps w := fun _ c h => ⟨c.line, h⟩

theorem Keeps.trans {w w' w'' : World} (h : w.Keeps w') (h' : w'.Keeps w'') : w.Keeps w'' := by
  intro r c hc
  obtain ⟨line, hc'⟩ := h r c hc
  obtain ⟨line', hc''⟩ := h' r _ hc'
  exact ⟨line', hc''⟩

/-- What stays of the contexts is a matter of the heap. -/
theorem keeps_of_heap {w w' : World} (h : w'.heap = w.heap) : w.Keeps w' := by
  intro r c hc
  refine ⟨c.line, ?_⟩
  rw [contextAt?_eq] at hc ⊢
  rw [h, hc]
  rfl

/-- The world with one more object. -/
def push (w : World) (o : Object) : World := { w with heap := w.heap.push o }

/-- The world with the object at a place changed. -/
def modify (w : World) (r : Ref) (f : Object → Object) : World :=
  { w with heap := w.heap.modify r f }

theorem contextAt?_push (w : World) (o : Object) (r : Ref) :
    (w.push o).contextAt? r = if r = w.heap.size then o.context? else w.contextAt? r := by
  rw [contextAt?_eq, contextAt?_eq, push, Array.getElem?_push]
  split <;> rfl

theorem keeps_push (w : World) (o : Object) : w.Keeps (w.push o) := by
  intro r c hc
  have hne : r ≠ w.heap.size := by
    rintro rfl
    rw [contextAt?_eq, Array.getElem?_eq_none (Nat.le_refl _)] at hc
    simp at hc
  exact ⟨c.line, by rw [contextAt?_push, if_neg hne]; exact hc⟩

theorem keeps_modify (w : World) (r : Ref) (f : Object → Object)
    (h : ∀ c, ∃ line, f (.context c) = .context (c.atLine line)) : w.Keeps (w.modify r f) := by
  intro q c hc
  rw [contextAt?_eq] at hc
  obtain ⟨o, ho, hoc⟩ := Option.bind_eq_some_iff.1 hc
  rw [contextAt?_eq, modify, Array.getElem?_modify, ho]
  split
  · cases o <;> simp only [Object.context?, Option.some.injEq, reduceCtorEq] at hoc
    subst hoc
    obtain ⟨line, hline⟩ := h _
    exact ⟨line, by rw [Option.map_some, hline]; rfl⟩
  · exact ⟨c.line, hoc⟩

end World

namespace State

/-- Do all contexts keep the sources of their templates? -/
def KeepsSources (s t : State) : Prop :=
  ∀ r c text, s.world.contextAt? r = some c → s.ownOf r = .source text → t.ownOf r = .source text

theorem KeepsSources.refl (s : State) : s.KeepsSources s := fun _ _ _ _ h => h

theorem KeepsSources.trans {s t u : State} (h : s.KeepsSources t)
    (hworld : s.world.Keeps t.world) (h' : t.KeepsSources u) : s.KeepsSources u := by
  intro r c text hc hown
  obtain ⟨line, hc'⟩ := hworld r c hc
  exact h' r _ text hc' (h r c text hc hown)

/-- What stands apart may change where it is not the source of a context. -/
theorem KeepsSources.setOwn {s : State} {r : Ref} (h : s.isFixed r = false) (o : Own) :
    s.KeepsSources (s.setOwn r o) := by
  intro t c text hc hown
  rw [ownOf_setOwn, if_neg]
  · exact hown
  · rintro rfl
    unfold isFixed at h
    rw [hown, hc] at h
    cases h

/-- The state with a new context, and the source of its template. -/
def withContext (s : State) (c : RenderContext) (source : Option String) : State :=
  { s.setOwn s.world.heap.size (.source source) with world := s.world.push (.context c) }

theorem contextAt?_withContext (s : State) (c : RenderContext) (source : Option String) :
    (s.withContext c source).world.contextAt? s.world.heap.size = some c :=
  (World.contextAt?_push _ _ _).trans (if_pos rfl)

theorem ownOf_withContext (s : State) (c : RenderContext) (source : Option String) :
    (s.withContext c source).ownOf s.world.heap.size = .source source :=
  s.ownOf_setOwn_self _ _

theorem keeps_withContext (s : State) (c : RenderContext) (source : Option String) :
    s.world.Keeps (s.withContext c source).world :=
  s.world.keeps_push _

theorem keepsSources_withContext (s : State) (c : RenderContext) (source : Option String) :
    s.KeepsSources (s.withContext c source) := by
  intro r c' text hc hown
  have hne : s.world.heap.size ≠ r := by
    rintro rfl
    rw [World.contextAt?_eq, Array.getElem?_eq_none (Nat.le_refl _)] at hc
    simp at hc
  show (s.setOwn s.world.heap.size (.source source)).ownOf r = _
  rw [ownOf_setOwn, if_neg hne]
  exact hown

end State

/-! ## §2. Moments. -/

/-- An include in progress. -/
structure Include where
  /-- The context of the render whose helper was called. -/
  helper : Ref
  /-- The state in which the included template was entered. -/
  outside : State
  /-- The context of the included template. -/
  inner : Ref

/-- A moment of some work. -/
structure Moment where
  state : State
  /-- The context that the work has made the current one, unless an include did so. -/
  root : Option Ref
  /-- The includes in progress that the work has started since; outermost first. -/
  includes : List Include

/-- The moment of a state, where the work itself has started nothing. -/
def Moment.here (s : State) : Moment := ⟨s, none, []⟩

/-- The moment as one with a context made the current one, if that was the last one. -/
def Moment.rootedIn (m : Moment) (root : Ref) : Moment :=
  match m.root with
  | none => { m with root := some root }
  | some _ => m

/-- The moment as one of an include, unless another context was made the current one since. -/
def Moment.within (m : Moment) (i : Include) : Moment :=
  match m.root with
  | none => { m with includes := i :: m.includes }
  | some _ => m

/-- Has the include been entered, with a context one level below that of its helper? -/
structure Include.IsEntered (i : Include) (s : State) : Prop where
  keeps : i.outside.world.Keeps s.world
  below : ∃ outer inner, i.outside.world.contextAt? i.helper = some outer
    ∧ s.world.contextAt? i.inner = some inner ∧ inner.IsBelow outer

/-- Are the includes nested in each other, the outermost one in the given context and the state in
the innermost one? -/
def IsNested (s : State) : Option Ref → List Include → Prop
  | context, [] => s.current = context
  | context, i :: is =>
    i.outside.current = context ∧ i.IsEntered s ∧ IsNested s (some i.inner) is

/-- What holds at every moment that work can reach from a state. -/
structure Moment.IsReachedFrom (m : Moment) (s : State) : Prop where
  keeps : s.world.Keeps m.state.world
  sources : s.KeepsSources m.state
  uses : s.world.Uses m.state.world
  nested : IsNested m.state (m.root.or s.current) m.includes

namespace Moment

theorem here_isReached (s : State) : (here s).IsReachedFrom s :=
  ⟨.refl _, .refl s, .refl _, rfl⟩

/-- Moments that are reached from the end of some work are reached from its start. -/
theorem IsReachedFrom.trans {s t : State} {m : Moment} (h : (here t).IsReachedFrom s)
    (hm : m.IsReachedFrom t) : m.IsReachedFrom s := by
  refine ⟨h.keeps.trans hm.keeps, h.sources.trans h.keeps hm.sources, h.uses.trans hm.uses, ?_⟩
  have hcurrent : t.current = s.current := h.nested
  rw [← hcurrent]
  exact hm.nested

section Entering

variable {s u : State} {r : Ref} {m : Moment}

/-- What is reached with another context as the current one. -/
theorem IsReachedFrom.rooted (h : m.IsReachedFrom { s with current := some r }) :
    (m.rootedIn r).IsReachedFrom s := by
  obtain ⟨t, root, is⟩ := m
  cases root with
  | none => exact ⟨h.keeps, h.sources, h.uses, h.nested⟩
  | some q => exact ⟨h.keeps, h.sources, h.uses, h.nested⟩

/-- The state behind such work, in which the context from before is current again. -/
theorem IsReachedFrom.left {t : State} (h : (here t).IsReachedFrom { s with current := some r }) :
    (here { t with current := s.current }).IsReachedFrom s :=
  ⟨h.keeps, h.sources, h.uses, rfl⟩

/-- What is reached in an included template, whose context has just been made. -/
theorem IsReachedFrom.included (h : m.IsReachedFrom { u with current := some r })
    (hu : s.world.Keeps u.world) (hsources : s.KeepsSources u) (huses : s.world.Uses u.world) {inner outer : RenderContext}
    (hinner : u.world.contextAt? r = some inner) {helper : Ref}
    (houter : s.world.contextAt? helper = some outer) (hbelow : inner.IsBelow outer) :
    (m.within ⟨helper, s, r⟩).IsReachedFrom s := by
  have hkeeps : s.world.Keeps m.state.world := hu.trans h.keeps
  have hsources' : s.KeepsSources m.state := hsources.trans hu h.sources
  have huses' : s.world.Uses m.state.world := huses.trans h.uses
  obtain ⟨line, hline⟩ := h.keeps r inner hinner
  have hnested := h.nested
  obtain ⟨t, root, is⟩ := m
  cases root with
  | none =>
    have hbelow' : (inner.atLine line).IsBelow outer :=
      ⟨hbelow.depth, hbelow.limit, hbelow.stack, hbelow.allowed⟩
    exact ⟨hkeeps, hsources', huses', rfl, ⟨hkeeps, outer, _, houter, hline, hbelow'⟩, hnested⟩
  | some q => exact ⟨hkeeps, hsources', huses', hnested⟩

end Entering

end Moment

end Inlay
