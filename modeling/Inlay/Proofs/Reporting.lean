/-
  Inlay.Proofs.Reporting
  ────────────────────────────────
  **THE PLACE OF AN ERROR.**

  Two kinds of reports tell where an error occurred: that of a name that is
  not bound looks at the current context, and at the source that stands apart
  from it; that of any other failure looks at the context of the render that
  the error leaves, and at the source of its template.  They tell the same:

      steady      — a render and an include end in the context they began in
      IsRendering — so where a render meets an exception of its own code, its
                    own context is the current one, with its source
-/
import Inlay.Proofs.IncludeDepth
import Inlay.Proofs.Namespace

namespace Inlay

open Inlay.Code Inlay.Diagnostic

/-! ## §1. Places. -/

/-- The place of an error, with the lines around it and the includes on the way. -/
structure ErrorPlace where
  template : Option String
  line : Option Int
  snippet : Option Snippet
  stack : List (String × Int)
  deriving Repr, DecidableEq

/-- The place that a report tells of an error of embedded code. -/
def Diagnostic.Report.place? : Report → Option ErrorPlace
  | .failure f => some ⟨f.template, f.line, f.snippet, f.stack⟩
  | .undefined u => some ⟨u.template, u.line, u.snippet, u.stack⟩
  | _ => none

/-- The place that a context tells, with the source of its template. -/
def RenderContext.place (c : RenderContext) (source : Option String) : ErrorPlace :=
  ⟨c.templateName, c.line?, snippetAt source c.line?, c.stack⟩

/-! ## §2. Renders under way. -/

/-- Is the current context one of its own for a render of the template? -/
structure State.IsRendering (s : State) (t : CompiledTemplate) (context : Ref) : Prop where
  current : s.current = some context
  named : ∃ c, s.world.contextAt? context = some c ∧ c.templateName = t.name
  source : s.ownOf context = .source (some t.source)

namespace State.IsRendering

variable {α : Type} {s u : State} {t : CompiledTemplate} {context : Ref}

/-- A render is still under way when some of its work has ended, in whatever way. -/
theorem ended (h : s.IsRendering t context) {x : Run α} (hu : (x.work s).state? = some u) :
    u.IsRendering t context := by
  have hreached := x.law.safe s _ (x.law.ends s u hu)
  obtain ⟨c, hc, hname⟩ := h.named
  obtain ⟨line, hline⟩ := hreached.keeps context c hc
  exact ⟨(x.law.steady hu).trans h.current, ⟨_, hline, hname⟩,
    hreached.sources context c _ hc h.source⟩

/-- A render is under way in a context that has just been made for it. -/
theorem begun (s : State) {c : RenderContext} (hc : c.templateName = t.name) :
    IsRendering { s.withContext c (some t.source) with current := some s.world.heap.size }
      t s.world.heap.size :=
  ⟨rfl, ⟨c, s.contextAt?_withContext c (some t.source), hc⟩, s.ownOf_withContext c _⟩

end State.IsRendering

/-! ## §3. Reports of a render under way. -/

section Reports

variable {s u : State} {t : CompiledTemplate} {context : Ref} {c : RenderContext}

/-- A failure is reported at the place that the context of its render tells. -/
theorem failureOf_place (hc : s.world.contextAt? context = some c) {e e' : Exc}
    (h : (failureOf t context e).work s = .done e' u) :
    ∃ r, e' = .ofReport r ∧ r.place? = some (c.place t.source) := by
  have hask : (contextAt context).work s = .done c s := by
    show Outcome.done ((s.world.contextAt? context).getD {}) s = _
    rw [hc]
    rfl
  unfold failureOf at h
  rw [Run.work_done _ hask] at h
  obtain ⟨text, v, -, h⟩ := Run.of_bind_done h
  obtain ⟨rfl, rfl⟩ := Outcome.done.inj h
  exact ⟨_, rfl, rfl⟩

/-- A name that is not bound is reported at the place that the current context tells. -/
theorem undefinedOf_place (h : s.IsRendering t context)
    (hc : s.world.contextAt? context = some c) (name : String) (available : List String) :
    ∃ r, (undefinedOf name available).work s = .done (.ofReport r) s
      ∧ r.place? = some (c.place t.source) := by
  have hcurrent : Run.current.work s = .done (some context) s :=
    congrArg (Outcome.done · s) h.current
  have hcontext : Run.currentContext.work s = .done (some c) s := by
    unfold Run.currentContext
    rw [Run.work_done _ hcurrent]
    exact congrArg (Outcome.done · s) hc
  unfold undefinedOf
  rw [Run.work_done _ hcontext, Run.work_done _ hcurrent]
  dsimp only
  rw [Run.work_done _ (Run.sourceAt_done h.source)]
  exact ⟨_, rfl, rfl⟩

/-- The visible bindings are found in the state they are asked for in. -/
theorem visibleBindings_state {entries : Dictionary} {bindings : List (String × Value)}
    (h : (visibleBindings entries).work s = .done bindings u) : u = s := by
  unfold visibleBindings at h
  split at h
  · obtain ⟨kind, v, -, h⟩ := Run.of_bind_done h
    cases h
  · exact (Outcome.done.inj h).2.symm

/-- **What leaves a render under way is an exception of its code as it is, or a report of the place
that its own context tells.** -/
theorem leavingRender_place (h : s.IsRendering t context)
    (hc : s.world.contextAt? context = some c) {globals : Ref} {e e' : Exc}
    (he : (leavingRender t context globals e).work s = .done e' u) :
    e' = e ∨ ∃ r, e' = .ofReport r ∧ r.place? = some (c.place t.source) := by
  unfold leavingRender at he
  split at he
  · exact Or.inl (Outcome.done.inj he).1.symm
  split at he
  · obtain ⟨d, v, hask, hrest⟩ := Run.of_bind_done he
    obtain ⟨-, rfl⟩ := Outcome.done.inj hask
    obtain ⟨bindings, v, hvisible, hlast⟩ := Run.of_bind_done hrest
    obtain rfl := visibleBindings_state hvisible
    dsimp only at hlast
    split at hlast
    · exact Or.inr (failureOf_place hc hlast)
    · split at hlast
      · exact Or.inr (failureOf_place hc hlast)
      · obtain ⟨r, hr, hplace⟩ := undefinedOf_place h hc _ _
        rw [hr] at hlast
        exact Or.inr ⟨r, (Outcome.done.inj hlast).1.symm, hplace⟩
  split at he
  · exact Or.inr (failureOf_place hc he)
  · exact Or.inl (Outcome.done.inj he).1.symm

end Reports

/-! ## §4. Renders are entered in contexts of their own. -/

/-- Work in a new context of a template. -/
def inNewContext {α : Type} (t : CompiledTemplate) (c : RenderContext) (x : Ref → Run α) :
    Run α := do
  let context ← Run.newContext c (some t.source)
  Run.withCurrent context (x context)

section Entering

variable {α : Type}

/-- Does work end as a piece of work in a render under way, with the context from before as the
current one again? -/
def EntersRender (s : State) (t : CompiledTemplate) (x : Ref → Run α) (o : Outcome State α) :
    Prop :=
  ∃ context u, u.IsRendering t context
    ∧ o = ((x context).work u).mapState ({ · with current := s.current })

/-- A new context is one in which a render is under way, unless its place is locked. -/
theorem inNewContext_enters (t : CompiledTemplate) {c : RenderContext}
    (hc : c.templateName = t.name) (s : State) :
    (∀ x : Ref → Run α, (inNewContext t c x).work s = .uncovered Run.lockedAway)
      ∨ ∀ x : Ref → Run α, EntersRender s t x ((inNewContext t c x).work s) := by
  have hwork : ∀ x : Ref → Run α, (inNewContext t c x).work s
      = Work.bind (Run.newContext c (some t.source)).work
        (fun context => (Run.withCurrent context (x context)).work) s := fun x => rfl
  simp only [hwork, Work.bind, Run.newContext_work]
  cases s.isFixed s.world.heap.size with
  | true => exact Or.inl (fun x => rfl)
  | false => exact Or.inr (fun x => ⟨_, _, State.IsRendering.begun s hc, rfl⟩)

/-- A render runs the program of its template in a render under way. -/
theorem render_enters (p : Power) (t : CompiledTemplate) (bindings : List (String × Value))
    (s : State) :
    (render p t bindings).work s = .uncovered Run.lockedAway
      ∨ EntersRender s t (renderWith p t bindings) ((render p t bindings).work s) :=
  (inNewContext_enters t (c := .outermost t.name t.filename s.world.environment.maxIncludeDepth)
    rfl s).imp (· _) (· _)

/-- So does an included template. -/
theorem inChild_enters (helper : Ref) (t : CompiledTemplate) (s : State) :
    (∀ x : Ref → Run α, (Run.inChild helper t x).work s = .uncovered Run.lockedAway)
      ∨ ∀ x : Ref → Run α, EntersRender s t x ((Run.inChild helper t x).work s) :=
  inNewContext_enters t (c := Run.childAt helper t s.world) rfl s

end Entering

/-- The text of a render as a value. -/
def renderValue (p : Power) (t : CompiledTemplate) (bindings : List (String × Value))
    (context : Ref) : Run Value := do
  return .text (← renderWith p t bindings context)

section Including

variable {context globals : Ref} {args : List Value} {keywords : List (String × Value)}

/-- An include without its context is none at all. -/
theorem includeInto_lost (p : Power) {bound : List (String × Value) × List Value ×
    List (String × Value)} (hbind : includeSignature.bind args keywords = .ok bound) {s : State}
    (hc : s.world.contextAt? context = none) :
    (includeInto p context globals args keywords).work s = .uncovered Run.lostContext := by
  unfold includeInto
  rw [hbind]
  dsimp only
  unfold Run.including
  dsimp only
  rw [hc]

/-- **An include runs the program of its template in a render under way, or runs none at all**: it
ends in the same way whatever power is there to run one. -/
theorem includeInto_enters (p : Power) (s : State) :
    (∀ q, (includeInto q context globals args keywords).work s
        = (includeInto p context globals args keywords).work s)
      ∨ ∃ t bindings, EntersRender s t (renderValue p t bindings)
        ((includeInto p context globals args keywords).work s) := by
  cases hbind : includeSignature.bind args keywords with
  | error message =>
    refine Or.inl (fun q => ?_)
    unfold includeInto
    rw [hbind]
  | ok found =>
    obtain ⟨bound, rest, overrides⟩ := found
    cases hc : s.world.contextAt? context with
    | none =>
      refine Or.inl (fun q => ?_)
      rw [includeInto_lost q hbind hc, includeInto_lost p hbind hc]
    | some c =>
      have hwork := fun q => includeInto_work q globals hbind hc
      by_cases hdeep : c.maxIncludeDepth ≤ c.includeDepth
      · refine Or.inl (fun q => ?_)
        rw [hwork, hwork]
        exact (if_pos hdeep).trans (if_pos hdeep).symm
      · -- the template is found, or not, before any power is used
        generalize hfind : findInclude globals ((bound.lookup "template_name").getD .none) = find
        have hinclude : ∀ q, (includeInto q context globals args keywords).work s
            = Work.bind find.work (fun found => (Run.inChild context found.1
                (renderValue q found.1 (found.2 ++ overrides))).work) s := by
          intro q
          rw [← hfind]
          exact (hwork q).trans (if_neg hdeep)
        simp only [hinclude, Work.bind]
        cases ho : find.work s with
        | done found v =>
          have hcurrent : v.current = s.current := find.law.steady (by rw [ho]; rfl)
          dsimp only
          rcases inChild_enters context found.1 v with hlocked | henters
          · exact Or.inl (fun q => (hlocked _).trans (hlocked _).symm)
          · obtain ⟨inner, u, hu, hwork⟩ := henters (renderValue p found.1 (found.2 ++ overrides))
            rw [hcurrent] at hwork
            exact Or.inr ⟨found.1, _, inner, u, hu, hwork⟩
        | raised e v => exact Or.inl (fun q => rfl)
        | outOfFuel => exact Or.inl (fun q => rfl)
        | uncovered what => exact Or.inl (fun q => rfl)

end Including

/-! ## §5. Contexts come back, and reports agree. -/

/-- Do both kinds of reports on an exception of embedded code tell the place of its own render?  The
context of that render is the current one, and what leaves the render is the exception as it is, or
a report of that place. -/
structure State.ReportsAlike (s : State) (t : CompiledTemplate) (context globals : Ref) (e : Exc)
    (c : RenderContext) : Prop where
  current : s.current = some context
  there : s.world.contextAt? context = some c
  named : c.templateName = t.name
  undefined : ∀ name available, ∃ r, (undefinedOf name available).work s = .done (.ofReport r) s
    ∧ r.place? = some (c.place t.source)
  failure : ∀ e' u, (failureOf t context e).work s = .done e' u →
    ∃ r, e' = .ofReport r ∧ r.place? = some (c.place t.source)
  leaving : ∀ e' u, (leavingRender t context globals e).work s = .done e' u →
    e' = e ∨ ∃ r, e' = .ofReport r ∧ r.place? = some (c.place t.source)

/-- **Renders and includes end in the context in which they began, whether they return or raise; so
an exception of embedded code is met in the context of its own render, and is reported alike.**

A render and an include run a program in a render under way or not at all.  An exception of that
program leaves the render through what is made of it in the state in which it was raised. -/
theorem contexts_come_back (p : Power) (s : State) :
    (∀ t bindings u, ((render p t bindings).work s).state? = some u → u.current = s.current)
    ∧ (∀ context globals args keywords u,
      ((includeInto p context globals args keywords).work s).state? = some u →
        u.current = s.current)
    ∧ (∀ t bindings, (render p t bindings).work s = .uncovered Run.lockedAway
      ∨ EntersRender s t (renderWith p t bindings) ((render p t bindings).work s))
    ∧ (∀ context globals args keywords,
      (∀ q, (includeInto q context globals args keywords).work s
          = (includeInto p context globals args keywords).work s)
        ∨ ∃ t bindings, EntersRender s t (renderValue p t bindings)
          ((includeInto p context globals args keywords).work s))
    ∧ ∀ t context bindings, s.IsRendering t context → ∀ globals v e u,
      (startModule bindings context).work s = .done globals v →
      (runModule p globals t.program).work v = .raised e u →
        (renderWith p t bindings context).work s
            = (leavingRender t context globals e >>= Run.throw).work u
          ∧ ∃ c, u.ReportsAlike t context globals e c := by
  refine ⟨fun t bindings u hu => (render p t bindings).law.steady hu,
    fun context globals args keywords u hu =>
      (includeInto p context globals args keywords).law.steady hu,
    fun t bindings => render_enters p t bindings s,
    fun context globals args keywords => includeInto_enters p s,
    fun t context bindings hs globals v e u hstart hraised => ⟨?_, ?_⟩⟩
  · have hattempt : (Run.attempt (runModule p globals t.program)).work v = .done (.error e) u := by
      show Work.attempt _ v = _
      unfold Work.attempt
      rw [hraised]
    unfold renderWith
    rw [Run.work_done _ hstart, Run.work_done _ hattempt]
  · have hv : v.IsRendering t context := hs.ended (x := startModule bindings context)
      (by rw [hstart]; rfl)
    have hu : u.IsRendering t context := hv.ended (x := runModule p globals t.program)
      (by rw [hraised]; rfl)
    obtain ⟨c, hc, hname⟩ := hu.named
    exact ⟨c, hu.current, hc, hname, undefinedOf_place hu hc,
      fun _ _ h => failureOf_place hc h, fun _ _ h => leavingRender_place hu hc h⟩

/-- A template that raises again what is not there. -/
def raisingTemplate : CompiledTemplate := ⟨0, some "a", none, "<% raise %>", [.throw none none]⟩

/-- The state in which it renders first. -/
def raisingStart : State :=
  { State.withContext {} (.outermost (some "a") none defaultMaxIncludeDepth)
      (some raisingTemplate.source) with current := some 0 }

theorem raisingStart_bare : (raisingStart.started [] 0).IsBare bareKept := by
  refine ⟨⟨.outermost (some "a") none defaultMaxIncludeDepth, ?_⟩, ?_⟩
  · show #[_, Object.dict (namesOf (staticBindings ++ [] ++ includeBindings 0 1)).1] = _
    rw [namesOf_bare]
  · show (State.setOwn _ 1 (.kept (namesOf (staticBindings ++ [] ++ includeBindings 0 1)).2)).ownOf 1 = _
    rw [State.ownOf_setOwn_self, namesOf_bare]

theorem contexts_come_back_raising :
    raisingStart.IsRendering raisingTemplate 0
      ∧ ∃ e u c, (runModule fullPower 1 raisingTemplate.program).work (raisingStart.started [] 0)
          = .raised e u
        ∧ u.ReportsAlike raisingTemplate 0 1 e c := by
  have hs : raisingStart.IsRendering raisingTemplate 0 := State.IsRendering.begun {} rfl
  have hstart : (startModule [] 0).work raisingStart = .done 1 (raisingStart.started [] 0) := by
    have hown : raisingStart.ownOf 1 = default := by
      show (State.setOwn {} 0 _).ownOf 1 = _
      rw [State.ownOf_setOwn, if_neg (by decide)]
      unfold State.ownOf
      rw [Std.HashMap.getElem?_empty]
      rfl
    rw [startModule_work]
    show (if (raisingStart.ownOf 1).isLocked then _ else _) = _
    rw [hown]
    rfl
  have hraised : ∃ e, (runModule fullPower 1 raisingTemplate.program).work
      (raisingStart.started [] 0) = .raised e (raisingStart.started [] 0) := by
    refine ⟨.saying .runtime "No active exception to reraise", ?_⟩
    have hbare : bodyAnnotates raisingTemplate.program = false := rfl
    unfold runModule
    rw [hbare, Run.work_done _ (enterModule_bare raisingStart_bare)]
    rfl
  obtain ⟨e, hraised⟩ := hraised
  obtain ⟨-, c, hc⟩ := (contexts_come_back fullPower raisingStart).2.2.2.2 raisingTemplate 0 [] hs 1 _
    e _ hstart hraised
  exact ⟨hs, e, _, c, hraised, hc⟩

end Inlay
