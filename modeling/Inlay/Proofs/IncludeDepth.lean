/-
  Inlay.Proofs.IncludeDepth
  ────────────────────────────────
  **COUNTING INCLUDES.**

  At every moment of a render, the current context knows the includes that
  are in progress as long as each of them went through the helper of the
  render that called it:

      depth — as many as there are, and no more than the limit
      stack — the template and the line of each call, outermost first

  A helper that was kept and is called from another template goes on from
  the context that it was made for: the new context is one level below that
  one, wherever the call was made.
-/
import Inlay.Proofs.Following

namespace Inlay

open Inlay.Code Inlay.Diagnostic

/-! ## §1. Includes in progress. -/

/-- Did the include go through the helper of the render that was current? -/
def Include.IsOwn (i : Include) : Prop := i.outside.current = some i.helper

/-- The template that called the include, and its line then. -/
def Include.site? (i : Include) : Option (String × Int) :=
  (i.outside.current.bind i.outside.world.contextAt?).map RenderContext.site

/-- Does the context count the includes in progress, with the place of every call? -/
structure Moment.IsCountedBy (m : Moment) (c : RenderContext) : Prop where
  depth : c.includeDepth = m.includes.length
  stack : c.stack.map some = m.includes.map Include.site?

section Nesting

variable {s : State} {is : List Include} {r : Ref} {c : RenderContext}

/-- The current context is that of the last include. -/
theorem IsNested.last {context : Option Ref} {i : Include} (h : IsNested s context (is ++ [i])) :
    s.current = some i.inner ∧ i.IsEntered s := by
  induction is generalizing context with
  | nil => exact ⟨h.2.2, h.2.1⟩
  | cons j is ih => exact ih h.2.2

/-- Every include that goes through the helper of the current render adds its level and its call
to what the context said before. -/
theorem IsNested.counted (h : IsNested s (some r) is) (hc : s.world.contextAt? r = some c)
    (hown : ∀ i ∈ is, i.IsOwn) :
    ∃ r' c', s.current = some r' ∧ s.world.contextAt? r' = some c'
      ∧ c'.includeDepth = c.includeDepth + is.length
      ∧ c'.stack.map some = c.stack.map some ++ is.map Include.site?
      ∧ c'.maxIncludeDepth = c.maxIncludeDepth := by
  induction is generalizing r c with
  | nil => exact ⟨r, c, h, hc, by simp, by simp, rfl⟩
  | cons i is ih =>
    obtain ⟨hcurrent, ⟨hkeeps, outer, inner, houter, hinner, hbelow⟩, hnested⟩ := h
    obtain ⟨hi, his⟩ := List.forall_mem_cons.1 hown
    -- the helper is that of the context the chain has come to
    have hhelper : i.helper = r := Option.some.inj (hi.symm.trans hcurrent)
    rw [hhelper] at houter
    obtain ⟨line, hline⟩ := hkeeps r outer houter
    obtain rfl : c = outer.atLine line := Option.some.inj (hc.symm.trans hline)
    have hsite : i.site? = some outer.site := by
      unfold Include.site?
      rw [hcurrent, Option.bind_some, houter, Option.map_some]
    obtain ⟨r', c', hr', hc', hdepth, hstack, hlimit⟩ := ih hnested hinner his
    refine ⟨r', c', hr', hc', ?_, ?_, hlimit.trans hbelow.limit⟩
    · rw [hdepth, hbelow.depth, List.length_cons]
      show outer.includeDepth + 1 + _ = outer.includeDepth + _
      omega
    · rw [hstack, hbelow.stack, List.map_cons, hsite, List.map_append, List.append_assoc]
      rfl

end Nesting

/-! ## §2. Calls of the helper. -/

/-- A call of the helper is refused if the limit of its context is reached; otherwise the template
is found and rendered below that context. -/
theorem includeInto_work (p : Power) {context : Ref} (globals : Ref) {args : List Value}
    {keywords : List (String × Value)} {bound overrides : List (String × Value)}
    {rest : List Value} (hbind : includeSignature.bind args keywords = .ok (bound, rest, overrides))
    {s : State} {c : RenderContext} (hc : s.world.contextAt? context = some c) :
    (includeInto p context globals args keywords).work s =
      let name := (bound.lookup "template_name").getD .none
      if c.maxIncludeDepth ≤ c.includeDepth then (refuseDepth name c).work s
      else (do
        let found ← findInclude globals name
        Run.inChild context found.1 (fun inner => do
          return .text (← renderWith p found.1 (found.2 ++ overrides) inner)) : Run Value).work s := by
  unfold includeInto
  rw [hbind]
  dsimp only
  unfold Run.including
  dsimp only
  rw [hc]

/-- A refused call raises a report that has a code of its own. -/
theorem refuseDepth_work {name : Value} {c : RenderContext} {s t : State} {text : String}
    (h : name.plain.work s = .done text t) :
    (refuseDepth name c).work s = .raised (.ofReport (.failure (c.depthFailure text))) t := by
  unfold refuseDepth
  rw [Run.work_done _ h]
  rfl

/-! ## §3. Moments of a render. -/

/-- The moments at which a context is made belong to no context of their own. -/
theorem newContext_seen {c : RenderContext} {source : Option String} {s : State} {m : Moment}
    (h : (Run.newContext c source).seen s m) : m.root = none := by
  rcases h with h | ⟨r, t, -, h | ⟨_, u, -, h⟩⟩
  · rcases h with rfl | ⟨_, -, rfl⟩ <;> rfl
  · rcases h with rfl | ⟨_, -, rfl⟩ <;> rfl
  · rcases h with h | ⟨_, _, -, h | ⟨_, _, -, h⟩⟩ <;>
      rcases h with rfl | ⟨_, -, rfl⟩ <;> rfl

/-- In a render, the context that it has begun with is still there. -/
theorem render_root {p : Power} {t : CompiledTemplate} {bindings : List (String × Value)}
    {s : State} {m : Moment} (h : (render p t bindings).seen s m)
    (hroot : m.root = some s.world.heap.size) :
    ∃ line, m.state.world.contextAt? s.world.heap.size = some ((RenderContext.outermost t.name
      t.filename s.world.environment.maxIncludeDepth).atLine line) := by
  rcases h with h | ⟨limit, s₁, hask, h | ⟨context, u, hnew, h⟩⟩
  · rcases h with rfl | ⟨_, -, rfl⟩ <;> simp [Moment.here] at hroot
  · rw [newContext_seen h] at hroot
    simp at hroot
  · obtain ⟨rfl, rfl⟩ := Outcome.done.inj hask
    obtain ⟨rfl, rfl⟩ := Run.newContext_done hnew
    exact ((Run.withCurrent _ _).law.safe _ m h).keeps _ _ (s.contextAt?_withContext _ _)

/-- **At every moment of a render, the current context stays within its limit, and is one level
below that of the helper through which the last include went.**  As long as every include in
progress went through the helper of the render that was current, the context counts them: its depth
is their number, its stack lists the template and line of every call, outermost first; and one more
include through its helper is refused, with a code of its own, exactly when their number has reached
the limit. -/
theorem render_counts_includes (p : Power) (t : CompiledTemplate)
    (bindings : List (String × Value)) (s : State) {m : Moment}
    (h : (render p t bindings).seen s m) (hroot : m.root = some s.world.heap.size) :
    ∃ r c, m.state.current = some r ∧ m.state.world.contextAt? r = some c
      ∧ (0 ≤ c.maxIncludeDepth → c.includeDepth ≤ c.maxIncludeDepth)
      ∧ (∀ i ∈ m.includes.getLast?, ∃ outer,
        i.outside.world.contextAt? i.helper = some outer ∧ c.IsBelow outer)
      ∧ ((∀ i ∈ m.includes, i.IsOwn) → m.IsCountedBy c
        ∧ c.maxIncludeDepth = s.world.environment.maxIncludeDepth
        ∧ ∀ (q : Power) globals args keywords bound rest overrides,
          includeSignature.bind args keywords = .ok (bound, rest, overrides) →
          let name := (bound.lookup "template_name").getD .none
          (s.world.environment.maxIncludeDepth ≤ m.includes.length → ∀ text u,
            name.plain.work m.state = .done text u →
            ∃ f : Failure, f.code = .includeDepth ∧ f.stack = c.stack
              ∧ (includeInto q r globals args keywords).work m.state
                = .raised (.ofReport (.failure f)) u)
          ∧ (m.includes.length < s.world.environment.maxIncludeDepth →
            (includeInto q r globals args keywords).work m.state
              = (do
                let found ← findInclude globals name
                Run.inChild r found.1 (fun inner => do
                  return .text (← renderWith q found.1 (found.2 ++ overrides) inner)) :
                    Run Value).work m.state)) := by
  obtain ⟨line, hbase⟩ := render_root h hroot
  have hnested := ((render p t bindings).law.safe s m h).nested
  rw [hroot, Option.some_or] at hnested
  -- the current context is that of the last include, if there is one
  obtain ⟨r, c, hr, hc, hbound, hlast⟩ : ∃ r c, m.state.current = some r
      ∧ m.state.world.contextAt? r = some c
      ∧ (0 ≤ c.maxIncludeDepth → c.includeDepth ≤ c.maxIncludeDepth)
      ∧ ∀ i ∈ m.includes.getLast?, ∃ outer,
        i.outside.world.contextAt? i.helper = some outer ∧ c.IsBelow outer := by
    rcases List.eq_nil_or_concat m.includes with hnil | ⟨is, i, hsnoc⟩
    · rw [hnil] at hnested ⊢
      exact ⟨_, _, hnested, hbase, id, by simp⟩
    · rw [hsnoc, List.concat_eq_append] at hnested ⊢
      obtain ⟨hcurrent, -, outer, inner, houter, hinner, hbelow⟩ := hnested.last
      refine ⟨_, inner, hcurrent, hinner, fun _ => ?_, fun j hj => ?_⟩
      · have hallowed := hbelow.allowed
        rw [hbelow.depth, hbelow.limit]
        omega
      · rw [List.getLast?_concat, Option.mem_some] at hj
        subst hj
        exact ⟨outer, houter, hbelow⟩
  refine ⟨r, c, hr, hc, hbound, hlast, fun hown => ?_⟩
  obtain ⟨r', c', hr', hc', hdepth, hstack, hlimit⟩ := hnested.counted hbase hown
  obtain rfl : r = r' := Option.some.inj (hr.symm.trans hr')
  obtain rfl : c = c' := Option.some.inj (hc.symm.trans hc')
  have hdepth' : c.includeDepth = m.includes.length := by
    rw [hdepth]
    exact Int.zero_add _
  refine ⟨⟨hdepth', hstack⟩, hlimit, ?_⟩
  intro q globals args keywords bound rest overrides hbind
  have hwork := includeInto_work q globals hbind hc
  rw [hdepth', hlimit] at hwork
  refine ⟨fun hdeep text u htext => ⟨c.depthFailure text, rfl, rfl, ?_⟩, fun hroom => ?_⟩
  · rw [hwork]
    exact (if_pos hdeep).trans (refuseDepth_work htext)
  · rw [hwork]
    exact if_neg (Int.not_le.2 hroom)

end Inlay
