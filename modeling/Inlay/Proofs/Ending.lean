/-
  Inlay.Proofs.Ending
  ────────────────────────────────
  **HOW WHOLE PROGRAMS END.**

  A program starts a list, runs the statements of its nodes, and keeps what
  the list has become as its result.  A walk that starts in the same module
  ends alike, and so do the renders around the two.
-/
import Inlay.Proofs.Building

namespace Inlay

open Inlay.Code Inlay.Program

/-! ## §1. Reserved names at the start. -/

/-- The value of a name among bindings, of which the last one counts. -/
def lastValue? (bindings : List (String × Value)) (name : String) : Option Value :=
  bindings.reverse.lookup name

theorem lastValue?_append (bindings later : List (String × Value)) (name : String) :
    lastValue? (bindings ++ later) name =
      (lastValue? later name).or (lastValue? bindings name) := by
  unfold lastValue?
  rw [List.reverse_append, List.lookup_append]

theorem lastValue?_cons (b : String × Value) (bindings : List (String × Value)) (name : String) :
    lastValue? (b :: bindings) name =
      (lastValue? bindings name).or (if b.1 = name then some b.2 else none) := by
  have hone : lastValue? [b] name = if b.1 = name then some b.2 else none := by
    show [b].lookup name = _
    rw [List.lookup_cons]
    by_cases hn : b.1 = name
    · rw [if_pos hn, hn, beq_self_eq_true]
    · rw [if_neg hn, beq_false_of_ne (Ne.symm hn)]
      rfl
  rw [← hone]
  exact lastValue?_append [b] bindings name

theorem lastValue?_eq_none {bindings : List (String × Value)} {name : String}
    (h : ∀ b ∈ bindings, b.1 ≠ name) : lastValue? bindings name = none := by
  unfold lastValue?
  rw [List.lookup_eq_none_iff]
  exact fun b hb => bne_iff_ne.2 (Ne.symm (h b (List.mem_reverse.1 hb)))

theorem find?_addName (name : String) (hname : isReserved name = true)
    (names : Dictionary × List Kept) (b : String × Value) :
    Own.find? name (addName names b).2 =
      if b.1 = name then some (.value b.2) else Own.find? name names.2 := by
  unfold addName
  by_cases hb : isReserved b.1 = true
  · rw [if_pos hb]
    exact Own.find?_put _ _ _ _ _
  · rw [if_neg hb, if_neg]
    rintro rfl
    exact hb hname

/-- What bindings hold under a reserved name: the last one counts. -/
theorem find?_namesOf (name : String) (hname : isReserved name = true)
    (bindings : List (String × Value)) :
    Own.find? name (namesOf bindings).2 = (lastValue? bindings name).map Held.value := by
  have hfold : ∀ names : Dictionary × List Kept,
      Own.find? name (bindings.foldl addName names).2 =
        ((lastValue? bindings name).map Held.value).or (Own.find? name names.2) := by
    induction bindings with
    | nil => intro names; rfl
    | cons b bs ih =>
      intro names
      rw [List.foldl_cons, ih, find?_addName name hname, lastValue?_cons]
      cases lastValue? bs name with
      | some v => rfl
      | none => split <;> rfl
  rw [namesOf, hfold]
  exact Option.or_none

/-- The reserved names that a render starts with, where no binding is reserved. -/
theorem find?_startNames {context globals : Ref} {bindings : List (String × Value)}
    (hb : ∀ b ∈ bindings, isReserved b.1 = false) {name : String} (hname : isReserved name = true) :
    Own.find? name (namesOf (staticBindings ++ bindings ++ includeBindings context globals)).2 =
      ((lastValue? (includeBindings context globals) name).or
        (lastValue? staticBindings name)).map Held.value := by
  have hnone : lastValue? bindings name = none := lastValue?_eq_none fun b hmem => by
    rintro rfl
    rw [hb b hmem] at hname
    cases hname
  rw [find?_namesOf name hname, lastValue?_append, lastValue?_append, hnone, Option.none_or]

/-! ## §2. From the first statement to the last. -/

/-- A state of a program and one of a walk before anything is written. -/
structure Ready (context globals : Ref) (s : State) (w : State × Page) : Prop where
  covers : w.1.Covers s
  locked : w.1.ownOf globals = .locked (toolBindings context globals)
  kept : ∃ ks, s.ownOf globals = .kept ks ∧
    (∀ name v, (toolBindings context globals).lookup name = some v →
      Own.find? name ks = some (.value v)) ∧
    Own.find? resultName ks = none
  blank : w.2 = {}

theorem Ready.stable {context globals : Ref} : Stable (Ready context globals) where
  covers := fun _ _ h => h.covers
  moves := by
    intro s w t t' h hm
    have hg := hm.own globals
    rw [h.locked, if_pos (by rfl)] at hg
    obtain ⟨ks, hks, hrest⟩ := h.kept
    exact ⟨h.covers.of_moves hm, hg.1, ⟨ks, hg.2.trans hks, hrest⟩, h.blank⟩

/-- The desk of a whole template. -/
def topDesk (ks : List Kept) : Desk := ⟨outputName, 0, (Own.find? · ks)⟩

theorem topDesk_isSound {context globals : Ref} {ks : List Kept}
    (h : ∀ name v, (toolBindings context globals).lookup name = some v →
      Own.find? name ks = some (.value v)) : (topDesk ks).IsSound context globals where
  buffer := Or.inl rfl
  inUse := by
    rintro ⟨i, -, hi⟩
    have hout : ¬ "_snug_buf".toList <+: outputName.toList := by decide
    exact ne_bufferName hout i hi
  tools := h

/-- The statements of a template. -/
def programOf (body : List Stmt) : List Stmt :=
  startBuffer outputName :: (body ++ [.assign [.name resultName] (joined outputName)])

/-- Keeping the result. -/
theorem keepResult_work (p : Power) {fr : Frame} (hfr : fr.scopes = []) {s : State}
    {ks : List Kept} (hks : s.ownOf fr.globals = .kept ks) {items : List Value} {text : String}
    (hitems : Own.find? outputName ks = some (.pieces items)) (hs : Spells items text) :
    ((Stmt.assign [.name resultName] (joined outputName)).run p fr).work s =
      .done .normal (s.setOwn fr.globals
        (.kept (Own.put resultName (s.spanAt fr.globals) (.value (.text text)) ks))) := by
  obtain ⟨texts, rfl, rfl⟩ := hs
  have hout : isReserved outputName = true := (isReserved_iff _).mpr (by decide)
  have hresult : isReserved resultName = true := (isReserved_iff _).mpr (by decide)
  have hstart : startsList fr [.name resultName] (joined outputName) = Pure.pure false := rfl
  rw [run_assign, hstart]
  simp only [pure_bind, Bool.false_eq_true, if_false]
  rw [Run.work_done _ (joined_work p hfr hks hout hitems), forM_one, Expr.bindTo,
    Run.work_done _ (writeName_work hfr hks hresult _)]
  rfl

theorem result_notFree {d : Desk} : ¬ d.IsFree resultName := by
  rintro ⟨i, -, hi⟩
  exact ne_bufferName (show ¬ "_snug_buf".toList <+: resultName.toList by decide) i hi

/-- What is held as the result at the end of a program: nothing if the end was not normal. -/
def keptResult (text : String) : Flow → Option Held
  | .normal => some (.value (.text text))
  | _ => none

/-- How a whole program ends, given how its walk ends: with the same flow or exception, and at a
normal end with the text of the page as the result. -/
def EndsLike (globals : Ref) (ending : Outcome (State × Page) Flow) (o : Outcome State Flow) : Prop :=
  match ending with
  | .uncovered _ => True
  | .outOfFuel => o = .outOfFuel
  | .raised e w => ∃ s, o = .raised e s ∧ w.1.Covers s
  | .done flow w => ∃ s ks, o = .done flow s ∧ w.1.Covers s ∧ s.ownOf globals = .kept ks ∧
      Own.find? resultName ks = keptResult w.2.written flow

theorem program_endsLike {context : Ref} {fr : Frame} (p : Power) (hfr : fr.scopes = [])
    {nodes : List (Node Placement)} {body : List Stmt} {r : Progress}
    (h : bodyStmts outputName nodes {} = .ok (body, r)) {s : State} {w : State × Page}
    (hw : Ready context fr.globals s w) :
    EndsLike fr.globals (walkBody p fr context nodes w)
      ((runBody p fr (programOf body)).work s) := by
  obtain ⟨w, page⟩ := w
  obtain ⟨ks, hks, htools, hresult⟩ := hw.kept
  obtain rfl := hw.blank
  have hd := topDesk_isSound htools
  have hready : Writing context fr.globals (topDesk ks) (s.setOwn fr.globals
      (.kept (Own.put outputName (s.spanAt fr.globals) (.pieces []) ks))) (w, {}) := by
    refine Writing.of_setOwn hw.covers hw.locked hd ⟨⟨[], ?_, Spells.nil⟩, fun name hname _ => ?_⟩
    · exact (Own.find?_put _ _ _ _ _).trans (if_pos rfl)
    · exact (Own.find?_put _ _ _ _ _).trans (if_neg (Ne.symm hname))
  have hbody := ((bodyStmts_ok p hfr nodes outputName {} r body h).2 (topDesk ks) hd rfl rfl).matches_of
    _ _ hready
  have hout : isReserved outputName = true := (isReserved_iff _).mpr (by decide)
  unfold programOf
  rw [runBody_cons, Run.work_done _ (startBuffer_work p hfr hks hout)]
  show EndsLike _ _ ((runBody p fr (body ++ _)).work _)
  rw [runBody_append, Run.work_bind, Work.bind_apply]
  cases hy : walkBody p fr context nodes (w, {}) <;>
    cases hx : (runBody p fr body).work _ <;> rw [hy, hx] at hbody <;>
    first | exact hbody.elim | trivial | skip
  · rename_i flow w' flow' s'
    obtain ⟨rfl, hi⟩ := hbody
    obtain ⟨ks', hks', hheld⟩ := hi.kept
    have hnone : Own.find? resultName ks' = none :=
      (hheld.2 resultName (show resultName ≠ outputName by decide) result_notFree).trans hresult
    cases flow with
    | normal =>
      obtain ⟨items, hitems, hs⟩ := hheld.1
      have hkeep := keepResult_work p hfr hks' hitems hs
      dsimp only
      rw [runBody_singleton, hkeep]
      refine ⟨_, _, rfl, ?_, State.ownOf_setOwn_self _ _ _, ?_⟩
      · refine covers_setOwn hi.covers hi.locked (fun name v hv => ?_)
        rw [Own.find?_put, if_neg (Ne.symm (tool_ne_result hv))]
        exact hheld.tool hd hv
      · exact (Own.find?_put _ _ _ _ _).trans (if_pos rfl)
    | breakLoop => exact ⟨s', ks', rfl, hi.covers, hks', hnone⟩
    | continueLoop => exact ⟨s', ks', rfl, hi.covers, hks', hnone⟩
    | giveBack v => exact ⟨s', ks', rfl, hi.covers, hks', hnone⟩
  · obtain ⟨rfl, hi⟩ := hbody
    exact ⟨_, rfl, hi.covers⟩

theorem Program.build_ok {t : Template Unit} {program : List Stmt} (h : build t = .ok program) :
    ∃ body r, bodyStmts outputName (Indent.resolve t).body {} = .ok (body, r) ∧
      program = programOf body := by
  obtain ⟨-, regions, hstmts, -⟩ := build_ok_iff.1 h
  rw [templateStmts_eq] at hstmts
  cases hb : bodyStmts outputName (Indent.resolve t).body {} with
  | error e =>
    rw [show (bodyStmts outputName (Indent.resolve t).body).run {} = .error e from hb] at hstmts
    cases hstmts
  | ok out =>
    rw [show (bodyStmts outputName (Indent.resolve t).body).run {} = .ok out from hb] at hstmts
    obtain ⟨hprogram, -⟩ := Prod.mk.inj (Except.ok.inj hstmts)
    exact ⟨out.1, out.2, rfl, hprogram.symm⟩

/-! ## §3. Renders. -/

/-- The state in which the module of a render has been made. -/
def State.started (s : State) (bindings : List (String × Value)) (context : Ref) : State :=
  let names := namesOf (staticBindings ++ bindings ++ includeBindings context s.world.heap.size)
  State.setOwn
    { s with world := { s.world with heap := s.world.heap.push (.dict names.1) } }
    s.world.heap.size (.kept names.2)

theorem modify_push (heap : Array Object) (o : Object) (f : Object → Object) :
    (heap.push o).modify heap.size f = heap.push (f o) := by
  apply Array.ext
  · rw [Array.size_modify, Array.size_push, Array.size_push]
  · intro i _ hi
    rw [Array.getElem_modify, Array.getElem_push, Array.getElem_push]
    rw [Array.size_push] at hi
    by_cases hlast : i = heap.size
    · simp [hlast]
    · have hlt : i < heap.size := by omega
      simp [hlt, Ne.symm hlast]

/-- The module of a render is made at the end of the heap, unless what stands apart there is
locked. -/
theorem startModule_work (bindings : List (String × Value)) (context : Ref) (s : State) :
    (startModule bindings context).work s =
      if (s.ownOf s.world.heap.size).isLocked then .uncovered Run.lockedAway
      else .done s.world.heap.size (s.started bindings context) := by
  have halloc : (Run.alloc (.dict .empty)).work s =
      .done s.world.heap.size { s with world :=
        { s.world with heap := s.world.heap.push (.dict .empty) } } := rfl
  have hset : ∀ d, (Run.setObject s.world.heap.size (.dict d)).work { s with world :=
      { s.world with heap := s.world.heap.push (.dict .empty) } } = .done () { s with world :=
        { s.world with heap := s.world.heap.push (.dict d) } } := by
    intro d
    have hput : (s.world.heap.push (.dict .empty)).modify s.world.heap.size
        (·.replacedBy (.dict d)) = s.world.heap.push (.dict d) := modify_push _ _ _
    rw [← hput]
    rfl
  -- what stands apart from a dictionary is no source
  have hfixed : ∀ d, State.isFixed { s with world := { s.world with
      heap := s.world.heap.push (.dict d) } } s.world.heap.size
        = (s.ownOf s.world.heap.size).isLocked := fun d =>
    State.isFixed_of_noContext ((s.world.contextAt?_push (.dict d) _).trans (if_pos rfl))
  unfold startModule newModule
  rw [Run.work_done _ halloc, bind_assoc, Run.work_done _ (hset _)]
  rw [Run.work_bind, Work.bind_apply, Run.changeOwn_work, hfixed]
  cases (s.ownOf s.world.heap.size).isLocked <;> rfl

/-- The reserved names of a module that has been made. -/
theorem ownOf_started (s : State) (bindings : List (String × Value)) (context : Ref) :
    (s.started bindings context).ownOf s.world.heap.size =
      .kept (namesOf (staticBindings ++ bindings ++
        includeBindings context s.world.heap.size)).2 :=
  State.ownOf_setOwn_self _ _ _

/-- With the reserved names locked away, a walk can begin. -/
theorem ready_of_startNames {context globals : Ref} {bindings : List (String × Value)}
    (hb : ∀ b ∈ bindings, isReserved b.1 = false) {s : State}
    (hs : s.ownOf globals =
      .kept (namesOf (staticBindings ++ bindings ++ includeBindings context globals)).2) :
    Ready context globals s (s.setOwn globals (.locked (toolBindings context globals)), {}) := by
  have hreserved : ∀ n ∈ [textName, realignName, reindentName, includeName, contextName],
      isReserved n = true := by
    intro n hn
    have hall : ∀ n ∈ [textName, realignName, reindentName, includeName, contextName],
        reservedStart.toList <+: n.toList := by decide
    exact (isReserved_iff n).mpr (hall n hn)
  have htools : ∀ name v, (toolBindings context globals).lookup name = some v → Own.find? name
      (namesOf (staticBindings ++ bindings ++ includeBindings context globals)).2 =
        some (.value v) := by
    intro name v hv
    have hmem := mem_toolNames hv
    rw [find?_startNames hb (hreserved name hmem)]
    simp only [List.mem_cons, List.not_mem_nil, or_false] at hmem
    rcases hmem with rfl | rfl | rfl | rfl | rfl <;> exact congrArg _ hv
  refine ⟨⟨rfl, rfl, fun r => ?_⟩, State.ownOf_setOwn_self _ _ _, ⟨_, hs, htools, ?_⟩, rfl⟩
  · rw [State.ownOf_setOwn]
    split
    · rename_i heq
      subst heq
      refine Or.inr ⟨_, rfl, fun name v hv => ?_⟩
      rw [hs]
      simp only [Own.value?, htools name v hv]
    · exact Or.inl rfl
  · rw [find?_startNames hb ((isReserved_iff _).mpr (by decide))]
    rfl

/-- A whole module ends as its walk does. -/
theorem module_endsLike {context globals : Ref} (p : Power) (annotates : Bool)
    {nodes : List (Node Placement)} {body : List Stmt} {r : Progress}
    (h : bodyStmts outputName nodes {} = .ok (body, r)) {s : State} {w : State × Page}
    (hw : Ready context globals s w) :
    EndsLike globals
      ((do
        let behind ← (enterModule globals annotates : Run (Option Ref))
        walkBody p { globals, behind } context nodes : Walk Flow) w)
      ((do
        let behind ← enterModule globals annotates
        runBody p { globals, behind } (programOf body) : Run Flow).work s) := by
  have henter := (Follows.run Ready.stable (enterModule globals annotates)).matches_of s w hw
  rw [liftM_eq_walked, Work.bind_apply, Run.work_bind, Work.bind_apply]
  cases hy : (enterModule globals annotates).walked w <;>
    cases hx : (enterModule globals annotates).work s <;> rw [hy, hx] at henter <;>
    first | exact henter.elim | trivial | skip
  · obtain ⟨rfl, hw'⟩ := henter
    exact program_endsLike p rfl h hw'
  · obtain ⟨rfl, hw'⟩ := henter
    exact ⟨_, rfl, hw'.covers⟩

/-- What is made of a run and of a walk that end alike. -/
theorem EndsLike.conclude {globals : Ref} {y : Walk Flow} {x : Run Flow} {s : State}
    {w : State × Page} (h : EndsLike globals (y w) (x.work s)) (leaving : Exc → Run Exc) :
    ((do
      match ← y.attempt with
      | .error e => do
        let e ← (leaving e : Run Exc)
        (Run.throw e : Run String)
      | .ok flow => walkedText globals flow : Walk String) w).Matches (fun s w => w.1.Covers s)
      ((do
        match ← Run.attempt (x >>= fun _ => Pure.pure ()) with
        | .error e => Run.throw (← leaving e)
        | .ok () => renderedText globals : Run String).work s) := by
  have hattempt : ∀ s, (Run.attempt (x >>= fun _ => Pure.pure ())).work s =
      Work.attempt (x.work >>= fun _ => Pure.pure ()) s := fun s => rfl
  rw [Work.bind_apply, Run.work_bind, Work.bind_apply, hattempt]
  unfold Work.attempt
  rw [Work.bind_apply]
  cases hy : y w with
  | uncovered what => trivial
  | outOfFuel =>
    rw [hy] at h
    have hx : x.work s = .outOfFuel := h
    rw [hx]
    trivial
  | raised e w' =>
    rw [hy] at h
    obtain ⟨s', hx, hcovers⟩ := h
    rw [hx]
    exact ((Follows.run stable_covers (leaving e)).bind
      (fun e => Follows.run stable_covers (Run.throw e))).matches_of s' w' hcovers
  | done flow w' =>
    rw [hy] at h
    obtain ⟨s', ks, hx, hcovers, hks, hresult⟩ := h
    rw [hx]
    have hreserved : isReserved resultName = true := (isReserved_iff _).mpr (by decide)
    change (walkedText globals flow w').Matches _ ((renderedText globals).work s')
    unfold renderedText
    by_cases hnormal : flow = .normal
    · subst hnormal
      have hread := @readInModule_work { globals } s' ks resultName hks hreserved _ hresult
      rw [Run.work_done _ hread]
      exact ⟨rfl, hcovers⟩
    · have hnone : Own.find? resultName ks = none := by
        rw [hresult]
        cases flow <;> first | exact absurd rfl hnormal | rfl
      have hread : (readInModule globals resultName).work s' =
          (Run.ask (fun w => (w.dictionaryAt globals).named? resultName)).work s' :=
        @readInModule_none_work { globals } s' ks resultName hks hreserved hnone
      have hwalk : walkedText globals flow = (do
          let result ← (Run.ask (fun w => (w.dictionaryAt globals).named? resultName) : Run _)
          (resultText result : Run String) : Walk String) := by
        cases flow <;> first | exact absurd rfl hnormal | rfl
      rw [hwalk, Run.work_congr _ hread]
      exact ((Follows.run stable_covers _).bind
        (fun result => Follows.run stable_covers (resultText result))).matches_of s' w' hcovers

/-- A render by a program, and one by a walk that started in the same state. -/
theorem renderWith_matches_walk (rounds n : Nat) {tree : Template Unit} {t : CompiledTemplate}
    (h : build tree = .ok t.program) {bindings : List (String × Value)}
    (hb : ∀ b ∈ bindings, isReserved b.1 = false) (context : Ref) (s : State) :
    (renderWalking (power rounds n) true (bodyAnnotates t.program) t (Indent.resolve tree) bindings
      context (s, {})).Matches (fun s w => w.1.Covers s)
      ((renderWith (power rounds (n + 1)) t bindings context).work s) := by
  obtain ⟨body, r, hbody, hprogram⟩ := build_ok h
  unfold renderWalking renderWith
  rw [liftM_eq_walked]
  have hstart := startModule_work bindings context s
  cases hlocked : (s.ownOf s.world.heap.size).isLocked with
  | true =>
    rw [hlocked, if_pos rfl] at hstart
    rw [Work.bind_uncovered _ (Run.walked_uncovered hstart)]
    trivial
  | false =>
    rw [hlocked, if_neg Bool.false_ne_true] at hstart
    rw [Work.bind_done _ (Run.walked_done hstart), Run.work_done _ hstart]
    have hready := ready_of_startNames hb (ownOf_started s bindings context)
    have hends := module_endsLike (power rounds n) (bodyAnnotates t.program) hbody hready
    have hmodule : ∀ globals, runModule (power rounds (n + 1)) globals t.program =
        (do
          let behind ← enterModule globals (bodyAnnotates t.program)
          runBody (power rounds n) { globals, behind } (programOf body)) >>= fun _ =>
            Pure.pure () := by
      intro globals
      rw [bind_assoc, ← hprogram]
      rfl
    rw [hmodule]
    exact hends.conclude (leavingRender t context s.world.heap.size)

end Inlay
