/-
  Inlay.Proofs.Compilation
  ────────────────────────────────
  **COMPILATION PRESERVES MEANING.**

  A render by the program of a tree ends as a render that walks the tree:
  with the same text or the same exception, and with the same world.  This
  is so as long as the code does not come to what the program keeps for
  itself; code that counts all names of its module can tell.
-/
import Inlay.Program.Compile
import Inlay.Proofs.Namespace

namespace Inlay

open Inlay.Code Inlay.Program

/-! ## §1. Templates from trees. -/

theorem exists_template {tree : Template Unit} (h : (build tree).isOk = true) :
    ∃ t : CompiledTemplate, build tree = .ok t.program := by
  cases hb : build tree with
  | error e =>
    rw [hb] at h
    exact absurd h Bool.false_ne_true
  | ok program => exact ⟨⟨0, none, none, "", program⟩, rfl⟩

/-! ## §2. A template that counts names. -/

/-- A template that counts the names of its module. -/
def countingTree : Template Unit :=
  ⟨none, [.expr ⟨.start, .silent, "assert len(locals()) == 7", ()⟩]⟩

/-- Its statement. -/
def countingCode : Stmt := .assertion (.compare countNames [.mk .equal (.constant (.int 7))]) none

/-- Are some statements the one that counts? -/
def isCounting : Option (List Stmt) → Bool
  | some [.assertion (.compare (.call (.name "len") [.call (.name "locals") [] []] [])
      [.mk .equal (.constant (.int 7))]) none] => true
  | _ => false

theorem eq_countingCode {ss : Option (List Stmt)} (h : isCounting ss = true) :
    ss = some [countingCode] := by
  unfold isCounting at h
  split at h
  · rfl
  · exact absurd h Bool.false_ne_true

theorem countingCode_read :
    parseStatements? (Header.normalize "assert len(locals()) == 7") = some [countingCode] :=
  eq_countingCode (by decide +kernel)

theorem countingCode_run (p : Power) {fr : Frame} {s u : State} {n : Int}
    (h : (countNames.eval p fr).work s = .done (.int n) u) {holds : Bool}
    (hcompare : ((Value.int n).compare p .equal (.int 7)).work u = .done holds u) :
    (countingCode.run p fr).work s =
      if holds then .done .normal u else .raised (.of .assertion []) u := by
  have hrun : countingCode.run p fr = countingCode.runSimple p fr := by
    unfold Stmt.run countingCode
    rw [Stmt.runWith] <;> simp [putsOff]
  have htest : ((Expr.compare countNames [.mk .equal (.constant (.int 7))]).eval p fr).work s =
      .done (.bool holds) u := by
    rw [Expr.eval, Run.work_done _ h, evalLinks, Expr.eval_constant]
    have hright : (Constant.int 7).value = Pure.pure (Value.int 7) := rfl
    rw [hright, pure_bind, Run.work_done _ hcompare]
    rfl
  rw [hrun]
  unfold countingCode Stmt.runSimple
  dsimp only
  rw [Run.work_done _ htest]
  cases holds <;> rfl

theorem seven_equal_seven (p : Power) (u : State) :
    ((Value.int 7).compare p .equal (.int 7)).work u = .done true u := rfl

theorem eight_equal_seven (p : Power) (u : State) :
    ((Value.int 8).compare p .equal (.int 7)).work u = .done false u := rfl

/-- A walk finds as many names as the template says. -/
theorem walk_counting (p : Power) {c : CompiledTemplate}
    (hc : c.program = programOf [noteLine .start, countingCode]) :
    ∃ w, renderWalking p false (bodyAnnotates c.program) c (Indent.resolve countingTree) [] 0
      (bareStart, {}) = .done "" w := by
  have hannotates : bodyAnnotates c.program = false := by
    rw [hc]
    rfl
  obtain ⟨hstart, hbare⟩ := bareStart_started
  obtain ⟨s, hs, hbare'⟩ := noteLineIn_bare hbare .start
  obtain ⟨u, hu⟩ := countNames_walk p hbare'
  have hrun := countingCode_run p hu (seven_equal_seven p u)
  have hbody : (runBody p bareFrame [countingCode]).work s = .done .normal u := by
    rw [runBody_singleton]
    exact hrun
  have hnode : walkNode p bareFrame 0 (.expr ⟨.start, .silent, "assert len(locals()) == 7", {}⟩)
      (bareStart.started [] 0, {}) = .done .normal (u, {}) := by
    rw [walkNode, if_pos rfl]
    unfold walkSilent
    rw [countingCode_read]
    dsimp only
    rw [liftM_eq_walked, Work.bind_done _ (Run.walked_done hs)]
    exact Run.walked_done hbody
  have hwalk : walkBody p bareFrame 0 (Indent.resolve countingTree).body
      (bareStart.started [] 0, {}) = .done .normal (u, {}) := by
    show walkBody p bareFrame 0 [.expr ⟨.start, .silent, "assert len(locals()) == 7", {}⟩] _ = _
    rw [walkBody, Work.bind_done _ hnode]
    dsimp only
    rw [walkBody]
    rfl
  have hmodule : (do
      let behind ← (enterModule 1 false : Run (Option Ref))
      walkBody p { globals := 1, behind } 0 (Indent.resolve countingTree).body : Walk Flow)
        (bareStart.started [] 0, {}) = .done .normal (u, {}) := by
    rw [liftM_eq_walked, Work.bind_done _ (Run.walked_done (enterModule_bare hbare))]
    exact hwalk
  refine ⟨(u, {}), ?_⟩
  unfold renderWalking
  rw [hannotates, liftM_eq_walked, Work.bind_done _ (Run.walked_done hstart)]
  show Work.bind (Work.attempt _) _ _ = _
  unfold Work.bind Work.attempt
  rw [hmodule]
  rfl

theorem program_counting {program : List Stmt} (h : build countingTree = .ok program) :
    program = programOf [noteLine .start, countingCode] := by
  obtain ⟨body, r, hbody, hprogram⟩ := build_ok h
  have hnodes : bodyStmts outputName
      [.expr ⟨.start, .silent, "assert len(locals()) == 7", {}⟩] {} = .ok (body, r) := hbody
  rw [bodyStmts] at hnodes
  obtain ⟨first, q, hfirst, hnodes⟩ := Build.of_bind hnodes
  obtain ⟨more, q', hmore, hnodes⟩ := Build.of_bind hnodes
  rw [bodyStmts] at hmore
  cases hmore
  cases hnodes
  rw [nodeStmts, if_pos rfl] at hfirst
  obtain ⟨-, ss, hss, rfl⟩ := silentStmts_ok hfirst
  rw [countingCode_read] at hss
  cases hss
  exact hprogram

/-- The program of the template finds one name more than the walk does. -/
theorem render_counting (rounds n : Nat) {c : CompiledTemplate}
    (hc : c.program = programOf [noteLine .start, countingCode]) (text : String) (s : State) :
    (renderWith (power rounds (n + 1)) c [] 0).work bareStart ≠ .done text s := by
  obtain ⟨hstart, hbare⟩ := bareStart_started
  have hspan : (bareStart.started [] 0).spanAt 1 = 2 := by
    obtain ⟨c, hheap⟩ := hbare.heap
    unfold State.spanAt World.dictionaryAt
    rw [hheap]
    show bareNames.span = 2
    rw [bareNames_eq]
    rfl
  have hput : Own.put outputName 2 (.pieces []) bareKept =
      bareKept ++ [⟨outputName, 2, .pieces []⟩] := rfl
  have hbuffer := @startBuffer_work bareFrame _ _ outputName (power rounds n) rfl hbare.kept
    ((isReserved_iff _).mpr (by decide))
  rw [show bareFrame.globals = 1 from rfl, hspan, hput] at hbuffer
  obtain ⟨v, hv, hbare'⟩ : ∃ v, ((startBuffer outputName).run (power rounds n) bareFrame).work
      (bareStart.started [] 0) = .done .normal v ∧
        v.IsBare (bareKept ++ [⟨outputName, 2, .pieces []⟩]) :=
    ⟨_, hbuffer, hbare.heap, State.ownOf_setOwn_self _ _ _⟩
  obtain ⟨t, ht, hbare''⟩ := noteLineIn_bare hbare' .start
  have hnote : ((noteLine .start).run (power rounds n) bareFrame).work v = .done .normal t := by
    rw [@noteLine_work bareFrame _ _ (power rounds n) rfl hbare'.kept 0 rfl, Run.work_done _ ht]
    rfl
  obtain ⟨u, hu⟩ := countNames_program (power rounds n) hbare''
  have hraise := countingCode_run (power rounds n) hu (eight_equal_seven _ u)
  rw [if_neg Bool.false_ne_true] at hraise
  have hbody : (runBody (power rounds n) bareFrame c.program).work
      (bareStart.started [] 0) = .raised (.of .assertion []) u := by
    rw [hc]
    unfold programOf
    rw [runBody_cons, Run.work_done _ hv]
    show (runBody (power rounds n) bareFrame (noteLine .start :: countingCode :: _)).work _ = _
    rw [runBody_cons, Run.work_done _ hnote]
    show (runBody (power rounds n) bareFrame (countingCode :: _)).work _ = _
    rw [runBody_cons, Run.work_bind, Work.bind_apply, hraise]
  have hannotates : bodyAnnotates c.program = false := by
    rw [hc]
    rfl
  have hmodule : (runModule (power rounds (n + 1)) 1 c.program).work
      (bareStart.started [] 0) = .raised (.of .assertion []) u := by
    unfold runModule
    rw [hannotates, Run.work_done _ (enterModule_bare hbare)]
    show (runBody (power rounds n) bareFrame c.program >>= _).work _ = _
    rw [Run.work_bind, Work.bind_apply, hbody]
  have hattempt : (Run.attempt (runModule (power rounds (n + 1)) 1 c.program)).work
      (bareStart.started [] 0) = .done (.error (.of .assertion [])) u := by
    show Work.attempt _ _ = _
    unfold Work.attempt
    rw [hmodule]
  unfold renderWith
  rw [Run.work_done _ hstart, Run.work_done _ hattempt]
  dsimp only
  rw [Run.work_bind, Work.bind_apply]
  cases (leavingRender c 0 1 (.of .assertion [])).work u <;>
    intro h <;> cases h

/-! ## §3. Programs and walks. -/

/-- **Compilation preserves meaning.**  The program of a tree and a walk over the resolved tree, from
the same state: the program gives the text that the walk gives, or raises the exception that the
walk raises, and leaves the same world behind, with all that the dictionary of the bindings has
become.  Nothing is said where the walk comes to what is locked away. -/
theorem renderWith_eq_walk (rounds n : Nat) {tree : Template Unit} {t : CompiledTemplate}
    (h : build tree = .ok t.program) {bindings : List (String × Value)}
    (hb : ∀ b ∈ bindings, isReserved b.1 = false) (context : Ref) (s : State) :
    (renderWalking (power rounds n) true (bodyAnnotates t.program) t (Indent.resolve tree) bindings
      context (s, {})).Matches (fun s w => s.world = w.1.world ∧ s.current = w.1.current)
      ((renderWith (power rounds (n + 1)) t bindings context).work s) := by
  refine (renderWith_matches_walk rounds n h hb context s).mono (fun s w hcovers => ?_)
  exact ⟨hcovers.world.symm, hcovers.current.symm⟩

/-- A loop with a pipe block in it that a clause leaves early. -/
def brokenLoop : Template Unit :=
  ⟨none, [.block ⟨.start, .silent, "for x in [1, 2, 3]:", ()⟩ [.mk .start "for x in [1, 2, 3]:"
    [.text ⟨1, 25⟩ "\n  ", .block ⟨⟨2, 2⟩, .pipe, "if x != 2:", ()⟩
      [.mk ⟨2, 2⟩ "if x != 2:" [.text ⟨2, 18⟩ "\n    ", .expr ⟨⟨3, 4⟩, .output, "x", ()⟩],
       .mk ⟨4, 2⟩ "else:" [.expr ⟨⟨4, 13⟩, .silent, "break", ()⟩]]]]]⟩

theorem renderWith_brokenLoop :
    ∃ t : CompiledTemplate, build brokenLoop = .ok t.program ∧
      (∀ b ∈ [("limit", Value.int 2)], isReserved b.1 = false) ∧
      (renderWalking (power maxRounds 984) true (bodyAnnotates t.program) t
        (Indent.resolve brokenLoop) [("limit", .int 2)] 0 (bareStart, {})).Matches
          (fun s w => s.world = w.1.world ∧ s.current = w.1.current)
        ((renderWith (power maxRounds 985) t [("limit", .int 2)] 0).work bareStart) := by
  obtain ⟨t, ht⟩ : ∃ t : CompiledTemplate, build brokenLoop = .ok t.program :=
    exists_template (by decide +kernel)
  have hbindings : ∀ b ∈ [("limit", Value.int 2)], isReserved b.1 = false := by
    intro b hmem
    obtain rfl := List.mem_singleton.mp hmem
    rw [← Bool.not_eq_true, isReserved_iff]
    decide
  exact ⟨t, ht, hbindings, renderWith_eq_walk maxRounds 984 ht hbindings 0 bareStart⟩

/-- Code that mentions no reserved name can tell a program from a walk that locks nothing away: where
it counts all names of the module, the walk gives a text, and the program none. -/
theorem renderWith_ne_openWalk :
    ∃ t : CompiledTemplate, build countingTree = .ok t.program ∧
      (∃ w, renderWalking (power maxRounds 984) false (bodyAnnotates t.program) t
        (Indent.resolve countingTree) [] 0 (bareStart, {}) = .done "" w) ∧
      ∀ text s, (renderWith (power maxRounds 985) t [] 0).work bareStart ≠ .done text s := by
  obtain ⟨t, ht⟩ : ∃ t : CompiledTemplate, build countingTree = .ok t.program :=
    exists_template (by decide +kernel)
  have hprogram := program_counting ht
  exact ⟨t, ht, walk_counting _ hprogram, render_counting maxRounds 984 hprogram⟩

end Inlay
