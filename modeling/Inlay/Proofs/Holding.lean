/-
  Inlay.Proofs.Holding
  ────────────────────────────────
  **WHAT A PROGRAM DOES WITH ITS OWN NAMES.**

  The statements that a program consists of, apart from embedded code, read
  and change what is held under its reserved names, and nothing else.  Here
  each of them is run on a state whose reserved names are known.
-/
import Inlay.Eval.Statement
import Inlay.Program.Build
import Inlay.Proofs.Following
import Std.Data.String.ToNat

namespace Inlay

open Inlay.Code Inlay.Program

/-! ## §1. Names. -/

theorem bufferName_injective {i j : Nat} (h : bufferName i = bufferName j) : i = j := by
  unfold bufferName at h
  exact Nat.repr_injective (String.append_right_inj _ |>.mp h)

theorem isReserved_iff (name : String) :
    isReserved name = true ↔ reservedStart.toList <+: name.toList := by
  unfold isReserved
  exact String.startsWith_string_iff

theorem isReserved_bufferName (i : Nat) : isReserved (bufferName i) = true := by
  rw [isReserved_iff]
  unfold bufferName
  rw [String.toList_append]
  exact List.IsPrefix.trans (by decide) (List.prefix_append _ _)

/-- Is a name one of a list of output? -/
def IsBuffer (name : String) : Prop := name = outputName ∨ ∃ i, name = bufferName i

theorem IsBuffer.isReserved {name : String} (h : IsBuffer name) : isReserved name = true := by
  rcases h with rfl | ⟨i, rfl⟩
  · exact (isReserved_iff _).mpr (by decide)
  · exact isReserved_bufferName i

/-- Are two names different by their first characters? -/
theorem ne_bufferName {name : String} (h : ¬ "_snug_buf".toList <+: name.toList) (i : Nat) :
    name ≠ bufferName i := by
  rintro rfl
  unfold bufferName at h
  rw [String.toList_append] at h
  exact h (List.prefix_append _ _)

theorem mem_toolNames {context globals : Ref} {name : String} {v : Value}
    (h : (toolBindings context globals).lookup name = some v) :
    name ∈ [textName, realignName, reindentName, includeName, contextName] := by
  obtain ⟨l₁, l₂, hl, -⟩ := List.lookup_eq_some_iff.mp h
  have hm : (name, v) ∈ toolBindings context globals := by
    rw [hl]
    simp
  have hn := List.mem_map_of_mem (f := Prod.fst) hm
  simpa [toolBindings] using hn

/-- The names of the tools of a program are no names of lists of output. -/
theorem tool_ne_buffer {context globals : Ref} {name : String} {v : Value}
    (h : (toolBindings context globals).lookup name = some v) {b : String} (hb : IsBuffer b) :
    name ≠ b := by
  have hall : ∀ n ∈ [textName, realignName, reindentName, includeName, contextName],
      n ≠ outputName ∧ ¬ "_snug_buf".toList <+: n.toList := by decide
  obtain ⟨hout, hbuf⟩ := hall name (mem_toolNames h)
  rcases hb with rfl | ⟨i, rfl⟩
  · exact hout
  · exact ne_bufferName hbuf i

theorem tool_ne_result {context globals : Ref} {name : String} {v : Value}
    (h : (toolBindings context globals).lookup name = some v) : name ≠ resultName := by
  have hall : ∀ n ∈ [textName, realignName, reindentName, includeName, contextName],
      n ≠ resultName := by decide
  exact hall name (mem_toolNames h)

/-! ## §2. Reading and writing names. -/

section Names

variable {fr : Frame} {s : State} {ks : List Kept} {name : String}

theorem home_work (hfr : fr.scopes = []) (name : String) :
    (Run.ask (·.home name fr.scopes)).work s = .done .module s := by
  rw [hfr]
  rfl

theorem readInModule_work (hks : s.ownOf fr.globals = .kept ks) (hname : isReserved name = true)
    {v : Value} (hv : Own.find? name ks = some (.value v)) :
    (readInModule fr.globals name).work s = .done (some v) s := by
  unfold readInModule
  rw [hname, if_pos rfl, Run.work_done _ (Run.heldAt_kept hks name), hv]
  rfl

/-- A reserved name that nothing is held under is looked up in the dictionary. -/
theorem readInModule_none_work (hks : s.ownOf fr.globals = .kept ks)
    (hname : isReserved name = true) (hnone : Own.find? name ks = none) :
    (readInModule fr.globals name).work s =
      (Run.ask (fun w => (w.dictionaryAt fr.globals).named? name)).work s := by
  unfold readInModule
  rw [hname, if_pos rfl, Run.work_done _ (Run.heldAt_kept hks name), hnone]

theorem readName_work (hfr : fr.scopes = []) (hks : s.ownOf fr.globals = .kept ks)
    (hname : isReserved name = true) {v : Value} (hv : Own.find? name ks = some (.value v)) :
    (readName fr name).work s = .done v s := by
  unfold readName
  rw [Run.work_done _ (home_work hfr name)]
  show (readInModule fr.globals name >>= _).work s = _
  rw [Run.work_done _ (readInModule_work hks hname hv)]
  rfl

/-- The number of places in the dictionary of a module. -/
def State.spanAt (s : State) (r : Ref) : Nat := (s.world.dictionaryAt r).span

theorem keepName_work (hks : s.ownOf fr.globals = .kept ks) (h : Held) :
    (keepName fr.globals name h).work s =
      .done true (s.setOwn fr.globals (.kept (Own.put name (s.spanAt fr.globals) h ks))) := by
  unfold keepName
  rw [Run.work_bind, Work.bind_done _ (by rfl)]
  exact Run.changeOwn_done _ hks (State.isFixed_of_kept hks)

theorem writeName_work (hfr : fr.scopes = []) (hks : s.ownOf fr.globals = .kept ks)
    (hname : isReserved name = true) (v : Value) :
    (writeName fr name v).work s =
      .done () (s.setOwn fr.globals (.kept (Own.put name (s.spanAt fr.globals) (.value v) ks))) := by
  unfold writeName
  rw [Run.work_done _ (home_work hfr name)]
  show (writeInModule fr.globals name v).work s = _
  unfold writeInModule
  rw [hname, if_pos rfl, Run.work_done _ (keepName_work hks (.value v))]
  rfl

end Names

/-! ## §3. Lists of output. -/

section Lists

variable {fr : Frame} {s : State} {ks : List Kept} {b : String}

theorem piecesOf_work (hfr : fr.scopes = []) (hks : s.ownOf fr.globals = .kept ks)
    (hb : isReserved b = true) {items : List Value}
    (hitems : Own.find? b ks = some (.pieces items)) :
    (fr.piecesOf b).work s = .done (some items) s := by
  unfold Frame.piecesOf
  rw [hb, if_pos rfl, Run.work_done _ (home_work hfr b)]
  show (Inlay.piecesOf fr.globals b).work s = _
  unfold Inlay.piecesOf
  rw [Run.work_done _ (Run.heldAt_kept hks b), hitems]
  rfl

theorem pushPiece_work (hks : s.ownOf fr.globals = .kept ks) {items : List Value}
    (hitems : Own.find? b ks = some (.pieces items)) (v : Value) :
    (pushPiece fr.globals b v).work s =
      .done () (s.setOwn fr.globals (.kept (Own.put b 0 (.pieces (v :: items)) ks))) := by
  unfold pushPiece
  rw [Run.work_done _ (Run.changeOwn_done _ hks (State.isFixed_of_kept hks))]
  simp only [hitems]
  rfl

theorem run_expression (p : Power) (e : Expr) :
    (Stmt.expression e).run p fr = do
      let _ ← e.eval p fr
      return .normal := by
  unfold Stmt.run
  rw [Stmt.runWith] <;> simp
  rfl

theorem run_assign (p : Power) (targets : List Expr) (value : Expr) :
    (Stmt.assign targets value).run p fr = do
      if ← startsList fr targets value then return .normal
      let v ← value.eval p fr
      targets.forM (fun t => t.bindTo p fr v)
      return .normal := by
  unfold Stmt.run
  rw [Stmt.runWith] <;> simp
  rfl

theorem forM_one (t : Expr) (f : Expr → Run Unit) : [t].forM f = f t :=
  bind_pure (m := Run) (f t)

theorem startBuffer_work (p : Power) (hfr : fr.scopes = []) (hks : s.ownOf fr.globals = .kept ks)
    (hb : isReserved b = true) :
    ((startBuffer b).run p fr).work s =
      .done .normal
        (s.setOwn fr.globals (.kept (Own.put b (s.spanAt fr.globals) (.pieces []) ks))) := by
  have hstart : startsList fr [.name b] (.list []) = keepName fr.globals b (.pieces []) := by
    unfold startsList
    simp [hb, hfr]
  unfold startBuffer
  rw [run_assign, hstart, Run.work_done _ (keepName_work hks (.pieces []))]
  rfl

/-! ## §4. Calls. -/

theorem callOf_ne_starred (f : Expr) (args : List Expr) (inner : Expr) :
    callOf f args ≠ .starred inner := by
  unfold callOf
  exact Expr.noConfusion

theorem realigned_ne_starred (text : Expr) (baseline indentation : String) (trims : Bool)
    (inner : Expr) : realigned text baseline indentation trims ≠ .starred inner :=
  callOf_ne_starred _ _ inner

theorem evalArguments_one (p : Power) (callee : Value) (only : Bool) {e : Expr}
    (he : ∀ inner, e ≠ .starred inner) :
    evalArguments p fr callee only [e] = do return [← e.eval p fr] := by
  rw [evalArguments]
  · simp
  · simpa using he

theorem listCall_append {e : Expr} (he : ∀ inner, e ≠ .starred inner) :
    listCall? fr (.attribute (.name b) "append") [e] [] = do
      return (← fr.piecesOf b).map (fun _ => .append b) := by
  cases e with
  | starred inner => exact absurd rfl (he inner)
  | _ => rfl

theorem listCall_append_work (hfr : fr.scopes = []) (hks : s.ownOf fr.globals = .kept ks)
    (hb : isReserved b = true) {items : List Value}
    (hitems : Own.find? b ks = some (.pieces items)) {e : Expr}
    (he : ∀ inner, e ≠ .starred inner) :
    (listCall? fr (.attribute (.name b) "append") [e] []).work s = .done (some (.append b)) s := by
  rw [listCall_append he, Run.work_done _ (piecesOf_work hfr hks hb hitems)]
  rfl

/-- Appending to a list of output: the value is computed, and then the list grows. -/
theorem appendTo_work (p : Power) (hfr : fr.scopes = []) (hks : s.ownOf fr.globals = .kept ks)
    (hb : isReserved b = true) {items : List Value}
    (hitems : Own.find? b ks = some (.pieces items)) {e : Expr}
    (he : ∀ inner, e ≠ .starred inner) :
    ((appendTo b e).run p fr).work s =
      (do
        let v ← e.eval p fr
        pushPiece fr.globals b v
        return Flow.normal : Run Flow).work s := by
  unfold appendTo callOf
  rw [run_expression, Expr.eval]
  rw [bind_assoc, Run.work_done _ (listCall_append_work hfr hks hb hitems he)]
  simp [evalArguments_one p _ _ he]

theorem textItems_texts (index : Nat) (texts : List String) :
    textItems index (texts.map Value.text) = Pure.pure texts := by
  induction texts generalizing index with
  | nil => rfl
  | cons t texts ih =>
    rw [List.map_cons, textItems, ih, pure_bind]

/-- Joining a list of output that holds texts. -/
theorem joined_work (p : Power) (hfr : fr.scopes = []) (hks : s.ownOf fr.globals = .kept ks)
    (hb : isReserved b = true) {texts : List String}
    (hitems : Own.find? b ks = some (.pieces (texts.map Value.text))) :
    ((joined b).eval p fr).work s = .done (.text ("".intercalate texts.reverse)) s := by
  have hcall : (listCall? fr (.attribute (textConstant "") "join") [.name b] []).work s =
      .done (some (.join (texts.reverse.map Value.text))) s := by
    have hjoin : listCall? fr (.attribute (textConstant "") "join") [.name b] [] = do
        return (← fr.piecesOf b).map (fun items => .join items.reverse) := rfl
    rw [hjoin, Run.work_done _ (piecesOf_work hfr hks hb hitems), List.map_reverse]
    rfl
  unfold joined callOf
  rw [Expr.eval, Run.work_done _ hcall]
  dsimp only
  rw [textItems_texts]
  rfl

theorem textKeywords_empty : textKeywords .empty = Pure.pure [] := by
  unfold textKeywords
  rw [if_pos]
  · rfl
  · rfl

/-- A call of a tool by its reserved name. -/
theorem tool_work (p : Power) (hfr : fr.scopes = []) (hks : s.ownOf fr.globals = .kept ks)
    {name : String} (hname : isReserved name = true) {f : Value}
    (hf : Own.find? name ks = some (.value f)) (args : List Expr) :
    ((callOf (.name name) args).eval p fr).work s =
      (do
        let values ← evalArguments p fr f (args.length == 1) args
        f.callFrom p (some fr) values []).work s := by
  have hcall : (listCall? fr (.name name) args []).work s = .done none s := by
    unfold listCall?
    rfl
  unfold callOf
  rw [Expr.eval, Run.work_done _ hcall]
  dsimp only
  rw [Expr.eval_name, Run.work_done _ (readName_work hfr hks hname hf)]
  simp [evalKeywords, textKeywords_empty]

/-- The text of a value. -/
theorem textOf_work (p : Power) (hfr : fr.scopes = []) (hks : s.ownOf fr.globals = .kept ks)
    (htext : Own.find? textName ks = some (.value (.builtin .outputText))) {e : Expr}
    (he : ∀ inner, e ≠ .starred inner) :
    ((callOf (.name textName) [e]).eval p fr).work s =
      (do
        let v ← e.eval p fr
        let text ← v.outputText
        return Value.text text : Run Value).work s := by
  rw [tool_work p hfr hks ((isReserved_iff _).mpr (by decide)) htext, evalArguments_one p _ _ he,
    bind_assoc]
  rfl

/-- A text put in its place. -/
theorem realigned_work (p : Power) (hfr : fr.scopes = []) (hks : s.ownOf fr.globals = .kept ks)
    (hrealign : Own.find? realignName ks = some (.value (.builtin .realign))) {e : Expr}
    (he : ∀ inner, e ≠ .starred inner) {x : Run String}
    (hx : (e.eval p fr).work s = (Value.text <$> x).work s) (baseline indentation : String)
    (trims : Bool) :
    ((realigned e baseline indentation trims).eval p fr).work s =
      (do
        let text ← x
        return Value.text (String.ofList (Indent.realignBlock baseline.toList indentation.toList
          trims text.toList)) : Run Value).work s := by
  have hargs : evalArguments p fr (.builtin .realign) false
      [e, textConstant baseline, textConstant indentation, boolConstant trims] = do
        let v ← e.eval p fr
        return [v, .text baseline, .text indentation, .bool trims] := by
    have hconstants : evalArguments p fr (.builtin .realign) false
        [textConstant baseline, textConstant indentation, boolConstant trims] =
          Pure.pure [.text baseline, .text indentation, .bool trims] := by
      cases trims <;>
        simp [evalArguments, textConstant, boolConstant, Constant.value]
    rw [evalArguments]
    · rw [hconstants]
      simp only [pure_bind]
    · simpa using he
  unfold realigned
  rw [tool_work p hfr hks ((isReserved_iff _).mpr (by decide)) hrealign]
  show (evalArguments p fr (.builtin .realign) false _ >>= _).work s = _
  rw [hargs, bind_assoc, Run.work_congr _ hx, map_eq_pure_bind, bind_assoc]
  rfl

theorem wholeCode_eval (p : Power) (n : Int) :
    (wholeCode n).eval p fr = Pure.pure (.int n) := by
  unfold wholeCode
  split
  · rename_i hn
    have hneg : -((n.natAbs : Nat) : Int) = n := by omega
    rw [Expr.eval, Expr.eval_constant]
    show (Pure.pure (Value.int n.natAbs) : Run Value) >>= _ = _
    rw [pure_bind]
    show (Pure.pure (Value.int (-((n.natAbs : Nat) : Int))) : Run Value) = _
    rw [hneg]
  · rename_i hn
    have hpos : ((n.natAbs : Nat) : Int) = n := by omega
    rw [Expr.eval_constant]
    show (Pure.pure (Value.int n.natAbs) : Run Value) = _
    rw [hpos]

/-- Noting a line. -/
theorem noteLine_work (p : Power) (hfr : fr.scopes = []) (hks : s.ownOf fr.globals = .kept ks)
    {context : Ref} (hcontext : Own.find? contextName ks = some (.value (.ref context)))
    (pos : Position) :
    ((noteLine pos).run p fr).work s =
      (do
        noteLineIn context pos
        return Flow.normal : Run Flow).work s := by
  have hread := readName_work hfr hks ((isReserved_iff _).mpr (by decide)) hcontext
  have hstart : ∀ e, startsList fr [.attribute (.name contextName) "line"] e = Pure.pure false :=
    fun e => rfl
  unfold noteLine
  rw [run_assign, hstart, wholeCode_eval]
  simp only [pure_bind, Bool.false_eq_true, if_false]
  rw [forM_one, Expr.bindTo, Expr.eval_name, bind_assoc, Run.work_done _ hread]
  rfl

end Lists

end Inlay
