/-
  Inlay.Proofs.Wrapping
  ────────────────────────────────
  **EVERY INCLUDE CALL IS WRAPPED ONCE.**

  An include call is a call of the bare name.  Wrapping goes down the whole
  tree: every such call, also one among the arguments of another, comes to
  stand in a call that indents its text, and nothing else changes.  The
  wrappers can be taken off again, and a tree without include calls stays as
  it is, so wrapping a second time does nothing.

      wrapIncludes_eq      — what wrapping does at one expression
      wrapIncludes_exactly — wrapping concerns exactly the include calls
-/
import Inlay.Program.Include
import Inlay.Proofs.Parts

namespace Inlay.Code

/-! ## §1. Rewriting at one expression. -/

section Rewriting

variable (f : CallRewriter)

theorem rewriteExprs_eq_map : ∀ es : List Expr, rewriteExprs f es = es.map (Expr.rewriteCalls f)
  | [] => rfl
  | e :: es => by rw [rewriteExprs, rewriteExprs_eq_map es, List.map_cons]

theorem rewriteOption_eq_map (v : Option Expr) :
    rewriteOption f v = v.map (Expr.rewriteCalls f) := by
  cases v <;> rw [rewriteOption] <;> rfl

theorem rewriteItems_eq_map : ∀ items : List DictItem,
    rewriteItems f items = items.map (DictItem.mapExprs (Expr.rewriteCalls f))
  | [] => rfl
  | .entry key value :: rest => by
    rw [rewriteItems, rewriteItems_eq_map rest]
    rfl
  | .spread value :: rest => by
    rw [rewriteItems, rewriteItems_eq_map rest]
    rfl

theorem rewriteClauses_eq_map : ∀ clauses : List CompClause,
    rewriteClauses f clauses = clauses.map (CompClause.mapExprs (Expr.rewriteCalls f))
  | [] => rfl
  | .mk isAsync target iter conditions :: rest => by
    rw [rewriteClauses, rewriteClauses_eq_map rest, rewriteExprs_eq_map]
    rfl

theorem rewriteLinks_eq_map : ∀ links : List CompareLink,
    rewriteLinks f links = links.map (CompareLink.mapExprs (Expr.rewriteCalls f))
  | [] => rfl
  | .mk op right :: rest => by
    rw [rewriteLinks, rewriteLinks_eq_map rest]
    rfl

theorem rewriteKeywords_eq_map : ∀ keywords : List Keyword,
    rewriteKeywords f keywords = keywords.map (Keyword.mapExprs (Expr.rewriteCalls f))
  | [] => rfl
  | .mk name value :: rest => by
    rw [rewriteKeywords, rewriteKeywords_eq_map rest]
    rfl

theorem rewriteParams_eq_map : ∀ params : List Param,
    rewriteParams f params = params.map (Param.mapExprs (Expr.rewriteCalls f))
  | [] => rfl
  | .mk kind name hint default :: rest => by
    rw [rewriteParams, rewriteParams_eq_map rest, rewriteOption_eq_map, rewriteOption_eq_map]
    rfl

theorem rewriteCalls_call (func : Expr) (args : List Expr) (keywords : List Keyword) :
    (Expr.call func args keywords).rewriteCalls f
      = f (func.rewriteCalls f) (args.map (Expr.rewriteCalls f))
        (keywords.map (Keyword.mapExprs (Expr.rewriteCalls f))) := by
  rw [Expr.rewriteCalls, rewriteExprs_eq_map, rewriteKeywords_eq_map]

/-- **An expression is rewritten in its parts**, unless it is a call that the rewriter changes. -/
theorem rewriteCalls_eq_mapParts {f : CallRewriter} {e : Expr}
    (h : ∀ func args keywords, e.mapParts (Expr.rewriteCalls f) = .call func args keywords →
      f func args keywords = .call func args keywords) :
    e.rewriteCalls f = e.mapParts (Expr.rewriteCalls f) := by
  cases e
  case call func args keywords =>
    rw [rewriteCalls_call]
    exact h _ _ _ rfl
  all_goals
    simp only [Expr.rewriteCalls, Expr.mapParts, rewriteExprs_eq_map, rewriteOption_eq_map,
      rewriteItems_eq_map, rewriteClauses_eq_map, rewriteLinks_eq_map, rewriteParams_eq_map]

end Rewriting

end Inlay.Code

namespace Inlay.Program

open Inlay.Code

/-! ## §2. Include calls. -/

/-- Is the expression a call of the bare name by which authors include? -/
def isIncludeCall : Expr → Bool
  | .call func _ _ => isIncludeName func
  | _ => false

theorem eq_of_isIncludeName {e : Expr} (h : isIncludeName e = true) : e = .name includeWord := by
  cases e
  case name id => exact congrArg Expr.name (eq_of_beq h)
  all_goals cases h

theorem exists_of_isIncludeCall {e : Expr} (h : isIncludeCall e = true) :
    ∃ args keywords, e = .call (.name includeWord) args keywords := by
  cases e
  case call func args keywords => exact ⟨args, keywords, by rw [eq_of_isIncludeName h]⟩
  all_goals cases h

section Wrapping

variable {i : String} {e x : Expr}

/-- An include call becomes one call around another: the inner one includes, with the arguments
that were given, themselves wrapped, and the outer one indents. -/
theorem wrapIncludes_include (i : String) (args : List Expr) (keywords : List Keyword) :
    wrapIncludes i (.call (.name includeWord) args keywords)
      = .call (.name reindentName)
        [.call (.name includeName) (args.map (wrapIncludes i))
          (keywords.map (Keyword.mapExprs (wrapIncludes i))), textConstant i] [] := by
  show Expr.rewriteCalls (wrapInclude i) _ = _
  rw [rewriteCalls_call]
  rfl

/-- A name comes from a name. -/
theorem isIncludeName_wrapIncludes (i : String) (e : Expr) :
    isIncludeName (wrapIncludes i e) = isIncludeName e := by
  unfold wrapIncludes
  cases e
  case call func args keywords =>
    rw [rewriteCalls_call]
    unfold wrapInclude
    split <;> rfl
  all_goals rfl

theorem isIncludeCall_mapParts (i : String) (e : Expr) :
    isIncludeCall (e.mapParts (wrapIncludes i)) = isIncludeCall e := by
  cases e
  case call func args keywords => exact isIncludeName_wrapIncludes i func
  all_goals rfl

/-- Any other expression keeps everything but its parts. -/
theorem wrapIncludes_other (h : isIncludeCall e = false) :
    wrapIncludes i e = e.mapParts (wrapIncludes i) := by
  refine rewriteCalls_eq_mapParts fun func args keywords hcall => ?_
  have hfunc : isIncludeName func = false := by
    rw [← isIncludeCall_mapParts i e] at h
    rw [show e.mapParts (wrapIncludes i) = .call func args keywords from hcall] at h
    exact h
  unfold wrapInclude
  rw [hfunc]
  rfl

/-! ## §3. What is left. -/

theorem eq_of_within_name {id : String} (h : Within x (.name id)) : x = .name id := by
  cases h with
  | self => rfl
  | part hy _ => cases hy

theorem eq_of_within_constant {c : Constant} (h : Within x (.constant c)) : x = .constant c := by
  cases h with
  | self => rfl
  | part hy _ => cases hy

theorem children_call (func : Expr) (args : List Expr) (keywords : List Keyword) :
    (Expr.call func args keywords).children = func :: (args ++ keywordExprs keywords) := by
  unfold Expr.children
  rw [Expr.parts, List.map_append, map_expr_direct, map_expr_jointed, List.cons_append]

/-- Nothing in the inner call is an include call if nothing in the wrapped arguments is. -/
theorem isIncludeCall_of_within_inner {args : List Expr} {keywords : List Keyword}
    (h : ∀ z ∈ (Expr.call (.name includeWord) args keywords).children,
      ∀ x, Within x (wrapIncludes i z) → isIncludeCall x = false)
    (hx : Within x (.call (.name includeName) (args.map (wrapIncludes i))
      (keywords.map (Keyword.mapExprs (wrapIncludes i))))) : isIncludeCall x = false := by
  cases hx with
  | self => rfl
  | part hy hx =>
    rw [children_call, keywordExprs_mapExprs, ← List.map_append] at hy
    rcases List.mem_cons.1 hy with rfl | hy
    · rw [eq_of_within_name hx]
      rfl
    · obtain ⟨z, hz, rfl⟩ := List.mem_map.1 hy
      refine h z ?_ x hx
      rw [children_call]
      exact List.mem_cons_of_mem _ hz

/-- **No include call is left**, at any depth. -/
theorem isIncludeCall_of_within (i : String) (e : Expr) :
    ∀ x, Within x (wrapIncludes i e) → isIncludeCall x = false := by
  -- by induction along the parts: what is new are two calls, none of them of the bare name
  induction e using children_induction with
  | h e ih =>
    intro x hx
    cases hcall : isIncludeCall e with
    | false =>
      rw [wrapIncludes_other hcall] at hx
      cases hx with
      | self => rw [isIncludeCall_mapParts, hcall]
      | part hy hx =>
        rw [children_mapParts] at hy
        obtain ⟨z, hz, rfl⟩ := List.mem_map.1 hy
        exact ih z hz x hx
    | true =>
      obtain ⟨args, keywords, rfl⟩ := exists_of_isIncludeCall hcall
      rw [wrapIncludes_include] at hx
      cases hx with
      | self => rfl
      | part hy hx =>
        rw [children_call] at hy
        rcases List.mem_cons.1 hy with rfl | hy
        · rw [eq_of_within_name hx]
          rfl
        · rcases List.mem_cons.1 hy with rfl | hy
          · exact isIncludeCall_of_within_inner ih hx
          · obtain rfl := List.mem_singleton.1 hy
            rw [eq_of_within_constant hx]
            rfl

/-- Without include calls there is nothing to wrap. -/
theorem wrapIncludes_eq_self (i : String) (e : Expr)
    (h : ∀ x, Within x e → isIncludeCall x = false) : wrapIncludes i e = e := by
  induction e using children_induction with
  | h e ih =>
    rw [wrapIncludes_other (h e .self)]
    exact mapParts_eq_self fun y hy => ih y hy fun x hx => h x (.part hy hx)

/-! ## §4. Taking the wrappers off. -/

/-- The include call that a call wraps. -/
def wrapped? : Expr → List Expr → List Keyword → Option Expr
  | .name outer, [.call (.name inner) args keywords, .constant (.text _ _)], [] =>
    if outer = reindentName ∧ inner = includeName then
      some (.call (.name includeWord) args keywords)
    else none
  | _, _, _ => none

/-- A call, or the include call that it wraps. -/
def unwrapInclude : CallRewriter := fun func args keywords =>
  (wrapped? func args keywords).getD (.call func args keywords)

/-- An expression with its include calls unwrapped. -/
def unwrapIncludes (e : Expr) : Expr := e.rewriteCalls unwrapInclude

/-- A statement with its include calls unwrapped. -/
def unwrapIncludesIn (s : Stmt) : Stmt := s.rewriteCalls unwrapInclude

/-- Only a call of the helper that indents is unwrapped. -/
theorem unwrapInclude_of_ne {func : Expr} (h : func ≠ .name reindentName) (args : List Expr)
    (keywords : List Keyword) : unwrapInclude func args keywords = .call func args keywords := by
  have hnone : wrapped? func args keywords = none := by
    unfold wrapped?
    split
    · rename_i outer inner args' keywords' s marked
      rw [if_neg]
      rintro ⟨rfl, -⟩
      exact h rfl
    · rfl
  unfold unwrapInclude
  rw [hnone]
  rfl

/-- **Unwrapping gives back what was wrapped**, if the helper that indents was not mentioned. -/
theorem unwrapIncludes_wrapIncludes (i : String) (e : Expr)
    (h : ∀ id, Within (.name id) e → id ≠ reindentName) :
    unwrapIncludes (wrapIncludes i e) = e := by
  induction e using children_induction with
  | h e ih =>
    have hparts : ∀ y ∈ e.children, unwrapIncludes (wrapIncludes i y) = y :=
      fun y hy => ih y hy fun id hid => h id (.part hy hid)
    cases hcall : isIncludeCall e with
    | false =>
      have hback : (e.mapParts (wrapIncludes i)).mapParts unwrapIncludes = e := by
        rw [mapParts_mapParts]
        exact mapParts_eq_self hparts
      rw [wrapIncludes_other hcall]
      refine (rewriteCalls_eq_mapParts fun func args keywords hfound => ?_).trans hback
      -- the calls that are left are those of the expression
      have heq : e = .call func args keywords := hback.symm.trans hfound
      refine unwrapInclude_of_ne ?_ args keywords
      rintro rfl
      refine h reindentName ?_ rfl
      rw [heq]
      refine .part ?_ .self
      rw [children_call]
      exact List.mem_cons_self
    | true =>
      obtain ⟨args, keywords, rfl⟩ := exists_of_isIncludeCall hcall
      rw [children_call, List.forall_mem_cons, List.forall_mem_append] at hparts
      have hinner : unwrapIncludes (.call (.name includeName) (args.map (wrapIncludes i))
          (keywords.map (Keyword.mapExprs (wrapIncludes i))))
          = .call (.name includeName) args keywords := by
        have hne : Expr.name includeName ≠ .name reindentName :=
          fun heq => absurd (Expr.name.inj heq) (by decide)
        show Expr.rewriteCalls unwrapInclude _ = _
        rw [rewriteCalls_call, List.map_map, List.map_map, Keyword.mapExprs_comp]
        show unwrapInclude (.name includeName) (args.map (unwrapIncludes ∘ wrapIncludes i))
          (keywords.map (Keyword.mapExprs (unwrapIncludes ∘ wrapIncludes i))) = _
        have hargs : args.map (unwrapIncludes ∘ wrapIncludes i) = args :=
          map_list_eq_self hparts.2.1
        have hkeywords : keywords.map (Keyword.mapExprs (unwrapIncludes ∘ wrapIncludes i))
            = keywords := map_keywords_eq_self hparts.2.2
        rw [unwrapInclude_of_ne hne, hargs, hkeywords]
      rw [wrapIncludes_include]
      show unwrapInclude (.name reindentName) [unwrapIncludes _, textConstant i] [] = _
      rw [hinner]
      rfl

/-! ## §5. The whole. -/

/-- Nothing of a statement but its expressions. -/
def frame (s : Stmt) : Stmt := s.mapExprs fun _ => .constant .none

/-- What wrapping does to an expression. -/
structure IsWrapped (i : String) (e : Expr) : Prop where
  /-- No include call is left. -/
  clean : ∀ x, Within x (wrapIncludes i e) → isIncludeCall x = false
  /-- An include call comes to stand in two calls, with its own arguments wrapped. -/
  included : ∀ args keywords, e = .call (.name includeWord) args keywords →
    wrapIncludes i e = .call (.name reindentName)
      [.call (.name includeName) (args.map (wrapIncludes i))
        (keywords.map (Keyword.mapExprs (wrapIncludes i))), textConstant i] []
  /-- Any other expression only has its parts wrapped. -/
  other : isIncludeCall e = false → wrapIncludes i e = e.mapParts (wrapIncludes i)
  /-- The wrappers can be taken off again. -/
  back : (∀ id, Within (.name id) e → id ≠ reindentName ∧ id ≠ includeName) →
    unwrapIncludes (wrapIncludes i e) = e
  /-- A second time there is nothing to wrap. -/
  again : ∀ j, wrapIncludes j (wrapIncludes i e) = wrapIncludes i e

/-- What wrapping does to a statement: all expressions in it are wrapped, those of patterns and
bodies as well, and the rest stays. -/
structure IsWrappedIn (i : String) (s : Stmt) : Prop where
  clean : ∀ e ∈ (wrapIncludesIn i s).expressions, ∀ x, Within x e → isIncludeCall x = false
  expressions : (wrapIncludesIn i s).expressions = s.expressions.map (wrapIncludes i)
  rest : frame (wrapIncludesIn i s) = frame s
  back : (∀ e ∈ s.expressions, ∀ id, Within (.name id) e → id ≠ reindentName ∧ id ≠ includeName) →
    unwrapIncludesIn (wrapIncludesIn i s) = s
  again : ∀ j, wrapIncludesIn j (wrapIncludesIn i s) = wrapIncludesIn i s

theorem isWrapped (i : String) (e : Expr) : IsWrapped i e where
  clean := isIncludeCall_of_within i e
  included := by
    rintro args keywords rfl
    exact wrapIncludes_include i args keywords
  other := wrapIncludes_other
  back h := unwrapIncludes_wrapIncludes i e fun id hid => (h id hid).1
  again j := wrapIncludes_eq_self j _ (isIncludeCall_of_within i e)

theorem isWrappedIn (i : String) (s : Stmt) : IsWrappedIn i s := by
  have hexpressions : (wrapIncludesIn i s).expressions = s.expressions.map (wrapIncludes i) :=
    Stmt.expressions_mapExprs _ s
  have hclean : ∀ e ∈ (wrapIncludesIn i s).expressions, ∀ x, Within x e →
      isIncludeCall x = false := by
    rw [hexpressions, List.forall_mem_map]
    exact fun e _ => isIncludeCall_of_within i e
  refine ⟨hclean, hexpressions, Stmt.mapExprs_mapExprs _ _ s, fun h => ?_, fun j => ?_⟩
  · show (s.mapExprs (wrapIncludes i)).mapExprs unwrapIncludes = s
    rw [Stmt.mapExprs_mapExprs]
    refine Stmt.mapExprs_eq_self s fun e he => ?_
    exact unwrapIncludes_wrapIncludes i e fun id hid => (h e he id hid).1
  · exact Stmt.mapExprs_eq_self _ fun e he => wrapIncludes_eq_self j e (hclean e he)

/-- **Wrapping concerns exactly the include calls**, in every expression and every statement. -/
theorem wrapIncludes_exactly (i : String) :
    (∀ e : Expr, IsWrapped i e) ∧ ∀ s : Stmt, IsWrappedIn i s :=
  ⟨isWrapped i, isWrappedIn i⟩

/-- The call of a helper with one argument. -/
private def including (helper : String) (e : Expr) : Expr := .call (.name helper) [e] []

/-- An include of an include: each gets a wrapper of its own, and both come off again. -/
theorem wrapIncludes_exactly_nested :
    wrapIncludes "  " (including includeWord (including includeWord (textConstant "a")))
        = .call (.name reindentName)
          [including includeName (.call (.name reindentName)
            [including includeName (textConstant "a"), textConstant "  "] []),
            textConstant "  "] []
      ∧ unwrapIncludes (wrapIncludes "  "
          (including includeWord (including includeWord (textConstant "a"))))
        = including includeWord (including includeWord (textConstant "a")) := by
  have hname : ∀ (e : Expr) (id : String), Within (.name id) (including includeWord e) →
      id = includeWord ∨ Within (.name id) e := by
    intro e id hid
    cases hid with
    | part hy hx =>
      unfold including at hy
      rw [children_call] at hy
      rcases List.mem_cons.1 hy with rfl | hy
      · exact Or.inl (Expr.name.inj (eq_of_within_name hx))
      · obtain rfl := List.mem_singleton.1 hy
        exact Or.inr hx
  refine ⟨rfl, ((wrapIncludes_exactly "  ").1 _).back fun id hid => ?_⟩
  have hword : id = includeWord := by
    rcases hname _ id hid with hword | hid
    · exact hword
    · rcases hname _ id hid with hword | hid
      · exact hword
      · cases eq_of_within_constant hid
  rw [hword]
  decide

end Wrapping

end Inlay.Program
