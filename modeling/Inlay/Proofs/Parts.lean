/-
  Inlay.Proofs.Parts
  ────────────────────────────────
  **EXPRESSIONS AND WHAT STANDS BELOW THEM.**

  `mapParts f` replaces the expressions right below an expression and keeps
  everything else: operators, names, constants, and the order of the parts.
  Whatever goes down a whole tree is described by what it does at one
  expression and by `mapParts` for the rest.

      children_mapParts   — the parts of the result are the results of the parts
      mapParts_congr   — functions that agree on the parts do the same
      children_induction  — what holds of an expression if it holds of its parts
                         holds of all
      Within           — one expression stands in another, at any depth
-/
import Inlay.Code.Calls
import Inlay.Code.Depth

namespace Inlay.Code

/-! ## §1. Other parts. -/

/-- An item of a dictionary with other expressions. -/
def DictItem.mapExprs (f : Expr → Expr) : DictItem → DictItem
  | .entry key value => .entry (f key) (f value)
  | .spread value => .spread (f value)

/-- A clause of a comprehension with other expressions. -/
def CompClause.mapExprs (f : Expr → Expr) : CompClause → CompClause
  | .mk isAsync target iter conditions => .mk isAsync (f target) (f iter) (conditions.map f)

/-- A comparison with something else to the right. -/
def CompareLink.mapExprs (f : Expr → Expr) : CompareLink → CompareLink
  | .mk op right => .mk op (f right)

/-- The expression with others in the place of those right below it. -/
def Expr.mapParts (f : Expr → Expr) : Expr → Expr
  | .constant c => .constant c
  | .name id => .name id
  | .boolean op operands => .boolean op (operands.map f)
  | .walrus target value => .walrus target (f value)
  | .binary op left right => .binary op (f left) (f right)
  | .unary op operand => .unary op (f operand)
  | .lambda params body => .lambda (params.map (Param.mapExprs f)) (f body)
  | .conditional test body orelse => .conditional (f test) (f body) (f orelse)
  | .dict items => .dict (items.map (DictItem.mapExprs f))
  | .set elements => .set (elements.map f)
  | .list elements => .list (elements.map f)
  | .tuple elements => .tuple (elements.map f)
  | .comprehension kind element clauses =>
    .comprehension kind (f element) (clauses.map (CompClause.mapExprs f))
  | .dictComprehension key value clauses =>
    .dictComprehension (f key) (f value) (clauses.map (CompClause.mapExprs f))
  | .await value => .await (f value)
  | .yield value => .yield (value.map f)
  | .yieldFrom value => .yieldFrom (f value)
  | .compare first links => .compare (f first) (links.map (CompareLink.mapExprs f))
  | .call func args keywords => .call (f func) (args.map f) (keywords.map (Keyword.mapExprs f))
  | .formatted parts => .formatted (parts.map f)
  | .placeholder value conversion spec => .placeholder (f value) conversion (spec.map f)
  | .attribute value member => .attribute (f value) member
  | .subscript value index => .subscript (f value) (f index)
  | .starred value => .starred (f value)
  | .slice lower upper step => .slice (lower.map f) (upper.map f) (step.map f)

/-- The expressions right below an expression. -/
def Expr.children (e : Expr) : List Expr := e.parts.map Part.expr

section Parts

variable {f g : Expr → Expr} {e x : Expr}

@[simp] theorem map_expr_direct (es : List Expr) : (direct es).map Part.expr = es := by
  rw [direct, List.map_map]
  exact List.map_id' es

@[simp] theorem map_expr_detoured (n : Nat) (es : List Expr) :
    (detoured n es).map Part.expr = es := by
  rw [detoured, List.map_map]
  exact List.map_id' es

@[simp] theorem map_expr_jointed (es : List Expr) : (jointed es).map Part.expr = es := by
  rw [jointed, List.map_map]
  exact List.map_id' es

theorem toList_map_option (v : Option Expr) : (v.map f).toList = v.toList.map f := by
  cases v <;> rfl

theorem paramExprs_mapExprs (params : List Param) :
    paramExprs (params.map (Param.mapExprs f)) = (paramExprs params).map f := by
  induction params with
  | nil => rfl
  | cons param params ih =>
    obtain ⟨kind, name, hint, default⟩ := param
    simp only [paramExprs, List.map_cons, List.flatMap_cons, Param.mapExprs, List.map_append,
      toList_map_option] at ih ⊢
    rw [ih]

theorem clauseExprs_mapExprs (clauses : List CompClause) :
    clauseExprs (clauses.map (CompClause.mapExprs f)) = (clauseExprs clauses).map f := by
  induction clauses with
  | nil => rfl
  | cons clause clauses ih =>
    obtain ⟨isAsync, target, iter, conditions⟩ := clause
    simp only [clauseExprs, List.map_cons, List.flatMap_cons, CompClause.mapExprs,
      List.map_append] at ih ⊢
    rw [ih]

theorem keywordExprs_mapExprs (keywords : List Keyword) :
    keywordExprs (keywords.map (Keyword.mapExprs f)) = (keywordExprs keywords).map f := by
  induction keywords with
  | nil => rfl
  | cons keyword keywords ih =>
    obtain ⟨name, value⟩ := keyword
    simp only [keywordExprs, List.map_cons, Keyword.mapExprs] at ih ⊢
    rw [ih]

theorem itemExprs_mapExprs (items : List DictItem) :
    ((items.map (DictItem.mapExprs f)).flatMap DictItem.parts).map Part.expr
      = ((items.flatMap DictItem.parts).map Part.expr).map f := by
  induction items with
  | nil => rfl
  | cons item items ih =>
    rw [List.map_cons, List.flatMap_cons, List.flatMap_cons, List.map_append, List.map_append,
      List.map_append, ih]
    cases item <;> rfl

/-- **The parts of the result are the results of the parts.** -/
theorem children_mapParts (f : Expr → Expr) (e : Expr) : (e.mapParts f).children = e.children.map f := by
  unfold Expr.children
  cases e
  case dict items => exact itemExprs_mapExprs items
  case compare first links =>
    simp only [Expr.mapParts, Expr.parts, map_expr_direct, List.map_cons, List.map_map]
    congr 1
    refine List.map_congr_left fun link _ => ?_
    cases link
    rfl
  all_goals
    simp only [Expr.mapParts, Expr.parts, List.map_append, map_expr_direct, map_expr_detoured,
      map_expr_jointed, List.map_cons, List.map_nil, toList_map_option, paramExprs_mapExprs,
      clauseExprs_mapExprs, keywordExprs_mapExprs]

theorem map_option_congr {v : Option Expr} (h : ∀ x ∈ v.toList, f x = g x) :
    v.map f = v.map g :=
  Option.map_congr fun x hx => h x (Option.mem_toList.2 hx)

theorem map_params_congr {params : List Param} (h : ∀ x ∈ paramExprs params, f x = g x) :
    params.map (Param.mapExprs f) = params.map (Param.mapExprs g) := by
  refine List.map_congr_left fun param hparam => ?_
  obtain ⟨kind, name, hint, default⟩ := param
  have hown : ∀ x ∈ hint.toList ++ default.toList, f x = g x :=
    fun x hx => h x (List.mem_flatMap.2 ⟨_, hparam, hx⟩)
  rw [List.forall_mem_append] at hown
  rw [Param.mapExprs, Param.mapExprs, map_option_congr hown.1, map_option_congr hown.2]

theorem map_clauses_congr {clauses : List CompClause}
    (h : ∀ x ∈ clauseExprs clauses, f x = g x) :
    clauses.map (CompClause.mapExprs f) = clauses.map (CompClause.mapExprs g) := by
  refine List.map_congr_left fun clause hclause => ?_
  obtain ⟨isAsync, target, iter, conditions⟩ := clause
  have hown : ∀ x ∈ target :: iter :: conditions, f x = g x :=
    fun x hx => h x (List.mem_flatMap.2 ⟨_, hclause, hx⟩)
  rw [List.forall_mem_cons, List.forall_mem_cons] at hown
  rw [CompClause.mapExprs, CompClause.mapExprs, hown.1, hown.2.1, List.map_congr_left hown.2.2]

theorem map_keywords_congr {keywords : List Keyword}
    (h : ∀ x ∈ keywordExprs keywords, f x = g x) :
    keywords.map (Keyword.mapExprs f) = keywords.map (Keyword.mapExprs g) := by
  refine List.map_congr_left fun keyword hkeyword => ?_
  obtain ⟨name, value⟩ := keyword
  rw [Keyword.mapExprs, Keyword.mapExprs, h value (List.mem_map.2 ⟨_, hkeyword, rfl⟩)]

theorem map_items_congr {items : List DictItem}
    (h : ∀ x ∈ (items.flatMap DictItem.parts).map Part.expr, f x = g x) :
    items.map (DictItem.mapExprs f) = items.map (DictItem.mapExprs g) := by
  refine List.map_congr_left fun item hitem => ?_
  have hown : ∀ p ∈ item.parts, f p.expr = g p.expr :=
    fun p hp => h p.expr (List.mem_map_of_mem (List.mem_flatMap.2 ⟨item, hitem, hp⟩))
  cases item with
  | entry key value =>
    rw [DictItem.mapExprs, DictItem.mapExprs, hown ⟨0, 3, key⟩ (by simp [DictItem.parts, detoured]),
      hown ⟨0, 3, value⟩ (by simp [DictItem.parts, detoured])]
  | spread value =>
    rw [DictItem.mapExprs, DictItem.mapExprs, hown ⟨0, 2, value⟩ (by simp [DictItem.parts, detoured])]

theorem map_links_congr {links : List CompareLink}
    (h : ∀ link ∈ links, ∀ op right, link = .mk op right → f right = g right) :
    links.map (CompareLink.mapExprs f) = links.map (CompareLink.mapExprs g) := by
  refine List.map_congr_left fun link hlink => ?_
  obtain ⟨op, right⟩ := link
  rw [CompareLink.mapExprs, CompareLink.mapExprs, h _ hlink op right rfl]

/-- **Functions that agree on the parts of an expression do the same to it.** -/
theorem mapParts_congr (h : ∀ x ∈ e.children, f x = g x) : e.mapParts f = e.mapParts g := by
  unfold Expr.children at h
  cases e
  case dict items => exact congrArg Expr.dict (map_items_congr h)
  case compare first links =>
    rw [Expr.parts, map_expr_direct, List.forall_mem_cons] at h
    rw [Expr.mapParts, Expr.mapParts, h.1, map_links_congr fun link hlink op right hright => ?_]
    exact h.2 right (List.mem_map.2 ⟨link, hlink, by rw [hright]⟩)
  all_goals
    simp only [Expr.parts, List.map_append, map_expr_direct, map_expr_detoured, map_expr_jointed,
      List.forall_mem_append, List.forall_mem_cons, List.not_mem_nil, false_implies, implies_true,
      and_true] at h
    simp only [Expr.mapParts]
  case boolean | set | list | tuple | formatted => rw [List.map_congr_left h]
  case walrus | unary | await | yieldFrom | «attribute» | starred => rw [h]
  case binary | subscript => rw [h.1, h.2]
  case conditional => rw [h.1, h.2.1, h.2.2]
  case lambda => rw [map_params_congr h.1, h.2]
  case comprehension => rw [h.1, map_clauses_congr h.2]
  case dictComprehension => rw [h.1.1, h.1.2, map_clauses_congr h.2]
  case yield => rw [map_option_congr h]
  case call => rw [h.1.1, List.map_congr_left h.1.2, map_keywords_congr h.2]
  case placeholder => rw [h.1, map_option_congr h.2]
  case slice => rw [map_option_congr h.1.1, map_option_congr h.1.2, map_option_congr h.2]

theorem Param.mapExprs_comp : Param.mapExprs g ∘ Param.mapExprs f = Param.mapExprs (g ∘ f) := by
  funext ⟨kind, name, hint, default⟩
  simp only [Function.comp_apply, Param.mapExprs, Option.map_map]

theorem Keyword.mapExprs_comp :
    Keyword.mapExprs g ∘ Keyword.mapExprs f = Keyword.mapExprs (g ∘ f) := by
  funext ⟨name, value⟩
  rfl

theorem DictItem.mapExprs_comp :
    DictItem.mapExprs g ∘ DictItem.mapExprs f = DictItem.mapExprs (g ∘ f) := by
  funext item
  cases item <;> rfl

theorem CompClause.mapExprs_comp :
    CompClause.mapExprs g ∘ CompClause.mapExprs f = CompClause.mapExprs (g ∘ f) := by
  funext ⟨isAsync, target, iter, conditions⟩
  simp only [Function.comp_apply, CompClause.mapExprs, List.map_map]

theorem CompareLink.mapExprs_comp :
    CompareLink.mapExprs g ∘ CompareLink.mapExprs f = CompareLink.mapExprs (g ∘ f) := by
  funext ⟨op, right⟩
  rfl

/-- Replacing the parts twice is replacing them once. -/
theorem mapParts_mapParts (f g : Expr → Expr) (e : Expr) :
    (e.mapParts f).mapParts g = e.mapParts (g ∘ f) := by
  cases e <;>
    simp only [Expr.mapParts, List.map_map, Option.map_map, Param.mapExprs_comp,
      Keyword.mapExprs_comp, DictItem.mapExprs_comp, CompClause.mapExprs_comp,
      CompareLink.mapExprs_comp, Function.comp_apply]

theorem Param.mapExprs_id : Param.mapExprs id = id := by
  funext ⟨kind, name, hint, default⟩
  simp only [Param.mapExprs, Option.map_id_fun, id_eq]

theorem DictItem.mapExprs_id : DictItem.mapExprs id = id := by
  funext item
  cases item <;> rfl

theorem CompClause.mapExprs_id : CompClause.mapExprs id = id := by
  funext ⟨isAsync, target, iter, conditions⟩
  simp only [CompClause.mapExprs, List.map_id_fun, id_eq]

theorem Keyword.mapExprs_id : Keyword.mapExprs id = id := by
  funext ⟨name, value⟩
  rfl

theorem CompareLink.mapExprs_id : CompareLink.mapExprs id = id := by
  funext ⟨op, right⟩
  rfl

/-- An expression with its own parts is the same. -/
theorem mapParts_id (e : Expr) : e.mapParts id = e := by
  cases e <;>
    simp only [Expr.mapParts, List.map_id_fun, Option.map_id_fun, Param.mapExprs_id,
      Keyword.mapExprs_id, DictItem.mapExprs_id, CompClause.mapExprs_id, CompareLink.mapExprs_id,
      id_eq]

/-- An expression with parts that do not change is the same. -/
theorem mapParts_eq_self (h : ∀ x ∈ e.children, f x = x) : e.mapParts f = e := by
  rw [mapParts_congr (g := id) h, mapParts_id]

/-! ## §2. Going down. -/

theorem sizeOf_lt_of_mem_toList {v : Option Expr} (h : x ∈ v.toList) : sizeOf x < sizeOf v := by
  obtain rfl : v = some x := Option.mem_toList.1 h
  simp

theorem sizeOf_lt_of_mem_paramExprs {params : List Param} (h : x ∈ paramExprs params) :
    sizeOf x < sizeOf params := by
  obtain ⟨⟨kind, name, hint, default⟩, hparam, hx⟩ := List.mem_flatMap.1 h
  have hsize := List.sizeOf_lt_of_mem hparam
  rw [Param.mk.sizeOf_spec] at hsize
  rcases List.mem_append.1 hx with hx | hx
  · have := sizeOf_lt_of_mem_toList hx
    omega
  · have := sizeOf_lt_of_mem_toList hx
    omega

theorem sizeOf_lt_of_mem_clauseExprs {clauses : List CompClause} (h : x ∈ clauseExprs clauses) :
    sizeOf x < sizeOf clauses := by
  obtain ⟨⟨isAsync, target, iter, conditions⟩, hclause, hx⟩ := List.mem_flatMap.1 h
  have hsize := List.sizeOf_lt_of_mem hclause
  rw [CompClause.mk.sizeOf_spec] at hsize
  rcases List.mem_cons.1 hx with rfl | hx
  · omega
  · rcases List.mem_cons.1 hx with rfl | hx
    · omega
    · have := List.sizeOf_lt_of_mem hx
      omega

theorem sizeOf_lt_of_mem_keywordExprs {keywords : List Keyword} (h : x ∈ keywordExprs keywords) :
    sizeOf x < sizeOf keywords := by
  obtain ⟨⟨name, value⟩, hkeyword, rfl⟩ := List.mem_map.1 h
  have hsize := List.sizeOf_lt_of_mem hkeyword
  rw [Keyword.mk.sizeOf_spec] at hsize
  dsimp only
  omega

theorem sizeOf_lt_of_mem_links {links : List CompareLink}
    (h : x ∈ links.map (fun
      | .mk _ right => right)) : sizeOf x < sizeOf links := by
  obtain ⟨⟨op, right⟩, hlink, rfl⟩ := List.mem_map.1 h
  have hsize := List.sizeOf_lt_of_mem hlink
  rw [CompareLink.mk.sizeOf_spec] at hsize
  dsimp only
  omega

theorem sizeOf_lt_of_mem_items {items : List DictItem}
    (h : x ∈ (items.flatMap DictItem.parts).map Part.expr) : sizeOf x < sizeOf items := by
  obtain ⟨p, hp, rfl⟩ := List.mem_map.1 h
  obtain ⟨item, hitem, hp⟩ := List.mem_flatMap.1 hp
  have hsize := List.sizeOf_lt_of_mem hitem
  cases item with
  | entry key value =>
    rw [DictItem.entry.sizeOf_spec] at hsize
    simp only [DictItem.parts, detoured, List.map_cons, List.map_nil, List.mem_cons,
      List.not_mem_nil, or_false] at hp
    rcases hp with rfl | rfl <;> dsimp only <;> omega
  | spread value =>
    rw [DictItem.spread.sizeOf_spec] at hsize
    obtain rfl := List.mem_singleton.1 hp
    dsimp only
    omega

/-- What stands below an expression is smaller. -/
theorem sizeOf_lt_of_mem_children (h : x ∈ e.children) : sizeOf x < sizeOf e := by
  unfold Expr.children at h
  cases e
  case dict items =>
    have := sizeOf_lt_of_mem_items h
    rw [Expr.dict.sizeOf_spec]
    omega
  all_goals
    simp only [Expr.parts, List.map_nil, List.map_append, map_expr_direct, map_expr_detoured,
      map_expr_jointed, List.mem_append, List.mem_cons, List.not_mem_nil, or_false] at h
  case walrus | binary | unary | conditional | await | yieldFrom | «attribute» | subscript
      | starred =>
    simp
    grind
  case boolean | set | list | tuple | formatted =>
    have := List.sizeOf_lt_of_mem h
    simp
    omega
  case yield =>
    have := sizeOf_lt_of_mem_toList h
    simp
    omega
  case lambda | comprehension | dictComprehension | call | compare | placeholder | slice =>
    simp
    grind [→ sizeOf_lt_of_mem_toList, → List.sizeOf_lt_of_mem, → sizeOf_lt_of_mem_paramExprs,
      → sizeOf_lt_of_mem_clauseExprs, → sizeOf_lt_of_mem_keywordExprs, → sizeOf_lt_of_mem_links]

/-- **What holds of an expression if it holds of all its parts holds of every expression.** -/
theorem children_induction {P : Expr → Prop} (h : ∀ e : Expr, (∀ x ∈ e.children, P x) → P e)
    (e : Expr) : P e :=
  h e fun x _ => children_induction h x
termination_by sizeOf e
decreasing_by exact sizeOf_lt_of_mem_children ‹_›

/-- An expression stands in another one, at any depth. -/
inductive Within (x : Expr) : Expr → Prop where
  | self : Within x x
  | part {e y : Expr} (hy : y ∈ e.children) (hx : Within x y) : Within x e

end Parts

/-! ## §3. The expressions of a statement. -/

mutual

/-- The expressions of a pattern. -/
def Pattern.expressions : Pattern → List Expr
  | .value e => [e]
  | .singleton _ => []
  | .sequence patterns => patternExprs patterns
  | .mapping entries _ => entryExprs entries
  | .instanceOf cls positional named => cls :: (patternExprs positional ++ namedExprs named)
  | .rest _ => []
  | .capture pattern _ => patternOptionExprs pattern
  | .alternatives patterns => patternExprs patterns

/-- The expressions of some patterns. -/
def patternExprs : List Pattern → List Expr
  | [] => []
  | p :: ps => p.expressions ++ patternExprs ps

/-- The expressions of a pattern that may be absent. -/
def patternOptionExprs : Option Pattern → List Expr
  | none => []
  | some p => p.expressions

/-- The expressions of the entries of a mapping pattern. -/
def entryExprs : List MapEntry → List Expr
  | [] => []
  | .mk key pattern :: rest => key :: (pattern.expressions ++ entryExprs rest)

/-- The expressions of the named parts of a class pattern. -/
def namedExprs : List NamedPattern → List Expr
  | [] => []
  | .mk _ pattern :: rest => pattern.expressions ++ namedExprs rest

end

/-- The expressions of the items of a `with`. -/
def withExprs (items : List WithItem) : List Expr :=
  items.flatMap (fun i => i.manager :: i.target.toList)

mutual

/-- The expressions of a statement and of the statements in its bodies, from left to right. -/
def Stmt.expressions : Stmt → List Expr
  | .expression e => [e]
  | .assign targets value => targets ++ [value]
  | .augment target _ value => [target, value]
  | .annotate target hint value _ => target :: hint :: value.toList
  | .delete targets => targets
  | .giveBack value => value.toList
  | .throw exception cause => exception.toList ++ cause.toList
  | .assertion test message => test :: message.toList
  | .conditional test body orelse => test :: (stmtExprs body ++ stmtExprs orelse)
  | .whileLoop test body orelse => test :: (stmtExprs body ++ stmtExprs orelse)
  | .forLoop _ target iter body orelse => target :: iter :: (stmtExprs body ++ stmtExprs orelse)
  | .withBlock _ items body => withExprs items ++ stmtExprs body
  | .tryBlock _ body handlers orelse finalbody =>
    stmtExprs body ++ (handlerExprs handlers ++ (stmtExprs orelse ++ stmtExprs finalbody))
  | .matchBlock subject cases => subject :: caseExprs cases
  | .function _ _ params body decorators returns =>
    decorators ++ (paramExprs params ++ (returns.toList ++ stmtExprs body))
  | .classBlock _ bases keywords body decorators =>
    decorators ++ (bases ++ (keywordExprs keywords ++ stmtExprs body))
  | .pass _ => []
  | .breakLoop => []
  | .continueLoop => []
  | .importModules _ => []
  | .importMembers _ _ _ => []
  | .globals _ => []
  | .nonlocals _ => []

/-- The expressions of some statements. -/
def stmtExprs : List Stmt → List Expr
  | [] => []
  | s :: ss => s.expressions ++ stmtExprs ss

/-- The expressions of handlers. -/
def handlerExprs : List Handler → List Expr
  | [] => []
  | .mk type _ body :: rest => type.toList ++ (stmtExprs body ++ handlerExprs rest)

/-- The expressions of cases. -/
def caseExprs : List Case → List Expr
  | [] => []
  | .mk pattern guard body :: rest =>
    pattern.expressions ++ (guard.toList ++ (stmtExprs body ++ caseExprs rest))

end

section Expressions

variable (f g : Expr → Expr)

mutual

theorem Pattern.expressions_mapExprs :
    ∀ p : Pattern, (p.mapExprs f).expressions = p.expressions.map f
  | .value e => rfl
  | .singleton _ => rfl
  | .sequence patterns => patternExprs_mapExprs patterns
  | .mapping entries _ => entryExprs_mapExprs entries
  | .instanceOf cls positional named => by
    rw [Pattern.mapExprs, Pattern.expressions, Pattern.expressions, List.map_cons,
      List.map_append, patternExprs_mapExprs positional, namedExprs_mapExprs named]
  | .rest _ => rfl
  | .capture pattern _ => patternOptionExprs_mapExprs pattern
  | .alternatives patterns => patternExprs_mapExprs patterns

theorem patternExprs_mapExprs :
    ∀ ps : List Pattern, patternExprs (mapPatterns f ps) = (patternExprs ps).map f
  | [] => rfl
  | p :: ps => by
    rw [mapPatterns, patternExprs, patternExprs, List.map_append, p.expressions_mapExprs,
      patternExprs_mapExprs ps]

theorem patternOptionExprs_mapExprs : ∀ p : Option Pattern,
    patternOptionExprs (mapPatternOption f p) = (patternOptionExprs p).map f
  | none => rfl
  | some p => p.expressions_mapExprs

theorem entryExprs_mapExprs :
    ∀ es : List MapEntry, entryExprs (mapEntries f es) = (entryExprs es).map f
  | [] => rfl
  | .mk key pattern :: rest => by
    rw [mapEntries, entryExprs, entryExprs, List.map_cons, List.map_append,
      pattern.expressions_mapExprs, entryExprs_mapExprs rest]

theorem namedExprs_mapExprs :
    ∀ ns : List NamedPattern, namedExprs (mapNamed f ns) = (namedExprs ns).map f
  | [] => rfl
  | .mk name pattern :: rest => by
    rw [mapNamed, namedExprs, namedExprs, List.map_append, pattern.expressions_mapExprs,
      namedExprs_mapExprs rest]

end

theorem withExprs_mapExprs (items : List WithItem) :
    withExprs (items.map (WithItem.mapExprs f)) = (withExprs items).map f := by
  induction items with
  | nil => rfl
  | cons item items ih =>
    unfold withExprs at ih ⊢
    rw [List.map_cons, List.flatMap_cons, List.flatMap_cons, List.map_append, ih, List.map_cons,
      ← toList_map_option]
    rfl

mutual

/-- **The expressions of the result are the results of the expressions**, in patterns and in
bodies as well. -/
theorem Stmt.expressions_mapExprs : ∀ s : Stmt, (s.mapExprs f).expressions = s.expressions.map f
  | .conditional _ body orelse | .whileLoop _ body orelse | .forLoop _ _ _ body orelse => by
    simp only [Stmt.mapExprs, Stmt.expressions, List.map_cons, List.map_append,
      stmtExprs_mapExprs body, stmtExprs_mapExprs orelse]
  | .withBlock _ items body => by
    simp only [Stmt.mapExprs, Stmt.expressions, List.map_append, withExprs_mapExprs,
      stmtExprs_mapExprs body]
  | .tryBlock _ body handlers orelse finalbody => by
    simp only [Stmt.mapExprs, Stmt.expressions, List.map_append, stmtExprs_mapExprs body,
      handlerExprs_mapExprs handlers, stmtExprs_mapExprs orelse, stmtExprs_mapExprs finalbody]
  | .matchBlock _ cases => by
    simp only [Stmt.mapExprs, Stmt.expressions, List.map_cons, caseExprs_mapExprs cases]
  | .function _ _ params body _ _ => by
    simp only [Stmt.mapExprs, Stmt.expressions, List.map_append, paramExprs_mapExprs,
      toList_map_option, stmtExprs_mapExprs body]
  | .classBlock _ _ keywords body _ => by
    simp only [Stmt.mapExprs, Stmt.expressions, List.map_append, keywordExprs_mapExprs,
      stmtExprs_mapExprs body]
  | .expression _ | .assign _ _ | .augment _ _ _ | .annotate _ _ _ _ | .delete _ | .giveBack _
  | .throw _ _ | .assertion _ _ => by
    simp only [Stmt.mapExprs, Stmt.expressions, List.map_cons, List.map_nil, List.map_append,
      toList_map_option]
  | .pass _ | .breakLoop | .continueLoop | .importModules _ | .importMembers _ _ _ | .globals _
  | .nonlocals _ => rfl

theorem stmtExprs_mapExprs : ∀ ss : List Stmt, stmtExprs (mapStmts f ss) = (stmtExprs ss).map f
  | [] => rfl
  | s :: ss => by
    rw [mapStmts, stmtExprs, stmtExprs, List.map_append, s.expressions_mapExprs,
      stmtExprs_mapExprs ss]

theorem handlerExprs_mapExprs :
    ∀ hs : List Handler, handlerExprs (mapHandlers f hs) = (handlerExprs hs).map f
  | [] => rfl
  | .mk type name body :: rest => by
    rw [mapHandlers, handlerExprs, handlerExprs, List.map_append, List.map_append,
      toList_map_option, stmtExprs_mapExprs body, handlerExprs_mapExprs rest]

theorem caseExprs_mapExprs :
    ∀ cs : List Case, caseExprs (mapCases f cs) = (caseExprs cs).map f
  | [] => rfl
  | .mk pattern guard body :: rest => by
    rw [mapCases, caseExprs, caseExprs, List.map_append, List.map_append, List.map_append,
      pattern.expressions_mapExprs, toList_map_option, stmtExprs_mapExprs body,
      caseExprs_mapExprs rest]

end

/-! ## §4. Replacing twice. -/

mutual

theorem Pattern.mapExprs_mapExprs :
    ∀ p : Pattern, (p.mapExprs f).mapExprs g = p.mapExprs (g ∘ f)
  | .value _ | .singleton _ | .rest _ => rfl
  | .sequence patterns => congrArg Pattern.sequence (mapPatterns_mapPatterns patterns)
  | .mapping entries rest => congrArg (Pattern.mapping · rest) (mapEntries_mapEntries entries)
  | .instanceOf cls positional named => by
    simp only [Pattern.mapExprs, mapPatterns_mapPatterns positional, mapNamed_mapNamed named,
      Function.comp_apply]
  | .capture pattern name =>
    congrArg (Pattern.capture · name) (mapPatternOption_mapPatternOption pattern)
  | .alternatives patterns => congrArg Pattern.alternatives (mapPatterns_mapPatterns patterns)

theorem mapPatterns_mapPatterns :
    ∀ ps : List Pattern, mapPatterns g (mapPatterns f ps) = mapPatterns (g ∘ f) ps
  | [] => rfl
  | p :: ps => by
    rw [mapPatterns, mapPatterns, mapPatterns, p.mapExprs_mapExprs, mapPatterns_mapPatterns ps]

theorem mapPatternOption_mapPatternOption : ∀ p : Option Pattern,
    mapPatternOption g (mapPatternOption f p) = mapPatternOption (g ∘ f) p
  | none => rfl
  | some p => congrArg some p.mapExprs_mapExprs

theorem mapEntries_mapEntries :
    ∀ es : List MapEntry, mapEntries g (mapEntries f es) = mapEntries (g ∘ f) es
  | [] => rfl
  | .mk key pattern :: rest => by
    rw [mapEntries, mapEntries, mapEntries, pattern.mapExprs_mapExprs, mapEntries_mapEntries rest]
    rfl

theorem mapNamed_mapNamed :
    ∀ ns : List NamedPattern, mapNamed g (mapNamed f ns) = mapNamed (g ∘ f) ns
  | [] => rfl
  | .mk name pattern :: rest => by
    rw [mapNamed, mapNamed, mapNamed, pattern.mapExprs_mapExprs, mapNamed_mapNamed rest]

end

theorem WithItem.mapExprs_comp :
    WithItem.mapExprs g ∘ WithItem.mapExprs f = WithItem.mapExprs (g ∘ f) := by
  funext ⟨manager, target⟩
  simp only [Function.comp_apply, WithItem.mapExprs, Option.map_map]

mutual

/-- Replacing the expressions of a statement twice is replacing them once. -/
theorem Stmt.mapExprs_mapExprs : ∀ s : Stmt, (s.mapExprs f).mapExprs g = s.mapExprs (g ∘ f)
  | .conditional _ body orelse | .whileLoop _ body orelse | .forLoop _ _ _ body orelse => by
    simp only [Stmt.mapExprs, mapStmts_mapStmts body, mapStmts_mapStmts orelse,
      Function.comp_apply]
  | .withBlock _ _ body => by
    simp only [Stmt.mapExprs, List.map_map, WithItem.mapExprs_comp, mapStmts_mapStmts body]
  | .tryBlock _ body handlers orelse finalbody => by
    simp only [Stmt.mapExprs, mapStmts_mapStmts body, mapHandlers_mapHandlers handlers,
      mapStmts_mapStmts orelse, mapStmts_mapStmts finalbody]
  | .matchBlock _ cases => by
    simp only [Stmt.mapExprs, mapCases_mapCases cases, Function.comp_apply]
  | .function _ _ _ body _ _ => by
    simp only [Stmt.mapExprs, List.map_map, Option.map_map, Param.mapExprs_comp,
      mapStmts_mapStmts body]
  | .classBlock _ _ _ body _ => by
    simp only [Stmt.mapExprs, List.map_map, Keyword.mapExprs_comp, mapStmts_mapStmts body]
  | .expression _ | .assign _ _ | .augment _ _ _ | .annotate _ _ _ _ | .delete _ | .giveBack _
  | .throw _ _ | .assertion _ _ => by
    simp only [Stmt.mapExprs, List.map_map, Option.map_map, Function.comp_apply]
  | .pass _ | .breakLoop | .continueLoop | .importModules _ | .importMembers _ _ _ | .globals _
  | .nonlocals _ => rfl

theorem mapStmts_mapStmts : ∀ ss : List Stmt, mapStmts g (mapStmts f ss) = mapStmts (g ∘ f) ss
  | [] => rfl
  | s :: ss => by
    rw [mapStmts, mapStmts, mapStmts, s.mapExprs_mapExprs, mapStmts_mapStmts ss]

theorem mapHandlers_mapHandlers :
    ∀ hs : List Handler, mapHandlers g (mapHandlers f hs) = mapHandlers (g ∘ f) hs
  | [] => rfl
  | .mk type name body :: rest => by
    rw [mapHandlers, mapHandlers, mapHandlers, Option.map_map, mapStmts_mapStmts body,
      mapHandlers_mapHandlers rest]

theorem mapCases_mapCases : ∀ cs : List Case, mapCases g (mapCases f cs) = mapCases (g ∘ f) cs
  | [] => rfl
  | .mk pattern guard body :: rest => by
    rw [mapCases, mapCases, mapCases, pattern.mapExprs_mapExprs, Option.map_map,
      mapStmts_mapStmts body, mapCases_mapCases rest]

end

/-! ## §5. Expressions that stay. -/

variable {f}

theorem map_option_eq_self {v : Option Expr} (h : ∀ x ∈ v.toList, f x = x) : v.map f = v := by
  rw [map_option_congr (g := id) h, Option.map_id_fun, id_eq]

theorem map_list_eq_self {es : List Expr} (h : ∀ x ∈ es, f x = x) : es.map f = es := by
  rw [List.map_congr_left (g := id) h, List.map_id_fun, id_eq]

theorem map_params_eq_self {params : List Param} (h : ∀ x ∈ paramExprs params, f x = x) :
    params.map (Param.mapExprs f) = params := by
  rw [map_params_congr (g := id) h, Param.mapExprs_id, List.map_id_fun, id_eq]

theorem map_keywords_eq_self {keywords : List Keyword}
    (h : ∀ x ∈ keywordExprs keywords, f x = x) : keywords.map (Keyword.mapExprs f) = keywords := by
  rw [map_keywords_congr (g := id) h, Keyword.mapExprs_id, List.map_id_fun, id_eq]

theorem map_withItems_eq_self {items : List WithItem} (h : ∀ x ∈ withExprs items, f x = x) :
    items.map (WithItem.mapExprs f) = items := by
  refine (List.map_congr_left fun item hitem => ?_).trans (List.map_id items)
  have hown : ∀ x ∈ item.manager :: item.target.toList, f x = x :=
    fun x hx => h x (List.mem_flatMap.2 ⟨item, hitem, hx⟩)
  rw [List.forall_mem_cons] at hown
  rw [WithItem.mapExprs, hown.1, map_option_eq_self hown.2]
  rfl

mutual

theorem Pattern.mapExprs_eq_self :
    ∀ p : Pattern, (∀ x ∈ p.expressions, f x = x) → p.mapExprs f = p
  | .value e, h => congrArg Pattern.value (h e (List.mem_singleton_self e))
  | .singleton _, _ | .rest _, _ => rfl
  | .sequence patterns, h => congrArg Pattern.sequence (mapPatterns_eq_self patterns h)
  | .mapping entries rest, h => congrArg (Pattern.mapping · rest) (mapEntries_eq_self entries h)
  | .instanceOf cls positional named, h => by
    rw [Pattern.expressions, List.forall_mem_cons, List.forall_mem_append] at h
    rw [Pattern.mapExprs, h.1, mapPatterns_eq_self positional h.2.1, mapNamed_eq_self named h.2.2]
  | .capture pattern name, h =>
    congrArg (Pattern.capture · name) (mapPatternOption_eq_self pattern h)
  | .alternatives patterns, h => congrArg Pattern.alternatives (mapPatterns_eq_self patterns h)

theorem mapPatterns_eq_self :
    ∀ ps : List Pattern, (∀ x ∈ patternExprs ps, f x = x) → mapPatterns f ps = ps
  | [], _ => rfl
  | p :: ps, h => by
    rw [patternExprs, List.forall_mem_append] at h
    rw [mapPatterns, p.mapExprs_eq_self h.1, mapPatterns_eq_self ps h.2]

theorem mapPatternOption_eq_self : ∀ p : Option Pattern,
    (∀ x ∈ patternOptionExprs p, f x = x) → mapPatternOption f p = p
  | none, _ => rfl
  | some p, h => congrArg some (p.mapExprs_eq_self h)

theorem mapEntries_eq_self :
    ∀ es : List MapEntry, (∀ x ∈ entryExprs es, f x = x) → mapEntries f es = es
  | [], _ => rfl
  | .mk key pattern :: rest, h => by
    rw [entryExprs, List.forall_mem_cons, List.forall_mem_append] at h
    rw [mapEntries, h.1, pattern.mapExprs_eq_self h.2.1, mapEntries_eq_self rest h.2.2]

theorem mapNamed_eq_self :
    ∀ ns : List NamedPattern, (∀ x ∈ namedExprs ns, f x = x) → mapNamed f ns = ns
  | [], _ => rfl
  | .mk name pattern :: rest, h => by
    rw [namedExprs, List.forall_mem_append] at h
    rw [mapNamed, pattern.mapExprs_eq_self h.1, mapNamed_eq_self rest h.2]

end

mutual

/-- A statement with expressions that do not change is the same. -/
theorem Stmt.mapExprs_eq_self :
    ∀ s : Stmt, (∀ x ∈ s.expressions, f x = x) → s.mapExprs f = s
  | .conditional _ body orelse, h | .whileLoop _ body orelse, h => by
    rw [Stmt.expressions, List.forall_mem_cons, List.forall_mem_append] at h
    rw [Stmt.mapExprs, h.1, mapStmts_eq_self body h.2.1, mapStmts_eq_self orelse h.2.2]
  | .forLoop _ _ _ body orelse, h => by
    rw [Stmt.expressions, List.forall_mem_cons, List.forall_mem_cons, List.forall_mem_append] at h
    rw [Stmt.mapExprs, h.1, h.2.1, mapStmts_eq_self body h.2.2.1, mapStmts_eq_self orelse h.2.2.2]
  | .withBlock _ items body, h => by
    rw [Stmt.expressions, List.forall_mem_append] at h
    rw [Stmt.mapExprs, map_withItems_eq_self h.1, mapStmts_eq_self body h.2]
  | .tryBlock _ body handlers orelse finalbody, h => by
    rw [Stmt.expressions, List.forall_mem_append, List.forall_mem_append,
      List.forall_mem_append] at h
    rw [Stmt.mapExprs, mapStmts_eq_self body h.1, mapHandlers_eq_self handlers h.2.1,
      mapStmts_eq_self orelse h.2.2.1, mapStmts_eq_self finalbody h.2.2.2]
  | .matchBlock _ cases, h => by
    rw [Stmt.expressions, List.forall_mem_cons] at h
    rw [Stmt.mapExprs, h.1, mapCases_eq_self cases h.2]
  | .function _ _ _ body _ _, h => by
    rw [Stmt.expressions, List.forall_mem_append, List.forall_mem_append,
      List.forall_mem_append] at h
    rw [Stmt.mapExprs, map_list_eq_self h.1, map_params_eq_self h.2.1, map_option_eq_self h.2.2.1,
      mapStmts_eq_self body h.2.2.2]
  | .classBlock _ _ _ body _, h => by
    rw [Stmt.expressions, List.forall_mem_append, List.forall_mem_append,
      List.forall_mem_append] at h
    rw [Stmt.mapExprs, map_list_eq_self h.1, map_list_eq_self h.2.1, map_keywords_eq_self h.2.2.1,
      mapStmts_eq_self body h.2.2.2]
  | .expression _, h => by
    rw [Stmt.expressions, List.forall_mem_singleton] at h
    rw [Stmt.mapExprs, h]
  | .assign _ _, h => by
    rw [Stmt.expressions, List.forall_mem_append, List.forall_mem_singleton] at h
    rw [Stmt.mapExprs, map_list_eq_self h.1, h.2]
  | .augment _ _ _, h => by
    rw [Stmt.expressions, List.forall_mem_cons, List.forall_mem_singleton] at h
    rw [Stmt.mapExprs, h.1, h.2]
  | .annotate _ _ _ _, h => by
    rw [Stmt.expressions, List.forall_mem_cons, List.forall_mem_cons] at h
    rw [Stmt.mapExprs, h.1, h.2.1, map_option_eq_self h.2.2]
  | .delete _, h => congrArg Stmt.delete (map_list_eq_self h)
  | .giveBack _, h => congrArg Stmt.giveBack (map_option_eq_self h)
  | .throw _ _, h => by
    rw [Stmt.expressions, List.forall_mem_append] at h
    rw [Stmt.mapExprs, map_option_eq_self h.1, map_option_eq_self h.2]
  | .assertion _ _, h => by
    rw [Stmt.expressions, List.forall_mem_cons] at h
    rw [Stmt.mapExprs, h.1, map_option_eq_self h.2]
  | .pass _, _ | .breakLoop, _ | .continueLoop, _ | .importModules _, _
  | .importMembers _ _ _, _ | .globals _, _ | .nonlocals _, _ => rfl

theorem mapStmts_eq_self :
    ∀ ss : List Stmt, (∀ x ∈ stmtExprs ss, f x = x) → mapStmts f ss = ss
  | [], _ => rfl
  | s :: ss, h => by
    rw [stmtExprs, List.forall_mem_append] at h
    rw [mapStmts, s.mapExprs_eq_self h.1, mapStmts_eq_self ss h.2]

theorem mapHandlers_eq_self :
    ∀ hs : List Handler, (∀ x ∈ handlerExprs hs, f x = x) → mapHandlers f hs = hs
  | [], _ => rfl
  | .mk type name body :: rest, h => by
    rw [handlerExprs, List.forall_mem_append, List.forall_mem_append] at h
    rw [mapHandlers, map_option_eq_self h.1, mapStmts_eq_self body h.2.1,
      mapHandlers_eq_self rest h.2.2]

theorem mapCases_eq_self :
    ∀ cs : List Case, (∀ x ∈ caseExprs cs, f x = x) → mapCases f cs = cs
  | [], _ => rfl
  | .mk pattern guard body :: rest, h => by
    rw [caseExprs, List.forall_mem_append, List.forall_mem_append, List.forall_mem_append] at h
    rw [mapCases, pattern.mapExprs_eq_self h.1, map_option_eq_self h.2.1,
      mapStmts_eq_self body h.2.2.1, mapCases_eq_self rest h.2.2.2]

end

end Expressions

end Inlay.Code
