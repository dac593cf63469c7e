/-
  Inlay.Code.Calls
  ────────────────────────────────
  **REWRITING CALLS.**

  `rewriteCalls f` replaces every call in a tree, innermost calls first, by
  what `f` makes of its parts.  Calls stand in expressions only, and every
  expression of a statement is visited: conditions, targets, defaults,
  decorators, annotations, guards and the holes of formatted text, also where
  a pattern has such text to compare with.
-/
import Inlay.Code.Syntax

namespace Inlay.Code

/-- What becomes of a call, given its function, its arguments and its keywords. -/
abbrev CallRewriter := Expr → List Expr → List Keyword → Expr

/-! ## §1. Expressions. -/

mutual

/-- The expression with its calls rewritten. -/
def Expr.rewriteCalls (f : CallRewriter) : Expr → Expr
  | .constant c => .constant c
  | .name id => .name id
  | .boolean op operands => .boolean op (rewriteExprs f operands)
  | .walrus target value => .walrus target (value.rewriteCalls f)
  | .binary op left right => .binary op (left.rewriteCalls f) (right.rewriteCalls f)
  | .unary op operand => .unary op (operand.rewriteCalls f)
  | .lambda params body => .lambda (rewriteParams f params) (body.rewriteCalls f)
  | .conditional test body orelse =>
    .conditional (test.rewriteCalls f) (body.rewriteCalls f) (orelse.rewriteCalls f)
  | .dict items => .dict (rewriteItems f items)
  | .set elements => .set (rewriteExprs f elements)
  | .list elements => .list (rewriteExprs f elements)
  | .tuple elements => .tuple (rewriteExprs f elements)
  | .comprehension kind element clauses =>
    .comprehension kind (element.rewriteCalls f) (rewriteClauses f clauses)
  | .dictComprehension key value clauses =>
    .dictComprehension (key.rewriteCalls f) (value.rewriteCalls f) (rewriteClauses f clauses)
  | .await value => .await (value.rewriteCalls f)
  | .yield value => .yield (rewriteOption f value)
  | .yieldFrom value => .yieldFrom (value.rewriteCalls f)
  | .compare first links => .compare (first.rewriteCalls f) (rewriteLinks f links)
  | .call func args keywords =>
    f (func.rewriteCalls f) (rewriteExprs f args) (rewriteKeywords f keywords)
  | .formatted parts => .formatted (rewriteExprs f parts)
  | .placeholder value conversion spec =>
    .placeholder (value.rewriteCalls f) conversion (rewriteOption f spec)
  | .attribute value name => .attribute (value.rewriteCalls f) name
  | .subscript value index => .subscript (value.rewriteCalls f) (index.rewriteCalls f)
  | .starred value => .starred (value.rewriteCalls f)
  | .slice lower upper step =>
    .slice (rewriteOption f lower) (rewriteOption f upper) (rewriteOption f step)

/-- Every expression rewritten. -/
def rewriteExprs (f : CallRewriter) : List Expr → List Expr
  | [] => []
  | e :: es => e.rewriteCalls f :: rewriteExprs f es

/-- An expression that may be absent, rewritten. -/
def rewriteOption (f : CallRewriter) : Option Expr → Option Expr
  | none => none
  | some e => some (e.rewriteCalls f)

/-- The items of a dictionary, rewritten. -/
def rewriteItems (f : CallRewriter) : List DictItem → List DictItem
  | [] => []
  | .entry key value :: rest =>
    .entry (key.rewriteCalls f) (value.rewriteCalls f) :: rewriteItems f rest
  | .spread value :: rest => .spread (value.rewriteCalls f) :: rewriteItems f rest

/-- The clauses of a comprehension, rewritten. -/
def rewriteClauses (f : CallRewriter) : List CompClause → List CompClause
  | [] => []
  | .mk isAsync target iter conditions :: rest =>
    .mk isAsync (target.rewriteCalls f) (iter.rewriteCalls f) (rewriteExprs f conditions)
      :: rewriteClauses f rest

/-- The links of a comparison, rewritten. -/
def rewriteLinks (f : CallRewriter) : List CompareLink → List CompareLink
  | [] => []
  | .mk op right :: rest => .mk op (right.rewriteCalls f) :: rewriteLinks f rest

/-- Arguments by name, rewritten. -/
def rewriteKeywords (f : CallRewriter) : List Keyword → List Keyword
  | [] => []
  | .mk name value :: rest => .mk name (value.rewriteCalls f) :: rewriteKeywords f rest

/-- Parameters, their annotations and defaults rewritten. -/
def rewriteParams (f : CallRewriter) : List Param → List Param
  | [] => []
  | .mk kind name hint default :: rest =>
    .mk kind name (rewriteOption f hint) (rewriteOption f default) :: rewriteParams f rest

end

/-! ## §2. Patterns. -/

section Replacing

variable (f : Expr → Expr)

mutual

/-- The pattern with other expressions in the place of its own. -/
def Pattern.mapExprs : Pattern → Pattern
  | .value e => .value (f e)
  | .singleton c => .singleton c
  | .sequence patterns => .sequence (mapPatterns patterns)
  | .mapping entries rest => .mapping (mapEntries entries) rest
  | .instanceOf cls positional named =>
    .instanceOf (f cls) (mapPatterns positional) (mapNamed named)
  | .rest name => .rest name
  | .capture pattern name => .capture (mapPatternOption pattern) name
  | .alternatives patterns => .alternatives (mapPatterns patterns)

/-- Patterns with other expressions. -/
def mapPatterns : List Pattern → List Pattern
  | [] => []
  | p :: ps => p.mapExprs :: mapPatterns ps

/-- A pattern that may be absent, with other expressions. -/
def mapPatternOption : Option Pattern → Option Pattern
  | none => none
  | some p => some p.mapExprs

/-- The entries of a mapping pattern with other expressions. -/
def mapEntries : List MapEntry → List MapEntry
  | [] => []
  | .mk key pattern :: rest => .mk (f key) pattern.mapExprs :: mapEntries rest

/-- The named parts of a class pattern with other expressions. -/
def mapNamed : List NamedPattern → List NamedPattern
  | [] => []
  | .mk name pattern :: rest => .mk name pattern.mapExprs :: mapNamed rest

end

/-! ## §3. Statements. -/

/-- An argument by name with another value. -/
def Keyword.mapExprs : Keyword → Keyword
  | .mk name value => .mk name (f value)

/-- A parameter with another annotation and another default. -/
def Param.mapExprs : Param → Param
  | .mk kind name hint default => .mk kind name (hint.map f) (default.map f)

/-- An item of a `with` with another manager and another target. -/
def WithItem.mapExprs (i : WithItem) : WithItem := ⟨f i.manager, i.target.map f⟩

mutual

/-- The statement with other expressions in the place of its own. -/
def Stmt.mapExprs : Stmt → Stmt
  | .expression e => .expression (f e)
  | .assign targets value => .assign (targets.map f) (f value)
  | .augment target op value => .augment (f target) op (f value)
  | .annotate target hint value bare => .annotate (f target) (f hint) (value.map f) bare
  | .delete targets => .delete (targets.map f)
  | .giveBack value => .giveBack (value.map f)
  | .throw exception cause => .throw (exception.map f) (cause.map f)
  | .assertion test message => .assertion (f test) (message.map f)
  | .conditional test body orelse => .conditional (f test) (mapStmts body) (mapStmts orelse)
  | .whileLoop test body orelse => .whileLoop (f test) (mapStmts body) (mapStmts orelse)
  | .forLoop isAsync target iter body orelse =>
    .forLoop isAsync (f target) (f iter) (mapStmts body) (mapStmts orelse)
  | .withBlock isAsync items body =>
    .withBlock isAsync (items.map (WithItem.mapExprs f)) (mapStmts body)
  | .tryBlock isGroup body handlers orelse finalbody =>
    .tryBlock isGroup (mapStmts body) (mapHandlers handlers) (mapStmts orelse)
      (mapStmts finalbody)
  | .matchBlock subject cases => .matchBlock (f subject) (mapCases cases)
  | .function isAsync name params body decorators returns =>
    .function isAsync name (params.map (Param.mapExprs f)) (mapStmts body) (decorators.map f)
      (returns.map f)
  | .classBlock name bases keywords body decorators =>
    .classBlock name (bases.map f) (keywords.map (Keyword.mapExprs f)) (mapStmts body)
      (decorators.map f)
  | .pass line => .pass line
  | .breakLoop => .breakLoop
  | .continueLoop => .continueLoop
  | .importModules names => .importModules names
  | .importMembers module names level => .importMembers module names level
  | .globals names => .globals names
  | .nonlocals names => .nonlocals names

/-- Statements with other expressions. -/
def mapStmts : List Stmt → List Stmt
  | [] => []
  | s :: ss => s.mapExprs :: mapStmts ss

/-- Handlers with other expressions. -/
def mapHandlers : List Handler → List Handler
  | [] => []
  | .mk type name body :: rest => .mk (type.map f) name (mapStmts body) :: mapHandlers rest

/-- Cases with other expressions. -/
def mapCases : List Case → List Case
  | [] => []
  | .mk pattern guard body :: rest =>
    .mk (pattern.mapExprs f) (guard.map f) (mapStmts body) :: mapCases rest

end

end Replacing

/-- The statement with its calls rewritten. -/
def Stmt.rewriteCalls (f : CallRewriter) (s : Stmt) : Stmt := s.mapExprs (Expr.rewriteCalls f)

end Inlay.Code
