/-
  Inlay.Code.Depth
  ────────────────────────────────
  **HOW DEEP TREES MAY NEST.**

  Whoever goes down a tree has only so many calls to make inside of each
  other.  A `Descent` says what each step down costs; a tree fits a budget if
  no way from its root to a leaf costs more.

      Expr.parts — the expressions right below an expression
      Expr.fits  — does no way down an expression cost more than the budget?
      Stmt.fits  — the same for a statement
-/
import Inlay.Code.Syntax

namespace Inlay.Code

/-! ## §1. Parts of expressions. -/

/-- An expression below another one: how many nodes that are no expressions stand between the
two, and how many further calls it takes to write it in its place. -/
structure Part where
  joints : Nat := 0
  detour : Nat := 0
  expr : Expr

/-- Expressions right below another one. -/
def direct (es : List Expr) : List Part := es.map (fun e => { expr := e })

/-- Expressions below another one with so many further calls when written. -/
def detoured (n : Nat) (es : List Expr) : List Part := es.map (fun e => { detour := n, expr := e })

/-- Expressions below a node of their own. -/
def jointed (es : List Expr) : List Part := es.map (fun e => { joints := 1, expr := e })

/-- The expressions in the parameters of a function. -/
def paramExprs (params : List Param) : List Expr :=
  params.flatMap (fun
    | .mk _ _ hint default => hint.toList ++ default.toList)

/-- The expressions in the items of a dictionary. -/
def DictItem.parts : DictItem → List Part
  | .entry key value => detoured 3 [key, value]
  | .spread value => detoured 2 [value]

/-- The expressions in the clauses of a comprehension. -/
def clauseExprs (clauses : List CompClause) : List Expr :=
  clauses.flatMap (fun
    | .mk _ target iter conditions => target :: iter :: conditions)

/-- The expressions in arguments by name. -/
def keywordExprs (keywords : List Keyword) : List Expr :=
  keywords.map (fun
    | .mk _ value => value)

/-- The expressions right below an expression. -/
def Expr.parts : Expr → List Part
  | .constant _ => []
  | .name _ => []
  | .boolean _ operands => detoured 2 operands
  | .walrus _ value => direct [value]
  | .binary _ left right => direct [left, right]
  | .unary _ operand => direct [operand]
  | .lambda params body => jointed (paramExprs params) ++ direct [body]
  | .conditional test body orelse => direct [test, body, orelse]
  | .dict items => items.flatMap DictItem.parts
  | .set elements => detoured 1 elements
  | .list elements => detoured 1 elements
  | .tuple elements => detoured (if elements.length = 1 then 1 else 2) elements
  | .comprehension _ element clauses => direct [element] ++ jointed (clauseExprs clauses)
  | .dictComprehension key value clauses => direct [key, value] ++ jointed (clauseExprs clauses)
  | .await value => direct [value]
  | .yield value => direct value.toList
  | .yieldFrom value => direct [value]
  | .compare first links =>
    direct (first :: links.map (fun
      | .mk _ right => right))
  | .call func args keywords => direct (func :: args) ++ jointed (keywordExprs keywords)
  | .formatted parts => detoured 1 parts
  | .placeholder value _ spec => detoured 1 (value :: spec.toList)
  | .attribute value _ => direct [value]
  | .subscript value index => direct [value, index]
  | .starred value => direct [value]
  | .slice lower upper step => direct (lower.toList ++ upper.toList ++ step.toList)

/-! ## §2. Ways down. -/

/-- What it costs to go down a tree: at a node, at a call, and whether writing makes detours. -/
structure Descent where
  node : Nat
  call : Nat
  detours : Bool

/-- What an expression itself costs. -/
def Descent.cost (d : Descent) : Expr → Nat
  | .call _ _ _ => d.call
  | _ => d.node

/-- What stands between an expression and one of its parts costs. -/
def Descent.between (d : Descent) (p : Part) : Nat :=
  p.joints * d.node + if d.detours then p.detour else 0

/-- Does no way down the expression cost more than the budget?  The fuel bounds the depth. -/
def Expr.fitsUpTo (d : Descent) (fuel budget : Nat) (e : Expr) : Bool :=
  match fuel with
  | 0 => false
  | n + 1 =>
    d.cost e ≤ budget &&
      e.parts.all (fun p => p.expr.fitsUpTo d n (budget - d.cost e - d.between p))

/-- Does no way down the expression cost more than the budget? -/
def Expr.fits (d : Descent) (budget : Nat) (e : Expr) : Bool := e.fitsUpTo d (budget + 1) budget

/-- Do the expressions fit the budget? -/
def exprsFit (d : Descent) (budget : Nat) (es : List Expr) : Bool := es.all (Expr.fits d budget)

/-! ## §3. Statements. -/

/-- What it costs to come from a statement to those in its body. -/
def Descent.intoBody (d : Descent) : Nat := d.node + if d.detours then 1 else 0

/-- What it costs to come from a function to its body. -/
def Descent.intoFunction (d : Descent) : Nat := d.node + if d.detours then 3 else 0

/-- Is the statement one with a test that is made once? -/
def Stmt.isConditional : Stmt → Bool
  | .conditional _ _ _ => true
  | _ => false

mutual

/-- Does no way down the statement cost more than the budget?  A chain of tests is written
without going down. -/
def Stmt.fits (d : Descent) (budget : Nat) : Stmt → Bool
  | .conditional test body orelse =>
    d.node ≤ budget && test.fits d (budget - d.node) && bodyFits d (budget - d.intoBody) body
      && orelseFits d budget orelse
  | .whileLoop test body orelse =>
    d.node ≤ budget && test.fits d (budget - d.node) && bodyFits d (budget - d.intoBody) body
      && bodyFits d (budget - d.intoBody) orelse
  | .forLoop _ target iter body orelse =>
    d.node ≤ budget && exprsFit d (budget - d.node) [target, iter]
      && bodyFits d (budget - d.intoBody) body && bodyFits d (budget - d.intoBody) orelse
  | .withBlock _ items body =>
    d.node ≤ budget
      && items.all (fun i =>
        exprsFit d (budget - 2 * d.node) (i.manager :: i.target.toList))
      && bodyFits d (budget - d.intoBody) body
  | .tryBlock _ body handlers orelse finalbody =>
    d.node ≤ budget && bodyFits d (budget - d.intoBody) body
      && handlersFit d (budget - d.node) handlers
      && bodyFits d (budget - d.intoBody) orelse && bodyFits d (budget - d.intoBody) finalbody
  | .matchBlock subject cases =>
    d.node ≤ budget && subject.fits d (budget - d.node) && casesFit d (budget - d.node) cases
  | .function _ _ params body decorators returns =>
    d.node ≤ budget && exprsFit d (budget - d.node) (decorators ++ returns.toList)
      && exprsFit d (budget - 2 * d.node) (paramExprs params)
      && bodyFits d (budget - d.intoFunction) body
  | .classBlock _ bases keywords body decorators =>
    d.node ≤ budget && exprsFit d (budget - d.node) (decorators ++ bases)
      && exprsFit d (budget - 2 * d.node) (keywordExprs keywords)
      && bodyFits d (budget - d.intoFunction) body
  | .expression e => d.node ≤ budget && e.fits d (budget - d.node)
  | .assign targets value => d.node ≤ budget && exprsFit d (budget - d.node) (value :: targets)
  | .augment target _ value => d.node ≤ budget && exprsFit d (budget - d.node) [target, value]
  | .annotate target hint value _ =>
    d.node ≤ budget && exprsFit d (budget - d.node) (target :: hint :: value.toList)
  | .delete targets => d.node ≤ budget && exprsFit d (budget - d.node) targets
  | .giveBack value => d.node ≤ budget && exprsFit d (budget - d.node) value.toList
  | .throw exception cause =>
    d.node ≤ budget && exprsFit d (budget - d.node) (exception.toList ++ cause.toList)
  | .assertion test message =>
    d.node ≤ budget && exprsFit d (budget - d.node) (test :: message.toList)
  | _ => d.node ≤ budget

/-- Do the statements fit the budget? -/
def bodyFits (d : Descent) (budget : Nat) : List Stmt → Bool
  | [] => true
  | s :: ss => s.fits d budget && bodyFits d budget ss

/-- Does what follows a test fit the budget? -/
def orelseFits (d : Descent) (budget : Nat) : List Stmt → Bool
  | [] => true
  | s :: ss =>
    if ss.isEmpty && s.isConditional then s.fits d (if d.detours then budget else budget - d.node)
    else s.fits d (budget - d.intoBody) && bodyFits d (budget - d.intoBody) ss

/-- Do the handlers fit the budget? -/
def handlersFit (d : Descent) (budget : Nat) : List Handler → Bool
  | [] => true
  | .mk type _ body :: rest =>
    d.node ≤ budget && exprsFit d (budget - d.node) type.toList
      && bodyFits d (budget - d.intoBody) body && handlersFit d budget rest

/-- Do the cases fit the budget? -/
def casesFit (d : Descent) (budget : Nat) : List Case → Bool
  | [] => true
  | .mk _ guard body :: rest =>
    d.node ≤ budget && exprsFit d (budget - d.node) guard.toList
      && bodyFits d (budget - d.intoBody) body && casesFit d budget rest

end

/-! ## §4. Budgets. -/

/-- Reading makes one call for each node of the tree. -/
def reading : Descent := ⟨1, 1, false⟩

/-- So many calls may nest when code is read. -/
def readingBudget : Nat := 2981

/-- Rewriting makes two calls for each node, and three for a call. -/
def rewriting : Descent := ⟨2, 3, false⟩

/-- So many calls may nest when include calls are wrapped. -/
def rewritingBudget : Nat := 992

/-- Writing makes three calls for each node, and some on the way to nested ones. -/
def writing : Descent := ⟨3, 3, true⟩

/-- So many calls may nest when a tree is written as code. -/
def writingBudget : Nat := 990

end Inlay.Code
