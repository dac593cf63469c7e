/-
  Inlay.Code.Naming
  ────────────────────────────────
  **NAMES THAT ARE NO NAMES.**

  An identifier may be spelled in several ways.  So a word that is not
  reserved as it is written can turn out to be the name of a constant, or the
  underscore that patterns keep for themselves.  Such a name can be read but
  not used.
-/
import Inlay.Code.Depth
import Inlay.Code.Scope

namespace Inlay.Code

/-- What is wrong with a name. -/
inductive NameFault where
  /-- It is that of a constant. -/
  | constant (name : String)
  /-- It stands for no name in patterns. -/
  | underscore
  deriving Repr, DecidableEq

/-- The names of constants. -/
def constantNames : List String := ["None", "True", "False"]

/-- What is wrong with a name in an expression. -/
def nameFault? (name : String) : Option NameFault :=
  if constantNames.contains name then some (.constant name) else none

/-- What is wrong with a name that a pattern binds. -/
def captureFault? (name : String) : Option NameFault :=
  if name = "_" then some .underscore else nameFault? name

/-- The name that an expression itself mentions. -/
def Expr.ownName? : Expr → Option String
  | .name id => some id
  | .walrus target _ => some target
  | _ => none

/-- The first fault of a name in an expression; the fuel bounds its depth. -/
def Expr.nameFault? (fuel : Nat) (e : Expr) : Option NameFault :=
  match fuel with
  | 0 => none
  | n + 1 =>
    (e.ownName?.bind Code.nameFault?).or (e.parts.findSome? (fun p => p.expr.nameFault? n))

/-- The expressions of a statement itself. -/
def Stmt.exprs : Stmt → List Expr
  | .expression e => [e]
  | .assign targets value => targets ++ [value]
  | .augment target _ value => [target, value]
  | .annotate target hint value _ => target :: hint :: value.toList
  | .delete targets => targets
  | .giveBack value => value.toList
  | .throw exception cause => exception.toList ++ cause.toList
  | .assertion test message => test :: message.toList
  | .conditional test _ _ => [test]
  | .whileLoop test _ _ => [test]
  | .forLoop _ target iter _ _ => [target, iter]
  | .withBlock _ items _ => items.flatMap (fun i => i.manager :: i.target.toList)
  | .tryBlock _ _ handlers _ _ =>
    handlers.flatMap (fun
      | .mk type _ _ => type.toList)
  | .matchBlock subject cases =>
    subject :: cases.flatMap (fun
      | .mk _ guard _ => guard.toList)
  | .function _ _ params _ decorators returns =>
    paramExprs params ++ decorators ++ returns.toList
  | .classBlock _ bases keywords _ decorators => bases ++ keywordExprs keywords ++ decorators
  | _ => []

/-- The bodies of a statement. -/
def Stmt.bodies : Stmt → List (List Stmt)
  | .conditional _ body orelse => [body, orelse]
  | .whileLoop _ body orelse => [body, orelse]
  | .forLoop _ _ _ body orelse => [body, orelse]
  | .withBlock _ _ body => [body]
  | .tryBlock _ body handlers orelse finalbody =>
    body :: handlers.map (fun
      | .mk _ _ b => b) ++ [orelse, finalbody]
  | .matchBlock _ cases =>
    cases.map (fun
      | .mk _ _ b => b)
  | .function _ _ _ body _ _ => [body]
  | .classBlock _ _ _ body _ => [body]
  | _ => []

/-- The names that the patterns of a statement bind. -/
def Stmt.captures : Stmt → List String
  | .matchBlock _ cases =>
    cases.flatMap (fun
      | .mk pattern _ _ => pattern.mentions.filterMap Mention.bound?)
  | _ => []

/-- The first fault of a name in some statements; the fuel bounds their depth. -/
def namesFault? (fuel : Nat) (body : List Stmt) : Option NameFault :=
  match fuel with
  | 0 => none
  | n + 1 =>
    body.findSome? (fun s =>
      (s.exprs.findSome? (Expr.nameFault? fuel)).or
        ((s.captures.findSome? captureFault?).or (s.bodies.findSome? (namesFault? n))))

/-- The first fault of a name in a module. -/
def misnamed? (body : List Stmt) : Option NameFault := namesFault? readingBudget body

end Inlay.Code
