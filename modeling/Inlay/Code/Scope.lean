/-
  Inlay.Code.Scope
  ────────────────────────────────
  **NAMES AND SCOPES.**

  Which names a piece of code mentions in the scope that it stands in.  The
  bodies of functions and classes have scopes of their own.  So have
  comprehensions, except for the iterable of their first clause; a walrus
  inside one binds in the scope around it.

      Stmt.mentions  — what a statement does with names, in order
      localNames     — the names that belong to a function
-/
import Inlay.Code.Syntax

namespace Inlay.Code

/-! ## §1. Mentions. -/

/-- What is done with a name. -/
inductive Mention where
  | use (name : String)
  | bind (name : String)
  /-- Something is noted beside the name, which belongs to the scope from then on. -/
  | note (name : String)
  /-- An import binds the name. -/
  | imports (name : String)
  | global (name : String)
  | nonlocal (name : String)
  deriving Repr, DecidableEq

/-- The name that a mention binds. -/
def Mention.bound? : Mention → Option String
  | bind n => some n
  | note n => some n
  | imports n => some n
  | _ => none

/-- The name that is declared global. -/
def Mention.global? : Mention → Option String
  | global n => some n
  | _ => none

/-- The name that is declared to belong to a function around this one. -/
def Mention.nonlocal? : Mention → Option String
  | nonlocal n => some n
  | _ => none

/-! ## §2. Expressions. -/

mutual

/-- What an expression does with names.  Inside a comprehension only bindings count. -/
def Expr.mentions (inside : Bool) : Expr → List Mention
  | .constant _ => []
  | .name id => if inside then [] else [.use id]
  | .boolean _ operands => exprMentions inside operands
  | .walrus target value => value.mentions inside ++ [.bind target]
  | .binary _ left right => left.mentions inside ++ right.mentions inside
  | .unary _ operand => operand.mentions inside
  | .lambda params _ => paramMentions inside params
  | .conditional test body orelse =>
    test.mentions inside ++ body.mentions inside ++ orelse.mentions inside
  | .dict items => itemMentions inside items
  | .set elements => exprMentions inside elements
  | .list elements => exprMentions inside elements
  | .tuple elements => exprMentions inside elements
  | .comprehension _ element clauses =>
    firstMentions inside clauses ++ element.mentions true
  | .dictComprehension key value clauses =>
    firstMentions inside clauses ++ key.mentions true ++ value.mentions true
  | .await value => value.mentions inside
  | .yield value => optionMentions inside value
  | .yieldFrom value => value.mentions inside
  | .compare first links => first.mentions inside ++ linkMentions inside links
  | .call func args keywords =>
    func.mentions inside ++ exprMentions inside args ++ keywordMentions inside keywords
  | .formatted parts => exprMentions inside parts
  | .placeholder value _ spec => value.mentions inside ++ optionMentions inside spec
  | .attribute value _ => value.mentions inside
  | .subscript value index => value.mentions inside ++ index.mentions inside
  | .starred value => value.mentions inside
  | .slice lower upper step =>
    optionMentions inside lower ++ optionMentions inside upper ++ optionMentions inside step

/-- What expressions do with names. -/
def exprMentions (inside : Bool) : List Expr → List Mention
  | [] => []
  | e :: es => e.mentions inside ++ exprMentions inside es

/-- What an expression that may be absent does with names. -/
def optionMentions (inside : Bool) : Option Expr → List Mention
  | none => []
  | some e => e.mentions inside

/-- What the items of a dictionary do with names. -/
def itemMentions (inside : Bool) : List DictItem → List Mention
  | [] => []
  | .entry key value :: rest =>
    key.mentions inside ++ value.mentions inside ++ itemMentions inside rest
  | .spread value :: rest => value.mentions inside ++ itemMentions inside rest

/-- What the clauses of a comprehension do with names: the iterable of the first one stands
outside. -/
def firstMentions (inside : Bool) : List CompClause → List Mention
  | [] => []
  | .mk _ _ iter conditions :: rest =>
    iter.mentions inside ++ exprMentions true conditions ++ clauseMentions rest

/-- What the other clauses of a comprehension do with names. -/
def clauseMentions : List CompClause → List Mention
  | [] => []
  | .mk _ _ iter conditions :: rest =>
    iter.mentions true ++ exprMentions true conditions ++ clauseMentions rest

/-- What the links of a comparison do with names. -/
def linkMentions (inside : Bool) : List CompareLink → List Mention
  | [] => []
  | .mk _ right :: rest => right.mentions inside ++ linkMentions inside rest

/-- What arguments by name do with names. -/
def keywordMentions (inside : Bool) : List Keyword → List Mention
  | [] => []
  | .mk _ value :: rest => value.mentions inside ++ keywordMentions inside rest

/-- What the annotations and defaults of parameters do with names. -/
def paramMentions (inside : Bool) : List Param → List Mention
  | [] => []
  | .mk _ _ hint default :: rest =>
    optionMentions inside hint ++ optionMentions inside default ++ paramMentions inside rest

end

@[simp]
theorem Expr.mentions_constant (inside : Bool) (c : Constant) :
    (Expr.constant c).mentions inside = [] := by
  rw [Expr.mentions]

@[simp]
theorem Expr.mentions_name (id : String) : (Expr.name id).mentions false = [.use id] := by
  rw [Expr.mentions, if_neg Bool.false_ne_true]

@[simp]
theorem exprMentions_nil (inside : Bool) : exprMentions inside [] = [] := by
  rw [exprMentions]

@[simp]
theorem exprMentions_cons (inside : Bool) (e : Expr) (es : List Expr) :
    exprMentions inside (e :: es) = e.mentions inside ++ exprMentions inside es := by
  rw [exprMentions]

mutual

/-- What an assignment to an expression does with names. -/
def Expr.targetMentions : Expr → List Mention
  | .name id => [.bind id]
  | .tuple es => targetsMentions es
  | .list es => targetsMentions es
  | .starred e => e.targetMentions
  | e => e.mentions false

/-- What an assignment to some expressions does with names. -/
def targetsMentions : List Expr → List Mention
  | [] => []
  | e :: es => e.targetMentions ++ targetsMentions es

end

/-! ## §3. Patterns. -/

mutual

/-- What a pattern does with names. -/
def Pattern.mentions : Pattern → List Mention
  | .value e => e.mentions false
  | .singleton _ => []
  | .sequence patterns => patternMentions patterns
  | .mapping entries rest => entryMentions entries ++ (rest.map Mention.bind).toList
  | .instanceOf cls positional named =>
    cls.mentions false ++ patternMentions positional ++ namedMentions named
  | .rest name => (name.map Mention.bind).toList
  | .capture pattern name => patternOptionMentions pattern ++ (name.map Mention.bind).toList
  | .alternatives patterns => patternMentions patterns

/-- What patterns do with names. -/
def patternMentions : List Pattern → List Mention
  | [] => []
  | p :: ps => p.mentions ++ patternMentions ps

/-- What a pattern that may be absent does with names. -/
def patternOptionMentions : Option Pattern → List Mention
  | none => []
  | some p => p.mentions

/-- What the entries of a mapping pattern do with names. -/
def entryMentions : List MapEntry → List Mention
  | [] => []
  | .mk key p :: rest => key.mentions false ++ p.mentions ++ entryMentions rest

/-- What the named parts of a class pattern do with names. -/
def namedMentions : List NamedPattern → List Mention
  | [] => []
  | .mk _ p :: rest => p.mentions ++ namedMentions rest

end

/-! ## §4. Statements. -/

/-- The name that an import binds: its own, or the first part of the module's. -/
def ImportName.bound (n : ImportName) : String :=
  n.boundAs.getD (String.ofList (n.name.toList.takeWhile (· ≠ '.')))

/-- What a `with` does with names in one of its items. -/
def WithItem.mentions (i : WithItem) : List Mention :=
  i.manager.mentions false ++ (i.target.map Expr.targetMentions).getD []

mutual

/-- What a statement does with names.  The names of a `try` count in the order in which its parts
are analysed: the handlers come after the `else`. -/
def Stmt.mentions : Stmt → List Mention
  | .expression e => e.mentions false
  | .assign targets value => value.mentions false ++ targetsMentions targets
  | .augment target _ value => value.mentions false ++ target.targetMentions
  | .annotate (.name n) hint value bare =>
    (if bare then [.note n] else if value.isSome then [.bind n] else [])
      ++ hint.mentions false ++ optionMentions false value
  | .annotate target hint value _ =>
    target.targetMentions ++ hint.mentions false ++ optionMentions false value
  | .delete targets => targetsMentions targets
  | .giveBack value => optionMentions false value
  | .throw exception cause => optionMentions false exception ++ optionMentions false cause
  | .assertion test message => test.mentions false ++ optionMentions false message
  | .importModules names => names.map (fun n => .imports n.bound)
  | .importMembers _ names _ =>
    (names.filter (·.name ≠ "*")).map (fun n => .imports (n.boundAs.getD n.name))
  | .globals names => names.map .global
  | .nonlocals names => names.map .nonlocal
  | .conditional test body orelse =>
    test.mentions false ++ bodyMentions body ++ bodyMentions orelse
  | .whileLoop test body orelse =>
    test.mentions false ++ bodyMentions body ++ bodyMentions orelse
  | .forLoop _ target iter body orelse =>
    iter.mentions false ++ target.targetMentions ++ bodyMentions body ++ bodyMentions orelse
  | .withBlock _ items body => items.flatMap WithItem.mentions ++ bodyMentions body
  | .tryBlock _ body handlers orelse finalbody =>
    bodyMentions body ++ bodyMentions orelse ++ handlerMentions handlers
      ++ bodyMentions finalbody
  | .matchBlock subject cases => subject.mentions false ++ caseMentions cases
  | .function _ name params _ decorators returns =>
    exprMentions false decorators ++ paramMentions false params ++ optionMentions false returns
      ++ [.bind name]
  | .classBlock name bases keywords _ decorators =>
    exprMentions false decorators ++ exprMentions false bases ++ keywordMentions false keywords
      ++ [.bind name]
  | .pass _ => []
  | .breakLoop => []
  | .continueLoop => []

/-- What statements do with names. -/
def bodyMentions : List Stmt → List Mention
  | [] => []
  | s :: ss => s.mentions ++ bodyMentions ss

/-- What handlers do with names. -/
def handlerMentions : List Handler → List Mention
  | [] => []
  | .mk type name body :: rest =>
    optionMentions false type ++ (name.map Mention.bind).toList ++ bodyMentions body
      ++ handlerMentions rest

/-- What cases do with names. -/
def caseMentions : List Case → List Mention
  | [] => []
  | .mk pattern guard body :: rest =>
    pattern.mentions ++ optionMentions false guard ++ bodyMentions body ++ caseMentions rest

end

@[simp]
theorem bodyMentions_nil : bodyMentions [] = [] := by
  rw [bodyMentions]

@[simp]
theorem bodyMentions_cons (s : Stmt) (ss : List Stmt) :
    bodyMentions (s :: ss) = s.mentions ++ bodyMentions ss := by
  rw [bodyMentions]

/-! ## §5. Local names. -/

/-- The name of a parameter. -/
def Param.name : Param → String
  | mk _ n _ _ => n

/-- The names declared global among some mentions. -/
def declaredGlobal (ms : List Mention) : List String := ms.filterMap Mention.global?

/-- The names declared to belong to a function around. -/
def declaredNonlocal (ms : List Mention) : List String := ms.filterMap Mention.nonlocal?

/-- The names that belong to a function whose body does the given things with names. -/
def localNames (params : List String) (ms : List Mention) : List String :=
  (params ++ (ms.filterMap Mention.bound?).filter
    (fun n => !(declaredGlobal ms).contains n && !(declaredNonlocal ms).contains n)).eraseDups

/-- The names that the clauses of a comprehension bind. -/
def clauseTargets (clauses : List CompClause) : List String :=
  (clauses.flatMap (fun
    | .mk _ target _ _ => target.targetMentions.filterMap Mention.bound?)).eraseDups

end Inlay.Code
