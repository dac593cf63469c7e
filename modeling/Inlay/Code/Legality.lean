/-
  Inlay.Code.Legality
  ────────────────────────────────
  **WHAT MAY STAND WHERE.**

  Code that reads well may still be refused as a whole: a `break` outside
  loops, a `return` outside functions, a case that can never be reached, a
  name declared global after its use.  `isLegal` is the test for a module.

  A `Place` says what surrounds a piece of code.  The tests go down the tree
  and change the place as they enter loops, handlers, functions and
  comprehensions.
-/
import Inlay.Code.Scope
import Inlay.Decimal.Shortest

namespace Inlay.Code

/-! ## §1. Places. -/

/-- The kinds of scopes. -/
inductive ScopeKind where
  | module | function | asyncFunction | lambda | classBody
  | comprehension (inClass : Bool)
  deriving Repr, DecidableEq

/-- What surrounds a piece of code. -/
structure Place where
  kind : ScopeKind := .module
  /-- May an expression wait here? -/
  mayAwait : Bool := false
  /-- The loop variables of the comprehensions around. -/
  loopNames : List String := []
  /-- Is this part of what a comprehension goes over? -/
  inIterable : Bool := false
  inLoop : Bool := false
  mayReturn : Bool := false
  /-- The loops, handlers and managers around in the same scope. -/
  depth : Nat := 0
  /-- The names of the functions around, innermost first. -/
  around : List (List String) := []

namespace Place

/-- At most so many loops, handlers and managers may nest. -/
def maxDepth : Nat := 20

/-- May one more loop, handler or manager be entered? -/
def hasRoom (p : Place) (levels : Nat) : Bool := p.depth + levels ≤ maxDepth

/-- The place inside some more loops, handlers or managers. -/
def deeper (p : Place) (levels : Nat) : Place := { p with depth := p.depth + levels }

/-- The place inside a loop. -/
def loop (p : Place) : Place := { p.deeper 1 with inLoop := true }

/-- The place inside a handler of a group, which control may leave at its end only. -/
def groupHandler (p : Place) : Place := { p with inLoop := false, mayReturn := false }

/-- The place inside what a comprehension goes over. -/
def iterable (p : Place) : Place := { p with inIterable := true }

/-- The place inside a lambda. -/
def lambda (p : Place) : Place :=
  { kind := .lambda, inIterable := p.inIterable, around := p.around }

/-- The place inside a comprehension with the given loop variables. -/
def comprehension (p : Place) (kind : Collection) (names : List String) : Place :=
  let inClass := match p.kind with
    | .comprehension c => c
    | .classBody => true
    | _ => false
  let nested := match p.kind with
    | .comprehension _ => true
    | _ => false
  { p with
    kind := .comprehension inClass
    mayAwait := kind = .generator || p.kind = .asyncFunction || (nested && p.mayAwait)
    loopNames := names ++ p.loopNames }

/-- The place inside a function with the given local names. -/
def function (p : Place) (isAsync : Bool) (locals : List String) : Place :=
  { kind := if isAsync then .asyncFunction else .function
    mayAwait := isAsync, mayReturn := true, around := locals :: p.around }

/-- The place inside a class. -/
def classBody (p : Place) : Place := { kind := .classBody, around := p.around }

/-- May an expression yield here? -/
def mayYield (p : Place) : Bool :=
  p.kind = .function || p.kind = .asyncFunction || p.kind = .lambda

/-- May a walrus bind the name here? -/
def mayBind (p : Place) (name : String) : Bool :=
  !p.inIterable && name ≠ "__debug__" &&
    match p.kind with
    | .comprehension inClass => !inClass && !p.loopNames.contains name
    | _ => true

end Place

/-- Do no two texts agree? -/
def allDistinct : List String → Bool
  | [] => true
  | s :: ss => !ss.contains s && allDistinct ss

/-- The names that are given by keyword. -/
def keywordNames (keywords : List Keyword) : List String :=
  keywords.filterMap (fun
    | .mk name _ => name)

/-- May these names be given by keyword? -/
def keywordsDistinct (keywords : List Keyword) : Bool :=
  allDistinct (keywordNames keywords) && !(keywordNames keywords).contains "__debug__"

/-- May these parameters stand together? -/
def paramsDistinct (params : List Param) : Bool :=
  allDistinct (params.map Param.name) && !(params.map Param.name).contains "__debug__"

/-- A star may have so many targets in front of it. -/
def maxBeforeStar : Nat := 255

/-- Does no star have too many targets in front of it? -/
def starInReach {α : Type} (isStar : α → Bool) (targets : List α) : Bool :=
  targets.all (!isStar ·) || (targets.takeWhile (!isStar ·)).length ≤ maxBeforeStar

/-! ## §2. Expressions. -/

mutual

/-- May the expression stand here? -/
def Expr.legal (p : Place) : Expr → Bool
  | .constant _ => true
  | .name _ => true
  | .boolean _ operands => exprsLegal p operands
  | .walrus target value => p.mayBind target && value.legal p
  | .binary _ left right => left.legal p && right.legal p
  | .unary _ operand => operand.legal p
  | .lambda params body =>
    paramsDistinct params && paramsLegal p params && body.legal p.lambda
  | .conditional test body orelse => test.legal p && body.legal p && orelse.legal p
  | .dict items => itemsLegal p items
  | .set elements => elementsLegal p elements
  | .list elements => elementsLegal p elements
  | .tuple elements => elementsLegal p elements
  | .comprehension kind element clauses =>
    let inner := p.comprehension kind (clauseTargets clauses)
    clausesLegal p inner clauses && element.legal inner
  | .dictComprehension key value clauses =>
    let inner := p.comprehension .list (clauseTargets clauses)
    clausesLegal p inner clauses && key.legal inner && value.legal inner
  | .await value => p.mayAwait && value.legal p
  | .yield value => p.mayYield && optionLegal p value
  | .yieldFrom value => p.mayYield && p.kind ≠ .asyncFunction && value.legal p
  | .compare first links => first.legal p && linksLegal p links
  | .call func args keywords =>
    func.legal p && elementsLegal p args && keywordsDistinct keywords && keywordsLegal p keywords
  | .formatted parts => exprsLegal p parts
  | .placeholder value _ spec => value.legal p && optionLegal p spec
  | .attribute value _ => value.legal p
  | .subscript value index => value.legal p && index.legal p
  | .starred _ => false
  | .slice lower upper step => optionLegal p lower && optionLegal p upper && optionLegal p step

/-- May the expressions stand here? -/
def exprsLegal (p : Place) : List Expr → Bool
  | [] => true
  | e :: es => e.legal p && exprsLegal p es

/-- May the expressions stand here as elements, where stars are allowed? -/
def elementsLegal (p : Place) : List Expr → Bool
  | [] => true
  | .starred e :: es => e.legal p && elementsLegal p es
  | e :: es => e.legal p && elementsLegal p es

/-- May the expression stand here, if there is one? -/
def optionLegal (p : Place) : Option Expr → Bool
  | none => true
  | some e => e.legal p

/-- May the items of a dictionary stand here? -/
def itemsLegal (p : Place) : List DictItem → Bool
  | [] => true
  | .entry key value :: rest => key.legal p && value.legal p && itemsLegal p rest
  | .spread value :: rest => value.legal p && itemsLegal p rest

/-- May the clauses of a comprehension stand here?  The first iterable stands outside, the rest
inside. -/
def clausesLegal (outer inner : Place) : List CompClause → Bool
  | [] => true
  | .mk isAsync target iter conditions :: rest =>
    (!isAsync || inner.mayAwait) && target.legalTarget inner && iter.legal outer.iterable
      && exprsLegal inner conditions && clausesLegal inner inner rest

/-- May the links of a comparison stand here? -/
def linksLegal (p : Place) : List CompareLink → Bool
  | [] => true
  | .mk _ right :: rest => right.legal p && linksLegal p rest

/-- May the arguments by name stand here? -/
def keywordsLegal (p : Place) : List Keyword → Bool
  | [] => true
  | .mk _ value :: rest => value.legal p && keywordsLegal p rest

/-- May the annotations and defaults of parameters stand here? -/
def paramsLegal (p : Place) : List Param → Bool
  | [] => true
  | .mk _ _ (some (.starred e)) default :: rest =>
    e.legal p && optionLegal p default && paramsLegal p rest
  | .mk _ _ hint default :: rest =>
    optionLegal p hint && optionLegal p default && paramsLegal p rest

/-- May the expression be assigned to here?  A star may stand once among several. -/
def Expr.legalTarget (p : Place) : Expr → Bool
  | .name id => id ≠ "__debug__"
  | .tuple ts =>
    (ts.filter Expr.isStarred).length ≤ 1 && starInReach Expr.isStarred ts && nestedLegal p ts
  | .list ts =>
    (ts.filter Expr.isStarred).length ≤ 1 && starInReach Expr.isStarred ts && nestedLegal p ts
  | .attribute value name => name ≠ "__debug__" && value.legal p
  | .subscript value index => value.legal p && index.legal p
  | _ => false

/-- May the expressions be assigned to as parts of a tuple or a list? -/
def nestedLegal (p : Place) : List Expr → Bool
  | [] => true
  | .starred t :: es => t.legalTarget p && nestedLegal p es
  | t :: es => t.legalTarget p && nestedLegal p es

end

@[simp]
theorem Expr.legal_constant (p : Place) (c : Constant) : (Expr.constant c).legal p = true := by
  rw [Expr.legal]

@[simp]
theorem Expr.legal_name (p : Place) (id : String) : (Expr.name id).legal p = true := by
  rw [Expr.legal]

@[simp]
theorem Expr.legal_starred (p : Place) (e : Expr) : (Expr.starred e).legal p = false := by
  rw [Expr.legal]

/-! ## §3. Patterns. -/

/-- Is the expression one that a pattern may compare with? -/
def isComparable : Expr → Bool
  | .formatted _ => false
  | _ => true

/-- The names of two parts of a pattern, if none is bound twice. -/
def joinNames? (a b : Option (List String)) : Option (List String) := do
  let xs ← a
  let ys ← b
  if xs.any ys.contains then none else some (xs ++ ys)

/-- Do two lists hold the same names? -/
def sameNames (a b : List String) : Bool := a.all b.contains && b.all a.contains

/-- The key of an entry, as code. -/
def MapEntry.key : MapEntry → Expr
  | .mk k _ => k

/-- A number with a part on the imaginary axis; the other part is `mantissa · 2 ^ exponent`. -/
structure KeyNumber where
  mantissa : Int
  exponent : Int
  imaginary : Float

/-- Are the numbers equal? -/
def KeyNumber.equal (a b : KeyNumber) : Bool :=
  let low := min a.exponent b.exponent
  a.imaginary == b.imaginary
    && a.mantissa * Nat.pow 2 (a.exponent - low).toNat
      == b.mantissa * Nat.pow 2 (b.exponent - low).toNat

/-- The key with the opposite sign. -/
def KeyNumber.negated (k : KeyNumber) : KeyNumber := ⟨-k.mantissa, k.exponent, -k.imaginary⟩

/-- What a constant key of a mapping pattern stands for. -/
inductive KeyConstant where
  | number (k : KeyNumber)
  | other (c : Constant)

/-- The number that a constant stands for; truth values count as one and zero. -/
def Constant.keyNumber? : Constant → Option KeyNumber
  | true => some ⟨1, 0, 0⟩
  | false => some ⟨0, 0, 0⟩
  | int n => some ⟨n, 0, 0⟩
  | float x =>
    let b := Decimal.Binary.ofBits x.toBits
    some ⟨b.mantissa, b.exponent, 0⟩
  | imaginary x => some ⟨0, 0, x⟩
  | _ => Option.none

/-- What a key stands for, if it is a constant, perhaps with a sign or with an imaginary part. -/
def keyConstant? : Expr → Option KeyConstant
  | .constant c =>
    match c.keyNumber? with
    | some k => some (.number k)
    | none =>
      match c with
      | .text s _ => some (.other (.text s false))
      | c => some (.other c)
  | .unary .negate (.constant c) => (c.keyNumber?).map (fun k => .number k.negated)
  | .binary op e (.constant (.imaginary y)) =>
    match e with
    | .constant c =>
      (c.keyNumber?).map (fun k =>
        .number { k with imaginary := if op = .sub then -y else y })
    | .unary .negate (.constant c) =>
      (c.keyNumber?).map (fun k =>
        .number { k.negated with imaginary := if op = .sub then -y else y })
    | _ => none
  | _ => none

/-- Are two constant keys the same? -/
def KeyConstant.equal : KeyConstant → KeyConstant → Bool
  | number a, number b => a.equal b
  | other a, other b => a == b
  | _, _ => false

/-- Are no two of the keys the same constant? -/
def keysDistinct : List KeyConstant → Bool
  | [] => true
  | k :: ks => !ks.any k.equal && keysDistinct ks

/-- Is the pattern the rest of a sequence, under a name? -/
def Pattern.isNamedRest : Pattern → Bool
  | .rest (some _) => true
  | _ => false

mutual

/-- The names that a pattern binds, if it may stand here.  Whether it may match anything is given. -/
def Pattern.names? (mayCatchAll : Bool) : Pattern → Option (List String)
  | .value e => if isComparable e then some [] else none
  | .singleton _ => some []
  | .sequence patterns =>
    if (patterns.filter Pattern.isRest).length ≤ 1 && starInReach Pattern.isNamedRest patterns then
      partNames? patterns
    else none
  | .mapping entries rest =>
    let keys := (entries.map MapEntry.key).filterMap keyConstant?
    if keysDistinct keys && (entries.map MapEntry.key).all isComparable then
      joinNames? (entryNames? entries) (some rest.toList)
    else none
  | .instanceOf _ positional named =>
    if allDistinct (named.map (fun
      | .mk n _ => n)) then
      joinNames? (partNames? positional) (namedNames? named)
    else none
  | .rest name => some name.toList
  | .capture none name => if mayCatchAll then some name.toList else none
  | .capture (some p) name => joinNames? (p.names? mayCatchAll) (some name.toList)
  | .alternatives patterns => alternativeNames? mayCatchAll patterns

/-- The names that parts of a pattern bind together. -/
def partNames? : List Pattern → Option (List String)
  | [] => some []
  | p :: ps => joinNames? (p.names? true) (partNames? ps)

/-- The names that the values of entries bind together. -/
def entryNames? : List MapEntry → Option (List String)
  | [] => some []
  | .mk _ p :: rest => joinNames? (p.names? true) (entryNames? rest)

/-- The names that the attributes of a class pattern bind together. -/
def namedNames? : List NamedPattern → Option (List String)
  | [] => some []
  | .mk _ p :: rest => joinNames? (p.names? true) (namedNames? rest)

/-- The names that each of some alternatives binds; only the last one may match anything. -/
def alternativeNames? (mayCatchAll : Bool) : List Pattern → Option (List String)
  | [] => some []
  | [p] => p.names? mayCatchAll
  | p :: ps => do
    let xs ← p.names? false
    let ys ← alternativeNames? mayCatchAll ps
    if sameNames xs ys then some xs else none

end

/-! ## §4. Declarations. -/

/-- Are the names declared global, or declared to belong to a function around, before anything
else is done with them in the scope?  `seen` are the names with which something was done, and
`declared` those that were declared. -/
def declarationsLegal (isModule : Bool) (around : List (List String))
    (seen declared : List String) : List Mention → Bool
  | [] => true
  | .use n :: ms => declarationsLegal isModule around (n :: seen) declared ms
  | .bind n :: ms =>
    n ≠ "__debug__" && declarationsLegal isModule around (n :: seen) declared ms
  | .note n :: ms =>
    n ≠ "__debug__" && (isModule || !declared.contains n)
      && declarationsLegal isModule around (n :: seen) declared ms
  | .imports n :: ms => n ≠ "__debug__" && declarationsLegal isModule around seen declared ms
  | .global n :: ms =>
    !seen.contains n && declarationsLegal isModule around seen (n :: declared) ms
  | .nonlocal n :: ms =>
    !isModule && !seen.contains n && around.any (·.contains n)
      && declarationsLegal isModule around seen (n :: declared) ms

/-- Is no name declared in both ways? -/
def declaredApart (ms : List Mention) : Bool :=
  (declaredGlobal ms).all (fun n => !(declaredNonlocal ms).contains n)

/-- May a scope with the given parameters do these things with names? -/
def scopeLegal (isModule : Bool) (around : List (List String)) (params : List String)
    (ms : List Mention) : Bool :=
  declarationsLegal isModule around params [] ms && declaredApart ms

/-! ## §5. Statements. -/

/-- May all exceptions be caught here?  Only the last handler may catch everything. -/
def bareHandlerLast : List Handler → Bool
  | [] => true
  | [_] => true
  | .mk type _ _ :: rest => type.isSome && bareHandlerLast rest

/-- May an item of a `with` stand here? -/
def WithItem.legal (p : Place) (i : WithItem) : Bool :=
  i.manager.legal p && (i.target.map (Expr.legalTarget p)).getD true

/-- May the managers of a `with` nest here, the later ones inside the earlier ones? -/
def itemsLegalFrom (p : Place) : List WithItem → Bool
  | [] => true
  | i :: rest => i.legal p && p.hasRoom 1 && itemsLegalFrom (p.deeper 1) rest

mutual

/-- May the statement stand here? -/
def Stmt.legal (p : Place) : Stmt → Bool
  | .expression e => e.legal p
  | .assign targets value => value.legal p && targets.all (Expr.legalTarget p)
  | .augment target _ value => target.legalTarget p && value.legal p
  | .annotate target hint value _ => target.legalTarget p && hint.legal p && optionLegal p value
  | .delete targets => targets.all (Expr.legalTarget p)
  | .pass _ => true
  | .breakLoop => p.inLoop
  | .continueLoop => p.inLoop
  | .giveBack value => p.mayReturn && optionLegal p value
  | .throw exception cause => optionLegal p exception && optionLegal p cause
  | .assertion test message => test.legal p && optionLegal p message
  | .importModules _ => true
  | .importMembers module names _ =>
    module ≠ some "__future__" && (names.all (·.name ≠ "*") || p.kind = .module)
  | .globals _ => true
  | .nonlocals _ => true
  | .conditional test body orelse => test.legal p && bodyLegal p body && bodyLegal p orelse
  | .whileLoop test body orelse =>
    test.legal p && p.hasRoom 1 && bodyLegal p.loop body && bodyLegal p orelse
  | .forLoop isAsync target iter body orelse =>
    (!isAsync || p.kind = .asyncFunction) && target.legalTarget p && iter.legal p
      && p.hasRoom 1 && bodyLegal p.loop body && bodyLegal p orelse
  | .withBlock isAsync items body =>
    (!isAsync || p.kind = .asyncFunction) && itemsLegalFrom p items
      && bodyLegal (p.deeper items.length) body
  | .tryBlock isGroup body handlers orelse finalbody =>
    let outer := if finalbody.isEmpty then 0 else 1
    let inner := if handlers.isEmpty then 0 else 1
    let q := p.deeper outer
    p.hasRoom (outer + inner) && bodyLegal (q.deeper inner) body
      && bareHandlerLast handlers && handlersLegal isGroup q handlers && bodyLegal q orelse
      && bodyLegal q finalbody
  | .matchBlock subject cases => subject.legal p && casesLegal p cases
  | .function isAsync name params body decorators returns =>
    let names := params.map Param.name
    let ms := bodyMentions body
    name ≠ "__debug__" && paramsDistinct params && paramsLegal p params
      && exprsLegal p decorators && optionLegal p returns
      && scopeLegal false p.around names ms
      && bodyLegal (p.function isAsync (localNames names ms)) body
  | .classBlock name bases keywords body decorators =>
    name ≠ "__debug__" && elementsLegal p bases && keywordsDistinct keywords
      && keywordsLegal p keywords && exprsLegal p decorators
      && scopeLegal false p.around [] (bodyMentions body) && bodyLegal p.classBody body

/-- May the statements stand here? -/
def bodyLegal (p : Place) : List Stmt → Bool
  | [] => true
  | s :: ss => s.legal p && bodyLegal p ss

/-- May the handlers stand here? -/
def handlersLegal (isGroup : Bool) (p : Place) : List Handler → Bool
  | [] => true
  | .mk type name body :: rest =>
    let q := p.deeper 2
    optionLegal (p.deeper 1) type && name ≠ some "__debug__" && p.hasRoom 2
      && bodyLegal (if isGroup then q.groupHandler else q) body && handlersLegal isGroup p rest

/-- May the cases stand here?  One that matches anything without a condition must be the last. -/
def casesLegal (p : Place) : List Case → Bool
  | [] => true
  | .mk pattern guard body :: rest =>
    (pattern.names? (guard.isSome || rest.isEmpty)).isSome && optionLegal p guard
      && bodyLegal p body && casesLegal p rest

end

@[simp]
theorem bodyLegal_nil (p : Place) : bodyLegal p [] = true := by
  rw [bodyLegal]

theorem bodyLegal_cons (p : Place) (s : Stmt) (ss : List Stmt) :
    bodyLegal p (s :: ss) = (s.legal p && bodyLegal p ss) := by
  rw [bodyLegal]

/-- May the statements stand as a module? -/
def isLegal (body : List Stmt) : Bool :=
  scopeLegal true [] [] (bodyMentions body) && bodyLegal {} body

end Inlay.Code
