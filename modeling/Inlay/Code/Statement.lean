/-
  Inlay.Code.Statement
  ────────────────────────────────
  **READING STATEMENTS.**

  Every line is read by itself: as simple statements, or as a header with
  its body.  Headers that continue a statement (`elif`, `else`, `except`,
  `finally`) are gathered behind the header that they continue, and the
  whole is one compound statement.

      readItems? — the lines of a suite, each with its body
      assemble?  — the statements that they form
-/
import Inlay.Code.Matching

namespace Inlay.Code

open Reader

/-! ## §1. Simple statements. -/

/-- The line of the next lexeme. -/
def nextLine : Reader Nat := fun ts => some ((ts.head?.map Tok.line).getD 0, ts)

/-- A `yield`, or expressions of which some may be starred. -/
def valueOf (g : Grammar) : Reader Expr := do
  if ← acceptWord "yield" then yielded g else starExpressions g

/-- The operators that assign. -/
def augmentedSigns : List (String × BinaryOp) :=
  [("+=", .add), ("-=", .sub), ("*=", .mul), ("@=", .matMul), ("/=", .div), ("%=", .mod),
   ("&=", .bitAnd), ("|=", .bitOr), ("^=", .bitXor), ("<<=", .shiftLeft), (">>=", .shiftRight),
   ("**=", .pow), ("//=", .floorDiv)]

/-- Is the expression a single target, neither a tuple nor a list? -/
def Expr.isSingleTarget : Expr → Bool
  | .name _ => true
  | .attribute _ _ => true
  | .subscript _ _ => true
  | _ => false

/-- Is the expression a name? -/
def Expr.isName : Expr → Bool
  | .name _ => true
  | _ => false

/-- An assignment of one of the three kinds, or an expression. -/
def assignment (g : Grammar) : Reader Stmt := do
  let parenthesized ← atSign "("
  let first ← valueOf g
  if ← acceptSign ":" then
    ensure first.isSingleTarget
    let hint ← g.expression
    let value ← (do if ← acceptSign "=" then return some (← valueOf g) else return none)
    return .annotate first hint value (first.isName && !parenthesized)
  else
    match ← signIn? augmentedSigns with
    | some op =>
      ensure first.isSingleTarget
      return .augment first op (← valueOf g)
    | none =>
      let more ← many do
        if ← acceptSign "=" then return some (← valueOf g) else return none
      match more.getLast? with
      | none => return .expression first
      | some value =>
        let targets := first :: more.dropLast
        ensure (targets.all (fun t => areTargets [t]))
        return .assign targets value

mutual

/-- May the expression be deleted? -/
def Expr.isDeletable : Expr → Bool
  | .name _ => true
  | .attribute _ _ => true
  | .subscript _ _ => true
  | .tuple es => areDeletable es
  | .list es => areDeletable es
  | _ => false

/-- May the expressions be deleted? -/
def areDeletable : List Expr → Bool
  | [] => true
  | e :: es => e.isDeletable && areDeletable es

end

/-- Names between commas. -/
def names : Reader (List String) := do
  let first ← identifier
  let rest ← many do
    if ← acceptSign "," then return some (← identifier) else return none
  return first :: rest

/-- Names joined by points. -/
def dottedName : Reader String := do
  let first ← identifier
  let rest ← many do
    if ← acceptSign "." then return some (← identifier) else return none
  return ".".intercalate (first :: rest)

/-- What an import names, and the name it is bound to. -/
def importName (what : Reader String) : Reader ImportName := do
  let n ← what
  if ← acceptWord "as" then return ⟨n, some (← identifier)⟩ else return ⟨n, none⟩

/-- Members that an import names. -/
def importMembers : Reader (List ImportName) := do
  if ← acceptSign "*" then return [⟨"*", none⟩]
  else if ← acceptSign "(" then
    let (ns, _) ← commas (importName identifier)
    sign ")"
    return ns
  else
    let (ns, comma) ← commas (importName identifier)
    ensure (!comma)
    return ns

/-- The points in front of a module that is named relative to this one. -/
def importLevel : Reader Nat := do
  let points ← many do
    if ← acceptSign "." then return some 1
    else if ← acceptSign "..." then return some 3
    else return none
  return points.foldl (· + ·) 0

/-- Is the line, or the statement on it, at its end? -/
def atStatementEnd : Reader Bool := do return (← atEnd) || (← atSign ";")

/-- One simple statement. -/
def simpleStatement (g : Grammar) : Reader Stmt := do
  match ← peek? with
  | some (.word "pass") => return .pass (← (do let n ← nextLine; skip; return n))
  | some (.word "break") => skip; return .breakLoop
  | some (.word "continue") => skip; return .continueLoop
  | some (.word "return") =>
    skip
    if ← atStatementEnd then return .giveBack none
    else return .giveBack (some (← starExpressions g))
  | some (.word "raise") =>
    skip
    if ← atStatementEnd then return .throw none none
    else
      let e ← g.expression
      if ← acceptWord "from" then return .throw (some e) (some (← g.expression))
      else return .throw (some e) none
  | some (.word "global") => skip; return .globals (← names)
  | some (.word "nonlocal") => skip; return .nonlocals (← names)
  | some (.word "del") =>
    skip
    let (es, _) ← commas (primary g)
    ensure (areDeletable es)
    return .delete es
  | some (.word "assert") =>
    skip
    let test ← g.expression
    if ← acceptSign "," then return .assertion test (some (← g.expression))
    else return .assertion test none
  | some (.word "import") =>
    skip
    let (ns, comma) ← commas (importName dottedName)
    ensure (!comma)
    return .importModules ns
  | some (.word "from") =>
    skip
    let level ← importLevel
    let module ← (do
      if level > 0 && (← atWord "import") then return none else return some (← dottedName))
    word "import"
    return .importMembers module (← importMembers) level
  | _ => assignment g

/-- Simple statements up to the end of the line. -/
def simpleStatements (g : Grammar) : Reader (List Stmt) := do
  let first ← simpleStatement g
  let rest ← many do
    if ← acceptSign ";" then
      if ← atEnd then return none else return some (← simpleStatement g)
    else return none
  ensure (← atEnd)
  return first :: rest

/-! ## §2. Headers. -/

/-- The header of a compound statement, or of a clause of one. -/
inductive Head where
  | ifHead (test : Expr)
  | elifHead (test : Expr)
  | elseHead
  | whileHead (test : Expr)
  | forHead (isAsync : Bool) (target iter : Expr)
  | withHead (isAsync : Bool) (items : List WithItem)
  | tryHead
  | exceptHead (isGroup : Bool) (type : Option Expr) (name : Option String)
  | finallyHead
  | functionHead (isAsync : Bool) (name : String) (params : List Param) (returns : Option Expr)
  | classHead (name : String) (bases : List Expr) (keywords : List Keyword)
  | matchHead (subject : Expr)
  | caseHead (pattern : Pattern) (guard : Option Expr)

/-- The header of a loop over the items of something. -/
def forHead (g : Grammar) (isAsync : Bool) : Reader Head := do
  let target ← loopTarget (primary g)
  word "in"
  return .forHead isAsync target (← starExpressions g)

/-- One context manager. -/
def withItem (g : Grammar) : Reader WithItem := do
  let e ← g.expression
  if ← acceptWord "as" then
    let t ← (do if ← acceptSign "*" then return Expr.starred (← primary g) else primary g)
    ensure (areTargets [t])
    return ⟨e, some t⟩
  else return ⟨e, none⟩

/-- The context managers of a header, in parentheses or not, up to its colon. -/
def withHead (g : Grammar) (isAsync : Bool) : Reader Head := do
  let inParentheses ← attempt do
    sign "("
    let (items, _) ← commas (withItem g)
    sign ")"
    ensure (← atSign ":")
    return items
  match inParentheses with
  | some items => return .withHead isAsync items
  | none =>
    let (items, comma) ← commas (withItem g)
    ensure (!comma)
    return .withHead isAsync items

/-- The header of a function. -/
def functionHead (g : Grammar) (isAsync : Bool) : Reader Head := do
  let name ← identifier
  sign "("
  let ps ← parameters g true ")"
  sign ")"
  let returns ← (do if ← acceptSign "->" then return some (← g.expression) else return none)
  return .functionHead isAsync name ps returns

/-- The header of a class. -/
def classHead (g : Grammar) : Reader Head := do
  let name ← identifier
  if ← acceptSign "(" then
    let (bases, keywords) ← argumentsTail g (primary g) false
    return .classHead name bases keywords
  else return .classHead name [] []

/-- The header of an exception handler. -/
def exceptHead (g : Grammar) : Reader Head := do
  let isGroup ← acceptSign "*"
  if ← atSign ":" then
    ensure (!isGroup)
    return .exceptHead false none none
  else
    let type ← g.expression
    if ← acceptWord "as" then return .exceptHead isGroup (some type) (some (← identifier))
    else return .exceptHead isGroup (some type) none

/-- What a `match` looks at. -/
def matchSubject (g : Grammar) : Reader Expr := do
  let (es, comma) ← commas (starredOr g (namedExpression g))
  match es, comma with
  | [e], false => ensure (!e.isStarred); return e
  | es, _ => return .tuple es

/-- The header that starts a line, if one does, without its colon.  Inside a `match` only `case`
is a header; elsewhere `match` is one on a line with a suite. -/
def head? (g : Grammar) (inMatch hasSuite : Bool) : Reader (Option Head) := do
  match ← peek? with
  | some (.word w) =>
    if inMatch then
      ensure (w = "case")
      skip
      let p ← casePattern g
      let guard ← (do
        if ← acceptWord "if" then return some (← namedExpression g) else return none)
      return some (.caseHead p guard)
    else match w with
    | "if" => skip; return some (.ifHead (← namedExpression g))
    | "elif" => skip; return some (.elifHead (← namedExpression g))
    | "else" => skip; return some .elseHead
    | "while" => skip; return some (.whileHead (← namedExpression g))
    | "for" => skip; return some (← forHead g false)
    | "with" => skip; return some (← withHead g false)
    | "try" => skip; return some .tryHead
    | "except" => skip; return some (← exceptHead g)
    | "finally" => skip; return some .finallyHead
    | "def" => skip; return some (← functionHead g false)
    | "class" => skip; return some (← classHead g)
    | "async" =>
      skip
      if ← acceptWord "def" then return some (← functionHead g true)
      else if ← acceptWord "for" then return some (← forHead g true)
      else if ← acceptWord "with" then return some (← withHead g true)
      else refuse
    | "match" =>
      if hasSuite then skip; return some (.matchHead (← matchSubject g)) else return none
    | _ => return none
  | _ =>
    ensure (!inMatch)
    return none

/-! ## §3. Lines with their bodies. -/

/-- A line of a suite, read. -/
inductive Item where
  | simple (statements : List Stmt)
  | headed (head : Head) (body : List Stmt)
  | decorator (e : Expr)

/-- What the lexemes of a line say, apart from its suite. -/
inductive LineText where
  | simple (statements : List Stmt)
  /-- A header whose body is on the same line. -/
  | inline (head : Head) (body : List Stmt)
  /-- A header whose body is the suite. -/
  | opening (head : Head)
  | decorator (e : Expr)

/-- Read the lexemes of a line. -/
def lineText (g : Grammar) (inMatch hasSuite : Bool) : Reader LineText := do
  match ← head? g inMatch hasSuite with
  | some h =>
    sign ":"
    if ← atEnd then return .opening h else return .inline h (← simpleStatements g)
  | none =>
    if ← acceptSign "@" then
      let e ← namedExpression g
      ensure (← atEnd)
      return .decorator e
    else return .simple (← simpleStatements g)

/-! ## §4. Compound statements. -/

/-- Does the line continue the statement above it? -/
def Item.continues : Item → Bool
  | .headed (.elifHead _) _ => true
  | .headed .elseHead _ => true
  | .headed (.exceptHead ..) _ => true
  | .headed .finallyHead _ => true
  | _ => false

/-- The statements behind the first test of an `if`. -/
def ifTail? : List Item → Option (List Stmt)
  | [] => some []
  | [.headed .elseHead body] => some body
  | .headed (.elifHead test) body :: rest =>
    (ifTail? rest).map (fun orelse => [.conditional test body orelse])
  | _ => none

/-- The statements behind a loop. -/
def loopTail? : List Item → Option (List Stmt)
  | [] => some []
  | [.headed .elseHead body] => some body
  | _ => none

/-- The handlers at the start of some clauses, of groups or not, and the other clauses. -/
def handlers (isGroup : Bool) : List Item → List Handler × List Item
  | .headed (.exceptHead k type name) body :: rest =>
    if k = isGroup then
      let (hs, rest) := handlers isGroup rest
      (.mk type name body :: hs, rest)
    else ([], .headed (.exceptHead k type name) body :: rest)
  | items => ([], items)

/-- A `try` with its clauses. -/
def tryBlock? (body : List Stmt) (items : List Item) : Option Stmt :=
  let isGroup := match items with
    | .headed (.exceptHead k _ _) _ :: _ => k
    | _ => false
  match handlers isGroup items with
  | ([], [.headed .finallyHead last]) => some (.tryBlock false body [] [] last)
  | ([], _) => none
  | (hs, []) => some (.tryBlock isGroup body hs [] [])
  | (hs, [.headed .elseHead orelse]) => some (.tryBlock isGroup body hs orelse [])
  | (hs, [.headed .finallyHead last]) => some (.tryBlock isGroup body hs [] last)
  | (hs, [.headed .elseHead orelse, .headed .finallyHead last]) =>
    some (.tryBlock isGroup body hs orelse last)
  | _ => none

/-- The statement that a header, its body and the clauses behind it form. -/
def compound? (decorators : List Expr) (head : Head) (body : List Stmt) (clauses : List Item) :
    Option Stmt :=
  match head, decorators with
  | .ifHead test, [] => (ifTail? clauses).map (.conditional test body ·)
  | .whileHead test, [] => (loopTail? clauses).map (.whileLoop test body ·)
  | .forHead isAsync target iter, [] =>
    (loopTail? clauses).map (.forLoop isAsync target iter body ·)
  | .tryHead, [] => tryBlock? body clauses
  | .withHead isAsync items, [] =>
    if clauses.isEmpty then some (.withBlock isAsync items body) else none
  | .functionHead isAsync name params returns, ds =>
    if clauses.isEmpty then some (.function isAsync name params body ds returns) else none
  | .classHead name bases keywords, ds =>
    if clauses.isEmpty then some (.classBlock name bases keywords body ds) else none
  | _, _ => none

/-- Every line with the lines behind it that continue its statement. -/
def gather : List Item → List (Item × List Item)
  | [] => []
  | i :: rest =>
    match gather rest with
    | [] => [(i, [])]
    | (j, clauses) :: more =>
      if j.continues then (i, j :: clauses) :: more else (i, []) :: (j, clauses) :: more

/-- The statements that some lines form, each with those that continue it; the decorators stand
above them. -/
def statements? (decorators : List Expr) : List (Item × List Item) → Option (List Stmt)
  | [] => if decorators.isEmpty then some [] else none
  | (.decorator e, clauses) :: rest =>
    if clauses.isEmpty then statements? (decorators ++ [e]) rest else none
  | (.simple ss, clauses) :: rest =>
    if decorators.isEmpty && clauses.isEmpty then (statements? [] rest).map (ss ++ ·) else none
  | (.headed head body, clauses) :: rest => do
    let s ← compound? decorators head body clauses
    let more ← statements? [] rest
    some (s :: more)

/-- The statements that some lines form. -/
def assemble? (items : List Item) : Option (List Stmt) := statements? [] (gather items)

/-- The cases that the lines below a `match` form. -/
def cases? : List Item → Option (List Case)
  | [] => some []
  | .headed (.caseHead p guard) body :: rest => (cases? rest).map (.mk p guard body :: ·)
  | _ => none

/-! ## §5. Suites. -/

/-- The item of a line whose lexemes and whose suite are read. -/
def item? (text : LineText) (suite : List Item) : Option Item :=
  match text with
  | .simple ss => if suite.isEmpty then some (.simple ss) else none
  | .decorator e => if suite.isEmpty then some (.decorator e) else none
  | .inline h body => if suite.isEmpty then some (.headed h body) else none
  | .opening (.matchHead subject) =>
    if suite.isEmpty then none
    else (cases? suite).map (fun cs => .simple [.matchBlock subject cs])
  | .opening h =>
    if suite.isEmpty then none else (assemble? suite).map (.headed h ·)

/-- Does the header look into its suite for cases? -/
def LineText.opensMatch : LineText → Bool
  | .opening (.matchHead _) => true
  | _ => false

mutual

/-- A line of a suite with its body. -/
def readItem? (g : Grammar) (inMatch : Bool) : Line → Option Item
  | .mk toks suite => do
    let (text, _) ← lineText g inMatch (!suite.isEmpty) toks
    item? text (← readItems? g text.opensMatch suite)

/-- The lines of a suite, each with its body. -/
def readItems? (g : Grammar) (inMatch : Bool) : List Line → Option (List Item)
  | [] => some []
  | l :: rest => do
    let i ← readItem? g inMatch l
    let more ← readItems? g inMatch rest
    some (i :: more)

end

/-- The statements that some code is. -/
def parseStatements? (code : String) : Option (List Stmt) := do
  let forest ← layout? code
  let items ← readItems? (grammarFor code) false forest
  assemble? items

end Inlay.Code
