/-
  Inlay.Code.Expression
  ────────────────────────────────
  **READING EXPRESSIONS.**

  Each rule of the grammar is a reader.  The two rules that every other one
  may come back to are the fields of `Grammar`; the rules are written over an
  arbitrary value of it, and `grammar` ties the knot.  A rule that comes back
  to a field has read a character before, so the length of the code bounds
  the depth.
-/
import Inlay.Code.Layout
import Inlay.Code.Literal
import Inlay.Code.Reader

namespace Inlay.Code

open Reader

/-! ## §1. The knot. -/

/-- The rules that others come back to. -/
structure Grammar where
  /-- A conditional expression, a lambda, or a disjunction. -/
  expression : Reader Expr
  /-- An operand of a product: signs in front of a power. -/
  factor : Reader Expr

mutual

/-- May the expression stand to the left of an equals sign? -/
def Expr.isTarget : Expr → Bool
  | .name _ => true
  | .attribute _ _ => true
  | .subscript _ _ => true
  | .tuple es => areTargets es
  | .list es => areTargets es
  | _ => false

/-- May the expressions stand together to the left of an equals sign? -/
def areTargets : List Expr → Bool
  | [] => true
  | .starred e :: es => e.isTarget && areTargets es
  | e :: es => e.isTarget && areTargets es

end

/-- One expression, or a tuple if commas were used. -/
def tupleUnlessSingle : List Expr × Bool → Expr
  | ([e], false) => e
  | (es, _) => .tuple es

/-! ## §2. Operators. -/

/-- Find the next sign among some operators, and take it. -/
def signIn? {α : Type} (operators : List (String × α)) : Reader (Option α) := do
  match ← peek? with
  | some (.sign s) =>
    match operators.find? (·.1 == s) with
    | some (_, a) => skip; return some a
    | none => return none
  | _ => return none

/-- The operators with two operands, those that bind least first. -/
def binaryLevels : List (List (String × BinaryOp)) :=
  [[("|", .bitOr)], [("^", .bitXor)], [("&", .bitAnd)],
   [("<<", .shiftLeft), (">>", .shiftRight)],
   [("+", .add), ("-", .sub)],
   [("*", .mul), ("/", .div), ("//", .floorDiv), ("%", .mod), ("@", .matMul)]]

/-- Operands joined by the operators of some levels. -/
def binaryChain (g : Grammar) : List (List (String × BinaryOp)) → Reader Expr
  | [] => g.factor
  | level :: higher =>
    chain (binaryChain g higher) do
      return (← signIn? level).map (fun op a b => .binary op a b)

/-- An operand of a comparison. -/
def operand (g : Grammar) : Reader Expr := binaryChain g binaryLevels

/-- The next comparison, if one comes. -/
def compareOp? : Reader (Option CompareOp) := do
  match ← signIn? [("==", CompareOp.equal), ("!=", .notEqual), ("<", .less), ("<=", .atMost),
      (">", .greater), (">=", .atLeast)] with
  | some op => return some op
  | none =>
    if ← acceptWord "in" then return some .member
    else if ← acceptWord "is" then
      if ← acceptWord "not" then return some .notSame else return some .same
    else if (← atWord "not") && (← peekSecond?) == some (.word "in") then
      skip; skip; return some .notMember
    else return none

/-- A comparison. -/
def comparison (g : Grammar) : Reader Expr := do
  let first ← operand g
  let links ← many do
    match ← compareOp? with
    | none => return none
    | some op => return some (CompareLink.mk op (← operand g))
  return if links.isEmpty then first else .compare first links

/-- Negations in front of a comparison. -/
def inversion (g : Grammar) : Reader Expr := do
  let nots ← many do
    if ← acceptWord "not" then return some () else return none
  return nots.foldl (fun e _ => .unary .logicalNot e) (← comparison g)

/-- Operands between equal words, as one expression. -/
def booleanChain (op : BoolOp) (w : String) (item : Reader Expr) : Reader Expr := do
  let first ← item
  let rest ← many do
    if ← acceptWord w then return some (← item) else return none
  return if rest.isEmpty then first else .boolean op (first :: rest)

/-- A disjunction. -/
def disjunction (g : Grammar) : Reader Expr :=
  booleanChain .or "or" (booleanChain .and "and" (inversion g))

/-! ## §3. Lists of expressions. -/

/-- An assignment to a name, or an expression. -/
def namedExpression (g : Grammar) : Reader Expr := do
  if (← peekSecond?) == some (.sign ":=") then
    let target ← identifier
    skip
    return .walrus target (← g.expression)
  else g.expression

/-- A starred operand, or what the reader finds. -/
def starredOr (g : Grammar) (item : Reader Expr) : Reader Expr := do
  if ← acceptSign "*" then return .starred (← operand g) else item

/-- Expressions between commas, some of them starred. -/
def starExpressions (g : Grammar) : Reader Expr := do
  return tupleUnlessSingle (← commas (starredOr g g.expression))

/-- Expressions between commas. -/
def plainExpressions (g : Grammar) : Reader Expr := do
  return tupleUnlessSingle (← commas g.expression)

/-- What a `yield` gives; the word itself is taken. -/
def yielded (g : Grammar) : Reader Expr := do
  if ← acceptWord "from" then return .yieldFrom (← g.expression)
  else return .yield (← attempt (starExpressions g))

/-! ## §4. Comprehensions. -/

/-- The target of a loop: expressions between commas that may be assigned to. -/
def loopTarget (primary : Reader Expr) : Reader Expr := do
  let item := do
    if ← acceptSign "*" then return Expr.starred (← primary) else primary
  let (es, comma) ← commas item
  ensure (areTargets es)
  return tupleUnlessSingle (es, comma)

/-- The next `for` clause of a comprehension, if one comes. -/
def compClause? (g : Grammar) (primary : Reader Expr) : Reader (Option CompClause) := do
  let isAsync ← acceptWord "async"
  if ← acceptWord "for" then
    let target ← loopTarget primary
    word "in"
    let iter ← disjunction g
    let conditions ← many do
      if ← acceptWord "if" then return some (← disjunction g) else return none
    return some (.mk isAsync target iter conditions)
  else
    ensure (!isAsync)
    return none

/-- The clauses of a comprehension, none if there is no comprehension. -/
def compClauses (g : Grammar) (primary : Reader Expr) : Reader (List CompClause) :=
  many (compClause? g primary)

/-! ## §5. Displays. -/

/-- What stands in parentheses, the opening one taken. -/
def groupTail (g : Grammar) (primary : Reader Expr) : Reader Expr := do
  if ← acceptSign ")" then return .tuple []
  else if ← acceptWord "yield" then
    let e ← yielded g
    sign ")"
    return e
  else
    let (es, comma) ← commas (starredOr g (namedExpression g))
    match es, comma with
    | [e], false =>
      ensure (!e.isStarred)
      match ← compClauses g primary with
      | [] => sign ")"; return e
      | clauses => sign ")"; return .comprehension .generator e clauses
    | es, _ => sign ")"; return .tuple es

/-- What stands in brackets, the opening one taken. -/
def listTail (g : Grammar) (primary : Reader Expr) : Reader Expr := do
  if ← acceptSign "]" then return .list []
  else
    let (es, comma) ← commas (starredOr g (namedExpression g))
    match es, comma with
    | [e], false =>
      match ← compClauses g primary with
      | [] => sign "]"; return .list [e]
      | clauses => ensure (!e.isStarred); sign "]"; return .comprehension .list e clauses
    | es, _ => sign "]"; return .list es

/-- An item between braces: one of a dictionary, or an element of a set. -/
def bracesItem (g : Grammar) : Reader (DictItem ⊕ Expr) := do
  if ← acceptSign "**" then return .inl (.spread (← operand g))
  else if ← acceptSign "*" then return .inr (.starred (← operand g))
  else if (← peekSecond?) == some (.sign ":=") then return .inr (← namedExpression g)
  else
    let e ← g.expression
    if ← acceptSign ":" then return .inl (.entry e (← g.expression)) else return .inr e

/-- What stands in braces, the opening one taken: a dictionary if its items are those of one, and
a set if they are elements; they may not be mixed. -/
def bracesTail (g : Grammar) (primary : Reader Expr) : Reader Expr := do
  if ← acceptSign "\x7d" then return .dict []
  else
    let (items, comma) ← commas (bracesItem g)
    match items, comma with
    | [.inl (.entry key value)], false =>
      match ← compClauses g primary with
      | [] => sign "\x7d"; return .dict [.entry key value]
      | clauses => sign "\x7d"; return .dictComprehension key value clauses
    | [.inr e], false =>
      match ← compClauses g primary with
      | [] => sign "\x7d"; return .set [e]
      | clauses => ensure (!e.isStarred); sign "\x7d"; return .comprehension .set e clauses
    | items, _ =>
      sign "\x7d"
      let entries := items.filterMap (·.getLeft?)
      let elements := items.filterMap (·.getRight?)
      if elements.isEmpty then return .dict entries
      else
        ensure entries.isEmpty
        return .set elements

/-! ## §6. Arguments and subscripts. -/

/-- An argument of a call. -/
inductive Argument where
  | positional (e : Expr)
  | unpacked (e : Expr)
  | named (k : Keyword)
  | mapping (k : Keyword)
  /-- A comprehension without parentheses of its own. -/
  | bare (e : Expr)

/-- Read one argument. -/
def argument (g : Grammar) (primary : Reader Expr) : Reader Argument := do
  if ← acceptSign "*" then return .unpacked (.starred (← g.expression))
  else if ← acceptSign "**" then return .mapping (.mk none (← g.expression))
  else if (← peekSecond?) == some (.sign "=") then
    let name ← identifier
    skip
    return .named (.mk (some name) (← g.expression))
  else
    let e ← namedExpression g
    match ← compClauses g primary with
    | [] => return .positional e
    | clauses => return .bare (.comprehension .generator e clauses)

/-- Sort arguments into those by position and those by name.  Behind an argument by name no
plain one may stand, behind a mapping no unpacked one either. -/
def sortArguments? (afterName afterMapping : Bool) :
    List Argument → Option (List Expr × List Keyword)
  | [] => some ([], [])
  | .positional e :: rest =>
    if afterName || afterMapping then none
    else (sortArguments? afterName afterMapping rest).map (fun p => (e :: p.1, p.2))
  | .unpacked e :: rest =>
    if afterMapping then none
    else (sortArguments? afterName afterMapping rest).map (fun p => (e :: p.1, p.2))
  | .named k :: rest => (sortArguments? true afterMapping rest).map (fun p => (p.1, k :: p.2))
  | .mapping k :: rest => (sortArguments? afterName true rest).map (fun p => (p.1, k :: p.2))
  | .bare _ :: _ => none

/-- The arguments of a call or of a class header, the opening parenthesis taken. -/
def argumentsTail (g : Grammar) (primary : Reader Expr) (mayBeBare : Bool) :
    Reader (List Expr × List Keyword) := do
  if ← acceptSign ")" then return ([], [])
  else
    let (arguments, comma) ← commas (argument g primary)
    sign ")"
    match arguments, comma with
    | [.bare e], false => ensure mayBeBare; return ([e], [])
    | arguments, _ =>
      match sortArguments? false false arguments with
      | some sorted => return sorted
      | none => refuse

/-- An expression unless the given sign or the end of the subscript comes next. -/
def sliceBound (g : Grammar) : Reader (Option Expr) := do
  if (← atSign ":") || (← atSign ",") || (← atSign "]") then return none
  else return some (← g.expression)

/-- The upper bound and the step of a slice, its first colon taken. -/
def sliceTail (g : Grammar) (lower : Option Expr) : Reader Expr := do
  let upper ← sliceBound g
  let step ← (do if ← acceptSign ":" then sliceBound g else return none)
  return .slice lower upper step

/-- One index of a subscript. -/
def indexItem (g : Grammar) : Reader Expr := do
  if ← acceptSign "*" then return .starred (← g.expression)
  else if ← acceptSign ":" then sliceTail g none
  else
    let walrus := (← peekSecond?) == some (.sign ":=")
    let e ← namedExpression g
    if !walrus && (← acceptSign ":") then sliceTail g (some e) else return e

/-- The index of a subscript, the opening bracket taken. -/
def subscriptTail (g : Grammar) : Reader Expr := do
  let (es, comma) ← commas (indexItem g)
  sign "]"
  match es, comma with
  | [e], false => return if e.isStarred then .tuple [e] else e
  | es, _ => return .tuple es

/-! ## §7. Text. -/

/-- Parts of a formatted text with neighbouring constants joined and empty ones dropped. -/
def joinParts : List Expr → List Expr
  | [] => []
  | .constant (.text s m) :: rest =>
    match joinParts rest with
    | .constant (.text t _) :: rest => .constant (.text (s ++ t) m) :: rest
    | rest => if s.isEmpty then rest else .constant (.text s m) :: rest
  | e :: rest => e :: joinParts rest

mutual

/-- The parts of a formatted text as expressions. -/
def segmentParts (g : Grammar) (raw : Bool) : List Segment → Option (List Expr)
  | [] => some []
  | .literal s :: rest => do
    let t ← textOf? raw s
    let more ← segmentParts g raw rest
    some (.constant (.text t false) :: more)
  | .hole code label conversion format :: rest => do
    let e ← match ← logicalLines? (String.ofList ('(' :: code ++ [')'])) with
      | [line] =>
        match starExpressions g line.toks with
        | some (e, []) => some e
        | _ => none
      | _ => none
    let spec ← formatSpec g raw format
    let more ← segmentParts g raw rest
    let labelled := label.elim [] (fun l => [Expr.constant (.text (String.ofList l) false)])
    some (labelled ++ .placeholder e conversion spec :: more)

/-- The format of a hole as an expression. -/
def formatSpec (g : Grammar) (raw : Bool) : Option (List Segment) → Option (Option Expr)
  | none => some none
  | some segments => (segmentParts g raw segments).map (fun ps => some (.formatted (joinParts ps)))

end

/-- The parts that one text constant stands for. -/
def textParts (g : Grammar) (form : TextForm) (body : List Char) : Option (List Expr) :=
  if form.formatted then (segments? form.raw body).bind (segmentParts g form.raw)
  else (textOf? form.raw body).map (fun t => [.constant (.text t form.marked)])

/-- Neighbouring text constants as one expression. -/
def joinTexts (g : Grammar) (texts : List (TextForm × List Char)) : Reader Expr :=
  if texts.all (·.1.bytes) then
    match texts.mapM (fun t => bytesOf? t.1.raw t.2) with
    | some bytes => return .constant (.bytes bytes.flatten)
    | none => refuse
  else if texts.any (·.1.bytes) then refuse
  else
    match texts.mapM (fun t => textParts g t.1 t.2) with
    | none => refuse
    | some parts =>
      let marked := texts.head?.any (·.1.marked)
      let joined := joinParts parts.flatten
      if texts.any (·.1.formatted) then return .formatted joined
      else
        match joined with
        | [.constant (.text s _)] => return .constant (.text s marked)
        | _ => return .constant (.text "" marked)

/-- The next text constant, if one comes. -/
def nextText? : Reader (Option (TextForm × List Char)) := do
  match ← peek? with
  | some (.text form body) => skip; return some (form, body)
  | _ => return none

/-! ## §8. Atoms and what follows them. -/

/-- An atom. -/
def atom (g : Grammar) (primary : Reader Expr) : Reader Expr := do
  match ← peek? with
  | some (.word "True") => skip; return .constant .true
  | some (.word "False") => skip; return .constant .false
  | some (.word "None") => skip; return .constant .none
  | some (.word _) => return .name (← identifier)
  | some (.number c) => skip; return .constant c
  | some (.text _ _) => joinTexts g (← many nextText?)
  | some (.sign "...") => skip; return .constant .ellipsis
  | some (.sign "(") => skip; groupTail g primary
  | some (.sign "[") => skip; listTail g primary
  | some (.sign "\x7b") => skip; bracesTail g primary
  | _ => refuse

/-- What may follow an atom: an attribute, a call or a subscript. -/
def trailer? (g : Grammar) (primary : Reader Expr) : Reader (Option (Expr → Expr)) := do
  if ← acceptSign "." then
    let name ← identifier
    return some (Expr.attribute · name)
  else if ← acceptSign "(" then
    let (args, keywords) ← argumentsTail g primary true
    return some (Expr.call · args keywords)
  else if ← acceptSign "[" then
    let index ← subscriptTail g
    return some (Expr.subscript · index)
  else return none

/-- An atom with what follows it.  The loop targets inside come back to it, at most once for each
of some lexemes. -/
def primaryAlong (g : Grammar) : List Tok → Reader Expr
  | [] => refuse
  | _ :: ts => do
    let inner := primaryAlong g ts
    let isAwait ← acceptWord "await"
    let first ← atom g inner
    let e := (← many (trailer? g inner)).foldl (fun e f => f e) first
    return if isAwait then .await e else e

/-- An atom with what follows it. -/
def primary (g : Grammar) : Reader Expr := do primaryAlong g (← get)

/-- A power, or signs in front of one. -/
def factorRule (g : Grammar) : Reader Expr := do
  match ← signIn? [("-", UnaryOp.negate), ("+", .plus), ("~", .invert)] with
  | some op => return .unary op (← g.factor)
  | none =>
    let base ← primary g
    if ← acceptSign "**" then return .binary .pow base (← g.factor) else return base

/-! ## §9. Parameters. -/

/-- A parameter as written. -/
inductive ParamItem where
  | slash
  | star
  | rest (p : Param)
  | keywords (p : Param)
  | plain (name : String) (hint default : Option Expr)

/-- The annotation of a parameter, where annotations are allowed. -/
def hint? (g : Grammar) (annotated mayBeStarred : Bool) : Reader (Option Expr) := do
  if annotated then
    if ← acceptSign ":" then
      if mayBeStarred then return some (← starredOr g g.expression)
      else return some (← g.expression)
    else return none
  else return none

/-- Read a parameter. -/
def paramItem (g : Grammar) (annotated : Bool) : Reader ParamItem := do
  if ← acceptSign "/" then return .slash
  else if ← acceptSign "**" then
    let name ← identifier
    return .keywords (.mk .keywords name (← hint? g annotated false) none)
  else if ← acceptSign "*" then
    if ← atSign "," then return .star
    else
      let name ← identifier
      return .rest (.mk .rest name (← hint? g annotated true) none)
  else
    let name ← identifier
    let hint ← hint? g annotated false
    let default ← (do if ← acceptSign "=" then return some (← g.expression) else return none)
    return .plain name hint default

/-- The parameters behind a star. -/
def keywordParams? : List ParamItem → Option (List Param)
  | [] => some []
  | [.keywords p] => some [p]
  | .plain name hint default :: rest =>
    (keywordParams? rest).map (.mk .keyword name hint default :: ·)
  | _ => none

/-- The parameters in front of a star; behind a default only defaults may follow. -/
def plainParams? (afterDefault : Bool) : List ParamItem → Option (List Param)
  | .plain name hint default :: rest =>
    if afterDefault && default.isNone then none
    else (plainParams? default.isSome rest).map (.mk .regular name hint default :: ·)
  | .rest p :: rest => (keywordParams? rest).map (p :: ·)
  | .star :: rest =>
    match rest with
    | .plain .. :: _ => keywordParams? rest
    | _ => none
  | [.keywords p] => some [p]
  | [] => some []
  | _ => none

/-- The parameter as one that is taken by position only. -/
def Param.byPosition : Param → Param
  | .mk _ name hint default => .mk .positional name hint default

/-- The parameters that some items stand for. -/
def buildParams? (items : List ParamItem) : Option (List Param) := do
  let isSlash : ParamItem → Bool
    | .slash => true
    | _ => false
  let before := items.takeWhile (!isSlash ·)
  match items.dropWhile (!isSlash ·) with
  | [] => plainParams? false items
  | _ :: after => do
    let isPlain : ParamItem → Bool
      | .plain .. => true
      | _ => false
    if before.isEmpty || !before.all isPlain then none
    let hasDefault : ParamItem → Bool
      | .plain _ _ d => d.isSome
      | _ => false
    let front ← plainParams? false before
    let back ← plainParams? (before.any hasDefault) after
    some (front.map Param.byPosition ++ back)

/-- Parameters up to the given sign, which stays. -/
def parameters (g : Grammar) (annotated : Bool) (closer : String) : Reader (List Param) := do
  if ← atSign closer then return []
  else
    let (items, _) ← commas (paramItem g annotated)
    match buildParams? items with
    | some ps => return ps
    | none => refuse

/-! ## §10. Expressions. -/

/-- A lambda, a disjunction, or a choice between two. -/
def expressionRule (g : Grammar) : Reader Expr := do
  if ← acceptWord "lambda" then
    let ps ← parameters g false ":"
    sign ":"
    return .lambda ps (← g.expression)
  else
    let body ← disjunction g
    if ← acceptWord "if" then
      let test ← disjunction g
      word "else"
      return .conditional test body (← g.expression)
    else return body

/-- The grammar of expressions whose rules nest at most so deep. -/
def grammar : Nat → Grammar
  | 0 => ⟨refuse, refuse⟩
  | n + 1 => ⟨expressionRule (grammar n), factorRule (grammar n)⟩

/-- The grammar that suffices for some code. -/
def grammarFor (code : String) : Grammar := grammar (code.length + 2)

/-- The expression that some code is, a tuple if it has commas. -/
def parseExpression? (code : String) : Option Expr := do
  match ← layout? code with
  | [.mk toks []] =>
    match plainExpressions (grammarFor code) toks with
    | some (e, []) => some e
    | _ => none
  | _ => none

end Inlay.Code
