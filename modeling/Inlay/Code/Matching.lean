/-
  Inlay.Code.Matching
  ────────────────────────────────
  **READING PATTERNS.**

  The patterns of `case` clauses.  As for expressions, the rule that others
  come back to is a parameter, and `patternUpTo` ties the knot.
-/
import Inlay.Code.Expression

namespace Inlay.Code

open Reader

/-! ## §1. Names and literals. -/

/-- A name with attributes behind it. -/
def dottedExpr : Reader Expr := do
  let first ← identifier
  let rest ← many do
    if ← acceptSign "." then return some (← identifier) else return none
  return rest.foldl Expr.attribute (.name first)

/-- A name that a pattern may bind: not an underscore as such. -/
def captureName : Reader String := do
  ensure (!(← atWord "_"))
  identifier

/-- A number, perhaps with a minus in front, perhaps with an imaginary part. -/
def signedNumber : Reader Expr := do
  let number : Reader Constant := do
    match ← peek? with
    | some (.number c) => skip; return c
    | _ => refuse
  let isImaginary : Constant → Bool
    | .imaginary _ => true
    | _ => false
  let negative ← acceptSign "-"
  let c ← number
  let e : Expr := if negative then .unary .negate (.constant c) else .constant c
  match ← signIn? [("+", BinaryOp.add), ("-", .sub)] with
  | none => return e
  | some op =>
    let d ← number
    ensure (!isImaginary c && isImaginary d)
    return .binary op e (.constant d)

/-- A literal: a number, text, or one of the three singletons. -/
def literalPattern (g : Grammar) : Reader Pattern := do
  match ← peek? with
  | some (.word "None") => skip; return .singleton .none
  | some (.word "True") => skip; return .singleton .true
  | some (.word "False") => skip; return .singleton .false
  | some (.text _ _) => return .value (← joinTexts g (← many nextText?))
  | _ => return .value (← signedNumber)

/-- A key of a mapping pattern. -/
def mappingKey (g : Grammar) : Reader Expr := do
  match ← peek? with
  | some (.word "None") => skip; return .constant .none
  | some (.word "True") => skip; return .constant .true
  | some (.word "False") => skip; return .constant .false
  | some (.text _ _) => joinTexts g (← many nextText?)
  | some (.word _) =>
    let e ← dottedExpr
    match e with
    | .attribute _ _ => return e
    | _ => refuse
  | _ => signedNumber

/-! ## §2. Compound patterns. -/

/-- A pattern, or the rest of a sequence. -/
def sequenceItem (pattern : Reader Pattern) : Reader Pattern := do
  if ← acceptSign "*" then
    if ← acceptWord "_" then return .rest none else return .rest (some (← identifier))
  else pattern

/-- The patterns up to a closing sign, and whether a comma stands behind the last. -/
def patternsUntil (pattern : Reader Pattern) (closer : String) : Reader (List Pattern × Bool) := do
  if ← acceptSign closer then return ([], true)
  else
    let (ps, comma) ← commas (sequenceItem pattern)
    sign closer
    return (ps, comma)

/-- The entries of a mapping pattern, its opening brace taken. -/
def mappingTail (g : Grammar) (pattern : Reader Pattern) : Reader Pattern := do
  if ← acceptSign "\x7d" then return .mapping [] none
  else
    let item : Reader (MapEntry ⊕ String) := do
      if ← acceptSign "**" then return .inr (← captureName)
      else
        let key ← mappingKey g
        sign ":"
        return .inl (.mk key (← pattern))
    let (items, _) ← commas item
    sign "\x7d"
    let entries := items.filterMap (fun i => i.getLeft?)
    match items.filterMap (fun i => i.getRight?) with
    | [] => return .mapping entries none
    | [n] =>
      ensure (items.getLast?.any (·.isRight))
      return .mapping entries (some n)
    | _ => refuse

/-- The arguments of a class pattern, its opening parenthesis taken. -/
def classTail (pattern : Reader Pattern) (cls : Expr) : Reader Pattern := do
  if ← acceptSign ")" then return .instanceOf cls [] []
  else
    let item : Reader (Pattern ⊕ NamedPattern) := do
      if (← peekSecond?) == some (.sign "=") then
        let n ← identifier
        skip
        return .inr (.mk n (← pattern))
      else return .inl (← pattern)
    let (items, _) ← commas item
    sign ")"
    let positional := items.takeWhile (·.isLeft)
    let named := items.dropWhile (·.isLeft)
    ensure (named.all (·.isRight))
    return .instanceOf cls (positional.filterMap (·.getLeft?)) (named.filterMap (·.getRight?))

/-- A pattern without alternatives and without a name behind it. -/
def closedPattern (g : Grammar) (pattern : Reader Pattern) : Reader Pattern := do
  match ← peek? with
  | some (.sign "(") =>
    skip
    let (ps, comma) ← patternsUntil pattern ")"
    match ps, comma with
    | [p], false => ensure (!p.isRest); return p
    | ps, _ => return .sequence ps
  | some (.sign "[") =>
    skip
    return .sequence (← patternsUntil pattern "]").1
  | some (.sign "\x7b") => skip; mappingTail g pattern
  | some (.word w) =>
    if w = "_" then skip; return .capture none none
    else if ["None", "True", "False"].contains w then literalPattern g
    else
      let e ← dottedExpr
      if ← acceptSign "(" then classTail pattern e
      else
        ensure (!(← atSign "="))
        match e with
        | .name n => return .capture none (some n)
        | e => return .value e
  | _ => literalPattern g

/-- A pattern: alternatives, with a name behind them or not. -/
def patternRule (g : Grammar) (pattern : Reader Pattern) : Reader Pattern := do
  let first ← closedPattern g pattern
  let rest ← many do
    if ← acceptSign "|" then return some (← closedPattern g pattern) else return none
  let p : Pattern := if rest.isEmpty then first else .alternatives (first :: rest)
  if ← acceptWord "as" then return .capture (some p) (some (← captureName)) else return p

/-- A pattern whose parts nest at most so deep. -/
def patternUpTo (g : Grammar) : Nat → Reader Pattern
  | 0 => refuse
  | n + 1 => patternRule g (patternUpTo g n)

/-- What stands behind `case`: a pattern, or several that form a sequence. -/
def casePattern (g : Grammar) : Reader Pattern := do
  let (ps, comma) ← commas (sequenceItem (patternUpTo g ((← get).length + 1)))
  match ps, comma with
  | [p], false => ensure (!p.isRest); return p
  | ps, _ => return .sequence ps

end Inlay.Code
