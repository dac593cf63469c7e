/-
  Inlay.Code.Spelling.Expression
  ────────────────────────────────
  **HOW EXPRESSIONS ARE WRITTEN.**

  Every place in an expression asks for a binding strength, and a part that
  binds less is put in parentheses.  Nothing else gets parentheses, except
  an assignment inside an expression, which always has them unless its place
  asks for nothing at all.

  `avoid` is passed along inside the braces of a formatted text, where no
  backslash may be written.  Code that cannot do without one there cannot be
  written at all; `written?` tells such texts apart.
-/
import Inlay.Code.Spelling.Constant

namespace Inlay.Code

/-! ## §1. Binding strength. -/

/-- How tightly a part of an expression binds, from `1` to `18`. -/
abbrev Strength := Nat

namespace Strength

/-- The strength of an assignment inside an expression. -/
def walrus : Strength := 1
/-- The strength of commas. -/
def tuple : Strength := 2
/-- The strength of `yield`. -/
def yield : Strength := 3
/-- The strength of a choice and of a lambda; what a place asks for if it does not say otherwise. -/
def test : Strength := 4
/-- The strength of `or`. -/
def or : Strength := 5
/-- The strength of `and`. -/
def and : Strength := 6
/-- The strength of `not`. -/
def not : Strength := 7
/-- The strength of comparisons. -/
def compare : Strength := 8
/-- The strength of `|`. -/
def bitOr : Strength := 9
/-- The strength of `^`. -/
def bitXor : Strength := 10
/-- The strength of `&`. -/
def bitAnd : Strength := 11
/-- The strength of shifts. -/
def shift : Strength := 12
/-- The strength of sums. -/
def sum : Strength := 13
/-- The strength of products. -/
def product : Strength := 14
/-- The strength of signs. -/
def sign : Strength := 15
/-- The strength of powers. -/
def power : Strength := 16
/-- The strength of `await`. -/
def await : Strength := 17
/-- The strength of what needs no parentheses anywhere. -/
def atom : Strength := 18

/-- The strength above the given one. -/
def next (p : Strength) : Strength := min (p + 1) atom

end Strength

/-- Text in parentheses if its place asks for more than the text has. -/
def parenthesize (own asked : Strength) (s : String) : String :=
  if own < asked then "(" ++ s ++ ")" else s

/-! ## §2. Operators. -/

/-- The sign of an operator. -/
def BinaryOp.sign : BinaryOp → String
  | add => "+" | sub => "-" | mul => "*" | matMul => "@" | div => "/" | floorDiv => "//"
  | mod => "%" | pow => "**" | shiftLeft => "<<" | shiftRight => ">>"
  | bitOr => "|" | bitXor => "^" | bitAnd => "&"

/-- The strength of an operator. -/
def BinaryOp.strength : BinaryOp → Strength
  | add | sub => .sum
  | mul | matMul | div | floorDiv | mod => .product
  | pow => .power
  | shiftLeft | shiftRight => .shift
  | bitOr => .bitOr
  | bitXor => .bitXor
  | bitAnd => .bitAnd

/-- The strength that an operator asks of its left operand. -/
def BinaryOp.leftStrength (op : BinaryOp) : Strength :=
  if op = .pow then op.strength.next else op.strength

/-- The strength that an operator asks of its right operand. -/
def BinaryOp.rightStrength (op : BinaryOp) : Strength :=
  if op = .pow then op.strength else op.strength.next

/-- The sign of an operator with one operand, with a blank behind a word. -/
def UnaryOp.sign : UnaryOp → String
  | invert => "~" | negate => "-" | plus => "+" | logicalNot => "not "

/-- The strength of an operator with one operand. -/
def UnaryOp.strength : UnaryOp → Strength
  | logicalNot => .not
  | _ => .sign

/-- The sign of a comparison. -/
def CompareOp.sign : CompareOp → String
  | equal => "==" | notEqual => "!=" | less => "<" | atMost => "<=" | greater => ">"
  | atLeast => ">=" | same => "is" | notSame => "is not" | member => "in" | notMember => "not in"

/-- The word of an operator that stops early. -/
def BoolOp.word : BoolOp → String
  | .and => "and" | .or => "or"

/-- The strength of an operator that stops early. -/
def BoolOp.strength : BoolOp → Strength
  | .and => .and | .or => .or

/-- The brackets around a comprehension. -/
def Collection.enclose (s : String) : Collection → String
  | list => "[" ++ s ++ "]"
  | set => "\x7b" ++ s ++ "\x7d"
  | generator => "(" ++ s ++ ")"

/-! ## §3. Lists. -/

/-- Texts with commas between them. -/
def commaSeparated (items : List String) : String := ", ".intercalate items

/-- Texts with commas between them, and a comma behind a single one. -/
def tupleItems : List String → String
  | [s] => s ++ ","
  | items => commaSeparated items

/-- The first of several parameters, taken by position only, is followed by a slash; a star is
put before the first one that is taken by name only, unless the rest by position stands there. -/
def parameterMarks (params : List (ParamKind × String)) : List String :=
  go false params
where
  /-- The texts behind a star, or in front of it. -/
  go (starred : Bool) : List (ParamKind × String) → List String
    | [] => []
    | (.positional, s) :: (.positional, t) :: rest => s :: go starred ((.positional, t) :: rest)
    | (.positional, s) :: rest => s :: "/" :: go starred rest
    | (.rest, s) :: rest => ("*" ++ s) :: go true rest
    | (.keyword, s) :: rest =>
      if starred then s :: go true rest else "*" :: s :: go true rest
    | (.keywords, s) :: rest => ("**" ++ s) :: go starred rest
    | (.regular, s) :: rest => s :: go starred rest

/-- Is the expression a whole number as written?  A point may not follow it at once. -/
def Expr.isWhole : Expr → Bool
  | .constant c => c.isWhole
  | _ => false

/-- The strength that a subscript asks of its index; the commas of a tuple need no parentheses
there. -/
def Expr.indexStrength : Expr → Strength
  | .tuple _ => .tuple
  | _ => .test

/-- What is written for a hole that cannot be written.  No other text holds this character. -/
def unwritable : String := "\x00"

/-- The text, unless a part of it could not be written. -/
def written? (s : String) : Option String := if s.contains '\x00' then none else some s

/-- A hole of a formatted text; a blank keeps its brace apart from one that follows.  Code that
needs a backslash cannot stand in a hole. -/
def holeText (code : String) (conversion : Option Char) (format : String) : String :=
  if code.contains '\\' then unwritable
  else "\x7b" ++ (if code.startsWith "\x7b" then " " else "") ++ code
    ++ (conversion.elim "" (fun c => "!" ++ String.singleton c)) ++ format ++ "\x7d"

/-- The enclosed parts of a formatted text. -/
def formattedText (avoid : Bool) (parts : List (String × Bool)) : String :=
  if parts.any (fun p => (written? p.1).isNone) then unwritable
  else if avoid then "f" ++ gentleText allQuotes (String.join (parts.map (·.1)))
  else "f" ++ encloseParts parts

/-! ## §4. Expressions. -/

mutual

/-- An expression as code, at a place that asks for the given strength. -/
def Expr.spell (avoid : Bool) (asked : Strength) : Expr → String
  | .constant c => c.spell avoid
  | .name id => id
  | .boolean op operands =>
    parenthesize op.strength asked
      ((" " ++ op.word ++ " ").intercalate (spellRising avoid op.strength.next operands))
  | .walrus target value =>
    parenthesize .walrus asked (target ++ " := " ++ value.spell avoid .atom)
  | .binary op left right =>
    parenthesize op.strength asked
      (left.spell avoid op.leftStrength ++ " " ++ op.sign ++ " "
        ++ right.spell avoid op.rightStrength)
  | .unary op operand =>
    parenthesize op.strength asked (op.sign ++ operand.spell avoid op.strength)
  | .lambda params body =>
    let ps := commaSeparated (parameterMarks (spellParams avoid params))
    parenthesize .test asked
      ("lambda" ++ (if ps.isEmpty then "" else " " ++ ps) ++ ": " ++ body.spell avoid .test)
  | .conditional test body orelse =>
    parenthesize .test asked
      (body.spell avoid .or ++ " if " ++ test.spell avoid .or ++ " else "
        ++ orelse.spell avoid .test)
  | .dict items => "\x7b" ++ commaSeparated (spellItems avoid items) ++ "\x7d"
  | .set elements =>
    if elements.isEmpty then "\x7b*()\x7d"
    else "\x7b" ++ commaSeparated (spellList avoid .test elements) ++ "\x7d"
  | .list elements => "[" ++ commaSeparated (spellList avoid .test elements) ++ "]"
  | .tuple elements =>
    let s := tupleItems (spellList avoid .test elements)
    if elements.isEmpty || Strength.tuple < asked then "(" ++ s ++ ")" else s
  | .comprehension kind element clauses =>
    kind.enclose (element.spell avoid .test ++ spellClauses avoid clauses)
  | .dictComprehension key value clauses =>
    "\x7b" ++ key.spell avoid .test ++ ": " ++ value.spell avoid .test
      ++ spellClauses avoid clauses ++ "\x7d"
  | .await value => parenthesize .await asked ("await " ++ value.spell avoid .atom)
  | .yield value => parenthesize .yield asked ("yield" ++ spellOption avoid .atom " " value)
  | .yieldFrom value => parenthesize .yield asked ("yield from " ++ value.spell avoid .atom)
  | .compare first links =>
    parenthesize .compare asked (first.spell avoid .bitOr ++ spellLinks avoid links)
  | .call func args keywords =>
    func.spell avoid .atom ++ "("
      ++ commaSeparated (spellList avoid .test args ++ spellKeywords avoid keywords) ++ ")"
  | .formatted parts => formattedText avoid (spellParts parts)
  | .placeholder value conversion spec =>
    holeText (value.spell true .or) conversion (spellFormat spec)
  | .attribute value name =>
    value.spell avoid .atom ++ (if value.isWhole then " ." else ".") ++ name
  | .subscript value index =>
    value.spell avoid .atom ++ "[" ++ index.spell avoid index.indexStrength ++ "]"
  | .starred value => "*" ++ value.spell avoid .bitOr
  | .slice lower upper step =>
    spellOption avoid .test "" lower ++ ":" ++ spellOption avoid .test "" upper
      ++ spellOption avoid .test ":" step

/-- Expressions at places that ask for the same strength. -/
def spellList (avoid : Bool) (asked : Strength) : List Expr → List String
  | [] => []
  | e :: es => e.spell avoid asked :: spellList avoid asked es

/-- Expressions at places of which each asks for more than the one before. -/
def spellRising (avoid : Bool) (asked : Strength) : List Expr → List String
  | [] => []
  | e :: es => e.spell avoid asked :: spellRising avoid asked.next es

/-- An expression behind a text, or nothing. -/
def spellOption (avoid : Bool) (asked : Strength) (before : String) : Option Expr → String
  | none => ""
  | some e => before ++ e.spell avoid asked

/-- The items of a dictionary. -/
def spellItems (avoid : Bool) : List DictItem → List String
  | [] => []
  | .entry key value :: rest =>
    (key.spell avoid .test ++ ": " ++ value.spell avoid .test) :: spellItems avoid rest
  | .spread value :: rest => ("**" ++ value.spell avoid .bitOr) :: spellItems avoid rest

/-- The clauses of a comprehension, each with a blank in front. -/
def spellClauses (avoid : Bool) : List CompClause → String
  | [] => ""
  | .mk isAsync target iter conditions :: rest =>
    (if isAsync then " async for " else " for ") ++ target.spell avoid .tuple ++ " in "
      ++ iter.spell avoid .or ++ spellConditions avoid conditions ++ spellClauses avoid rest

/-- The conditions of a clause, each with a blank in front. -/
def spellConditions (avoid : Bool) : List Expr → String
  | [] => ""
  | e :: es => " if " ++ e.spell avoid .or ++ spellConditions avoid es

/-- The comparisons behind a first operand, each with a blank in front. -/
def spellLinks (avoid : Bool) : List CompareLink → String
  | [] => ""
  | .mk op right :: rest =>
    " " ++ op.sign ++ " " ++ right.spell avoid .bitOr ++ spellLinks avoid rest

/-- Arguments by name. -/
def spellKeywords (avoid : Bool) : List Keyword → List String
  | [] => []
  | .mk name value :: rest =>
    (name.elim "**" (· ++ "=") ++ value.spell avoid .test) :: spellKeywords avoid rest

/-- Parameters with the way each takes its argument. -/
def spellParams (avoid : Bool) : List Param → List (ParamKind × String)
  | [] => []
  | .mk kind name hint default :: rest =>
    (kind, name ++ spellOption avoid .test ": " hint ++ spellOption avoid .test "=" default)
      :: spellParams avoid rest

/-- The parts of a formatted text, each with the answer whether it is constant. -/
def spellParts : List Expr → List (String × Bool)
  | [] => []
  | .constant (.text s _) :: rest => (doubleBraces s, true) :: spellParts rest
  | .placeholder value conversion spec :: rest =>
    (holeText (value.spell true .or) conversion (spellFormat spec), false) :: spellParts rest
  | _ :: rest => spellParts rest

/-- The format of a hole, its colon in front. -/
def spellFormat : Option Expr → String
  | some (.formatted parts) => ":" ++ String.join ((spellParts parts).map (·.1))
  | _ => ""

end

end Inlay.Code
