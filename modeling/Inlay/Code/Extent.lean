/-
  Inlay.Code.Extent
  ────────────────────────────────
  **WHERE CODE STANDS.**

  The places where the statements of some code, or the expression that it is,
  start and stop.  Parentheses around an expression do not belong to it;
  around a statement that is an expression they do.

      statementExtents  — one extent for each statement
      expressionExtent? — the extent of an expression
-/
import Inlay.Code.Statement

namespace Inlay.Code

open Reader

/-- A piece of code: where it starts and where it stops. -/
structure Extent where
  start : Spot
  stop : Spot
  deriving Repr, DecidableEq, Inhabited

/-- The extent of some lexemes. -/
def extentOf? (toks : List Tok) : Option Extent :=
  match toks.head?, toks.getLast? with
  | some a, some b => some ⟨a.start, b.stop⟩
  | _, _ => none

/-! ## §1. Statements. -/

mutual

/-- The last lexeme of a line and its suite. -/
def Line.lastTok? : Line → Option Tok
  | .mk toks suite => (lastTokOf? suite).or toks.getLast?

/-- The last lexeme of some lines. -/
def lastTokOf? : List Line → Option Tok
  | [] => none
  | l :: ls => (lastTokOf? ls).or l.lastTok?

end

/-- The words that start a statement with a suite. -/
def openingWords : List String := ["if", "while", "for", "with", "try", "def", "class", "async"]

/-- The words that continue a statement with a suite. -/
def continuingWords : List String := ["elif", "else", "except", "finally"]

/-- Does the line start with one of some words? -/
def Line.startsWith (words : List String) (l : Line) : Bool :=
  match l.toks.head?.map Tok.lexeme with
  | some (.word w) => words.contains w
  | _ => false

/-- Does the line start with the given sign? -/
def Line.startsWithSign (s : String) (l : Line) : Bool :=
  l.toks.head?.map Tok.lexeme == some (.sign s)

/-- The lexemes of the simple statements of a line. -/
def splitStatements : List Tok → List (List Tok)
  | [] => [[]]
  | t :: ts =>
    if t.lexeme = .sign ";" then [] :: splitStatements ts
    else
      match splitStatements ts with
      | [] => [[t]]
      | first :: rest => (t :: first) :: rest

/-- The extents of the statements that some lines form. -/
def lineExtents (lines : List Line) : List Extent :=
  match lines with
  | [] => []
  | l :: rest =>
    if l.startsWithSign "@" then lineExtents rest
    else if l.startsWith openingWords || !l.suite.isEmpty then
      let clauses := rest.takeWhile (Line.startsWith continuingWords)
      let whole : Option Extent := do
        let first ← l.toks.head?
        let last ← (lastTokOf? clauses).or l.lastTok?
        some ⟨first.start, last.stop⟩
      whole.toList ++ lineExtents (rest.dropWhile (Line.startsWith continuingWords))
    else (splitStatements l.toks).filterMap extentOf? ++ lineExtents rest
termination_by lines.length
decreasing_by
  · simp
  · have := (List.dropWhile_sublist (l := rest) (Line.startsWith continuingWords)).length_le
    simp only [List.length_cons]
    omega
  · simp

/-- The extents of the statements that some code is. -/
def statementExtents (code : String) : List Extent := ((layout? code).map lineExtents).getD []

/-! ## §2. Expressions. -/

/-- The lexemes between a pair of parentheses that enclose nothing but one expression. -/
def insideParentheses? (g : Grammar) (toks : List Tok) : Option (List Tok) :=
  match toks with
  | ⟨.sign "(", _, _⟩ :: rest =>
    if rest.getLast?.map Tok.lexeme = some (.sign ")") then
      match (do if ← acceptWord "yield" then yielded g else namedExpression g) rest.dropLast with
      | some (_, []) => some rest.dropLast
      | _ => none
    else none
  | _ => none

/-- The lexemes of an expression without the parentheses around it, at most so many pairs. -/
def bareToks (g : Grammar) : Nat → List Tok → List Tok
  | 0, toks => toks
  | n + 1, toks =>
    match insideParentheses? g toks with
    | some inner => bareToks g n inner
    | none => toks

/-- The extent of the expression that some code is. -/
def expressionExtent? (code : String) : Option Extent := do
  match ← layout? code with
  | [.mk toks []] => extentOf? (bareToks (grammarFor code) toks.length toks)
  | _ => none

/-! ## §3. Extents of a template. -/

/-- A piece of code with the lines that it has in a template. -/
structure Region where
  firstLine : Int
  column : Int
  lastLine : Int
  stopColumn : Int
  deriving Repr, DecidableEq

/-- The region of a single line. -/
def Region.ofLine (line : Int) : Region := ⟨line, 0, line, 0⟩

/-- The region of some code that starts on the given line of a template. -/
def Extent.region (e : Extent) (line : Int) : Region :=
  ⟨e.start.line + line - 1, e.start.column, e.stop.line + line - 1, e.stop.column⟩

/-- Lines lie below this. -/
def lineLimit : Int := 0x80000000

/-- Are the lines of the region numbers that a line can have? -/
def Region.fits (r : Region) : Bool :=
  [r.firstLine, r.lastLine].all (fun n => -lineLimit ≤ n && n < lineLimit)

/-- May a program hold code with this region?  In front of the first line code has one line. -/
def Region.isValid (r : Region) : Bool := 0 ≤ r.firstLine || r.firstLine = r.lastLine

end Inlay.Code
