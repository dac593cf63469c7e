/-
  Inlay.Program.Rewritten
  ────────────────────────────────
  **CODE WITH ITS INCLUDES WRAPPED.**

  The code of one marker as text again, after its include calls have got the
  indentation at which the marker stands.
-/
import Inlay.Code.Depth
import Inlay.Code.Naming
import Inlay.Code.Spelling.Statement
import Inlay.Code.Statement
import Inlay.Header
import Inlay.Program.Include

namespace Inlay.Program

open Inlay.Code

/-- Why a tree is not written as code. -/
inductive WriteFault where
  /-- A formatted text cannot be written without a backslash in an expression. -/
  | unwritable
  /-- A whole number has too many digits. -/
  | tooLong
  /-- The tree nests too deep. -/
  | tooDeep
  deriving Repr, DecidableEq

/-- Why code is not written again. -/
inductive RewriteFault where
  /-- The code holds the character zero. -/
  | nul
  | unreadable
  /-- The code nests too deep to be read, or to be rewritten. -/
  | tooDeep (whenRead : Bool)
  | unwritten (f : WriteFault)
  deriving Repr, DecidableEq

/-! ## §1. Writing. -/

/-- Is the constant a whole number with too many digits? -/
def isTooLong : Constant → Bool
  | .int n => Nat.pow 10 maxWrittenDigits ≤ n
  | _ => false

/-- Does the expression hold a whole number with too many digits? -/
def exprHoldsTooLong (fuel : Nat) (e : Expr) : Bool :=
  match fuel, e with
  | 0, _ => false
  | _, .constant c => isTooLong c
  | n + 1, e => e.parts.any (fun p => exprHoldsTooLong n p.expr)

/-- Do the statements hold a whole number with too many digits? -/
def holdTooLong (fuel : Nat) (body : List Stmt) : Bool :=
  match fuel with
  | 0 => false
  | n + 1 =>
    body.any (fun s =>
      s.exprs.any (exprHoldsTooLong fuel) || s.bodies.any (holdTooLong n))

/-- A tree as code: its text, unless the tree does not fit the budget of writing, or holds a number
that is too long. -/
def writtenAs (fits holdsTooLong : Bool) (text : Option String) : Except WriteFault String :=
  if !fits then .error .tooDeep
  else if holdsTooLong then .error .tooLong
  else
    match text with
    | some s => .ok s
    | none => .error .unwritable

/-- So many calls lie between writing a program and writing its statements. -/
def programCalls : Nat := 5

/-- A program as code. -/
def writeProgram (body : List Stmt) : Except WriteFault String :=
  writtenAs (bodyFits writing (writingBudget - programCalls) body) (holdTooLong writingBudget body)
    (bodyText? body)

/-! ## §2. Code again. -/

/-- Something that was read, if the code can be read. -/
def readCode {α : Type} (read? : String → Option α) (fits : Descent → Nat → α → Bool)
    (code : String) : Except RewriteFault α :=
  let normal := Header.normalize code
  if normal.toList.contains '\x00' then .error .nul
  else
    match read? normal with
    | some a =>
      if !fits reading readingBudget a then .error (.tooDeep true)
      else if !fits rewriting rewritingBudget a then .error (.tooDeep false)
      else .ok a
    | none => .error .unreadable

/-- The code of an expression with its includes wrapped. -/
def rewriteExpression (indentation code : String) : Except RewriteFault String := do
  let e := wrapIncludes indentation (← readCode parseExpression? Expr.fits code)
  (writtenAs (e.fits writing writingBudget) (exprHoldsTooLong writingBudget e) e.text?).mapError
    .unwritten

/-- The code of statements with their includes wrapped. -/
def rewriteStatements (indentation code : String) : Except RewriteFault (List String) := do
  let ss ← readCode parseStatements? bodyFits code
  ss.mapM (fun s =>
    let t := wrapIncludesIn indentation s
    (writtenAs (t.fits writing writingBudget) (holdTooLong writingBudget [t]) t.text?).mapError
      .unwritten)

end Inlay.Program
