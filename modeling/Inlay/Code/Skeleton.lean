/-
  Inlay.Code.Skeleton
  ────────────────────────────────
  **ONE STATEMENT FROM SEVERAL HEADERS.**

  The headers of a block are written below each other, each with a `pass` as
  its body, and read as one compound statement.  The body of a header is
  found again by the line of its `pass`: it is the list of statements that
  holds this `pass` and nothing else.

      skeleton — the statement, and for every header the line of its `pass`
      slotPath — where in the statement the body of a header is
      fill     — the statement with other bodies in the place of these
-/
import Inlay.Code.Extent
import Inlay.Header
import Inlay.Fault
import Inlay.Text.Lines

namespace Inlay.Code

/-! ## §1. Assembling headers. -/

/-- Lines of code, and for every header the line of its `pass`. -/
structure Assembly where
  lines : List String
  slots : List (Option Nat)

/-- The lines of a header.  Only its first line needs to be indented: the others stand inside
brackets, inside text, or behind a backslash. -/
def headerLines (header : String) : List String :=
  match Text.linesOf (Header.normalize header) with
  | [] => [""]
  | lines => lines

/-- The assembly with one more header. -/
def Assembly.add (a : Assembly) (header : String) : Assembly :=
  let withBody (first indentation : String) (rest : List String) : Assembly :=
    let lines := a.lines ++ (first :: rest ++ [indentation ++ "pass"])
    ⟨lines, a.slots ++ [some lines.length]⟩
  match headerLines header with
  | [] => a
  | first :: rest =>
    if Header.clauseWord? header = some "case" then withBody ("    " ++ first) "        " rest
    else if Header.hasBody header then withBody first "    " rest
    else ⟨a.lines ++ first :: rest, a.slots ++ [none]⟩

/-- The lines of all headers. -/
def assembleHeaders (headers : List String) : Assembly := headers.foldl Assembly.add ⟨[], []⟩

/-- Where the statement that the lines form stands: it ends with the `pass` of the last header. -/
def Assembly.extent? (a : Assembly) : Option Extent :=
  a.lines.getLast?.map (fun last => ⟨⟨1, 0⟩, ⟨a.lines.length, last.utf8ByteSize⟩⟩)

/-! ## §2. Places in a statement. -/

/-- A step from a statement to one of its parts. -/
inductive Step where
  | body | orelse | finalbody
  | handler (index : Nat)
  | case (index : Nat)
  | statement (index : Nat)
  deriving Repr, DecidableEq

/-- Is the list a single `pass` on the given line? -/
def isSlot (line : Nat) : List Stmt → Bool
  | [.pass n] => n == line
  | _ => false

/-- The path behind one more step. -/
def stepTo (s : Step) (path : Option (List Step)) : Option (List Step) := path.map (s :: ·)

mutual

/-- The way from a statement to the list that holds the `pass` of a line alone. -/
def Stmt.slotPath? (line : Nat) : Stmt → Option (List Step)
  | .conditional _ body orelse =>
    (stepTo .body (bodyPath? line body)).or (stepTo .orelse (bodyPath? line orelse))
  | .whileLoop _ body orelse =>
    (stepTo .body (bodyPath? line body)).or (stepTo .orelse (bodyPath? line orelse))
  | .forLoop _ _ _ body orelse =>
    (stepTo .body (bodyPath? line body)).or (stepTo .orelse (bodyPath? line orelse))
  | .withBlock _ _ body => stepTo .body (bodyPath? line body)
  | .tryBlock _ body handlers orelse finalbody =>
    (stepTo .body (bodyPath? line body)).or
      ((handlerPath? line 0 handlers).or
        ((stepTo .orelse (bodyPath? line orelse)).or
          (stepTo .finalbody (bodyPath? line finalbody))))
  | .matchBlock _ cases => casePath? line 0 cases
  | .function _ _ _ body _ _ => stepTo .body (bodyPath? line body)
  | .classBlock _ _ _ body _ => stepTo .body (bodyPath? line body)
  | _ => none

/-- The way from a list of statements to the slot; none at all if it is the slot itself. -/
def bodyPath? (line : Nat) : List Stmt → Option (List Step)
  | [] => none
  | s :: ss =>
    if isSlot line (s :: ss) then some []
    else (stepTo (.statement 0) (s.slotPath? line)).or (restPath? line 1 ss)

/-- The way to the slot from statements of which the first has the given index. -/
def restPath? (line index : Nat) : List Stmt → Option (List Step)
  | [] => none
  | s :: ss =>
    (stepTo (.statement index) (s.slotPath? line)).or (restPath? line (index + 1) ss)

/-- The way to the slot from handlers of which the first has the given index. -/
def handlerPath? (line index : Nat) : List Handler → Option (List Step)
  | [] => none
  | .mk _ _ body :: rest =>
    (stepTo (.handler index) (stepTo .body (bodyPath? line body))).or
      (handlerPath? line (index + 1) rest)

/-- The way to the slot from cases of which the first has the given index. -/
def casePath? (line index : Nat) : List Case → Option (List Step)
  | [] => none
  | .mk _ _ body :: rest =>
    (stepTo (.case index) (stepTo .body (bodyPath? line body))).or
      (casePath? line (index + 1) rest)

end

/-! ## §3. Filling. -/

/-- What to put into the place of a body that is a single `pass`. -/
abbrev Filling := Nat → Option (List Stmt)

/-- The statements to put in the place of a body, if it is a slot of the filling. -/
def Filling.of? (fill : Filling) : List Stmt → Option (List Stmt)
  | [.pass line] => fill line
  | _ => none

mutual

/-- The statement with its slots filled. -/
def Stmt.fill (slots : Filling) : Stmt → Stmt
  | .conditional test body orelse =>
    .conditional test (fillBody slots body) (fillBody slots orelse)
  | .whileLoop test body orelse => .whileLoop test (fillBody slots body) (fillBody slots orelse)
  | .forLoop isAsync target iter body orelse =>
    .forLoop isAsync target iter (fillBody slots body) (fillBody slots orelse)
  | .withBlock isAsync items body => .withBlock isAsync items (fillBody slots body)
  | .tryBlock isGroup body handlers orelse finalbody =>
    .tryBlock isGroup (fillBody slots body) (fillHandlers slots handlers)
      (fillBody slots orelse) (fillBody slots finalbody)
  | .matchBlock subject cases => .matchBlock subject (fillCases slots cases)
  | .function isAsync name params body decorators returns =>
    .function isAsync name params (fillBody slots body) decorators returns
  | .classBlock name bases keywords body decorators =>
    .classBlock name bases keywords (fillBody slots body) decorators
  | s => s

/-- A body with its slots filled, or what fills it. -/
def fillBody (slots : Filling) : List Stmt → List Stmt
  | [] => []
  | s :: ss => (slots.of? (s :: ss)).getD (s.fill slots :: fillRest slots ss)

/-- Statements that are no body of their own, with their slots filled. -/
def fillRest (slots : Filling) : List Stmt → List Stmt
  | [] => []
  | s :: ss => s.fill slots :: fillRest slots ss

/-- Handlers with their slots filled. -/
def fillHandlers (slots : Filling) : List Handler → List Handler
  | [] => []
  | .mk type name body :: rest => .mk type name (fillBody slots body) :: fillHandlers slots rest

/-- Cases with their slots filled. -/
def fillCases (slots : Filling) : List Case → List Case
  | [] => []
  | .mk pattern guard body :: rest => .mk pattern guard (fillBody slots body) :: fillCases slots rest

end

/-! ## §4. Skeletons. -/

/-- Why headers have no skeleton. -/
inductive SkeletonFault where
  /-- The code holds the character zero. -/
  | nul
  | refused (reason : CodeFault)
  /-- The `pass` of a header, on the given line, is not alone in its body. -/
  | buried (line : Nat)
  deriving Repr, DecidableEq

/-- A compound statement, and for every header its slot, if it has a body. -/
structure Skeleton where
  statement : Stmt
  slots : List (Option Nat)

/-- The first slot that the statement does not have. -/
def missingSlot? (s : Stmt) (slots : List (Option Nat)) : Option Nat :=
  (slots.filterMap id).find? (fun line => (s.slotPath? line).isNone)

/-- The compound statement that some headers form. -/
def skeleton (headers : List String) : Except SkeletonFault Skeleton :=
  let a := assembleHeaders headers
  let code := "\n".intercalate a.lines
  if code.toList.contains '\x00' then .error .nul
  else match parseStatements? code with
    | none => .error (.refused .unreadable)
    | some [s] =>
      match missingSlot? s a.slots with
      | some line => .error (.buried line)
      | none => .ok ⟨s, a.slots⟩
    | some _ => .error (.refused .headersApart)

end Inlay.Code
