/-
  Inlay.Indent.Resolve
  ────────────────────────────────
  **RESOLVING INDENTATION.**

  A pipe block may be indented for the reader's sake.  Resolving a tree

    1. notes for every marker the indentation right before it,
    2. drops the line that a pipe marker stands on: the text before a pipe
       block, and the last text of each of its clauses, lose a last line of
       indentation alone,
    3. notes for every pipe block the indentation of its body as authored,
    4. flags a pipe marker that is the first node of its body, because its
       output loses a leading newline.

  Indentations are read before anything is dropped.  Empty texts disappear.
-/
import Inlay.Header
import Inlay.Indent.Lines
import Inlay.Tree

namespace Inlay.Indent

/-! ## §1. Reading indentations. -/

/-- `trailing` on strings. -/
def trailingString (s : String) : String := String.ofList (trailing s.toList)

/-- `dropLastLine` on strings. -/
def dropLastLineString (s : String) : String := String.ofList (dropLastLine s.toList)

/-- The indentation that a node leaves for a marker right behind it. -/
def indentationAfter : Option (Node Unit) → String
  | some (.text _ v) => trailingString v
  | _ => ""

/-- The baseline that a body shows: that of its first node, if it is a text with one. -/
def bodyBaseline? : List (Node Unit) → Option String
  | .text _ v :: _ => (baseline? v.toList).map String.ofList
  | _ => none

/-- The baseline of a block whose marker stands at an indentation: the one that the first
non-empty clause body shows, or the marker's own. -/
def blockBaseline (current : String) : List (Clause Unit) → String
  | [] => current
  | .mk _ code body :: rest =>
    if !Header.hasBody code || body.isEmpty then blockBaseline current rest
    else (bodyBaseline? body).getD current

/-! ## §2. Dropping lines and texts. -/

/-- A text that keeps its characters, or nothing when there are none. -/
def textUnlessEmpty (position : Position) (value : String) : List (Node Placement) :=
  if value.isEmpty then [] else [.text position value]

/-- A body whose last node, if it is a text, loses its last line. -/
def trimLast (body : List (Node Placement)) : List (Node Placement) :=
  match body.getLast? with
  | some (.text p v) => body.dropLast ++ textUnlessEmpty p (dropLastLineString v)
  | _ => body

/-- Is the node a pipe block? -/
def isPipeBlock {α : Type} : Option (Node α) → Bool
  | some (.block opener _) => opener.kind = .pipe
  | _ => false

/-! ## §3. The pass over a tree. -/

mutual

/-- Resolve the nodes of a body, given the node before them. -/
def resolveBody (previous : Option (Node Unit)) : List (Node Unit) → List (Node Placement)
  | [] => []
  | node :: rest =>
    resolveNode previous (isPipeBlock rest.head?) node ++ resolveBody (some node) rest

/-- Resolve a node, given the node before it and whether a pipe block follows. -/
def resolveNode (previous : Option (Node Unit)) (beforePipe : Bool) :
    Node Unit → List (Node Placement)
  | .text p v => textUnlessEmpty p (if beforePipe then dropLastLineString v else v)
  | .expr m =>
    [.expr { m with note :=
      { indentation := indentationAfter previous
        trimsNewline := previous.isNone && m.kind = .pipe } }]
  | .block m clauses =>
    let indentation := indentationAfter previous
    if m.kind = .pipe then
      [.block { m with note :=
        { indentation, trimsNewline := previous.isNone
          baseline := some (blockBaseline indentation clauses) } }
        (resolveClauses true clauses)]
    else [.block { m with note := { indentation } } (resolveClauses false clauses)]

/-- Resolve the clauses of a block, which is a pipe block or not. -/
def resolveClauses (isPipe : Bool) : List (Clause Unit) → List (Clause Placement)
  | [] => []
  | .mk p code body :: rest =>
    let resolved := resolveBody none body
    .mk p code (if isPipe then trimLast resolved else resolved) :: resolveClauses isPipe rest

end

/-- Resolve a template. -/
def resolve (t : Template Unit) : Template Placement := ⟨t.name, resolveBody none t.body⟩

end Inlay.Indent
