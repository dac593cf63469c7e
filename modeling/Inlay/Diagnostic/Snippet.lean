/-
  Inlay.Diagnostic.Snippet
  ────────────────────────────────
  **WHERE IT HAPPENED.**

  The two ways in which a diagnostic shows a place: the source lines around
  a failing line, and the chain of includes that led to it.  Every text here
  comes with colours or without.
-/
import Inlay.Fault
import Inlay.Text.Colour
import Inlay.Text.Lines
import Inlay.Text.Search

namespace Inlay.Diagnostic

open Inlay.Text

/-! ## §1. Colours of a diagnostic. -/

/-- The colour of an error code. -/
def paintCode (colours : Bool) (s : String) : String := paint colours [.brightRed, .bold] s
/-- The colour of a place. -/
def paintLocation (colours : Bool) (s : String) : String := paint colours [.cyan] s
/-- The colour of a line number. -/
def paintLineNumber (colours : Bool) (s : String) : String := paint colours [.yellow] s
/-- The colour of a failing line. -/
def paintErrorLine (colours : Bool) (s : String) : String := paint colours [.brightRed] s
/-- The colour of advice. -/
def paintHint (colours : Bool) (s : String) : String := paint colours [.green] s
/-- The colour of a corrected name. -/
def paintSuggestion (colours : Bool) (s : String) : String := paint colours [.brightGreen, .bold] s
/-- The colour of what matters less. -/
def paintDim (colours : Bool) (s : String) : String := paint colours [.dim] s

/-- A message behind its code, if there is one. -/
def withCode (colours : Bool) (code : Option String) (message : String) : String :=
  match nonempty? code with
  | some c => paintCode colours c ++ ": " ++ message
  | none => message

/-- A numbered source line; the failing one is marked. -/
def sourceLine (colours : Bool) (line : Int) (content : String) (isError : Bool) : String :=
  paintLineNumber colours ((if isError then ">" else " ") ++ padLeft 3 (toString line)) ++ " | "
    ++ (if isError then paintErrorLine colours content else paintDim colours content)

/-! ## §2. Snippets. -/

/-- Source lines with their numbers, the failing line, and perhaps a column in it. -/
structure Snippet where
  lines : List (Int × String)
  errorLine : Int
  column : Option Int := none
  deriving Repr, DecidableEq

/-- The lines of a source that have the given numbers, counted from zero. -/
def numberedLines (lines : List String) (start stop : Nat) : List (Int × String) :=
  (List.range' start (stop - start)).filterMap (fun (i : Nat) =>
    lines[i]?.map (fun l => ((i : Int) + 1, l)))

/-- The lines around a line. -/
def Snippet.ofSource (source : String) (line context : Int) (column : Option Int) : Snippet :=
  let lines := linesOf source
  let start := max 0 (line - 1 - context)
  let stop := min (lines.length : Int) (line + context)
  ⟨numberedLines lines start.toNat stop.toNat, line, column⟩

/-- One line of a snippet, and the caret below it. -/
def Snippet.lineText (colours : Bool) (s : Snippet) (l : Int × String) : List String :=
  let isError := l.1 == s.errorLine
  sourceLine colours l.1 l.2 isError ::
    match isError, s.column with
    | true, some c => [paintDim colours "   |" ++ " " ++ paintErrorLine colours (blanks c ++ "^")]
    | _, _ => []

/-- A snippet as text. -/
def Snippet.format (colours : Bool) (s : Snippet) : String :=
  let border := paintDim colours "   |"
  "\n".intercalate (border :: s.lines.flatMap (s.lineText colours) ++ [border])

/-! ## §3. The chain of includes. -/

/-- One link of the chain. -/
def stackLine (colours : Bool) (link : String × Int) : String :=
  "  • " ++ paintLocation colours (link.1 ++ ":" ++ toString link.2)

/-- The chain of includes as text, outermost first; nothing for an empty chain. -/
def stackText (colours : Bool) (stack : List (String × Int)) : String :=
  if stack.isEmpty then ""
  else "\n".intercalate (paintDim colours "Template stack:" :: stack.map (stackLine colours))

end Inlay.Diagnostic
