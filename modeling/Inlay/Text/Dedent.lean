/-
  Inlay.Text.Dedent
  ────────────────────────────────
  **REMOVING COMMON INDENTATION.**

  `dedent` empties the lines that hold spaces and tabs only and removes from
  every other line the longest indentation that all of these share.  Spaces
  and tabs are compared as characters; a tab equals no number of spaces.
-/
import Inlay.Text.Lines

namespace Inlay.Text

/-- Is the character one of indentation? -/
def isIndent (c : Char) : Bool := c == ' ' || c == '\t'

/-- The longest text that both lists start with. -/
def commonStart : List Char → List Char → List Char
  | a :: s, b :: t => if a = b then a :: commonStart s t else []
  | _, _ => []

/-- The indentation that all lines with other characters share. -/
def sharedIndent (lines : List (List Char)) : List Char :=
  match (lines.filter (fun l => !l.all isIndent)).map (·.takeWhile isIndent) with
  | [] => []
  | i :: is => is.foldl commonStart i

/-- Every line without the shared indentation; lines of indentation alone become empty. -/
def dedent (s : List Char) : List Char :=
  let lines := splitNewlines s
  let margin := (sharedIndent lines).length
  joinNewlines (lines.map (fun l => if l.all isIndent then [] else l.drop margin))

end Inlay.Text
