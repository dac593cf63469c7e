/-
  Inlay.Indent.Lines
  ────────────────────────────────
  **MOVING LINES.**

  Indentation is spaces and tabs, compared and copied as characters.

      trailing      — the indentation at the end of a text
      dropLastLine  — the text without a last line of indentation alone
      baseline?     — the indentation after the newlines a text starts with
      realign       — lines that start with one indentation get another
      reindent      — every line but the first gets an indentation
-/
import Inlay.Text.Dedent

namespace Inlay.Indent

open Inlay.Text

/-! ## §1. The two ends of a text. -/

/-- The spaces and tabs at the end of a text. -/
def trailing (s : List Char) : List Char := (s.reverse.takeWhile isIndent).reverse

/-- The text without the newline that only spaces and tabs follow, and without these. -/
def dropLastLine (s : List Char) : List Char :=
  match s.reverse.dropWhile isIndent with
  | '\n' :: r => r.reverse
  | _ => s

theorem dropLastLine_isPrefix (s : List Char) : dropLastLine s <+: s := by
  unfold dropLastLine
  split
  · rename_i r hdrop
    have hsuffix : r <:+ s.reverse :=
      (List.suffix_cons '\n' r).trans (hdrop ▸ List.dropWhile_suffix isIndent)
    rw [← List.reverse_suffix, List.reverse_reverse]
    exact hsuffix
  · exact List.prefix_rfl

/-- The indentation of the first line, in a text that starts with a newline. -/
def baseline? (s : List Char) : Option (List Char) :=
  match s with
  | '\n' :: r => some ((r.dropWhile (· == '\n')).takeWhile isIndent)
  | _ => none

/-! ## §2. Lines after the first. -/

/-- The text with every line but the first changed. -/
def mapLaterLines (f : List Char → List Char) (s : List Char) : List Char :=
  match splitNewlines s with
  | [] => []
  | first :: rest => joinNewlines (first :: rest.map f)

/-- A line with its baseline replaced; an empty line, or one that does not start with the
baseline, stays. -/
def realignLine (baseline current line : List Char) : List Char :=
  if line ≠ [] && baseline.isPrefixOf line then current ++ line.drop baseline.length else line

/-- The text with every line after the first moved from one indentation to another. -/
def realign (baseline current s : List Char) : List Char :=
  if baseline = current then s else mapLaterLines (realignLine baseline current) s

/-- The text of a pipe block in its place: realigned, and without a leading newline if asked. -/
def realignBlock (baseline current : List Char) (trimsNewline : Bool) (s : List Char) :
    List Char :=
  match trimsNewline, realign baseline current s with
  | true, '\n' :: r => r
  | _, r => r

/-- The text with an indentation in front of every non-empty line but the first. -/
def reindent (indentation s : List Char) : List Char :=
  if indentation = [] then s
  else mapLaterLines (fun line => if line = [] then line else indentation ++ line) s

end Inlay.Indent
