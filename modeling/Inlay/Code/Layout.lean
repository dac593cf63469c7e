/-
  Inlay.Code.Layout
  ────────────────────────────────
  **LINES AND SUITES.**

  Embedded code is cut into logical lines.  A logical line goes on over the
  end of a line inside brackets, inside long text constants and behind a
  backslash; comments and empty lines are no logical lines.  A line that is
  indented more than the one above it opens a suite below that line.

      logicalLines? — the logical lines with their indentation
      layout?       — the same as a forest: every line with its suite

  Indentation is measured twice, with tabs of eight columns and of one, and
  the two measures must agree on which of two lines is deeper.
-/
import Inlay.Code.Lexeme
import Inlay.Text.Lines

namespace Inlay.Code

/-! ## §1. Indentation. -/

/-- The width of an indentation, with tabs of eight columns and of one. -/
structure Width where
  wide : Nat
  narrow : Nat
  deriving Repr, DecidableEq, Inhabited

/-- The width after one more character of indentation. -/
def Width.add (w : Width) (c : Char) : Width :=
  if c = '\t' then ⟨(w.wide / 8 + 1) * 8, w.narrow + 1⟩
  else if c = '\x0c' then ⟨0, 0⟩
  else ⟨w.wide + 1, w.narrow + 1⟩

/-- Is the character one that a line may be indented with? -/
def isIndentation (c : Char) : Bool := c = ' ' || c = '\t' || c = '\x0c'

/-- What stands in front of a line. -/
structure Margin where
  width : Width
  /-- The place of the text behind the margin. -/
  place : Spot
  rest : List Char

/-- The margin of a line; a backslash at the end of the line lets it go on, and then the columns
in front of the first backslash count. -/
def readMargin? (fuel : Nat) (fixed : Option Nat) (w : Width) (here : Spot) (s : List Char) :
    Option Margin :=
  match fuel with
  | 0 => none
  | n + 1 =>
    match s with
    | '\\' :: '\n' :: r =>
      if r.isEmpty then none
      else
        readMargin? n (fixed.or (if w.wide = 0 then none else some w.wide)) w (here.after '\n') r
    | '\\' :: _ => none
    | c :: r =>
      if isIndentation c then readMargin? n fixed (w.add c) (here.after c) r
      else some ⟨fixed.elim w (fun k => ⟨k, k⟩), here, s⟩
    | [] => some ⟨fixed.elim w (fun k => ⟨k, k⟩), here, []⟩

/-! ## §2. Logical lines. -/

/-- The bracket that closes an opening one. -/
def closing? : String → Option String
  | "(" => some ")"
  | "[" => some "]"
  | "\x7b" => some "\x7d"
  | _ => none

/-- Is the sign a closing bracket? -/
def isClosing (s : String) : Bool := s = ")" || s = "]" || s = "\x7d"

/-- The brackets that are still to be closed, after one more lexeme; none if it closes a bracket
that is not the innermost one, or opens too many. -/
def closersAfter? (closers : List String) : Lexeme → Option (List String)
  | .sign s =>
    match closing? s with
    | some c => if closers.length < 200 then some (c :: closers) else none
    | none =>
      if isClosing s then
        match closers with
        | c :: rest => if c = s then some rest else none
        | [] => none
      else some closers
  | _ => some closers

/-- The place behind the first characters of a text, so many of them. -/
def Spot.behind (p : Spot) : Nat → List Char → Spot
  | 0, _ => p
  | _ + 1, [] => p
  | n + 1, c :: s => (p.after c).behind n s

/-- A logical line: its indentation and its lexemes. -/
structure LogicalLine where
  width : Width
  toks : List Tok
  deriving Repr, DecidableEq

/-- The rest of a logical line: its lexemes, the place of the next line, and the text there. -/
def readLine? (fuel : Nat) (closers : List String) (here : Spot) (s : List Char) :
    Option (List Tok × Spot × List Char) :=
  match fuel with
  | 0 => none
  | n + 1 =>
    match s with
    | [] => if closers.isEmpty then some ([], here, []) else none
    | '\n' :: r =>
      if closers.isEmpty then some ([], here.after '\n', r)
      else readLine? n closers (here.after '\n') r
    | '#' :: r => readLine? n closers here (r.dropWhile (· ≠ '\n'))
    | '\\' :: '\n' :: r => if r.isEmpty then none else readLine? n closers (here.after '\n') r
    | '\\' :: _ => none
    | c :: r =>
      if isIndentation c then readLine? n closers (here.after c) r
      else do
        let (x, rest) ← readLexeme? s
        let closers ← closersAfter? closers x
        let stop := here.behind (x.lengthIn s rest) s
        let (toks, after) ← readLine? n closers stop rest
        some (⟨x, here, stop⟩ :: toks, after)

/-- The logical lines of a text that starts at the given place. -/
def readLines? (fuel : Nat) (here : Spot) (s : List Char) : Option (List LogicalLine) :=
  match fuel with
  | 0 => none
  | n + 1 =>
    if s.isEmpty then some []
    else do
      let m ← readMargin? (n + 1) none ⟨0, 0⟩ here s
      match m.rest with
      | [] => some []
      | '\n' :: r => readLines? n (m.place.after '\n') r
      | '#' :: r =>
        match r.dropWhile (· ≠ '\n') with
        | [] => some []
        | _ :: r => readLines? n (m.place.after '\n') r
      | rest => do
        let (toks, next, after) ← readLine? (n + 1) [] m.place rest
        let lines ← readLines? n next after
        some (⟨m.width, toks⟩ :: lines)

/-- The logical lines of some code; every line ends in a newline, the last one too. -/
def logicalLines? (code : String) : Option (List LogicalLine) :=
  let s := Text.foldNewlines code.toList
  let s := if s.getLast? = some '\n' then s else s ++ ['\n']
  readLines? (s.length + 1) ⟨1, 0⟩ s

/-! ## §3. Suites. -/

/-- A logical line and the suite below it. -/
inductive Line where
  | mk (toks : List Tok) (suite : List Line)

/-- The lexemes of a line. -/
def Line.toks : Line → List Tok
  | mk t _ => t

/-- The suite below a line. -/
def Line.suite : Line → List Line
  | mk _ s => s

/-- Is a line at the second width in the same suite as one at the first, deeper, or shallower?
None if the two measures disagree. -/
def Width.compare? (a b : Width) : Option Ordering :=
  if b.wide = a.wide then (if b.narrow = a.narrow then some .eq else none)
  else if a.wide < b.wide then (if a.narrow < b.narrow then some .lt else none)
  else some .gt

/-- The lines of a suite at the given width, and the lines behind it.  The lines behind a suite
are shallower than it; the caller checks that they fit one of the suites around it. -/
def readSuite? (fuel depth : Nat) (w : Width) (lines : List LogicalLine) :
    Option (List Line × List LogicalLine) :=
  match fuel with
  | 0 => none
  | n + 1 =>
    match lines with
    | [] => some ([], [])
    | l :: rest => do
      match ← w.compare? l.width with
      | .lt => none
      | .gt => some ([], lines)
      | .eq =>
        match rest with
        | [] => some ([.mk l.toks []], [])
        | next :: _ =>
          match ← w.compare? next.width with
          | .lt =>
            if depth ≥ 99 then none
            else do
              let (suite, rest) ← readSuite? n (depth + 1) next.width rest
              let (more, rest) ← readSuite? n depth w rest
              some (.mk l.toks suite :: more, rest)
          | _ => do
            let (more, rest) ← readSuite? n depth w rest
            some (.mk l.toks [] :: more, rest)

/-- The forest of the logical lines of some code. -/
def layout? (code : String) : Option (List Line) := do
  let lines ← logicalLines? code
  match ← readSuite? (2 * lines.length + 1) 0 ⟨0, 0⟩ lines with
  | (forest, []) => some forest
  | (_, _ :: _) => none

end Inlay.Code
