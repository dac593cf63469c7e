/-
  Inlay.Code.Spelling.Constant
  ────────────────────────────────
  **HOW CONSTANTS ARE WRITTEN.**

  Trees are written back as code in one fixed way.  This module has the
  leaves: numbers, bytes and text.  Text is written quoted, except where a
  backslash must not occur — inside the braces of a formatted text — or where
  triple quotes are customary; there `gentle` looks for quotes that need no
  escape, and falls back to the quoted form.
-/
import Inlay.Code.Syntax
import Inlay.Decimal.Notation
import Inlay.Text.Quoted
import Inlay.Text.Search

namespace Inlay.Code

open Inlay.Text

/-! ## §1. Numbers. -/

/-- A float as code; infinity is a literal too large for a float, and what is no number is the
difference of two infinities. -/
def floatLiteral (x : Float) : String :=
  if x.isNaN then "(1e309-1e309)" else if x.isInf then "1e309" else Decimal.floatText x

/-- A multiple of the imaginary unit; a whole multiple is written without a point. -/
def imaginaryLiteral (x : Float) : String :=
  let s := floatLiteral x
  (if s.endsWith ".0" then (s.dropEnd 2).toString else s) ++ "j"

/-! ## §2. Text with few escapes. -/

/-- The quotes that may enclose a text, in the order in which they are tried. -/
def allQuotes : List String := ["'", "\"", "\"\"\"", "'''"]

/-- The quotes that may enclose a text of several lines. -/
def longQuotes : List String := ["\"\"\"", "'''"]

/-- A character with no more escapes than it needs.  Newlines and tabs are escaped only where
that is asked for. -/
def gentleChar (escapeSpaces : Bool) (c : Char) : List Char :=
  if !escapeSpaces && (c = '\n' || c = '\t') then [c]
  else if c = '\\' then ['\\', '\\']
  else if c = '\n' then ['\\', 'n']
  else if c = '\t' then ['\\', 't']
  else if c = '\r' then ['\\', 'r']
  else if isPrintable c then [c]
  else codeEscape c.toNat

/-- The last character escaped if it is the quote itself. -/
def escapeLast (quote : String) (s : List Char) : List Char :=
  match s.getLast? with
  | some c => if quote.toList.head? = some c then s.dropLast ++ ['\\', c] else s
  | none => s

/-- A text without its quotes, and the quotes that may enclose it, the best ones first.  If no
quotes fit, the text is written quoted and the first of the given quotes that agrees is kept. -/
def gentle (quotes : List String) (escapeSpaces : Bool) (s : String) : List Char × List String :=
  let escaped := s.toList.flatMap (gentleChar escapeSpaces)
  let fitting := quotes.filter (fun q =>
    (longQuotes.contains q || !escaped.contains '\n') && !occursIn q.toList escaped)
  match fitting with
  | [] =>
    let whole := (quoted s).toList
    let mark := whole.head?.getD '\''
    ((whole.drop 1).dropLast,
      [(quotes.find? (fun q => q.toList.contains mark)).getD (String.singleton mark)])
  | _ =>
    let endsIn (q : String) : Bool := escaped.getLast?.isSome && escaped.getLast? == q.toList.head?
    let sorted := fitting.filter (!endsIn ·) ++ fitting.filter endsIn
    (escapeLast (sorted.headD "'") escaped, sorted)

/-- A text in the best of the given quotes. -/
def gentleText (quotes : List String) (s : String) : String :=
  let (body, fitting) := gentle quotes false s
  let q := fitting.headD "'"
  q ++ String.ofList body ++ q

/-! ## §3. Constants. -/

/-- A constant as code; `avoid` if backslashes are to be avoided. -/
def Constant.spell (avoid : Bool) : Constant → String
  | none => "None"
  | true => "True"
  | false => "False"
  | ellipsis => "..."
  | int n => toString n
  | float x => floatLiteral x
  | imaginary x => imaginaryLiteral x
  | text s marked =>
    (if marked then "u" else "") ++ (if avoid then gentleText allQuotes s else quoted s)
  | bytes b => quotedBytes b

/-- Is the constant a whole number, or one of the two truth values? -/
def Constant.isWhole : Constant → Bool
  | int _ => Bool.true
  | true => Bool.true
  | false => Bool.true
  | _ => Bool.false

/-! ## §4. The enclosing quotes of a formatted text. -/

/-- The parts of a formatted text in quotes that suit all of them.  A part says whether it is
constant; only there newlines and tabs may be escaped. -/
def encloseParts (parts : List (String × Bool)) : String :=
  match go allQuotes parts with
  | some (body, quotes) =>
    let q := quotes.headD "'"
    q ++ String.ofList body ++ q
  | none =>
    "'''" ++ String.join (parts.map (fun p => ((quoted ("\"" ++ p.1)).drop 2).dropEnd 1 |>.toString))
      ++ "'''"
where
  /-- The parts written with the quotes that are left after each of them. -/
  go (quotes : List String) : List (String × Bool) → Option (List Char × List String)
    | [] => some ([], quotes)
    | (s, isConstant) :: rest =>
      let (body, fitting) := gentle quotes isConstant s
      if fitting.any quotes.contains then
        (go fitting rest).map (fun p => (body ++ p.1, p.2))
      else Option.none

/-- The text with every brace doubled. -/
def doubleBraces (s : String) : String :=
  String.ofList (s.toList.flatMap (fun c => if c = '\x7b' || c = '\x7d' then [c, c] else [c]))

end Inlay.Code
