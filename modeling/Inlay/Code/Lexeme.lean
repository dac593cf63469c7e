/-
  Inlay.Code.Lexeme
  ────────────────────────────────
  **THE WORDS AND SIGNS OF EMBEDDED CODE.**

  A lexeme is a word, a number, a text constant as written, or an operator.
  `readLexeme?` takes the longest lexeme at the start of a text that starts
  with neither a blank, a comment nor a line end.
-/
import Inlay.Code.Number

namespace Inlay.Code

/-! ## §1. Lexemes. -/

/-- The letters in front of a text constant. -/
structure TextForm where
  raw : Bool := false
  bytes : Bool := false
  formatted : Bool := false
  /-- Is the small letter u in front? -/
  marked : Bool := false
  /-- Is it a letter u, small or capital, beside which no other letter stands? -/
  alone : Bool := false
  deriving Repr, DecidableEq, Inhabited

/-- A lexeme. -/
inductive Lexeme where
  | word (w : String)
  | number (c : Constant)
  /-- The characters between the quotes, not yet read. -/
  | text (form : TextForm) (body : List Char)
  | sign (s : String)
  deriving Repr, DecidableEq, Inhabited

/-- A place in some code: its line, counted from one, and the number of bytes in front of it on
that line. -/
structure Spot where
  line : Nat
  column : Nat
  deriving Repr, DecidableEq, Inhabited

/-- The place behind a character that stands at a place. -/
def Spot.after (p : Spot) (c : Char) : Spot :=
  if c = '\n' then ⟨p.line + 1, 0⟩ else ⟨p.line, p.column + c.utf8Size⟩

/-- A lexeme, with the places where it starts and where it stops. -/
structure Tok where
  lexeme : Lexeme
  start : Spot
  stop : Spot
  deriving Repr, DecidableEq, Inhabited

/-- The line that a lexeme starts on. -/
def Tok.line (t : Tok) : Nat := t.start.line

/-! ## §2. Text constants. -/

/-- The form with one more letter in front of the quote, if the letters may stand together. -/
def TextForm.add? (f : TextForm) (c : Char) : Option TextForm :=
  if f.alone then none
  else if (c = 'b' || c = 'B') && !(f.bytes || f.formatted) then some { f with bytes := true }
  else if (c = 'u' || c = 'U') && !(f.bytes || f.raw || f.formatted) then
    some { f with marked := c = 'u', alone := true }
  else if (c = 'r' || c = 'R') && !f.raw then some { f with raw := true }
  else if (c = 'f' || c = 'F') && !(f.formatted || f.bytes) then some { f with formatted := true }
  else none

/-- The form of a text constant at the start of a text, and the text from its quote on. -/
def textForm? (f : TextForm) : List Char → Option (TextForm × List Char)
  | [] => none
  | c :: s =>
    if c = '"' || c = '\'' then some (f, c :: s)
    else match f.add? c with
      | some g => textForm? g s
      | none => none

/-- Read up to a single closing quote; a line end before it is refused. -/
def readShort? (quote : Char) : List Char → Option (List Char × List Char)
  | [] => none
  | '\\' :: c :: s => (readShort? quote s).map (fun p => ('\\' :: c :: p.1, p.2))
  | c :: s =>
    if c = quote then some ([], s)
    else if c = '\n' then none
    else (readShort? quote s).map (fun p => (c :: p.1, p.2))

/-- Read up to three closing quotes. -/
def readLong? (quote : Char) : List Char → Option (List Char × List Char)
  | [] => none
  | '\\' :: c :: s => (readLong? quote s).map (fun p => ('\\' :: c :: p.1, p.2))
  | c :: s =>
    if c = quote && [quote, quote].isPrefixOf s then some ([], s.drop 2)
    else (readLong? quote s).map (fun p => (c :: p.1, p.2))

/-- The body of the text constant that starts with a quote, and the text behind it. -/
def readText? : List Char → Option (List Char × List Char)
  | [] => none
  | q :: s => if [q, q].isPrefixOf s then readLong? q (s.drop 2) else readShort? q s

/-! ## §3. Operators. -/

/-- The operators of three characters, of two, and of one. -/
def signs : List String :=
  ["**=", "//=", ">>=", "<<=", "...",
   "**", "//", ">>", "<<", "<=", ">=", "==", "!=", "->", "+=", "-=", "*=", "/=", "%=", "&=",
   "|=", "^=", "@=", ":=", "<>",
   "(", ")", "[", "]", "\x7b", "\x7d", ":", ",", ";", ".", "+", "-", "*", "/", "|", "&", "<", ">",
   "=", "%", "~", "^", "@"]

/-- The operator at the start of a text; the longest one wins. -/
def readSign? (s : List Char) : Option (String × List Char) :=
  (signs.find? (fun o => o.toList.isPrefixOf s)).map (fun o => (o, s.drop o.length))

/-! ## §4. One lexeme. -/

/-- May the character start a word, as far as can be told without a table? -/
def startsWord (c : Char) : Bool := c.isAlpha || c = '_' || 128 ≤ c.toNat

/-- Is the text an identifier or a reserved word? -/
def isWord : List Char → Bool
  | [] => false
  | c :: s => Text.isIdentifierStart c && s.all Text.isIdentifierPart

/-- The lexeme at the start of a text, and the text behind it. -/
def readLexeme? (s : List Char) : Option (Lexeme × List Char) :=
  match s with
  | [] => none
  | c :: r =>
    match textForm? {} s with
    | some (form, t) => (readText? t).map (fun p => (.text form p.1, p.2))
    | none =>
      if startsWord c then
        let w := s.takeWhile (fun d => startsWord d || d.isDigit)
        if isWord w then some (.word (String.ofList w), s.drop w.length) else none
      else if c.isDigit || (c = '.' && r.head?.any Char.isDigit) then
        (readNumber? s).map (fun p => (.number p.1, p.2))
      else (readSign? s).map (fun p => (.sign p.1, p.2))

/-- Is the character a quote? -/
def isQuote (c : Char) : Bool := c = '"' || c = '\''

/-- The number of characters at the start of a text that may stand in a number. -/
def numericRun (s : List Char) : Nat :=
  (s.takeWhile (fun c => c.isAlphanum || ['_', '.', '+', '-'].contains c)).length

/-- The number of characters of a lexeme at the start of a text, given the text behind it.  A
text constant has its letters, its body and its quotes. -/
def Lexeme.lengthIn (x : Lexeme) (s rest : List Char) : Nat :=
  match x with
  | .word w => w.length
  | .sign o => o.length
  | .number _ => numericRun s - numericRun rest
  | .text _ body =>
    let letters := (s.takeWhile (!isQuote ·)).length
    let quotes :=
      match s.drop letters with
      | q :: r => if [q, q].isPrefixOf r then 6 else 2
      | [] => 0
    letters + body.length + quotes

end Inlay.Code
