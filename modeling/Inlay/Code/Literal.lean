/-
  Inlay.Code.Literal
  ────────────────────────────────
  **WHAT TEXT CONSTANTS SAY.**

  `decodeText?` and `decodeBytes?` read the escapes of a constant; an escape
  that means nothing stands for itself.  Unknown names of characters are
  refused, as are code points that are no characters.

  `segments?` cuts the body of a formatted text into literal parts and
  holes.  A hole holds code, an optional label (the code as written, when an
  equals sign follows it), an optional conversion, and an optional format,
  which may have holes of its own.
-/
import Inlay.Code.Lexeme
import Inlay.Text.CharacterName

namespace Inlay.Code

/-! ## §1. Escapes. -/

/-- The character that a letter behind a backslash stands for. -/
def letterEscape? : Char → Option Char
  | '\\' => some '\\'
  | '\'' => some '\''
  | '"' => some '"'
  | 'a' => some '\x07'
  | 'b' => some '\x08'
  | 'f' => some '\x0c'
  | 'n' => some '\n'
  | 'r' => some '\r'
  | 't' => some '\t'
  | 'v' => some '\x0b'
  | _ => none

/-- The value of exactly `count` hexadecimal digits at the start of a text. -/
def hexValue? (count : Nat) (s : List Char) : Option Nat :=
  let digits := s.take count
  if digits.length = count && digits.all (isDigitOf 16) then some (digitsValue 16 digits) else none

/-- The character of a code point. -/
def charOf? (n : Nat) : Option Char := if n.isValidChar then some (Char.ofNat n) else none

/-- The octal digits, three at most, at the start of a text. -/
def octalDigits (s : List Char) : List Char := (s.take 3).takeWhile (isDigitOf 8)

/-- The name of a character in braces, and the text behind it. -/
def bracedName? (s : List Char) : Option (List Char × List Char) :=
  match s with
  | '\x7b' :: r =>
    let name := r.takeWhile (· ≠ '\x7d')
    if name.isEmpty || name.length = r.length then none
    else some (name, r.drop (name.length + 1))
  | _ => none

/-- The text that a body with escapes stands for. -/
def decodeText? (fuel : Nat) (s : List Char) : Option (List Char) :=
  match fuel with
  | 0 => none
  | n + 1 =>
    match s with
    | [] => some []
    | '\\' :: c :: r =>
      if c = '\n' then decodeText? n r
      else match letterEscape? c with
        | some d => (decodeText? n r).map (d :: ·)
        | none =>
          match octalDigits (c :: r) with
          | d :: ds => do
            let x ← charOf? (digitsValue 8 (d :: ds))
            let rest ← decodeText? n (r.drop ds.length)
            some (x :: rest)
          | [] =>
            let width := if c = 'x' then 2 else if c = 'u' then 4 else if c = 'U' then 8 else 0
            if width ≠ 0 then do
              let x ← charOf? (← hexValue? width r)
              let rest ← decodeText? n (r.drop width)
              some (x :: rest)
            else if c = 'N' then do
              let (name, r) ← bracedName? r
              let x ← Text.characterNamed? (String.ofList name)
              let rest ← decodeText? n r
              some (x :: rest)
            else (decodeText? n r).map (fun t => '\\' :: c :: t)
    | c :: r => (decodeText? n r).map (c :: ·)

/-- The bytes that a body with escapes stands for; it is written in ASCII. -/
def decodeBytes? (fuel : Nat) (s : List Char) : Option (List Nat) :=
  match fuel with
  | 0 => none
  | n + 1 =>
    match s with
    | [] => some []
    | '\\' :: c :: r =>
      if c = '\n' then decodeBytes? n r
      else match letterEscape? c with
        | some d => (decodeBytes? n r).map (d.toNat :: ·)
        | none =>
          match octalDigits (c :: r) with
          | d :: ds =>
            (decodeBytes? n (r.drop ds.length)).map (digitsValue 8 (d :: ds) % 256 :: ·)
          | [] =>
            if c = 'x' then do
              let x ← hexValue? 2 r
              let rest ← decodeBytes? n (r.drop 2)
              some (x :: rest)
            else if 128 ≤ c.toNat then none
            else (decodeBytes? n r).map (fun t => 92 :: c.toNat :: t)
    | c :: r => if 128 ≤ c.toNat then none else (decodeBytes? n r).map (c.toNat :: ·)

/-- The text of a body, whose escapes are read unless it is raw. -/
def textOf? (raw : Bool) (body : List Char) : Option String :=
  if raw then some (String.ofList body)
  else (decodeText? (body.length + 1) body).map String.ofList

/-- The bytes of a body, whose escapes are read unless it is raw. -/
def bytesOf? (raw : Bool) (body : List Char) : Option (List Nat) :=
  if raw then
    if body.all (·.toNat < 128) then some (body.map Char.toNat) else none
  else decodeBytes? (body.length + 1) body

/-! ## §2. Formatted text. -/

/-- A part of a formatted text. -/
inductive Segment where
  /-- Characters as written, doubled braces aside. -/
  | literal (s : List Char)
  | hole (code : List Char) (label : Option (List Char)) (conversion : Option Char)
      (format : Option (List Segment))

/-- The literal part at the start of a formatted text, and the text behind it, which is empty or
starts with a brace.  Outside of formats a doubled brace is a brace and a single closing one is
refused. -/
def readLiteral? (fuel : Nat) (raw inFormat : Bool) (s : List Char) :
    Option (List Char × List Char) :=
  match fuel with
  | 0 => none
  | n + 1 =>
    match s with
    | [] => some ([], [])
    | '\\' :: c :: r =>
      if raw || c = '\x7b' || c = '\x7d' then
        (readLiteral? n raw inFormat (c :: r)).map (fun p => ('\\' :: p.1, p.2))
      else if c = 'N' then
        match bracedName? r with
        | some (name, r) =>
          (readLiteral? n raw inFormat r).map
            (fun p => ('\\' :: 'N' :: '\x7b' :: name ++ '\x7d' :: p.1, p.2))
        | none => none
      else (readLiteral? n raw inFormat r).map (fun p => ('\\' :: c :: p.1, p.2))
    | c :: r =>
      if c = '\x7b' || c = '\x7d' then
        if inFormat then some ([], s)
        else if r.head? = some c then
          (readLiteral? n raw inFormat r.tail).map (fun p => (c :: p.1, p.2))
        else if c = '\x7d' then none
        else some ([], s)
      else (readLiteral? n raw inFormat r).map (fun p => (c :: p.1, p.2))

/-- Inside which quotes a place in the code of a hole stands. -/
inductive QuoteState where
  | outside
  | short (quote : Char)
  | long (quote : Char)
  deriving DecidableEq

/-- The code of a hole, up to the sign that ends it, and the text from that sign on.  `closers`
are the brackets still to be closed. -/
def readHoleCode? (fuel : Nat) (quotes : QuoteState) (closers : List Char) (s : List Char) :
    Option (List Char × List Char) :=
  match fuel with
  | 0 => none
  | n + 1 =>
    match s with
    | [] => none
    | c :: r =>
      let keep (quotes : QuoteState) (closers : List Char) :=
        (readHoleCode? n quotes closers r).map (fun p => (c :: p.1, p.2))
      let keepThree (quotes : QuoteState) :=
        (readHoleCode? n quotes closers (r.drop 2)).map (fun p => (c :: c :: c :: p.1, p.2))
      if c = '\\' then none
      else match quotes with
      | .short q => keep (if c = q then .outside else quotes) closers
      | .long q =>
        if c = q && [q, q].isPrefixOf r then keepThree .outside else keep quotes closers
      | .outside =>
        if c = '"' || c = '\'' then
          if [c, c].isPrefixOf r then keepThree (.long c) else keep (.short c) closers
        else if c = '(' then keep .outside (')' :: closers)
        else if c = '[' then keep .outside (']' :: closers)
        else if c = '\x7b' then keep .outside ('\x7d' :: closers)
        else if c = '#' then none
        else if closers.isEmpty && ['!', ':', '\x7d', '=', '<', '>'].contains c then
          if c ≠ ':' && c ≠ '\x7d' && r.head? = some '=' then
            (readHoleCode? n .outside closers r.tail).map (fun p => (c :: '=' :: p.1, p.2))
          else if c = '<' || c = '>' then keep .outside closers
          else some ([], s)
        else if c = ')' || c = ']' || c = '\x7d' then
          match closers with
          | d :: rest => if c = d then keep .outside rest else none
          | [] => none
        else keep .outside closers

/-- Is the character a blank of ASCII? -/
def isCodeBlank (c : Char) : Bool :=
  c = ' ' || c = '\t' || c = '\n' || c = '\x0b' || c = '\x0c' || c = '\r'

/-- The parts of a formatted text, and the text behind them: nothing, or in a format the closing
brace of its hole. -/
def readSegments? (fuel depth : Nat) (raw : Bool) (s : List Char) :
    Option (List Segment × List Char) :=
  match fuel with
  | 0 => none
  | n + 1 => do
    let (text, s) ← readLiteral? (n + 1) raw (depth ≠ 0) s
    let here := if text.isEmpty then [] else [Segment.literal text]
    match s with
    | '\x7b' :: r =>
      if depth ≥ 2 then none
      let (code, s) ← readHoleCode? (n + 1) .outside [] r
      if code.all isCodeBlank then none
      let (label, s) :=
        match s with
        | '=' :: t =>
          let u := t.dropWhile isCodeBlank
          (some (code ++ '=' :: t.takeWhile isCodeBlank), u)
        | t => (none, t)
      let (conversion, s) ←
        match s with
        | '!' :: c :: t =>
          if c = 's' || c = 'r' || c = 'a' then some (some c, t) else none
        | t => some (none, t)
      let (format, s) ←
        match s with
        | ':' :: t => (readSegments? n (depth + 1) raw t).map (fun p => (some p.1, p.2))
        | t => some (none, t)
      match s with
      | '\x7d' :: t =>
        let (more, rest) ← readSegments? n depth raw t
        let conversion :=
          if label.isSome && format.isNone && conversion.isNone then some 'r' else conversion
        some (here ++ .hole code label conversion format :: more, rest)
      | _ => none
    | s => some (here, s)

/-- The parts of a formatted text. -/
def segments? (raw : Bool) (body : List Char) : Option (List Segment) := do
  match ← readSegments? (body.length + 1) 0 raw body with
  | (parts, []) => some parts
  | (_, _ :: _) => none

end Inlay.Code
