/-
  Inlay.Token
  ────────────────────────────────
  **TOKENS OF A TEMPLATE SOURCE.**

  A source is text with markers in it.  A marker is `<%`, a sigil, code and
  `%>`; the sigil says what becomes of the code:

      <%= code %>   output   — the value of the code is written
      <%  code %>   silent   — the code is run, or heads or ends a block
      <%| code %>   pipe     — as silent or output, with realigned text
      <%# text %>   comment  — dropped

  Lines count from one and columns from zero, both in characters.
-/
import Inlay.Text.Quoted

namespace Inlay

/-! ## §1. Positions. -/

/-- A place in a source. -/
structure Position where
  line : Int
  column : Int
  deriving Repr, DecidableEq

namespace Position

/-- The place where every source starts. -/
def start : Position := ⟨1, 0⟩

/-- The place after one character. -/
def next (p : Position) (c : Char) : Position :=
  if c = '\n' then ⟨p.line + 1, 0⟩ else ⟨p.line, p.column + 1⟩

/-- The place after a text. -/
def after (p : Position) (s : List Char) : Position := s.foldl next p

theorem after_append (p : Position) (s t : List Char) : p.after (s ++ t) = (p.after s).after t :=
  List.foldl_append

end Position

/-! ## §2. Tokens. -/

/-- What a marker does with its code. -/
inductive MarkerKind where
  | output | silent | pipe
  deriving Repr, DecidableEq

/-- The kinds of tokens. -/
inductive TokenKind where
  | data | marker (kind : MarkerKind) | comment | eof
  deriving Repr, DecidableEq

/-- The name of a kind of tokens. -/
def TokenKind.label : TokenKind → String
  | data => "DATA"
  | marker .output => "OUTPUT"
  | marker .silent => "SILENT"
  | marker .pipe => "PIPE"
  | comment => "COMMENT"
  | eof => "EOF"

/-- A token: literal text or the code of a marker, and where it begins. -/
structure Token where
  kind : TokenKind
  value : String
  position : Position
  deriving Repr, DecidableEq

/-- The token as a short description. -/
def Token.describe (t : Token) : String :=
  "Token(" ++ t.kind.label ++ ", " ++ Text.quoted t.value ++ ", "
    ++ toString t.position.line ++ ":" ++ toString t.position.column ++ ")"

end Inlay
