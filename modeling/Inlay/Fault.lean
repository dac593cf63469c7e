/-
  Inlay.Fault
  ────────────────────────────────
  **WHAT CAN BE WRONG WITH A TEMPLATE.**

  A fault is a cause.  Its wording, its code and the advice that goes with
  it are functions of the cause, so each is written down once.
-/

namespace Inlay

/-! ## §1. Codes. -/

/-- The codes under which errors can be looked up. -/
inductive ErrorCode where
  | unterminatedMarker
  | unexpectedClause | unexpectedEnd | unclosedBlock | invalidExpression
  | undefinedVariable | includeDepth | runtimeError
  | templateNotFound | syntaxError
  deriving Repr, DecidableEq

namespace ErrorCode

/-- Every code, by category and number. -/
def all : List ErrorCode :=
  [unterminatedMarker, unexpectedClause, unexpectedEnd, unclosedBlock, invalidExpression,
   undefinedVariable, includeDepth, runtimeError, templateNotFound, syntaxError]

/-- The code as it is printed. -/
def value : ErrorCode → String
  | unterminatedMarker => "S-LEX-001"
  | unexpectedClause => "S-PAR-001"
  | unexpectedEnd => "S-PAR-002"
  | unclosedBlock => "S-PAR-003"
  | invalidExpression => "S-PAR-004"
  | undefinedVariable => "S-RUN-001"
  | includeDepth => "S-RUN-002"
  | runtimeError => "S-RUN-003"
  | templateNotFound => "S-TPL-001"
  | syntaxError => "S-TPL-002"

/-- The name of a code. -/
def label : ErrorCode → String
  | unterminatedMarker => "UNTERMINATED_MARKER"
  | unexpectedClause => "UNEXPECTED_CLAUSE"
  | unexpectedEnd => "UNEXPECTED_END"
  | unclosedBlock => "UNCLOSED_BLOCK"
  | invalidExpression => "INVALID_EXPRESSION"
  | undefinedVariable => "UNDEFINED_VARIABLE"
  | includeDepth => "INCLUDE_DEPTH"
  | runtimeError => "RUNTIME_ERROR"
  | templateNotFound => "TEMPLATE_NOT_FOUND"
  | syntaxError => "SYNTAX_ERROR"

/-- The part of the work that a code belongs to. -/
def category : ErrorCode → String
  | unterminatedMarker => "lexer"
  | unexpectedClause | unexpectedEnd | unclosedBlock | invalidExpression => "parser"
  | undefinedVariable | includeDepth | runtimeError => "runtime"
  | templateNotFound | syntaxError => "template"

/-- The code that is printed in the given way. -/
def ofValue? (v : String) : Option ErrorCode := all.find? (fun c => c.value == v)

end ErrorCode

/-! ## §2. Faults. -/

/-- Why embedded code is refused. -/
inductive CodeFault where
  /-- The headers of a block are several statements, or none. -/
  | headersApart
  /-- The code does not parse. -/
  | unreadable
  deriving Repr, DecidableEq

/-- The explanation of a refusal.  Unreadable code is explained by the language's own compiler,
whose words are not part of the answer. -/
def CodeFault.message : CodeFault → String
  | headersApart => "block headers do not form a single statement"
  | unreadable => "<python>"

/-- What is wrong with a template source. -/
inductive Fault where
  /-- A marker opens and nothing closes it. -/
  | unterminatedMarker (opener : String)
  /-- An `end` closes nothing. -/
  | unexpectedEnd
  /-- A clause continues nothing. -/
  | unexpectedClause (word : String)
  /-- A block is still open at the end. -/
  | unclosedBlock (header : String)
  /-- The code of a marker, or of the headers of a block, is refused. -/
  | invalidCode (code : String) (reason : CodeFault)
  /-- Something stands between a `match` header and its first clause. -/
  | strayBeforeCase
  /-- A fault that the host program states in its own words. -/
  | stated (message : String) (code : Option ErrorCode) (suggestion : Option String)
  deriving Repr, DecidableEq

namespace Fault

/-- The wording of a fault. -/
def message : Fault → String
  | unterminatedMarker opener => "Unterminated marker '" ++ opener ++ "'"
  | unexpectedEnd => "Unexpected 'end' with no open block"
  | unexpectedClause word => "Unexpected '" ++ word ++ "' clause outside of a block"
  | unclosedBlock header => "Unclosed block '" ++ header ++ "'"
  | invalidCode code reason => "Invalid code '" ++ code ++ "': " ++ reason.message
  | strayBeforeCase => "Only 'case' clauses may follow a 'match' header"
  | stated message _ _ => message

/-- The code of a fault. -/
def code : Fault → ErrorCode
  | unterminatedMarker _ => .unterminatedMarker
  | unexpectedEnd => .unexpectedEnd
  | unexpectedClause _ => .unexpectedClause
  | unclosedBlock _ => .unclosedBlock
  | invalidCode _ _ => .invalidExpression
  | strayBeforeCase => .invalidExpression
  | stated _ code _ => code.getD .syntaxError

/-- The advice that goes with a fault. -/
def suggestion : Fault → Option String
  | unterminatedMarker _ => some "Close the marker with '%>'"
  | unexpectedClause _ => some "Open the block first, e.g. '<% if condition: %>'"
  | unclosedBlock _ => some "Close the block with '<% end %>'"
  | stated _ _ suggestion => suggestion
  | _ => none

end Fault

end Inlay
