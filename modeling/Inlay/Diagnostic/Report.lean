/-
  Inlay.Diagnostic.Report
  ────────────────────────────────
  **REPORTS.**

  What is told about a template that cannot be found, compiled or rendered.
  Every report has two texts:

      message — the long form
      compact — the short form for a terminal, with the error code in front
-/
import Inlay.Diagnostic.Snippet
import Inlay.Text.Similarity
import Inlay.Token

namespace Inlay.Diagnostic

open Inlay.Text

/-- The line behind a place, unless it is unknown. -/
def lineSuffix (line : Option Int) : String :=
  match line with
  | some n => if n = 0 then "" else ":" ++ toString n
  | none => ""

/-- Does the report know its line? -/
def hasLine (line : Option Int) : Bool := line.any (· ≠ 0)

/-! ## §1. Malformed sources. -/

/-- What a report of a malformed source points at. -/
inductive Anchor where
  /-- Code inside a marker. -/
  | code
  /-- A token that is out of place. -/
  | structure (token : Token)
  /-- A marker that does not end. -/
  | marker (token : Token)
  deriving Repr, DecidableEq

/-- The token that is pointed at. -/
def Anchor.token? : Anchor → Option Token
  | code => none
  | .structure t => some t
  | marker t => some t

/-- The report of a malformed source. -/
structure Malformed where
  fault : Fault
  anchor : Anchor
  line : Option Int
  column : Option Int
  name : Option String
  filename : Option String
  source : Option String
  deriving Repr, DecidableEq

namespace Malformed

/-- The place: a file or template, and, as far as they are known, line and column. -/
def location (r : Malformed) : String :=
  ((nonempty? r.filename).or (nonempty? r.name)).getD "<template>" ++ lineSuffix r.line
    ++ (if hasLine r.line then (r.column.map (fun c => ":" ++ toString c)).getD "" else "")

/-- The failing line, if the source is known and has it, and the caret below it. -/
def sourceLines (r : Malformed) : List String :=
  match nonempty? r.source, r.line with
  | some source, some n =>
    let lines := linesOf source
    if 0 < n && n ≤ lines.length then
      ["   |", padLeft 3 (toString n) ++ " | " ++ (lines[n.toNat - 1]?).getD ""]
        ++ (r.column.map (fun c => "   | " ++ blanks c ++ "^")).toList
    else []
  | _, _ => []

/-- The advice that the long form ends with; only a report that points at a token has it. -/
def advice (r : Malformed) : String :=
  match r.anchor, nonempty? r.fault.suggestion with
  | .code, _ => ""
  | _, some s => "\n\nSuggestion: " ++ s
  | _, none => ""

/-- The long form. -/
def message (r : Malformed) : String :=
  "\n".intercalate
    (("Syntax Error: " ++ r.fault.message) :: ("  --> " ++ r.location) :: r.sourceLines)
    ++ r.advice

/-- The short form. -/
def compact (r : Malformed) : String :=
  let lines := r.sourceLines
  "\n".intercalate
    ((r.fault.code.value ++ ": " ++ r.fault.message) :: ("  --> " ++ r.location)
      :: lines ++ (if lines.isEmpty then [] else ["   |"]))

end Malformed

/-! ## §2. Failed renders. -/

/-- The report of a render that failed. -/
structure Failure where
  text : String
  template : Option String := none
  line : Option Int := none
  suggestion : Option String := none
  snippet : Option Snippet := none
  stack : List (String × Int) := []
  code : ErrorCode := .runtimeError
  /-- The kind of the error that is reported. -/
  cause : Option String := none
  deriving Repr, DecidableEq

namespace Failure

/-- The place: a template and, if it is known, a line. -/
def location (r : Failure) : String :=
  (nonempty? r.template).getD "<template>" ++ lineSuffix r.line

/-- Where it happened, in lines. -/
def details (colours : Bool) (r : Failure) : List String :=
  (r.snippet.map (Snippet.format colours)).toList
    ++ (if r.stack.isEmpty then [] else ["", stackText colours r.stack])

/-- The line that tells the place. -/
def locationLine (colours : Bool) (r : Failure) : String :=
  "  Location: " ++ paintLocation colours r.location

/-- The long form. -/
def message (colours : Bool) (r : Failure) : String :=
  "\n".intercalate
    ((("Runtime Error: " ++ r.text) ::
      if (nonempty? r.template).isSome || hasLine r.line then [r.locationLine colours] else [])
      ++ r.details colours
      ++ ((nonempty? r.suggestion).map (fun s =>
          "\n  " ++ paintHint colours "Suggestion:" ++ " " ++ s)).toList)

/-- The short form. -/
def compact (colours : Bool) (r : Failure) : String :=
  "\n".intercalate
    (withCode colours (some r.code.value) r.text :: r.locationLine colours :: r.details colours
      ++ ((nonempty? r.suggestion).map (fun s =>
          "  " ++ paintHint colours "Hint:" ++ " " ++ s)).toList)

end Failure

/-! ## §3. Unknown names. -/

/-- The report of a name that is not bound. -/
structure Undefined where
  name : String
  template : Option String := none
  line : Option Int := none
  /-- The names that are bound. -/
  available : List String := []
  snippet : Option Snippet := none
  stack : List (String × Int) := []
  deriving Repr, DecidableEq

namespace Undefined

/-- The template that the name occurs in. -/
def templateName (r : Undefined) : String := (nonempty? r.template).getD "<template>"

/-- The first line: the name, the place, and the closest name that is bound. -/
def headline (colours : Bool) (r : Undefined) : String :=
  "Undefined variable '" ++ r.name ++ "' in "
    ++ paintLocation colours (r.templateName ++ lineSuffix r.line)
    ++ ((closest? r.name r.available).map (fun m =>
        ". Did you mean '" ++ paintSuggestion colours m ++ "'?")).getD ""

/-- The lines behind the first one. -/
def rest (colours : Bool) (r : Undefined) : List String :=
  (r.snippet.map (Snippet.format colours)).toList
    ++ (if r.stack.isEmpty then [] else ["", stackText colours r.stack])
    ++ ["  " ++ paintHint colours "Hint:" ++ " Pass " ++ r.name
        ++ "=... to render() or to include()"]

/-- The long form. -/
def message (colours : Bool) (r : Undefined) : String :=
  "\n".intercalate (r.headline colours :: r.rest colours)

/-- The short form. -/
def compact (colours : Bool) (r : Undefined) : String :=
  "\n".intercalate
    (withCode colours (some ErrorCode.undefinedVariable.value) (r.headline colours)
      :: r.rest colours)

end Undefined

/-! ## §4. All reports. -/

/-- What can be told about a template. -/
inductive Report where
  /-- A failure without any details. -/
  | plain (message : String)
  /-- No loader knows the template. -/
  | notFound (message : String)
  | malformed (r : Malformed)
  | failure (r : Failure)
  | undefined (r : Undefined)
  deriving Repr, DecidableEq

namespace Report

/-- The code of a report. -/
def code : Report → Option ErrorCode
  | plain _ => none
  | notFound _ => some .templateNotFound
  | malformed r => some r.fault.code
  | failure r => some r.code
  | undefined _ => some .undefinedVariable

/-- The long form. -/
def message (colours : Bool) : Report → String
  | plain m => m
  | notFound m => m
  | malformed r => r.message
  | failure r => r.message colours
  | undefined r => r.message colours

/-- A message behind its code, unless the code is in it already. -/
def codedOnce (colours : Bool) (code : ErrorCode) (message : String) : String :=
  if occursIn code.value.toList message.toList then message
  else withCode colours (some code.value) message

/-- The short form. -/
def compact (colours : Bool) : Report → String
  | plain m => m
  | notFound m => codedOnce colours .templateNotFound m
  | malformed r => r.compact
  | failure r => r.compact colours
  | undefined r => r.compact colours

end Report

end Inlay.Diagnostic
