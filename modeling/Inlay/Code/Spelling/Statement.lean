/-
  Inlay.Code.Spelling.Statement
  ────────────────────────────────
  **HOW STATEMENTS ARE WRITTEN.**

  A statement is written as a list of lines, bodies indented by four blanks.
  A function and a class have an empty line above them, and text that stands
  first in their bodies is written in triple quotes.  An `else` that holds
  one `if` and nothing more becomes an `elif`.
-/
import Inlay.Code.Spelling.Expression

namespace Inlay.Code

/-! ## §1. Patterns. -/

mutual

/-- A pattern as code, at a place that asks for the given strength. -/
def Pattern.spell (asked : Strength) : Pattern → String
  | .value e => e.spell false .test
  | .singleton c => c.spell false
  | .sequence patterns => "[" ++ commaSeparated (spellPatterns .test patterns) ++ "]"
  | .mapping entries rest =>
    "\x7b" ++ commaSeparated (spellEntries entries ++ (rest.map ("**" ++ ·)).toList) ++ "\x7d"
  | .instanceOf cls positional named =>
    cls.spell false .atom ++ "("
      ++ commaSeparated (spellPatterns .test positional ++ spellNamed named) ++ ")"
  | .rest name => "*" ++ name.getD "_"
  | .capture _ none => "_"
  | .capture none (some name) => name
  | .capture (some p) (some name) =>
    parenthesize .test asked (p.spell .bitOr ++ " as " ++ name)
  | .alternatives patterns =>
    parenthesize .bitOr asked (" | ".intercalate (spellPatterns .bitXor patterns))

/-- Patterns at places that ask for the same strength. -/
def spellPatterns (asked : Strength) : List Pattern → List String
  | [] => []
  | p :: ps => p.spell asked :: spellPatterns asked ps

/-- The entries of a mapping pattern. -/
def spellEntries : List MapEntry → List String
  | [] => []
  | .mk key p :: rest => (key.spell false .test ++ ": " ++ p.spell .test) :: spellEntries rest

/-- The named attributes of a class pattern. -/
def spellNamed : List NamedPattern → List String
  | [] => []
  | .mk name p :: rest => (name ++ "=" ++ p.spell .test) :: spellNamed rest

end

/-! ## §2. Parts of statements. -/

/-- An expression as a part of a statement. -/
def Expr.code (e : Expr) : String := e.spell false .test

/-- An expression behind a text, or nothing. -/
def optionCode (before : String) : Option Expr → String
  | none => ""
  | some e => before ++ e.code

/-- A name and what it is bound to. -/
def ImportName.code (n : ImportName) : String := n.name ++ n.boundAs.elim "" (" as " ++ ·)

/-- A context manager and its target. -/
def WithItem.code (i : WithItem) : String := i.manager.code ++ optionCode " as " i.target

/-- The lines indented by one step; empty lines stay empty. -/
def indentLines (lines : List String) : List String :=
  lines.map (fun l => if l.isEmpty then l else "    " ++ l)

/-- The word in front of a statement that may be asynchronous. -/
def asyncWord (isAsync : Bool) : String := if isAsync then "async " else ""

/-- An assignment target; a tuple needs no parentheses there. -/
def targetCode (e : Expr) : String := e.spell false .tuple

/-- The bases and keywords of a class, in parentheses if there are any. -/
def basesCode (bases : List Expr) (keywords : List Keyword) : String :=
  match spellList false .test bases ++ spellKeywords false keywords with
  | [] => ""
  | items => "(" ++ commaSeparated items ++ ")"

/-- The decorators of a function or class, a line each, under an empty line. -/
def decoratorLines (decorators : List Expr) : List String :=
  "" :: decorators.map (fun d => "@" ++ d.code)

/-! ## §3. Statements. -/

mutual

/-- The lines of a statement. -/
def Stmt.lines : Stmt → List String
  | .expression e => [e.spell false .yield]
  | .assign targets value =>
    [String.join (targets.map (fun t => targetCode t ++ " = ")) ++ value.code]
  | .augment target op value => [target.code ++ " " ++ op.sign ++ "= " ++ value.code]
  | .annotate target hint value bare =>
    let t := match bare, target with
      | false, .name id => "(" ++ id ++ ")"
      | _, e => e.code
    [t ++ ": " ++ hint.code ++ optionCode " = " value]
  | .delete targets => ["del " ++ commaSeparated (spellList false .test targets)]
  | .pass _ => ["pass"]
  | .breakLoop => ["break"]
  | .continueLoop => ["continue"]
  | .giveBack value => ["return" ++ optionCode " " value]
  | .throw exception cause => ["raise" ++ optionCode " " exception ++ optionCode " from " cause]
  | .assertion test message => ["assert " ++ test.code ++ optionCode ", " message]
  | .importModules names => ["import " ++ commaSeparated (names.map ImportName.code)]
  | .importMembers module names level =>
    ["from " ++ String.ofList (List.replicate level '.') ++ module.getD "" ++ " import "
      ++ commaSeparated (names.map ImportName.code)]
  | .globals names => ["global " ++ commaSeparated names]
  | .nonlocals names => ["nonlocal " ++ commaSeparated names]
  | .conditional test body orelse =>
    ("if " ++ test.code ++ ":") :: indentLines (bodyLines body) ++ chainLines orelse
  | .whileLoop test body orelse =>
    ("while " ++ test.code ++ ":") :: indentLines (bodyLines body) ++ elseLines orelse
  | .forLoop isAsync target iter body orelse =>
    (asyncWord isAsync ++ "for " ++ targetCode target ++ " in " ++ iter.code ++ ":")
      :: indentLines (bodyLines body) ++ elseLines orelse
  | .withBlock isAsync items body =>
    (asyncWord isAsync ++ "with " ++ commaSeparated (items.map WithItem.code) ++ ":")
      :: indentLines (bodyLines body)
  | .tryBlock isGroup body handlers orelse finalbody =>
    "try:" :: indentLines (bodyLines body)
      ++ handlerLines (if isGroup then "except*" else "except") handlers
      ++ elseLines orelse ++ finallyLines finalbody
  | .matchBlock subject cases =>
    ("match " ++ subject.code ++ ":") :: indentLines (caseLines cases)
  | .function isAsync name params body decorators returns =>
    decoratorLines decorators
      ++ (asyncWord isAsync ++ "def " ++ name ++ "("
          ++ commaSeparated (parameterMarks (spellParams false params)) ++ ")"
          ++ optionCode " -> " returns ++ ":")
      :: indentLines (describedLines body)
  | .classBlock name bases keywords body decorators =>
    decoratorLines decorators
      ++ ("class " ++ name ++ basesCode bases keywords ++ ":") :: indentLines (describedLines body)

/-- The lines of some statements. -/
def bodyLines : List Stmt → List String
  | [] => []
  | s :: ss => s.lines ++ bodyLines ss

/-- The lines of a body that may start with a description. -/
def describedLines : List Stmt → List String
  | .expression (.constant (.text s marked)) :: ss =>
    ((if marked then "u" else "") ++ gentleText longQuotes s) :: bodyLines ss
  | [] => []
  | s :: ss => s.lines ++ bodyLines ss

/-- The lines behind the body of an `if`. -/
def chainLines : List Stmt → List String
  | [] => []
  | [.conditional test body orelse] =>
    ("elif " ++ test.code ++ ":") :: indentLines (bodyLines body) ++ chainLines orelse
  | s :: ss => "else:" :: indentLines (s.lines ++ bodyLines ss)

/-- The lines of an `else`, if there is one. -/
def elseLines : List Stmt → List String
  | [] => []
  | s :: ss => "else:" :: indentLines (s.lines ++ bodyLines ss)

/-- The lines of a `finally`, if there is one. -/
def finallyLines : List Stmt → List String
  | [] => []
  | s :: ss => "finally:" :: indentLines (s.lines ++ bodyLines ss)

/-- The lines of some handlers, each of which starts with the given word. -/
def handlerLines (word : String) : List Handler → List String
  | [] => []
  | .mk type name body :: rest =>
    (word ++ optionCode " " type ++ name.elim "" (" as " ++ ·) ++ ":")
      :: indentLines (bodyLines body) ++ handlerLines word rest

/-- The lines of some cases. -/
def caseLines : List Case → List String
  | [] => []
  | .mk pattern guard body :: rest =>
    ("case " ++ pattern.spell .test ++ optionCode " if " guard ++ ":")
      :: indentLines (bodyLines body) ++ caseLines rest

end

/-! ## §4. Whole texts. -/

/-- The text of some lines; an empty line at the start is left out. -/
def linesText (lines : List String) : String := "\n".intercalate (lines.dropWhile String.isEmpty)

/-- An expression as code, if it can be written. -/
def Expr.text? (e : Expr) : Option String := written? e.code

/-- A statement as code, if it can be written. -/
def Stmt.text? (s : Stmt) : Option String := written? (linesText s.lines)

/-- Statements as code, if they can be written. -/
def bodyText? (body : List Stmt) : Option String := written? (linesText (bodyLines body))

end Inlay.Code
