/-
  Inlay.Code.Syntax
  ────────────────────────────────
  **THE EMBEDDED LANGUAGE.**

  Syntax trees of the code that markers hold: constants, expressions,
  patterns and statements.  Trees carry no positions, with one exception: a
  `pass` knows its line, by which the body of a block header is found again.
-/

namespace Inlay.Code

/-! ## §1. Constants and operators. -/

/-- A constant. -/
inductive Constant where
  | none | true | false | ellipsis
  | int (n : Nat)
  | float (x : Float)
  /-- A multiple of the imaginary unit. -/
  | imaginary (x : Float)
  /-- Text; `marked` if it was written with the letter u in front. -/
  | text (s : String) (marked : Bool)
  | bytes (b : List Nat)
  deriving Repr, DecidableEq, Inhabited

/-- Operators that stop at the first operand that decides. -/
inductive BoolOp where
  | and | or
  deriving Repr, DecidableEq

/-- Operators with two operands. -/
inductive BinaryOp where
  | add | sub | mul | matMul | div | floorDiv | mod | pow
  | shiftLeft | shiftRight | bitOr | bitXor | bitAnd
  deriving Repr, DecidableEq

/-- Operators with one operand. -/
inductive UnaryOp where
  | invert | negate | plus | logicalNot
  deriving Repr, DecidableEq

/-- Comparisons. -/
inductive CompareOp where
  | equal | notEqual | less | atMost | greater | atLeast | same | notSame | member | notMember
  deriving Repr, DecidableEq

/-- What a comprehension collects. -/
inductive Collection where
  | list | set | generator
  deriving Repr, DecidableEq

/-- How a parameter takes its argument. -/
inductive ParamKind where
  /-- By position only. -/
  | positional
  /-- By position or by name. -/
  | regular
  /-- All further arguments by position. -/
  | rest
  /-- By name only. -/
  | keyword
  /-- All further arguments by name. -/
  | keywords
  deriving Repr, DecidableEq

/-! ## §2. Expressions. -/

mutual

/-- An expression. -/
inductive Expr where
  | constant (c : Constant)
  | name (id : String)
  | boolean (op : BoolOp) (operands : List Expr)
  | walrus (target : String) (value : Expr)
  | binary (op : BinaryOp) (left right : Expr)
  | unary (op : UnaryOp) (operand : Expr)
  | lambda (params : List Param) (body : Expr)
  | conditional (test body orelse : Expr)
  | dict (items : List DictItem)
  | set (elements : List Expr)
  | list (elements : List Expr)
  | tuple (elements : List Expr)
  | comprehension (kind : Collection) (element : Expr) (clauses : List CompClause)
  | dictComprehension (key value : Expr) (clauses : List CompClause)
  | await (value : Expr)
  | yield (value : Option Expr)
  | yieldFrom (value : Expr)
  | compare (first : Expr) (links : List CompareLink)
  | call (func : Expr) (args : List Expr) (keywords : List Keyword)
  /-- Text with expressions in it; each part is a text constant or a placeholder. -/
  | formatted (parts : List Expr)
  | placeholder (value : Expr) (conversion : Option Char) (spec : Option Expr)
  | attribute (value : Expr) (name : String)
  | subscript (value index : Expr)
  | starred (value : Expr)
  | slice (lower upper step : Option Expr)

/-- An item of a dictionary display. -/
inductive DictItem where
  | entry (key value : Expr)
  | spread (value : Expr)

/-- A `for` clause of a comprehension with its conditions. -/
inductive CompClause where
  | mk (isAsync : Bool) (target iter : Expr) (conditions : List Expr)

/-- A comparison with what stands to its right. -/
inductive CompareLink where
  | mk (op : CompareOp) (right : Expr)

/-- An argument by name, or, without a name, a mapping of such arguments. -/
inductive Keyword where
  | mk (name : Option String) (value : Expr)

/-- A parameter. -/
inductive Param where
  | mk (kind : ParamKind) (name : String) (hint default : Option Expr)

end

instance : Inhabited Expr := ⟨.constant .none⟩

/-- Is the expression starred? -/
def Expr.isStarred : Expr → Bool
  | starred _ => true
  | _ => false

/-! ## §3. Patterns. -/

mutual

/-- A pattern of a `case` clause. -/
inductive Pattern where
  /-- Equal to the value of an expression. -/
  | value (e : Expr)
  /-- One of the three singletons. -/
  | singleton (c : Constant)
  | sequence (patterns : List Pattern)
  | mapping (entries : List MapEntry) (rest : Option String)
  | instanceOf (cls : Expr) (positional : List Pattern) (named : List NamedPattern)
  /-- The rest of a sequence. -/
  | rest (name : Option String)
  /-- What a pattern matches, or anything, under a name if one is given. -/
  | capture (pattern : Option Pattern) (name : Option String)
  | alternatives (patterns : List Pattern)

/-- A key and the pattern of its value. -/
inductive MapEntry where
  | mk (key : Expr) (pattern : Pattern)

/-- An attribute and the pattern of its value. -/
inductive NamedPattern where
  | mk (name : String) (pattern : Pattern)

end

/-- Is the pattern the rest of a sequence? -/
def Pattern.isRest : Pattern → Bool
  | rest _ => true
  | _ => false

/-! ## §4. Statements. -/

/-- A module or member that an import names, and the name it is bound to. -/
structure ImportName where
  name : String
  boundAs : Option String
  deriving Repr, DecidableEq

/-- A context manager of a `with` statement and the target that it is bound to. -/
structure WithItem where
  manager : Expr
  target : Option Expr

mutual

/-- A statement. -/
inductive Stmt where
  | expression (e : Expr)
  | assign (targets : List Expr) (value : Expr)
  | augment (target : Expr) (op : BinaryOp) (value : Expr)
  /-- An annotated target; `bare` if it is a name outside parentheses. -/
  | annotate (target hint : Expr) (value : Option Expr) (bare : Bool)
  | delete (targets : List Expr)
  | pass (line : Nat)
  | breakLoop
  | continueLoop
  | giveBack (value : Option Expr)
  | throw (exception cause : Option Expr)
  | assertion (test : Expr) (message : Option Expr)
  | importModules (names : List ImportName)
  | importMembers (module : Option String) (names : List ImportName) (level : Nat)
  | globals (names : List String)
  | nonlocals (names : List String)
  | conditional (test : Expr) (body orelse : List Stmt)
  | whileLoop (test : Expr) (body orelse : List Stmt)
  | forLoop (isAsync : Bool) (target iter : Expr) (body orelse : List Stmt)
  | withBlock (isAsync : Bool) (items : List WithItem) (body : List Stmt)
  | tryBlock (isGroup : Bool) (body : List Stmt) (handlers : List Handler)
      (orelse finalbody : List Stmt)
  | matchBlock (subject : Expr) (cases : List Case)
  | function (isAsync : Bool) (name : String) (params : List Param) (body : List Stmt)
      (decorators : List Expr) (returns : Option Expr)
  | classBlock (name : String) (bases : List Expr) (keywords : List Keyword) (body : List Stmt)
      (decorators : List Expr)

/-- An `except` clause. -/
inductive Handler where
  | mk (type : Option Expr) (name : Option String) (body : List Stmt)

/-- A `case` clause. -/
inductive Case where
  | mk (pattern : Pattern) (guard : Option Expr) (body : List Stmt)

end

/-! ## §5. Reserved words. -/

/-- The words that are never identifiers. -/
def reservedWords : List String :=
  ["False", "None", "True", "and", "as", "assert", "async", "await", "break", "class",
   "continue", "def", "del", "elif", "else", "except", "finally", "for", "from", "global",
   "if", "import", "in", "is", "lambda", "nonlocal", "not", "or", "pass", "raise", "return",
   "try", "while", "with", "yield"]

end Inlay.Code
