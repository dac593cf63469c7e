/-
  Inlay.Value
  ────────────────────────────────
  **VALUES.**

  What embedded code computes with.  Most values are plain data; those that
  can change are references to objects of the heap.  Exceptions, functions
  and classes are values too.
-/
import Inlay.Code.Syntax
import Inlay.Diagnostic.Report

namespace Inlay

open Inlay.Code

/-- The place of an object in the heap. -/
abbrev Ref := Nat

/-! ## §1. Classes and functions of the language. -/

/-- The classes of exceptions. -/
inductive ErrorClass where
  | baseException | systemExit | keyboardInterrupt | generatorExit
  | exception
  | arithmetic | zeroDivision | overflow | floatingPoint
  | assertion | attributeMissing | buffer | endOfFile
  | importing | moduleNotFound
  | lookup | index | key
  | memory | name | unboundLocal | reference
  | os | blocking | childProcess | connection | brokenPipe | connectionAborted
  | connectionRefused | connectionReset | fileExists | fileNotFound | interrupted
  | isADirectory | notADirectory | permission | processLookup | timeout
  | runtime | notImplemented | recursion
  | stopIteration | stopAsyncIteration
  | malformed | indentation | tab
  | system | type
  | value | unicode | unicodeDecode | unicodeEncode | unicodeTranslate
  | warning | bytesWarning | deprecationWarning | encodingWarning | futureWarning
  | importWarning | pendingDeprecationWarning | resourceWarning | runtimeWarning
  | syntaxWarning | unicodeWarning | userWarning
  | template | templateNotFound | templateSyntax | templateStructure | templateMarker
  | templateRuntime | undefinedName
  deriving Repr, DecidableEq, Hashable

/-- The functions of numbers that a program must import. -/
inductive NumberFunction where
  | floor | ceil | trunc | sqrt | fabs | isNan | isInf | isFinite | gcd | lcm | factorial
  deriving Repr, DecidableEq, Hashable

/-- The functions and classes that every program knows. -/
inductive Builtin where
  | len | text | int | float | bool | list | tuple | dict | set | frozenset | range | slice
  | object | type | enumerate | map | filter | zip | reversed
  | sorted | sum | max | min | iter | next | globals | locals | abs | any | all | repr | ascii
  | format | chr | ord | hex | oct | bin | hash | callable | isinstance | issubclass
  | getattr | hasattr | setattr | delattr | round | divmod | pow
  /-- The value as output text; nothing for the absent value. -/
  | outputText
  /-- The text of a pipe block in its place. -/
  | realign
  /-- Text with its later lines indented. -/
  | reindent
  | ofNumbers (f : NumberFunction)
  /-- A function that exists but is not part of this model. -/
  | otherFunction (name : String)
  /-- A class that cannot be called here. -/
  | otherClass (name : String)
  deriving Repr, DecidableEq, Hashable

/-- The methods of data. -/
inductive Method where
  | upper | lower | strip | lstrip | rstrip | split | rsplit | splitlines | join
  | startsWith | endsWith | replace | find | rfind | index | rindex | count | format
  | partition | rpartition | removePrefix | removeSuffix | zfill | ljust | rjust | center
  | isdigit | isdecimal | isspace | isascii | isidentifier | isprintable
  | append | extend | pop | insert | remove | reverse | sort | clear | copy
  | get | items | keys | values | popitem | setdefault | update
  | add | discard | union | intersection | difference | symmetricDifference
  | isSubset | isSuperset | isDisjoint
  /-- A method that exists but is not part of this model. -/
  | other (name : String)
  deriving Repr, DecidableEq, Hashable

namespace Method

/-- The name of a method. -/
def label : Method → String
  | upper => "upper" | lower => "lower" | strip => "strip" | lstrip => "lstrip"
  | rstrip => "rstrip" | split => "split" | rsplit => "rsplit" | splitlines => "splitlines"
  | join => "join" | startsWith => "startswith" | endsWith => "endswith"
  | replace => "replace" | find => "find" | rfind => "rfind" | index => "index"
  | rindex => "rindex" | count => "count" | format => "format" | partition => "partition"
  | rpartition => "rpartition" | removePrefix => "removeprefix"
  | removeSuffix => "removesuffix" | zfill => "zfill" | ljust => "ljust" | rjust => "rjust"
  | center => "center" | isdigit => "isdigit" | isdecimal => "isdecimal"
  | isspace => "isspace" | isascii => "isascii" | isidentifier => "isidentifier"
  | isprintable => "isprintable"
  | append => "append" | extend => "extend" | pop => "pop" | insert => "insert"
  | remove => "remove" | reverse => "reverse" | sort => "sort" | clear => "clear"
  | copy => "copy" | get => "get" | items => "items" | keys => "keys" | values => "values"
  | popitem => "popitem" | setdefault => "setdefault" | update => "update" | add => "add"
  | discard => "discard" | union => "union" | intersection => "intersection"
  | difference => "difference" | symmetricDifference => "symmetric_difference"
  | isSubset => "issubset" | isSuperset => "issuperset" | isDisjoint => "isdisjoint"
  | other s => s

end Method

/-- What a view of a dictionary shows. -/
inductive ViewKind where
  | keys | values | items
  deriving Repr, DecidableEq, Hashable

/-- The scopes that a piece of code sees: its global names, and the local ones, innermost
first; and what stands before the names of its functions in messages. -/
structure Frame where
  globals : Ref
  scopes : List Ref := []
  path : String := ""
  /-- What holds the names behind the global ones, if it is not what every program knows. -/
  behind : Option Ref := none
  deriving Repr, DecidableEq

/-- The code of a function. -/
inductive FunctionBody where
  | expression (e : Expr)
  | statements (ss : List Stmt)

/-! ## §2. Values. -/

mutual

/-- A value.  Some carry a number that tells objects apart that look the same. -/
inductive Value where
  | none
  | bool (b : Bool)
  | int (n : Int)
  /-- A float other than the one that is no number. -/
  | float (x : Float)
  /-- A float that is no number; no two operations give the same one. -/
  | nan (id : Nat)
  | text (s : String)
  | ellipsis
  | notImplemented
  | tuple (items : List Value)
  /-- A set that cannot change, by its members in order. -/
  | frozen (members : List Value)
  | range (start stop step : Int)
  | slice (lower upper step : Value)
  /-- A list, a dictionary, an iterator, or another object that can change. -/
  | ref (r : Ref)
  | view (id : Nat) (dict : Ref) (kind : ViewKind)
  | exception (e : Exc)
  | errorClass (c : ErrorClass)
  | builtin (b : Builtin)
  | method (id : Nat) (owner : Value) (m : Method)
  | function (f : Function)
  | module (name : String)
  /-- A context manager: what it gives on entry, and whether it swallows exceptions. -/
  | manager (id : Nat) (entered : Value) (suppresses : Bool)
  /-- A function that tells the current template, line and include depth. -/
  | probe (id : Nat)
  /-- A function that raises an exception. -/
  | raiser (id : Nat) (e : Exc)
  /-- The function that includes templates, bound to a render. -/
  | includer (context globals : Ref)

/-- An exception: its class, its arguments, the name that it is about, and, for what is told
about templates, the report.  The number is zero until the exception is held as a value. -/
inductive Exc where
  | mk (id : Nat) (cls : ErrorClass) (args : List Value) (name : Option String)
      (report : Option Diagnostic.Report)

/-- A function with its defaults and the scopes around it. -/
inductive Function where
  | mk (id : Nat) (name : String) (params : List Param) (defaults : List (String × Value))
      (body : FunctionBody) (frame : Frame)

end

instance : Inhabited Value := ⟨.none⟩

namespace Exc

/-- What tells an exception apart from others. -/
def id : Exc → Nat
  | mk i _ _ _ _ => i

/-- The class of an exception. -/
def cls : Exc → ErrorClass
  | mk _ c _ _ _ => c

/-- The arguments of an exception. -/
def args : Exc → List Value
  | mk _ _ a _ _ => a

/-- The name that an exception is about. -/
def name : Exc → Option String
  | mk _ _ _ n _ => n

/-- The report that an exception carries. -/
def report : Exc → Option Diagnostic.Report
  | mk _ _ _ _ r => r

/-- The exception of a class with arguments. -/
def of (cls : ErrorClass) (args : List Value) (name : Option String := Option.none) : Exc :=
  mk 0 cls args name Option.none

/-- The exception that says something. -/
def saying (cls : ErrorClass) (message : String) : Exc := of cls [.text message]

/-- The exception with a number, unless it has one. -/
def stamp (id : Nat) : Exc → Exc
  | mk 0 c a n r => mk id c a n r
  | e => e

end Exc

/-- What tells a function apart from others. -/
def Function.id : Function → Nat
  | mk i _ _ _ _ _ => i

/-! ## §3. Exception classes. -/

namespace ErrorClass

/-- The name of a class. -/
def label : ErrorClass → String
  | baseException => "BaseException"
  | systemExit => "SystemExit"
  | keyboardInterrupt => "KeyboardInterrupt"
  | generatorExit => "GeneratorExit"
  | exception => "Exception"
  | arithmetic => "ArithmeticError"
  | zeroDivision => "ZeroDivisionError"
  | overflow => "OverflowError"
  | floatingPoint => "FloatingPointError"
  | assertion => "AssertionError"
  | attributeMissing => "AttributeError"
  | buffer => "BufferError"
  | endOfFile => "EOFError"
  | importing => "ImportError"
  | moduleNotFound => "ModuleNotFoundError"
  | lookup => "LookupError"
  | index => "IndexError"
  | key => "KeyError"
  | memory => "MemoryError"
  | name => "NameError"
  | unboundLocal => "UnboundLocalError"
  | reference => "ReferenceError"
  | os => "OSError"
  | blocking => "BlockingIOError"
  | childProcess => "ChildProcessError"
  | connection => "ConnectionError"
  | brokenPipe => "BrokenPipeError"
  | connectionAborted => "ConnectionAbortedError"
  | connectionRefused => "ConnectionRefusedError"
  | connectionReset => "ConnectionResetError"
  | fileExists => "FileExistsError"
  | fileNotFound => "FileNotFoundError"
  | interrupted => "InterruptedError"
  | isADirectory => "IsADirectoryError"
  | notADirectory => "NotADirectoryError"
  | permission => "PermissionError"
  | processLookup => "ProcessLookupError"
  | timeout => "TimeoutError"
  | runtime => "RuntimeError"
  | notImplemented => "NotImplementedError"
  | recursion => "RecursionError"
  | stopIteration => "StopIteration"
  | stopAsyncIteration => "StopAsyncIteration"
  | malformed => "SyntaxError"
  | indentation => "IndentationError"
  | tab => "TabError"
  | system => "SystemError"
  | type => "TypeError"
  | value => "ValueError"
  | unicode => "UnicodeError"
  | unicodeDecode => "UnicodeDecodeError"
  | unicodeEncode => "UnicodeEncodeError"
  | unicodeTranslate => "UnicodeTranslateError"
  | warning => "Warning"
  | bytesWarning => "BytesWarning"
  | deprecationWarning => "DeprecationWarning"
  | encodingWarning => "EncodingWarning"
  | futureWarning => "FutureWarning"
  | importWarning => "ImportWarning"
  | pendingDeprecationWarning => "PendingDeprecationWarning"
  | resourceWarning => "ResourceWarning"
  | runtimeWarning => "RuntimeWarning"
  | syntaxWarning => "SyntaxWarning"
  | unicodeWarning => "UnicodeWarning"
  | userWarning => "UserWarning"
  | template => "TemplateError"
  | templateNotFound => "TemplateNotFoundError"
  | templateSyntax => "TemplateSyntaxError"
  | templateStructure => "ParseError"
  | templateMarker => "LexerError"
  | templateRuntime => "TemplateRuntimeError"
  | undefinedName => "UndefinedError"

/-- The class that a class is a special case of. -/
def parent? : ErrorClass → Option ErrorClass
  | baseException => none
  | systemExit | keyboardInterrupt | generatorExit | exception => some baseException
  | zeroDivision | overflow | floatingPoint => some arithmetic
  | moduleNotFound => some importing
  | index | key => some lookup
  | unboundLocal => some name
  | blocking | childProcess | connection | fileExists | fileNotFound | interrupted |
    isADirectory | notADirectory | permission | processLookup | timeout => some os
  | brokenPipe | connectionAborted | connectionRefused | connectionReset => some connection
  | notImplemented | recursion => some runtime
  | indentation => some malformed
  | tab => some indentation
  | unicode => some value
  | unicodeDecode | unicodeEncode | unicodeTranslate => some unicode
  | bytesWarning | deprecationWarning | encodingWarning | futureWarning | importWarning |
    pendingDeprecationWarning | resourceWarning | runtimeWarning | syntaxWarning | unicodeWarning
    | userWarning => some warning
  | templateNotFound | templateSyntax | templateRuntime | undefinedName => some template
  | templateStructure => some templateSyntax
  | templateMarker => some templateStructure
  | _ => some exception

/-- The longest chain of classes has so many steps. -/
def maxRank : Nat := 6

/-- Is the class the second one, or a special case of it, by at most so many steps? -/
def isWithin (cls ancestor : ErrorClass) : Nat → Bool
  | 0 => cls = ancestor
  | n + 1 => cls = ancestor || (cls.parent?.map (isWithin · ancestor n)).getD false

/-- Is the class the second one, or a special case of it? -/
def isA (cls ancestor : ErrorClass) : Bool := cls.isWithin ancestor maxRank

/-- The classes that every program can name. -/
def named : List ErrorClass :=
  [baseException, systemExit, keyboardInterrupt, generatorExit, exception, arithmetic,
   zeroDivision, overflow, floatingPoint, assertion, attributeMissing, buffer, endOfFile,
   importing, moduleNotFound, lookup, index, key, memory, name, unboundLocal, reference, os,
   blocking, childProcess, connection, brokenPipe, connectionAborted, connectionRefused,
   connectionReset, fileExists, fileNotFound, interrupted, isADirectory, notADirectory,
   permission, processLookup, timeout, runtime, notImplemented, recursion, stopIteration,
   stopAsyncIteration, malformed, indentation, tab, system, type, value, unicode,
   unicodeDecode, unicodeEncode, unicodeTranslate, warning, bytesWarning, deprecationWarning,
   encodingWarning, futureWarning, importWarning, pendingDeprecationWarning, resourceWarning,
   runtimeWarning, syntaxWarning, unicodeWarning, userWarning]

/-- The classes that belong to templates. -/
def ofTemplates : List ErrorClass :=
  [template, templateNotFound, templateSyntax, templateStructure, templateMarker,
   templateRuntime, undefinedName]

/-- The class of a given name. -/
def ofLabel? (s : String) : Option ErrorClass := (named ++ ofTemplates).find? (·.label == s)

end ErrorClass

/-- The class of what a report tells. -/
def Diagnostic.Report.errorClass : Diagnostic.Report → ErrorClass
  | plain _ => .template
  | notFound _ => .templateNotFound
  | malformed r =>
    match r.anchor with
    | .code => .templateSyntax
    | .structure _ => .templateStructure
    | .marker _ => .templateMarker
  | failure _ => .templateRuntime
  | undefined _ => .undefinedName

/-- The exception that carries a report. -/
def Exc.ofReport (r : Diagnostic.Report) : Exc := mk 0 r.errorClass [] none (some r)

/-! ## §4. Functions and classes by name. -/

namespace NumberFunction

/-- The functions of numbers. -/
def all : List NumberFunction :=
  [floor, ceil, trunc, sqrt, fabs, isNan, isInf, isFinite, gcd, lcm, factorial]

/-- The name of a function of numbers. -/
def label : NumberFunction → String
  | floor => "floor" | ceil => "ceil" | trunc => "trunc" | sqrt => "sqrt" | fabs => "fabs"
  | isNan => "isnan" | isInf => "isinf" | isFinite => "isfinite" | gcd => "gcd" | lcm => "lcm"
  | factorial => "factorial"

/-- The function of numbers with a name. -/
def ofLabel? (s : String) : Option NumberFunction := all.find? (·.label == s)

end NumberFunction

namespace Builtin

/-- The name of a function or class. -/
def label : Builtin → String
  | len => "len" | text => "str" | int => "int" | float => "float" | bool => "bool"
  | list => "list" | tuple => "tuple" | dict => "dict" | set => "set"
  | frozenset => "frozenset" | range => "range" | slice => "slice" | object => "object"
  | type => "type" | enumerate => "enumerate" | map => "map" | filter => "filter"
  | zip => "zip" | reversed => "reversed" | sorted => "sorted" | sum => "sum" | max => "max"
  | min => "min" | iter => "iter" | next => "next" | globals => "globals"
  | locals => "locals" | abs => "abs" | any => "any" | all => "all" | repr => "repr"
  | ascii => "ascii" | format => "format" | chr => "chr" | ord => "ord" | hex => "hex"
  | oct => "oct" | bin => "bin" | hash => "hash" | callable => "callable"
  | isinstance => "isinstance" | issubclass => "issubclass" | getattr => "getattr"
  | hasattr => "hasattr" | setattr => "setattr" | delattr => "delattr" | round => "round"
  | divmod => "divmod" | pow => "pow"
  | outputText => "to_str" | realign => "realign_block" | reindent => "reindent_lines"
  | ofNumbers f => f.label
  | otherFunction s => s
  | otherClass s => s

/-- The classes of data that programs can name. -/
def classes : List Builtin :=
  [text, int, float, bool, list, tuple, dict, set, frozenset, range, slice, object, type,
   enumerate, map, filter, zip, reversed]

/-- The functions that programs can name. -/
def functions : List Builtin :=
  [len, sorted, sum, max, min, iter, next, globals, locals, abs, any, all, repr, ascii, format,
   chr, ord, hex, oct, bin, hash, callable, isinstance, issubclass, getattr, hasattr, setattr,
   delattr, round, divmod, pow]

/-- The names of functions that exist outside of this model. -/
def otherFunctions : List String :=
  ["__build_class__", "__import__", "aiter", "anext", "breakpoint", "compile", "dir", "eval",
   "exec", "id", "input", "open", "print", "vars"]

/-- The names of classes that exist outside of this model. -/
def otherClasses : List String :=
  ["bytearray", "bytes", "classmethod", "complex", "memoryview", "property", "staticmethod",
   "super"]

/-- Is it a class? -/
def isClass : Builtin → Bool
  | otherClass _ => true
  | b => classes.contains b

end Builtin

end Inlay
