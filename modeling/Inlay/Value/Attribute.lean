/-
  Inlay.Value.Attribute
  ────────────────────────────────
  **ATTRIBUTES.**

  What stands behind the dot: the fields of objects, the methods of data, the
  contents of modules.  An attribute that exists but is not modelled is told
  apart from one that does not exist.
-/
import Inlay.Value.AttributeNames
import Inlay.Value.Kind

namespace Inlay

/-! ## §1. Methods of data. -/

/-- The methods of texts in this model. -/
def textMethods : List Method :=
  [.upper, .lower, .strip, .lstrip, .rstrip, .split, .rsplit, .splitlines, .join, .startsWith,
   .endsWith, .replace, .find, .rfind, .index, .rindex, .count, .format, .partition,
   .rpartition, .removePrefix, .removeSuffix, .zfill, .ljust, .rjust, .center, .isdigit,
   .isdecimal, .isspace, .isascii, .isidentifier, .isprintable]

/-- The methods of lists in this model. -/
def listMethods : List Method :=
  [.append, .extend, .pop, .insert, .remove, .reverse, .sort, .clear, .copy, .index, .count]

/-- The methods of dictionaries in this model. -/
def dictMethods : List Method :=
  [.get, .items, .keys, .values, .pop, .popitem, .setdefault, .update, .clear, .copy]

/-- The methods of sets that leave them as they are. -/
def frozenMethods : List Method :=
  [.copy, .union, .intersection, .difference, .symmetricDifference, .isSubset, .isSuperset,
   .isDisjoint]

/-- The methods of sets in this model. -/
def setMethods : List Method :=
  [.add, .discard, .remove, .pop, .clear, .update] ++ frozenMethods

/-- The methods that a kind of data has. -/
def methodsOf : String → List Method
  | "str" => textMethods
  | "list" => listMethods
  | "dict" => dictMethods
  | "set" => setMethods
  | "frozenset" => frozenMethods
  | "tuple" => [.index, .count]
  | "range" => [.index, .count]
  | _ => []

/-- The method of a kind of data with a name. -/
def methodOf? (kind name : String) : Option Method :=
  (methodsOf kind).find? (·.label == name)

/-- The attributes of a kind of data. -/
def attributesOfKind (kind : String) : List String :=
  attributesOf (if kind == "bool" then "int" else kind)

/-! ## §2. Contents of modules. -/

/-- The constants of the mathematics module. -/
def mathConstants : List (String × Float) :=
  [("pi", 3.141592653589793), ("e", 2.718281828459045), ("tau", 6.283185307179586),
   ("inf", 1.0 / 0.0)]

/-- The names of the functions of the mathematics module. -/
def mathFunctions : List String :=
  ["acos", "acosh", "asin", "asinh", "atan", "atan2", "atanh", "cbrt", "ceil", "comb",
   "copysign", "cos", "cosh", "degrees", "dist", "erf", "erfc", "exp", "exp2", "expm1", "fabs",
   "factorial", "floor", "fmod", "frexp", "fsum", "gamma", "gcd", "hypot", "isclose", "isfinite",
   "isinf", "isnan", "isqrt", "lcm", "ldexp", "lgamma", "log", "log10", "log1p", "log2", "modf",
   "nextafter", "perm", "pow", "prod", "radians", "remainder", "sin", "sinh", "sqrt", "tan",
   "tanh", "trunc", "ulp"]

/-- The modules that can be imported. -/
def knownModules : List String :=
  ["math", "abc", "argparse", "ast", "asyncio", "base64", "bisect", "builtins", "calendar",
   "collections", "contextlib", "copy", "csv", "dataclasses", "datetime", "decimal", "difflib",
   "enum", "fractions", "functools", "glob", "hashlib", "heapq", "html", "http", "importlib",
   "inspect", "io", "itertools", "json", "logging", "numbers", "operator", "os", "pathlib",
   "pickle", "platform", "pprint", "queue", "random", "re", "secrets", "shutil", "signal",
   "socket", "statistics", "string", "struct", "subprocess", "sys", "tempfile", "textwrap",
   "threading", "time", "traceback", "types", "typing", "unicodedata", "unittest", "urllib",
   "uuid", "warnings", "weakref", "xml", "zlib"]

/-! ## §3. Reading attributes. -/

/-- What values of kinds that are classes are called in messages. -/
def World.ownerText (w : World) (v : Value) : String :=
  match v with
  | .module m => "module '" ++ m ++ "'"
  | .errorClass c => "type object '" ++ c.label ++ "'"
  | .builtin b =>
    if w.kindOf v == "type" then "type object '" ++ b.label ++ "'"
    else "'" ++ w.kindOf v ++ "' object"
  | _ => "'" ++ w.kindOf v ++ "' object"

/-- The attributes of exceptions of a class that not all exceptions have. -/
def ErrorClass.attributes (c : ErrorClass) : List String :=
  if c.isA .template then
    ["code", "message", "lineno", "name", "filename", "source", "col_offset", "location",
     "template", "template_name", "suggestion", "source_snippet", "template_stack", "token",
     "format_compact"]
  else if c.isA .systemExit then ["code"]
  else if c.isA .attributeMissing then ["name", "obj"]
  else if c.isA .importing then ["msg", "name", "path"]
  else if c.isA .name then ["name"]
  else if c.isA .os then ["characters_written", "errno", "filename", "filename2", "strerror"]
  else if c.isA .stopIteration then ["value"]
  else if c.isA .malformed then
    ["end_lineno", "end_offset", "filename", "lineno", "msg", "offset", "print_file_and_line",
     "text"]
  else if [ErrorClass.unicodeDecode, .unicodeEncode, .unicodeTranslate].any c.isA then
    ["encoding", "end", "object", "reason", "start"]
  else []

/-- Do values of this kind have the attribute, although it is not part of this model? -/
def World.hasOther (w : World) (v : Value) (name : String) : Bool :=
  commonAttributes.contains name ||
    match v with
    | .module "math" => mathFunctions.contains name || (attributesOf "module").contains name
    | .module _ => true
    | .errorClass c =>
      exceptionAttributes.contains name || c.attributes.contains name
        || (attributesOf "type").contains name
    | .exception e => exceptionAttributes.contains name || e.cls.attributes.contains name
    | .builtin b =>
      if w.kindOf v == "type" then
        (attributesOfKind b.label).contains name || (attributesOf "type").contains name
          || (match b with
              | .otherClass _ => true
              | _ => false)
      else (attributesOf (w.kindOf v)).contains name
    | _ => (attributesOfKind (w.kindOf v)).contains name

/-- A text, or the absent value. -/
def Value.ofText? (s : Option String) : Value := s.elim .none .text

/-- A number, or the absent value. -/
def Value.ofInt? (n : Option Int) : Value := n.elim .none .int

/-- The list of the places in a chain of includes. -/
def stackValue (stack : List (String × Int)) : Run Value :=
  Run.newList (stack.map (fun l => .tuple [.text l.1, .int l.2]))

/-- The fields of the context at a place, under the names that they have there. -/
def RenderContext.field? (r : Ref) (c : RenderContext) : String → Option (Run Value)
  | "template_name" => some (return .ofText? c.templateName)
  | "filename" => some (return .ofText? c.filename)
  | "source" => some (return .ofText? (← Run.sourceAt r))
  | "line" => some (return .int c.line)
  | "include_depth" => some (return .int c.includeDepth)
  | "max_include_depth" => some (return .int c.maxIncludeDepth)
  | "template_stack" => some (stackValue c.stack)
  | _ => Option.none

/-- The details of a report, under the names that they have as attributes. -/
def Diagnostic.Report.field? (r : Diagnostic.Report) (name : String) : Option (Run Value) :=
  match r, name with
  | .malformed m, "message" => some (return .text m.fault.message)
  | .malformed m, "lineno" => some (return .ofInt? m.line)
  | .malformed m, "name" => some (return .ofText? m.name)
  | .malformed m, "filename" => some (return .ofText? m.filename)
  | .malformed m, "source" => some (return .ofText? m.source)
  | .malformed m, "col_offset" => some (return .ofInt? m.column)
  | .malformed m, "location" => some (return .text m.location)
  | .failure f, "message" => some (return .text f.text)
  | .failure f, "template_name" => some (return .ofText? f.template)
  | .failure f, "lineno" => some (return .ofInt? f.line)
  | .failure f, "suggestion" => some (return .ofText? f.suggestion)
  | .failure f, "template_stack" => some (stackValue f.stack)
  | .undefined u, "name" => some (return .text u.name)
  | .undefined u, "template" => some (return .text u.templateName)
  | .undefined u, "lineno" => some (return .ofInt? u.line)
  | .undefined u, "template_stack" => some (stackValue u.stack)
  | _, _ => Option.none

/-- The attributes of an exception in this model. -/
def World.exceptionField? (w : World) (e : Exc) (name : String) : Option (Run Value) :=
  match e.report, name with
  | some r, "args" => some (return .tuple [.text (r.message w.colours)])
  | none, "args" => some (return .tuple e.args)
  | some r, _ => r.field? name
  | none, "name" =>
    if [ErrorClass.name, .attributeMissing, .importing].any e.cls.isA then
      some (return .ofText? e.name)
    else none
  | none, "value" =>
    if e.cls.isA .stopIteration then some (return e.args.head?.getD .none) else none
  | none, "msg" =>
    if e.cls.isA .importing then
      some (return match e.args with
        | [v] => v
        | _ => .none)
    else none
  | none, _ => none

/-- The last part of a name with points. -/
def lastPart (name : String) : String :=
  String.ofList ((name.toList.reverse.takeWhile (· ≠ '.')).reverse)

/-- The attributes of classes and functions that tell what they are called. -/
def ownName? (label name : String) : Option (Run Value) :=
  if name == "__name__" then some (return .text (lastPart label))
  else if name == "__qualname__" then some (return .text label)
  else none

/-- The exception for an attribute that is not there. -/
def World.noAttribute (w : World) (v : Value) (name : String) : Exc :=
  .of .attributeMissing [.text (w.ownerText v ++ " has no attribute '" ++ name ++ "'")]
    (some name)

/-- A method of a value, as an object of its own. -/
def Value.bindMethod (owner : Value) (m : Method) : Run Value :=
  return .method (← Run.fresh) owner m

/-- The method of a value with a name. -/
def World.methodField? (w : World) (v : Value) (name : String) : Option (Run Value) :=
  (methodOf? (w.kindOf v) name).map v.bindMethod

/-- The class of a value, as a value. -/
def World.classOf (w : World) (v : Value) : Value :=
  match v with
  | .exception e => .errorClass e.cls
  | v =>
    match (Builtin.classes).find? (·.label == w.kindOf v) with
    | some b => .builtin b
    | none => .builtin (.otherClass (w.kindOf v))

/-- The parts of a whole number, as a fraction and as a point of the plane. -/
def wholeField? (n : Int) (name : String) : Option (Run Value) :=
  if name == "real" || name == "numerator" then some (return .int n)
  else if name == "imag" then some (return .int 0)
  else if name == "denominator" then some (return .int 1)
  else none

/-- The attribute of a value, if it has it and it is part of this model. -/
def World.attribute? (w : World) (v : Value) (name : String) : Option (Run Value) :=
  let own : Option (Run Value) :=
    match v with
    | .range a b c =>
      match name with
      | "start" => some (return .int a)
      | "stop" => some (return .int b)
      | "step" => some (return .int c)
      | _ => w.methodField? v name
    | .slice a b c =>
      match name with
      | "start" => some (return a)
      | "stop" => some (return b)
      | "step" => some (return c)
      | _ => none
    | .bool b => wholeField? (if b then 1 else 0) name
    | .int n => wholeField? n name
    | .float x =>
      if name == "real" then some (return .float x)
      else if name == "imag" then some (return .float 0)
      else none
    | .module "math" =>
      if name == "nan" then some (return .nan 0)
      else
        ((mathConstants.lookup name).map Run.float).or
          ((NumberFunction.ofLabel? name).map (fun f => return .builtin (.ofNumbers f)))
    | .exception e => w.exceptionField? e name
    | .errorClass c => ownName? c.label name
    | .function (.mk _ label _ _ _ _) => ownName? label name
    | .builtin b =>
      if w.kindOf v == "type" then
        (ownName? b.label name).or ((methodOf? b.label name).map v.bindMethod)
      else ownName? b.label name
    | .ref r =>
      match w.heap[r]? with
      | some (.record fields) => (fields.lookup name).map (fun u => return u)
      | some (.context c) => c.field? r name
      | _ => w.methodField? v name
    | _ => w.methodField? v name
  own.or (if name == "__class__" then some (return w.classOf v) else none)

/-- The attribute of a value. -/
def Value.attribute (v : Value) (name : String) : Run Value := do
  match ← Run.ask (·.attribute? v name) with
  | some x => x
  | Option.none =>
    if ← Run.ask (·.hasOther v name) then
      .leave ((← Run.ask (·.ownerText v)) ++ " with attribute " ++ name)
    else .throw (← Run.ask (·.noAttribute v name))

/-- The attribute of a value, if it has it. -/
def Value.attributeIfAny (v : Value) (name : String) : Run (Option Value) :=
  Run.catching (some <$> v.attribute name) (fun e =>
    if e.cls.isA .attributeMissing then return Option.none else .throw e)

/-! ## §4. Changing attributes. -/

/-- Why an attribute of data cannot be changed. -/
def Value.fixedAttribute (v : Value) (name : String) : Run Unit := do
  let kind ← v.kind
  if name == "__class__" then .leave "changing the class of a value"
  else if (methodOf? kind name).isSome || (attributesOfKind kind).contains name
      || commonAttributes.contains name then
    .fail .attributeMissing ("'" ++ kind ++ "' object attribute '" ++ name ++ "' is read-only")
  else .throw (← Run.ask (·.noAttribute v name))

/-- May values of this kind have attributes of any name? -/
def World.isOpen (w : World) (v : Value) : Bool :=
  ["function", "module", "Ctx", "RenderContext"].contains (w.kindOf v) ||
    match v with
    | .exception _ => true
    | .errorClass c => !ErrorClass.named.contains c
    | _ => false

/-- The class that cannot be changed, if the value is one. -/
def World.fixedClass? (w : World) (v : Value) : Option String :=
  match v with
  | .errorClass c => some c.label
  | .builtin b => if w.kindOf v == "type" then some b.label else none
  | _ => none

/-- Fail to change an attribute of a value without fields. -/
def Value.refuseAttribute (v : Value) (name : String) : Run Unit := do
  if ← Run.ask (·.isOpen v) then .leave ("setting an attribute of a " ++ (← v.kind))
  else
    match ← Run.ask (·.fixedClass? v) with
    | some label =>
      .fail .type ("cannot set '" ++ name ++ "' attribute of immutable type '" ++ label ++ "'")
    | Option.none => v.fixedAttribute name

/-- Set an attribute of a value. -/
def Value.setAttribute (v : Value) (name : String) (value : Value) : Run Unit := do
  match v with
  | .ref r =>
    match ← Run.ask (·.heap[r]?) with
    | some (.record fields) => Run.setObject r (.record (bindName name value fields))
    | some (.context _) =>
      match name, value with
      | "line", .int n => Run.setLine r n
      | _, _ => .leave "changing the render context"
    | _ => v.refuseAttribute name
  | _ => v.refuseAttribute name

/-- Remove an attribute of a value. -/
def Value.removeAttribute (v : Value) (name : String) : Run Unit := do
  match v with
  | .ref r =>
    match ← Run.ask (·.heap[r]?) with
    | some (.record fields) =>
      if (fields.lookup name).isSome then
        Run.setObject r (.record (fields.filter (·.1 ≠ name)))
      else .throw (← Run.ask (·.noAttribute v name))
    | _ => v.refuseAttribute name
  | _ => v.refuseAttribute name

end Inlay
