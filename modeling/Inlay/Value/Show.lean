/-
  Inlay.Value.Show
  ────────────────────────────────
  **VALUES AS TEXT.**

  `display` is how a value is shown inside of another one, with its quotes;
  `plain` is the text that it becomes in output.  A list or dictionary that
  holds itself is shown with dots at that place.
-/
import Inlay.Decimal.Notation
import Inlay.Text.Quoted
import Inlay.Value.Kind
import Inlay.Value.Members

namespace Inlay

/-- Whole numbers with more digits than this have no text. -/
def maxDigits : Nat := 4300

/-- What is said of whole numbers with too many digits. -/
def tooLongMessage : String :=
  "Exceeds the limit (4300 digits) for integer string conversion; "
    ++ "use sys.set_int_max_str_digits() to increase the limit"

/-- So deep may values nest in a text. -/
def maxShowDepth : Nat := 985

/-- What keeps a value from being shown. -/
inductive ShowFault where
  | tooLong
  | tooDeep
  /-- The text would hold the address of the value. -/
  | address (kind : String)
  /-- The text would hold the source of the context at a place. -/
  | source (context : Ref)

/-! ## §1. Data. -/

/-- The text of a whole number. -/
def wholeText (n : Int) : Except ShowFault String :=
  if Nat.pow 10 maxDigits ≤ n.natAbs then .error .tooLong else .ok (toString n)

/-- Texts in brackets. -/
def bracketed (opening closing : String) (items : List String) : String :=
  opening ++ String.intercalate ", " items ++ closing

/-- The text of a tuple. -/
def tupleText : List String → String
  | [s] => "(" ++ s ++ ",)"
  | items => bracketed "(" ")" items

/-- The text of an entry of a dictionary. -/
def entryText (shown : Value → Except ShowFault String) (e : Value × Value) :
    Except ShowFault String := do
  return (← shown e.1) ++ ": " ++ (← shown e.2)

/-- The text of an entry as a pair. -/
def pairText (shown : Value → Except ShowFault String) (e : Value × Value) :
    Except ShowFault String := do
  return tupleText [← shown e.1, ← shown e.2]

/-- The text of the members of a set, which has a name in front unless it is a plain set. -/
def membersText (title : String) (items : List String) : String :=
  let braced := bracketed "\x7b" "\x7d" items
  if items.isEmpty then title ++ "()" else if title = "set" then braced else title ++ "(" ++ braced ++ ")"

/-! ## §2. Classes. -/

/-- The module that the classes of template exceptions belong to. -/
def errorModule : String := "snug.environment.exceptions"

/-- The name of a class with its module, unless every program can name it. -/
def ErrorClass.path (c : ErrorClass) : String :=
  if ErrorClass.named.contains c then c.label else errorModule ++ "." ++ c.label

/-- Classes of the host program, whose modules are not known. -/
def hostClasses : List String := ["Obj", "Ctx"]

/-- The module that render contexts belong to. -/
def contextModule : String := "snug.render_context"

/-- The name of a class of data with its module. -/
def classPath (label : String) : Except ShowFault String :=
  if hostClasses.contains label then .error (.address "type")
  else .ok (if label = "RenderContext" then contextModule ++ "." ++ label else label)

/-! ## §3. Exceptions. -/

/-- Is the exception a failure of the system that names a file? -/
def Exc.namesFile (e : Exc) : Bool :=
  e.cls.isA .os && e.args.length ≤ 5 &&
    match e.args with
    | _ :: _ :: .none :: _ => false
    | _ :: _ :: _ :: _ => true
    | _ => false

/-- The arguments of an exception; what is told about templates is one.  The name of a file is
not among them. -/
def World.argsOf (w : World) (e : Exc) : List Value :=
  match e.report with
  | some r => [.text (r.message w.colours)]
  | none => if e.namesFile then e.args.take 2 else e.args

/-- The text of an optional text inside of another one. -/
def optionalQuoted (s : Option String) : String := (s.map Text.quoted).getD "None"

/-- The text of a render context. -/
def RenderContext.display (c : RenderContext) : String :=
  bracketed "RenderContext(" ")"
    ["template_name=" ++ optionalQuoted c.templateName, "filename=" ++ optionalQuoted c.filename,
     "source=" ++ optionalQuoted c.source, "line=" ++ toString c.line,
     "include_depth=" ++ toString c.includeDepth,
     "max_include_depth=" ++ toString c.maxIncludeDepth,
     "template_stack=" ++ bracketed "[" "]" (c.stack.map (fun l =>
       tupleText [Text.quoted l.1, toString l.2]))]

/-! ## §4. Values inside of values. -/

/-- The text of a value inside of another one.  `outer` are the objects that it is in. -/
def World.display (w : World) : Nat → List Ref → Value → Except ShowFault String
  | 0, _, _ => .error .tooDeep
  | n + 1, outer, v =>
    match v with
    | .none => .ok "None"
    | .bool b => .ok (if b then "True" else "False")
    | .int k => wholeText k
    | .float x => .ok (Decimal.floatText x)
    | .nan _ => .ok "nan"
    | .text s => .ok (Text.quoted s)
    | .ellipsis => .ok "Ellipsis"
    | .notImplemented => .ok "NotImplemented"
    | .tuple items => return tupleText (← items.mapM (w.display n outer))
    | .frozen members => return membersText "frozenset" (← members.mapM (w.display n outer))
    | .range a b c => do
      let ends := [← wholeText a, ← wholeText b]
      let step := [← wholeText c]
      return bracketed "range(" ")" (if c = 1 then ends else ends ++ step)
    | .slice a b c => return bracketed "slice(" ")" (← [a, b, c].mapM (w.display n outer))
    | .ref r =>
      match w.heap[r]? with
      | some (.list items) =>
        if outer.contains r then .ok "[...]"
        else return bracketed "[" "]" (← items.toList.mapM (w.display n (r :: outer)))
      | some (.dict d) =>
        if outer.contains r then .ok "\x7b...\x7d"
        else do
          let items ← d.toList.mapM (entryText (w.display n (r :: outer)))
          return bracketed "\x7b" "\x7d" items
      | some (.set d) =>
        if outer.contains r then .ok "set(...)"
        else do
          let members := orderedMembers (d.toList.map Prod.fst)
          return membersText "set" (← members.mapM (w.display n (r :: outer)))
      | some (.context c) => if c.source.isSome then .ok c.display else .error (.source r)
      | _ => .error (.address (w.kindOf v))
    | .view _ r .keys => do
      let items ← (w.dictionaryAt r).toList.mapM (fun e => w.display n outer e.1)
      return bracketed "dict_keys([" "])" items
    | .view _ r .values => do
      let items ← (w.dictionaryAt r).toList.mapM (fun e => w.display n outer e.2)
      return bracketed "dict_values([" "])" items
    | .view _ r .items => do
      let items ← (w.dictionaryAt r).toList.mapM (pairText (w.display n outer))
      return bracketed "dict_items([" "])" items
    | .exception e =>
      return bracketed (e.cls.label ++ "(") ")" (← (w.argsOf e).mapM (w.display n outer))
    | .errorClass c => .ok ("<class '" ++ c.path ++ "'>")
    | .builtin b =>
      match w.kindOf v with
      | "type" => return "<class '" ++ (← classPath b.label) ++ "'>"
      | "function" => .error (.address "function")
      | _ => .ok ("<built-in function " ++ b.label ++ ">")
    | .module "builtins" => .ok "<module 'builtins' (built-in)>"
    | v => .error (.address (w.kindOf v))

/-! ## §5. Values as output. -/

/-- The text that a value becomes which is no exception. -/
def World.plainData (w : World) : Value → Except ShowFault String
  | .text s => .ok s
  | v => w.display maxShowDepth [] v

/-- What the system says of a failure, from its number, its text, and perhaps one or two
files. -/
def World.systemSaying (w : World) (e : Exc) : Except ShowFault String := do
  let arg (i : Nat) : Value := e.args[i]?.getD .none
  let head := "[Errno " ++ (← w.plainData (arg 0)) ++ "] " ++ (← w.plainData (arg 1))
  if e.namesFile then
    let head := head ++ ": " ++ (← w.display maxShowDepth [] (arg 2))
    match arg 4 with
    | .none => return head
    | file => return head ++ " -> " ++ (← w.display maxShowDepth [] file)
  else return head

/-- The text that a value becomes. -/
def World.plainWithin (w : World) : Nat → Value → Except ShowFault String
  | _, .text s => .ok s
  | 0, _ => .error .tooDeep
  | n + 1, .exception e =>
    match e.report with
    | some r => .ok (r.message w.colours)
    | none =>
      match e.args with
      | [] => .ok ""
      | [v] => if e.cls = .key then w.display maxShowDepth [] v else w.plainWithin n v
      | vs =>
        if e.cls.isA .os && vs.length ≤ 5 then w.systemSaying e
        else return tupleText (← vs.mapM (w.display maxShowDepth []))
  | _, v => w.display maxShowDepth [] v

/-- The text that a value becomes. -/
def World.plain (w : World) (v : Value) : Except ShowFault String := w.plainWithin maxShowDepth v

/-- The world with the source of a context where the context is. -/
def World.withSource (context : Ref) (source : Option String) (w : World) : World :=
  match w.contextAt? context with
  | some c => { w with heap := w.heap.set! context (.context { c with source := source }) }
  | none => w

/-- What a world shows, once it has the sources of the contexts that are shown, at most so many. -/
def Run.shownWithin (text? : World → Except ShowFault String) : Nat → Run String
  | 0 => .leave "a context without source"
  | n + 1 => do
    match ← Run.ask text? with
    | .ok s => return s
    | .error .tooLong => .fail .value tooLongMessage
    | .error .tooDeep =>
      .fail .recursion "maximum recursion depth exceeded while getting the repr of an object"
    | .error (.address kind) => .leave ("the address of a " ++ kind)
    | .error (.source context) =>
      let found ← Run.sourceAt context
      shownWithin (fun w => text? (w.withSource context found)) n

/-- So many contexts may be shown at once. -/
def maxShownContexts : Nat := 1000

/-- What a world shows. -/
def Run.shown (text? : World → Except ShowFault String) : Run String :=
  shownWithin text? maxShownContexts

/-- The text of a value inside of another one. -/
def Value.display (v : Value) : Run String := .shown (·.display maxShowDepth [] v)

/-- The text of a value inside of another one, in ASCII. -/
def Value.displayAscii (v : Value) : Run String := do
  return Text.asciiOnly (← v.display)

/-- The text that a value becomes. -/
def Value.plain (v : Value) : Run String := .shown (·.plain v)

/-- The text that an exception says. -/
def Exc.text (e : Exc) : Run String := (Value.exception e).plain

end Inlay
