/-
  Inlay.Eval.Call
  ────────────────────────────────
  **CALLS.**

  What calling a value does: a function of the language, a method, an
  exception class, a function written in the embedded language, or one of the
  functions that the host program gives.
-/
import Inlay.Eval.Builtins
import Inlay.Eval.Methods
import Inlay.Eval.Names
import Inlay.RenderContext.Stack

namespace Inlay

open Inlay.Code

/-! ## §1. Functions of the embedded language. -/

/-- The scope of a call: the arguments under the names of their parameters. -/
def callScope (s : Signature) (body : FunctionBody)
    (bound : List (String × Value)) : Scope :=
  let ms :=
    match body with
    | .expression e => e.mentions true
    | .statements ss => bodyMentions ss
  { names := localNames (s.params.map Param.name) ms
    bound := bound
    globalNames := declaredGlobal ms }

/-- The value that a call gives back when its body has ended. -/
def returned : Flow → Value
  | .giveBack v => v
  | _ => .none

/-- Call a function of the embedded language. -/
def Function.call (p : Power) (f : Function) (args : List Value)
    (keywords : List (String × Value)) : Run Value := do
  match f with
  | .mk _ name params defaults body frame =>
    let s : Signature := ⟨name, params, defaults⟩
    match s.bind args keywords with
    | .error message => .fail .type message
    | .ok (bound, rest, named) =>
      let bound ←
        match s.rest? with
        | some r => Pure.pure (bound ++ [(r, .tuple rest)])
        | none => Pure.pure bound
      let bound ←
        match s.keywords? with
        | some k => Pure.pure (bound ++ [(k, ← Run.newDict (.ofBindings named))])
        | none => Pure.pure bound
      let inner ← frame.enter (name ++ ".<locals>.") (callScope s body bound)
      match body with
      | .expression e => p.expression inner e
      | .statements ss => return returned (← p.body inner ss)

/-! ## §2. Exceptions. -/

/-- The class of a failure of the system by its number. -/
def systemClass? : Value → Option ErrorClass
  | .int 11 | .int 114 | .int 115 => some .blocking
  | .int 32 | .int 108 => some .brokenPipe
  | .int 10 => some .childProcess
  | .int 103 => some .connectionAborted
  | .int 111 => some .connectionRefused
  | .int 104 => some .connectionReset
  | .int 17 => some .fileExists
  | .int 2 => some .fileNotFound
  | .int 4 => some .interrupted
  | .int 21 => some .isADirectory
  | .int 20 => some .notADirectory
  | .int 1 | .int 13 => some .permission
  | .int 3 => some .processLookup
  | .int 110 => some .timeout
  | _ => none

/-- The class of a new exception: failures of the system have classes by their numbers. -/
def ErrorClass.refined (c : ErrorClass) (args : List Value) : ErrorClass :=
  match c, args with
  | .os, n :: _ :: more => if more.length ≤ 3 then (systemClass? n).getD c else c
  | c, _ => c

/-- The keyword arguments of the classes that take some. -/
def ErrorClass.keywords (c : ErrorClass) : Option (String × List String) :=
  if c.isA .name then some ("NameError", ["name"])
  else if c.isA .attributeMissing then some ("AttributeError", ["name", "obj"])
  else if c.isA .importing then some ("ImportError", ["name", "path"])
  else none

/-- How many arguments the classes take that take a certain number. -/
def ErrorClass.exactArguments? : ErrorClass → Option Nat
  | .unicodeDecode => some 5
  | .unicodeEncode => some 5
  | .unicodeTranslate => some 4
  | _ => none

/-- A new exception of a class. -/
def ErrorClass.call (c : ErrorClass) (args : List Value) (keywords : List (String × Value)) :
    Run Value := do
  if ErrorClass.ofTemplates.contains c || (c.isA .malformed && args.length > 1) then
    .leave ("making a " ++ c.label)
  match c.exactArguments? with
  | some n =>
    if args.length = n then .leave ("making a " ++ c.label)
    else
      .fail .type ("function takes exactly " ++ toString n ++ " arguments ("
        ++ toString args.length ++ " given)")
  | none =>
    match c.keywords with
    | none => noKeywords c.label keywords
    | some (label, allowed) =>
      argumentLimit label allowed.length [] keywords
      onlyKeywords label allowed keywords
      if keywords.any (·.1 ≠ "name") then .leave "what an exception is about"
    let name ←
      match keywords.head? with
      | none => Pure.pure none
      | some (_, .text s) => Pure.pure (some s)
      | some (_, .none) => Pure.pure none
      | some _ => .leave "names that are no texts"
    return .exception (← Run.stamped (.of (c.refined args) args name))

/-- The parameters of exceptions about failed renders and about unknown names. -/
def reportParams : ErrorClass → List Param
  | .templateRuntime =>
    .mk .regular "self" none none :: .mk .regular "message" none none ::
      ["template_name", "lineno", "suggestion", "source_snippet", "template_stack", "code"].map
        (fun n => .mk .keyword n none none)
  | _ =>
    ["self", "name", "template", "lineno", "available_names", "source_snippet",
      "template_stack"].map (fun n => .mk .regular n none none)

/-- How exceptions about failed renders and about unknown names are made. -/
def reportSignature (c : ErrorClass) : Signature :=
  { name := c.label ++ ".__init__"
    params := reportParams c
    defaults := ((reportParams c).drop 2).map (fun p => (p.name, .none)) }

/-- The text that an argument is, if it is one. -/
def textArgument? (bound : List (String × Value)) (name : String) : Option String :=
  match bound.lookup name with
  | some (.text s) => some s
  | _ => none

/-- The report that some arguments make. -/
def reportOf (c : ErrorClass) (bound : List (String × Value)) : Diagnostic.Report :=
  match c with
  | .templateRuntime =>
    .failure { text := (textArgument? bound "message").getD "" }
  | _ =>
    .undefined
      { name := (textArgument? bound "name").getD ""
        template := textArgument? bound "template"
        line := (bound.lookup "lineno").bind Value.whole? }

/-- The exception that a host program makes of a class, arguments, and perhaps a name; if it cannot
be made, the exception that says so. -/
def Exc.made (c : ErrorClass) (args : List Value) (name : Option String) : Exc :=
  let keywords := name.toList.map (fun n => ("name", Value.text n))
  if [ErrorClass.templateRuntime, .undefinedName].contains c then
    match (reportSignature c).bind (.none :: args) keywords with
    | .error message => .saying .type message
    | .ok (bound, _, _) => .ofReport (reportOf c bound)
  else if name.isSome && !c.isA .name then
    .saying .type (c.label ++ "() takes no keyword arguments")
  else if c = .templateNotFound then
    .ofReport (.notFound ((textArgument? ((args.take 1).map ("message", ·)) "message").getD ""))
  else .of c args name

/-! ## §3. Functions of the host program. -/

/-- The text that stands for an optional text. -/
def optionalText (s : Option String) : String := s.getD "None"

/-- Where the program is: the template, its line, and the include depth. -/
def whereText : Run Value := do
  match ← Run.currentContext with
  | some c =>
    return .text (optionalText c.templateName ++ ":" ++ toString c.line ++ ":"
      ++ toString c.includeDepth)
  | none => .fail .runtime outsideMessage

/-- Fail if a function of the host program without parameters gets arguments. -/
def noHostArguments (args : List Value) (keywords : List (String × Value)) : Run Unit :=
  if args.isEmpty && keywords.isEmpty then return ()
  else .leave "arguments of functions of the host program"

/-! ## §4. All values. -/

/-- Call a value.  `here` is where it is called. -/
def Value.callFrom (p : Power) (here : Option Frame) (f : Value) (args : List Value)
    (keywords : List (String × Value)) : Run Value := do
  match f with
  | .builtin b => b.call p here args keywords
  | .method _ owner m => callMethod p owner m args keywords
  | .function g => g.call p args keywords
  | .errorClass c => c.call args keywords
  | .includer context globals => p.includeTemplate context globals args keywords
  | .probe _ => do
    noHostArguments args keywords
    whereText
  | .raiser _ e => do
    noHostArguments args keywords
    .throw e
  | _ => .fail .type ("'" ++ (← f.kind) ++ "' object is not callable")

end Inlay
