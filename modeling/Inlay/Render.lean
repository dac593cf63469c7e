/-
  Inlay.Render
  ────────────────────────────────
  **RENDERING.**

  A render runs the program of a template over its bindings.  What embedded
  code raises leaves the render as a report of the innermost template; what
  is already about templates passes as it is.  An include is a render inside
  of a render, with the bindings that are visible there.
-/
import Inlay.Environment
import Inlay.Eval.Statement
import Inlay.Program.Names

namespace Inlay

open Inlay.Code Inlay.Diagnostic Inlay.Program

/-! ## §1. Bindings. -/

/-- What every program finds, whatever the bindings. -/
def staticBindings : List (String × Value) :=
  [(builtinsName, .module "builtins"), (textName, .builtin .outputText),
   (realignName, .builtin .realign), (reindentName, .builtin .reindent)]

/-- Is a name among the visible ones? -/
def isVisibleName (name : String) : Bool := name ≠ builtinsName && !isReserved name

/-- Is the value a text? -/
def isText : Value → Bool
  | .text _ => true
  | _ => false

/-- The visible bindings among some entries. -/
def visibleBindings (entries : Dictionary) : Run (List (String × Value)) := do
  match (entries.toList.map Prod.fst).find? (fun key => !isText key) with
  | some key =>
    .throw (.of .attributeMissing
      [.text ("'" ++ (← key.kind) ++ "' object has no attribute 'startswith'")]
      (some "startswith"))
  | none => return entries.bindings.filter (fun b => isVisibleName b.1)

/-! ## §2. Reports of what embedded code raises. -/

/-- The render context at a place. -/
def contextAt (r : Ref) : Run RenderContext := Run.ask (fun w => (w.contextAt? r).getD {})

/-- The report of an exception, with the details of the render that it leaves. -/
def failureOf (t : CompiledTemplate) (context : Ref) (e : Exc) : Run Exc := do
  let c ← contextAt context
  let said := Text.stripString (← e.text)
  return .ofReport (.failure
    { text := if said = "" then e.cls.label ++ " (no details available)" else said
      template := c.templateName
      line := c.line?
      snippet := RenderContext.snippetAt (some t.source) c.line?
      stack := c.stack
      cause := some e.cls.label })

/-- The report of a name that is not bound, with the details of the current render. -/
def undefinedOf (name : String) (available : List String) : Run Exc := do
  let c := (← Run.currentContext).getD {}
  let source ←
    match ← Run.current with
    | some r => Run.sourceAt r
    | none => Pure.pure none
  return .ofReport (.undefined
    { name := name
      template := c.templateName
      line := c.line?
      available := available
      snippet := RenderContext.snippetAt source c.line?
      stack := c.stack })

/-- The value of a name among some bindings, or the report that it is not bound. -/
def lookupBinding (bindings : List (String × Value)) (name : String) : Run Value := do
  match bindings.lookup name with
  | some v => return v
  | none => .throw (← undefinedOf name (bindings.map Prod.fst))

/-- What leaves a render instead of an exception of its embedded code. -/
def leavingRender (t : CompiledTemplate) (context globals : Ref) (e : Exc) : Run Exc := do
  if e.cls.isA .template then return e
  else if e.cls.isA .name then
    let available := (← visibleBindings (← Run.ask (·.dictionaryAt globals))).map Prod.fst
    match e.name with
    | none => failureOf t context e
    | some n =>
      if available.contains n then failureOf t context e else undefinedOf n available
  else if e.cls.isA .exception then failureOf t context e
  else return e

/-! ## §3. Renders. -/

/-- The text that the value of the result is, if there is one. -/
def resultText (result : Option Value) : Run String :=
  match result with
  | some (.text s) => return s
  | some _ => .leave "a result that is no text"
  | none => .throw (missingKey (.text resultName))

/-- The text that a program has left behind. -/
def renderedText (globals : Ref) : Run String := do
  resultText (← readInModule globals resultName)

/-- The names that a program finds, whatever the bindings are, beside the static ones. -/
def includeBindings (context globals : Ref) : List (String × Value) :=
  [(includeName, .includer context globals), (includeWord, .includer context globals),
   (contextName, .ref context)]

/-- The names of a module with one more: the dictionary, and the reserved names apart from it. -/
def addName (names : Dictionary × List Kept) (b : String × Value) : Dictionary × List Kept :=
  if isReserved b.1 then (names.1, Own.put b.1 names.1.span (.value b.2) names.2)
  else (names.1.putName b.1 b.2, names.2)

/-- Bindings as the names of a module. -/
def namesOf (bindings : List (String × Value)) : Dictionary × List Kept :=
  bindings.foldl addName (.empty, [])

/-- Make a module that has some names. -/
def newModule (globals : Ref) (bindings : List (String × Value)) : Run Unit := do
  Run.setObject globals (.dict (namesOf bindings).1)
  Run.changeOwn globals (fun _ => ((), .kept (namesOf bindings).2))

/-- Make the module of a render in the context at a place. -/
def startModule (bindings : List (String × Value)) (context : Ref) : Run Ref := do
  let globals ← Run.alloc (.dict .empty)
  newModule globals (staticBindings ++ bindings ++ includeBindings context globals)
  return globals

/-- Render a template in the context at a place, which is the current one. -/
def renderWith (p : Power) (t : CompiledTemplate) (bindings : List (String × Value))
    (context : Ref) : Run String := do
  let globals ← startModule bindings context
  match ← Run.attempt (runModule p globals t.program) with
  | .error e => .throw (← leavingRender t context globals e)
  | .ok () => renderedText globals

/-- Render a template with bindings by name. -/
def render (p : Power) (t : CompiledTemplate) (bindings : List (String × Value)) :
    Run String := do
  let limit ← Run.ask (·.environment.maxIncludeDepth)
  let context ← Run.newContext (.outermost t.name t.filename limit) (some t.source)
  Run.withCurrent context (renderWith p t bindings context)

/-! ## §4. Includes. -/

/-- The arguments of an include: the template, and bindings that replace others. -/
def includeSignature : Signature :=
  { name := "Template._render_with.<locals>.include"
    params := [.mk .positional "template_name" none none, .mk .keywords "overrides" none none]
    defaults := [] }

/-- Fail because one more include would be too deep. -/
def refuseDepth (name : Value) (c : RenderContext) : Run Value := do
  .report (.failure (c.depthFailure (← name.plain)))

/-- The template of a name, and the bindings that are visible in the program with some global
names. -/
def findInclude (globals : Ref) (name : Value) :
    Run (CompiledTemplate × List (String × Value)) := do
  let t ← getTemplateOf name
  return (t, ← visibleBindings (← Run.ask (·.dictionaryAt globals)))

/-- Include a template into the render with the given context and global names. -/
def includeInto (p : Power) (context globals : Ref) (args : List Value)
    (keywords : List (String × Value)) : Run Value := do
  match includeSignature.bind args keywords with
  | .error message => .fail .type message
  | .ok (bound, _, overrides) =>
    let name := (bound.lookup "template_name").getD .none
    Run.including context (refuseDepth name) (findInclude globals name)
      (fun t visible inner => do return .text (← renderWith p t (visible ++ overrides) inner))

/-! ## §5. Power. -/

/-- The power to come back to evaluation, at most so deep, with loops of so many rounds. -/
def power (rounds : Nat) : Nat → Power
  | 0 => Power.exhausted rounds
  | n + 1 =>
    { rounds
      call := fun f args keywords => f.callFrom (power rounds n) none args keywords
      next := fun v => v.advance (power rounds n)
      expression := fun fr e => e.eval (power rounds n) fr
      assign := fun fr target v => target.bindTo (power rounds n) fr v
      body := fun fr ss => runBody (power rounds n) fr ss
      includeTemplate := fun c g args keywords => includeInto (power rounds n) c g args keywords }

/-- So deep may calls nest. -/
def maxCallDepth : Nat := 985

/-- A loop with more rounds than this is taken for one without end. -/
def maxRounds : Nat := 10000000

/-- The power that renders start with. -/
def fullPower : Power := power maxRounds maxCallDepth

end Inlay
