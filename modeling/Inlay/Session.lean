/-
  Inlay.Session
  ────────────────────────────────
  **WORKING WITH AN ENVIRONMENT.**

  What a host program does with an environment and its templates: render them
  with arguments, bind names for all renders, look at the store of templates,
  and change the sources behind the loader.

  A session is a sequence of such operations, and each of them has a reply.
-/
import Inlay.Render

namespace Inlay

/-! ## §1. Texts. -/

/-- What the kinds of loaders are called. -/
def Loader.kindName : Loader → String
  | .table _ => "DictLoader"
  | .choice _ => "ChoiceLoader"
  | .lookup _ => "FunctionLoader"
  | .directory _ _ _ => "FileSystemLoader"

/-- An environment as text. -/
def Environment.text (env : Environment) : String :=
  "<Environment loader=" ++ (env.loader.map Loader.kindName).getD "NoneType" ++ " cache_size="
    ++ toString env.cacheSize ++ ">"

/-- A template as text. -/
def CompiledTemplate.text (t : CompiledTemplate) : String :=
  "<Template " ++ (Text.nonempty? t.name).getD "(inline)" ++ ">"

/-! ## §2. Rendering with arguments. -/

/-- The bindings of a render: those of the environment, then those of a dictionary, then those by
name. -/
def renderBindings (args : List Value) (keywords : List (String × Value)) :
    Run (List (String × Value)) := do
  let base ← Run.ask (·.environment.globals)
  match args with
  | [] => return bindAll base keywords
  | _ =>
    match args, ← Run.ask (fun w => args.head?.bind w.dictionaryOf?) with
    | [_], some d => return bindAll (bindAll base d.bindings) keywords
    | _, _ =>
      .fail .type ("render() takes at most 1 positional argument (a dict), got "
        ++ toString args.length)

/-- Fail if a binding by name has the name of a parameter that is already taken. -/
def refuseTaken (title : String) (taken : List String) (keywords : List (String × Value)) :
    Run Unit :=
  match keywords.find? (fun k => taken.contains k.1) with
  | some k => .fail .type (title ++ "() got multiple values for argument '" ++ k.1 ++ "'")
  | none => return ()

/-- The ways to ask a template for its text. -/
inductive RenderMode where
  | atOnce
  /-- In a thread of its own. -/
  | apart
  deriving Repr, DecidableEq

/-- What a way to render is called in messages. -/
def RenderMode.title : RenderMode → String
  | atOnce => "Template.render"
  | apart => "Template.render_async"

/-- Render a template with arguments. -/
def renderCall (p : Power) (mode : RenderMode) (t : CompiledTemplate) (args : List Value)
    (keywords : List (String × Value)) : Run String := do
  refuseTaken mode.title ["self"] keywords
  render p t (← renderBindings args keywords)

/-- Render the template of a name. -/
def renderNamed (p : Power) (name : String) (args : List Value)
    (keywords : List (String × Value)) : Run String := do
  refuseTaken "Environment.render" ["self", "template_name"] keywords
  renderCall p .atOnce (← getTemplate name) args keywords

/-- Compile a source and render it after its environment is gone, which had no settings. -/
def renderOrphan (source : String) (name : Option String) : Run String := do
  match ({} : Environment).compile source name none with
  | .error e => .throw e
  | .ok _ =>
    .fail .runtime ("Environment has been garbage collected (template: "
      ++ (Text.nonempty? name).getD "unknown" ++ ")")

/-! ## §3. Global names. -/

/-- The names that are bound for all renders, in order. -/
def Environment.globalNames (env : Environment) : List String :=
  Loader.sortedNames (env.globals.map Prod.fst)

/-- The environment with a name bound for all renders. -/
def Environment.bindGlobal (env : Environment) (name : String) (value : Value) : Environment :=
  { env with globals := bindName name value env.globals }

/-! ## §4. Sources. -/

/-- The templates that the loader can name. -/
def Environment.templateNames (env : Environment) : List String :=
  (env.loader.map Loader.names).getD []

/-- A loader with a source changed, if it is a table. -/
def Loader.setSource (name text : String) : Loader → Loader
  | .table sources =>
    .table (if (sources.lookup name).isSome then
        sources.map (fun s => if s.1 = name then (name, text) else s)
      else sources ++ [(name, text)])
  | l => l

/-- A loader without a source, if it is a table. -/
def Loader.removeSource (name : String) : Loader → Loader
  | .table sources => .table (sources.filter (·.1 ≠ name))
  | l => l

/-- The environment with its loader changed. -/
def Environment.mapLoader (f : Loader → Loader) (env : Environment) : Environment :=
  { env with loader := env.loader.map f }

/-! ## §5. Sessions. -/

/-- What a host program asks for.  It has work of its own to do for the arguments of a render and
for the value of a name. -/
inductive Operation where
  /-- Get the template of a name, and hold it. -/
  | get (name : String)
  /-- Compile a template, and hold it. -/
  | compile (source : String) (name : Option String)
  /-- Render the template of a name. -/
  | render (name : String) (arguments : Run (List Value × List (String × Value)))
  /-- Render the template that was held after so many others. -/
  | renderHeld (index : Nat) (arguments : Run (List Value × List (String × Value)))
  | addGlobal (name : String) (value : Run Value)
  | clearCache

/-- What a host program gets to know of an operation. -/
inductive Reply where
  | template (t : CompiledTemplate)
  | text (s : String)
  | nothing
  /-- An exception, and what it says if it says anything. -/
  | raised (e : Exc) (said : Option String)
  | outOfFuel
  | uncovered (what : String)

/-- The work of an operation, with the templates that are held before and afterwards.  They are
held without their numbers, which no render looks at. -/
def Operation.work (p : Power) (held : List CompiledTemplate) :
    Operation → Work State (Reply × List CompiledTemplate)
  | get name => do
    let t ← fetchTemplate name
    return (.template t.unnumbered, held ++ [t.unnumbered])
  | compile source name => do
    let t ← compileTemplate source name none
    return (.template t.unnumbered, held ++ [t.unnumbered])
  | render name arguments => do
    let (args, keywords) ← arguments
    return (.text (← renderNamed p name args keywords), held)
  | renderHeld index arguments => do
    match held[index]? with
    | none => return (.nothing, held)
    | some t =>
      let (args, keywords) ← arguments
      return (.text (← renderCall p .atOnce t args keywords), held)
  | addGlobal name value => do
    let v ← value
    changeEnvironment (·.bindGlobal name v)
    return (.nothing, held)
  | clearCache => do
    clearStore
    return (.nothing, held)

end Inlay
