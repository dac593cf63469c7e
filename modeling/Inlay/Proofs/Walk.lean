/-
  Inlay.Proofs.Walk
  ────────────────────────────────
  **WHAT A TEMPLATE MEANS.**

  A resolved tree can be rendered without a program: its nodes are walked one
  after the other, and write on a page.

      text          is written
      output marker the text of its value is written
      silent marker its statements are run
      plain block   its compound statement is run; a clause body is walked
                    wherever the statement runs that body
      pipe block    the same on a page of its own; what is on it is put in
                    place and written if the statement ends normally

  No name of a program's own takes part in a walk, apart from those that the
  rewritten include calls use.
-/
import Inlay.Render

namespace Inlay

open Inlay.Code Inlay.Program

/-! ## §1. Pages. -/

/-- What walking has written. -/
structure Page where
  written : String := ""
  /-- What was on the pages of pipe blocks that were left before their end. -/
  dropped : String := ""

/-- Work that also writes on a page. -/
abbrev Walk := Work (State × Page)

/-- A run, as work that writes nothing. -/
def Run.walked {α : Type} (x : Run α) : Walk α := fun w => (x.work w.1).mapState (·, w.2)

instance : MonadLift Run (Work (State × Page)) := ⟨Run.walked⟩

/-- Write a text. -/
def emit (text : String) : Walk Unit := fun w =>
  .done () (w.1, { w.2 with written := w.2.written ++ text })

/-- The page behind a page of its own, of which nothing is used. -/
def Page.behind (before inner : Page) : Page :=
  { written := before.written, dropped := inner.dropped ++ inner.written }

/-- Walk on a page of its own.  What is on it at a normal end is put in place and written on the
page before. -/
def apart (place : String → String) (x : Walk Flow) : Walk Flow := fun w =>
  match x (w.1, { written := "", dropped := w.2.dropped }) with
  | .done .normal t =>
    .done .normal (t.1, { written := w.2.written ++ place t.2.written, dropped := t.2.dropped })
  | .done flow t => .done flow (t.1, w.2.behind t.2)
  | .raised e t => .raised e (t.1, w.2.behind t.2)
  | .outOfFuel => .outOfFuel
  | .uncovered what => .uncovered what

/-! ## §2. Walking. -/

/-- Note the line of a marker in the context of the render. -/
def noteLineIn (context : Ref) (p : Position) : Run Unit :=
  (Value.ref context).setAttribute "line" (.int p.line)

/-- A text without the newline that it starts with, if it does. -/
def withoutNewline (text : String) : String :=
  match text.toList with
  | '\n' :: r => String.ofList r
  | _ => text

/-- The text of a pipe block in its place. -/
def placed (n : Placement) (text : String) : String :=
  String.ofList
    (Indent.realignBlock (n.baseline.getD "").toList n.indentation.toList n.trimsNewline text.toList)

/-- What is said of a tree whose code cannot be read. -/
def unreadableCode : String := "code that cannot be read"

/-- Walk a silent marker: run its statements. -/
def walkSilent (p : Power) (fr : Frame) (context : Ref) (m : Marker Placement) : Walk Flow :=
  match parseStatements? (Header.normalize m.code) with
  | none => .leave unreadableCode
  | some ss => do
    noteLineIn context m.position
    (runBody p fr (ss.map (wrapIncludesIn m.note.indentation)) : Run Flow)

/-- Walk a marker that writes a value. -/
def walkOutput (p : Power) (fr : Frame) (context : Ref) (m : Marker Placement) : Walk Flow :=
  match parseExpression? (Header.normalize m.code) with
  | none => .leave unreadableCode
  | some e => do
    noteLineIn context m.position
    let v ← ((wrapIncludes m.note.indentation e).eval p fr : Run Value)
    let text ← (v.outputText : Run String)
    emit (if m.note.trimsNewline then withoutNewline text else text)
    return .normal

/-- Walk a block, given what it is to walk its clauses: run its compound statement. -/
def walkBlock (p : Power) (fr : Frame) (context : Ref) (m : Marker Placement)
    (headers : List String) (clauses : List (Option Nat) → List (Nat × Walk Flow)) : Walk Flow :=
  match skeleton headers with
  | .error _ => .leave unreadableCode
  | .ok s => do
    noteLineIn context m.position
    let inside := (wrapIncludesIn m.note.indentation s.statement).runWith p fr (clauses s.slots)
    if m.kind = .pipe then apart (placed m.note) inside else inside

mutual

/-- Walk a node. -/
def walkNode (p : Power) (fr : Frame) (context : Ref) : Node Placement → Walk Flow
  | .text _ v => do
    emit v
    return .normal
  | .expr m =>
    if m.kind = .silent then walkSilent p fr context m else walkOutput p fr context m
  | .block m clauses =>
    walkBlock p fr context m (clauses.map Clause.code)
      (fun slots => walkClauses p fr context slots clauses)

/-- Walk nodes, one after the other, until one does not end normally. -/
def walkBody (p : Power) (fr : Frame) (context : Ref) : List (Node Placement) → Walk Flow
  | [] => return .normal
  | node :: rest => do
    match ← walkNode p fr context node with
    | .normal => walkBody p fr context rest
    | flow => return flow

/-- What it is to walk the bodies of some clauses, each with its slot. -/
def walkClauses (p : Power) (fr : Frame) (context : Ref) (slots : List (Option Nat)) :
    List (Clause Placement) → List (Nat × Walk Flow)
  | [] => []
  | .mk _ _ body :: rest =>
    match slots.headD none with
    | none => walkClauses p fr context slots.tail rest
    | some line => (line, walkBody p fr context body) :: walkClauses p fr context slots.tail rest

end

/-! ## §3. Rendering without a program. -/

/-- The values that a program finds under reserved names. -/
def toolBindings (context globals : Ref) : List (String × Value) :=
  [(textName, .builtin .outputText), (realignName, .builtin .realign),
   (reindentName, .builtin .reindent), (includeName, .includer context globals),
   (contextName, .ref context)]

/-- Lock the reserved names of a module away: nothing but their first values can be reached. -/
def lockNames (context globals : Ref) : Walk Unit := fun w =>
  .done () (w.1.setOwn globals (.locked (toolBindings context globals)), w.2)

/-- What is on the page. -/
def pageText : Walk String := fun w => .done w.2.written w

/-- What a walk gives that ended with a flow.  Where it did not come to its end, it is as if the
result had been left out. -/
def walkedText (globals : Ref) : Flow → Walk String
  | .normal => pageText
  | _ => do
    let result ← (Run.ask (fun w => (w.dictionaryAt globals).named? resultName) : Run _)
    (resultText result : Run String)

/-- Render a resolved tree in the context at a place by walking it.  `annotates` says whether its
code notes something beside names, `locks` whether reserved names are locked away. -/
def renderWalking (p : Power) (locks annotates : Bool) (t : CompiledTemplate)
    (tree : Template Placement) (bindings : List (String × Value)) (context : Ref) :
    Walk String := do
  let globals ← (startModule bindings context : Run Ref)
  if locks then lockNames context globals
  let walk : Walk Flow := do
    let behind ← (enterModule globals annotates : Run (Option Ref))
    walkBody p { globals, behind } context tree.body
  match ← walk.attempt with
  | .error e => do
    let e ← (leavingRender t context globals e : Run Exc)
    (Run.throw e : Run String)
  | .ok flow => walkedText globals flow

end Inlay
