/-
  Inlay.Program.Build
  ────────────────────────────────
  **FROM A TREE TO A PROGRAM.**

  A program is a list of statements that appends pieces of output to lists
  and joins them at the end:

      text          its characters are appended
      output marker the text of its value is appended
      silent marker its statements are run
      plain block   its compound statement, with the clause bodies inside
      pipe block    the same, but the bodies write to a list of their own; the
                    joined list is realigned and appended as a whole

  Every marker first notes its line in the render context.  Lists of pipe
  blocks are numbered in the order of the openers.
-/
import Inlay.Code.Extent
import Inlay.Code.Legality
import Inlay.Code.Naming
import Inlay.Code.Skeleton
import Inlay.Indent.Resolve
import Inlay.Program.Include
import Inlay.Text.Search

namespace Inlay.Program

open Inlay.Code

/-! ## §1. Refusals. -/

/-- Why a tree has no program. -/
inductive Refusal where
  /-- A marker or a node is at fault. -/
  | faulty (fault : Fault) (position : Position)
  /-- Code holds the character zero. -/
  | nul
  /-- The body of a header is not where it should be: its `pass` has company. -/
  | buried (line : Nat)
  /-- Code nests too deep to be read, or to be rewritten. -/
  | tooDeep (whenRead : Bool)
  /-- A line is no number that a line can have. -/
  | unfitLine
  /-- Code of several lines starts in front of the first line. -/
  | misplaced (region : Region)
  /-- A name cannot be one. -/
  | misnamed (fault : NameFault)
  /-- The parts are in order, but the whole is not legal. -/
  | illegal
  deriving Repr, DecidableEq

/-- What building keeps: the number of lists in use, and the regions of the code so far, the last
one first. -/
structure Progress where
  buffers : Nat := 0
  regions : List Region := []

/-- A step of building; a refusal ends everything. -/
abbrev Build := StateT Progress (Except Refusal)

/-- End with a refusal. -/
def refuse {α : Type} (r : Refusal) : Build α := fun _ => .error r

/-- Claim the next list. -/
def nextBuffer : Build String := fun p =>
  .ok (bufferName (p.buffers + 1), { p with buffers := p.buffers + 1 })

/-- Note the regions of some code. -/
def noteRegions (regions : List Region) : Build Unit := fun p =>
  .ok ((), { p with regions := regions.reverse ++ p.regions })

/-! ## §2. Pieces of code. -/

/-- A call with arguments by position. -/
def callOf (func : Expr) (args : List Expr) : Expr := .call func args []

/-- The statement that appends a value to a list. -/
def appendTo (buffer : String) (value : Expr) : Stmt :=
  .expression (callOf (.attribute (.name buffer) "append") [value])

/-- The statement that makes a list empty. -/
def startBuffer (buffer : String) : Stmt := .assign [.name buffer] (.list [])

/-- The pieces of a list as one text. -/
def joined (buffer : String) : Expr := callOf (.attribute (textConstant "") "join") [.name buffer]

/-- A whole number as code. -/
def wholeCode (n : Int) : Expr :=
  if n < 0 then .unary .negate (.constant (.int n.natAbs)) else .constant (.int n.natAbs)

/-- The statement that notes a line. -/
def noteLine (p : Position) : Stmt :=
  .assign [.attribute (.name contextName) "line"] (wholeCode p.line)

/-- A truth value as a constant. -/
def boolConstant (b : Bool) : Expr := .constant (if b then .true else .false)

/-- Text moved from one indentation to another. -/
def realigned (text : Expr) (baseline indentation : String) (trims : Bool) : Expr :=
  callOf (.name realignName)
    [text, textConstant baseline, textConstant indentation, boolConstant trims]

/-- The refusal of a marker's code. -/
def invalidCode (m : Marker Placement) (reason : CodeFault) : Refusal :=
  .faulty (.invalidCode (Text.stripString m.code) reason) m.position

/-- The code of a marker, ready to be read. -/
def markerCode (m : Marker Placement) : Build String :=
  let code := Header.normalize m.code
  if code.toList.contains '\x00' then refuse .nul else pure code

/-- Refuse a tree that is too deep; `fits` says whether it fits a budget. -/
def checkDepth (fits : Descent → Nat → Bool) : Build Unit :=
  if !fits reading readingBudget then refuse (.tooDeep true)
  else if !fits rewriting rewritingBudget then refuse (.tooDeep false)
  else pure ()

/-- Note where the code of a marker stands.  The extents matter only where lines are not those
of a source. -/
def noteExtents (m : Marker Placement) (extents : Unit → List Extent) : Build Unit :=
  let line := m.position.line
  let inside :=
    if 0 ≤ line && line + m.code.length < lineLimit then []
    else (extents ()).map (Extent.region · line)
  noteRegions (.ofLine line :: inside)

/-! ## §3. Markers. -/

/-- The statements of a silent marker. -/
def silentStmts (m : Marker Placement) : Build (List Stmt) := do
  let code ← markerCode m
  match parseStatements? code with
  | none => refuse (invalidCode m .unreadable)
  | some ss =>
    checkDepth (bodyFits · · ss)
    noteExtents m (fun _ => statementExtents code)
    return noteLine m.position :: ss.map (wrapIncludesIn m.note.indentation)

/-- The statements of a marker that writes a value. -/
def outputStmts (buffer : String) (m : Marker Placement) : Build (List Stmt) := do
  let code ← markerCode m
  match parseExpression? code with
  | none => refuse (invalidCode m .unreadable)
  | some e =>
    checkDepth (e.fits · ·)
    noteExtents m (fun _ => (expressionExtent? code).toList)
    let i := m.note.indentation
    let value := callOf (.name textName) [wrapIncludes i e]
    let piece := if m.note.trimsNewline then realigned value i i true else value
    return [noteLine m.position, appendTo buffer piece]

/-- The compound statement of a block, its include calls wrapped, and its slots. -/
def blockSkeleton (m : Marker Placement) (headers : List String) : Build Skeleton :=
  match skeleton headers with
  | .ok s => do
    checkDepth (s.statement.fits · ·)
    noteExtents m (fun _ => (assembleHeaders headers).extent?.toList)
    return { s with statement := wrapIncludesIn m.note.indentation s.statement }
  | .error .nul => refuse .nul
  | .error (.refused reason) => refuse (invalidCode m reason)
  | .error (.buried line) => refuse (.buried line)

/-- Is the node blank text? -/
def isBlankText : Node Placement → Bool
  | .text _ v => (Text.strip v.toList).isEmpty
  | _ => false

/-- Refuse anything but blank text between a header without body and its first clause. -/
def checkBlank (body : List (Node Placement)) : Build Unit :=
  match body.find? (!isBlankText ·) with
  | none => pure ()
  | some node => refuse (.faulty .strayBeforeCase node.position)

/-! ## §4. Nodes. -/

/-- The statements around those of a pipe block. -/
def pipeStmts (buffer target : String) (m : Marker Placement) (statement : Stmt) : List Stmt :=
  [noteLine m.position, startBuffer target, statement,
   appendTo buffer
     (realigned (joined target) (m.note.baseline.getD "") m.note.indentation
       m.note.trimsNewline)]

/-- A clause body that is never empty; the clause starts at the given place. -/
def orPass (p : Position) (body : List Stmt) : Build (List Stmt) := do
  if body.isEmpty then
    noteRegions [.ofLine p.line]
    return [.pass 0]
  else return body

mutual

/-- The statements of a node that writes to the given list. -/
def nodeStmts (buffer : String) : Node Placement → Build (List Stmt)
  | .text p v => do
    if v.isEmpty then return []
    noteRegions [.ofLine p.line]
    return [appendTo buffer (textConstant v)]
  | .expr m => if m.kind = .silent then silentStmts m else outputStmts buffer m
  | .block m clauses => do
    let s ← blockSkeleton m (clauses.map Clause.code)
    if m.kind = .pipe then
      let target ← nextBuffer
      let bodies ← clauseBodies target s.slots clauses
      return pipeStmts buffer target m (s.statement.fill (bodies.lookup ·))
    else
      let bodies ← clauseBodies buffer s.slots clauses
      return [noteLine m.position, s.statement.fill (bodies.lookup ·)]

/-- The statements of some nodes. -/
def bodyStmts (buffer : String) : List (Node Placement) → Build (List Stmt)
  | [] => return []
  | node :: rest => return (← nodeStmts buffer node) ++ (← bodyStmts buffer rest)

/-- The bodies of some clauses, each with its slot. -/
def clauseBodies (buffer : String) (slots : List (Option Nat)) :
    List (Clause Placement) → Build (List (Nat × List Stmt))
  | [] => return []
  | .mk p _ body :: rest => do
    match slots.headD none with
    | none =>
      checkBlank body
      clauseBodies buffer slots.tail rest
    | some line =>
      let b ← orPass p (← bodyStmts buffer body)
      let more ← clauseBodies buffer slots.tail rest
      return (line, b) :: more

end

/-! ## §5. Programs. -/

/-- So many blocks may stand inside of each other. -/
def maxNesting : Nat := 329

mutual

/-- Do blocks nest in the node no deeper than so many levels? -/
def nodeNests : Nat → Node Unit → Bool
  | 0, .block _ _ => false
  | n + 1, .block _ clauses => clausesNest n clauses
  | _, _ => true

/-- Do blocks nest in the nodes no deeper than so many levels? -/
def bodyNests (n : Nat) : List (Node Unit) → Bool
  | [] => true
  | node :: rest => nodeNests n node && bodyNests n rest

/-- Do blocks nest in the clauses no deeper than so many levels? -/
def clausesNest (n : Nat) : List (Clause Unit) → Bool
  | [] => true
  | .mk _ _ body :: rest => bodyNests n body && clausesNest n rest

end

/-- Do blocks nest in a template no deeper than they may? -/
def fitsNesting (body : List (Node Unit)) : Bool := bodyNests maxNesting body

/-- Start over, whatever was built before: no list is in use, and no regions are known. -/
def startOver : Build Unit := fun _ => .ok ((), {})

/-- The statements of a resolved template. -/
def programStmts (t : Template Placement) : Build (List Stmt) := do
  startOver
  let body ← bodyStmts outputName t.body
  return startBuffer outputName :: body ++ [.assign [.name resultName] (joined outputName)]

/-- The statements of a resolved template, and the regions of its code. -/
def templateStmts (t : Template Placement) : Except Refusal (List Stmt × List Region) :=
  match (programStmts t).run {} with
  | .error r => .error r
  | .ok (program, p) => .ok (program, p.regions.reverse)

theorem templateStmts_eq (t : Template Placement) : templateStmts t =
    match (bodyStmts outputName t.body).run {} with
    | .error r => .error r
    | .ok (body, p) =>
      .ok (startBuffer outputName :: body ++ [.assign [.name resultName] (joined outputName)],
        p.regions.reverse) := by
  have hstart : (programStmts t).run {} = (bodyStmts outputName t.body).run {} >>= fun found =>
      .ok (startBuffer outputName :: found.1 ++ [.assign [.name resultName] (joined outputName)],
        found.2) := rfl
  unfold templateStmts
  rw [hstart]
  cases (bodyStmts outputName t.body).run {} <;> rfl

/-- Why a program whose parts are in order is refused as a whole. -/
def refusal? (body : List Stmt) (regions : List Region) : Option Refusal :=
  if regions.any (!·.fits) then some .unfitLine
  else
    match regions.find? (!·.isValid) with
    | some r => some (.misplaced r)
    | none =>
      match misnamed? body with
      | some f => some (.misnamed f)
      | none => if isLegal body then none else some .illegal

/-- What is refused as a whole is refused without a place. -/
theorem refusal?_cases {body : List Stmt} {regions : List Region} {r : Refusal}
    (h : refusal? body regions = some r) :
    r = .unfitLine ∨ (∃ region, r = .misplaced region) ∨ (∃ f, r = .misnamed f) ∨ r = .illegal := by
  unfold refusal? at h
  split at h
  · exact Or.inl (Option.some.inj h).symm
  · split at h
    · exact Or.inr (Or.inl ⟨_, (Option.some.inj h).symm⟩)
    · split at h
      · exact Or.inr (Or.inr (Or.inl ⟨_, (Option.some.inj h).symm⟩))
      · split at h
        · cases h
        · exact Or.inr (Or.inr (Or.inr (Option.some.inj h).symm))

/-- The program of a parsed template. -/
def build (t : Template Unit) : Except Refusal (List Stmt) := do
  if !fitsNesting t.body then .error (.tooDeep false)
  else
    let (body, regions) ← templateStmts (Indent.resolve t)
    match refusal? body regions with
    | some r => .error r
    | none => .ok body

/-- **What a program is built from**: a tree that is not too deep, and statements that are not
refused as a whole. -/
theorem build_ok_iff {t : Template Unit} {program : List Stmt} : build t = .ok program ↔
    fitsNesting t.body = true ∧ ∃ regions,
      templateStmts (Indent.resolve t) = .ok (program, regions)
        ∧ refusal? program regions = none := by
  unfold build
  cases fitsNesting t.body with
  | false => exact ⟨fun h => (by cases h), fun h => (by cases h.1)⟩
  | true =>
    rw [if_neg (by simp)]
    cases templateStmts (Indent.resolve t) with
    | error e => exact ⟨fun h => (by cases h), fun ⟨_, _, h, _⟩ => (by cases h)⟩
    | ok p =>
      show (match refusal? p.1 p.2 with
        | some r => Except.error r
        | none => Except.ok p.1) = _ ↔ _
      cases hrefusal : refusal? p.1 p.2 with
      | some r =>
        refine ⟨fun h => (by cases h), fun ⟨_, regions, h, hnone⟩ => ?_⟩
        obtain rfl := Except.ok.inj h
        rw [hrefusal] at hnone
        cases hnone
      | none =>
        refine ⟨fun h => ?_, fun ⟨_, regions, h, _⟩ => ?_⟩
        · obtain rfl := Except.ok.inj h
          exact ⟨rfl, p.2, rfl, hrefusal⟩
        · obtain rfl := Except.ok.inj h
          rfl

/-- The file name that a program goes by. -/
def fileName (name filename : Option String) : String :=
  (Text.nonempty? filename).getD
    ("<template " ++ (Text.nonempty? name).getD "string" ++ ">")

end Inlay.Program
