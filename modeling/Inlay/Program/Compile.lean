/-
  Inlay.Program.Compile
  ────────────────────────────────
  **FROM SOURCE TO PROGRAM.**

  The whole way from the source of a template to its program, and the report
  of what stops it.  A report names the template and its file as far as the
  stage that fails knows them.
-/
import Inlay.Diagnostic.Report
import Inlay.Program.Build
import Inlay.Token.Scan
import Inlay.Tree.Parse

namespace Inlay.Program

open Inlay.Code Inlay.Diagnostic

/-- Where a source comes from, as far as reports tell; `source` is what they show lines of. -/
structure Origin where
  name : Option String := none
  filename : Option String := none
  source : Option String := none
  deriving Repr, DecidableEq

/-! ## §1. Reports. -/

/-- The report of a marker without an end.  Whoever cuts a source into tokens does not know its
name. -/
def markerReport (filename : Option String) (source : String) (u : Unterminated) :
    Malformed :=
  { fault := .unterminatedMarker u.opener
    anchor := .marker u.token
    line := some u.token.position.line
    column := some u.token.position.column
    name := none
    filename := filename
    source := some source }

/-- The report of a token that is out of place. -/
def tokenReport (o : Origin) (f : ParseFault) : Malformed :=
  { fault := f.fault
    anchor := .structure f.token
    line := some f.token.position.line
    column := some f.token.position.column
    name := o.name
    filename := o.filename
    source := o.source }

/-- The report of a marker or a node at fault. -/
def faultReport (o : Origin) (f : Fault) (p : Position) : Malformed :=
  { fault := f
    anchor := .code
    line := some p.line
    column := some p.column
    name := o.name
    filename := o.filename
    source := o.source }

/-! ## §2. Stages. -/

/-- The tree of some tokens. -/
def treeOfTokens (o : Origin) (tokens : List Token) : Except Malformed (Template Unit) :=
  (parse o.name tokens).mapError (tokenReport o)

/-- The tokens of a source. -/
def tokensOfSource (filename : Option String) (source : String) :
    Except Malformed (List Token) :=
  (tokenize source).mapError (markerReport filename source)

/-- The tree of a source. -/
def treeOfSource (o : Origin) (source : String) : Except Malformed (Template Unit) := do
  treeOfTokens o (← tokensOfSource o.filename source)

/-- Why a source has no program: there is a report, or the program is refused without one. -/
inductive CompileFault where
  | reported (r : Malformed)
  | refused (r : Refusal)
  deriving Repr, DecidableEq

/-- A refusal with its report, if it has one. -/
def Refusal.toCompileFault (o : Origin) : Refusal → CompileFault
  | .faulty f p => .reported (faultReport o f p)
  | r => .refused r

/-- The program of a tree. -/
def programOfTree (o : Origin) (t : Template Unit) : Except CompileFault (List Stmt) :=
  (build t).mapError (Refusal.toCompileFault o)

/-- The program of a source. -/
def programOfSource (o : Origin) (source : String) : Except CompileFault (List Stmt) := do
  programOfTree o (← (treeOfSource o source).mapError .reported)

section Sources

variable {o : Origin} {source : String}

/-- A source has a tree if it has tokens, and these have one. -/
theorem treeOfSource_ok_iff {t : Template Unit} : treeOfSource o source = .ok t ↔
    ∃ tokens, tokenize source = .ok tokens ∧ parse o.name tokens = .ok t := by
  unfold treeOfSource tokensOfSource
  cases tokenize source with
  | error u => exact ⟨fun h => (by cases h), fun ⟨_, h, _⟩ => (by cases h)⟩
  | ok tokens =>
    show (parse o.name tokens).mapError _ = _ ↔ _
    constructor
    · intro h
      refine ⟨tokens, rfl, ?_⟩
      cases hparse : parse o.name tokens with
      | error f =>
        rw [hparse] at h
        cases h
      | ok t' =>
        rw [hparse] at h
        exact congrArg Except.ok (Except.ok.inj h)
    · rintro ⟨tokens', htokens, hparse⟩
      obtain rfl := Except.ok.inj htokens
      rw [hparse]
      rfl

theorem programOfSource_of_tree {t : Template Unit} (h : treeOfSource o source = .ok t) :
    programOfSource o source = programOfTree o t := by
  unfold programOfSource
  rw [h]
  rfl

theorem programOfSource_of_malformed {r : Malformed} (h : treeOfSource o source = .error r) :
    programOfSource o source = .error (.reported r) := by
  unfold programOfSource
  rw [h]
  rfl

end Sources

end Inlay.Program
