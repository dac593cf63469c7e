/-
  Inlay.Tree
  ────────────────────────────────
  **TEMPLATE TREES.**

  A template is a list of nodes: text, markers that stand alone, and blocks.
  A block has one clause for each of its headers, the opener's included, and
  each clause has a body of nodes.

  Every marker carries a note, whose type says how far the tree has come:
  none after parsing, a `Placement` once indentation is resolved.
-/
import Inlay.Token

namespace Inlay

/-! ## §1. Markers. -/

/-- A marker with its code. -/
structure Marker (α : Type) where
  position : Position
  kind : MarkerKind
  code : String
  note : α
  deriving Repr, DecidableEq

/-- Where a marker stands in its text, as far as indentation is concerned. -/
structure Placement where
  /-- The spaces and tabs right before the marker. -/
  indentation : String := ""
  /-- Is the marker a pipe at the start of its body, whose output loses a leading newline? -/
  trimsNewline : Bool := false
  /-- The indentation inside a pipe block, as authored. -/
  baseline : Option String := none
  deriving Repr, DecidableEq

/-! ## §2. Nodes. -/

mutual

/-- A node of a template tree. -/
inductive Node (α : Type) where
  | text (position : Position) (value : String)
  | expr (marker : Marker α)
  | block (opener : Marker α) (clauses : List (Clause α))

/-- A header and the body that follows it.  The first clause of a block carries the block's own
header. -/
inductive Clause (α : Type) where
  | mk (position : Position) (code : String) (body : List (Node α))

end

namespace Clause

variable {α : Type}

/-- Where the header of a clause stands. -/
def position : Clause α → Position
  | mk p _ _ => p

/-- The header of a clause. -/
def code : Clause α → String
  | mk _ c _ => c

/-- The body of a clause. -/
def body : Clause α → List (Node α)
  | mk _ _ b => b

end Clause

/-- Where a node begins. -/
def Node.position {α : Type} : Node α → Position
  | text p _ => p
  | expr m => m.position
  | block m _ => m.position

/-- A whole template. -/
structure Template (α : Type) where
  name : Option String
  body : List (Node α)

/-! ## §3. Other notes. -/

section Map

variable {α β : Type}

/-- The marker with another note. -/
def Marker.map (f : α → β) (m : Marker α) : Marker β := ⟨m.position, m.kind, m.code, f m.note⟩

mutual

/-- The node with other notes at its markers. -/
def Node.map (f : α → β) : Node α → Node β
  | .text p v => .text p v
  | .expr m => .expr (m.map f)
  | .block m clauses => .block (m.map f) (mapClauses f clauses)

/-- The nodes with other notes at their markers. -/
def mapNodes (f : α → β) : List (Node α) → List (Node β)
  | [] => []
  | n :: ns => n.map f :: mapNodes f ns

/-- The clauses with other notes at their markers. -/
def mapClauses (f : α → β) : List (Clause α) → List (Clause β)
  | [] => []
  | .mk p code body :: rest => .mk p code (mapNodes f body) :: mapClauses f rest

end

/-- The template with other notes at its markers. -/
def Template.map (f : α → β) (t : Template α) : Template β := ⟨t.name, mapNodes f t.body⟩

end Map

end Inlay
