/-
  Inlay.Tree.Parse
  ────────────────────────────────
  **FROM TOKENS TO A TREE.**

  `parse` reads the tokens up to the first end of source and keeps the open
  blocks, innermost first.  Text goes to the end of the innermost body; two
  texts that only a comment separates become one.  An `end` closes the
  innermost block, a clause header starts its next clause, a block header
  opens a block, and any other marker is a node.

  Whether the headers of a block fit together is not asked here.
-/
import Inlay.Fault
import Inlay.Header
import Inlay.Tree

namespace Inlay

/-! ## §1. Blocks under construction. -/

/-- A block whose `end` has not come yet. -/
structure OpenBlock where
  /-- The token of its opener. -/
  token : Token
  /-- The marker of its opener. -/
  opener : Marker Unit
  /-- The clauses before the current one. -/
  finished : List (Clause Unit)
  /-- The header of the current clause and its place. -/
  position : Position
  code : String
  /-- The body of the current clause so far. -/
  body : List (Node Unit)

/-- The block without a body that an opener starts. -/
def OpenBlock.start (token : Token) (opener : Marker Unit) : OpenBlock :=
  ⟨token, opener, [], token.position, token.value, []⟩

/-- The clauses of a block so far. -/
def OpenBlock.clauses (b : OpenBlock) : List (Clause Unit) :=
  b.finished ++ [.mk b.position b.code b.body]

/-- The block with its current clause finished and another one started. -/
def OpenBlock.continueWith (b : OpenBlock) (token : Token) : OpenBlock :=
  { b with finished := b.clauses, position := token.position, code := token.value, body := [] }

/-- The finished block. -/
def OpenBlock.close (b : OpenBlock) : Node Unit := .block b.opener b.clauses

/-- A tree under construction: the nodes outside all blocks, and the open blocks, innermost
first. -/
structure Builder where
  root : List (Node Unit)
  stack : List OpenBlock

/-- Change the innermost body. -/
def Builder.mapBody (b : Builder) (f : List (Node Unit) → List (Node Unit)) : Builder :=
  match b.stack with
  | [] => { b with root := f b.root }
  | top :: rest => { b with stack := { top with body := f top.body } :: rest }

/-- A body with a text at its end; the text joins one that stands there already. -/
def appendText (position : Position) (value : String) (body : List (Node Unit)) :
    List (Node Unit) :=
  match body.getLast? with
  | some (.text p v) => body.dropLast ++ [.text p (v ++ value)]
  | _ => body ++ [.text position value]

/-! ## §2. Reading tokens. -/

/-- A fault and the token it points at. -/
structure ParseFault where
  fault : Fault
  token : Token

/-- Take in the token of a marker. -/
def Builder.takeMarker (b : Builder) (kind : MarkerKind) (token : Token) :
    Except ParseFault Builder :=
  if Header.closesBlock token.value then
    match b.stack with
    | [] => .error ⟨.unexpectedEnd, token⟩
    | top :: rest => .ok (Builder.mapBody { b with stack := rest } (· ++ [top.close]))
  else match Header.clauseWord? token.value with
    | some word =>
      match b.stack with
      | [] => .error ⟨.unexpectedClause word, token⟩
      | top :: rest => .ok { b with stack := top.continueWith token :: rest }
    | none =>
      let marker : Marker Unit := ⟨token.position, kind, token.value, ()⟩
      if Header.opensBlock token.value then
        .ok { b with stack := .start token marker :: b.stack }
      else .ok (b.mapBody (· ++ [.expr marker]))

/-- Take in tokens until the source ends. -/
def Builder.takeAll (b : Builder) : List Token → Except ParseFault Builder
  | [] => .ok b
  | t :: ts =>
    match t.kind with
    | .eof => .ok b
    | .data => takeAll (b.mapBody (appendText t.position t.value)) ts
    | .comment => takeAll b ts
    | .marker kind =>
      match b.takeMarker kind t with
      | .error e => .error e
      | .ok b => takeAll b ts

/-- The nodes of a token list. -/
def parseBody (tokens : List Token) : Except ParseFault (List (Node Unit)) :=
  match Builder.takeAll ⟨[], []⟩ tokens with
  | .error e => .error e
  | .ok ⟨root, []⟩ => .ok root
  | .ok ⟨_, top :: _⟩ => .error ⟨.unclosedBlock (Text.stripString top.opener.code), top.token⟩

/-- The template of a token list. -/
def parse (name : Option String) (tokens : List Token) : Except ParseFault (Template Unit) :=
  (parseBody tokens).map (⟨name, ·⟩)

end Inlay
