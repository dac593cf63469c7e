/-
  Inlay.Proofs.Columns
  ────────────────────────────────
  **COLUMNS ARE FOR REPORTS ALONE.**

  A place is a line and a column.  Everything that stands flush left has its
  columns forgotten:

      parse_flush       — tokens that stand flush left are parsed to a tree that does
      resolve_flush     — indentation is resolved from texts, and not from columns
      build_flush       — a tree has the program that it has when it stands flush left
      build_of_flush_eq — so trees that differ in columns are built alike

  At each of these stages it is the same fault that ends the work, on the
  same line.
-/
import Inlay.Program.Build
import Inlay.Proofs.Printing

namespace Inlay

open Inlay.Code Inlay.Program

/-! ## §1. Without columns. -/

/-- The start of the line that a place is on. -/
def Position.flush (p : Position) : Position := ⟨p.line, 0⟩

/-- The token at the start of its line. -/
def Token.flush (t : Token) : Token := { t with position := t.position.flush }

/-- The marker at the start of its line. -/
def Marker.flush {α : Type} (m : Marker α) : Marker α := { m with position := m.position.flush }

section Trees

variable {α : Type}

mutual

/-- The node with all places at the starts of their lines. -/
def Node.flush : Node α → Node α
  | .text p v => .text p.flush v
  | .expr m => .expr m.flush
  | .block m clauses => .block m.flush (flushClauses clauses)

/-- The nodes with all places at the starts of their lines. -/
def flushBody : List (Node α) → List (Node α)
  | [] => []
  | n :: ns => n.flush :: flushBody ns

/-- The clauses with all places at the starts of their lines. -/
def flushClauses : List (Clause α) → List (Clause α)
  | [] => []
  | .mk p code body :: rest => .mk p.flush code (flushBody body) :: flushClauses rest

end

/-- The template with all places at the starts of their lines. -/
def Template.flush (t : Template α) : Template α := ⟨t.name, flushBody t.body⟩

theorem flushBody_eq_map (ns : List (Node α)) : flushBody ns = ns.map Node.flush := by
  induction ns with
  | nil => rfl
  | cons n ns ih => rw [flushBody, ih, List.map_cons]

theorem flushBody_append (ns ns' : List (Node α)) :
    flushBody (ns ++ ns') = flushBody ns ++ flushBody ns' := by
  simp only [flushBody_eq_map, List.map_append]

theorem flushClauses_append (cs cs' : List (Clause α)) :
    flushClauses (cs ++ cs') = flushClauses cs ++ flushClauses cs' := by
  induction cs with
  | nil => rfl
  | cons c cs ih =>
    obtain ⟨p, code, body⟩ := c
    rw [List.cons_append, flushClauses, flushClauses, ih, List.cons_append]

theorem isEmpty_flushBody (ns : List (Node α)) : (flushBody ns).isEmpty = ns.isEmpty := by
  cases ns <;> rfl

end Trees

/-! ## §2. Parsing. -/

/-- The fault with its token at the start of its line. -/
def ParseFault.flush (f : ParseFault) : ParseFault := ⟨f.fault, f.token.flush⟩

/-- The open block with all places at the starts of their lines. -/
def OpenBlock.flush (o : OpenBlock) : OpenBlock :=
  ⟨o.token.flush, o.opener.flush, flushClauses o.finished, o.position.flush, o.code,
    flushBody o.body⟩

/-- The tree under construction with all places at the starts of their lines. -/
def Builder.flush (b : Builder) : Builder := ⟨flushBody b.root, b.stack.map OpenBlock.flush⟩

theorem OpenBlock.clauses_flush (o : OpenBlock) : o.flush.clauses = flushClauses o.clauses := by
  unfold clauses
  rw [flushClauses_append]
  rfl

theorem OpenBlock.close_flush (o : OpenBlock) : o.flush.close = o.close.flush := by
  unfold close
  rw [clauses_flush]
  rfl

theorem OpenBlock.continueWith_flush (o : OpenBlock) (t : Token) :
    o.flush.continueWith t.flush = (o.continueWith t).flush := by
  unfold continueWith
  rw [clauses_flush]
  rfl

/-- A text joins the one in front of it. -/
theorem appendText_snoc (p q : Position) (v w : String) (ns : List (Node Unit)) :
    appendText p v (ns ++ [.text q w]) = ns ++ [.text q (w ++ v)] := by
  unfold appendText
  rw [List.getLast?_concat, List.dropLast_concat]

theorem appendText_flush (p : Position) (v : String) (ns : List (Node Unit)) :
    flushBody (appendText p v ns) = appendText p.flush v (flushBody ns) := by
  rcases List.eq_nil_or_concat ns with rfl | ⟨ns, n, rfl⟩
  · rfl
  rw [List.concat_eq_append, flushBody_append]
  by_cases htext : ∃ q w, n = .text q w
  · obtain ⟨q, w, rfl⟩ := htext
    rw [appendText_snoc, flushBody_append]
    exact (appendText_snoc p.flush q.flush v w _).symm
  · have hnot : n.isText = false ∧ n.flush.isText = false := by
      cases n with
      | text q w => exact absurd ⟨q, w, rfl⟩ htext
      | expr m => exact ⟨rfl, rfl⟩
      | block m cs => exact ⟨rfl, rfl⟩
    rw [appendText_of_not_endsInText ((endsInText_snoc ns n).trans hnot.1), flushBody_append,
      flushBody_append]
    exact (appendText_of_not_endsInText ((endsInText_snoc _ n.flush).trans hnot.2) _ _).symm

namespace Builder

variable {b : Builder}

theorem mapBody_flush {f g : List (Node Unit) → List (Node Unit)}
    (h : ∀ ns, flushBody (f ns) = g (flushBody ns)) :
    (b.mapBody f).flush = b.flush.mapBody g := by
  obtain ⟨root, stack⟩ := b
  cases stack with
  | nil =>
    show (⟨flushBody (f root), []⟩ : Builder) = _
    rw [h]
    rfl
  | cons top rest =>
    show (⟨flushBody root, { top.flush with body := flushBody (f top.body) } ::
      rest.map OpenBlock.flush⟩ : Builder) = _
    rw [h]
    rfl

theorem append_flush (n : Node Unit) :
    (b.mapBody (· ++ [n])).flush = b.flush.mapBody (· ++ [n.flush]) :=
  mapBody_flush (fun ns => flushBody_append ns [n])

/-- **One marker is taken in without regard to columns.** -/
theorem takeMarker_flush (b : Builder) (kind : MarkerKind) (t : Token) :
    b.flush.takeMarker kind t.flush =
      ((b.takeMarker kind t).map Builder.flush).mapError ParseFault.flush := by
  obtain ⟨root, stack⟩ := b
  have hvalue : t.flush.value = t.value := rfl
  unfold takeMarker
  rw [hvalue]
  split
  · cases stack with
    | nil => rfl
    | cons top rest =>
      show Except.ok ((Builder.mk root rest).flush.mapBody (· ++ [top.flush.close])) = _
      rw [OpenBlock.close_flush, ← append_flush]
      rfl
  · split
    · cases stack with
      | nil => rfl
      | cons top rest =>
        show Except.ok (Builder.mk (flushBody root)
          (top.flush.continueWith t.flush :: rest.map OpenBlock.flush)) = _
        rw [OpenBlock.continueWith_flush]
        rfl
    · dsimp only
      split
      · rfl
      · show Except.ok ((Builder.mk root stack).flush.mapBody
          (· ++ [(Node.expr ⟨t.position, kind, t.value, ()⟩).flush])) = _
        rw [← append_flush]
        rfl

/-- **Tokens are taken in without regard to columns.** -/
theorem takeAll_flush (ts : List Token) (b : Builder) : b.flush.takeAll (ts.map Token.flush) =
    ((b.takeAll ts).map Builder.flush).mapError ParseFault.flush := by
  induction ts generalizing b with
  | nil => rfl
  | cons t ts ih =>
    have hkind : t.flush.kind = t.kind := rfl
    rw [List.map_cons, takeAll, takeAll, hkind]
    cases t.kind with
    | eof => rfl
    | comment => exact ih b
    | data =>
      dsimp only
      rw [← ih, mapBody_flush (appendText_flush t.position t.value)]
      rfl
    | marker kind =>
      dsimp only
      rw [takeMarker_flush]
      cases b.takeMarker kind t with
      | error e => rfl
      | ok b => exact ih b

end Builder

/-- **Tokens are parsed without regard to columns.** -/
theorem parse_flush (name : Option String) (ts : List Token) : parse name (ts.map Token.flush) =
    ((parse name ts).map Template.flush).mapError ParseFault.flush := by
  have hall := Builder.takeAll_flush ts ⟨[], []⟩
  unfold parse parseBody
  change Builder.takeAll ⟨[], []⟩ (ts.map Token.flush) = _ at hall
  rw [hall]
  cases Builder.takeAll ⟨[], []⟩ ts with
  | error e => rfl
  | ok b =>
    obtain ⟨root, stack⟩ := b
    cases stack <;> rfl

/-! ## §3. Resolving indentation. -/

namespace Indent

theorem bodyBaseline?_flush (ns : List (Node Unit)) :
    bodyBaseline? (flushBody ns) = bodyBaseline? ns := by
  cases ns with
  | nil => rfl
  | cons n ns => cases n <;> rfl

theorem blockBaseline_flush (current : String) (cs : List (Clause Unit)) :
    blockBaseline current (flushClauses cs) = blockBaseline current cs := by
  induction cs with
  | nil => rfl
  | cons c cs ih =>
    obtain ⟨p, code, body⟩ := c
    rw [flushClauses, blockBaseline, blockBaseline, isEmpty_flushBody, bodyBaseline?_flush, ih]

theorem indentationAfter_flush (previous : Option (Node Unit)) :
    indentationAfter (previous.map Node.flush) = indentationAfter previous := by
  cases previous with
  | none => rfl
  | some n => cases n <;> rfl

theorem isPipeBlock_flush (n : Option (Node Unit)) :
    isPipeBlock (n.map Node.flush) = isPipeBlock n := by
  cases n with
  | none => rfl
  | some n => cases n <;> rfl

theorem textUnlessEmpty_flush (p : Position) (v : String) :
    textUnlessEmpty p.flush v = flushBody (textUnlessEmpty p v) := by
  unfold textUnlessEmpty
  split <;> rfl

theorem trimLast_flush (ns : List (Node Placement)) :
    trimLast (flushBody ns) = flushBody (trimLast ns) := by
  rcases List.eq_nil_or_concat ns with rfl | ⟨ns, n, rfl⟩
  · rfl
  · have hlast : flushBody (ns ++ [n]) = flushBody ns ++ [n.flush] := flushBody_append ns [n]
    unfold trimLast
    rw [List.concat_eq_append, hlast, List.getLast?_concat, List.getLast?_concat,
      List.dropLast_concat, List.dropLast_concat]
    cases n with
    | text p v =>
      show flushBody ns ++ textUnlessEmpty p.flush (dropLastLineString v) = _
      rw [textUnlessEmpty_flush, ← flushBody_append]
    | expr m => exact hlast.symm
    | block m cs => exact hlast.symm

mutual

/-- A body is resolved without regard to columns. -/
theorem resolveBody_flush (previous : Option (Node Unit)) (ns : List (Node Unit)) :
    resolveBody (previous.map Node.flush) (flushBody ns) = flushBody (resolveBody previous ns) := by
  match ns with
  | [] => rfl
  | n :: rest =>
    have hnext : (flushBody rest).head? = rest.head?.map Node.flush := by cases rest <;> rfl
    rw [flushBody, resolveBody, resolveBody, hnext, isPipeBlock_flush, resolveNode_flush,
      ← Option.map_some, resolveBody_flush, flushBody_append]

/-- A node is resolved without regard to columns. -/
theorem resolveNode_flush (previous : Option (Node Unit)) (beforePipe : Bool) (n : Node Unit) :
    resolveNode (previous.map Node.flush) beforePipe n.flush =
      flushBody (resolveNode previous beforePipe n) := by
  match n with
  | .text p v => exact textUnlessEmpty_flush p _
  | .expr m =>
    have hnone : (previous.map Node.flush).isNone = previous.isNone := by cases previous <;> rfl
    rw [Node.flush, resolveNode, resolveNode, indentationAfter_flush, hnone]
    rfl
  | .block m clauses =>
    have hnone : (previous.map Node.flush).isNone = previous.isNone := by cases previous <;> rfl
    rw [Node.flush, resolveNode, resolveNode, indentationAfter_flush, hnone, blockBaseline_flush,
      resolveClauses_flush, resolveClauses_flush]
    show (if m.kind = .pipe then _ else _) = flushBody (if m.kind = .pipe then _ else _)
    split <;> rfl

/-- Clauses are resolved without regard to columns. -/
theorem resolveClauses_flush (isPipe : Bool) (cs : List (Clause Unit)) :
    resolveClauses isPipe (flushClauses cs) = flushClauses (resolveClauses isPipe cs) := by
  match cs with
  | [] => rfl
  | .mk p code body :: rest =>
    have hbody := resolveBody_flush none body
    rw [Option.map_none] at hbody
    rw [flushClauses, resolveClauses, resolveClauses, hbody, resolveClauses_flush, flushClauses]
    cases isPipe with
    | false => rfl
    | true => rw [if_pos rfl, if_pos rfl, trimLast_flush]

end

/-- **Indentation is resolved without regard to columns.** -/
theorem resolve_flush (t : Template Unit) : resolve t.flush = (resolve t).flush := by
  have hbody := resolveBody_flush none t.body
  unfold resolve Template.flush
  dsimp only
  rw [← hbody]
  rfl

end Indent

/-! ## §4. Building. -/

namespace Program

/-- The refusal with its place at the start of its line. -/
def Refusal.flush : Refusal → Refusal
  | .faulty f p => .faulty f p.flush
  | r => r

/-- Does one step of building what another one does, with refusals flush left? -/
def Build.Flushes {α : Type} (x x' : Build α) : Prop :=
  ∀ q, x' q = (x q).mapError Refusal.flush

namespace Build.Flushes

variable {α β : Type}

theorem pure (a : α) : Flushes (Pure.pure a) (Pure.pure a) := fun _ => rfl

theorem refuse (r : Refusal) : Flushes (refuse r : Build α) (Program.refuse r.flush) := fun _ => rfl

theorem bind {x x' : Build α} {f f' : α → Build β} (hx : Flushes x x')
    (hf : ∀ a, Flushes (f a) (f' a)) : Flushes (x >>= f) (x' >>= f') := by
  intro q
  show (x' q >>= fun p => f' p.1 p.2) = (x q >>= fun p => f p.1 p.2).mapError _
  rw [hx q]
  cases x q with
  | error e => rfl
  | ok p => exact hf p.1 p.2

theorem noteRegions (regions : List Region) :
    Flushes (noteRegions regions) (Program.noteRegions regions) := fun _ => rfl

theorem nextBuffer : Flushes nextBuffer nextBuffer := fun _ => rfl

theorem checkDepth (fits : Descent → Nat → Bool) :
    Flushes (checkDepth fits) (Program.checkDepth fits) := by
  unfold Program.checkDepth
  split
  · exact .refuse _
  · split
    · exact .refuse _
    · exact .pure ()

section Markers

variable (m : Marker Placement)

theorem markerCode : Flushes (markerCode m) (Program.markerCode m.flush) := by
  show Flushes (Program.markerCode m) (Program.markerCode m)
  unfold Program.markerCode
  dsimp only
  split
  · exact .refuse _
  · exact .pure _

theorem noteExtents (extents : Unit → List Extent) :
    Flushes (noteExtents m extents) (Program.noteExtents m.flush extents) := .noteRegions _

theorem silentStmts : Flushes (silentStmts m) (Program.silentStmts m.flush) := by
  unfold Program.silentStmts
  refine .bind (.markerCode m) (fun code => ?_)
  cases parseStatements? code with
  | none => exact .refuse _
  | some ss =>
    exact .bind (.checkDepth _) (fun _ => .bind (.noteExtents m _) (fun _ => .pure _))

theorem outputStmts (buffer : String) :
    Flushes (outputStmts buffer m) (Program.outputStmts buffer m.flush) := by
  unfold Program.outputStmts
  refine .bind (.markerCode m) (fun code => ?_)
  cases parseExpression? code with
  | none => exact .refuse _
  | some e =>
    exact .bind (.checkDepth _) (fun _ => .bind (.noteExtents m _) (fun _ => .pure _))

theorem blockSkeleton (headers : List String) :
    Flushes (blockSkeleton m headers) (Program.blockSkeleton m.flush headers) := by
  unfold Program.blockSkeleton
  cases skeleton headers with
  | ok s => exact .bind (.checkDepth _) (fun _ => .bind (.noteExtents m _) (fun _ => .pure _))
  | error e =>
    cases e with
    | nul => exact .refuse _
    | refused reason => exact .refuse _
    | buried line => exact .refuse _

end Markers

theorem checkBlank (body : List (Node Placement)) :
    Flushes (checkBlank body) (Program.checkBlank (flushBody body)) := by
  have hfind : (flushBody body).find? (!isBlankText ·) =
      (body.find? (!isBlankText ·)).map Node.flush := by
    rw [flushBody_eq_map, List.find?_map]
    refine congrArg (fun f => (body.find? f).map Node.flush) (funext fun n => ?_)
    cases n <;> rfl
  unfold Program.checkBlank
  rw [hfind]
  cases body.find? (!isBlankText ·) with
  | none => exact .pure ()
  | some n =>
    have hplace : n.flush.position = n.position.flush := by cases n <;> rfl
    show Flushes _ (Program.refuse (.faulty .strayBeforeCase n.flush.position))
    rw [hplace]
    exact .refuse _

theorem orPass (p : Position) (body : List Stmt) :
    Flushes (orPass p body) (Program.orPass p.flush body) := by
  show Flushes (Program.orPass p body) (Program.orPass p body)
  unfold Program.orPass
  split
  · exact .bind (.noteRegions _) (fun _ => .pure _)
  · exact .pure _

end Build.Flushes

theorem code_flushClauses (cs : List (Clause Placement)) :
    (flushClauses cs).map Clause.code = cs.map Clause.code := by
  induction cs with
  | nil => rfl
  | cons c cs ih =>
    obtain ⟨p, code, body⟩ := c
    rw [flushClauses, List.map_cons, List.map_cons, ih]
    rfl

mutual

/-- A node is built without regard to columns. -/
theorem nodeStmts_flush (buffer : String) (n : Node Placement) :
    Build.Flushes (nodeStmts buffer n) (nodeStmts buffer n.flush) := by
  match n with
  | .text p v =>
    rw [Node.flush, nodeStmts, nodeStmts]
    split
    · exact .pure _
    · exact .bind (.noteRegions _) (fun _ => .pure _)
  | .expr m =>
    rw [Node.flush, nodeStmts, nodeStmts]
    show Build.Flushes _ (if m.kind = .silent then _ else _)
    split
    · exact .silentStmts m
    · exact .outputStmts m buffer
  | .block m clauses =>
    rw [Node.flush, nodeStmts, nodeStmts, code_flushClauses]
    refine .bind (.blockSkeleton m _) (fun s => ?_)
    show Build.Flushes _ (if m.kind = .pipe then _ else _)
    split
    · exact .bind .nextBuffer (fun target =>
        .bind (clauseBodies_flush target s.slots clauses) (fun _ => .pure _))
    · exact .bind (clauseBodies_flush buffer s.slots clauses) (fun _ => .pure _)

/-- Nodes are built without regard to columns. -/
theorem bodyStmts_flush (buffer : String) (ns : List (Node Placement)) :
    Build.Flushes (bodyStmts buffer ns) (bodyStmts buffer (flushBody ns)) := by
  match ns with
  | [] => exact .pure _
  | n :: rest =>
    rw [flushBody, bodyStmts, bodyStmts]
    exact .bind (nodeStmts_flush buffer n)
      (fun _ => .bind (bodyStmts_flush buffer rest) (fun _ => .pure _))

/-- Clauses are built without regard to columns. -/
theorem clauseBodies_flush (buffer : String) (slots : List (Option Nat))
    (cs : List (Clause Placement)) :
    Build.Flushes (clauseBodies buffer slots cs) (clauseBodies buffer slots (flushClauses cs)) := by
  match cs with
  | [] => exact .pure _
  | .mk p code body :: rest =>
    rw [flushClauses, clauseBodies, clauseBodies]
    cases slots.headD none with
    | none => exact .bind (.checkBlank body) (fun _ => clauseBodies_flush buffer slots.tail rest)
    | some line =>
      exact .bind (bodyStmts_flush buffer body) (fun b => .bind (.orPass p b)
        (fun _ => .bind (clauseBodies_flush buffer slots.tail rest) (fun _ => .pure _)))

end

/-- **The statements of a template, and their lines, do not depend on columns.** -/
theorem templateStmts_flush (t : Template Placement) :
    templateStmts t.flush = (templateStmts t).mapError Refusal.flush := by
  have hbody := bodyStmts_flush outputName t.body {}
  rw [templateStmts_eq, templateStmts_eq]
  change (bodyStmts outputName t.flush.body).run {} = _ at hbody
  rw [hbody]
  change _ = Except.mapError _ _
  unfold StateT.run
  cases (bodyStmts outputName t.body) {} <;> rfl

mutual

theorem nodeNests_flush (n : Nat) (node : Node Unit) :
    nodeNests n node.flush = nodeNests n node := by
  match n, node with
  | 0, .text _ _ => rfl
  | 0, .expr _ => rfl
  | 0, .block _ _ => rfl
  | n + 1, .text _ _ => rfl
  | n + 1, .expr _ => rfl
  | n + 1, .block m cs => exact clausesNest_flush n cs

theorem bodyNests_flush (n : Nat) (ns : List (Node Unit)) :
    bodyNests n (flushBody ns) = bodyNests n ns := by
  match ns with
  | [] => rfl
  | node :: rest => rw [flushBody, bodyNests, bodyNests, nodeNests_flush, bodyNests_flush]

theorem clausesNest_flush (n : Nat) (cs : List (Clause Unit)) :
    clausesNest n (flushClauses cs) = clausesNest n cs := by
  match cs with
  | [] => rfl
  | .mk p code body :: rest =>
    rw [flushClauses, clausesNest, clausesNest, bodyNests_flush, clausesNest_flush]

end

theorem flush_of_refusal? {body : List Stmt} {regions : List Region} {r : Refusal}
    (h : refusal? body regions = some r) : r.flush = r := by
  rcases refusal?_cases h with rfl | ⟨_, rfl⟩ | ⟨_, rfl⟩ | rfl <;> rfl

/-- **A tree is built without regard to columns.** -/
theorem build_flush (t : Template Unit) : build t.flush = (build t).mapError Refusal.flush := by
  have hfits : fitsNesting t.flush.body = fitsNesting t.body := bodyNests_flush maxNesting t.body
  unfold build
  rw [hfits, Indent.resolve_flush, templateStmts_flush]
  split
  · rfl
  · cases templateStmts (Indent.resolve t) with
    | error r => rfl
    | ok p =>
      dsimp only [Except.mapError, bind, Except.bind]
      cases hrefusal : refusal? p.1 p.2 with
      | none => rfl
      | some r =>
        show Except.error r = Except.error r.flush
        rw [flush_of_refusal? hrefusal]

/-! ## §5. Trees that differ in their columns. -/

/-- Two outcomes that look the same are of one kind. -/
theorem outcomes_of_map_eq {ε ε' α α' : Type} {f : α → α'} {g : ε → ε'} {x y : Except ε α}
    (h : (x.map f).mapError g = (y.map f).mapError g) :
    (∃ a b, x = .ok a ∧ y = .ok b ∧ f a = f b)
      ∨ ∃ e e', x = .error e ∧ y = .error e' ∧ g e = g e' := by
  cases x with
  | error e =>
    cases y with
    | error e' => exact Or.inr ⟨e, e', rfl, rfl, Except.error.inj h⟩
    | ok b => cases h
  | ok a =>
    cases y with
    | error e' => cases h
    | ok b => exact Or.inl ⟨a, b, rfl, rfl, Except.ok.inj h⟩

/-- Refusals that differ in their columns are the same, or name the same fault on the same line. -/
theorem Refusal.eq_or_of_flush_eq {r r' : Refusal} (h : r.flush = r'.flush) :
    r = r' ∨ ∃ f p p', r = .faulty f p ∧ r' = .faulty f p' ∧ p.line = p'.line := by
  have hplain : ∀ {r : Refusal}, (∀ f p, r ≠ .faulty f p) → r.flush = r := by
    intro r hr
    cases r with
    | faulty f p => exact absurd rfl (hr f p)
    | _ => rfl
  by_cases hr : ∃ f p, r = .faulty f p
  · obtain ⟨f, p, rfl⟩ := hr
    cases r' with
    | faulty f' p' =>
      obtain ⟨rfl, hp⟩ := Refusal.faulty.inj h
      exact Or.inr ⟨f, p, p', rfl, rfl, (Position.mk.inj hp).1⟩
    | _ => cases h
  · rw [hplain (fun f p heq => hr ⟨f, p, heq⟩)] at h
    by_cases hr' : ∃ f p, r' = .faulty f p
    · obtain ⟨f, p, rfl⟩ := hr'
      exact absurd ⟨f, p.flush, h⟩ hr
    · rw [hplain (fun f p heq => hr' ⟨f, p, heq⟩)] at h
      exact Or.inl h

/-- **Trees that differ in their columns are built alike**: both have one program, whose code stands
on the same lines, or both are refused for the same reason on the same line. -/
theorem build_of_flush_eq {t t' : Template Unit} (h : t.flush = t'.flush) :
    (∃ program regions, (build t = .ok program ∧ build t' = .ok program)
        ∧ templateStmts (Indent.resolve t) = .ok (program, regions)
        ∧ templateStmts (Indent.resolve t') = .ok (program, regions))
      ∨ ∃ r r', build t = .error r ∧ build t' = .error r' ∧ r.flush = r'.flush := by
  have hbuild : ((build t).map id).mapError Refusal.flush =
      ((build t').map id).mapError Refusal.flush := by
    rw [Except.map_id]
    exact (build_flush t).symm.trans ((congrArg build h).trans (build_flush t'))
  have hstmts : ((templateStmts (Indent.resolve t)).map id).mapError Refusal.flush =
      ((templateStmts (Indent.resolve t')).map id).mapError Refusal.flush := by
    have hresolve : (Indent.resolve t).flush = (Indent.resolve t').flush := by
      rw [← Indent.resolve_flush, ← Indent.resolve_flush, h]
    rw [Except.map_id]
    exact (templateStmts_flush _).symm.trans
      ((congrArg templateStmts hresolve).trans (templateStmts_flush _))
  rcases outcomes_of_map_eq hbuild with ⟨program, _, ht, ht', rfl⟩ | hrefused
  · obtain ⟨-, regions, hok, -⟩ := build_ok_iff.1 ht
    rcases outcomes_of_map_eq hstmts with ⟨p, _, hp, hp', rfl⟩ | ⟨r, -, hr, -⟩
    · obtain rfl := Except.ok.inj (hok.symm.trans hp)
      exact Or.inl ⟨program, regions, ⟨ht, ht'⟩, hok, hp'⟩
    · rw [hok] at hr
      cases hr
  · exact Or.inr hrefused

end Program

end Inlay
