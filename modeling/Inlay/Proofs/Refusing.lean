/-
  Inlay.Proofs.Refusing
  ────────────────────────────────
  **WHAT CAN END COMPILING.**

  A source that is not compiled is reported: its tokens or its blocks are out
  of order, or the code of a marker is.  But some sources are refused without
  a report:

      the `pass` of a header is not alone in its body
      blocks, or the code of a marker, nest too deep
      all parts are in order, and the program as a whole is refused

  There is nothing else as long as the source is free of the character zero,
  because the code of markers and of headers is made of characters of the
  source: through tokens, trees and the assembly of headers.
-/
import Inlay.Proofs.Grammar
import Inlay.Proofs.Heads
import Inlay.Store

namespace Inlay

open Inlay.Code Inlay.Diagnostic Inlay.Program Inlay.Text

/-! ## §1. Characters of code. -/

/-- Is a text free of the character zero? -/
def LacksNul (s : String) : Prop := '\x00' ∉ s.toList

instance (s : String) : Decidable (LacksNul s) := inferInstanceAs (Decidable (¬_))

theorem LacksNul.append {s t : String} (hs : LacksNul s) (ht : LacksNul t) :
    LacksNul (s ++ t) := by
  unfold LacksNul
  rw [String.toList_append, List.mem_append]
  exact not_or.2 ⟨hs, ht⟩

/-- Normal form adds newlines alone. -/
theorem LacksNul.normalize {code : String} (h : LacksNul code) :
    LacksNul (Header.normalize code) := by
  unfold LacksNul Header.normalize
  rw [String.toList_ofList]
  intro hc
  unfold dedent at hc
  rcases mem_joinNewlines (mem_strip hc) with hc | ⟨l, hl, hc⟩
  · exact absurd hc (by decide)
  · obtain ⟨line, hline, rfl⟩ := List.mem_map.1 hl
    split at hc
    · exact absurd hc List.not_mem_nil
    · exact h (mem_of_mem_splitNewlines hline (List.mem_of_mem_drop hc))

theorem lacksNul_headerLines {header : String} (h : LacksNul header) :
    ∀ line ∈ headerLines header, LacksNul line := by
  intro line hline
  unfold headerLines at hline
  split at hline
  · obtain rfl := List.mem_singleton.1 hline
    decide
  · unfold linesOf at hline
    obtain ⟨l, hl, rfl⟩ := List.mem_map.1 hline
    unfold LacksNul
    rw [String.toList_ofList]
    exact fun hc => h.normalize (mem_of_mem_breakLines hl hc)

theorem lacksNul_add {a : Assembly} (ha : ∀ line ∈ a.lines, LacksNul line) {header : String}
    (h : LacksNul header) : ∀ line ∈ (a.add header).lines, LacksNul line := by
  have hlines := lacksNul_headerLines h
  have hspaces : LacksNul "    " ∧ LacksNul ("    " ++ "pass")
      ∧ LacksNul ("        " ++ "pass") := by decide
  unfold Assembly.add
  split
  · exact ha
  · rename_i first rest heq
    rw [heq] at hlines
    obtain ⟨hfirst, hrest⟩ := List.forall_mem_cons.1 hlines
    split
    · refine List.forall_mem_append.2 ⟨ha, List.forall_mem_cons.2 ⟨hspaces.1.append hfirst, ?_⟩⟩
      exact List.forall_mem_append.2 ⟨hrest, List.forall_mem_singleton.2 hspaces.2.2⟩
    · split
      · refine List.forall_mem_append.2 ⟨ha, List.forall_mem_cons.2 ⟨hfirst, ?_⟩⟩
        exact List.forall_mem_append.2 ⟨hrest, List.forall_mem_singleton.2 hspaces.2.1⟩
      · exact List.forall_mem_append.2 ⟨ha, hlines⟩

theorem lacksNul_foldl_add {headers : List String} (h : ∀ code ∈ headers, LacksNul code)
    {a : Assembly} (ha : ∀ line ∈ a.lines, LacksNul line) :
    ∀ line ∈ (headers.foldl Assembly.add a).lines, LacksNul line := by
  induction headers generalizing a with
  | nil => exact ha
  | cons header headers ih =>
    obtain ⟨hheader, hheaders⟩ := List.forall_mem_cons.1 h
    rw [List.foldl_cons]
    exact ih hheaders (lacksNul_add ha hheader)

theorem lacksNul_intercalate {lines : List String} (h : ∀ line ∈ lines, LacksNul line) :
    LacksNul ("\n".intercalate lines) := by
  unfold LacksNul
  rw [String.toList_intercalate]
  induction lines with
  | nil => exact List.not_mem_nil
  | cons l ls ih =>
    obtain ⟨hl, hls⟩ := List.forall_mem_cons.1 h
    cases ls with
    | nil => simpa [List.intercalate, LacksNul] using hl
    | cons m ms =>
      have hrest := ih hls
      rw [List.map_cons] at hrest
      rw [List.map_cons, List.map_cons, List.intercalate_cons_cons]
      simp only [List.mem_append, not_or]
      exact ⟨⟨hl, by decide⟩, hrest⟩

/-- Headers without the character zero are not refused for it. -/
theorem skeleton_ne_nul {headers : List String} (h : ∀ code ∈ headers, LacksNul code) :
    skeleton headers ≠ .error .nul := by
  have hlines := lacksNul_foldl_add h (a := ⟨[], []⟩) (fun _ hline => absurd hline List.not_mem_nil)
  have hcode : ¬("\n".intercalate (assembleHeaders headers).lines).toList.contains '\x00' = true :=
    fun hmem => lacksNul_intercalate hlines (List.contains_iff_mem.1 hmem)
  unfold skeleton
  dsimp only
  rw [if_neg hcode]
  intro heq
  split at heq
  · cases heq
  · split at heq <;> cases heq
  · cases heq

/-! ## §2. Where code comes from. -/

/-- The code of a token is a part of a piece. -/
theorem code_of_tokensOf {ps : List Piece} {start here : Position} {text : List Char} {t : Token}
    (ht : t ∈ tokensOf start here text ps) {kind : MarkerKind} (hkind : t.kind = .marker kind) :
    t.value.toList <:+: ps.flatMap Piece.spelling := by
  have hdata : ∀ {start : Position} {text : List Char}, t ∉ dataToken start text := by
    intro start text hmem
    unfold dataToken at hmem
    split at hmem
    · exact absurd hmem List.not_mem_nil
    · obtain rfl := List.mem_singleton.1 hmem
      cases hkind
  induction ps generalizing start here text with
  | nil =>
    rcases List.mem_append.1 ht with ht | ht
    · exact absurd ht hdata
    · obtain rfl := List.mem_singleton.1 ht
      cases hkind
  | cons p ps ih =>
    rw [List.flatMap_cons]
    cases p with
    | char c => exact (ih ht).trans (List.suffix_append _ _).isInfix
    | escape => exact (ih ht).trans (List.suffix_append _ _).isInfix
    | marker kind' raw =>
      rcases List.mem_append.1 ht with ht | ht
      · exact absurd ht hdata
      rcases List.mem_cons.1 ht with rfl | ht
      · rw [String.toList_ofList]
        have hraw : raw <:+: (Piece.marker kind' raw).spelling :=
          ⟨'<' :: '%' :: kind'.sigil, ['%', '>'], by simp [Piece.spelling]⟩
        exact (infix_trimSpacing raw).trans (hraw.trans (List.prefix_append _ _).isInfix)
      · exact (ih ht).trans (List.suffix_append _ _).isInfix

/-- **The code of every marker and header of a tree is a part of its source.** -/
theorem code_of_treeOfSource {o : Origin} {source : String} {t : Template Unit}
    (h : treeOfSource o source = .ok t) :
    ∀ head ∈ bodyHeads t.body, head.2.toList <:+: source.toList := by
  obtain ⟨tokens, htokens, hparse⟩ := treeOfSource_ok_iff.1 h
  refine heads_of_parse (P := fun _ code => code.toList <:+: source.toList)
    (fun t ht kind hkind => ?_) (fun _ _ _ => List.nil_infix) hparse
  obtain ⟨rfl, hspells⟩ := pieces_of_tokenize htokens
  rw [hspells]
  exact code_of_tokensOf ht hkind

/-! ## §3. Refusals of parts. -/

namespace Program

/-- Is it a part with these heads that is refused?  The code of a head is at fault, or holds the
character zero, or the `pass` of a header has company, or the part nests too deep. -/
inductive Refusal.IsOfPart (heads : List (Position × String)) : Refusal → Prop where
  | faulty {head : Position × String} (h : head ∈ heads) (f : Fault) :
      IsOfPart heads (.faulty f head.1)
  | nul {head : Position × String} (h : head ∈ heads) (hnul : ¬LacksNul head.2) :
      IsOfPart heads .nul
  | buried (line : Nat) : IsOfPart heads (.buried line)
  | tooDeep (whenRead : Bool) : IsOfPart heads (.tooDeep whenRead)

/-- A part of more heads has what is refused of fewer. -/
theorem Refusal.IsOfPart.mono {heads heads' : List (Position × String)} {r : Refusal}
    (h : r.IsOfPart heads) (hsub : heads ⊆ heads') : r.IsOfPart heads' := by
  cases h with
  | faulty h f => exact .faulty (hsub h) f
  | nul h hnul => exact .nul (hsub h) hnul
  | buried line => exact .buried line
  | tooDeep whenRead => exact .tooDeep whenRead

/-- Does a step of building refuse nothing but parts with these heads? -/
def Build.RefusesParts {α : Type} (heads : List (Position × String)) (x : Build α) : Prop :=
  ∀ q r, x q = .error r → r.IsOfPart heads

namespace Build.RefusesParts

variable {α β : Type} {heads heads' : List (Position × String)}

theorem mono {x : Build α} (h : RefusesParts heads x) (hsub : heads ⊆ heads') :
    RefusesParts heads' x := fun q r hr => (h q r hr).mono hsub

theorem pure (a : α) : RefusesParts heads (Pure.pure a : Build α) := fun _ _ h => (by cases h)

theorem refuse {r : Refusal} (h : r.IsOfPart heads) : RefusesParts heads (refuse r : Build α) := by
  intro q r' hr
  obtain rfl := Except.error.inj hr
  exact h

theorem bind {x : Build α} {f : α → Build β} (hx : RefusesParts heads x)
    (hf : ∀ a, RefusesParts heads (f a)) : RefusesParts heads (x >>= f) := by
  intro q r h
  change (x q >>= fun p => f p.1 p.2) = _ at h
  cases hq : x q with
  | error e =>
    rw [hq] at h
    obtain rfl := Except.error.inj h
    exact hx q e hq
  | ok p =>
    rw [hq] at h
    exact hf p.1 p.2 r h

theorem noteRegions (regions : List Region) : RefusesParts heads (noteRegions regions) :=
  fun _ _ h => (by cases h)

theorem nextBuffer : RefusesParts heads nextBuffer := fun _ _ h => (by cases h)

theorem checkDepth (fits : Descent → Nat → Bool) : RefusesParts heads (checkDepth fits) := by
  unfold Program.checkDepth
  split
  · exact .refuse (.tooDeep true)
  · split
    · exact .refuse (.tooDeep false)
    · exact .pure ()

section Markers

variable {m : Marker Placement}

/-- The code of a marker is at fault, and the marker is one of the heads. -/
theorem invalidCode (h : (m.position, m.code) ∈ heads) (reason : CodeFault) :
    RefusesParts heads (Program.refuse (Program.invalidCode m reason) : Build α) :=
  .refuse (.faulty h _)

theorem markerCode (h : (m.position, m.code) ∈ heads) : RefusesParts heads (markerCode m) := by
  unfold Program.markerCode
  dsimp only
  split
  · rename_i hmem
    exact .refuse (.nul h (fun hlacks => hlacks.normalize (List.contains_iff_mem.1 hmem)))
  · exact .pure _

theorem noteExtents (m : Marker Placement) (extents : Unit → List Extent) :
    RefusesParts heads (noteExtents m extents) := .noteRegions _

theorem silentStmts (h : (m.position, m.code) ∈ heads) : RefusesParts heads (silentStmts m) := by
  unfold Program.silentStmts
  refine .bind (.markerCode h) (fun code => ?_)
  cases parseStatements? code with
  | none => exact .invalidCode h _
  | some ss => exact .bind (.checkDepth _) (fun _ => .bind (.noteExtents m _) (fun _ => .pure _))

theorem outputStmts (h : (m.position, m.code) ∈ heads) (buffer : String) :
    RefusesParts heads (outputStmts buffer m) := by
  unfold Program.outputStmts
  refine .bind (.markerCode h) (fun code => ?_)
  cases parseExpression? code with
  | none => exact .invalidCode h _
  | some e => exact .bind (.checkDepth _) (fun _ => .bind (.noteExtents m _) (fun _ => .pure _))

/-- The headers of a block are refused for the character zero if one of them has it. -/
theorem blockSkeleton (h : (m.position, m.code) ∈ heads) {headers : List String}
    (hheaders : ∀ code ∈ headers, ∃ p, (p, code) ∈ heads) :
    RefusesParts heads (blockSkeleton m headers) := by
  unfold Program.blockSkeleton
  cases hskeleton : skeleton headers with
  | ok s => exact .bind (.checkDepth _) (fun _ => .bind (.noteExtents m _) (fun _ => .pure _))
  | error e =>
    cases e with
    | refused reason => exact .invalidCode h reason
    | buried line => exact .refuse (.buried line)
    | nul =>
      have hsome : ∃ code ∈ headers, ¬LacksNul code := by
        by_contra hnone
        push Not at hnone
        exact skeleton_ne_nul hnone hskeleton
      obtain ⟨code, hcode, hnul⟩ := hsome
      obtain ⟨p, hp⟩ := hheaders code hcode
      exact .refuse (.nul hp hnul)

end Markers

/-- What stands between a header without body and its first clause is one of the heads. -/
theorem checkBlank (body : List (Node Placement)) :
    RefusesParts (bodyHeads body) (checkBlank body) := by
  unfold Program.checkBlank
  split
  · exact .pure ()
  · rename_i node hfind
    obtain ⟨code, hhead⟩ := exists_mem_bodyHeads (List.mem_of_find?_eq_some hfind)
    exact .refuse (.faulty hhead _)

theorem orPass (p : Position) (body : List Stmt) : RefusesParts heads (orPass p body) := by
  unfold Program.orPass
  split
  · exact .bind (.noteRegions _) (fun _ => .pure _)
  · exact .pure _

end Build.RefusesParts

mutual

theorem nodeStmts_refusesParts (buffer : String) (n : Node Placement) :
    Build.RefusesParts n.heads (nodeStmts buffer n) := by
  match n with
  | .text p v =>
    rw [nodeStmts]
    split
    · exact .pure _
    · exact .bind (.noteRegions _) (fun _ => .pure _)
  | .expr m =>
    have hcode : (m.position, m.code) ∈ (Node.expr m).heads := List.mem_cons_self
    rw [nodeStmts]
    split
    · exact .silentStmts hcode
    · exact .outputStmts hcode buffer
  | .block m clauses =>
    rw [nodeStmts, Node.heads]
    refine .bind (.blockSkeleton List.mem_cons_self (fun code hcode =>
      (mem_clauseHeads hcode).imp (fun _ hp => List.mem_cons_of_mem _ hp))) (fun s => ?_)
    have hbodies := fun buffer => (clauseBodies_refusesParts buffer s.slots clauses).mono
      (List.subset_cons_self (m.position, m.code) _)
    split
    · exact .bind .nextBuffer (fun target => .bind (hbodies target) (fun _ => .pure _))
    · exact .bind (hbodies buffer) (fun _ => .pure _)

theorem bodyStmts_refusesParts (buffer : String) (ns : List (Node Placement)) :
    Build.RefusesParts (bodyHeads ns) (bodyStmts buffer ns) := by
  match ns with
  | [] => exact .pure _
  | n :: rest =>
    rw [bodyStmts, bodyHeads]
    exact .bind ((nodeStmts_refusesParts buffer n).mono (List.subset_append_left _ _))
      (fun _ => .bind ((bodyStmts_refusesParts buffer rest).mono (List.subset_append_right _ _))
        (fun _ => .pure _))

theorem clauseBodies_refusesParts (buffer : String) (slots : List (Option Nat))
    (cs : List (Clause Placement)) :
    Build.RefusesParts (clauseHeads cs) (clauseBodies buffer slots cs) := by
  match cs with
  | [] => exact .pure _
  | .mk p code body :: rest =>
    rw [clauseBodies, clauseHeads]
    have hbody : bodyHeads body ⊆ (p, code) :: (bodyHeads body ++ clauseHeads rest) :=
      List.subset_cons_of_subset _ (List.subset_append_left _ _)
    have hrest := (clauseBodies_refusesParts buffer slots.tail rest).mono
      (List.subset_cons_of_subset (p, code) (List.subset_append_right (bodyHeads body) _))
    split
    · exact .bind ((Build.RefusesParts.checkBlank body).mono hbody) (fun _ => hrest)
    · exact .bind ((bodyStmts_refusesParts buffer body).mono hbody) (fun b => .bind (.orPass p b)
        (fun _ => .bind hrest (fun _ => .pure _)))

end

/-- **What has no program**: a tree with a part that is refused, or one whose parts are in order and
make up a program that is refused as a whole. -/
theorem refusal_of_build {t : Template Unit} {r : Refusal} (h : build t = .error r) :
    r.IsOfPart (bodyHeads t.body) ∨ ∃ program regions,
      templateStmts (Indent.resolve t) = .ok (program, regions)
        ∧ refusal? program regions = some r := by
  have hparts := (bodyStmts_refusesParts outputName (Indent.resolve t).body).mono
    (Indent.heads_resolveBody none t.body)
  unfold build at h
  split at h
  · obtain rfl := Except.error.inj h
    exact Or.inl (.tooDeep false)
  · cases hstmts : templateStmts (Indent.resolve t) with
    | error r' =>
      rw [hstmts] at h
      obtain rfl := Except.error.inj h
      refine Or.inl ?_
      rw [templateStmts_eq] at hstmts
      split at hstmts
      · rename_i r hbody
        obtain rfl := Except.error.inj hstmts
        exact hparts {} r hbody
      · cases hstmts
    | ok p =>
      rw [hstmts] at h
      dsimp only [bind, Except.bind] at h
      cases hrefusal : refusal? p.1 p.2 with
      | none =>
        rw [hrefusal] at h
        cases h
      | some r' =>
        rw [hrefusal] at h
        obtain rfl := Except.error.inj h
        exact Or.inr ⟨p.1, p.2, rfl, hrefusal⟩

end Program

/-! ## §4. Outcomes. -/

/-- What can keep a source from being compiled. -/
inductive Obstacle (o : Origin) (source : String) : CompileFault → Prop where
  /-- There is a report. -/
  | reported (r : Malformed) : Obstacle o source (.reported r)
  /-- The `pass` of a header is not alone in its body. -/
  | buried (line : Nat) : Obstacle o source (.refused (.buried line))
  /-- Blocks, or the code of a marker, nest too deep. -/
  | tooDeep (whenRead : Bool) : Obstacle o source (.refused (.tooDeep whenRead))
  /-- The parts are in order, and the program is refused as a whole. -/
  | whole {t : Template Unit} {program : List Stmt} {regions : List Region} {r : Refusal}
      (htree : treeOfSource o source = .ok t)
      (hstmts : templateStmts (Indent.resolve t) = .ok (program, regions))
      (hrefusal : refusal? program regions = some r) : Obstacle o source (.refused r)

/-- **What can end compiling**, as long as the source is free of the character zero. -/
theorem obstacle_of_programOfSource {o : Origin} {source : String} {f : CompileFault}
    (hsource : LacksNul source) (h : programOfSource o source = .error f) :
    Obstacle o source f := by
  cases htree : treeOfSource o source with
  | error r =>
    rw [programOfSource_of_malformed htree] at h
    obtain rfl := Except.error.inj h
    exact .reported r
  | ok t =>
    rw [programOfSource_of_tree htree, programOfTree] at h
    cases hbuild : build t with
    | ok program =>
      rw [hbuild] at h
      cases h
    | error r =>
      rw [hbuild] at h
      obtain rfl := Except.error.inj h
      have hheads : ∀ head ∈ bodyHeads t.body, LacksNul head.2 := fun head hhead hnul =>
        hsource ((code_of_treeOfSource htree head hhead).subset hnul)
      rcases refusal_of_build hbuild with hpart | ⟨program, regions, hstmts, hrefusal⟩
      · cases hpart with
        | faulty hhead f => exact .reported _
        | nul hhead hnul => exact absurd (hheads _ hhead) hnul
        | buried line => exact .buried line
        | tooDeep whenRead => exact .tooDeep whenRead
      · have hrefused : r.toCompileFault o = .refused r := by
          rcases refusal?_cases hrefusal with rfl | ⟨_, rfl⟩ | ⟨_, rfl⟩ | rfl <;> rfl
        rw [hrefused]
        exact .whole htree hstmts hrefusal

/-- Errors belong to the syntax of templates exactly if there is a report. -/
theorem isA_compileExc (f : CompileFault) :
    (compileExc f).cls.isA .templateSyntax = true ↔ ∃ r, f = .reported r := by
  cases f with
  | reported r =>
    refine iff_of_true ?_ ⟨r, rfl⟩
    obtain ⟨fault, anchor, line, column, name, filename, source⟩ := r
    cases anchor <;> rfl
  | refused r =>
    refine iff_of_false ?_ (fun ⟨_, h⟩ => by cases h)
    cases r <;> exact Bool.false_ne_true

/-- What is compiled is the front of the source. -/
theorem prepared_isPrefix (env : Environment) (source : String) :
    (env.prepared source).toList <+: source.toList := by
  unfold Environment.prepared
  split
  · exact List.prefix_rfl
  · unfold Indent.dropLastLineString
    rw [String.toList_ofList]
    exact Indent.dropLastLine_isPrefix _

theorem lacksNul_prepared {source : String} (h : LacksNul source) (env : Environment) :
    LacksNul (env.prepared source) :=
  fun hc => h ((prepared_isPrefix env source).subset hc)

/-- **Sources that are not compiled.**  A source without the character zero is compiled, or there is
an obstacle.  It is a syntax error of templates exactly if it is reported; a header whose `pass` is
buried, what nests too deep, and a program that is refused as a whole are none. -/
theorem compile_outcome (env : Environment) {source : String} (hsource : LacksNul source)
    (name filename : Option String) :
    (∃ t, env.compile source name filename = .ok t) ∨ ∃ f,
      env.compile source name filename = .error (compileExc f)
        ∧ Obstacle ⟨name, filename, some (env.prepared source)⟩ (env.prepared source) f
        ∧ ((compileExc f).cls.isA .templateSyntax = true ↔ ∃ r, f = .reported r) := by
  have hprepared := lacksNul_prepared hsource env
  unfold Environment.compile
  dsimp only
  cases hprogram : programOfSource ⟨name, filename, some (env.prepared source)⟩
      (env.prepared source) with
  | ok program => exact Or.inl ⟨_, rfl⟩
  | error f =>
    exact Or.inr ⟨f, rfl, obstacle_of_programOfSource hprepared hprogram, isA_compileExc f⟩

/-- Why a source is refused without a report, if it is. -/
def refusedAs? (source : String) : Option Refusal :=
  match programOfSource ⟨none, none, some source⟩ source with
  | .error (.refused r) => some r
  | _ => none

theorem compile_refused {source : String} {r : Refusal} (h : refusedAs? source = some r) :
    ({} : Environment).compile source none none = .error (compileExc (.refused r)) := by
  have hprepared : ({} : Environment).prepared source = source := if_pos rfl
  unfold refusedAs? at h
  unfold Environment.compile
  rw [hprepared]
  dsimp only
  split at h
  · rename_i r' hprogram
    obtain rfl := Option.some.inj h
    rw [hprogram]
  · cases h

/-- Does a source without the character zero end compiling without a syntax error of templates? -/
def IsUnreported (source : String) : Prop :=
  LacksNul source ∧ ∃ f, ({} : Environment).compile source none none = .error (compileExc f)
    ∧ (compileExc f).cls.isA .templateSyntax = false

/-- A loop that is left from outside of it, and two headers that make up a text between them: they
are not compiled, and this is no syntax error of templates. -/
theorem compile_outcome_unreported : IsUnreported "<% break %>"
    ∧ IsUnreported "<% if \"\"\": %>a<% else \"\"\": %>b<% end %>" := by
  have hunreported : ∀ source, LacksNul source → (refusedAs? source).isSome = true →
      IsUnreported source := by
    intro source hsource hsome
    obtain ⟨r, hr⟩ := Option.isSome_iff_exists.1 hsome
    have hcompile := compile_refused hr
    refine ⟨hsource, ?_⟩
    rcases compile_outcome {} hsource none none with ⟨t, ht⟩ | ⟨f, hf, -, -⟩
    · cases hcompile.symm.trans ht
    · have hrefused : (compileExc f).cls = (compileExc (.refused r)).cls :=
        congrArg Exc.cls (Except.error.inj (hf.symm.trans hcompile))
      refine ⟨f, hf, Bool.eq_false_iff.2 (fun hsyntax => ?_)⟩
      rw [hrefused] at hsyntax
      obtain ⟨_, hrefusal⟩ := (isA_compileExc (.refused r)).1 hsyntax
      cases hrefusal
  exact ⟨hunreported _ (by decide) (by decide +kernel),
    hunreported _ (by decide) (by decide +kernel)⟩

end Inlay
