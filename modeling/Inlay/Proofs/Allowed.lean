/-
  Inlay.Proofs.Allowed
  ────────────────────────────────
  **PROGRAMS THAT NOTHING REFUSES.**

  A program is refused as a whole for its lines, for its names, or because a
  part of it stands where it may not.  Nothing of this happens to programs
  that are put together from allowed parts:

      an expression — a constant, a name, and what calls and attributes make
                      of allowed expressions
      a statement   — with so many loops inside each other at most

  All the statements that a program has of its own are allowed.
-/
import Inlay.Proofs.Ending
import Inlay.Proofs.Places

namespace Inlay

open Inlay.Code Inlay.Program

/-! ## §1. Mentions. -/

/-- Is a name used, or bound in a way that needs no declaration? -/
def Code.Mention.IsOrdinary : Mention → Prop
  | .use _ => True
  | .bind n => n ≠ "__debug__"
  | _ => False

theorem declarationsLegal_ordinary {ms : List Mention} (h : ∀ m ∈ ms, m.IsOrdinary) (isModule : Bool)
    (around : List (List String)) (seen declared : List String) :
    declarationsLegal isModule around seen declared ms = true := by
  induction ms generalizing seen with
  | nil => rfl
  | cons m ms ih =>
    obtain ⟨hm, hms⟩ := List.forall_mem_cons.1 h
    cases m with
    | use n => exact ih hms (n :: seen)
    | bind n =>
      have hn : n ≠ "__debug__" := hm
      rw [declarationsLegal, ih hms (n :: seen), Bool.and_true]
      exact decide_eq_true hn
    | note n => exact hm.elim
    | imports n => exact hm.elim
    | global n => exact hm.elim
    | nonlocal n => exact hm.elim

theorem scopeLegal_ordinary {ms : List Mention} (h : ∀ m ∈ ms, m.IsOrdinary) (isModule : Bool)
    (around : List (List String)) (params : List String) :
    scopeLegal isModule around params ms = true := by
  have hglobal : declaredGlobal ms = [] := by
    unfold declaredGlobal
    rw [List.filterMap_eq_nil_iff]
    intro m hm
    cases m <;> first | rfl | exact (h _ hm).elim
  unfold scopeLegal declaredApart
  rw [declarationsLegal_ordinary h, hglobal]
  rfl

/-! ## §2. Expressions. -/

/-- May an expression stand anywhere?  It declares nothing, and all its names are names. -/
structure Code.Expr.IsAllowed (e : Expr) : Prop where
  legal : ∀ p, e.legal p = true
  mentions : ∀ m ∈ e.mentions false, m.IsOrdinary
  named : ∀ fuel, e.nameFault? fuel = none

theorem nameFault?_of_parts {e : Expr} (hown : e.ownName?.bind nameFault? = none)
    (hparts : ∀ p ∈ e.parts, ∀ fuel, p.expr.nameFault? fuel = none) (fuel : Nat) :
    e.nameFault? fuel = none := by
  cases fuel with
  | zero => rfl
  | succ n =>
    rw [Expr.nameFault?, hown, Option.none_or, List.findSome?_eq_none_iff]
    exact fun p hp => hparts p hp n

theorem nameFault?_eq_none {name : String} (h : name ∉ constantNames) : nameFault? name = none := by
  unfold nameFault?
  rw [if_neg]
  rwa [List.contains_iff_mem]

namespace Code.Expr.IsAllowed

theorem not_starred {e : Expr} (h : e.IsAllowed) (inner : Expr) : e ≠ .starred inner := by
  rintro rfl
  have hlegal := h.legal {}
  rw [Expr.legal_starred] at hlegal
  exact Bool.false_ne_true hlegal

theorem elementsLegal {es : List Expr} (h : ∀ e ∈ es, e.IsAllowed) (p : Place) :
    elementsLegal p es = true := by
  induction es with
  | nil => rfl
  | cons e es ih =>
    obtain ⟨he, hes⟩ := List.forall_mem_cons.1 h
    rw [Code.elementsLegal, he.legal p, ih hes]
    · rfl
    · exact he.not_starred

theorem exprMentions {es : List Expr} (h : ∀ e ∈ es, e.IsAllowed) :
    ∀ m ∈ exprMentions false es, m.IsOrdinary := by
  induction es with
  | nil => simp
  | cons e es ih =>
    obtain ⟨he, hes⟩ := List.forall_mem_cons.1 h
    intro m hm
    rw [exprMentions_cons, List.mem_append] at hm
    exact hm.elim (he.mentions m) (ih hes m)

theorem constant (c : Constant) : (Expr.constant c).IsAllowed where
  legal := fun p => Expr.legal_constant p c
  mentions := by simp
  named := nameFault?_of_parts rfl (by simp [Expr.parts])

theorem name {id : String} (h : id ∉ constantNames) : (Expr.name id).IsAllowed where
  legal := fun p => Expr.legal_name p id
  mentions := by simp [Mention.IsOrdinary]
  named := nameFault?_of_parts (nameFault?_eq_none h) (by simp [Expr.parts])

theorem negate {e : Expr} (h : e.IsAllowed) : (Expr.unary .negate e).IsAllowed where
  legal := fun p => by rw [Expr.legal, h.legal p]
  mentions := by
    rw [Expr.mentions]
    exact h.mentions
  named := nameFault?_of_parts rfl (by
    rw [Expr.parts, direct, List.map_singleton, List.forall_mem_singleton]
    exact h.named)

theorem member {e : Expr} (h : e.IsAllowed) (name : String) : (Expr.attribute e name).IsAllowed where
  legal := fun p => by rw [Expr.legal, h.legal p]
  mentions := by
    rw [Expr.mentions]
    exact h.mentions
  named := nameFault?_of_parts rfl (by
    rw [Expr.parts, direct, List.map_singleton, List.forall_mem_singleton]
    exact h.named)

theorem list {es : List Expr} (h : ∀ e ∈ es, e.IsAllowed) : (Expr.list es).IsAllowed where
  legal := fun p => by rw [Expr.legal, elementsLegal h p]
  mentions := by
    rw [Expr.mentions]
    exact exprMentions h
  named := nameFault?_of_parts rfl (by
    rw [Expr.parts, detoured, List.forall_mem_map]
    exact fun e he => (h e he).named)

theorem callOf {f : Expr} {args : List Expr} (hf : f.IsAllowed) (hargs : ∀ e ∈ args, e.IsAllowed) :
    (callOf f args).IsAllowed where
  legal := fun p => by
    rw [Program.callOf, Expr.legal, hf.legal p, elementsLegal hargs p]
    rfl
  mentions := by
    intro m hm
    rw [Program.callOf, Expr.mentions, keywordMentions, List.append_nil, List.mem_append] at hm
    exact hm.elim (hf.mentions m) (exprMentions hargs m)
  named := nameFault?_of_parts rfl (by
    have hparts : (Program.callOf f args).parts = direct (f :: args) := by
      rw [Program.callOf, Expr.parts]
      exact List.append_nil _
    rw [hparts, direct, List.forall_mem_map, List.forall_mem_cons]
    exact ⟨hf.named, fun e he => (hargs e he).named⟩)

end Code.Expr.IsAllowed

/-! ## §3. Statements. -/

/-- May a statement stand wherever so many more loops may be entered? -/
structure Code.Stmt.IsAllowed (loops : Nat) (s : Stmt) : Prop where
  legal : ∀ p : Place, p.depth + loops ≤ Place.maxDepth → s.legal p = true
  mentions : ∀ m ∈ s.mentions, m.IsOrdinary
  named : ∀ fuel, namesFault? fuel [s] = none
  annotates : s.annotates = false

/-- May all statements stand wherever so many more loops may be entered? -/
def AreAllowed (loops : Nat) (ss : List Stmt) : Prop := ∀ s ∈ ss, s.IsAllowed loops

section Allowed

variable {loops : Nat} {ss : List Stmt}

theorem namesFault?_one (n : Nat) (s : Stmt) : namesFault? (n + 1) [s] =
    (s.exprs.findSome? (Expr.nameFault? (n + 1))).or
      ((s.captures.findSome? captureFault?).or (s.bodies.findSome? (namesFault? n))) := by
  rw [namesFault?, List.findSome?_cons, List.findSome?_nil]
  cases (s.exprs.findSome? (Expr.nameFault? (n + 1))).or
      ((s.captures.findSome? captureFault?).or (s.bodies.findSome? (namesFault? n))) <;> rfl

theorem namesFault?_of_all (h : ∀ s ∈ ss, ∀ fuel, namesFault? fuel [s] = none) (fuel : Nat) :
    namesFault? fuel ss = none := by
  cases fuel with
  | zero => rfl
  | succ n =>
    rw [namesFault?, List.findSome?_eq_none_iff]
    intro s hs
    have hone := h s hs (n + 1)
    rw [namesFault?_one] at hone
    exact hone

/-- The names of a statement are names if those of its expressions and bodies are. -/
theorem namesFault?_of_parts {s : Stmt} (hexprs : ∀ e ∈ s.exprs, e.IsAllowed)
    (hcaptures : s.captures = [])
    (hbodies : ∀ b ∈ s.bodies, ∀ s' ∈ b, ∀ fuel, namesFault? fuel [s'] = none) (fuel : Nat) :
    namesFault? fuel [s] = none := by
  cases fuel with
  | zero => rfl
  | succ n =>
    have hown : s.exprs.findSome? (Expr.nameFault? (n + 1)) = none := by
      rw [List.findSome?_eq_none_iff]
      exact fun e he => (hexprs e he).named _
    have hinner : s.bodies.findSome? (namesFault? n) = none := by
      rw [List.findSome?_eq_none_iff]
      exact fun b hb => namesFault?_of_all (hbodies b hb) n
    rw [namesFault?_one, hown, hcaptures, hinner]
    rfl

theorem AreAllowed.bodyLegal (h : AreAllowed loops ss) {p : Place}
    (hp : p.depth + loops ≤ Place.maxDepth) : bodyLegal p ss = true := by
  induction ss with
  | nil => exact bodyLegal_nil p
  | cons s ss ih =>
    obtain ⟨hs, hss⟩ := List.forall_mem_cons.1 h
    rw [bodyLegal_cons, hs.legal p hp, ih hss]
    rfl

theorem AreAllowed.bodyMentions (h : AreAllowed loops ss) :
    ∀ m ∈ bodyMentions ss, m.IsOrdinary := by
  induction ss with
  | nil => simp
  | cons s ss ih =>
    obtain ⟨hs, hss⟩ := List.forall_mem_cons.1 h
    intro m hm
    rw [bodyMentions_cons, List.mem_append] at hm
    exact hm.elim (hs.mentions m) (ih hss m)

theorem AreAllowed.bodyAnnotates (h : AreAllowed loops ss) : bodyAnnotates ss = false := by
  induction ss with
  | nil => exact bodyAnnotates_nil
  | cons s ss ih =>
    obtain ⟨hs, hss⟩ := List.forall_mem_cons.1 h
    rw [bodyAnnotates_cons, hs.annotates, ih hss]
    rfl

theorem AreAllowed.append {ss' : List Stmt} (h : AreAllowed loops ss) (h' : AreAllowed loops ss') :
    AreAllowed loops (ss ++ ss') := by
  intro s hs
  exact (List.mem_append.1 hs).elim (h s) (h' s)

theorem Code.Stmt.IsAllowed.expression {e : Expr} (h : e.IsAllowed) :
    (Stmt.expression e).IsAllowed loops where
  legal := fun p _ => by rw [Stmt.legal, h.legal p]
  mentions := by
    rw [Stmt.mentions]
    exact h.mentions
  named := namesFault?_of_parts (by simpa [Stmt.exprs] using h) rfl (by simp [Stmt.bodies])
  annotates := rfl

/-- An assignment to a name. -/
theorem Code.Stmt.IsAllowed.assignName {id : String} (hid : id ∉ constantNames)
    (hdebug : id ≠ "__debug__") {e : Expr} (h : e.IsAllowed) :
    (Stmt.assign [.name id] e).IsAllowed loops where
  legal := fun p _ => by
    rw [Stmt.legal, h.legal p, List.all_cons, Expr.legalTarget, decide_eq_true hdebug]
    rfl
  mentions := by
    intro m hm
    rw [Stmt.mentions, targetsMentions, targetsMentions, List.append_nil, List.mem_append] at hm
    rcases hm with hm | hm
    · exact h.mentions m hm
    · rw [Expr.targetMentions, List.mem_singleton] at hm
      rw [hm]
      exact hdebug
  named := namesFault?_of_parts (by
    simpa [Stmt.exprs] using ⟨Expr.IsAllowed.name hid, h⟩) rfl (by simp [Stmt.bodies])
  annotates := rfl

/-! ## §4. The statements of a program. -/

theorem isAllowed_appendTo {buffer : String} (hbuffer : buffer ∉ constantNames) {e : Expr}
    (h : e.IsAllowed) : (appendTo buffer e).IsAllowed loops :=
  .expression (.callOf (Expr.IsAllowed.member (.name hbuffer) _) (by simpa using h))

theorem isAllowed_startBuffer {buffer : String} (hbuffer : buffer ∉ constantNames)
    (hdebug : buffer ≠ "__debug__") : (startBuffer buffer).IsAllowed loops :=
  .assignName hbuffer hdebug (.list (by simp))

theorem isAllowed_joined {buffer : String} (hbuffer : buffer ∉ constantNames) :
    (joined buffer).IsAllowed :=
  .callOf (Expr.IsAllowed.member (.constant _) _) (by simpa using Expr.IsAllowed.name hbuffer)

theorem isAllowed_wholeCode (n : Int) : (wholeCode n).IsAllowed := by
  unfold wholeCode
  split
  · exact .negate (.constant _)
  · exact .constant _

theorem isAllowed_noteLine (p : Position) : (noteLine p).IsAllowed loops where
  legal := fun q _ => by
    rw [noteLine, Stmt.legal, (isAllowed_wholeCode p.line).legal q, List.all_cons,
      Expr.legalTarget, Expr.legal]
    rfl
  mentions := by
    intro m hm
    rw [noteLine, Stmt.mentions, targetsMentions, targetsMentions, List.append_nil,
      List.mem_append] at hm
    rcases hm with hm | hm
    · exact (isAllowed_wholeCode p.line).mentions m hm
    · exact (Expr.IsAllowed.name (show contextName ∉ constantNames by decide)).mentions m hm
  named := namesFault?_of_parts (by
    simpa [noteLine, Stmt.exprs] using ⟨(Expr.IsAllowed.name (by decide)).member "line",
      isAllowed_wholeCode p.line⟩) rfl (by simp [noteLine, Stmt.bodies])
  annotates := rfl

end Allowed

/-! ## §5. Pieces of building. -/

theorem IsBuffer.not_constant {name : String} (h : IsBuffer name) :
    name ∉ constantNames ∧ name ≠ "__debug__" := by
  have hreserved := (isReserved_iff name).1 h.isReserved
  have hall : ∀ n ∈ "__debug__" :: constantNames, ¬ reservedStart.toList <+: n.toList := by decide
  exact ⟨fun hmem => hall name (List.mem_cons_of_mem _ hmem) hreserved,
    fun heq => hall name (heq ▸ List.mem_cons_self) hreserved⟩

/-- The region of one line of a source. -/
theorem region_ofLine {line : Int} (h : 1 ≤ line) (hlimit : line < lineLimit) :
    (Region.ofLine line).fits = true ∧ (Region.ofLine line).isValid = true := by
  have hlow : -lineLimit ≤ line := by
    have : (0 : Int) ≤ lineLimit := by decide
    omega
  constructor
  · simp [Region.ofLine, Region.fits, hlow, hlimit]
  · simp [Region.ofLine, Region.isValid]

/-- Are the regions that have been noted all possible? -/
def Program.Progress.IsFine (q : Progress) : Prop :=
  ∀ r ∈ q.regions, r.fits = true ∧ r.isValid = true

theorem Program.Progress.IsFine.note {q : Progress} (h : q.IsFine) (rs : List Region)
    (hrs : ∀ r ∈ rs, r.fits = true ∧ r.isValid = true) :
    Progress.IsFine { q with regions := rs.reverse ++ q.regions } := by
  intro r hr
  rcases List.mem_append.1 hr with hr | hr
  · exact hrs r (List.mem_reverse.1 hr)
  · exact h r hr

theorem Program.Build.bind_ok {α β : Type} {x : Build α} (f : α → Build β) {q r : Progress} {a : α}
    (h : x q = .ok (a, r)) : (x >>= f) q = f a r := by
  show (x q >>= fun p => f p.1 p.2) = _
  rw [h]
  rfl

theorem Program.checkDepth_fits {fits : Descent → Nat → Bool}
    (hreading : fits reading readingBudget = true)
    (hrewriting : fits rewriting rewritingBudget = true) (q : Progress) :
    checkDepth fits q = .ok ((), q) := by
  unfold checkDepth
  rw [hreading, hrewriting]
  rfl

/-- Does a step of building give allowed statements, and note possible regions? -/
def Builds (loops : Nat) (x : Build (List Stmt)) : Prop :=
  ∀ q : Progress, q.IsFine → ∃ ss r, x q = .ok (ss, r) ∧ AreAllowed loops ss ∧ r.IsFine

namespace Builds

variable {loops : Nat} {buffer : String} {limit : Int}

theorem nil : Builds loops (bodyStmts buffer []) :=
  fun q hq => ⟨[], q, rfl, fun _ hs => absurd hs List.not_mem_nil, hq⟩

theorem cons {n : Node Placement} {ns : List (Node Placement)}
    (hn : Builds loops (nodeStmts buffer n)) (hns : Builds loops (bodyStmts buffer ns)) :
    Builds loops (bodyStmts buffer (n :: ns)) := by
  intro q hq
  obtain ⟨ss, r, hss, hallowed, hr⟩ := hn q hq
  obtain ⟨ss', r', hss', hallowed', hr'⟩ := hns r hr
  refine ⟨ss ++ ss', r', ?_, hallowed.append hallowed', hr'⟩
  rw [bodyStmts]
  exact (Build.bind_ok _ hss).trans (Build.bind_ok _ hss')

/-- A text is appended to the output. -/
theorem text (hbuffer : IsBuffer buffer) {p : Position} {v : String} (hp : p.HasRoom limit 0)
    (hlimit : limit < lineLimit) : Builds loops (nodeStmts buffer (.text p v)) := by
  intro q hq
  rw [nodeStmts]
  by_cases hv : v.isEmpty = true
  · rw [if_pos hv]
    exact ⟨[], q, rfl, fun _ hs => absurd hs List.not_mem_nil, hq⟩
  · rw [if_neg hv]
    refine ⟨_, _, rfl, ?_, hq.note [.ofLine p.line] ?_⟩
    · exact List.forall_mem_singleton.2
        (isAllowed_appendTo hbuffer.not_constant.1 (Expr.IsAllowed.constant _))
    · have hline := hp.2
      exact List.forall_mem_singleton.2 (region_ofLine hp.1 (by omega))

/-- The code of a marker on lines of a source. -/
theorem noteExtents_ok {m : Marker Placement} (hm : m.position.HasRoom limit m.code.length)
    (hlimit : limit < lineLimit) (extents : Unit → List Extent) {q : Progress} (hq : q.IsFine) :
    ∃ r, noteExtents m extents q = .ok ((), r) ∧ r.IsFine := by
  obtain ⟨hfirst, hlast⟩ := hm
  have hinside : (0 ≤ m.position.line && m.position.line + m.code.length < lineLimit) = true := by
    rw [Bool.and_eq_true, decide_eq_true_eq, decide_eq_true_eq]
    omega
  refine ⟨_, rfl, hq.note _ ?_⟩
  rw [if_pos hinside]
  exact List.forall_mem_singleton.2 (region_ofLine hfirst (by omega))

/-- The text of a value is appended to the output. -/
theorem output (hbuffer : IsBuffer buffer) {m : Marker Placement} (hkind : m.kind = .output)
    (htrims : m.note.trimsNewline = false) (hm : m.position.HasRoom limit m.code.length)
    (hlimit : limit < lineLimit) {e : Expr}
    (hnul : (Header.normalize m.code).toList.contains '\x00' = false)
    (he : parseExpression? (Header.normalize m.code) = some e)
    (hfits : e.fits reading readingBudget = true ∧ e.fits rewriting rewritingBudget = true)
    (hallowed : (wrapIncludes m.note.indentation e).IsAllowed) :
    Builds loops (nodeStmts buffer (.expr m)) := by
  intro q hq
  have hcode : markerCode m q = .ok (Header.normalize m.code, q) := by
    unfold markerCode
    rw [hnul]
    rfl
  obtain ⟨r, hr, hfine⟩ := noteExtents_ok hm hlimit
    (fun _ => (expressionExtent? (Header.normalize m.code)).toList) hq
  refine ⟨[noteLine m.position, appendTo buffer (callOf (.name textName)
    [wrapIncludes m.note.indentation e])], r, ?_, ?_, hfine⟩
  · rw [nodeStmts, if_neg (by rw [hkind]; exact MarkerKind.noConfusion)]
    unfold outputStmts
    refine (Build.bind_ok _ hcode).trans ?_
    rw [he]
    refine (Build.bind_ok _ (checkDepth_fits hfits.1 hfits.2 q)).trans ?_
    refine (Build.bind_ok _ hr).trans ?_
    rw [htrims]
    rfl
  · refine List.forall_mem_cons.2 ⟨isAllowed_noteLine _, List.forall_mem_singleton.2 ?_⟩
    refine isAllowed_appendTo hbuffer.not_constant.1 ?_
    exact .callOf (.name (by decide)) (List.forall_mem_singleton.2 hallowed)

end Builds

/-! ## §6. Whole programs. -/

/-- A program of allowed statements is not refused, if its lines can be those of code. -/
theorem refusal?_allowed {body : List Stmt} {regions : List Region}
    (h : AreAllowed Place.maxDepth body)
    (hregions : ∀ r ∈ regions, r.fits = true ∧ r.isValid = true) :
    refusal? body regions = none := by
  have hfits : regions.any (!·.fits) = false := by
    rw [List.any_eq_false]
    intro r hr
    rw [(hregions r hr).1]
    exact Bool.false_ne_true
  have hvalid : regions.find? (!·.isValid) = none := by
    rw [List.find?_eq_none]
    intro r hr
    rw [(hregions r hr).2]
    exact Bool.false_ne_true
  have hnamed : misnamed? body = none := namesFault?_of_all (fun s hs => (h s hs).named) _
  have hlegal : isLegal body = true := by
    unfold isLegal
    rw [scopeLegal_ordinary h.bodyMentions, h.bodyLegal (Nat.le_of_eq (Nat.zero_add _))]
    rfl
  unfold refusal?
  rw [hfits, hvalid, hnamed, hlegal]
  rfl

/-- What building makes of the nodes of a template is its program. -/
theorem build_of_builds {t : Template Unit} (hnesting : fitsNesting t.body = true)
    (h : Builds Place.maxDepth (bodyStmts outputName (Indent.resolve t).body)) :
    ∃ program, build t = .ok program ∧ bodyAnnotates program = false := by
  obtain ⟨body, r, hbody, hallowed, hr⟩ := h {} (fun _ hr => absurd hr List.not_mem_nil)
  have hbuffer : IsBuffer outputName := Or.inl rfl
  have hprogram : AreAllowed Place.maxDepth (programOf body) := by
    refine List.forall_mem_cons.2 ⟨isAllowed_startBuffer hbuffer.not_constant.1
      hbuffer.not_constant.2, hallowed.append (List.forall_mem_singleton.2 ?_)⟩
    exact .assignName (by decide) (by decide) (isAllowed_joined hbuffer.not_constant.1)
  refine ⟨programOf body, ?_, hprogram.bodyAnnotates⟩
  have hstmts : templateStmts (Indent.resolve t) = .ok (programOf body, r.regions.reverse) := by
    have hrun : (bodyStmts outputName (Indent.resolve t).body).run {} = .ok (body, r) := hbody
    rw [templateStmts_eq, hrun]
    rfl
  have hrefusal := refusal?_allowed hprogram
    (fun r' hr' => hr r' (List.mem_reverse.1 hr'))
  exact build_ok_iff.2 ⟨hnesting, _, hstmts, hrefusal⟩

end Inlay
