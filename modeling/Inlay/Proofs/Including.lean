/-
  Inlay.Proofs.Including
  ────────────────────────────────
  **RENDERING WHAT IS INCLUDED.**

  An include finds its template in the store or through the loader, makes a
  context one level below, and renders there with the names that are visible
  where it stands.  Nothing of this depends on how the render began:

      Environment.Serves — a name is answered with the template of a source
      State.IsReady      — a render can begin, and so many includes may nest
      Renders            — a source renders as a text, in every such state
-/
import Inlay.Proofs.Entering
import Inlay.Proofs.IncludeCode
import Inlay.Proofs.IncludeDepth

namespace Inlay

open Inlay.Code Inlay.Program

/-! ## §1. Templates by name. -/

/-- Is the template what a source is compiled to? -/
def CompiledTemplate.IsOf (t : CompiledTemplate) (source : String) : Prop :=
  ∃ o, programOfSource o source = .ok t.program

/-- Does an environment answer a name with the template of a source? -/
structure Environment.Serves (env : Environment) (name source : String) : Prop where
  loads : ∃ l answer, env.loader = some l ∧ l.source name = .ok answer
    ∧ env.prepared answer.text = source
  kept : ∀ t, (name, t) ∈ env.cache → t.IsOf source

/-- A table that nothing was loaded from yet serves its sources. -/
theorem serves_table {sources : List (String × String)} {name source : String}
    (h : sources.lookup name = some source) :
    ({ loader := some (.table sources) } : Environment).Serves name source where
  loads := by
    refine ⟨.table sources, ⟨source, none⟩, rfl, ?_, rfl⟩
    show Loader.tableSource sources name = _
    unfold Loader.tableSource
    rw [h]
  kept := fun _ ht => absurd ht List.not_mem_nil

theorem Environment.Serves.withCache {env : Environment} {name source : String}
    (h : env.Serves name source) {cache : List (String × CompiledTemplate)}
    (hcache : ∀ t, (name, t) ∈ cache → t.IsOf source) : (env.withCache cache).Serves name source :=
  ⟨h.loads, hcache⟩

/-- Do two states differ in their stores alone, and does the second one answer as the first? -/
structure State.AnswersLike (s s' : State) : Prop where
  heap : s'.world.heap = s.world.heap
  own : s'.own = s.own
  limit : s'.world.environment.maxIncludeDepth = s.world.environment.maxIncludeDepth
  serves : ∀ name source, s.world.environment.Serves name source →
    s'.world.environment.Serves name source

theorem State.AnswersLike.isOpen {s s' : State} (h : s.AnswersLike s') (hopen : s.IsOpen) :
    s'.IsOpen := by
  intro r hr
  rw [h.heap] at hr
  have hown : s'.ownOf r = s.ownOf r := by
    unfold State.ownOf
    rw [h.own]
  rw [hown]
  exact hopen r hr

section Getting

variable {s : State} {name source : String}

/-- What is served is loaded as the template of its source. -/
theorem Environment.Serves.load {env : Environment} (h : env.Serves name source)
    (hcompiles : ∀ o, ∃ program, programOfSource o source = .ok program) :
    ∃ t, env.load name = .ok t ∧ t.IsOf source := by
  obtain ⟨l, answer, hloader, hanswer, hprepared⟩ := h.loads
  obtain ⟨program, hprogram⟩ := hcompiles ⟨some name, answer.filename, some source⟩
  refine ⟨⟨0, some name, answer.filename, source, program⟩, ?_, _, hprogram⟩
  unfold Environment.load
  rw [hloader]
  dsimp only
  rw [hanswer]
  show env.compile _ _ _ = _
  unfold Environment.compile
  rw [hprepared]
  dsimp only
  rw [hprogram]

/-- What was loaded for a name is a template of what is served under it. -/
theorem Environment.Serves.isOf {env : Environment} (h : env.Serves name source)
    {t : CompiledTemplate} (ht : env.load name = .ok t) : t.IsOf source := by
  obtain ⟨l, answer, hloader, hanswer, hprepared⟩ := h.loads
  unfold Environment.load at ht
  rw [hloader] at ht
  dsimp only at ht
  rw [hanswer] at ht
  dsimp only at ht
  unfold Environment.compile at ht
  rw [hprepared] at ht
  dsimp only at ht
  cases hprogram : programOfSource ⟨some name, answer.filename, some source⟩ source with
  | error f =>
    rw [hprogram] at ht
    cases ht
  | ok program =>
    rw [hprogram] at ht
    obtain rfl := Except.ok.inj ht
    exact ⟨_, hprogram⟩

/-- An environment serves a source after it was asked for a name as before. -/
theorem Environment.Serves.keeping {env : Environment} {name' : String} (h : env.Serves name' source)
    {t : CompiledTemplate} (ht : env.load name = .ok t.unnumbered) :
    (env.keeping name t).Serves name' source := by
  unfold Environment.keeping
  split
  · refine h.withCache (fun t' ht' => ?_)
    rcases mem_keepRecent ht' with hkept | heq
    · exact h.kept t' hkept
    · -- the new entry is that of a source which the loader gives for its name
      obtain ⟨rfl, rfl⟩ := Prod.mk.inj heq
      exact h.isOf (t := t'.unnumbered) ht
  · exact h

/-- A template that is served is found, and everything else is served as before. -/
theorem getTemplate_done (h : s.world.environment.Serves name source)
    (hcompiles : ∀ o, ∃ program, programOfSource o source = .ok program) :
    ∃ t s', (getTemplate name).work s = .done t s' ∧ t.IsOf source ∧ s.AnswersLike s' := by
  have hanswer : ∀ {t w}, s.world.fetch name = .ok (t, w) → (getTemplate name).work s
      = .done t.unnumbered { s with world := w } := by
    intro t w hfetch
    have hok : s.world.answer name = .ok (t.unnumbered, w) := by
      unfold World.answer
      rw [hfetch]
      rfl
    exact Work.ofWorld_ok (f := (·.answer name)) hok
  cases hlookup : s.world.environment.cache.lookup name with
  | some t =>
    refine ⟨_, _, hanswer (World.fetch_kept hlookup), h.kept t (mem_of_lookup hlookup), rfl, rfl, rfl,
      fun name' source' h' => ?_⟩
    exact h'.withCache (fun t' ht' => h'.kept t' (mem_refresh ht'))
  | none =>
    obtain ⟨t, hload, ht⟩ := h.load hcompiles
    refine ⟨_, _, hanswer (World.fetch_loaded hlookup hload), ht, rfl, rfl, ?_,
      fun name' source' h' => ?_⟩
    · exact congrArg (·.maxIncludeDepth) (s.world.environment.withoutStore_keeping name _)
    · exact h'.keeping (hload.trans (congrArg _ (Environment.load_unnumbered hload).symm))

end Getting

/-! ## §2. Renders of templates. -/

/-- Is a state one in which a render can begin, in a context below which so many includes may nest,
and with an environment that serves some sources? -/
structure State.IsReady (s : State) (context : Ref) (further : Nat)
    (sources : List (String × String)) : Prop where
  hasContext : ∃ c, s.world.contextAt? context = some c
    ∧ c.includeDepth + further ≤ c.maxIncludeDepth
  serves : ∀ b ∈ sources, s.world.environment.Serves b.1 b.2
  isOpen : s.IsOpen

/-- Do all templates of a source render as a text, wherever so many includes may nest and some
sources are served? -/
def Renders (p : Power) (further : Nat) (sources : List (String × String))
    (source text : String) : Prop :=
  ∀ (t : CompiledTemplate) (s : State) (context : Ref) (bindings : List (String × Value)),
    t.IsOf source → s.IsReady context further sources →
      (∀ b ∈ bindings, isVisibleName b.1 = true) →
        ∃ s', (renderWith p t bindings context).work s = .done text s'

section Including

variable {p : Power} {s : State} {context globals : Ref} {further : Nat}
  {sources : List (String × String)} {name source text : String}

/-- A new context leaves the places behind it open. -/
theorem newContext_open (hopen : s.IsOpen) (c : RenderContext) (text : Option String) :
    (Run.newContext c text).work s = .done s.world.heap.size (s.withContext c text)
      ∧ (s.withContext c text).IsOpen := by
  have hsize : s.world.contextAt? s.world.heap.size = none := by
    rw [World.contextAt?_eq, Array.getElem?_eq_none (Nat.le_refl _)]
    rfl
  refine ⟨?_, fun r hr => ?_⟩
  · rw [Run.newContext_work, State.isFixed_of_noContext hsize, hopen _ (Nat.le_refl _)]
    rfl
  · have hr' : s.world.heap.size + 1 ≤ r := (Array.size_push _) ▸ hr
    show ((s.setOwn s.world.heap.size (.source text)).ownOf r).isLocked = false
    rw [State.ownOf_setOwn, if_neg (Nat.ne_of_lt hr')]
    exact hopen r (Nat.le_of_succ_le hr')

/-- A render can begin in a new context, if includes may nest below it. -/
theorem newContext_isReady (hopen : s.IsOpen)
    (hserves : ∀ b ∈ sources, s.world.environment.Serves b.1 b.2) {c : RenderContext}
    (hc : c.includeDepth + further ≤ c.maxIncludeDepth) (text : Option String) :
    ∃ inner u, (Run.newContext c text).work s = .done inner u
      ∧ State.IsReady { u with current := some inner } inner further sources := by
  obtain ⟨hnew, hopen'⟩ := newContext_open hopen c text
  exact ⟨_, _, hnew, ⟨c, s.contextAt?_withContext c text, hc⟩, hserves, hopen'⟩

/-- An include whose template is there finds it, and what is visible in a module of names. -/
theorem findInclude_done {value : Value} {t : CompiledTemplate} {s₁ : State}
    (hget : (getTemplateOf value).work s = .done t s₁) {d : Dictionary}
    (hd : s₁.world.heap[globals]? = some (.dict d)) (hnames : d.HasNamesOnly) :
    (findInclude globals value).work s = .done (t, d.visible) s₁ := by
  have hask : (Run.ask (·.dictionaryAt globals)).work s₁ = .done d s₁ := by
    show Outcome.done (World.dictionaryAt s₁.world globals) s₁ = _
    unfold World.dictionaryAt
    rw [hd]
  unfold findInclude
  rw [Run.work_done _ hget, Run.work_done _ hask, Run.work_done _ (visibleBindings_done hnames s₁)]
  rfl

/-- An include of what renders as a text gives that text. -/
theorem includeInto_done (hhosts : s.Hosts context globals)
    (hready : s.IsReady context (further + 1) sources) (hmem : (name, source) ∈ sources)
    (hcompiles : ∀ o, ∃ program, programOfSource o source = .ok program)
    (hrenders : Renders p further sources source text) :
    ∃ s', (includeInto p context globals [.text name] []).work s = .done (.text text) s' := by
  obtain ⟨c, hc, hfurther⟩ := hready.hasContext
  obtain ⟨d, hd, hnames⟩ := hhosts.hasNames
  have hbind : includeSignature.bind [.text name] [] =
      .ok ([("template_name", .text name)], [], []) := rfl
  -- the template is found
  obtain ⟨t, s₁, hget, ht, hlike⟩ := getTemplate_done (hready.serves _ hmem) hcompiles
  have hfind : (findInclude globals (.text name)).work s = .done (t, d.visible) s₁ :=
    findInclude_done (show (getTemplateOf (.text name)).work s = _ from hget)
      (by rw [hlike.heap, hd]) hnames
  -- its context is one level below
  have hopen : s₁.IsOpen := hlike.isOpen hready.isOpen
  have hchild : Run.childAt context t s₁.world = c.child t.name t.filename none := by
    unfold Run.childAt
    rw [World.contextAt?_eq, hlike.heap, ← World.contextAt?_eq, hc]
    rfl
  have hdepth : (Run.childAt context t s₁.world).includeDepth + further
      ≤ (Run.childAt context t s₁.world).maxIncludeDepth := by
    rw [hchild]
    show c.includeDepth + 1 + further ≤ c.maxIncludeDepth
    rw [Int.natCast_add] at hfurther
    omega
  obtain ⟨inner, s₂, hnew, hinner⟩ := newContext_isReady hopen
    (fun b hb => hlike.serves _ _ (hready.serves b hb)) hdepth (some t.source)
  obtain ⟨s₃, hrender⟩ := hrenders t _ inner (d.visible ++ []) ht hinner (by
    rw [List.append_nil]
    exact fun _ hb => Dictionary.isVisibleName_of_mem hb)
  have hchildAsk : (Run.ask (Run.childAt context t)).work s₁ =
      .done (Run.childAt context t s₁.world) s₁ := rfl
  refine ⟨{ s₃ with current := s₂.current }, ?_⟩
  rw [includeInto_work p globals hbind hc]
  dsimp only
  rw [if_neg (by omega)]
  refine (Run.work_done _ hfind).trans ?_
  unfold Run.inChild
  rw [Run.work_done _ hchildAsk, Run.work_done _ hnew]
  show (Outcome.mapState _ ((renderWith p t (d.visible ++ []) inner >>= fun text =>
    Pure.pure (Value.text text) : Run Value).work { s₂ with current := some inner })) = _
  rw [Run.work_done _ hrender]
  rfl

/-! ## §3. Walking an include. -/

/-- A tool is read where it is locked away. -/
theorem readName_tool (hhosts : s.Hosts context globals) {tool : String} {v : Value}
    (hv : (toolBindings context globals).lookup tool = some v) (behind : Option Ref) :
    (readName { globals, behind } tool).work s = .done v s := by
  have hmem := mem_toolNames hv
  have hreserved : isReserved tool = true := by
    have hall : ∀ n ∈ [textName, realignName, reindentName, includeName, contextName],
        reservedStart.toList <+: n.toList := by decide
    exact (isReserved_iff tool).2 (hall tool hmem)
  have hread : (readInModule globals tool).work s = .done (some v) s := by
    unfold readInModule
    rw [hreserved, if_pos rfl, Run.work_done _ (Run.heldAt_locked hhosts.hasTools hv)]
    rfl
  unfold readName
  rw [Run.work_done _ (home_work rfl tool)]
  exact (Run.work_done _ hread).trans rfl

/-- The value of an include call: the text that it gives, indented. -/
theorem eval_include (hhosts : s.Hosts context globals) (behind : Option Ref) {n rounds : Nat}
    {s' : State} (hinto : (includeInto (power rounds n) context globals [.text name] []).work s =
      .done (.text text) s') (indentation : String) :
    ((wrapIncludes indentation (includeCall name)).eval (power rounds (n + 1))
      { globals, behind }).work s =
        .done (.text (String.ofList (Indent.reindent indentation.toList text.toList))) s' := by
  have hreindent := readName_tool hhosts (show List.lookup reindentName _ = some _ from rfl) behind
  have hinclude := readName_tool hhosts (show List.lookup includeName _ = some _ from rfl) behind
  have hconstant : ∀ (fr : Frame) (v : String),
      (textConstant v).eval (power rounds (n + 1)) fr = Pure.pure (.text v) := by
    intro fr v
    rw [textConstant, Expr.eval_constant]
    rfl
  have hinner : ((callOf (.name includeName) [textConstant name]).eval (power rounds (n + 1))
      { globals, behind }).work s = .done (.text text) s' := by
    unfold callOf
    rw [call_eval _ hinclude (by rfl), evalArguments_one _ _ _ (by simp [textConstant]), hconstant]
    exact hinto
  have hwrapped : wrapIncludes indentation (includeCall name) =
      callOf (.name reindentName) [callOf (.name includeName) [textConstant name],
        textConstant indentation] := rfl
  have hargs : evalArguments (power rounds (n + 1)) { globals, behind } (.builtin .reindent) false
      [callOf (.name includeName) [textConstant name], textConstant indentation] = do
        let v ← (callOf (.name includeName) [textConstant name]).eval (power rounds (n + 1))
          { globals, behind }
        return [v, .text indentation] := by
    rw [evalArguments, evalArguments_one _ _ _ (by simp [textConstant]), hconstant]
    · simp only [pure_bind]
    · exact callOf_ne_starred _ _
  rw [hwrapped]
  show ((Expr.call (.name reindentName) [callOf (.name includeName) [textConstant name],
    textConstant indentation] []).eval _ _).work s = _
  rw [call_eval _ hreindent (by rfl)]
  show (evalArguments _ _ (.builtin .reindent) false _ >>= _ : Run Value).work s = _
  rw [hargs, bind_assoc, Run.work_done _ hinner]
  rfl

theorem State.IsReady.atLine (h : s.IsReady context further sources) (line : Int) :
    (s.modified context (Object.atLine line)).IsReady context further sources := by
  obtain ⟨⟨c, hc, hfurther⟩, hserves, hopen⟩ := h
  exact ⟨⟨_, contextAt?_atLine hc line, hfurther⟩, hserves, hopen.modified _ _⟩

theorem State.IsReady.entered (h : s.IsReady context further sources)
    (bindings : List (String × Value)) :
    (s.entered bindings context).IsReady context further sources := by
  obtain ⟨⟨c, hc, hfurther⟩, hserves, hopen⟩ := h
  exact ⟨⟨c, contextAt?_entered hc, hfurther⟩, hserves, isOpen_entered hopen⟩

/-- Write a text behind what is written. -/
def Page.with (page : Page) (text : String) : Page := { page with written := page.written ++ text }

theorem walkNode_text (fr : Frame) (q : Position) (v : String) (w : State × Page) :
    walkNode p fr context (.text q v) w = .done .normal (w.1, w.2.with v) := by
  rw [walkNode]
  rfl

theorem walkBody_cons_done {fr : Frame} {node : Node Placement} {rest : List (Node Placement)}
    {w w' : State × Page} (h : walkNode p fr context node w = .done .normal w') :
    walkBody p fr context (node :: rest) w = walkBody p fr context rest w' := by
  rw [walkBody, Work.bind_done _ h]

theorem walkBody_text (p : Power) (fr : Frame) (context : Ref) {limit : Int}
    {rest : List (Node Placement)} {after : String}
    (h : (rest = [] ∧ after = "") ∨ ∃ p, rest = [.text p after] ∧ p.HasRoom limit 0)
    (w : State × Page) : walkBody p fr context rest w = .done .normal (w.1, w.2.with after) := by
  rcases h with ⟨rfl, rfl⟩ | ⟨q, rfl, -⟩
  · unfold Page.with
    rw [String.append_empty]
    rfl
  · rfl

/-- The marker of an include writes the included text, indented as the marker is. -/
theorem walkNode_include (hname : IsSimple name) (hhosts : s.Hosts context globals)
    (hready : s.IsReady context (further + 1) sources) (hmem : (name, source) ∈ sources)
    (hcompiles : ∀ o, ∃ program, programOfSource o source = .ok program) {rounds n : Nat}
    (hrenders : Renders (power rounds n) further sources source text) (q : Position)
    (before : String) (page : Page) :
    ∃ s', walkNode (power rounds (n + 1)) { globals, behind := none } context
      (.expr (includeMarker q before name)) (s, page) = .done .normal (s', page.with (String.ofList
        (Indent.reindent (Indent.trailing before.toList) text.toList))) := by
  obtain ⟨c, hc⟩ := hhosts.hasContext
  obtain ⟨s', hinto⟩ := includeInto_done (hhosts.atLine q.line) (hready.atLine q.line) hmem hcompiles
    hrenders
  have hcode : parseExpression? (Header.normalize (includeMarker q before name).code) =
      some (includeCall name) :=
    (congrArg parseExpression? (normalize_includeCode hname).1).trans
      (parseExpression?_includeCode hname)
  have heval := eval_include (hhosts.atLine q.line) none hinto (Indent.trailingString before)
  unfold Indent.trailingString at heval
  rw [String.toList_ofList] at heval
  refine ⟨s', ?_⟩
  rw [walkNode, if_neg MarkerKind.noConfusion]
  unfold walkOutput
  rw [hcode]
  dsimp only
  rw [liftM_eq_walked, Work.bind_done _ (Run.walked_done (noteLineIn_work hc q))]
  rw [liftM_eq_walked, Work.bind_done _ (Run.walked_done heval)]
  rfl

end Including

/-! ## §4. Sources that are printed. -/

/-- A printed source has the program of its tree, wherever its nodes stand. -/
theorem programOfSource_print {body : List (Node Unit)} {source : String}
    (hwell : bodyWellFormed body = true) (hprint : source = (⟨none, body⟩ : Template Unit).print)
    (hbuild : ∀ tree : Template Unit, unplacedBody tree.body = unplacedBody body →
      bodyHasRoom (1 + source.length) tree.body →
        ∃ program, build tree = .ok program ∧ bodyAnnotates program = false) (o : Origin) :
    ∃ tree program, unplacedBody tree.body = unplacedBody body
      ∧ bodyHasRoom (1 + source.length) tree.body ∧ build tree = .ok program
      ∧ bodyAnnotates program = false ∧ programOfSource o source = .ok program := by
  obtain ⟨tree, htree, hunplaced, hroom⟩ := treeOfSource_print (t := ⟨none, body⟩) hwell o hprint
  obtain ⟨program, hprogram, hplain⟩ := hbuild tree hunplaced hroom
  refine ⟨tree, program, hunplaced, hroom, hprogram, hplain, ?_⟩
  rw [programOfSource_of_tree htree, programOfTree, hprogram]
  rfl

theorem unplacedBody_textNodes (text : String) :
    unplacedBody (textNodes text) = textNodes text := by
  unfold textNodes
  split <;> rfl

section Rendering

variable {further : Nat} {sources : List (String × String)} {before name after source text : String}

theorem programOfSource_text (hplain : IsPlain after.toList)
    (hlength : 1 + (after.length : Int) < lineLimit) (o : Origin) :
    ∃ tree program, unplacedBody tree.body = textNodes after
      ∧ bodyHasRoom (1 + after.length) tree.body ∧ build tree = .ok program
      ∧ bodyAnnotates program = false ∧ programOfSource o after = .ok program := by
  rw [← unplacedBody_textNodes]
  refine programOfSource_print (wellFormed_textNodes after) (print_textNodes hplain).symm
    (fun tree htree hroom => ?_) o
  rw [unplacedBody_textNodes] at htree
  exact build_textNodes htree hroom hlength

/-- A text renders as itself. -/
theorem renders_text (hplain : IsPlain after.toList)
    (hlength : 1 + (after.length : Int) < lineLimit) (rounds n : Nat) :
    Renders (power rounds (n + 1)) further sources after after := by
  rintro t s context bindings ⟨o, ho⟩ hready hvisible
  obtain ⟨tree, program, htree, hroom, hbuild, hannotates, hprogram⟩ :=
    programOfSource_text hplain hlength o
  obtain rfl := Except.ok.inj (hprogram.symm.trans ho)
  have hwalk := walkBody_text (power rounds n) { globals := s.world.heap.size, behind := none }
    context (resolveBody_textNodes htree hroom none) (s.entered bindings context, {})
  obtain ⟨s', hs'⟩ := renderWith_done hbuild hannotates hvisible (hready.isOpen _ (Nat.le_refl _))
    hwalk
  refine ⟨s', ?_⟩
  rw [hs']
  unfold Page.with
  rw [String.empty_append]

theorem programOfSource_include (hbefore : IsPlain before.toList) (hne : before ≠ "")
    (hname : IsSimple name) (hafter : IsPlain after.toList)
    (hlength : 1 + ((includeSource before name after).length : Int) < lineLimit) (o : Origin) :
    ∃ tree program, unplacedBody tree.body = includeNodes before name after
      ∧ bodyHasRoom (1 + (includeSource before name after).length) tree.body
      ∧ build tree = .ok program ∧ bodyAnnotates program = false
      ∧ programOfSource o (includeSource before name after) = .ok program := by
  have hunplaced : unplacedBody (includeNodes before name after) = includeNodes before name after :=
    congrArg (fun ns => Node.text nowhere before ::
      .expr ⟨nowhere, .output, includeCode name, ()⟩ :: ns) (unplacedBody_textNodes after)
  rw [← hunplaced]
  refine programOfSource_print (wellFormed_includeNodes hne hname)
    (print_includeNodes hbefore hafter).symm (fun tree htree hroom => ?_) o
  rw [hunplaced] at htree
  exact build_includeNodes htree hname hne hroom hlength

/-- **A template with an include renders as the included text between its own**, indented as the
include is. -/
theorem renders_include (hbefore : IsPlain before.toList) (hne : before ≠ "")
    (hname : IsSimple name) (hafter : IsPlain after.toList)
    (hlength : 1 + ((includeSource before name after).length : Int) < lineLimit)
    (hmem : (name, source) ∈ sources)
    (hcompiles : ∀ o, ∃ program, programOfSource o source = .ok program) {rounds n : Nat}
    (hrenders : Renders (power rounds n) further sources source text) :
    Renders (power rounds (n + 2)) (further + 1) sources (includeSource before name after)
      (before ++ String.ofList (Indent.reindent (Indent.trailing before.toList) text.toList)
        ++ after) := by
  rintro t s context bindings ⟨o, ho⟩ hready hvisible
  obtain ⟨tree, program, htree, hroom, hbuild, hannotates, hprogram⟩ :=
    programOfSource_include hbefore hne hname hafter hlength o
  obtain rfl := Except.ok.inj (hprogram.symm.trans ho)
  obtain ⟨p, q, rest, hresolve, -, -, hrest⟩ := resolveBody_includeNodes htree hroom hne
  obtain ⟨c, hc, hfurther⟩ := hready.hasContext
  obtain ⟨s₁, hinclude⟩ := walkNode_include hname (hosts_entered hc)
    (hready.entered bindings) hmem hcompiles hrenders q before (Page.with {} before)
  have hwalk : walkBody (power rounds (n + 1)) { globals := s.world.heap.size, behind := none }
      context (Indent.resolve tree).body (s.entered bindings context, {}) =
        .done .normal (s₁, (Page.with (Page.with {} before) (String.ofList
          (Indent.reindent (Indent.trailing before.toList) text.toList))).with after) := by
    show walkBody _ _ _ (Indent.resolveBody none tree.body) _ = _
    rw [hresolve, walkBody_cons_done (walkNode_text _ p before _)]
    exact (walkBody_cons_done hinclude).trans (walkBody_text _ _ _ hrest _)
  obtain ⟨s', hs'⟩ := renderWith_done hbuild hannotates hvisible (hready.isOpen _ (Nat.le_refl _))
    hwalk
  refine ⟨s', ?_⟩
  rw [hs']
  show Outcome.done ("" ++ before ++ _ ++ after) s' = _
  rw [String.empty_append]

/-- What renders as a text gives it when it is asked for by its name, and rendered. -/
theorem getTemplate_render_done {p : Power} {s : State}
    (hserves : ∀ b ∈ sources, s.world.environment.Serves b.1 b.2) (hmem : (name, source) ∈ sources)
    (hcompiles : ∀ o, ∃ program, programOfSource o source = .ok program)
    (hrenders : Renders p further sources source text) (hopen : s.IsOpen)
    (hdepth : further ≤ s.world.environment.maxIncludeDepth) {bindings : List (String × Value)}
    (hvisible : ∀ b ∈ bindings, isVisibleName b.1 = true) :
    ∃ s', (do render p (← getTemplate name) bindings : Run String).work s = .done text s' := by
  obtain ⟨t, s₁, hget, ht, hlike⟩ := getTemplate_done (hserves _ hmem) hcompiles
  have hask : (Run.ask (·.environment.maxIncludeDepth)).work s₁
      = .done s₁.world.environment.maxIncludeDepth s₁ := rfl
  have hlimit : (RenderContext.outermost t.name t.filename
      s₁.world.environment.maxIncludeDepth).includeDepth + further ≤
        s₁.world.environment.maxIncludeDepth := by
    rw [hlike.limit]
    show 0 + (further : Int) ≤ _
    omega
  obtain ⟨inner, s₂, hnew, hready⟩ := newContext_isReady (hlike.isOpen hopen)
    (fun b hb => hlike.serves _ _ (hserves b hb)) hlimit (some t.source)
  obtain ⟨s₃, hrender⟩ := hrenders t _ inner bindings ht hready hvisible
  refine ⟨{ s₃ with current := s₂.current }, ?_⟩
  rw [Run.work_done _ hget]
  unfold render
  rw [Run.work_done _ hask, Run.work_done _ hnew]
  show Outcome.mapState _ ((renderWith p t bindings inner).work { s₂ with current := some inner }) = _
  rw [hrender]
  rfl

end Rendering

end Inlay
