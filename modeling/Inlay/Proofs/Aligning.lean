/-
  Inlay.Proofs.Aligning
  ────────────────────────────────
  **PIPE BLOCKS ARE ALIGNED TO THEIR MARKERS.**

  However blocks nest, and however each body is indented, a template of pipe
  blocks renders as its lines, all of them indented as the outermost markers
  are:

      first                                       first
      margin<%| for _ in [1, 1]: %>               margin|line
      inner  line                       renders   margin|line
      close<% end %>

  Each block takes its lines from the indentation inside to that of its own
  marker, and this is the one that the block around it takes them from.
-/
import Inlay.Proofs.Outline
import Inlay.Proofs.Realigning
import Inlay.Proofs.Writing
import Mathlib.Data.List.TakeWhile

namespace Inlay

open Inlay.Code Inlay.Program Inlay.Text

/-! ## §1. Indented lines. -/

/-- Lines, each on a line of its own behind an indentation. -/
def indented (indent : String) : List String → String
  | [] => ""
  | l :: ls => "\n" ++ indent ++ l ++ indented indent ls

section Indented

variable {indent : String}

theorem indented_append (indent : String) (ls ms : List String) :
    indented indent (ls ++ ms) = indented indent ls ++ indented indent ms := by
  induction ls with
  | nil => rw [List.nil_append, indented, String.empty_append]
  | cons l ls ih => rw [List.cons_append, indented, indented, ih, ← String.append_assoc]

theorem indented_flatten (indent : String) (n : Nat) (ls : List String) :
    indented indent (List.replicate n ls).flatten = copies (indented indent ls) n := by
  induction n with
  | zero => rfl
  | succ n ih => rw [List.replicate_succ, List.flatten_cons, indented_append, ih, copies]

theorem toList_indented (indent : String) (ls : List String) : (indented indent ls).toList =
    joinNewlines ([] :: ls.map (fun l => indent.toList ++ l.toList)) := by
  induction ls with
  | nil => rfl
  | cons l ls ih =>
    rw [indented, String.toList_append, ih, String.toList_append, String.toList_append,
      List.map_cons, joinNewlines_cons_of_ne_nil (List.cons_ne_nil _ _), List.nil_append]
    cases ls.map (fun l => indent.toList ++ l.toList) with
    | nil => exact List.append_nil _
    | cons m ms =>
      rw [joinNewlines_cons_of_ne_nil (List.cons_ne_nil m ms),
        joinNewlines_cons_of_ne_nil (List.cons_ne_nil m ms)]
      rfl

/-- **Lines behind one indentation are put behind another one.** -/
theorem realign_indented {inner : String} (hinner : IsMargin inner) (indent : String)
    {ls : List String} (h : ∀ l ∈ ls, IsLine l) :
    Indent.realign inner.toList indent.toList (indented inner ls).toList =
      (indented indent ls).toList := by
  have hlines : ∀ l ∈ [] :: ls.map (fun l => inner.toList ++ l.toList), '\n' ∉ l := by
    intro line hline hmem
    rcases List.mem_cons.1 hline with rfl | hline
    · exact List.not_mem_nil hmem
    obtain ⟨l, hl, rfl⟩ := List.mem_map.1 hline
    rcases List.mem_append.1 hmem with hmem | hmem
    · exact hinner.not_mem (by decide) hmem
    · exact (h l hl).oneLine hmem
  rw [toList_indented, toList_indented, Indent.realign_eq_mapLaterLines,
    Indent.mapLaterLines_joinNewlines _ hlines, List.map_map]
  refine congrArg (fun ls => joinNewlines ([] :: ls)) (List.map_congr_left fun l hl => ?_)
  refine Indent.realignLine_behind (fun heq => (h l hl).nonempty ?_) indent.toList
  exact String.toList_injective (List.append_eq_nil_iff.1 heq).2

end Indented

/-! ## §2. Bodies in their place. -/

namespace Outline

theorem isLine_lines {o : Outline} (ho : o.IsProper) : ∀ l ∈ o.lines, IsLine l := by
  induction o with
  | done => exact fun l hl => absurd hl List.not_mem_nil
  | line text rest ih => exact List.forall_mem_cons.2 ⟨ho.1, ih ho.2⟩
  | block r inner close body rest ihbody ihrest =>
    obtain ⟨-, -, hbody, hrest⟩ := ho
    intro l hl
    rcases List.mem_append.1 hl with hl | hl
    · obtain ⟨ls, hls, hl⟩ := List.mem_flatten.1 hl
      rw [List.eq_of_mem_replicate hls] at hl
      exact ihbody hbody l hl
    · exact ihrest hrest l hl

/-- **What a block writes is put behind the indentation of its marker.** -/
theorem placed_lines {body : Outline} (ho : body.IsProper) {inner : String}
    (hinner : IsMargin inner) (close indent : String) (q : Position) (r : Rounds) :
    placed (pipeMarker q r indent (body.baseline inner close)).note
        (copies (indented inner body.lines) r.count) =
      indented indent (List.replicate r.count body.lines).flatten := by
  have hplaced : ∀ base text, placed (pipeMarker q r indent base).note text =
      String.ofList (Indent.realign base.toList indent.toList text.toList) := fun _ _ => rfl
  have hlines : ∀ l ∈ (List.replicate r.count body.lines).flatten, IsLine l := by
    intro l hl
    obtain ⟨ls, hls, hl⟩ := List.mem_flatten.1 hl
    rw [List.eq_of_mem_replicate hls] at hl
    exact isLine_lines ho l hl
  have halign := realign_indented hinner indent hlines
  rw [hplaced, ← indented_flatten]
  cases body with
  | done =>
    -- without lines, nothing depends on the indentation
    have hempty : (List.replicate r.count done.lines).flatten = [] := by
      rw [List.flatten_eq_nil_iff]
      exact fun ls hls => List.eq_of_mem_replicate hls
    rw [hempty]
    show String.ofList (Indent.realign _ _ []) = ""
    unfold Indent.realign
    split <;> rfl
  | line text rest =>
    show String.ofList (Indent.realign inner.toList _ _) = _
    rw [halign, String.ofList_toList]
  | block r' inner' close' body rest =>
    show String.ofList (Indent.realign inner.toList _ _) = _
    rw [halign, String.ofList_toList]

end Outline

/-! ## §3. Walking an outline. -/

section Walking

variable {limit : Int} {context globals : Ref} {rounds n : Nat}

theorem Writes.behindText {p : Power} {fr : Frame} {before b : String}
    {texts ns : List (Node Placement)} (h : Writes context globals (walkBody p fr context ns) b)
    (htexts : IsText limit before texts) :
    Writes context globals (walkBody p fr context (texts ++ ns)) (before ++ b) := by
  rcases htexts with ⟨rfl, rfl⟩ | ⟨q, rfl, -⟩
  · rw [String.empty_append]
    exact h
  · exact .cons (.ofText q before) h

/-- **The walk of an outline writes its lines**, behind the text before it. -/
theorem Lays.writes {indent before : String} {o : Outline} {ns : List (Node Placement)}
    (h : Lays limit indent before o ns) (ho : o.IsProper) (hrounds : o.rounds < rounds) :
    Writes context globals (walkBody (power rounds n) { globals, behind := none } context ns)
      (before ++ indented indent o.lines) := by
  induction h with
  | done h =>
    have hnothing : Writes context globals (walkBody (power rounds n) { globals, behind := none }
      context []) "" := .nil
    have hwrites := hnothing.behindText h
    rw [List.append_nil] at hwrites
    exact hwrites
  | line _ ih =>
    have hwrites := ih ho.2 hrounds
    rw [Outline.lines, indented]
    simp only [String.append_assoc] at hwrites ⊢
    exact hwrites
  | @block indent before inner close r body rest p q texts inside ns htexts _ _ _ _ ihbody ihrest =>
    obtain ⟨hinner, -, hbody, hrest⟩ := ho
    have hcount : r.count < rounds := Nat.lt_of_le_of_lt (Nat.le_max_left _ _) hrounds
    have hinside := Nat.lt_of_le_of_lt (Nat.le_max_right _ _) hrounds
    have hwalk := ihbody hbody (Nat.lt_of_le_of_lt (Nat.le_max_left _ _) hinside)
    have hbehind := ihrest hrest (Nat.lt_of_le_of_lt (Nat.le_max_right _ _) hinside)
    rw [String.empty_append] at hwalk hbehind
    have hblock := Writes.block (m := pipeMarker q r indent (body.baseline inner close)) (q := p)
      hwalk hcount
    rw [if_pos (show (pipeMarker q r indent _).kind = .pipe from rfl),
      Outline.placed_lines hbody hinner] at hblock
    rw [Outline.lines, indented_append]
    exact .behindText (.cons hblock hbehind) htexts

end Walking

/-! ## §4. Rendering an outline. -/

/-- Is the last line of a text more than an indentation? -/
def EndsInLine (s : String) : Prop :=
  ∀ c ∈ (s.toList.reverse.dropWhile isIndent).head?, c ≠ '\n'

theorem endsInLine_single {s : String} (h : '\n' ∉ s.toList) : EndsInLine s := by
  rintro c hc rfl
  have hmem := (List.dropWhile_sublist _).subset (List.mem_of_mem_head? hc)
  exact h (List.mem_reverse.1 hmem)

theorem endsInLine_append {text : String} (hone : '\n' ∉ text.toList)
    (hink : ∃ c ∈ text.toList, isIndent c = false) (before : String) :
    EndsInLine (before ++ text) := by
  intro c hc
  rw [String.toList_append, List.reverse_append] at hc
  obtain ⟨d, hd, hink⟩ := hink
  have hsome : (text.toList.reverse.dropWhile isIndent) ≠ [] := by
    intro hnil
    have hall := List.dropWhile_eq_nil_iff.1 hnil d (List.mem_reverse.2 hd)
    rw [hall] at hink
    cases hink
  rw [List.dropWhile_append, if_neg (by rwa [List.isEmpty_iff]),
    List.head?_append_of_ne_nil _ hsome] at hc
  exact endsInLine_single hone c hc

/-- A source that ends in a line is compiled as it is, whatever happens to trailing newlines. -/
theorem prepared_of_endsInLine {s : String} (h : EndsInLine s) (env : Environment) :
    env.prepared s = s := by
  have hkeeps : Indent.dropLastLineString s = s := by
    unfold Indent.dropLastLineString Indent.dropLastLine
    split
    · rename_i r heq
      exact absurd rfl (h '\n' (by rw [heq]; rfl))
    · exact String.ofList_toList
  unfold Environment.prepared
  split
  · rfl
  · exact hkeeps

namespace Outline

variable {o : Outline} {first margin : String}

theorem endsInLine_source (ho : o.IsProper) (indent : String) {before : String}
    (h : EndsInLine before) : EndsInLine (before ++ o.source indent) := by
  induction o generalizing indent before with
  | done =>
    rw [source, String.append_empty]
    exact h
  | line text rest ih =>
    obtain ⟨htext, hrest⟩ := ho
    have hink : ∃ c ∈ text.toList, isIndent c = false := by
      obtain ⟨c, m, hm⟩ := List.exists_cons_of_ne_nil
        (fun heq => htext.nonempty (String.toList_injective heq) : text.toList ≠ [])
      exact ⟨c, hm ▸ List.mem_cons_self, htext.ink c (by rw [hm]; rfl)⟩
    rw [source, ← String.append_assoc]
    refine ih hrest indent ?_
    rw [← String.append_assoc]
    exact endsInLine_append htext.oneLine hink _
  | block r inner close body rest _ ihrest =>
    obtain ⟨-, -, -, hrest⟩ := ho
    rw [source, ← String.append_assoc]
    refine ihrest hrest indent ?_
    rw [← String.append_assoc]
    exact endsInLine_append (by decide) ⟨'<', by decide, rfl⟩ _

end Outline

section Rendering

variable {s : State} {o : Outline} {first margin : String}

theorem programOfSource_tree {origin : Origin} {source : String} {tree : Template Unit}
    (h : treeOfSource origin source = .ok tree) (program : List Stmt) :
    programOfSource origin source = .ok program ↔ build tree = .ok program := by
  rw [programOfSource_of_tree h, programOfTree]
  cases build tree with
  | error e => exact ⟨fun heq => (by cases heq), fun heq => (by cases heq)⟩
  | ok p =>
    show Except.ok p = Except.ok program ↔ _
    rw [Except.ok.injEq, Except.ok.injEq]

theorem compileTemplate_done_iff {source : String} {s : State}
    (h : s.world.environment.prepared source = source) (name filename : Option String)
    (t : CompiledTemplate) (s' : State) :
    compileTemplate source name filename s = .done t s' ↔
      ∃ program, programOfSource ⟨name, filename, some source⟩ source = .ok program
        ∧ t = ⟨s.world.compiled, name, filename, source, program⟩
        ∧ s' = { s with world := { s.world with compiled := s.world.compiled + 1 } } := by
  unfold compileTemplate Work.ofWorld World.compile Environment.compile
  dsimp only
  rw [h]
  cases programOfSource ⟨name, filename, some source⟩ source with
  | error f =>
    constructor
    · intro heq
      cases heq
    · rintro ⟨program, hprogram, -⟩
      cases hprogram
  | ok program =>
    constructor
    · intro heq
      obtain ⟨rfl, rfl⟩ := Outcome.done.inj heq
      exact ⟨program, rfl, rfl, rfl⟩
    · rintro ⟨program, hprogram, rfl, rfl⟩
      obtain rfl := Except.ok.inj hprogram
      rfl

/-- **An outline is compiled exactly if not too many loops, and not too many blocks, stand inside
each other.** -/
theorem compile_outline_iff (ho : o.IsProper) (hmargin : IsMargin margin)
    (hfirst : IsPlain first.toList) (hone : '\n' ∉ first.toList)
    (hlength : 1 + ((first ++ o.source margin).length : Int) < lineLimit)
    (name filename : Option String) (s : State) :
    (∃ t s', compileTemplate (first ++ o.source margin) name filename s = .done t s') ↔
      o.loops ≤ Place.maxDepth ∧ o.depth ≤ maxNesting := by
  have hends := Outline.endsInLine_source ho margin (endsInLine_single hone)
  obtain ⟨tree, htree, hunplaced, hroom⟩ := Outline.treeOfSource_outline ho hmargin hfirst
    ⟨name, filename, some (first ++ o.source margin)⟩
  rw [← Outline.build_outline_iff ho hmargin hunplaced hroom hlength]
  constructor
  · rintro ⟨t, s', h⟩
    obtain ⟨program, hprogram, -⟩ :=
      (compileTemplate_done_iff (prepared_of_endsInLine hends _) name filename t s').1 h
    exact ⟨program, (programOfSource_tree htree program).1 hprogram⟩
  · rintro ⟨program, hprogram⟩
    refine ⟨_, _, (compileTemplate_done_iff (prepared_of_endsInLine hends _) name filename _ _).2
      ⟨program, ?_, rfl, rfl⟩⟩
    exact (programOfSource_tree htree program).2 hprogram

/-- **Nested pipe blocks align all of their lines to the outermost markers.**  An outline that is
compiled and rendered gives its lines, each as often as its blocks walk their bodies. -/
theorem render_outline (hopen : s.IsOpen) (ho : o.IsProper) (hmargin : IsMargin margin)
    (hfirst : IsPlain first.toList) (hone : '\n' ∉ first.toList) (hloops : o.loops ≤ Place.maxDepth)
    (hdepth : o.depth ≤ maxNesting)
    (hlength : 1 + ((first ++ o.source margin).length : Int) < lineLimit)
    {bindings : List (String × Value)} (hvisible : ∀ b ∈ bindings, isVisibleName b.1 = true)
    (name filename : Option String) {rounds : Nat} (hrounds : o.rounds < rounds) (n : Nat) :
    ∃ s', (do
      let t ← compileTemplate (first ++ o.source margin) name filename
      (render (power rounds (n + 1)) t bindings : Run String) : Work State String) s =
        .done (first ++ indented margin o.lines) s' := by
  have hends := Outline.endsInLine_source ho margin (endsInLine_single hone)
  obtain ⟨tree, htree, hunplaced, hroom⟩ := Outline.treeOfSource_outline ho hmargin hfirst
    ⟨name, filename, some (first ++ o.source margin)⟩
  obtain ⟨program, hbuild, hannotates⟩ :=
    Outline.build_outline ho hmargin hunplaced hroom hlength hloops hdepth
  have hcompile := (compileTemplate_done_iff (s := s) (prepared_of_endsInLine hends _) name
    filename _ _).2 ⟨program, (programOfSource_tree htree program).2 hbuild, rfl, rfl⟩
  obtain ⟨s', hrender⟩ := render_of_writes (t := ⟨s.world.compiled, name, filename, _, program⟩)
    (s := { s with world := { s.world with compiled := s.world.compiled + 1 } }) hopen hbuild
    hannotates (fun _ _ => (Outline.lays_resolve ho hmargin hunplaced hroom).writes ho hrounds)
    hvisible
  exact ⟨s', (Work.bind_done _ hcompile).trans hrender⟩

end Rendering

theorem isOpen_start : ({} : State).IsOpen := State.isOpen_of_own_empty rfl

/-- A condition with two loops in a loop, each body with an indentation of its own. -/
def sampleOutline : Outline :=
  .line "a" (.block (.each 2) "\t" "   "
    (.block .once "" " \t" (.line "b" .done)
      (.block (.each 0) "  " "" (.line "never" .done)
        (.line "c" (.block (.each 1) " " "" .done .done))))
    (.line "z" .done))

theorem render_sampleOutline : sampleOutline.IsProper ∧ ∃ s', (do
    let t ← compileTemplate ("R" ++ sampleOutline.source "  ") none none
    (render fullPower t [] : Run String) : Work State String) {} =
      .done "R\n  a\n  b\n  c\n  b\n  c\n  z" s' := by
  have hproper : sampleOutline.IsProper := by decide
  have htext : "R" ++ indented "  " sampleOutline.lines = "R\n  a\n  b\n  c\n  b\n  c\n  z" := by
    rfl
  have hrounds : sampleOutline.rounds < maxRounds := by decide
  have hlength : 1 + (("R" ++ sampleOutline.source "  ").length : Int) < lineLimit := by
    decide +kernel
  have hpower : fullPower = power maxRounds (984 + 1) := rfl
  refine ⟨hproper, ?_⟩
  rw [← htext, hpower]
  exact render_outline isOpen_start hproper (by decide) (by decide) (by decide) (by decide)
    (by decide) hlength (fun _ hb => absurd hb List.not_mem_nil) none none hrounds 984

/-! ## §5. Too many blocks. -/

/-- So many empty blocks, each inside of the one before. -/
def nestedBlocks (r : Rounds) : Nat → Outline
  | 0 => .done
  | n + 1 => .block r "" "" (nestedBlocks r n) .done

section NestedBlocks

variable (r : Rounds)

theorem isProper_nestedBlocks (n : Nat) : (nestedBlocks r n).IsProper := by
  induction n with
  | zero => trivial
  | succ n ih => exact ⟨by decide, by decide, ih, trivial⟩

theorem loops_nestedBlocks (n : Nat) : (nestedBlocks r n).loops = n * r.loops := by
  induction n with
  | zero => exact (Nat.zero_mul _).symm
  | succ n ih =>
    rw [nestedBlocks, Outline.loops, ih, Outline.loops, Nat.max_zero, Nat.succ_mul]

theorem depth_nestedBlocks (n : Nat) : (nestedBlocks r n).depth = n := by
  induction n with
  | zero => rfl
  | succ n ih => rw [nestedBlocks, Outline.depth, ih, Outline.depth, Nat.max_zero]

theorem length_nestedBlocks (n : Nat) :
    ((nestedBlocks r n).source "").length = n * (r.header.length + 18) := by
  induction n with
  | zero => exact (Nat.zero_mul _).symm.trans (by rfl)
  | succ n ih =>
    rw [nestedBlocks, Outline.source, Outline.source]
    have hnewline : ("\n" : String).length = 1 := rfl
    have hopening : ("<%| " : String).length = 4 := rfl
    have hclosing : (" %>" : String).length = 3 := rfl
    have hstop : ("<% end %>" : String).length = 9 := rfl
    simp only [String.length_append, ih, String.length_empty, hnewline, hopening, hclosing, hstop]
    rw [Nat.succ_mul]
    omega

/-- Too many empty blocks inside each other are not compiled, and not rendered. -/
theorem not_render_of_deep {n : Nat} (hlength : n * (r.header.length + 18) < 1000000)
    (hdeep : ¬(n * r.loops ≤ Place.maxDepth ∧ n ≤ maxNesting)) (p : Power) (text : String) :
    ¬∃ s', (do
      let t ← compileTemplate ("R" ++ (nestedBlocks r n).source "") none none
      (render p t [] : Run String) : Work State String) {} = .done text s' := by
  rintro ⟨s', h⟩
  have hshort : 1 + (("R" ++ (nestedBlocks r n).source "").length : Int) < lineLimit := by
    have hone : ("R" : String).length = 1 := rfl
    rw [String.length_append, length_nestedBlocks, hone]
    unfold lineLimit
    omega
  have hmargin : IsMargin "" := by decide
  have hiff := compile_outline_iff (isProper_nestedBlocks r n) hmargin (by decide) (by decide)
    hshort none none {}
  rw [loops_nestedBlocks, depth_nestedBlocks] at hiff
  rw [Work.bind_apply] at h
  cases hcompile : compileTemplate ("R" ++ (nestedBlocks r n).source "") none none {} with
  | done t u => exact hdeep (hiff.1 ⟨t, u, hcompile⟩)
  | _ =>
    rw [hcompile] at h
    cases h

end NestedBlocks

/-- With one loop too many inside each other, or one block too many, nothing is rendered. -/
theorem not_render_nestedBlocks :
    ((nestedBlocks (.each 1) 21).IsProper ∧ ¬∃ s', (do
      let t ← compileTemplate ("R" ++ (nestedBlocks (.each 1) 21).source "") none none
      (render fullPower t [] : Run String) : Work State String) {} =
        .done ("R" ++ indented "" (nestedBlocks (.each 1) 21).lines) s') ∧
    (nestedBlocks .once 330).IsProper ∧ ¬∃ s', (do
      let t ← compileTemplate ("R" ++ (nestedBlocks .once 330).source "") none none
      (render fullPower t [] : Run String) : Work State String) {} =
        .done ("R" ++ indented "" (nestedBlocks .once 330).lines) s' := by
  refine ⟨⟨isProper_nestedBlocks _ _, ?_⟩, isProper_nestedBlocks _ _, ?_⟩
  · exact not_render_of_deep _ (by decide) (by decide) _ _
  · exact not_render_of_deep _ (by decide) (by decide) _ _

end Inlay
