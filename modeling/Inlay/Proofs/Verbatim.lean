/-
  Inlay.Proofs.Verbatim
  ────────────────────────────────
  **EVERY TEXT CAN BE WRITTEN AS IT IS.**

  A text with each `<%` written as `<%%` is the source of a template that
  renders as the text, whatever stands in it: ends of markers, escapes, line
  breaks of any kind, or the character zero.

      tokenize_escape     — the scanner finds the text as a single token
      treeOfSource_escape — which becomes a single node, on the first line
      render_escape       — and the walk of this node writes the text

  The node is on the first line however many lines the text has, so that no
  text is too long.
-/
import Inlay.Proofs.Aligning
import Inlay.Session

namespace Inlay

open Inlay.Program Inlay.Text

/-! ## §1. From a text to its tree. -/

/-- The text with each `<%` written as `<%%`. -/
def escape (text : String) : String := String.ofList (escaped text.toList)

/-- The tokens of an escaped text are the text, if it is not empty, and the end. -/
theorem tokenize_escape (text : String) : ∃ last,
    tokenize (escape text) = .ok (dataToken .start text.toList.reverse ++ [⟨.eof, "", last⟩]) := by
  obtain ⟨last, htokens⟩ := tokensOf_textPieces text.toList .start .start [] []
  have hnil : ([] : List Char).head? ≠ some '%' := by simp
  have hscan := scan_escaped text.toList hnil
  rw [List.append_nil, scan_nil] at hscan
  refine ⟨last, tokenize_ok_iff.2 ?_⟩
  rw [escape, String.toList_ofList, hscan]
  dsimp only
  rw [htokens, List.append_nil]
  exact ⟨rfl, rfl⟩

/-- **The tree of an escaped text is the text**, on the first line. -/
theorem treeOfSource_escape (o : Origin) (text : String) : ∃ tree,
    treeOfSource o (escape text) = .ok tree ∧ unplacedBody tree.body = textNodes text
      ∧ bodyHasRoom 1 tree.body := by
  obtain ⟨last, htokens⟩ := tokenize_escape text
  have hparse : ∀ {tree}, parse o.name (dataToken .start text.toList.reverse
      ++ [⟨.eof, "", last⟩]) = .ok tree → treeOfSource o (escape text) = .ok tree :=
    fun h => treeOfSource_ok_iff.2 ⟨_, htokens, h⟩
  unfold dataToken at hparse
  unfold textNodes
  by_cases hempty : text = ""
  · subst hempty
    exact ⟨⟨o.name, []⟩, hparse rfl, rfl, trivial⟩
  · have hne : ¬text.toList.reverse.isEmpty = true := by
      rw [List.isEmpty_iff, List.reverse_eq_nil_iff]
      exact fun hnil => hempty (String.toList_injective hnil)
    rw [if_neg hne, List.reverse_reverse, String.ofList_toList] at hparse
    rw [if_neg hempty]
    exact ⟨⟨o.name, [.text .start text]⟩, hparse rfl, rfl, ⟨Int.le_refl 1, Int.le_refl 1⟩, trivial⟩

/-! ## §2. The names of a render. -/

/-- Are all names visible to programs? -/
def AreVisible (bindings : List (String × Value)) : Prop :=
  ∀ b ∈ bindings, isVisibleName b.1 = true

theorem areVisible_bindName {name : String} (hname : isVisibleName name = true) (v : Value)
    {bindings : List (String × Value)} (h : AreVisible bindings) :
    AreVisible (bindName name v bindings) := by
  induction bindings with
  | nil => exact List.forall_mem_singleton.2 hname
  | cons b rest ih =>
    obtain ⟨hb, hrest⟩ := List.forall_mem_cons.1 h
    rw [bindName]
    split
    · exact List.forall_mem_cons.2 ⟨hb, hrest⟩
    · exact List.forall_mem_cons.2 ⟨hb, ih hrest⟩

theorem areVisible_bindAll {base extra : List (String × Value)} (hbase : AreVisible base)
    (hextra : AreVisible extra) : AreVisible (bindAll base extra) := by
  induction extra generalizing base with
  | nil => exact hbase
  | cons b extra ih =>
    obtain ⟨hb, hextra⟩ := List.forall_mem_cons.1 hextra
    exact ih (areVisible_bindName hb b.2 hbase) hextra

/-- The arguments of a render: none, or a dictionary, and others by name. -/
structure State.Binds (s : State) (args : List Value) (keywords : List (String × Value)) :
    Prop where
  atMostOne : args = [] ∨
    ∃ v d, args = [v] ∧ s.world.dictionaryOf? v = some d ∧ AreVisible d.bindings
  byName : AreVisible keywords
  /-- What is rendered is itself an argument, and this is its name. -/
  apart : ∀ b ∈ keywords, b.1 ≠ "self"
  globals : AreVisible s.world.environment.globals

section Arguments

variable {s : State} {args : List Value} {keywords : List (String × Value)}

theorem State.Binds.renderBindings_work (h : s.Binds args keywords) : ∃ bindings,
    (renderBindings args keywords).work s = .done bindings s ∧ AreVisible bindings := by
  have hbase : (Run.ask (·.environment.globals)).work s = .done s.world.environment.globals s := rfl
  unfold renderBindings
  rcases h.atMostOne with rfl | ⟨v, d, rfl, hd, hvisible⟩
  · refine ⟨bindAll s.world.environment.globals keywords, ?_, areVisible_bindAll h.globals h.byName⟩
    rw [Run.work_done _ hbase]
    rfl
  · have hask : (Run.ask (fun w => [v].head?.bind w.dictionaryOf?)).work s = .done (some d) s :=
      congrArg (Outcome.done · s) hd
    refine ⟨bindAll (bindAll s.world.environment.globals d.bindings) keywords, ?_,
      areVisible_bindAll (areVisible_bindAll h.globals hvisible) h.byName⟩
    rw [Run.work_done _ hbase]
    dsimp only
    rw [Run.work_done _ hask]
    rfl

/-- With such arguments, a call renders with visible names alone. -/
theorem State.Binds.renderCall_work (h : s.Binds args keywords) (p : Power) (mode : RenderMode)
    (t : CompiledTemplate) : ∃ bindings, AreVisible bindings
      ∧ (renderCall p mode t args keywords).work s = (render p t bindings).work s := by
  obtain ⟨bindings, hwork, hvisible⟩ := h.renderBindings_work
  refine ⟨bindings, hvisible, ?_⟩
  have hfind : keywords.find? (fun k => ["self"].contains k.1) = none := by
    rw [List.find?_eq_none]
    intro b hb
    simpa using h.apart b hb
  unfold renderCall refuseTaken
  rw [hfind]
  show (do
    let bindings ← renderBindings args keywords
    render p t bindings).work s = _
  rw [Run.work_done _ hwork]

end Arguments

/-! ## §3. Rendering a text. -/

section Rendering

variable {s : State} {args : List Value} {keywords : List (String × Value)}

/-- The program of an escaped text, and what the walk of its tree writes. -/
theorem programOfSource_escape (o : Origin) (text : String) (p : Power) : ∃ tree program,
    build tree = .ok program ∧ bodyAnnotates program = false
      ∧ programOfSource o (escape text) = .ok program
      ∧ ∀ context globals, Writes context globals
        (walkBody p { globals, behind := none } context (Indent.resolve tree).body) text := by
  obtain ⟨tree, htree, htext, hroom⟩ := treeOfSource_escape o text
  obtain ⟨program, hbuild, hannotates⟩ :=
    build_textNodes htext hroom (show (1 : Int) < Code.lineLimit by decide)
  refine ⟨tree, program, hbuild, hannotates, (programOfSource_tree htree program).2 hbuild,
    fun context globals => ?_⟩
  have hnothing : Writes context globals (walkBody p { globals, behind := none } context []) "" :=
    .nil
  have hwrites := hnothing.behindText (resolveBody_textNodes htext hroom none)
  rw [List.append_nil, String.append_empty] at hwrites
  exact hwrites

/-- **Every text can be rendered as it is.**  Where trailing newlines are kept, the source in which
each `<%` of a text is written as `<%%` is compiled, and renders as the text, with any visible
names bound. -/
theorem render_escape (text : String) (hopen : s.IsOpen)
    (hkeeps : s.world.environment.keepsTrailingNewline = true) (hbinds : s.Binds args keywords)
    (name filename : Option String) (mode : RenderMode) (rounds n : Nat) :
    ∃ s', (do
      let t ← compileTemplate (escape text) name filename
      (renderCall (power rounds (n + 1)) mode t args keywords : Run String) : Work State String) s =
        .done text s' := by
  obtain ⟨tree, program, hbuild, hannotates, hprogram, hwrites⟩ :=
    programOfSource_escape ⟨name, filename, some (escape text)⟩ text (power rounds n)
  have hprepared : s.world.environment.prepared (escape text) = escape text := if_pos hkeeps
  have hcompile := (compileTemplate_done_iff hprepared name filename _ _).2
    ⟨program, hprogram, rfl, rfl⟩
  have hbinds' : State.Binds { s with world := { s.world with compiled := s.world.compiled + 1 } }
      args keywords := ⟨hbinds.atMostOne, hbinds.byName, hbinds.apart, hbinds.globals⟩
  obtain ⟨bindings, hvisible, hcall⟩ := hbinds'.renderCall_work (power rounds (n + 1)) mode
    ⟨s.world.compiled, name, filename, escape text, program⟩
  obtain ⟨s', hrender⟩ := render_of_writes (t := ⟨s.world.compiled, name, filename, _, program⟩)
    (s := { s with world := { s.world with compiled := s.world.compiled + 1 } }) hopen hbuild
    hannotates hwrites hvisible
  exact ⟨s', (Work.bind_done _ hcompile).trans (hcall.trans hrender)⟩

/-- A text of openers, ends and escapes, some of them across each other, and of line breaks. -/
def troublesomeText : String := "<<%%%><%<%%>%%>\n\t<%= include('x') %>\u2028\x00\r\n<%#\n<%"

theorem render_escape_troublesomeText : ({} : State).Binds [] [("x", .int 1)] ∧ ∃ s', (do
    let t ← compileTemplate
      "<<%%%%><%%<%%%>%%>\n\t<%%= include('x') %>\u2028\x00\r\n<%%#\n<%%" none none
    (renderCall fullPower .atOnce t [] [("x", .int 1)] : Run String) : Work State String) {} =
      .done troublesomeText s' := by
  have hbinds : ({} : State).Binds [] [("x", .int 1)] :=
    ⟨Or.inl rfl, by unfold AreVisible; decide, by decide, fun _ hb => absurd hb List.not_mem_nil⟩
  have hsource : escape troublesomeText =
      "<<%%%%><%%<%%%>%%>\n\t<%%= include('x') %>\u2028\x00\r\n<%%#\n<%%" := by decide +kernel
  have hpower : fullPower = power maxRounds (984 + 1) := rfl
  refine ⟨hbinds, ?_⟩
  rw [← hsource, hpower]
  exact render_escape troublesomeText isOpen_start rfl hbinds none none .atOnce maxRounds 984

end Rendering

end Inlay
