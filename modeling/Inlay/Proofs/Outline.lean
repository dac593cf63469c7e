/-
  Inlay.Proofs.Outline
  ────────────────────────────────
  **NESTED PIPE BLOCKS.**

  An outline is lines and blocks of further items, each block with an
  indentation of its own.  It is written as a template, a line or a marker on
  each line:

      first
      margin<%| for _ in [1, 1]: %>
      inner  line
      close<% end %>

  The tree of such a template is the outline again, its resolved tree has the
  lines of markers dropped, and building it succeeds unless too many loops or
  too many blocks stand inside each other.
-/
import Inlay.Proofs.HeaderCode
import Inlay.Proofs.Including

namespace Inlay

open Inlay.Code Inlay.Program Inlay.Text

/-! ## §1. Outlines. -/

/-- Items, one after the other: lines, and blocks of further items.  A block has an indentation
inside, and another one in front of its end. -/
inductive Outline where
  | done
  | line (text : String) (rest : Outline)
  | block (rounds : Rounds) (inner close : String) (body rest : Outline)
  deriving Repr, DecidableEq

/-- Is the text made of spaces and tabs? -/
def IsMargin (s : String) : Prop := ∀ c ∈ s.toList, isIndent c = true

instance (s : String) : Decidable (IsMargin s) :=
  decidable_of_iff (s.toList.all isIndent = true) List.all_eq_true

/-- Can the text stand on a line behind an indentation? -/
structure IsLine (text : String) : Prop where
  nonempty : text ≠ ""
  oneLine : '\n' ∉ text.toList
  plain : IsPlain text.toList
  ink : ∀ c ∈ text.toList.head?, isIndent c = false

instance (text : String) : Decidable (IsLine text) :=
  decidable_of_iff (text ≠ "" ∧ '\n' ∉ text.toList ∧ IsPlain text.toList
      ∧ text.toList.head?.all (fun c => !isIndent c) = true) <| by
    rw [Option.all_eq_true]
    simp only [Bool.not_eq_true']
    exact ⟨fun ⟨h₁, h₂, h₃, h₄⟩ => ⟨h₁, h₂, h₃, h₄⟩, fun ⟨h₁, h₂, h₃, h₄⟩ => ⟨h₁, h₂, h₃, h₄⟩⟩

namespace Outline

/-- The items as they are written at an indentation. -/
def source : Outline → String → String
  | done, _ => ""
  | line text rest, indent => "\n" ++ indent ++ text ++ rest.source indent
  | block r inner close body rest, indent =>
    "\n" ++ indent ++ "<%| " ++ r.header ++ " %>" ++ body.source inner
      ++ "\n" ++ close ++ "<% end %>" ++ rest.source indent

/-- The lines of the items, those of a block as often as it walks its body. -/
def lines : Outline → List String
  | done => []
  | line text rest => text :: rest.lines
  | block r _ _ body rest => (List.replicate r.count body.lines).flatten ++ rest.lines

/-- So many loops stand inside each other. -/
def loops : Outline → Nat
  | done => 0
  | line _ rest => rest.loops
  | block r _ _ body rest => max (body.loops + r.loops) rest.loops

/-- So many blocks stand inside each other. -/
def depth : Outline → Nat
  | done => 0
  | line _ rest => rest.depth
  | block _ _ _ body rest => max (body.depth + 1) rest.depth

/-- No block walks its body more often than this. -/
def rounds : Outline → Nat
  | done => 0
  | line _ rest => rest.rounds
  | block r _ _ body rest => max r.count (max body.rounds rest.rounds)

/-- Are all lines lines, and all indentations spaces and tabs? -/
def IsProper : Outline → Prop
  | done => True
  | line text rest => IsLine text ∧ rest.IsProper
  | block _ inner close body rest =>
    IsMargin inner ∧ IsMargin close ∧ body.IsProper ∧ rest.IsProper

instance isProperDecidable : (o : Outline) → Decidable o.IsProper
  | done => isTrue trivial
  | line text rest =>
    have := rest.isProperDecidable
    inferInstanceAs (Decidable (IsLine text ∧ rest.IsProper))
  | block _ inner close body rest =>
    have := body.isProperDecidable
    have := rest.isProperDecidable
    inferInstanceAs (Decidable (IsMargin inner ∧ IsMargin close ∧ body.IsProper ∧ rest.IsProper))

/-- The items as nodes.  A text goes on up to the next marker: it begins with what stands `before`
the items, and ends with what stands `behind` them. -/
def nodes : Outline → String → String → String → List (Node Unit)
  | done, _, before, behind => textNodes (before ++ behind)
  | line text rest, indent, before, behind =>
    rest.nodes indent (before ++ "\n" ++ indent ++ text) behind
  | block r inner close body rest, indent, before, behind =>
    .text nowhere (before ++ "\n" ++ indent) ::
      .block ⟨nowhere, .pipe, r.header, ()⟩
        [.mk nowhere r.header (body.nodes inner "" ("\n" ++ close))] ::
      rest.nodes indent "" behind

end Outline

/-! ## §2. Lines and indentations. -/

theorem toList_newline : ("\n" : String).toList = ['\n'] := rfl

theorem toList_lineOf (before indent text : String) : (before ++ "\n" ++ indent ++ text).toList =
    before.toList ++ '\n' :: (indent.toList ++ text.toList) := by
  simp only [String.toList_append, toList_newline, List.append_assoc, List.cons_append,
    List.nil_append]

theorem append_newline_ne (before indent : String) : before ++ "\n" ++ indent ≠ "" := by
  intro h
  have hlist := congrArg String.toList h
  rw [String.toList_append, String.toList_append, List.append_assoc] at hlist
  exact absurd (List.append_eq_nil_iff.1 hlist).2 (List.cons_ne_nil _ _)

section Margins

variable {before indent text : String}

theorem IsMargin.not_mem (h : IsMargin indent) {c : Char} (hc : isIndent c = false) :
    c ∉ indent.toList := by
  intro hmem
  rw [h c hmem] at hc
  cases hc

/-- What follows an indentation holds an opener if that together does. -/
theorem isPlain_margin (h : IsMargin indent) (ht : IsPlain text.toList) :
    IsPlain (indent.toList ++ text.toList) := by
  unfold IsMargin at h
  generalize indent.toList = s at h ⊢
  induction s with
  | nil => exact ht
  | cons c s ih =>
    obtain ⟨hc, hs⟩ := List.forall_mem_cons.1 h
    rw [List.cons_append, isPlain_cons]
    refine ⟨?_, ih hs⟩
    rintro ⟨rfl, -⟩
    exact absurd hc (by decide)

theorem isPlain_lineOf (hbefore : IsPlain before.toList) (hindent : IsMargin indent)
    (ht : IsPlain text.toList) : IsPlain (before ++ "\n" ++ indent ++ text).toList := by
  rw [toList_lineOf]
  refine isPlain_append hbefore (isPlain_cons.2 ⟨?_, isPlain_margin hindent ht⟩) ?_
  · exact fun h => absurd h.1 (by decide)
  · exact fun h => absurd (Option.some.inj h) (by decide)

theorem isPlain_marginOf (hbefore : IsPlain before.toList) (hindent : IsMargin indent) :
    IsPlain (before ++ "\n" ++ indent).toList := by
  have hnothing : IsPlain "".toList := by decide
  have h := isPlain_lineOf hbefore hindent hnothing
  rwa [String.append_empty] at h

end Margins

/-! ## §3. Their trees are printed. -/

namespace Outline

theorem bodyWellFormed_nodes (o : Outline) (indent before behind : String) :
    bodyWellFormed (o.nodes indent before behind) = true := by
  induction o generalizing indent before behind with
  | done => exact wellFormed_textNodes _
  | line text rest ih => exact ih indent _ behind
  | block r inner close body rest ihbody ihrest =>
    have hnotText : Node.isText (.block ⟨nowhere, .pipe, r.header, ()⟩
      [.mk nowhere r.header (body.nodes inner "" ("\n" ++ close))] : Node Unit) = false := rfl
    simp [nodes, bodyWellFormed, Node.wellFormed, clausesWellFormed, hnotText,
      append_newline_ne before indent, r.lacksEnd_header, r.opensBlock_header, ihbody, ihrest]

theorem spellAll_append (ts us : List Lexed) : spellAll (ts ++ us) = spellAll ts ++ spellAll us :=
  List.flatMap_append

/-- The nodes of an outline are printed as its source, with the text before and behind it. -/
theorem spellAll_nodes {o : Outline} (ho : o.IsProper) {indent before behind : String}
    (hindent : IsMargin indent) (hbefore : IsPlain before.toList)
    (hbehind : IsPlain behind.toList) (hhead : behind.toList.head? ≠ some '%') :
    spellAll (flatBody (o.nodes indent before behind)) =
      (before ++ o.source indent ++ behind).toList := by
  induction o generalizing indent before behind with
  | done =>
    have hplain : IsPlain (before ++ behind).toList := by
      rw [String.toList_append]
      exact isPlain_append hbefore hbehind hhead
    rw [nodes, spellAll_textNodes hplain, source, String.append_empty]
  | line text rest ih =>
    obtain ⟨htext, hrest⟩ := ho
    rw [nodes, ih hrest hindent (isPlain_lineOf hbefore hindent htext.plain) hbehind hhead, source]
    simp only [String.append_assoc]
  | block r inner close body rest ihbody ihrest =>
    obtain ⟨hinner, hclose, hbody, hrest⟩ := ho
    have hend : IsPlain ("\n" ++ close).toList := by
      have h := isPlain_marginOf (show IsPlain "".toList by decide) hclose
      rwa [String.empty_append] at h
    have hnewline : ("\n" ++ close).toList.head? ≠ some '%' := by
      rw [String.toList_append]
      exact fun h => absurd (Option.some.inj h) (by decide)
    have hbodySource := ihbody hbody hinner (show IsPlain "".toList by decide) hend hnewline
    have hrestSource := ihrest hrest hindent (show IsPlain "".toList by decide) hbehind hhead
    have hflat : flatBody ((block r inner close body rest).nodes indent before behind) =
        [⟨.data, before ++ "\n" ++ indent⟩] ++ ([.marker .pipe r.header] ++
          (flatBody (body.nodes inner "" ("\n" ++ close)) ++ ([.blockEnd] ++
            flatBody (rest.nodes indent "" behind)))) := by
      show [_] ++ ((_ :: (_ ++ ([] ++ [Lexed.blockEnd]))) ++ _) = _
      simp only [List.nil_append, List.cons_append, List.append_assoc]
    have htext : spellAll [⟨.data, before ++ "\n" ++ indent⟩] =
        (before ++ "\n" ++ indent).toList := by
      show escaped _ ++ [] = _
      rw [List.append_nil, escaped_plain (isPlain_marginOf hbefore hindent)]
    have hmarker : spellAll [.marker .pipe r.header] = ("<%| " ++ r.header ++ " %>").toList := by
      show '<' :: '%' :: ('|' :: ' ' :: r.header.toList ++ [' ', '%', '>']) ++ [] = _
      rw [List.append_nil, String.toList_append, String.toList_append]
      rfl
    have hstop : spellAll [.blockEnd] = ("<% end %>" : String).toList := rfl
    rw [hflat, spellAll_append, spellAll_append, spellAll_append, spellAll_append, htext, hmarker,
      hbodySource, hstop, hrestSource, source]
    simp only [String.toList_append, List.append_assoc, String.toList_empty, List.nil_append]

end Outline

/-! ## §4. Dropping the lines of markers. -/

section Dropping

open Inlay.Indent

variable {before indent : String}

theorem toList_marginOf (before indent : String) :
    (before ++ "\n" ++ indent).toList = before.toList ++ '\n' :: indent.toList := by
  have h := toList_lineOf before indent ""
  rwa [String.append_empty, String.toList_empty, List.append_nil] at h

theorem takeWhile_margin (h : IsMargin indent) (s : List Char) :
    (indent.toList.reverse ++ '\n' :: s).takeWhile isIndent = indent.toList.reverse
      ∧ (indent.toList.reverse ++ '\n' :: s).dropWhile isIndent = '\n' :: s := by
  have hall : ∀ c ∈ indent.toList.reverse, isIndent c = true :=
    fun c hc => h c (List.mem_reverse.1 hc)
  constructor
  · rw [List.takeWhile_append_of_pos hall]
    exact List.append_nil _
  · rw [List.dropWhile_append_of_pos hall]
    rfl

theorem reverse_marginOf (before indent : String) : (before ++ "\n" ++ indent).toList.reverse =
    indent.toList.reverse ++ '\n' :: before.toList.reverse := by
  rw [toList_marginOf, List.reverse_append, List.reverse_cons, List.append_assoc,
    List.singleton_append]

/-- The indentation in front of a marker. -/
theorem trailingString_marginOf (h : IsMargin indent) :
    trailingString (before ++ "\n" ++ indent) = indent := by
  unfold trailingString trailing
  rw [reverse_marginOf, (takeWhile_margin h _).1, List.reverse_reverse, String.ofList_toList]

/-- The line of a marker is dropped. -/
theorem dropLastLineString_marginOf (h : IsMargin indent) :
    dropLastLineString (before ++ "\n" ++ indent) = before := by
  unfold dropLastLineString dropLastLine
  rw [reverse_marginOf, (takeWhile_margin h _).2]
  show String.ofList before.toList.reverse.reverse = before
  rw [List.reverse_reverse, String.ofList_toList]

/-- The indentation of a first line is found, whatever stands on the line. -/
theorem baseline?_line (h : IsMargin indent) {s : List Char}
    (hs : ∀ c ∈ s.head?, isIndent c = false ∧ c ≠ '\n') :
    baseline? ('\n' :: (indent.toList ++ s)) = some indent.toList := by
  have hdrop : (indent.toList ++ s).dropWhile (· == '\n') = indent.toList ++ s := by
    have hhead : ∀ c ∈ (indent.toList ++ s).head?, (c == '\n') = false := by
      intro c hc
      rw [beq_eq_false_iff_ne]
      rintro rfl
      rw [List.head?_append] at hc
      cases hi : indent.toList with
      | nil =>
        rw [hi] at hc
        exact (hs _ hc).2 rfl
      | cons d m =>
        rw [hi] at hc
        obtain rfl := Option.some.inj hc
        exact h.not_mem (by decide) (hi ▸ List.mem_cons_self)
    cases hi : indent.toList ++ s with
    | nil => rfl
    | cons c m =>
      rw [hi] at hhead
      rw [List.dropWhile_cons, hhead c rfl]
      rfl
  have hstop : s.takeWhile isIndent = [] := by
    cases s with
    | nil => rfl
    | cons c m =>
      rw [List.takeWhile_cons, (hs c rfl).1]
      rfl
  show some (((indent.toList ++ s).dropWhile (· == '\n')).takeWhile isIndent) = _
  rw [hdrop, List.takeWhile_append_of_pos (fun c hc => h c hc), hstop, List.append_nil]

end Dropping

namespace Outline

open Inlay.Indent

/-- The indentation that the body of a block shows: that of its first item, or of its end. -/
def baseline (inner close : String) : Outline → String
  | done => close
  | line _ _ => inner
  | block _ _ _ _ _ => inner

/-- The first node of an outline is the text that stands before it, with more behind. -/
theorem nodes_text (o : Outline) (indent before behind : String) (hne : before ≠ "") :
    ∃ more ns, o.nodes indent before behind = .text nowhere (before ++ more) :: ns := by
  induction o generalizing before with
  | done =>
    refine ⟨behind, [], ?_⟩
    have hboth : before ++ behind ≠ "" := fun h => hne (String.append_eq_empty_iff.1 h).1
    rw [nodes, textNodes, if_neg hboth]
  | line text rest ih =>
    have hline : before ++ "\n" ++ indent ++ text ≠ "" := by
      rw [String.append_assoc]
      exact append_newline_ne before (indent ++ text)
    obtain ⟨more, ns, h⟩ := ih _ hline
    refine ⟨"\n" ++ indent ++ text ++ more, ns, ?_⟩
    rw [nodes, h]
    simp only [String.append_assoc]
  | block r inner close body rest =>
    refine ⟨"\n" ++ indent, (.block ⟨nowhere, .pipe, r.header, ()⟩
      [.mk nowhere r.header (body.nodes inner "" ("\n" ++ close))] ::
        rest.nodes indent "" behind), ?_⟩
    rw [nodes, String.append_assoc]

/-- The nodes of a body begin with the indentation that it shows. -/
theorem nodes_baseline {o : Outline} (ho : o.IsProper) {inner close : String}
    (hinner : IsMargin inner) (hclose : IsMargin close) :
    ∃ v ns, o.nodes inner "" ("\n" ++ close) = .text nowhere v :: ns
      ∧ baseline? v.toList = some (o.baseline inner close).toList := by
  cases o with
  | done =>
    refine ⟨"\n" ++ close, [], ?_, ?_⟩
    · have hne : "" ++ ("\n" ++ close) ≠ "" := by
        rw [← String.append_assoc]
        exact append_newline_ne "" close
      rw [nodes, textNodes, if_neg hne, String.empty_append]
    · have h := baseline?_line hclose (s := []) (fun c hc => absurd hc (Option.not_mem_none c))
      rw [List.append_nil] at h
      rw [String.toList_append]
      exact h
  | line text rest =>
    obtain ⟨htext, -⟩ := ho
    have hne : "" ++ "\n" ++ inner ++ text ≠ "" := by
      rw [String.append_assoc]
      exact append_newline_ne "" (inner ++ text)
    obtain ⟨more, ns, h⟩ := rest.nodes_text inner _ ("\n" ++ close) hne
    refine ⟨_, ns, h, ?_⟩
    obtain ⟨c, m, hm⟩ := List.exists_cons_of_ne_nil
      (fun heq => htext.nonempty (String.toList_injective heq) : text.toList ≠ [])
    rw [String.toList_append, toList_lineOf]
    show baseline? ('\n' :: (inner.toList ++ text.toList) ++ more.toList) = _
    rw [List.cons_append, List.append_assoc]
    refine baseline?_line hinner (fun d hd => ?_)
    rw [hm] at hd
    obtain rfl := Option.some.inj hd
    refine ⟨htext.ink c (by rw [hm]; rfl), ?_⟩
    rintro rfl
    exact htext.oneLine (hm ▸ List.mem_cons_self)
  | block r inner' close' body rest =>
    refine ⟨"" ++ "\n" ++ inner, _, rfl, ?_⟩
    have h := baseline?_line hinner (s := []) (fun c hc => absurd hc (Option.not_mem_none c))
    rw [List.append_nil] at h
    rw [toList_marginOf]
    exact h

end Outline

/-! ## §5. Their resolved trees. -/

theorem of_unplaced_block {n : Node Unit} {p q : Position} {kind : MarkerKind} {code head : String}
    {ns : List (Node Unit)} (h : n.unplaced = .block ⟨p, kind, code, ()⟩ [.mk q head ns]) :
    ∃ p' q' body, n = .block ⟨p', kind, code, ()⟩ [.mk q' head body] ∧ unplacedBody body = ns := by
  cases n with
  | text p' v => simp [Node.unplaced] at h
  | expr m => simp [Node.unplaced] at h
  | block m clauses =>
    obtain ⟨p', kind', code', note⟩ := m
    simp only [Node.unplaced, Marker.unplaced, Node.block.injEq, Marker.mk.injEq] at h
    obtain ⟨⟨-, rfl, rfl, -⟩, hclauses⟩ := h
    cases clauses with
    | nil => simp [unplacedClauses] at hclauses
    | cons c rest =>
      obtain ⟨q', head', body⟩ := c
      cases rest with
      | nil =>
        simp only [unplacedClauses, List.cons.injEq, Clause.mk.injEq, and_true] at hclauses
        obtain ⟨-, rfl, hbody⟩ := hclauses
        exact ⟨p', q', body, rfl, hbody⟩
      | cons c' rest =>
        obtain ⟨q'', head'', body'⟩ := c'
        simp [unplacedClauses] at hclauses

/-- Are these nodes a text, or nothing if it is empty? -/
def IsText (limit : Int) (text : String) (ns : List (Node Placement)) : Prop :=
  (ns = [] ∧ text = "") ∨ ∃ p, ns = [.text p text] ∧ p.HasRoom limit 0

/-- The marker of a pipe block, resolved. -/
def pipeMarker (q : Position) (r : Rounds) (indent baseline : String) : Marker Placement :=
  ⟨q, .pipe, r.header, { indentation := indent, baseline := some baseline }⟩

/-- Are these nodes the items of an outline at an indentation, behind a text, with the lines of
markers dropped? -/
inductive Lays (limit : Int) : String → String → Outline → List (Node Placement) → Prop
  | done {indent before : String} {ns : List (Node Placement)} (h : IsText limit before ns) :
      Lays limit indent before .done ns
  | line {indent before text : String} {rest : Outline} {ns : List (Node Placement)}
      (h : Lays limit indent (before ++ "\n" ++ indent ++ text) rest ns) :
      Lays limit indent before (.line text rest) ns
  | block {indent before inner close : String} {r : Rounds} {body rest : Outline} {p q : Position}
      {texts inside ns : List (Node Placement)} (htexts : IsText limit before texts)
      (hq : q.HasRoom limit r.header.length) (hp : p.HasRoom limit 0)
      (hbody : Lays limit inner "" body inside) (hrest : Lays limit indent "" rest ns) :
      Lays limit indent before (.block r inner close body rest)
        (texts ++ .block (pipeMarker q r indent (body.baseline inner close))
          [.mk p r.header inside] :: ns)

section Resolving

open Inlay.Indent

variable {limit : Int}

theorem isText_unlessEmpty {p : Position} (hp : p.HasRoom limit 0) (text : String) :
    IsText limit text (textUnlessEmpty p text) := by
  unfold textUnlessEmpty
  by_cases hempty : text.isEmpty = true
  · rw [if_pos hempty]
    exact Or.inl ⟨rfl, String.isEmpty_iff.1 hempty⟩
  · rw [if_neg hempty]
    exact Or.inr ⟨p, rfl, hp⟩

/-- Does something that is done to the nodes of a body drop the text behind the last item, and
nothing else? -/
structure Drops (limit : Int) (behind : String)
    (f : List (Node Placement) → List (Node Placement)) : Prop where
  nothing : f [] = []
  text : ∀ before p, p.HasRoom limit 0 →
    IsText limit before (f (textUnlessEmpty p (before ++ behind)))
  block : ∀ ns m cs ns', f (ns ++ .block m cs :: ns') = ns ++ .block m cs :: f ns'

theorem drops_nothing : Drops limit "" id where
  nothing := rfl
  text := by
    intro before p hp
    rw [String.append_empty]
    exact isText_unlessEmpty hp before
  block := fun _ _ _ _ => rfl

theorem trimLast_block (ns ns' : List (Node Placement)) (m : Marker Placement)
    (cs : List (Clause Placement)) :
    trimLast (ns ++ .block m cs :: ns') = ns ++ .block m cs :: trimLast ns' := by
  cases hlast : ns'.getLast? with
  | none =>
    obtain rfl := List.getLast?_eq_none_iff.1 hlast
    unfold trimLast
    rw [List.getLast?_append]
    rfl
  | some n =>
    have hboth : (ns ++ .block m cs :: ns').getLast? = some n := by
      rw [List.getLast?_append, List.getLast?_cons, hlast]
      rfl
    unfold trimLast
    rw [hboth, hlast]
    cases n with
    | text p v =>
      have hne : ns' ≠ [] := by
        rintro rfl
        cases hlast
      dsimp only
      rw [List.dropLast_append_cons, List.dropLast_cons_of_ne_nil hne, List.append_assoc,
        List.cons_append]
    | expr m' => rfl
    | block m' cs' => rfl

theorem drops_lastLine {close : String} (h : IsMargin close) :
    Drops limit ("\n" ++ close) trimLast where
  nothing := rfl
  text := by
    intro before p hp
    have hne : ¬(before ++ ("\n" ++ close)).isEmpty = true := by
      rw [String.isEmpty_iff, ← String.append_assoc]
      exact append_newline_ne before close
    have htrim : trimLast (textUnlessEmpty p (before ++ ("\n" ++ close))) =
        textUnlessEmpty p before := by
      unfold textUnlessEmpty
      rw [if_neg hne]
      show [] ++ textUnlessEmpty p (dropLastLineString (before ++ ("\n" ++ close))) = _
      rw [← String.append_assoc, dropLastLineString_marginOf h]
      rfl
    rw [htrim]
    exact isText_unlessEmpty hp before
  block := fun ns m cs ns' => trimLast_block ns ns' m cs

/-- The baseline of a block is the indentation that its body shows. -/
theorem blockBaseline_outline {body : Outline} (ho : body.IsProper) {inner close : String}
    (hinner : IsMargin inner) (hclose : IsMargin close) {inside : List (Node Unit)}
    (h : unplacedBody inside = body.nodes inner "" ("\n" ++ close)) (indent : String) (p : Position)
    (r : Rounds) :
    blockBaseline indent [.mk p r.header inside] = body.baseline inner close := by
  obtain ⟨v, ns, hnodes, hv⟩ := Outline.nodes_baseline ho hinner hclose
  obtain ⟨n, rest, rfl, hn, -⟩ := of_unplacedBody_cons (h.trans hnodes)
  obtain ⟨q, rfl⟩ := of_unplaced_text hn
  have hbody : bodyBaseline? (.text q v :: rest) = some (body.baseline inner close) := by
    show (baseline? v.toList).map String.ofList = _
    rw [hv, Option.map_some, String.ofList_toList]
  unfold blockBaseline
  rw [r.hasBody_header, hbody]
  rfl

/-- A text and a block behind it, resolved. -/
theorem resolveBody_block {before indent : String} (hindent : IsMargin indent)
    (previous : Option (Node Unit)) (t p q : Position) (r : Rounds) (inside ns : List (Node Unit)) :
    resolveBody previous (.text t (before ++ "\n" ++ indent) ::
        .block ⟨q, .pipe, r.header, ()⟩ [.mk p r.header inside] :: ns) =
      textUnlessEmpty t before ++
        .block (pipeMarker q r indent (blockBaseline indent [.mk p r.header inside]))
          [.mk p r.header (trimLast (resolveBody none inside))] ::
        resolveBody (some (.block ⟨q, .pipe, r.header, ()⟩ [.mk p r.header inside])) ns := by
  have hafter : indentationAfter (some (.text t (before ++ "\n" ++ indent))) = indent :=
    trailingString_marginOf hindent
  rw [resolveBody, resolveBody, resolveNode, resolveNode, if_pos rfl, hafter]
  show textUnlessEmpty t (dropLastLineString (before ++ "\n" ++ indent)) ++ _ = _
  rw [dropLastLineString_marginOf hindent, resolveClauses, resolveClauses]
  rfl

/-- **Resolving the tree of an outline drops the lines of its markers**, and notes the indentation
of each body. -/
theorem lays_resolveBody {o : Outline} (ho : o.IsProper) {indent before behind : String}
    (hindent : IsMargin indent) {f : List (Node Placement) → List (Node Placement)}
    (hf : Drops limit behind f) {body : List (Node Unit)}
    (h : unplacedBody body = o.nodes indent before behind) (hroom : bodyHasRoom limit body)
    (previous : Option (Node Unit)) :
    Lays limit indent before o (f (resolveBody previous body)) := by
  induction o generalizing indent before behind f body previous with
  | done =>
    refine .done ?_
    rcases of_unplaced_textNodes h with ⟨rfl, hempty⟩ | ⟨p, rfl⟩
    · exact Or.inl ⟨hf.nothing, (String.append_eq_empty_iff.1 hempty).1⟩
    · have hone : resolveBody previous [.text p (before ++ behind)] =
          textUnlessEmpty p (before ++ behind) := by
        rw [resolveBody, resolveBody, List.append_nil]
        rfl
      rw [hone]
      exact hf.text before p hroom.1
  | line text rest ih => exact .line (ih ho.2 hindent hf h hroom previous)
  | block r inner close inside rest ihinside ihrest =>
    obtain ⟨hinner, hclose, hinside, hrest⟩ := ho
    obtain ⟨t, ms, rfl, ht, hms⟩ := of_unplacedBody_cons h
    obtain ⟨b, ns, rfl, hb, hns⟩ := of_unplacedBody_cons hms
    obtain ⟨t, rfl⟩ := of_unplaced_text ht
    obtain ⟨q, p, body, rfl, hbody⟩ := of_unplaced_block hb
    obtain ⟨hroomText, ⟨hroomMarker, hroomClause, hroomBody, -⟩, hroomRest⟩ := hroom
    rw [resolveBody_block hindent, hf.block, blockBaseline_outline hinside hinner hclose hbody]
    exact .block (isText_unlessEmpty hroomText before) hroomMarker hroomClause.zero
      (ihinside hinside hinner (drops_lastLine hclose) hbody hroomBody none)
      (ihrest hrest hindent hf hns hroomRest _)

end Resolving

/-! ## §6. How deep blocks stand. -/

theorem nodeNests_text (n : Nat) (p : Position) (v : String) : nodeNests n (.text p v) = true := by
  cases n <;> rfl

/-- The blocks of a tree nest as deep as those of its outline. -/
theorem bodyNests_outline {o : Outline} {indent before behind : String} {body : List (Node Unit)}
    (h : unplacedBody body = o.nodes indent before behind) (n : Nat) :
    bodyNests n body = decide (o.depth ≤ n) := by
  induction o generalizing indent before behind body n with
  | done =>
    rw [Outline.depth, decide_eq_true (Nat.zero_le n)]
    rcases of_unplaced_textNodes h with ⟨rfl, -⟩ | ⟨p, rfl⟩
    · rfl
    · rw [bodyNests, nodeNests_text]
      rfl
  | line text rest ih => exact ih h n
  | block r inner close inside rest ihinside ihrest =>
    obtain ⟨t, ms, rfl, ht, hms⟩ := of_unplacedBody_cons h
    obtain ⟨b, ns, rfl, hb, hns⟩ := of_unplacedBody_cons hms
    obtain ⟨t, rfl⟩ := of_unplaced_text ht
    obtain ⟨q, p, body, rfl, hbody⟩ := of_unplaced_block hb
    rw [bodyNests, bodyNests, nodeNests_text, Bool.true_and, ihrest hns]
    cases n with
    | zero =>
      have hdeep : ¬ max (inside.depth + 1) rest.depth ≤ 0 := by omega
      rw [nodeNests, Bool.false_and, Outline.depth, decide_eq_false hdeep]
    | succ n =>
      rw [nodeNests, clausesNest, clausesNest, Bool.and_true, ihinside hbody, Outline.depth,
        Bool.eq_iff_iff, Bool.and_eq_true, decide_eq_true_eq, decide_eq_true_eq, decide_eq_true_eq]
      omega

/-! ## §7. Building. -/

section Building

variable {limit : Int} {buffer indent baseline : String} {r : Rounds} {p q : Position}
  {inside : List (Node Placement)}

/-- What is noted when a pipe block begins: its list, and its line. -/
def Program.Progress.enter (s : Progress) (q : Position) : Progress :=
  ⟨s.buffers + 1, .ofLine q.line :: s.regions⟩

theorem Program.Progress.IsFine.enter {s : Progress} (h : s.IsFine) {length : Nat}
    (hq : q.HasRoom limit length) (hlimit : limit < lineLimit) : (s.enter q).IsFine := by
  intro region hregion
  obtain ⟨hfirst, hlast⟩ := hq
  rcases List.mem_cons.1 hregion with rfl | hregion
  · exact region_ofLine hfirst (by omega)
  · exact h region hregion

theorem blockSkeleton_pipe (hq : q.HasRoom limit r.header.length) (hlimit : limit < lineLimit)
    (s : Progress) : blockSkeleton (pipeMarker q r indent baseline) [r.header] s =
      .ok (⟨r.statement [.pass 2], [some 2]⟩, { s with regions := .ofLine q.line :: s.regions }) := by
  obtain ⟨hfirst, hlast⟩ := hq
  have hinside : (0 ≤ q.line && q.line + r.header.length < lineLimit) = true := by
    rw [Bool.and_eq_true, decide_eq_true_eq, decide_eq_true_eq]
    omega
  have hnote : ∀ extents, noteExtents (pipeMarker q r indent baseline) extents s =
      .ok ((), { s with regions := .ofLine q.line :: s.regions }) := by
    intro extents
    show noteRegions (.ofLine q.line ::
      if 0 ≤ q.line && q.line + r.header.length < lineLimit then [] else _) s = _
    rw [if_pos hinside]
    rfl
  unfold blockSkeleton
  rw [r.skeleton_rounds]
  refine (Build.bind_ok _ (checkDepth_fits r.fits_statement.1 r.fits_statement.2 s)).trans ?_
  refine (Build.bind_ok _ (hnote _)).trans ?_
  show Except.ok (Skeleton.mk (wrapIncludesIn indent (r.statement [.pass 2])) [some 2], _) = _
  rw [r.wrapIncludesIn_statement]

/-- The statements of a pipe block, given those of its body. -/
theorem nodeStmts_pipe (hq : q.HasRoom limit r.header.length) (hlimit : limit < lineLimit)
    (s : Progress) : nodeStmts buffer (.block (pipeMarker q r indent baseline)
        [.mk p r.header inside]) s =
      (do
        let b ← orPass p (← bodyStmts (bufferName (s.buffers + 1)) inside)
        return pipeStmts buffer (bufferName (s.buffers + 1)) (pipeMarker q r indent baseline)
          (r.statement b) : Build (List Stmt)) (s.enter q) := by
  have hnext : nextBuffer { s with regions := .ofLine q.line :: s.regions } =
      .ok (bufferName (s.buffers + 1), s.enter q) := rfl
  rw [nodeStmts]
  refine (Build.bind_ok _ (blockSkeleton_pipe hq hlimit s)).trans ?_
  show (do
    let target ← nextBuffer
    let bodies ← clauseBodies target [some 2] [.mk p r.header inside]
    return pipeStmts buffer target (pipeMarker q r indent baseline)
      ((r.statement [.pass 2]).fill (bodies.lookup ·)) : Build (List Stmt)) _ = _
  refine (Build.bind_ok _ hnext).trans ?_
  rw [clauseBodies, clauseBodies]
  simp only [List.headD_cons, bind_assoc, pure_bind, Rounds.fill_statement]

theorem Code.Stmt.IsAllowed.mono {loops loops' : Nat} (h : loops ≤ loops') {s : Stmt}
    (hs : s.IsAllowed loops) : s.IsAllowed loops' :=
  ⟨fun p hp => hs.legal p (by omega), hs.mentions, hs.named, hs.annotates⟩

theorem Builds.mono {loops loops' : Nat} (h : loops ≤ loops') {x : Build (List Stmt)}
    (hx : Builds loops x) : Builds loops' x := by
  intro s hs
  obtain ⟨ss, t, hss, hallowed, ht⟩ := hx s hs
  exact ⟨ss, t, hss, fun s' hs' => (hallowed s' hs').mono h, ht⟩

theorem bodyStmts_append (ns ns' : List (Node Placement)) : bodyStmts buffer (ns ++ ns') = do
    return (← bodyStmts buffer ns) ++ (← bodyStmts buffer ns') := by
  induction ns with
  | nil => simp only [List.nil_append, bodyStmts, pure_bind, bind_pure]
  | cons n ns ih =>
    rw [List.cons_append, bodyStmts, bodyStmts, ih]
    simp only [bind_assoc, pure_bind, List.append_assoc]

theorem Builds.append {loops : Nat} {ns ns' : List (Node Placement)}
    (h : Builds loops (bodyStmts buffer ns)) (h' : Builds loops (bodyStmts buffer ns')) :
    Builds loops (bodyStmts buffer (ns ++ ns')) := by
  intro s hs
  obtain ⟨ss, t, hss, hallowed, ht⟩ := h s hs
  obtain ⟨ss', u, hss', hallowed', hu⟩ := h' t ht
  refine ⟨ss ++ ss', u, ?_, hallowed.append hallowed', hu⟩
  rw [bodyStmts_append]
  exact (Build.bind_ok _ hss).trans (Build.bind_ok _ hss')

theorem Builds.ofText {loops : Nat} (hbuffer : IsBuffer buffer) (hlimit : limit < lineLimit)
    {text : String} {ns : List (Node Placement)} (h : IsText limit text ns) :
    Builds loops (bodyStmts buffer ns) := by
  rcases h with ⟨rfl, -⟩ | ⟨p, rfl, hp⟩
  · exact .nil
  · exact .cons (.text hbuffer hp hlimit) .nil

theorem isAllowed_pipeStmts (hbuffer : IsBuffer buffer) {target : String}
    (htarget : IsBuffer target) {loops : Nat} {s : Stmt} (hs : s.IsAllowed loops) :
    AreAllowed loops (pipeStmts buffer target (pipeMarker q r indent baseline) s) := by
  refine List.forall_mem_cons.2 ⟨isAllowed_noteLine _, List.forall_mem_cons.2 ⟨?_,
    List.forall_mem_cons.2 ⟨hs, List.forall_mem_singleton.2 ?_⟩⟩⟩
  · exact isAllowed_startBuffer htarget.not_constant.1 htarget.not_constant.2
  · refine isAllowed_appendTo hbuffer.not_constant.1 (.callOf (.name (by decide)) ?_)
    simp only [List.forall_mem_cons]
    exact ⟨isAllowed_joined htarget.not_constant.1, .constant _, .constant _, .constant _,
      fun _ he => absurd he List.not_mem_nil⟩

/-- A body that is never empty is allowed if the body is, and its place is one of code. -/
theorem orPass_done {loops : Nat} (hp : p.HasRoom limit 0) (hlimit : limit < lineLimit)
    {body : List Stmt} (h : AreAllowed loops body) {s : Progress} (hs : s.IsFine) :
    ∃ body' t, orPass p body s = .ok (body', t) ∧ AreAllowed loops body' ∧ t.IsFine := by
  unfold orPass
  by_cases hempty : body.isEmpty = true
  · rw [if_pos hempty]
    refine ⟨[.pass 0], _, rfl, List.forall_mem_singleton.2 ?_, hs.note [.ofLine p.line] ?_⟩
    · refine ⟨fun _ _ => by rw [Stmt.legal], by simp [Stmt.mentions], ?_, rfl⟩
      exact namesFault?_of_parts (by simp [Stmt.exprs]) rfl (by simp [Stmt.bodies])
    · have hlast := hp.2
      exact List.forall_mem_singleton.2 (region_ofLine hp.1 (by omega))
  · rw [if_neg hempty]
    exact ⟨body, s, rfl, h, hs⟩

/-- A pipe block is built if its body is; its loop is one more around those of the body. -/
theorem Builds.pipe (hbuffer : IsBuffer buffer) (hq : q.HasRoom limit r.header.length)
    (hp : p.HasRoom limit 0) (hlimit : limit < lineLimit) {loops : Nat}
    (h : ∀ target, IsBuffer target → Builds loops (bodyStmts target inside)) :
    Builds (loops + r.loops) (nodeStmts buffer (.block (pipeMarker q r indent baseline)
      [.mk p r.header inside])) := by
  intro s hs
  have htarget : IsBuffer (bufferName (s.buffers + 1)) := Or.inr ⟨_, rfl⟩
  obtain ⟨body, t, hbody, hallowed, ht⟩ := h _ htarget _ (hs.enter hq hlimit)
  obtain ⟨body', u, hbody', hallowed', hu⟩ := orPass_done hp hlimit hallowed ht
  refine ⟨pipeStmts buffer (bufferName (s.buffers + 1)) (pipeMarker q r indent baseline)
    (r.statement body'), u, ?_, ?_, hu⟩
  · rw [nodeStmts_pipe hq hlimit]
    exact (Build.bind_ok _ hbody).trans (Build.bind_ok _ hbody')
  · exact isAllowed_pipeStmts hbuffer htarget (r.isAllowed_statement hallowed')

end Building

/-- **An outline is built with as many loops inside each other as it has.** -/
theorem Lays.builds {limit : Int} (hlimit : limit < lineLimit) {indent before : String}
    {o : Outline} {ns : List (Node Placement)} (h : Lays limit indent before o ns) {buffer : String}
    (hbuffer : IsBuffer buffer) : Builds o.loops (bodyStmts buffer ns) := by
  induction h generalizing buffer with
  | done h => exact .ofText hbuffer hlimit h
  | line _ ih => exact ih hbuffer
  | block htexts hq hp _ _ ihbody ihrest =>
    refine .append (.ofText hbuffer hlimit htexts) (.cons (.mono (Nat.le_max_left _ _) ?_) ?_)
    · exact .pipe hbuffer hq hp hlimit (fun target htarget => ihbody htarget)
    · exact (ihrest hbuffer).mono (Nat.le_max_right _ _)

/-! ## §8. Which outlines have programs. -/

theorem Program.Build.of_bind_ok {α β : Type} {x : Build α} {f : α → Build β} {s u : Progress}
    {b : β} (h : (x >>= f) s = .ok (b, u)) : ∃ a t, x s = .ok (a, t) ∧ f a t = .ok (b, u) := by
  have hbind : (x >>= f) s = (x s >>= fun p => f p.1 p.2) := rfl
  rw [hbind] at h
  cases hx : x s with
  | error e =>
    rw [hx] at h
    cases h
  | ok p =>
    rw [hx] at h
    exact ⟨p.1, p.2, rfl, h⟩

theorem bodyLegal_append (p : Place) (ss ss' : List Stmt) :
    bodyLegal p (ss ++ ss') = (bodyLegal p ss && bodyLegal p ss') := by
  induction ss with
  | nil => rfl
  | cons s ss ih => rw [List.cons_append, bodyLegal_cons, bodyLegal_cons, ih, Bool.and_assoc]

/-- What is put in the place of an empty body is as legal as the body. -/
theorem orPass_legal {q : Position} {body body' : List Stmt} {s t : Progress}
    (h : orPass q body s = .ok (body', t)) {p : Place} (hlegal : bodyLegal p body' = true) :
    bodyLegal p body = true := by
  unfold orPass at h
  by_cases hempty : body.isEmpty = true
  · rw [List.isEmpty_iff.1 hempty]
    rfl
  · rw [if_neg hempty] at h
    obtain ⟨rfl, -⟩ := Prod.mk.inj (Except.ok.inj h)
    exact hlegal

/-- **The loops of an outline are legal only as far as so many may be entered.** -/
theorem Lays.loops_le {limit : Int} (hlimit : limit < lineLimit) {indent before : String}
    {o : Outline} {ns : List (Node Placement)} (h : Lays limit indent before o ns) {buffer : String}
    {s t : Progress} {ss : List Stmt} (hss : bodyStmts buffer ns s = .ok (ss, t)) {p : Place}
    (hlegal : bodyLegal p ss = true) : o.loops ≤ Place.maxDepth - p.depth := by
  induction h generalizing buffer s t ss p with
  | done h => exact Nat.zero_le _
  | line _ ih => exact ih hss hlegal
  | @block _ _ _ _ r _ _ place q _ inside _ _ hq _ _ _ ihbody ihrest =>
    rw [bodyStmts_append] at hss
    obtain ⟨text, s₁, -, hss⟩ := Build.of_bind_ok hss
    obtain ⟨both, s₂, hboth, hss⟩ := Build.of_bind_ok hss
    rw [bodyStmts] at hboth
    obtain ⟨block, s₃, hblock, hboth⟩ := Build.of_bind_ok hboth
    obtain ⟨rest, s₄, hrest, hboth⟩ := Build.of_bind_ok hboth
    obtain ⟨rfl, -⟩ := Prod.mk.inj (Except.ok.inj hboth)
    obtain ⟨rfl, -⟩ := Prod.mk.inj (Except.ok.inj hss)
    rw [nodeStmts_pipe hq hlimit] at hblock
    obtain ⟨body, s₅, hbody, hblock⟩ := Build.of_bind_ok hblock
    obtain ⟨body', s₆, hbody', hblock⟩ := Build.of_bind_ok hblock
    obtain ⟨rfl, -⟩ := Prod.mk.inj (Except.ok.inj hblock)
    rw [bodyLegal_append, bodyLegal_append, Bool.and_eq_true, Bool.and_eq_true] at hlegal
    obtain ⟨-, hpipe, hlegalRest⟩ := hlegal
    have hlegalRest := ihrest hrest hlegalRest
    have hstatement : (r.statement body').legal p = true := by
      unfold pipeStmts at hpipe
      rw [bodyLegal_cons, bodyLegal_cons, bodyLegal_cons, Bool.and_eq_true, Bool.and_eq_true,
        Bool.and_eq_true] at hpipe
      exact hpipe.2.2.1
    rw [Outline.loops]
    cases r with
    | once =>
      rw [Rounds.legal_once] at hstatement
      have hinside := ihbody hbody (orPass_legal hbody' hstatement)
      show max _ _ ≤ _
      exact Nat.max_le.2 ⟨hinside, hlegalRest⟩
    | each n =>
      rw [Rounds.legal_each, Bool.and_eq_true] at hstatement
      obtain ⟨hroom, hstatement⟩ := hstatement
      have hinside := ihbody hbody (orPass_legal hbody' hstatement)
      have hdeeper : p.loop.depth = p.depth + 1 := rfl
      unfold Place.hasRoom at hroom
      rw [decide_eq_true_eq] at hroom
      rw [hdeeper] at hinside
      have hone : (Rounds.each n).loops = 1 := rfl
      omega

section Programs

variable {t : Template Unit} {program : List Stmt}

theorem isLegal_of_build (h : build t = .ok program) : isLegal program = true := by
  obtain ⟨-, regions, -, hrefusal⟩ := build_ok_iff.1 h
  -- nothing was refused, the last test included
  unfold refusal? at hrefusal
  split at hrefusal
  · cases hrefusal
  · split at hrefusal
    · cases hrefusal
    · split at hrefusal
      · cases hrefusal
      · split at hrefusal
        · assumption
        · cases hrefusal

theorem bodyLegal_programOf {body : List Stmt} (h : isLegal (programOf body) = true) :
    bodyLegal {} body = true := by
  unfold isLegal at h
  rw [Bool.and_eq_true] at h
  have hlegal := h.2
  unfold programOf at hlegal
  rw [bodyLegal_cons, Bool.and_eq_true, bodyLegal_append, Bool.and_eq_true] at hlegal
  exact hlegal.2.1

end Programs

namespace Outline

variable {o : Outline} {first margin : String}

theorem unplacedBody_nodes (o : Outline) (indent before behind : String) :
    unplacedBody (o.nodes indent before behind) = o.nodes indent before behind := by
  induction o generalizing indent before behind with
  | done => exact unplacedBody_textNodes _
  | line text rest ih => exact ih indent _ behind
  | block r inner close body rest ihbody ihrest =>
    rw [nodes, unplacedBody, unplacedBody, ihrest, Node.unplaced, Node.unplaced, unplacedClauses,
      unplacedClauses, ihbody]
    rfl

/-- The tree of an outline that is read again. -/
theorem treeOfSource_outline (ho : o.IsProper) (hmargin : IsMargin margin)
    (hfirst : IsPlain first.toList) (origin : Origin) :
    ∃ tree, treeOfSource origin (first ++ o.source margin) = .ok tree
      ∧ unplacedBody tree.body = o.nodes margin first ""
      ∧ bodyHasRoom (1 + (first ++ o.source margin).length) tree.body := by
  have hprint : first ++ o.source margin =
      (⟨none, o.nodes margin first ""⟩ : Template Unit).print := by
    unfold Template.print
    rw [spellAll_nodes ho hmargin hfirst (by decide) (by decide), String.append_empty,
      String.ofList_toList]
  obtain ⟨tree, htree, hunplaced, hroom⟩ :=
    treeOfSource_print (t := ⟨none, o.nodes margin first ""⟩)
      (o.bodyWellFormed_nodes margin first "") origin hprint
  exact ⟨tree, htree, hunplaced.trans (o.unplacedBody_nodes margin first ""), hroom⟩

section Building

variable {limit : Int} {tree : Template Unit}

theorem lays_resolve (ho : o.IsProper) (hmargin : IsMargin margin)
    (htree : unplacedBody tree.body = o.nodes margin first "")
    (hroom : bodyHasRoom limit tree.body) : Lays limit margin first o (Indent.resolve tree).body :=
  lays_resolveBody ho hmargin drops_nothing htree hroom none

theorem fitsNesting_outline (htree : unplacedBody tree.body = o.nodes margin first "") :
    fitsNesting tree.body = decide (o.depth ≤ maxNesting) :=
  bodyNests_outline htree maxNesting

theorem build_outline (ho : o.IsProper) (hmargin : IsMargin margin)
    (htree : unplacedBody tree.body = o.nodes margin first "") (hroom : bodyHasRoom limit tree.body)
    (hlimit : limit < lineLimit) (hloops : o.loops ≤ Place.maxDepth)
    (hdepth : o.depth ≤ maxNesting) :
    ∃ program, build tree = .ok program ∧ bodyAnnotates program = false := by
  have hnesting := fitsNesting_outline htree
  rw [decide_eq_true hdepth] at hnesting
  have hbuilds := (lays_resolve ho hmargin htree hroom).builds hlimit (Or.inl rfl)
  exact build_of_builds hnesting (hbuilds.mono hloops)

/-- **An outline has a program exactly if not too many loops, and not too many blocks, stand inside
each other.** -/
theorem build_outline_iff (ho : o.IsProper) (hmargin : IsMargin margin)
    (htree : unplacedBody tree.body = o.nodes margin first "") (hroom : bodyHasRoom limit tree.body)
    (hlimit : limit < lineLimit) :
    (∃ program, build tree = .ok program) ↔ o.loops ≤ Place.maxDepth ∧ o.depth ≤ maxNesting := by
  constructor
  · rintro ⟨program, hprogram⟩
    have hdepth := (build_ok_iff.1 hprogram).1
    rw [fitsNesting_outline htree, decide_eq_true_eq] at hdepth
    obtain ⟨body, r, hbody, rfl⟩ := Program.build_ok hprogram
    have hlegal := bodyLegal_programOf (isLegal_of_build hprogram)
    exact ⟨(lays_resolve ho hmargin htree hroom).loops_le hlimit hbody hlegal, hdepth⟩
  · rintro ⟨hloops, hdepth⟩
    obtain ⟨program, hprogram, -⟩ := build_outline ho hmargin htree hroom hlimit hloops hdepth
    exact ⟨program, hprogram⟩

end Building

end Outline

end Inlay
