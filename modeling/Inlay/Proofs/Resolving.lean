/-
  Inlay.Proofs.Resolving
  ────────────────────────────────
  **WHAT RESOLVING DOES TO A TREE.**

  Every node is told by itself what becomes of it, from the nodes right before
  and right behind it as they were parsed:

      a text            — loses its last line in front of a pipe block and at
                          the end of a clause of one, and goes if nothing is left
      any marker        — notes the spaces and tabs right before it
      a pipe marker     — is flagged if it is the first of its body
      a pipe block      — notes the baseline that its first filled clause shows

  The pass drops the last line of a clause when the clause is resolved already,
  and empty texts are gone by then.  That it is still the right text which
  loses its line rests on the parser, which puts no two texts side by side.
-/
import Inlay.Indent.Resolve
import Inlay.Proofs.Printing
import Mathlib.Data.List.DropRight

namespace Inlay.Indent

open Inlay.Text

/-! ## §1. The two ends of a text. -/

/-- Is the text made of spaces and tabs? -/
def IsIndentation (w : List Char) : Prop := ∀ c ∈ w, isIndent c = true

/-- Is `w` the longest end of a text that is made of spaces and tabs? -/
def IsTrailing (s w : List Char) : Prop :=
  w <:+ s ∧ IsIndentation w ∧ ∀ v, v <:+ s → IsIndentation v → v.length ≤ w.length

/-- Does a text end with a newline, and spaces and tabs behind it, and is `u` what stands in
front? -/
def EndsInLine (s u : List Char) : Prop := ∃ w, IsIndentation w ∧ s = u ++ '\n' :: w

/-- Is `u` what is left of a text when a last line of spaces and tabs goes, if it has one? -/
def IsWithoutLastLine (s u : List Char) : Prop :=
  EndsInLine s u ∨ (u = s ∧ ∀ v, ¬EndsInLine s v)

/-- Does a text begin with newlines, and is `b` the spaces and tabs behind them? -/
def IsBaseline (s b : List Char) : Prop :=
  ∃ n rest, s = List.replicate (n + 1) '\n' ++ (b ++ rest) ∧ IsIndentation b
    ∧ ∀ c ∈ rest.head?, isIndent c = false ∧ (b = [] → c ≠ '\n')

theorem isIndentation_trailing (s : List Char) : IsIndentation (trailing s) :=
  fun _ hc => List.mem_rtakeWhile_imp hc

/-- Spaces and tabs at the end of a text are part of the end that is made of them. -/
theorem trailing_append {w : List Char} (h : IsIndentation w) (s : List Char) :
    trailing (s ++ w) = trailing s ++ w := by
  unfold trailing
  have hall : ∀ c ∈ w.reverse, isIndent c = true := fun c hc => h c (List.mem_reverse.1 hc)
  rw [List.reverse_append, List.takeWhile_append_of_pos hall, List.reverse_append,
    List.reverse_reverse]

/-- What is noted in front of a marker is the longest end of spaces and tabs. -/
theorem isTrailing_iff {s w : List Char} : IsTrailing s w ↔ trailing s = w := by
  have hlongest : ∀ v, v <:+ s → IsIndentation v → v <:+ trailing s := by
    rintro v ⟨front, rfl⟩ hv
    rw [trailing_append hv]
    exact List.suffix_append _ _
  have hsuffix : trailing s <:+ s := List.rtakeWhile_suffix isIndent s
  constructor
  · rintro ⟨hw, hindent, hmax⟩
    exact ((hlongest w hw hindent).eq_of_length_le
      (hmax _ hsuffix (isIndentation_trailing s))).symm
  · rintro rfl
    exact ⟨hsuffix, isIndentation_trailing s, fun v hv hindent => (hlongest v hv hindent).length_le⟩

theorem dropLastLine_of_endsInLine {s u : List Char} (h : EndsInLine s u) :
    dropLastLine s = u := by
  obtain ⟨w, hw, rfl⟩ := h
  have hall : ∀ c ∈ w.reverse, isIndent c = true := fun c hc => hw c (List.mem_reverse.1 hc)
  have hdrop : (u ++ '\n' :: w).reverse.dropWhile isIndent = '\n' :: u.reverse := by
    rw [List.reverse_append, List.reverse_cons, List.append_assoc,
      List.dropWhile_append_of_pos hall]
    rfl
  unfold dropLastLine
  rw [hdrop]
  exact List.reverse_reverse u

theorem dropLastLine_eq_self {s : List Char} (h : ∀ u, ¬EndsInLine s u) : dropLastLine s = s := by
  unfold dropLastLine
  split
  · rename_i r hr
    -- what was passed over is made of spaces and tabs, so the text does end in such a line
    have hsplit := congrArg List.reverse
      (List.takeWhile_append_dropWhile (p := isIndent) (l := s.reverse))
    rw [hr, List.reverse_append, List.reverse_reverse, List.reverse_cons, List.append_assoc] at hsplit
    exact absurd ⟨trailing s, isIndentation_trailing s, hsplit.symm⟩ (h r.reverse)
  · rfl

/-- What loses its last line loses a newline and the spaces and tabs behind it, if it ends so. -/
theorem isWithoutLastLine_iff {s u : List Char} :
    IsWithoutLastLine s u ↔ dropLastLine s = u := by
  constructor
  · rintro (h | ⟨rfl, h⟩)
    · exact dropLastLine_of_endsInLine h
    · exact dropLastLine_eq_self h
  · rintro rfl
    by_cases h : ∃ u, EndsInLine s u
    · obtain ⟨u, hu⟩ := h
      rw [dropLastLine_of_endsInLine hu]
      exact .inl hu
    · have hnone := not_exists.1 h
      rw [dropLastLine_eq_self hnone]
      exact .inr ⟨rfl, hnone⟩

theorem dropWhile_newlines (n : Nat) {s : List Char} (h : ∀ c ∈ s.head?, c ≠ '\n') :
    (List.replicate n '\n' ++ s).dropWhile (· == '\n') = s := by
  rw [List.dropWhile_append_of_pos (fun c hc => by rw [List.eq_of_mem_replicate hc]; rfl)]
  cases s with
  | nil => rfl
  | cons c s =>
    rw [List.dropWhile_cons, beq_false_of_ne (h c rfl)]
    rfl

/-- What is read as a baseline is the spaces and tabs behind the first newlines. -/
theorem isBaseline_iff {s b : List Char} : IsBaseline s b ↔ baseline? s = some b := by
  constructor
  · rintro ⟨n, rest, rfl, hb, hrest⟩
    have hhead : ∀ c ∈ (b ++ rest).head?, c ≠ '\n' := by
      intro c hc
      cases b with
      | nil => exact (hrest c hc).2 rfl
      | cons d b =>
        obtain rfl := Option.some.inj hc
        rintro rfl
        exact absurd (hb _ List.mem_cons_self) (by decide)
    have hstop : rest.takeWhile isIndent = [] := by
      cases rest with
      | nil => rfl
      | cons c rest =>
        rw [List.takeWhile_cons, (hrest c rfl).1]
        rfl
    show some (((List.replicate n '\n' ++ (b ++ rest)).dropWhile (· == '\n')).takeWhile isIndent) = _
    rw [dropWhile_newlines n hhead, List.takeWhile_append_of_pos hb, hstop, List.append_nil]
  · intro h
    unfold baseline? at h
    split at h
    · rename_i r
      obtain rfl := Option.some.inj h
      have hnewlines : r.takeWhile (· == '\n') =
          List.replicate (r.takeWhile (· == '\n')).length '\n' :=
        List.eq_replicate_of_mem (fun c hc => by simpa using List.mem_takeWhile_imp hc)
      refine ⟨(r.takeWhile (· == '\n')).length,
        (r.dropWhile (· == '\n')).dropWhile isIndent, ?_, ?_, ?_⟩
      · rw [List.takeWhile_append_dropWhile, List.replicate_succ, ← hnewlines, List.cons_append,
          List.takeWhile_append_dropWhile]
      · exact fun c hc => List.mem_takeWhile_imp hc
      · intro c hc
        have hnot := List.head?_dropWhile_not isIndent (r.dropWhile (· == '\n'))
        rw [hc] at hnot
        refine ⟨by simpa using hnot, ?_⟩
        rintro hempty rfl
        -- without an indentation the rest begins where the newlines end
        have hall := List.takeWhile_append_dropWhile (p := isIndent) (l := r.dropWhile (· == '\n'))
        rw [hempty, List.nil_append] at hall
        have hline := List.head?_dropWhile_not (· == '\n') r
        rw [← hall, hc] at hline
        exact absurd hline (by decide)
    · cases h

/-- The spaces and tabs behind the last newline are all that there are at the end. -/
theorem trailing_behind_newline {w : List Char} (h : IsIndentation w) (u : List Char) :
    trailing (u ++ '\n' :: w) = w := by
  have hnewline : trailing (u ++ ['\n']) = [] := by
    unfold trailing
    rw [List.reverse_concat, List.takeWhile_cons_of_neg (by decide), List.reverse_nil]
  calc trailing (u ++ '\n' :: w)
      = trailing ((u ++ ['\n']) ++ w) := by rw [List.append_assoc, List.singleton_append]
    _ = w := by rw [trailing_append h, hnewline, List.nil_append]

/-- What is dropped with the last line is a newline and the spaces and tabs at the end; without a
newline right in front of these nothing is dropped. -/
theorem dropLastLine_split (s : List Char) :
    s = dropLastLine s ++ '\n' :: trailing s
      ∨ (∃ r, s = r ++ trailing s ∧ r.getLast? ≠ some '\n') ∧ dropLastLine s = s := by
  obtain ⟨⟨r, hr⟩, hindent, -⟩ := isTrailing_iff.2 (Eq.refl (trailing s))
  rcases isWithoutLastLine_iff.2 (Eq.refl (dropLastLine s)) with ⟨w, hw, hs⟩ | ⟨hself, hnone⟩
  · left
    have htrailing : trailing s = w := by
      rw [hs]
      exact trailing_behind_newline hw _
    rw [htrailing]
    exact hs
  · right
    refine ⟨⟨r, hr.symm, fun hlast => ?_⟩, hself⟩
    obtain ⟨u, rfl⟩ := List.getLast?_eq_some_iff.1 hlast
    refine hnone u ⟨trailing s, hindent, ?_⟩
    rw [← List.singleton_append, ← List.append_assoc]
    exact hr.symm

/-- **A TEXT IS SPLIT AT ITS ENDS WITHOUT LOSS.**  What is noted is the longest end of spaces and
tabs; what is dropped is this end and the newline in front of it, or nothing where there is none; and
a baseline is what stands between the newlines that a text begins with and the first character that
is neither. -/
theorem ends_split (s : List Char) :
    IsTrailing s (trailing s)
      ∧ (s = dropLastLine s ++ '\n' :: trailing s
        ∨ (∃ r, s = r ++ trailing s ∧ r.getLast? ≠ some '\n') ∧ dropLastLine s = s)
      ∧ ∀ b, baseline? s = some b ↔ IsBaseline s b :=
  ⟨isTrailing_iff.2 rfl, dropLastLine_split s, fun _ => isBaseline_iff.symm⟩

end Inlay.Indent

/-! ## §2. Texts apart. -/

namespace Inlay

mutual

/-- Do no two texts stand side by side anywhere in a node? -/
def Node.isApart : Node Unit → Bool
  | .text _ _ => true
  | .expr _ => true
  | .block _ clauses => clausesApart clauses

/-- Do no two texts stand side by side in some nodes? -/
def bodyApart : List (Node Unit) → Bool
  | [] => true
  | n :: ns => n.isApart && !(n.isText && ns.head?.any Node.isText) && bodyApart ns

/-- Do no two texts stand side by side in some clauses? -/
def clausesApart : List (Clause Unit) → Bool
  | [] => true
  | .mk _ _ body :: rest => bodyApart body && clausesApart rest

end

theorem clausesApart_append (cs ds : List (Clause Unit)) :
    clausesApart (cs ++ ds) = (clausesApart cs && clausesApart ds) := by
  induction cs with
  | nil => rfl
  | cons c cs ih =>
    obtain ⟨p, code, body⟩ := c
    rw [List.cons_append, clausesApart, ih, clausesApart, Bool.and_assoc]

theorem bodyApart_snoc {ns : List (Node Unit)} {n : Node Unit} :
    bodyApart (ns ++ [n]) ↔ bodyApart ns ∧ n.isApart ∧ ¬(endsInText ns ∧ n.isText) := by
  induction ns with
  | nil => simp [bodyApart, endsInText]
  | cons m ns ih =>
    cases ns with
    | nil =>
      simp only [List.nil_append, List.cons_append, bodyApart, endsInText]
      cases hm : m.isText <;> simp [hm, and_comm, and_left_comm]
    | cons k ns =>
      have he : endsInText (m :: k :: ns) = endsInText (k :: ns) := by simp [endsInText]
      rw [List.cons_append, bodyApart, Bool.and_eq_true, ih, he]
      simp only [bodyApart, List.cons_append, List.head?_cons, Bool.and_eq_true]
      tauto

/-- A text joins the one that a body ends in. -/
theorem bodyApart_appendText {ns : List (Node Unit)} (h : bodyApart ns) (p : Position)
    (v : String) : bodyApart (appendText p v ns) := by
  by_cases hends : endsInText ns
  · obtain ⟨n, hn, ht⟩ := (Option.any_eq_true _ _).1 hends
    obtain ⟨ms, rfl⟩ := List.getLast?_eq_some_iff.1 hn
    cases n with
    | text q w =>
      rw [bodyApart_snoc] at h
      unfold appendText
      rw [hn]
      dsimp only
      rw [List.dropLast_concat, bodyApart_snoc]
      exact ⟨h.1, rfl, h.2.2⟩
    | expr m => cases ht
    | block m cs => cases ht
  · rw [appendText_of_not_endsInText (by simpa using hends), bodyApart_snoc]
    exact ⟨h, rfl, fun ⟨he, _⟩ => hends he⟩

/-- Do no two texts stand side by side in a tree under construction? -/
structure Builder.IsApart (b : Builder) : Prop where
  root : bodyApart b.root
  stack : ∀ o ∈ b.stack, clausesApart o.finished ∧ bodyApart o.body

namespace Builder.IsApart

variable {b b' : Builder}

theorem mapBody (h : b.IsApart) {f : List (Node Unit) → List (Node Unit)}
    (hf : ∀ ns, bodyApart ns → bodyApart (f ns)) : (b.mapBody f).IsApart := by
  obtain ⟨root, stack⟩ := b
  cases stack with
  | nil => exact ⟨hf root h.root, h.stack⟩
  | cons top rest =>
    obtain ⟨⟨hfinished, hbody⟩, hrest⟩ := List.forall_mem_cons.1 h.stack
    exact ⟨h.root, List.forall_mem_cons.2 ⟨⟨hfinished, hf _ hbody⟩, hrest⟩⟩

/-- A node that is no text goes to the end of a body. -/
theorem append (h : b.IsApart) {n : Node Unit} (hn : n.isApart) (ht : n.isText = false) :
    (b.mapBody (· ++ [n])).IsApart :=
  h.mapBody fun _ hns => bodyApart_snoc.2 ⟨hns, hn, by simp [ht]⟩

theorem clauses {o : OpenBlock} (h : clausesApart o.finished ∧ bodyApart o.body) :
    clausesApart o.clauses := by
  rw [OpenBlock.clauses, clausesApart_append, clausesApart, clausesApart, h.1, h.2]
  rfl

theorem takes (h : b.IsApart) {kind : MarkerKind} {t : Token} (hb : Takes kind t b (.ok b')) :
    b'.IsApart := by
  cases hb with
  | @closed root top rest hend =>
    -- an `end` puts a finished block behind the nodes in front of it
    obtain ⟨htop, hrest⟩ := List.forall_mem_cons.1 h.stack
    exact IsApart.append (b := ⟨root, rest⟩) ⟨h.root, hrest⟩ (clauses htop) rfl
  | continued hend hword =>
    -- a clause header starts an empty body
    obtain ⟨htop, hrest⟩ := List.forall_mem_cons.1 h.stack
    exact ⟨h.root, List.forall_mem_cons.2 ⟨⟨clauses htop, rfl⟩, hrest⟩⟩
  | opened hend hword hopen => exact ⟨h.root, List.forall_mem_cons.2 ⟨⟨rfl, rfl⟩, h.stack⟩⟩
  | placed hend hword hopen => exact h.append rfl rfl

end Builder.IsApart

/-- The parser puts no two texts side by side, whatever tokens it is given. -/
theorem bodyApart_of_parse {name : Option String} {tokens : List Token} {t : Template Unit}
    (h : parse name tokens = .ok t) : bodyApart t.body := by
  have hempty : Builder.IsApart ⟨[], []⟩ := ⟨rfl, fun _ ho => absurd ho List.not_mem_nil⟩
  exact (Builder.takeAll_keeps
    (fun _ _ _ b hb => hb.mapBody fun _ hns => bodyApart_appendText hns _ _)
    (fun _ _ _ _ b b' hb hstep => hb.takes hstep) hempty (takeAll_of_parse h)).root

end Inlay

/-! ## §3. What becomes of every node. -/

namespace Inlay.Indent

/-- What stands between the node before a marker and the marker: the spaces and tabs that a text
ends in, and nothing behind any other node or at the start. -/
def StandsBehind (before : Option (Node Unit)) (w : String) : Prop :=
  match before with
  | some (.text _ v) => IsTrailing v.toList w.toList
  | _ => w = ""

/-- Is this the body that the baseline of a block is read in?  It is the first that holds anything
and does not follow a `match` header. -/
def IsShownBody (clauses : List (Clause Unit)) (body : List (Node Unit)) : Prop :=
  ∃ front p code back, clauses = front ++ .mk p code body :: back
    ∧ body ≠ [] ∧ Header.hasBody code = true
    ∧ ∀ c ∈ front, c.body = [] ∨ Header.hasBody c.code = false

/-- Does the shown body begin with a text that shows a baseline? -/
def ShowsBaseline (clauses : List (Clause Unit)) (b : String) : Prop :=
  ∃ p v rest, IsShownBody clauses (.text p v :: rest) ∧ IsBaseline v.toList b.toList

/-- Is this the baseline of a pipe block that stands at an indentation? -/
def HasBaseline (clauses : List (Clause Unit)) (indentation b : String) : Prop :=
  ShowsBaseline clauses b ∨ (b = indentation ∧ ∀ b', ¬ShowsBaseline clauses b')

/-- Does a text lose its last line?  It does in front of a pipe block, and at the end of a clause of
one. -/
def losesLine (inPipe : Bool) (behind : Option (Node Unit)) : Bool :=
  match behind with
  | some n => isPipeBlock (some n)
  | none => inPipe

mutual

/-- Is this what becomes of a node in a body, given the nodes right before and right behind it, and
whether the body is that of a clause of a pipe block? -/
def NodeResolves (inPipe : Bool) (before behind : Option (Node Unit)) :
    Node Unit → List (Node Placement) → Prop
  | .text p v, out =>
    ∃ u : String, (if losesLine inPipe behind then IsWithoutLastLine v.toList u.toList else u = v)
      ∧ out = if u = "" then [] else [.text p u]
  | .expr m, out =>
    ∃ w, StandsBehind before w ∧ out =
      [.expr ⟨m.position, m.kind, m.code, ⟨w, before.isNone && m.kind = .pipe, none⟩⟩]
  | .block m clauses, out =>
    ∃ w b cs, StandsBehind before w
      ∧ (if m.kind = .pipe then ∃ s, HasBaseline clauses w s ∧ b = some s else b = none)
      ∧ ClausesResolve (m.kind = .pipe) clauses cs ∧ out =
        [.block ⟨m.position, m.kind, m.code, ⟨w, before.isNone && m.kind = .pipe, b⟩⟩ cs]

/-- Is this what becomes of the nodes of a body, given the node right before them? -/
def BodyResolves (inPipe : Bool) (before : Option (Node Unit)) :
    List (Node Unit) → List (Node Placement) → Prop
  | [], out => out = []
  | n :: rest, out =>
    ∃ first more, NodeResolves inPipe before rest.head? n first
      ∧ BodyResolves inPipe (some n) rest more ∧ out = first ++ more

/-- Is this what becomes of the clauses of a block, which is a pipe block or not? -/
def ClausesResolve (isPipe : Bool) : List (Clause Unit) → List (Clause Placement) → Prop
  | [], out => out = []
  | .mk p code body :: rest, out =>
    ∃ nodes more, BodyResolves isPipe none body nodes ∧ ClausesResolve isPipe rest more
      ∧ out = .mk p code nodes :: more

end

/-! ## §4. The pass, node by node. -/

theorem standsBehind_iff {before : Option (Node Unit)} {w : String} :
    StandsBehind before w ↔ w = indentationAfter before := by
  have htext : ∀ v : String, IsTrailing v.toList w.toList ↔ w = trailingString v := by
    intro v
    unfold trailingString
    rw [isTrailing_iff, eq_comm, ← String.toList_inj, String.toList_ofList]
  cases before with
  | none => exact Iff.rfl
  | some n =>
    cases n with
    | text p v => exact htext v
    | expr m => exact Iff.rfl
    | block m cs => exact Iff.rfl

theorem isShownBody_cons {p : Position} {code : String} {body shown : List (Node Unit)}
    {rest : List (Clause Unit)} : IsShownBody (.mk p code body :: rest) shown ↔
      if !Header.hasBody code || body.isEmpty then IsShownBody rest shown else shown = body := by
  constructor
  · rintro ⟨front, q, code', back, heq, hne, hbody, hfront⟩
    cases front with
    | nil =>
      obtain ⟨⟨rfl, rfl, rfl⟩, rfl⟩ := by simpa using heq
      rw [if_neg (by simp [hbody, hne])]
    | cons c front =>
      obtain ⟨rfl, rfl⟩ := List.cons.inj heq
      obtain ⟨hc, hmore⟩ := List.forall_mem_cons.1 hfront
      have hskip : (!Header.hasBody code || body.isEmpty) = true := by
        rcases hc with hempty | hnone
        · have hempty : body = [] := hempty
          simp [hempty]
        · have hnone : Header.hasBody code = false := hnone
          simp [hnone]
      rw [if_pos hskip]
      exact ⟨front, q, code', back, rfl, hne, hbody, hmore⟩
  · intro h
    split at h
    · rename_i hskip
      obtain ⟨front, q, code', back, rfl, hne, hbody, hfront⟩ := h
      refine ⟨.mk p code body :: front, q, code', back, rfl, hne, hbody,
        List.forall_mem_cons.2 ⟨?_, hfront⟩⟩
      rw [Bool.or_eq_true, Bool.not_eq_true', List.isEmpty_iff] at hskip
      exact hskip.symm
    · rename_i hskip
      rw [Bool.or_eq_true, Bool.not_eq_true', List.isEmpty_iff, not_or, Bool.not_eq_false] at hskip
      subst h
      exact ⟨[], p, code, rest, rfl, hskip.2, hskip.1, fun _ hc => absurd hc List.not_mem_nil⟩

/-- What a body shows at its start. -/
theorem bodyBaseline?_eq_some {body : List (Node Unit)} {b : String} :
    bodyBaseline? body = some b ↔
      ∃ p v rest, body = .text p v :: rest ∧ IsBaseline v.toList b.toList := by
  constructor
  · intro h
    unfold bodyBaseline? at h
    split at h
    · rename_i p v rest
      obtain ⟨s, hs, rfl⟩ := Option.map_eq_some_iff.1 h
      exact ⟨p, v, rest, rfl, isBaseline_iff.2 (by rw [hs, String.toList_ofList])⟩
    · cases h
  · rintro ⟨p, v, rest, rfl, h⟩
    show (baseline? v.toList).map String.ofList = some b
    rw [isBaseline_iff.1 h, Option.map_some, String.ofList_toList]

/-- The baseline of a block is found where it shows. -/
theorem hasBaseline_iff {clauses : List (Clause Unit)} {indentation b : String} :
    HasBaseline clauses indentation b ↔ b = blockBaseline indentation clauses := by
  induction clauses with
  | nil =>
    have hnone : ∀ b', ¬ShowsBaseline [] b' := by
      rintro b' ⟨p, v, rest, ⟨front, q, code, back, heq, -⟩, -⟩
      simp at heq
    exact ⟨fun h => h.elim (fun h => absurd h (hnone b)) And.left, fun h => .inr ⟨h, hnone⟩⟩
  | cons c rest ih =>
    obtain ⟨p, code, body⟩ := c
    rw [blockBaseline]
    split
    · -- a clause that is passed over shows nothing
      rename_i hskip
      have hshows : ∀ b', ShowsBaseline (.mk p code body :: rest) b' ↔ ShowsBaseline rest b' := by
        intro b'
        unfold ShowsBaseline
        simp only [isShownBody_cons, if_pos hskip]
      rw [← ih]
      unfold HasBaseline
      simp only [hshows]
    · rename_i hskip
      have hshows : ∀ b', ShowsBaseline (.mk p code body :: rest) b' ↔
          bodyBaseline? body = some b' := by
        intro b'
        rw [bodyBaseline?_eq_some]
        unfold ShowsBaseline
        simp only [isShownBody_cons, if_neg hskip]
        exact ⟨fun ⟨q, v, ns, heq, hb⟩ => ⟨q, v, ns, heq.symm, hb⟩,
          fun ⟨q, v, ns, heq, hb⟩ => ⟨q, v, ns, heq.symm, hb⟩⟩
      unfold HasBaseline
      simp only [hshows]
      cases bodyBaseline? body with
      | none => simp
      | some s => simp [eq_comm]

theorem isText_resolveNode {n : Node Unit} (h : n.isText = false) (previous : Option (Node Unit))
    (beforePipe : Bool) : resolveNode previous beforePipe n ≠ []
      ∧ ∀ m ∈ resolveNode previous beforePipe n, m.isText = false := by
  cases n with
  | text p v => cases h
  | expr m => exact ⟨by simp [resolveNode], by simp [resolveNode, Node.isText]⟩
  | block m clauses =>
    rw [resolveNode]
    split
    · exact ⟨by simp, by simp [Node.isText]⟩
    · exact ⟨by simp, by simp [Node.isText]⟩

/-- A last line is dropped at the end, and what stands in front stays. -/
theorem trimLast_append {front back : List (Node Placement)}
    (h : back ≠ [] ∨ ∀ n ∈ front, n.isText = false) :
    trimLast (front ++ back) = front ++ trimLast back := by
  cases back with
  | nil =>
    have hfront := h.resolve_left (fun hne => hne rfl)
    rw [List.append_nil]
    unfold trimLast
    split
    · rename_i p v hlast
      exact absurd (hfront _ (List.mem_of_getLast? hlast)) Bool.noConfusion
    · exact (List.append_nil front).symm
  | cons n back =>
    have hne : n :: back ≠ [] := List.cons_ne_nil n back
    unfold trimLast
    rw [List.getLast?_append_of_ne_nil _ hne, List.dropLast_append_of_ne_nil hne]
    split
    · rw [List.append_assoc]
    · rfl

theorem textUnlessEmpty_eq (p : Position) (u : String) :
    textUnlessEmpty p u = if u = "" then [] else [.text p u] := by
  unfold textUnlessEmpty
  simp only [String.isEmpty_iff]

/-- What is left of a text, and what the pass makes of it. -/
theorem textResolves_iff {loses : Bool} {p : Position} {v : String} {out : List (Node Placement)} :
    (∃ u : String, (if loses then IsWithoutLastLine v.toList u.toList else u = v)
      ∧ out = if u = "" then [] else [.text p u]) ↔
    out = textUnlessEmpty p (if loses then dropLastLineString v else v) := by
  cases loses with
  | false => simp [textUnlessEmpty_eq]
  | true =>
    have hdrop : ∀ u : String, IsWithoutLastLine v.toList u.toList ↔ u = dropLastLineString v := by
      intro u
      rw [isWithoutLastLine_iff, dropLastLineString, eq_comm, ← String.toList_inj,
        String.toList_ofList]
    simp [hdrop, textUnlessEmpty_eq]

/-- Dropping a line of a text at the end of a resolved body drops it of the text as parsed. -/
theorem trimLast_text (p : Position) (v : String) :
    trimLast (textUnlessEmpty p v) = textUnlessEmpty p (dropLastLineString v) := by
  by_cases hv : v = ""
  · subst hv
    rfl
  · rw [textUnlessEmpty_eq p v, if_neg hv]
    rfl

mutual

/-- **The pass makes of a node what becomes of it**, up to the last line of a clause. -/
theorem nodeResolves_iff (inPipe : Bool) (before behind : Option (Node Unit)) (n : Node Unit)
    (h : n.isApart) (out : List (Node Placement)) : NodeResolves inPipe before behind n out ↔
      out = if inPipe && behind.isNone then trimLast (resolveNode before false n)
        else resolveNode before (isPipeBlock behind) n := by
  match n with
  | .text p v =>
    rw [NodeResolves, textResolves_iff]
    cases behind with
    | some m =>
      rw [Option.isNone_some, Bool.and_false, if_neg Bool.false_ne_true, resolveNode]
      exact Iff.rfl
    | none => cases inPipe <;> simp [losesLine, resolveNode, isPipeBlock, trimLast_text]
  | .expr m =>
    have hkept : trimLast (resolveNode before false (.expr m)) =
        resolveNode before (isPipeBlock behind) (.expr m) := by
      rw [resolveNode, resolveNode]
      rfl
    rw [hkept, ite_self, NodeResolves, resolveNode]
    simp only [standsBehind_iff, exists_eq_left]
  | .block m clauses =>
    have hcs := clausesResolve_iff (m.kind = .pipe) clauses h
    have hkept : trimLast (resolveNode before false (.block m clauses)) =
        resolveNode before (isPipeBlock behind) (.block m clauses) := by
      rw [resolveNode, resolveNode]
      split <;> rfl
    rw [hkept, ite_self, NodeResolves, resolveNode]
    simp only [standsBehind_iff, hcs]
    by_cases hpipe : m.kind = .pipe
    · simp [hpipe, hasBaseline_iff]
    · simp [hpipe]

/-- The pass makes of a body what becomes of its nodes. -/
theorem bodyResolves_iff (inPipe : Bool) (before : Option (Node Unit)) (ns : List (Node Unit))
    (h : bodyApart ns) (out : List (Node Placement)) : BodyResolves inPipe before ns out ↔
      out = if inPipe then trimLast (resolveBody before ns) else resolveBody before ns := by
  match ns with
  | [] => cases inPipe <;> exact Iff.rfl
  | n :: rest =>
    rw [bodyApart, Bool.and_eq_true, Bool.and_eq_true] at h
    obtain ⟨⟨hn, hapart⟩, hrest⟩ := h
    rw [BodyResolves, resolveBody]
    simp only [nodeResolves_iff inPipe before rest.head? n hn,
      bodyResolves_iff inPipe (some n) rest hrest]
    cases inPipe with
    | false => simp
    | true =>
      cases rest with
      | nil => simp [resolveBody, trimLast, isPipeBlock]
      | cons m ms =>
        -- in front of a last text that is gone already no other text stands
        have hfront : resolveBody (some n) (m :: ms) ≠ [] ∨
            ∀ k ∈ resolveNode before (isPipeBlock (some m)) n, k.isText = false := by
          by_cases htext : n.isText = true
          · have hm : m.isText = false := by simpa [htext] using hapart
            left
            rw [resolveBody]
            exact List.append_ne_nil_of_left_ne_nil (isText_resolveNode hm _ _).1 _
          · right
            exact (isText_resolveNode (by simpa using htext) _ _).2
        rw [if_pos rfl, List.head?_cons, trimLast_append hfront]
        simp

/-- The pass makes of the clauses of a block what becomes of them. -/
theorem clausesResolve_iff (isPipe : Bool) (cs : List (Clause Unit)) (h : clausesApart cs)
    (out : List (Clause Placement)) :
    ClausesResolve isPipe cs out ↔ out = resolveClauses isPipe cs := by
  match cs with
  | [] => exact Iff.rfl
  | .mk p code body :: rest =>
    rw [clausesApart, Bool.and_eq_true] at h
    rw [ClausesResolve, resolveClauses]
    simp only [bodyResolves_iff isPipe none body h.1, clausesResolve_iff isPipe rest h.2]
    simp

end

/-! ## §5. Resolved trees. -/

/-- **What resolving does to a tree that was parsed.**  A tree is the resolved one exactly if it has
the same name and every node of it is what becomes of a node of the parsed tree: markers, clauses and
headers stay as they are but for the notes, and texts but for the lines that they lose. -/
theorem resolve_iff {name : Option String} {tokens : List Token} {t : Template Unit}
    (h : parse name tokens = .ok t) (r : Template Placement) :
    r = resolve t ↔ r.name = t.name ∧ BodyResolves false none t.body r.body := by
  have hbody := bodyResolves_iff false none t.body (bodyApart_of_parse h) r.body
  rw [if_neg Bool.false_ne_true] at hbody
  rw [hbody]
  obtain ⟨rname, rbody⟩ := r
  simp [resolve]

/-- The tokens of a pipe block with two clauses between two texts; the second clause holds nothing
but the line that the marker behind it stands on. -/
def twoClauseTokens : List Token :=
  [⟨.data, "a\n  ", ⟨1, 0⟩⟩, ⟨.marker .pipe, "if x:", ⟨2, 2⟩⟩, ⟨.data, "\n\n    b\n  ", ⟨2, 15⟩⟩,
    ⟨.marker .silent, "else:", ⟨5, 2⟩⟩, ⟨.data, "\n  ", ⟨5, 13⟩⟩, ⟨.marker .silent, "end", ⟨6, 2⟩⟩,
    ⟨.data, "\n", ⟨6, 11⟩⟩, ⟨.eof, "", ⟨7, 0⟩⟩]

/-- Their tree. -/
def twoClauseTree : Template Unit :=
  ⟨none, [.text ⟨1, 0⟩ "a\n  ", .block ⟨⟨2, 2⟩, .pipe, "if x:", ()⟩
    [.mk ⟨2, 2⟩ "if x:" [.text ⟨2, 15⟩ "\n\n    b\n  "], .mk ⟨5, 2⟩ "else:" [.text ⟨5, 13⟩ "\n  "]],
    .text ⟨6, 11⟩ "\n"]⟩

/-- The nodes of the tree when it is resolved. -/
def twoClauseNodes : List (Node Placement) :=
  [.text ⟨1, 0⟩ "a", .block ⟨⟨2, 2⟩, .pipe, "if x:", ⟨"  ", false, some "    "⟩⟩
    [.mk ⟨2, 2⟩ "if x:" [.text ⟨2, 15⟩ "\n\n    b"], .mk ⟨5, 2⟩ "else:" []],
    .text ⟨6, 11⟩ "\n"]

theorem resolve_iff_clauses : parse none twoClauseTokens = .ok twoClauseTree
    ∧ BodyResolves false none twoClauseTree.body twoClauseNodes := by
  have hparse : parse none twoClauseTokens = .ok twoClauseTree := by rfl
  have hresolve : (⟨none, twoClauseNodes⟩ : Template Placement) = resolve twoClauseTree := by rfl
  exact ⟨hparse, ((resolve_iff hparse ⟨none, twoClauseNodes⟩).1 hresolve).2⟩

end Inlay.Indent
