/-
  Inlay.Proofs.IncludeChain
  ────────────────────────────────
  **CHAINS OF INCLUDES.**

  In a chain, every template but the last one includes the next one, on a
  line that may be indented:

      t0    …  <%= include('t1') %>  …
      t1    …  <%= include('t2') %>  …
      t2    …

  The lines of a template are indented by the include that brings them in,
  once more by the include around that one, and so on: in the whole text,
  they stand behind the indentations of all includes on the way to them.
-/
import Inlay.Proofs.Including
import Inlay.Proofs.Realigning

namespace Inlay

open Inlay.Code Inlay.Program Inlay.Text

/-! ## §1. Indenting later lines. -/

/-- Does a text start with a line that is not empty? -/
def startsLine (s : List Char) : Bool := s.head?.any (· ≠ '\n')

/-- A text with an indentation right after every newline that a non-empty line follows. -/
def indentLater (indentation : List Char) : List Char → List Char
  | [] => []
  | c :: s =>
    if c = '\n' && startsLine s then c :: (indentation ++ indentLater indentation s)
    else c :: indentLater indentation s

/-- What is put in front of a text that follows a newline. -/
def gap (indentation s : List Char) : List Char := if startsLine s then indentation else []

theorem indentLater_newline (w s : List Char) :
    indentLater w ('\n' :: s) = '\n' :: (gap w s ++ indentLater w s) := by
  unfold gap
  rw [indentLater]
  cases startsLine s <;> rfl

theorem indentLater_other {c : Char} (hc : c ≠ '\n') (w s : List Char) :
    indentLater w (c :: s) = c :: indentLater w s := by
  rw [indentLater]
  simp [hc]

theorem indentLater_nil (s : List Char) : indentLater [] s = s := by
  induction s with
  | nil => rfl
  | cons c s ih =>
    rw [indentLater, ih]
    exact ite_self _

/-- Splitting a text finds an empty first line exactly if the text starts no line. -/
theorem splitNewlines_eq_cons (s : List Char) : ∃ first rest,
    splitNewlines s = first :: rest ∧ (first = [] ↔ startsLine s = false) := by
  cases s with
  | nil => exact ⟨[], [], rfl, by simp [startsLine]⟩
  | cons c s =>
    by_cases hc : c = '\n'
    · refine ⟨[], splitNewlines s, ?_, ?_⟩
      · rw [splitNewlines, if_pos hc]
      · simp [startsLine, hc]
    · obtain ⟨first, rest, hsplit⟩ := List.exists_cons_of_ne_nil (splitNewlines_ne_nil s)
      refine ⟨c :: first, rest, ?_, ?_⟩
      · rw [splitNewlines, if_neg hc, hsplit]
        rfl
      · simp [startsLine, hc]

/-- Indenting the later lines of a text puts the indentation after its newlines. -/
theorem reindent_eq_indentLater (w s : List Char) : Indent.reindent w s = indentLater w s := by
  rw [Indent.reindent_eq_mapLaterLines]
  induction s with
  | nil => rfl
  | cons c s ih =>
    obtain ⟨first, rest, hsplit, hfirst⟩ := splitNewlines_eq_cons s
    unfold Indent.mapLaterLines at ih ⊢
    rw [hsplit] at ih
    dsimp only at ih
    by_cases hc : c = '\n'
    · subst hc
      rw [splitNewlines, if_pos rfl, hsplit, indentLater_newline, ← ih]
      unfold gap
      by_cases hstarts : startsLine s = true
      · have hne : first ≠ [] := fun h => by
          rw [hfirst.1 h] at hstarts
          exact Bool.false_ne_true hstarts
        rw [if_pos hstarts]
        cases rest <;> simp [joinNewlines, Indent.indentLine, hne]
      · have hempty : first = [] := hfirst.2 (by simpa using hstarts)
        rw [if_neg hstarts]
        cases rest <;> simp [joinNewlines, Indent.indentLine, hempty]
    · rw [splitNewlines, if_neg hc, hsplit, indentLater_other hc, ← ih]
      cases rest <;> rfl

theorem indentLater_append (w s t : List Char) :
    ∃ g, indentLater w (s ++ t) = indentLater w s ++ (g ++ indentLater w t) := by
  induction s with
  | nil => exact ⟨[], rfl⟩
  | cons c s ih =>
    obtain ⟨g, hg⟩ := ih
    rw [List.cons_append]
    by_cases hc : c = '\n'
    · subst hc
      cases s with
      | nil => exact ⟨gap w t, by rw [List.nil_append, indentLater_newline]; rfl⟩
      | cons d s =>
        have hgap : gap w (d :: s ++ t) = gap w (d :: s) := rfl
        refine ⟨g, ?_⟩
        rw [indentLater_newline, indentLater_newline, hg, hgap, List.cons_append,
          List.append_assoc]
    · exact ⟨g, by rw [indentLater_other hc, indentLater_other hc, hg, List.cons_append]⟩

/-- What is within a text is still within it, indented, when the text has been indented. -/
theorem indentLater_within (w : List Char) {s t : List Char} (h : s <:+: t) :
    indentLater w s <:+: indentLater w t := by
  obtain ⟨before, after, rfl⟩ := h
  obtain ⟨g, hg⟩ := indentLater_append w (before ++ s) after
  obtain ⟨g', hg'⟩ := indentLater_append w before s
  rw [hg, hg']
  exact ⟨indentLater w before ++ g', g ++ indentLater w after, by simp only [List.append_assoc]⟩

/-- **Indentations add up.**  Indenting twice is indenting once, by both indentations. -/
theorem indentLater_indentLater {w' : List Char} (h : '\n' ∉ w') (w s : List Char) :
    indentLater w (indentLater w' s) = indentLater (w ++ w') s := by
  rw [← reindent_eq_indentLater, ← reindent_eq_indentLater, ← reindent_eq_indentLater,
    Indent.reindent_append h]

/-! ## §2. Lines in a text. -/

/-- Do lines occur in a text in their order, each right after a newline and a lead? -/
def OccurInOrder (lead : List Char) : List (List Char) → List Char → Prop
  | [], _ => True
  | line :: lines, s =>
    ∃ before after, s = before ++ '\n' :: (lead ++ (line ++ after)) ∧ OccurInOrder lead lines after

theorem OccurInOrder.prepend {lead : List Char} {lines : List (List Char)} {s : List Char}
    (h : OccurInOrder lead lines s) (front : List Char) : OccurInOrder lead lines (front ++ s) := by
  cases lines with
  | nil => trivial
  | cons line lines =>
    obtain ⟨before, after, rfl, hlines⟩ := h
    exact ⟨front ++ before, after, (List.append_assoc _ _ _).symm, hlines⟩

theorem OccurInOrder.append {lead : List Char} {lines : List (List Char)} {s : List Char}
    (h : OccurInOrder lead lines s) (back : List Char) : OccurInOrder lead lines (s ++ back) := by
  induction lines generalizing s with
  | nil => trivial
  | cons line lines ih =>
    obtain ⟨before, after, rfl, hlines⟩ := h
    exact ⟨before, after ++ back, by simp only [List.append_assoc, List.cons_append], ih hlines⟩

theorem OccurInOrder.within {lead : List Char} {lines : List (List Char)} {s t : List Char}
    (h : OccurInOrder lead lines s) (hst : s <:+: t) : OccurInOrder lead lines t := by
  obtain ⟨before, after, rfl⟩ := hst
  exact (h.prepend before).append after

/-- The non-empty lines of a text other than its first. -/
def laterLines (s : List Char) : List (List Char) := (splitNewlines s).tail.filter (· ≠ [])

/-- In an indented text, the first line comes first, and the others follow in order, each right
after a newline and the indentation. -/
theorem indentLater_lines (w s : List Char) : ∃ first rest after,
    splitNewlines s = first :: rest ∧ indentLater w s = first ++ after
      ∧ (first = [] ↔ startsLine s = false) ∧ OccurInOrder w (rest.filter (· ≠ [])) after := by
  induction s with
  | nil => exact ⟨[], [], [], rfl, rfl, by simp [startsLine], trivial⟩
  | cons c s ih =>
    obtain ⟨first, rest, after, hsplit, hindent, hfirst, hoccur⟩ := ih
    by_cases hc : c = '\n'
    · subst hc
      refine ⟨[], first :: rest, '\n' :: (gap w s ++ (first ++ after)), ?_, ?_, ?_, ?_⟩
      · rw [splitNewlines, if_pos rfl, hsplit]
      · rw [indentLater_newline, hindent, List.nil_append]
      · simp [startsLine]
      · by_cases hempty : first = []
        · have hnil : (first :: rest).filter (· ≠ []) = rest.filter (· ≠ []) := by
            rw [List.filter_cons, if_neg (by simp [hempty])]
          rw [hnil, hempty, List.nil_append]
          exact hoccur.prepend ('\n' :: gap w s)
        · have hcons : (first :: rest).filter (· ≠ []) = first :: rest.filter (· ≠ []) := by
            rw [List.filter_cons, if_pos (by simp [hempty])]
          have hgap : gap w s = w := by
            unfold gap
            rw [if_pos]
            by_contra hstarts
            exact hempty (hfirst.2 (by simpa using hstarts))
          rw [hcons, hgap]
          exact ⟨[], after, rfl, hoccur⟩
    · refine ⟨c :: first, rest, after, ?_, ?_, ?_, hoccur⟩
      · rw [splitNewlines, if_neg hc, hsplit]
        rfl
      · rw [indentLater_other hc, hindent, List.cons_append]
      · simp [startsLine, hc]

theorem laterLines_occur (w s : List Char) : OccurInOrder w (laterLines s) (indentLater w s) := by
  obtain ⟨first, rest, after, hsplit, hindent, -, hoccur⟩ := indentLater_lines w s
  unfold laterLines
  rw [hsplit, hindent, List.tail_cons]
  exact hoccur.prepend first

/-! ## §3. Chains. -/

/-- A template that includes the next one: the text before the line of the include, the indentation
of the include, and the text behind it. -/
structure Link where
  before : String
  indentation : String
  after : String

/-- Do the texts hold no openers, and is the indentation one? -/
structure Link.IsPlain (l : Link) : Prop where
  before : Inlay.IsPlain l.before.toList
  indentation : ∀ c ∈ l.indentation.toList, isIndent c = true
  after : Inlay.IsPlain l.after.toList

/-- The name of a template of a chain. -/
def linkName (j : Nat) : String := "t" ++ toString j

/-- The source of a template that includes one of a given name. -/
def Link.source (l : Link) (next : String) : String :=
  l.before ++ "\n" ++ l.indentation ++ "<%= include('" ++ next ++ "') %>" ++ l.after

/-- The source of the first template of a chain, which has the given number. -/
def linkSource (last : String) (j : Nat) : List Link → String
  | [] => last
  | l :: _ => l.source (linkName (j + 1))

/-- The sources of a chain by name, where the first template has the given number. -/
def chainSources (last : String) : Nat → List Link → List (String × String)
  | j, [] => [(linkName j, linkSource last j [])]
  | j, l :: ls => (linkName j, linkSource last j (l :: ls)) :: chainSources last (j + 1) ls

/-- The text with an indentation in front of every non-empty line but the first. -/
def indentedText (indentation text : String) : String :=
  String.ofList (indentLater indentation.toList text.toList)

/-- The text of a chain: each include stands for the text of the next template, indented. -/
def chainText (last : String) : List Link → String
  | [] => last
  | l :: ls =>
    l.before ++ "\n" ++ l.indentation ++ indentedText l.indentation (chainText last ls) ++ l.after

/-- The indentations of some includes, the outermost one first. -/
def leads (ls : List Link) : List Char := ls.flatMap (·.indentation.toList)

section Texts

variable {last : String} {ls : List Link}

theorem not_mem_leads (h : ∀ l ∈ ls, l.IsPlain) : '\n' ∉ leads ls := by
  unfold leads
  rw [List.mem_flatMap]
  rintro ⟨l, hl, hmem⟩
  exact absurd ((h l hl).indentation _ hmem) (by decide)

/-- The text of every template of a chain stands in that of the chain, indented by all includes on
the way to it. -/
theorem indentLater_chainText (h : ∀ l ∈ ls, l.IsPlain) (j : Nat) :
    indentLater (leads (ls.take j)) (chainText last (ls.drop j)).toList <:+:
      (chainText last ls).toList := by
  induction j generalizing ls with
  | zero =>
    show indentLater [] _ <:+: _
    rw [indentLater_nil]
    exact List.infix_refl _
  | succ j ih =>
    cases ls with
    | nil =>
      show indentLater [] _ <:+: _
      rw [indentLater_nil]
      exact List.infix_refl _
    | cons l ls =>
      obtain ⟨-, hls⟩ := List.forall_mem_cons.1 h
      have hinner := indentLater_within l.indentation.toList (ih hls)
      rw [indentLater_indentLater (not_mem_leads (fun l' hl' => hls l' (List.mem_of_mem_take hl')))]
        at hinner
      refine hinner.trans ?_
      simp only [chainText, indentedText, String.toList_append, String.toList_ofList]
      exact List.infix_append _ _ _

/-- The later lines of the text of a template of a chain occur in that of the chain. -/
theorem laterLines_chainText (h : ∀ l ∈ ls, l.IsPlain) (j : Nat) :
    OccurInOrder (leads (ls.take j)) (laterLines (chainText last (ls.drop j)).toList)
      (chainText last ls).toList :=
  (laterLines_occur _ _).within (indentLater_chainText h j)

end Texts

/-! ## §4. Rendering chains. -/

theorem isSimple_linkName (j : Nat) : IsSimple (linkName j) where
  nonempty := by
    unfold linkName
    rw [String.toList_append]
    exact List.append_ne_nil_of_left_ne_nil (by decide) _
  chars := by
    intro c hc
    unfold linkName at hc
    rw [String.toList_append, List.mem_append] at hc
    rcases hc with hc | hc
    · obtain rfl := List.mem_singleton.1 hc
      decide
    · have hdigit : c.isDigit = true := by
        rw [Nat.toString_eq_repr, Nat.toList_repr] at hc
        exact Nat.isDigit_of_mem_toDigits (by decide : 0 < 10) (by decide) hc
      rw [Char.isAlphanum, hdigit, Bool.or_true]

section Rendering

variable {last : String} {l : Link} {ls : List Link}

theorem Link.source_eq (l : Link) (next : String) : l.source next =
    includeSource (l.before ++ "\n" ++ l.indentation) next l.after := by
  apply String.toList_injective
  unfold Link.source includeSource includeCode
  have hopen : "<%= include('".toList = "<%= ".toList ++ "include('".toList := by decide
  have hclose : "') %>".toList = "')".toList ++ " %>".toList := by decide
  simp only [String.toList_append, List.append_assoc, hopen, hclose]

theorem trailing_before (h : l.IsPlain) :
    Indent.trailing (l.before ++ "\n" ++ l.indentation).toList = l.indentation.toList := by
  have hnewline : ("\n" : String).toList = ['\n'] := rfl
  unfold Indent.trailing
  rw [String.toList_append, String.toList_append, hnewline, List.reverse_append,
    List.reverse_append, List.takeWhile_append_of_pos]
  · show (l.indentation.toList.reverse ++ []).reverse = _
    rw [List.append_nil, List.reverse_reverse]
  · exact fun c hc => h.indentation c (List.mem_reverse.1 hc)

theorem before_ne (l : Link) : l.before ++ "\n" ++ l.indentation ≠ "" := by
  intro h
  have hlist := congrArg String.toList h
  rw [String.toList_append, String.toList_append, List.append_assoc] at hlist
  exact absurd (List.append_eq_nil_iff.1 hlist).2 (List.cons_ne_nil _ _)

theorem isPlain_before (h : l.IsPlain) :
    IsPlain (l.before ++ "\n" ++ l.indentation).toList := by
  have hspaces : IsPlain l.indentation.toList := by
    intro hwithin
    exact absurd (h.indentation '<' (hwithin.subset List.mem_cons_self)) (by decide)
  rw [String.toList_append, String.toList_append, List.append_assoc]
  refine isPlain_append h.before (isPlain_cons.2 ⟨?_, hspaces⟩) ?_
  · exact fun hc => absurd hc.1 (by decide)
  · exact fun hc => absurd (Option.some.inj hc) (by decide)

theorem mem_chainSources (last : String) (j : Nat) (ls : List Link) :
    (linkName j, linkSource last j ls) ∈ chainSources last j ls := by
  cases ls <;> exact List.mem_cons_self

theorem chainSources_drop {j : Nat} (hj : j ≤ ls.length) (i : Nat) {b : String × String}
    (hb : b ∈ chainSources last (i + j) (ls.drop j)) : b ∈ chainSources last i ls := by
  induction j generalizing ls i with
  | zero => exact hb
  | succ j ih =>
    cases ls with
    | nil => simp at hj
    | cons l ls =>
      have hnumber : i + (j + 1) = i + 1 + j := by omega
      rw [hnumber] at hb
      exact List.mem_cons_of_mem _ (ih (by simpa using hj) (i + 1) hb)

/-- Are all sources of a chain without openers apart from their includes, and short enough for
their lines to have numbers? -/
structure IsPlainChain (last : String) (j : Nat) (ls : List Link) : Prop where
  text : IsPlain last.toList
  links : ∀ l ∈ ls, l.IsPlain
  short : ∀ b ∈ chainSources last j ls, 1 + (b.2.length : Int) < lineLimit

theorem IsPlainChain.tail {j : Nat} (h : IsPlainChain last j (l :: ls)) :
    IsPlainChain last (j + 1) ls :=
  ⟨h.text, (List.forall_mem_cons.1 h.links).2, (List.forall_mem_cons.1 h.short).2⟩

theorem IsPlainChain.drop {i j : Nat} (h : IsPlainChain last i ls) (hj : j ≤ ls.length) :
    IsPlainChain last (i + j) (ls.drop j) :=
  ⟨h.text, fun l hl => h.links l (List.mem_of_mem_drop hl),
    fun b hb => h.short b (chainSources_drop hj i hb)⟩

theorem programOfSource_link {j : Nat} (h : IsPlainChain last j ls) (o : Origin) :
    ∃ program, programOfSource o (linkSource last j ls) = .ok program := by
  have hshort := h.short _ (mem_chainSources last j ls)
  cases ls with
  | nil =>
    obtain ⟨-, program, -, -, -, -, hprogram⟩ := programOfSource_text h.text hshort o
    exact ⟨program, hprogram⟩
  | cons l ls =>
    have hl := h.links l List.mem_cons_self
    have hsource : linkSource last j (l :: ls) = _ := l.source_eq (linkName (j + 1))
    rw [hsource] at hshort ⊢
    obtain ⟨-, program, -, -, -, -, hprogram⟩ := programOfSource_include (isPlain_before hl)
      (before_ne l) (isSimple_linkName (j + 1)) hl.after hshort o
    exact ⟨program, hprogram⟩

/-- Every template of a chain renders as the text of the chain that begins with it. -/
theorem renders_chain {sources : List (String × String)} (rounds : Nat) {j n : Nat}
    (h : IsPlainChain last j ls) (hsources : ∀ b ∈ chainSources last j ls, b ∈ sources)
    (hn : 2 * ls.length + 1 ≤ n) :
    Renders (power rounds n) ls.length sources (linkSource last j ls) (chainText last ls) := by
  have hshort := h.short _ (mem_chainSources last j ls)
  induction ls generalizing j n with
  | nil =>
    obtain ⟨n, rfl⟩ := Nat.exists_eq_add_of_le' (show 1 ≤ n from hn)
    exact renders_text h.text hshort rounds n
  | cons l ls ih =>
    obtain ⟨n, rfl⟩ := Nat.exists_eq_add_of_le' (show 2 ≤ n by rw [List.length_cons] at hn; omega)
    rw [List.length_cons] at hn
    obtain ⟨-, htail⟩ := List.forall_mem_cons.1 hsources
    have hl := h.links l List.mem_cons_self
    have hinner := ih (n := n) h.tail htail (by omega)
      (h.tail.short _ (mem_chainSources last (j + 1) ls))
    have hsource : linkSource last j (l :: ls) = _ := l.source_eq (linkName (j + 1))
    rw [hsource] at hshort ⊢
    have hrenders := renders_include (isPlain_before hl) (before_ne l) (isSimple_linkName (j + 1))
      hl.after hshort (htail _ (mem_chainSources last (j + 1) ls)) (programOfSource_link h.tail) hinner
    rw [trailing_before hl, reindent_eq_indentLater] at hrenders
    exact hrenders

/-- **Rendering the first template of a chain gives the text of the chain**, and so does every later
template with what follows it; and the lines of each template stand in the text of the whole chain
in their order, each right after a newline and the indentations of all includes on the way.

The environment serves the sources by their names, whatever else it has loaded and kept, and its
limit allows as many includes as there are; every include takes two levels of power. -/
theorem render_chain {links : List Link} (h : IsPlainChain last 0 links) {s : State}
    (hserves : ∀ b ∈ chainSources last 0 links, s.world.environment.Serves b.1 b.2)
    (hdepth : links.length ≤ s.world.environment.maxIncludeDepth) (hopen : s.IsOpen)
    {bindings : List (String × Value)} (hvisible : ∀ b ∈ bindings, isVisibleName b.1 = true)
    (rounds : Nat) {n : Nat} (hn : 2 * links.length + 1 ≤ n) {j : Nat} (hj : j ≤ links.length) :
    (∃ s', (do render (power rounds n) (← getTemplate (linkName j)) bindings : Run String).work s
        = .done (chainText last (links.drop j)) s')
      ∧ OccurInOrder (leads (links.take j)) (laterLines (chainText last (links.drop j)).toList)
        (chainText last links).toList := by
  have hdrop := h.drop hj
  rw [Nat.zero_add] at hdrop
  have hmem := chainSources_drop hj 0 (mem_chainSources last (0 + j) (links.drop j))
  rw [Nat.zero_add] at hmem
  have hlength : (links.drop j).length = links.length - j := List.length_drop
  have hrenders := renders_chain rounds hdrop
    (fun b hb => chainSources_drop hj 0 (by rwa [Nat.zero_add])) (show _ ≤ n by omega)
  exact ⟨getTemplate_render_done hserves hmem (programOfSource_link hdrop) hrenders hopen (by omega)
    hvisible, laterLines_chainText h.links j⟩

end Rendering

/-- Two links: the first include is indented by spaces, the second one by a tab. -/
def twoLinks : List Link := [⟨"a\nb", "  ", "c\n"⟩, ⟨"", "\t", "!"⟩]

/-- The sources of a chain of two links, whose last text has an empty line. -/
def twoLinkSources : List (String × String) := chainSources "x\n\ny" 0 twoLinks

/-- A state in which nothing was loaded yet. -/
def twoLinkStart : State := { world := { environment := { loader := some (.table twoLinkSources) } } }

theorem isPlainChain_twoLinks : IsPlainChain "x\n\ny" 0 twoLinks where
  text := by decide
  links := List.forall_mem_cons.2 ⟨⟨by decide, List.all_eq_true.1 (by decide), by decide⟩,
    List.forall_mem_singleton.2 ⟨by decide, List.all_eq_true.1 (by decide), by decide⟩⟩
  short := by decide

theorem serves_twoLinks :
    ∀ b ∈ chainSources "x\n\ny" 0 twoLinks, twoLinkStart.world.environment.Serves b.1 b.2 := by
  have hlookup : ∀ b ∈ chainSources "x\n\ny" 0 twoLinks,
      twoLinkSources.lookup b.1 = some b.2 := by decide
  exact fun b hb => serves_table (hlookup b hb)

theorem isOpen_twoLinkStart : twoLinkStart.IsOpen := State.isOpen_of_own_empty rfl

theorem render_twoLinks :
    (∃ s', (do render fullPower (← getTemplate "t0") [] : Run String).work twoLinkStart
        = .done "a\nb\n  \n  \tx\n\n  \ty!c\n" s')
      ∧ OccurInOrder "  \t".toList [['y']] "a\nb\n  \n  \tx\n\n  \ty!c\n".toList := by
  have hchain := fun (j : Nat) (hj : j ≤ twoLinks.length) =>
    render_chain isPlainChain_twoLinks serves_twoLinks (by decide) isOpen_twoLinkStart
      (fun _ hb => absurd hb List.not_mem_nil) maxRounds (show _ ≤ maxCallDepth by decide) hj
  have htext : chainText "x\n\ny" twoLinks = "a\nb\n  \n  \tx\n\n  \ty!c\n" := by decide
  refine ⟨?_, ?_⟩
  · rw [← htext]
    exact (hchain 0 (by decide)).1
  · rw [← htext]
    exact (hchain 2 (by decide)).2

end Inlay
