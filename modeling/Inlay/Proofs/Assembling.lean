/-
  Inlay.Proofs.Assembling
  ────────────────────────────────
  **A HEADER THAT STANDS ALONE.**

  The skeleton of one header is read from its lines, put together again with
  a `pass` below them.  Two things may change on the way.  A carriage return
  becomes a newline, which is what it means to the language anyway.  Any
  other line boundary becomes a newline as well, and to the language it is
  none: so a header without such boundaries is the only one that says the
  same before and afterwards.

      readItems?_sameUpTo — lines are read in the same way by grammars that
                            are cut off deep enough
      skeleton_alone      — the skeleton of one header is what the header says
-/
import Inlay.Proofs.Skeletons

namespace Inlay.Code

open Reader Inlay.Header Inlay.Text

/-! ## §1. Readers that do the same on light lines. -/

section Reading

variable {α β : Type} {k N N' : Nat}

/-- Do two readers do the same on all lines up to a weight, and leave no more than they were
given? -/
def SameUpTo (k : Nat) (r r' : Reader α) : Prop :=
  ∀ ts, weightOf ts ≤ k → r ts = r' ts ∧ ∀ a us, r ts = some (a, us) → weightOf us ≤ weightOf ts

namespace SameUpTo

theorem of_agreesOn {r r' : Reader α} {ts : List Tok} {x : Option Lexeme}
    (h : AgreesOn x k r r') (hx : ts.head?.map Tok.lexeme = x) (hw : weightOf ts ≤ k) :
    r ts = r' ts ∧ ∀ a us, r ts = some (a, us) → weightOf us ≤ weightOf ts := by
  rcases h ts ts rfl hx hw with ⟨hr, hr'⟩ | ⟨a, n, hr, hr'⟩
  · refine ⟨hr.trans hr'.symm, fun b us hus => ?_⟩
    rw [hr] at hus
    cases hus
  · refine ⟨hr.trans hr'.symm, fun b us hus => ?_⟩
    rw [hr] at hus
    obtain ⟨-, rfl⟩ := Prod.mk.inj (Option.some.inj hus)
    exact weightOf_drop_le n ts

theorem of_agrees {r r' : Reader α} (h : Agrees k r r') : SameUpTo k r r' :=
  fun _ hw => of_agreesOn (h _) rfl hw

theorem pure (a : α) : SameUpTo k (Pure.pure a) (Pure.pure a) := of_agrees (.pure a)

theorem bind {r r' : Reader α} {f f' : α → Reader β} (h : SameUpTo k r r')
    (hf : ∀ a, SameUpTo k (f a) (f' a)) : SameUpTo k (r >>= f) (r' >>= f') := by
  intro ts hw
  obtain ⟨heq, hle⟩ := h ts hw
  cases hr : r ts with
  | none =>
    refine ⟨?_, fun b vs hvs => ?_⟩
    · rw [bind_none f hr, bind_none f' (heq.symm.trans hr)]
    · rw [bind_none f hr] at hvs
      cases hvs
  | some found =>
    obtain ⟨a, us⟩ := found
    have hus : weightOf us ≤ weightOf ts := hle a us hr
    obtain ⟨heq', hle'⟩ := hf a us (Nat.le_trans hus hw)
    refine ⟨?_, fun b vs hvs => ?_⟩
    · rw [bind_apply f hr, bind_apply f' (heq.symm.trans hr), heq']
    · rw [bind_apply f hr] at hvs
      exact Nat.le_trans (hle' b vs hvs) hus

theorem ite {c : Prop} [Decidable c] {r r' e e' : Reader α} (ht : SameUpTo k r r')
    (he : SameUpTo k e e') : SameUpTo k (if c then r else e) (if c then r' else e') := by
  split
  · exact ht
  · exact he

theorem manyAlong {r r' : Reader (Option α)} (h : SameUpTo k r r') (us : List Tok) :
    SameUpTo k (Reader.manyAlong r us) (Reader.manyAlong r' us) := by
  induction us with
  | nil =>
    unfold Reader.manyAlong
    refine bind h fun a => ?_
    cases a with
    | none => exact pure []
    | some a => exact of_agrees .refuse
  | cons u us ih =>
    unfold Reader.manyAlong
    refine bind h fun a => ?_
    cases a with
    | none => exact pure []
    | some a => exact bind ih fun _ => pure _

theorem many {r r' : Reader (Option α)} (h : SameUpTo k r r') :
    SameUpTo k (Reader.many r) (Reader.many r') := fun ts hw => manyAlong h ts ts hw

end SameUpTo

/-! ## §2. Lines that are read by grammars of different depths. -/

section Lines

variable (hN : k + 2 ≤ N) (hN' : k + 2 ≤ N')

include hN hN'

theorem simpleStatement_sameUpTo :
    SameUpTo k (simpleStatement (grammar N)) (simpleStatement (grammar N')) := by
  intro ts hw
  by_cases hpass : ts.head?.map Tok.lexeme = some (.word "pass")
  · -- a `pass` is the same in every grammar, but it knows its line
    obtain ⟨u, us, rfl⟩ : ∃ u us, ts = u :: us := by
      cases ts with
      | nil => cases hpass
      | cons u us => exact ⟨u, us, rfl⟩
    have hu : u.lexeme = .word "pass" := Option.some.inj hpass
    refine ⟨by rw [simpleStatement_pass hu, simpleStatement_pass hu], fun s vs hvs => ?_⟩
    rw [simpleStatement_pass hu] at hvs
    obtain ⟨-, rfl⟩ := Prod.mk.inj (Option.some.inj hvs)
    rw [weightOf_cons]
    exact Nat.le_add_left _ _
  · have hg := grammar_agrees _ N N' hN hN'
    exact SameUpTo.of_agreesOn (simpleStatement_agreesOn hg (Nat.le_refl _) hpass) rfl hw

theorem simpleStatements_sameUpTo :
    SameUpTo k (simpleStatements (grammar N)) (simpleStatements (grammar N')) := by
  have hstatement := simpleStatement_sameUpTo hN hN'
  have hsign := SameUpTo.of_agrees (Agrees.accepts (k := k) (acceptSign_accepts ";"))
  have hend := SameUpTo.of_agrees (Agrees.atEnd (k := k))
  unfold simpleStatements
  refine .bind hstatement fun first => .bind (.many (.bind hsign fun b => ?_)) fun rest => ?_
  · refine .ite (.bind hend fun b => .ite (.pure _) (.bind hstatement fun _ => .pure _)) (.pure _)
  · exact .bind hend fun b => .bind (.of_agrees (.ensure b)) fun _ => .pure _

theorem lineText_sameUpTo (inMatch hasSuite : Bool) :
    SameUpTo k (lineText (grammar N) inMatch hasSuite) (lineText (grammar N') inMatch hasSuite) := by
  have hg := grammar_agrees _ N N' hN hN'
  have hstatements := simpleStatements_sameUpTo hN hN'
  have hend := SameUpTo.of_agrees (Agrees.atEnd (k := k))
  unfold lineText
  refine .bind (.of_agrees (head?_agrees hg (Nat.le_refl _) inMatch hasSuite)) fun found => ?_
  cases found with
  | some head =>
    refine .bind (.of_agrees (.sign ":")) fun _ => .bind hend fun b => .ite (.pure _) ?_
    exact .bind hstatements fun _ => .pure _
  | none =>
    refine .bind (.of_agrees (.accepts (acceptSign_accepts "@"))) fun b => .ite ?_ ?_
    · refine .bind (.of_agrees (namedExpression_agrees hg (Nat.le_refl _))) fun e => ?_
      exact .bind hend fun b => .bind (.of_agrees (.ensure b)) fun _ => .pure _
    · exact .bind hstatements fun _ => .pure _

end Lines

mutual

theorem readItem?_sameUpTo (hN : k + 2 ≤ N) (hN' : k + 2 ≤ N') :
    ∀ (l : Line) (inMatch : Bool), (∀ ts ∈ l.written, weightOf ts ≤ k) →
      readItem? (grammar N) inMatch l = readItem? (grammar N') inMatch l
  | .mk toks suite, inMatch, hw => by
    rw [Line.written, List.forall_mem_cons] at hw
    have hsuite (b : Bool) := readItems?_sameUpTo hN hN' suite b hw.2
    rw [readItem?, readItem?, (lineText_sameUpTo hN hN' inMatch _ toks hw.1).1]
    simp only [hsuite]

/-- **Lines are read in the same way by grammars that are cut off deep enough.** -/
theorem readItems?_sameUpTo (hN : k + 2 ≤ N) (hN' : k + 2 ≤ N') :
    ∀ (ls : List Line) (inMatch : Bool), (∀ ts ∈ writtenIn ls, weightOf ts ≤ k) →
      readItems? (grammar N) inMatch ls = readItems? (grammar N') inMatch ls
  | [], inMatch, _ => by rw [readItems?, readItems?]
  | l :: ls, inMatch, hw => by
    rw [writtenIn, List.forall_mem_append] at hw
    rw [readItems?, readItems?, readItem?_sameUpTo hN hN' l inMatch hw.1,
      readItems?_sameUpTo hN hN' ls inMatch hw.2]

end

theorem parseStatements?_of_layout? {code : String} {forest : List Line}
    (h : layout? code = some forest) :
    parseStatements? code = (readItems? (grammar (code.length + 2)) false forest).bind assemble? := by
  unfold parseStatements?
  rw [h, Option.bind_eq_bind, Option.bind_some]
  rfl

/-- Code that is laid out in the same way is the same statements, however long it is. -/
theorem parseStatements?_congr {code code' : String} (h : layout? code = layout? code')
    (hlength : code'.length ≤ code.length) : parseStatements? code = parseStatements? code' := by
  cases hforest : layout? code' with
  | none =>
    unfold parseStatements?
    rw [h, hforest, Option.bind_eq_bind, Option.bind_none, Option.bind_eq_bind, Option.bind_none]
  | some forest =>
    have hw := weight_of_layout? hforest
    have hsame : readItems? (grammar (code.length + 2)) false forest
        = readItems? (grammar (code'.length + 2)) false forest := by
      refine readItems?_sameUpTo (k := code'.length) (by omega) (Nat.le_refl _) forest false
        fun ts hts => ?_
      have hts := hw ts hts
      omega
    rw [parseStatements?_of_layout? (h.trans hforest), parseStatements?_of_layout? hforest, hsame]

end Reading

/-! ## §3. The lines of a header. -/

section Lines

variable {s t : List Char}

/-- Has the text no line boundaries but newlines and carriage returns? -/
def HasPlainLines (s : List Char) : Prop :=
  ∀ c ∈ s, isLineBoundary c = true → c = '\n' ∨ c = '\r'

theorem HasPlainLines.tail {c : Char} (h : HasPlainLines (c :: s)) : HasPlainLines s :=
  fun d hd => h d (List.mem_cons_of_mem _ hd)

/-- A text that ends in no line boundary. -/
def EndsInside (s : List Char) : Prop := ∃ c, s.getLast? = some c ∧ isLineBoundary c = false

theorem EndsInside.tail {c d : Char} (h : EndsInside (c :: d :: s)) : EndsInside (d :: s) := by
  obtain ⟨e, he, hinside⟩ := h
  exact ⟨e, by rwa [List.getLast?_cons_cons] at he, hinside⟩

theorem EndsInside.ne_nil {c : Char} (h : EndsInside (c :: s)) (hc : isLineBoundary c = true) :
    s ≠ [] := by
  rintro rfl
  obtain ⟨d, hd, hinside⟩ := h
  obtain rfl : c = d := Option.some.inj hd
  rw [hc] at hinside
  cases hinside

/-- **Where newlines and carriage returns are the only boundaries, the lines of a text are those of
the language.** -/
theorem breakLines_eq_splitNewlines (h : HasPlainLines s) (hend : EndsInside s) :
    breakLines s = splitNewlines (foldNewlines s) := by
  fun_induction breakLines s with
  | case1 =>
    obtain ⟨c, hc, -⟩ := hend
    cases hc
  | case2 s ih =>
    have hne : s ≠ [] := hend.tail.ne_nil (by decide)
    obtain ⟨d, u, rfl⟩ := List.exists_cons_of_ne_nil hne
    rw [foldNewlines, splitNewlines, if_pos rfl, ih h.tail.tail hend.tail.tail]
  | case3 c s hnot hboundary ih =>
    have hne : s ≠ [] := hend.ne_nil hboundary
    obtain ⟨d, u, rfl⟩ := List.exists_cons_of_ne_nil hne
    have hnewline : (if c = '\r' then '\n' else c) = '\n' := by
      rcases h c List.mem_cons_self hboundary with rfl | rfl <;> rfl
    rw [foldNewlines, hnewline, splitNewlines, if_pos rfl, ih h.tail hend.tail]
    · intro v hc
      exact hnot v hc
  | case4 c s hnot hboundary ih =>
    have hreturn : c ≠ '\r' := by
      rintro rfl
      exact hboundary (by decide)
    have hnewline : c ≠ '\n' := by
      rintro rfl
      exact hboundary (by decide)
    cases s with
    | nil =>
      rw [foldNewlines, if_neg hreturn, splitNewlines, if_neg hnewline]
      · rfl
      · exact fun v hc => absurd hc hreturn
    | cons d u =>
      rw [foldNewlines, if_neg hreturn, splitNewlines, if_neg hnewline, ih h.tail hend.tail]
      exact fun v hc => absurd hc hreturn

/-- Folding goes on behind a text that does not end in a carriage return. -/
theorem foldNewlines_append (h : s.getLast? ≠ some '\r') :
    foldNewlines (s ++ t) = foldNewlines s ++ foldNewlines t := by
  fun_induction foldNewlines s with
  | case1 => rfl
  | case2 s ih =>
    rw [List.cons_append, List.cons_append, foldNewlines, ih]
    · rfl
    · intro hlast
      refine h ?_
      rw [List.getLast?_cons, List.getLast?_cons, hlast]
      rfl
  | case3 c s hnot ih =>
    have hlast : s.getLast? ≠ some '\r' := by
      intro hlast
      refine h ?_
      rw [List.getLast?_cons, hlast]
      rfl
    rw [List.cons_append, foldNewlines, ih hlast]
    · rfl
    · intro v hc hv
      subst hc
      cases s with
      | nil => exact h rfl
      | cons d u =>
        obtain ⟨rfl, -⟩ := List.cons.inj hv
        exact hnot u rfl rfl

theorem return_notMem_foldNewlines (s : List Char) : '\r' ∉ foldNewlines s := by
  fun_induction foldNewlines s with
  | case1 => exact List.not_mem_nil
  | case2 s ih => exact fun hmem => (List.mem_cons.1 hmem).elim (by decide) ih
  | case3 c s _ ih =>
    intro hmem
    rcases List.mem_cons.1 hmem with hc | hmem
    · split at hc
      · exact absurd hc (by decide)
      · rename_i hne
        exact hne hc.symm
    · exact ih hmem

theorem mem_of_mem_foldNewlines {c : Char} (h : c ∈ foldNewlines s) : c = '\n' ∨ c ∈ s := by
  fun_induction foldNewlines s with
  | case1 => exact absurd h List.not_mem_nil
  | case2 s ih =>
    rcases List.mem_cons.1 h with hc | h
    · exact Or.inl hc
    · exact (ih h).imp_right fun hmem => List.mem_cons_of_mem _ (List.mem_cons_of_mem _ hmem)
  | case3 d s _ ih =>
    rcases List.mem_cons.1 h with hc | h
    · split at hc
      · exact Or.inl hc
      · exact Or.inr (hc ▸ List.mem_cons_self)
    · exact (ih h).imp_right (List.mem_cons_of_mem _)

theorem joinNewlines_concat {ls : List (List Char)} (h : ls ≠ []) (l : List Char) :
    joinNewlines (ls ++ [l]) = joinNewlines ls ++ '\n' :: l := by
  induction ls with
  | nil => exact absurd rfl h
  | cons m ms ih =>
    cases ms with
    | nil => rfl
    | cons m' ms =>
      rw [List.cons_append, joinNewlines_cons_of_ne_nil (by simp), ih (List.cons_ne_nil _ _),
        joinNewlines_cons_of_ne_nil (List.cons_ne_nil _ _), List.append_assoc]
      rfl

theorem toList_intercalate_ofList (ls : List (List Char)) :
    ("\n".intercalate (ls.map String.ofList)).toList = joinNewlines ls := by
  rw [String.toList_intercalate, List.map_map]
  induction ls with
  | nil => rfl
  | cons l ls ih =>
    cases ls with
    | nil =>
      show (String.ofList l).toList ++ [] = l
      rw [String.toList_ofList, List.append_nil]
    | cons m ms =>
      rw [joinNewlines_cons_of_ne_nil (List.cons_ne_nil _ _), ← ih, List.map_cons, List.map_cons,
        List.intercalate_cons_cons, Function.comp_apply, String.toList_ofList]
      rw [List.append_assoc]
      rfl

theorem isBlank_of_isLineBoundary {c : Char} (h : isLineBoundary c = true) : isBlank c = true := by
  unfold isLineBoundary inRanges at h
  unfold isBlank inRanges blankRanges
  simp only [List.any_cons, List.any_nil, Bool.or_false, Bool.or_eq_true, Bool.and_eq_true,
    decide_eq_true_eq] at h ⊢
  omega

/-- Code is laid out by its characters, its line ends apart. -/
theorem layout?_congr {code code' : String}
    (h : foldNewlines code.toList = foldNewlines code'.toList) : layout? code = layout? code' := by
  have hlines : logicalLines? code = logicalLines? code' := by
    unfold logicalLines?
    rw [h]
  unfold layout?
  rw [hlines]

end Lines

/-! ## §4. One header. -/

section Header

variable {header : String} {s : Stmt}

/-- A header with an indented `pass` below it. -/
def withPass (header : String) : String := header ++ "\n    pass"

/-- The line below a header. -/
def rowBelow (header : String) : Nat :=
  (splitNewlines (foldNewlines header.toList)).length + 1

/-- Is the header one that opens a block and has a body of its own, in its normal form? -/
structure OpensBody (header : String) : Prop where
  opens : opensBlock header = true
  bodied : hasBody header = true
  normal : normalize header = header

namespace OpensBody

theorem endsInside (h : OpensBody header) : EndsInside header.toList := by
  have hstrip : strip (dedent header.toList) = header.toList := by
    have hnormal := h.normal
    unfold Header.normalize at hnormal
    rw [← String.toList_ofList (l := strip (dedent header.toList)), hnormal]
  have hlast : header.toList.getLast?
      = (dedent header.toList).reverse.find? (fun c => !isBlank c) := by
    rw [← getLast?_stripRight, ← getLast?_strip, hstrip]
  have hcolon : header.toList.getLast? ≠ none := by
    intro hnone
    have hheader := (Bool.and_eq_true_iff.1 h.opens).1
    unfold isHeader at hheader
    rw [List.getLast?_eq_none_iff.1 hnone] at hheader
    exact absurd hheader (by decide)
  obtain ⟨c, hc⟩ := Option.ne_none_iff_exists'.1 hcolon
  refine ⟨c, hc, ?_⟩
  rw [hlast] at hc
  have hblank := List.find?_some hc
  rw [Bool.not_eq_true', ] at hblank
  by_contra hboundary
  rw [isBlank_of_isLineBoundary (by simpa using hboundary)] at hblank
  cases hblank

theorem clauseWord?_ne (h : OpensBody header) : clauseWord? header ≠ some "case" := by
  obtain ⟨hheader, hany⟩ := Bool.and_eq_true_iff.1 h.opens
  obtain ⟨w, hw, hword⟩ := (Option.any_eq_true _ _).1 hany
  unfold clauseWord?
  rw [if_pos hheader, hw]
  intro heq
  obtain rfl : w = "case" := Option.some.inj (Option.filter_eq_some_iff.1 heq).1
  exact absurd hword (by decide)

theorem breakLines_ne_nil (h : OpensBody header) : breakLines header.toList ≠ [] := by
  obtain ⟨c, hc, -⟩ := h.endsInside
  cases hchars : header.toList with
  | nil =>
    rw [hchars] at hc
    cases hc
  | cons c s =>
    unfold breakLines
    split
    · cases ‹_ = []›
    · exact List.cons_ne_nil _ _
    · split
      · exact List.cons_ne_nil _ _
      · cases breakLines _ <;> exact List.cons_ne_nil _ _

/-- The lines that the skeleton of a header is read from. -/
theorem assembleHeaders (h : OpensBody header) : assembleHeaders [header]
    = ⟨(breakLines header.toList ++ ["    pass".toList]).map String.ofList,
      [some ((breakLines header.toList).length + 1)]⟩ := by
  obtain ⟨first, rest, hlines⟩ := List.exists_cons_of_ne_nil h.breakLines_ne_nil
  have hheaderLines : headerLines header
      = String.ofList first :: rest.map String.ofList := by
    unfold headerLines linesOf
    rw [h.normal, hlines]
    rfl
  unfold Code.assembleHeaders
  rw [List.foldl_cons, List.foldl_nil, Assembly.add, hheaderLines, hlines]
  dsimp only
  rw [if_neg h.clauseWord?_ne, if_pos h.bodied]
  simp

end OpensBody

/-- A `pass` alone in the first body of a statement is found there. -/
theorem slotPath?_of_listAt? {n : Nat} (h : s.listAt? [.body] = some [.pass n]) :
    s.slotPath? n = some [.body] := by
  have hpass : bodyPath? n [.pass n] = some [] := by
    rw [bodyPath?, isSlot, beq_self_eq_true, if_pos rfl]
  obtain ⟨body, hbody, hlist⟩ := Option.bind_eq_some_iff.1 h
  obtain rfl : body = [.pass n] := Option.some.inj hlist
  -- only the statements with a first body are left
  cases s <;> cases hbody
  all_goals
    rw [Stmt.slotPath?, hpass]
    rfl

section Alone

variable (h : OpensBody header) (hplain : HasPlainLines header.toList)

include h hplain

/-- The code that the skeleton of a header is read from is the header with a `pass`, but for the
way its lines end. -/
theorem toList_assembled : ("\n".intercalate (assembleHeaders [header]).lines).toList
    = foldNewlines (withPass header).toList := by
  obtain ⟨c, hc, hinside⟩ := h.endsInside
  have hlast : header.toList.getLast? ≠ some '\r' := by
    intro hreturn
    rw [hc] at hreturn
    obtain rfl := Option.some.inj hreturn
    exact absurd hinside (by decide)
  have hpass : foldNewlines "\n    pass".toList = "\n    pass".toList := by decide
  rw [h.assembleHeaders, toList_intercalate_ofList, joinNewlines_concat h.breakLines_ne_nil,
    breakLines_eq_splitNewlines hplain h.endsInside, joinNewlines_splitNewlines, withPass,
    String.toList_append, foldNewlines_append hlast, hpass]
  rfl

theorem layout?_assembled :
    layout? ("\n".intercalate (assembleHeaders [header]).lines) = layout? (withPass header) := by
  refine layout?_congr ?_
  rw [toList_assembled h hplain]
  exact foldNewlines_eq (return_notMem_foldNewlines _)

/-- **The skeleton of one header is what the header says.**  A header that opens a block, with a
`pass` below it, is one statement with this `pass` as its body: this is the statement of the
skeleton, and the `pass` is its only slot. -/
theorem skeleton_alone (hnul : '\x00' ∉ header.toList)
    (hparse : parseStatements? (withPass header) = some [s])
    (hbody : s.listAt? [.body] = some [.pass (rowBelow header)]) :
    skeleton [header] = .ok ⟨s, [some (rowBelow header)]⟩
      ∧ s.slotPath? (rowBelow header) = some [.body] := by
  have hpath := slotPath?_of_listAt? hbody
  have hchars := toList_assembled h hplain
  have hslots : (assembleHeaders [header]).slots = [some (rowBelow header)] := by
    rw [h.assembleHeaders, breakLines_eq_splitNewlines hplain h.endsInside]
    rfl
  have hnul' : ("\n".intercalate (assembleHeaders [header]).lines).toList.contains '\x00'
      = false := by
    rw [hchars, Bool.eq_false_iff, ne_eq, List.contains_iff_mem]
    intro hmem
    rcases mem_of_mem_foldNewlines hmem with hnewline | hmem
    · exact absurd hnewline (by decide)
    · rw [withPass, String.toList_append, List.mem_append] at hmem
      exact hmem.elim hnul (by decide)
  have hparse' : parseStatements? ("\n".intercalate (assembleHeaders [header]).lines)
      = some [s] := by
    rw [← hparse]
    refine (parseStatements?_congr (layout?_assembled h hplain).symm ?_).symm
    rw [← String.length_toList, ← String.length_toList, hchars]
    exact length_foldNewlines_le _
  have hfound : missingSlot? s [some (rowBelow header)] = none := by
    unfold missingSlot?
    rw [List.find?_eq_none]
    intro n hn
    obtain rfl : n = rowBelow header := by simpa using hn
    simp [hpath]
  refine ⟨?_, hpath⟩
  unfold skeleton
  simp only [hnul', hparse', hslots, hfound]
  rfl

end Alone

/-- A condition over two lines. -/
theorem skeleton_alone_lines : ∃ s, parseStatements? (withPass "if (a or\r\n    b):") = some [s]
    ∧ skeleton ["if (a or\r\n    b):"] = .ok ⟨s, [some 3]⟩ ∧ s.slotPath? 3 = some [.body] := by
  have hopens : OpensBody "if (a or\r\n    b):" := ⟨by decide, by decide, by decide⟩
  have hplain : HasPlainLines "if (a or\r\n    b):".toList := by
    have hall : "if (a or\r\n    b):".toList.all
        (fun c => !isLineBoundary c || c == '\n' || c == '\r') = true := by decide
    intro c hc hboundary
    have hplain := List.all_eq_true.1 hall c hc
    simpa [hboundary] using hplain
  have hread : (parseStatements? (withPass "if (a or\r\n    b):")).any (fun ss =>
      ss.length == 1 && (ss.head?.bind (·.listAt? [.body])).any (isSlot 3)) = true := by
    decide +kernel
  have hrow : rowBelow "if (a or\r\n    b):" = 3 := by decide
  obtain ⟨ss, hparse, hbody⟩ := (Option.any_eq_true _ _).1 hread
  rw [Bool.and_eq_true, beq_iff_eq] at hbody
  obtain ⟨s, rfl⟩ := List.length_eq_one_iff.1 hbody.1
  have hslot : (s.listAt? [.body]).any (isSlot 3) = true := hbody.2
  obtain ⟨body, hlist, hslot⟩ := (Option.any_eq_true _ _).1 hslot
  rw [eq_of_isSlot hslot, ← hrow] at hlist
  refine ⟨s, hparse, ?_⟩
  rw [← hrow]
  exact skeleton_alone hopens hplain (by decide) hparse hlist

end Header

end Inlay.Code
