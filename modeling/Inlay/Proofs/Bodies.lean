/-
  Inlay.Proofs.Bodies
  ────────────────────────────────
  **OTHER BODIES FOR THE SAME HEADERS.**

  Headers stand in some code with a `pass` below each, and in other code with
  other bodies below them.  The headers are read in the same way in both, on
  whatever rows they stand, and so the other code is the template of the
  headers with the other bodies:

      Bodied       — the same lines, with bodies in the place of each `pass`
      Shape.bodied — what the lines with the bodies are
-/
import Inlay.Proofs.Placing

namespace Inlay.Code

open Reader

/-! ## §1. Forests with bodies. -/

/-- Are the lexemes the same, wherever they stand? -/
def SameLexemes (toks toks' : List Tok) : Prop := toks.map Tok.lexeme = toks'.map Tok.lexeme

/-- Has the second forest the lines of the first one, but with suites that are read as the bodies
in the place of every suite that is a `pass`?  A body is found by the row of its `pass`. -/
inductive Bodied (g : Grammar) (bodies : Bodies) : List Line → List Line → Prop
  | nil : Bodied g bodies [] []
  | alone {toks toks' ls ls'} (hsame : SameLexemes toks toks')
      (hpass : ∀ u, toks = [u] → u.lexeme ≠ .word "pass") (h : Bodied g bodies ls ls') :
      Bodied g bodies (.mk toks [] :: ls) (.mk toks' [] :: ls')
  | body {toks toks' u suite items ls ls'} (hsame : SameLexemes toks toks')
      (hpass : u.lexeme = .word "pass") (hsuite : suite ≠ [])
      (hitems : readItems? g false suite = some items)
      (hbody : assemble? items = some (bodies u.line)) (h : Bodied g bodies ls ls') :
      Bodied g bodies (.mk toks [.mk [u] []] :: ls) (.mk toks' suite :: ls')
  | deeper {toks toks' suite suite' ls ls'} (hsame : SameLexemes toks toks') (hsuite : suite ≠ [])
      (hbelow : Bodied g bodies suite suite') (h : Bodied g bodies ls ls') :
      Bodied g bodies (.mk toks suite :: ls) (.mk toks' suite' :: ls')

section Bodied

variable {g : Grammar} {bodies : Bodies} {toks : List Tok} {ls forest' : List Line}

/-- A suite that is a `pass` has a body in its place. -/
theorem Bodied.of_pass {u : Tok} (h : Bodied g bodies (.mk toks [.mk [u] []] :: ls) forest')
    (hpass : u.lexeme = .word "pass") :
    ∃ toks' suite items ls', forest' = .mk toks' suite :: ls' ∧ SameLexemes toks toks'
      ∧ suite ≠ [] ∧ readItems? g false suite = some items
      ∧ assemble? items = some (bodies u.line) ∧ Bodied g bodies ls ls' := by
  cases h with
  | body hsame _ hsuite hitems hbody h =>
    exact ⟨_, _, _, _, rfl, hsame, hsuite, hitems, hbody, h⟩
  | deeper hsame hsuite hbelow h =>
    cases hbelow with
    | alone _ hno _ => exact absurd hpass (hno u rfl)
    | deeper _ hne _ _ => exact absurd rfl hne

/-- A line without a suite has none in the other forest. -/
theorem Bodied.of_alone (h : Bodied g bodies [.mk toks []] forest') :
    ∃ toks', forest' = [.mk toks' []] ∧ SameLexemes toks toks' := by
  cases h with
  | alone hsame _ h =>
    cases h
    exact ⟨_, rfl, hsame⟩
  | deeper _ hne _ _ => exact absurd rfl hne

/-- The lines below a line, where these are no `pass`. -/
theorem Bodied.of_below {suite : List Line} (h : Bodied g bodies [.mk toks suite] forest')
    (hsuite : suite ≠ []) (hpass : ∀ u, suite = [.mk [u] []] → u.lexeme ≠ .word "pass") :
    ∃ toks' suite', forest' = [.mk toks' suite'] ∧ SameLexemes toks toks'
      ∧ Bodied g bodies suite suite' := by
  cases h with
  | alone => exact absurd rfl hsuite
  | body _ hlexeme => exact absurd hlexeme (hpass _ rfl)
  | deeper hsame _ hbelow h =>
    cases h
    exact ⟨_, _, rfl, hsame, hbelow⟩

end Bodied

/-! ## §2. Lines that are read in the same way. -/

section Lines

variable {N N' : Nat} {toks toks' rest : List Tok} {inMatch hasSuite : Bool}

/-- What is found at the start of a line depends on its lexemes only. -/
theorem head?_same {o : Option Head} (hsame : SameLexemes toks toks')
    (hw : weightOf toks + 2 ≤ N) (hw' : weightOf toks + 2 ≤ N')
    (h : head? (grammar N) inMatch hasSuite toks = some (o, rest)) :
    ∃ rest', head? (grammar N') inMatch hasSuite toks' = some (o, rest') ∧ SameLexemes rest rest' := by
  rcases head?_agrees (grammar_agrees _ N N' hw hw') (Nat.le_refl _) inMatch hasSuite _ toks toks'
    hsame rfl (Nat.le_refl _) with ⟨hnone, -⟩ | ⟨a, n, hsome, hsome'⟩
  · rw [hnone] at h
    cases h
  · rw [hsome] at h
    obtain ⟨rfl, rfl⟩ := Prod.mk.inj (Option.some.inj h)
    refine ⟨_, hsome', ?_⟩
    unfold SameLexemes
    rw [List.map_drop, List.map_drop, hsame]

theorem SameLexemes.of_cons {t : Tok} {ts : List Tok} (h : SameLexemes (t :: ts) toks') :
    ∃ t' ts', toks' = t' :: ts' ∧ t.lexeme = t'.lexeme ∧ SameLexemes ts ts' := by
  obtain ⟨t', ts', rfl, hlexeme, hrest⟩ := List.map_eq_cons_iff.1 h.symm
  exact ⟨t', ts', rfl, hlexeme.symm, hrest.symm⟩

theorem SameLexemes.of_nil (h : SameLexemes [] toks') : toks' = [] := List.map_eq_nil_iff.1 h.symm

/-- **A header is read in the same way wherever it stands.** -/
theorem lineText_opening {head : Head} (hsame : SameLexemes toks toks')
    (hw : weightOf toks + 2 ≤ N) (hw' : weightOf toks + 2 ≤ N')
    (h : lineText (grammar N) inMatch hasSuite toks = some (.opening head, [])) :
    lineText (grammar N') inMatch hasSuite toks' = some (.opening head, []) := by
  unfold lineText at h ⊢
  obtain ⟨o, us, hhead, h⟩ := of_bind h
  obtain ⟨us', hhead', hus⟩ := head?_same hsame hw hw' hhead
  rw [bind_apply _ hhead']
  cases o with
  | none =>
    -- a line without a header is no opening one
    dsimp only at h
    rcases acceptSign_cases "@" us with ⟨t, vs, -, -, haccept⟩ | haccept
    · rw [bind_apply _ haccept, if_pos rfl] at h
      obtain ⟨e, vs', -, h⟩ := of_bind h
      obtain ⟨b, vs', -, h⟩ := of_bind h
      obtain ⟨_, vs', -, h⟩ := of_bind h
      cases (Prod.mk.inj (Option.some.inj h)).1
    · rw [bind_apply _ haccept, if_neg Bool.false_ne_true] at h
      obtain ⟨ss, vs', -, h⟩ := of_bind h
      cases (Prod.mk.inj (Option.some.inj h)).1
  | some found =>
    obtain ⟨_, vs, hsign, hread⟩ := of_bind h
    obtain ⟨b, vs', hend, hread⟩ := of_bind hread
    obtain ⟨rfl, rfl⟩ := Prod.mk.inj (Option.some.inj hend)
    obtain ⟨t, rfl, ht⟩ := sign_eq_some hsign
    obtain ⟨t', vs', rfl, ht', hvs⟩ := hus.of_cons
    split at hread
    · rename_i hempty
      obtain rfl := List.isEmpty_iff.1 hempty
      obtain rfl := hvs.of_nil
      obtain rfl := LineText.opening.inj (Prod.mk.inj (Option.some.inj hread)).1
      have hsign' : sign ":" [t'] = some ((), []) :=
        (bind_apply _ (acceptSign_next (ht' ▸ ht) [])).trans rfl
      exact (bind_apply _ hsign').trans rfl
    · obtain ⟨ss, ws, -, hread⟩ := of_bind hread
      cases (Prod.mk.inj (Option.some.inj hread)).1

/-- Nothing is found behind a statement if and only if the line is over, but for a semicolon. -/
theorem furtherStatement?_same {g g' : Grammar} (hsame : SameLexemes toks toks')
    (h : furtherStatement? g toks = some (none, [])) :
    furtherStatement? g' toks' = some (none, []) := by
  unfold furtherStatement? at h ⊢
  rcases acceptSign_cases ";" toks with ⟨t, us, rfl, ht, haccept⟩ | haccept
  · obtain ⟨t', us', rfl, ht', hus⟩ := hsame.of_cons
    rw [bind_apply _ haccept, if_pos rfl] at h
    rw [bind_apply _ (acceptSign_next (ht' ▸ ht) us'), if_pos rfl]
    obtain ⟨b, vs, hend, h⟩ := of_bind h
    obtain ⟨rfl, rfl⟩ := Prod.mk.inj (Option.some.inj hend)
    split at h
    · obtain rfl : us = [] := (Prod.mk.inj (Option.some.inj h)).2
      obtain rfl := hus.of_nil
      rfl
    · obtain ⟨s, vs, -, h⟩ := of_bind h
      cases (Prod.mk.inj (Option.some.inj h)).1
  · rw [bind_apply _ haccept, if_neg Bool.false_ne_true] at h
    obtain rfl : toks = [] := (Prod.mk.inj (Option.some.inj h)).2
    obtain rfl := hsame.of_nil
    rfl

theorem many_eq_nil {α : Type} {r : Reader (Option α)} (h : many r toks = some ([], rest)) :
    r toks = some (none, rest) := by
  have h : manyAlong r toks toks = some ([], rest) := h
  cases toks with
  | nil =>
    obtain ⟨found, us, hfound, h⟩ := of_bind h
    cases found with
    | none =>
      obtain ⟨-, rfl⟩ := Prod.mk.inj (Option.some.inj h)
      exact hfound
    | some a => cases h
  | cons t ts =>
    obtain ⟨found, us, hfound, h⟩ := of_bind h
    cases found with
    | none =>
      obtain ⟨-, rfl⟩ := Prod.mk.inj (Option.some.inj h)
      exact hfound
    | some a =>
      obtain ⟨more, us', -, h⟩ := of_bind h
      cases (Prod.mk.inj (Option.some.inj h)).1

/-- A line that is one statement, but no `pass`, is the same statement wherever it stands. -/
theorem simpleStatements_same {s : Stmt} (hsame : SameLexemes toks toks')
    (hw : weightOf toks + 2 ≤ N) (hw' : weightOf toks + 2 ≤ N')
    (hpass : toks.head?.map Tok.lexeme ≠ some (.word "pass"))
    (h : simpleStatements (grammar N) toks = some ([s], rest)) :
    simpleStatements (grammar N') toks' = some ([s], []) ∧ s.IsPlain := by
  unfold simpleStatements at h
  obtain ⟨first, us, hfirst, h⟩ := of_bind h
  obtain ⟨more, vs, hmore, h⟩ := of_bind h
  obtain ⟨b, ws, hend, h⟩ := of_bind h
  obtain ⟨_, ws', hensure, h⟩ := of_bind h
  obtain ⟨heq, -⟩ := Prod.mk.inj (Option.some.inj h)
  obtain ⟨rfl, rfl⟩ := List.cons.inj heq
  obtain ⟨rfl, rfl⟩ := Prod.mk.inj (Option.some.inj hend)
  obtain rfl := List.isEmpty_iff.1 (ensure_eq_some hensure).1
  refine ⟨?_, isPlain_of_simpleStatement hfirst hpass⟩
  rcases simpleStatement_agreesOn (grammar_agrees _ N N' hw hw') (Nat.le_refl _) hpass toks toks'
    hsame rfl (Nat.le_refl _) with ⟨hnone, -⟩ | ⟨s', n, hsome, hsome'⟩
  · rw [hnone] at hfirst
    cases hfirst
  · rw [hsome] at hfirst
    obtain ⟨rfl, rfl⟩ := Prod.mk.inj (Option.some.inj hfirst)
    have hsame' : SameLexemes (toks.drop n) (toks'.drop n) := by
      unfold SameLexemes
      rw [List.map_drop, List.map_drop, hsame]
    have hover : furtherStatement? (grammar N') (toks'.drop n) = some (none, []) :=
      furtherStatement?_same hsame' (many_eq_nil hmore)
    unfold simpleStatements
    rw [bind_apply _ hsome']
    exact (bind_apply _ (many_none hover)).trans rfl

theorem lineText_alone {s : Stmt} {t : Tok} {ts : List Tok} {w : String}
    (hsame : SameLexemes (t :: ts) toks') (hw : weightOf (t :: ts) + 2 ≤ N)
    (hw' : weightOf (t :: ts) + 2 ≤ N') (ht : t.lexeme = .word w) (hpass : w ≠ "pass")
    (h : lineText (grammar N) false false (t :: ts) = some (.simple [s], rest)) :
    lineText (grammar N') false false toks' = some (.simple [s], []) ∧ s.IsPlain := by
  unfold lineText at h ⊢
  obtain ⟨o, us, hhead, h⟩ := of_bind h
  obtain ⟨us', hhead', hus⟩ := head?_same hsame hw hw' hhead
  rw [bind_apply _ hhead']
  rcases head?_cases ht hhead with ⟨head, rfl, -⟩ | ⟨rfl, rfl, -⟩
  · -- a header is no simple statement
    obtain ⟨_, vs, -, h⟩ := of_bind h
    obtain ⟨b, vs', -, h⟩ := of_bind h
    split at h
    · cases (Prod.mk.inj (Option.some.inj h)).1
    · obtain ⟨ss, ws, -, h⟩ := of_bind h
      cases (Prod.mk.inj (Option.some.inj h)).1
  · obtain ⟨t', ts', rfl, ht', hts⟩ := hus.of_cons
    dsimp only at h ⊢
    rw [bind_apply _ (acceptSign_word ht "@" ts), if_neg Bool.false_ne_true] at h
    rw [bind_apply _ (acceptSign_word (ht' ▸ ht) "@" ts'), if_neg Bool.false_ne_true]
    obtain ⟨ss, vs, hss, h⟩ := of_bind h
    obtain ⟨heq, -⟩ := Prod.mk.inj (Option.some.inj h)
    obtain rfl := LineText.simple.inj heq
    have hno : (t :: ts).head?.map Tok.lexeme ≠ some (.word "pass") := by
      rw [List.head?_cons, Option.map_some, ht]
      exact fun heq => hpass (Lexeme.word.inj (Option.some.inj heq))
    obtain ⟨hss', hplain⟩ := simpleStatements_same hus hw hw' hno hss
    exact ⟨(bind_apply _ hss').trans rfl, hplain⟩

end Lines

/-! ## §3. Blocks with bodies. -/

section Blocks

variable {N N' k : Nat} {inMatch : Bool} {bodies : Bodies} {codes : List (List Char)}
  {forest forest' : List Line} {clauses : List Clause} {s : Stmt}

/-- **Clauses with bodies.** -/
theorem Clauses.readItems? (h : Clauses (grammar N) inMatch k codes forest clauses)
    (hbodied : Bodied (grammar N') bodies forest forest')
    (hw : ∀ ts ∈ writtenIn forest, weightOf ts + 2 ≤ N)
    (hw' : ∀ ts ∈ writtenIn forest', weightOf ts + 2 ≤ N') :
    readItems? (grammar N') inMatch forest' = some (clauses.map (·.withBody bodies)) := by
  induction h generalizing forest' with
  | nil k =>
    cases hbodied
    rw [Code.readItems?]
    rfl
  | @cons k code codes toks u head forest clauses htext hword hmatch hlexeme hline h ih =>
    obtain ⟨toks', suite, items, ls', rfl, hsame, hsuite, hitems, hbody, hbodied⟩ :=
      hbodied.of_pass hlexeme
    rw [writtenIn, Line.written, List.cons_append, List.forall_mem_cons] at hw hw'
    obtain ⟨hwtoks, hw⟩ := hw
    obtain ⟨hwtoks', hw'⟩ := hw'
    rw [← weightOf_eq hsame] at hwtoks'
    have hrest := ih hbodied (List.forall_mem_append.1 hw).2 (List.forall_mem_append.1 hw').2
    have htext' := lineText_opening hsame hwtoks hwtoks' htext
    have hhead : head.word ≠ "match" := by rw [hword]; exact hmatch
    have hempty : items.isEmpty = false := by
      rw [List.isEmpty_eq_false_iff, ← List.length_pos_iff, length_readItems? hitems]
      exact List.length_pos_iff.2 hsuite
    have hitem : readItem? (grammar N') inMatch (.mk toks' suite)
        = some (.headed head (bodies (k + 1))) := by
      rw [readItem?, List.isEmpty_eq_false_iff.2 hsuite, Bool.not_false, htext']
      show (Code.readItems? _ (LineText.opening head).opensMatch suite).bind
        (item? (.opening head)) = _
      rw [opensMatch_opening hhead, hitems, Option.bind_some, item?_opening hhead, hempty,
        if_neg Bool.false_ne_true, hbody, hline]
      rfl
    rw [Code.readItems?, hitem, hrest]
    rfl

theorem continues_withBody (c : Clause) :
    (c.withBody bodies).continues = (c.withBody passes).continues := by
  obtain ⟨head, row⟩ := c
  cases head with
  | _ => rfl

/-- The lines of headers are more than a `pass`. -/
theorem Clauses.ne_pass {g : Grammar} (h : Clauses g inMatch k codes forest clauses)
    (hcodes : codes ≠ []) : forest ≠ [] ∧ ∀ u, forest ≠ [.mk [u] []] := by
  cases h with
  | nil => exact absurd rfl hcodes
  | cons =>
    refine ⟨List.cons_ne_nil _ _, fun u heq => ?_⟩
    cases (Line.mk.inj (List.cons.inj heq).1).2

/-- Has a filling the body of every header? -/
def HasBodies (slots : Filling) (bodies : Bodies) (rows : List (Option Nat)) : Prop :=
  ∀ n, some n ∈ rows → slots n = some (bodies n)

theorem HasBodies.fills {slots : Filling} {g : Grammar}
    (h : Clauses g inMatch k codes forest clauses)
    (hslots : HasBodies slots bodies (slotsFrom k codes)) : Fills slots bodies clauses := by
  intro c hc
  refine hslots c.row ?_
  rw [h.slots]
  exact List.mem_map.2 ⟨c, hc, rfl⟩

/-- The lines with the bodies are one statement, the one that has them in its slots. -/
theorem Shape.bodied {slots : Filling} (h : Shape (grammar N) codes forest s)
    (hbodied : Bodied (grammar N') bodies forest forest')
    (hw : ∀ ts ∈ writtenIn forest, weightOf ts + 2 ≤ N)
    (hw' : ∀ ts ∈ writtenIn forest', weightOf ts + 2 ≤ N')
    (hslots : HasBodies slots bodies (slotsFrom 1 codes)) :
    ∃ items, Code.readItems? (grammar N') false forest' = some items
      ∧ assemble? items = some [s.fill slots] := by
  cases h with
  | @block codes forest head row clauses s hclauses hcontinues hs =>
    obtain ⟨F, hF, rfl⟩ := blockOf_of_compound? hs
    rw [hF.fill (hslots.fills hclauses)]
    refine ⟨_, hclauses.readItems? hbodied hw hw', ?_⟩
    refine assemble?_clauses ?_ (hF.compound? bodies)
    intro i hi
    obtain ⟨c, hc, rfl⟩ := List.mem_map.1 hi
    rw [continues_withBody]
    exact hcontinues c hc
  | @cases ms codes toks suite subject clauses cs hms hmatch hcodes htext hclauses hcs =>
    obtain ⟨branches, rfl, rfl⟩ := of_cases? hcs
    obtain ⟨hsuite, hpass⟩ := hclauses.ne_pass hcodes
    obtain ⟨toks', suite', rfl, hsame, hbelow⟩ :=
      hbodied.of_below hsuite fun u hu => absurd hu (hpass u)
    rw [writtenIn, Line.written, writtenIn, List.append_nil, List.forall_mem_cons] at hw hw'
    obtain ⟨hwtoks', hw'⟩ := hw'
    rw [← weightOf_eq hsame] at hwtoks'
    have hitems := hclauses.readItems? hbelow hw.2 hw'
    have htext' := lineText_opening hsame hw.1 hwtoks' htext
    have hlength : 0 < ((branches.map Branch.clause).map (·.withBody bodies)).length := by
      have hwords := congrArg List.length hclauses.words
      rw [List.length_map, List.length_map] at hwords
      rw [List.length_map, ← hwords]
      exact List.length_pos_iff.2 hcodes
    have hempty : ((branches.map Branch.clause).map (·.withBody bodies)).isEmpty = false :=
      List.isEmpty_eq_false_iff.2 (List.length_pos_iff.1 hlength)
    have hsuite' : suite'.isEmpty = false := by
      rw [List.isEmpty_eq_false_iff, ← List.length_pos_iff, ← length_readItems? hitems]
      exact hlength
    have hfills : Fills slots bodies (branches.map Branch.clause) := by
      refine HasBodies.fills hclauses fun n hn => hslots n ?_
      rw [slotsFrom_append hmatch]
      exact List.mem_append_right _ hn
    have hitem : readItem? (grammar N') false (.mk toks' suite')
        = some (.simple [.matchBlock subject (branches.map (·.case bodies))]) := by
      rw [readItem?, hsuite', Bool.not_false, htext']
      show (Code.readItems? _ true suite').bind (item? (.opening (.matchHead subject))) = _
      rw [hitems, Option.bind_some, item?, hempty, if_neg Bool.false_ne_true, cases?_branches]
      rfl
    refine ⟨[.simple [.matchBlock subject (branches.map (·.case bodies))]], ?_, ?_⟩
    · rw [Code.readItems?, hitem, Code.readItems?]
      rfl
    · rw [Stmt.fill, fillCases_branches hfills]
      rfl
  | @alone ms toks s rest hmatch hled htext =>
    obtain ⟨t, ts, w, rfl, ht, hpass⟩ := hled
    obtain ⟨toks', rfl, hsame⟩ := hbodied.of_alone
    rw [writtenIn, Line.written, writtenIn, List.append_nil, List.forall_mem_cons] at hw hw'
    have hwtoks' := hw'.1
    rw [← weightOf_eq hsame] at hwtoks'
    obtain ⟨htext', hplain⟩ := lineText_alone hsame hw.1 hwtoks' ht hpass htext
    have hitem : readItem? (grammar N') false (.mk toks' []) = some (.simple [s]) := by
      rw [readItem?, List.isEmpty_nil, Bool.not_true, htext']
      show (Code.readItems? (grammar N') false []).bind (item? (.simple [s])) = _
      rw [Code.readItems?]
      rfl
    have hfill : s.fill slots = s := fill_of_misses slots s fun n _ => (hplain n).2
    refine ⟨[.simple [s]], ?_, ?_⟩
    · rw [Code.readItems?, hitem, Code.readItems?]
      rfl
    · rw [hfill]
      rfl

end Blocks

end Inlay.Code
