/-
  Inlay.Proofs.Desk
  ────────────────────────────────
  **LISTS AND PAGES.**

  Where a walk has a page, a program has a list under a reserved name; where
  the walk takes a page of its own, the program starts a list that is free.
  What is on the page is always what joining the list would give, and no
  other name that counts changes:

      Desk    — the list at hand, which lists are free, and what is held
                under the other names
      Writing — how a state of the program and one of the walk belong
                together while nodes write to the list of a desk
-/
import Inlay.Proofs.Holding

namespace Inlay

open Inlay.Code Inlay.Program

/-! ## §1. Lists and pages. -/

/-- Do the pieces of a list, the last one first, make a text? -/
def Spells (items : List Value) (text : String) : Prop :=
  ∃ texts : List String, items = texts.map Value.text ∧ "".intercalate texts.reverse = text

theorem Spells.nil : Spells [] "" := ⟨[], rfl, by simp⟩

theorem Spells.cons {items : List Value} {text : String} (h : Spells items text) (piece : String) :
    Spells (.text piece :: items) (text ++ piece) := by
  obtain ⟨texts, rfl, rfl⟩ := h
  refine ⟨piece :: texts, rfl, ?_⟩
  rw [List.reverse_cons]
  cases hr : texts.reverse with
  | nil => simp
  | cons t ts =>
    rw [String.intercalate_append_of_ne_nil (by simp) (by simp)]
    simp

/-- Where nodes write: to a list, with the lists above a number free, and something held under
the other names. -/
structure Desk where
  buffer : String
  used : Nat
  others : String → Option Held

namespace Desk

/-- Is a name that of a free list? -/
def IsFree (d : Desk) (name : String) : Prop := ∃ i, d.used < i ∧ name = bufferName i

/-- Is the list a list of output in use, and are the tools where they should be? -/
structure IsSound (d : Desk) (context globals : Ref) : Prop where
  buffer : IsBuffer d.buffer
  inUse : ¬ d.IsFree d.buffer
  tools : ∀ name v, (toolBindings context globals).lookup name = some v →
    d.others name = some (.value v)

/-- Do reserved names hold what a desk says, with a text in its list? -/
def Holds (d : Desk) (ks : List Kept) (text : String) : Prop :=
  (∃ items, Own.find? d.buffer ks = some (.pieces items) ∧ Spells items text) ∧
    ∀ name, name ≠ d.buffer → ¬ d.IsFree name → Own.find? name ks = d.others name

theorem Holds.tool {d : Desk} {context globals : Ref} {ks : List Kept} {text : String}
    (h : d.Holds ks text) (hd : d.IsSound context globals) {name : String} {v : Value}
    (hv : (toolBindings context globals).lookup name = some v) :
    Own.find? name ks = some (.value v) := by
  rw [h.2 name (tool_ne_buffer hv hd.buffer), hd.tools name v hv]
  rintro ⟨i, -, hi⟩
  exact tool_ne_buffer hv (Or.inr ⟨i, rfl⟩) hi

/-- A free list, or a later text in the same list, leaves the other names alone. -/
theorem Holds.put {d : Desk} {ks : List Kept} {text text' : String} (h : d.Holds ks text)
    (place : Nat) {items : List Value} (hi : Spells items text') :
    d.Holds (Own.put d.buffer place (.pieces items) ks) text' := by
  refine ⟨⟨items, by rw [Own.find?_put, if_pos rfl], hi⟩, fun name hname hfree => ?_⟩
  rw [Own.find?_put, if_neg (Ne.symm hname)]
  exact h.2 name hname hfree

/-- The desk of a pipe block: the next list, with the list before among the other names. -/
def inner (d : Desk) (ks : List Kept) : Desk where
  buffer := bufferName (d.used + 1)
  used := d.used + 1
  others := fun name => Own.find? name ks

theorem isFree_inner {d : Desk} {ks : List Kept} {name : String} (h : (d.inner ks).IsFree name) :
    d.IsFree name := by
  obtain ⟨i, hi, rfl⟩ := h
  exact ⟨i, by unfold inner at hi; dsimp only at hi; omega, rfl⟩

theorem IsSound.inner {d : Desk} {context globals : Ref} {ks : List Kept} {text : String}
    (hd : d.IsSound context globals) (h : d.Holds ks text) :
    (d.inner ks).IsSound context globals where
  buffer := Or.inr ⟨d.used + 1, rfl⟩
  inUse := by
    rintro ⟨i, hi, heq⟩
    have := bufferName_injective heq
    unfold Desk.inner at hi
    dsimp only at hi
    omega
  tools := fun _ _ hv => h.tool hd hv

theorem ne_inner_buffer {d : Desk} {context globals : Ref} (hd : d.IsSound context globals)
    (ks : List Kept) : d.buffer ≠ (d.inner ks).buffer := by
  intro heq
  exact hd.inUse ⟨d.used + 1, Nat.lt_succ_self _, heq⟩

/-- Starting the next list. -/
theorem Holds.start {d : Desk} (ks : List Kept) (place : Nat) :
    (d.inner ks).Holds (Own.put (d.inner ks).buffer place (.pieces []) ks) "" := by
  refine ⟨⟨[], by rw [Own.find?_put, if_pos rfl], Spells.nil⟩, fun name hname _ => ?_⟩
  rw [Own.find?_put, if_neg (Ne.symm hname)]
  rfl

/-- What was written on the page before is still there when a pipe block ends. -/
theorem Holds.finish {d : Desk} {context globals : Ref} (hd : d.IsSound context globals)
    {ks ks' : List Kept} {text text' : String} (h : d.Holds ks text)
    (h' : (d.inner ks).Holds ks' text') : d.Holds ks' text := by
  obtain ⟨⟨items, hitems, hs⟩, hothers⟩ := h
  refine ⟨⟨items, ?_, hs⟩, fun name hname hfree => ?_⟩
  · rw [h'.2 d.buffer (ne_inner_buffer hd ks) (fun hf => hd.inUse (isFree_inner hf))]
    exact hitems
  · rw [h'.2 name _ (fun hf => hfree (isFree_inner hf))]
    · exact hothers name hname hfree
    · rintro rfl
      exact hfree ⟨d.used + 1, Nat.lt_succ_self _, rfl⟩

end Desk

/-! ## §2. States that belong together. -/

/-- A state of a program and one of a walk, while nodes write to the list of a desk. -/
structure Writing (context globals : Ref) (d : Desk) (s : State) (w : State × Page) : Prop where
  covers : w.1.Covers s
  locked : w.1.ownOf globals = .locked (toolBindings context globals)
  kept : ∃ ks, s.ownOf globals = .kept ks ∧ d.Holds ks w.2.written

/-- A state of the program is covered as long as the tools are where they should be. -/
theorem covers_setOwn {context globals : Ref} {s w : State} (hcovers : w.Covers s)
    (hlocked : w.ownOf globals = .locked (toolBindings context globals)) {ks : List Kept}
    (htools : ∀ name v, (toolBindings context globals).lookup name = some v →
      Own.find? name ks = some (.value v)) :
    w.Covers (s.setOwn globals (.kept ks)) := by
  refine ⟨hcovers.world, hcovers.current, fun r => ?_⟩
  rw [State.ownOf_setOwn]
  split
  · rename_i heq
    subst heq
    rw [hlocked]
    refine Or.inr ⟨_, rfl, fun name v hv => ?_⟩
    simp only [Own.value?, htools name v hv]
  · exact hcovers.own r

namespace Writing

variable {context globals : Ref} {d : Desk}

theorem stable : Stable (Writing context globals d) where
  covers := fun _ _ h => h.covers
  moves := by
    intro s w t t' h hm
    have hg := hm.own globals
    rw [h.locked, if_pos (by rfl)] at hg
    obtain ⟨ks, hks, hd⟩ := h.kept
    exact ⟨h.covers.of_moves hm, hg.1, ks, hg.2.trans hks, hd⟩

/-- A state of the program in which reserved names hold what a desk says. -/
theorem of_setOwn {s : State} {w : State} {page : Page} (hcovers : w.Covers s)
    (hlocked : w.ownOf globals = .locked (toolBindings context globals))
    (hd : d.IsSound context globals) {ks : List Kept} (hks : d.Holds ks page.written) :
    Writing context globals d (s.setOwn globals (.kept ks)) (w, page) :=
  ⟨covers_setOwn hcovers hlocked (fun _ _ hv => hks.tool hd hv), hlocked, ks,
    State.ownOf_setOwn_self _ _ _, hks⟩

theorem setOwn {d' : Desk} {s : State} {w : State} {page page' : Page}
    (h : Writing context globals d s (w, page)) (hd' : d'.IsSound context globals)
    {ks : List Kept} (hks : d'.Holds ks page'.written) :
    Writing context globals d' (s.setOwn globals (.kept ks)) (w, page') :=
  of_setOwn h.covers h.locked hd' hks

end Writing

/-- What a relation implies may take its place. -/
theorem Outcome.Matches.mono {α : Type} {I J : State → State × Page → Prop}
    (hIJ : ∀ s w, I s w → J s w) {o : Outcome (State × Page) α} {o' : Outcome State α}
    (h : o.Matches I o') : o.Matches J o' := by
  cases o <;> cases o' <;> first | exact h | exact ⟨h.1, hIJ _ _ h.2⟩

/-- A run that does what another one does may take its place. -/
theorem Follows.of_work_eq {α : Type} {I : State → State × Page → Prop} {x x' : Run α}
    {y : Walk α} (hx : ∀ s w, I s w → x.work s = x'.work s) (h : Follows I x' y) :
    Follows I x y := by
  refine ⟨fun s w hi => ?_⟩
  rw [hx s w hi]
  exact h.matches_of s w hi

/-- Nodes that leave more lists free follow where fewer are free. -/
theorem Follows.of_used {context globals : Ref} {d : Desk} {used : Nat} (hused : d.used ≤ used)
    (hd : d.IsSound context globals) {α : Type} {x : Run α} {y : Walk α}
    (h : ∀ d' : Desk, d'.IsSound context globals → d'.buffer = d.buffer → d'.used = used →
      Follows (Writing context globals d') x y) :
    Follows (Writing context globals d) x y := by
  refine ⟨fun s ⟨w, page⟩ hw => ?_⟩
  obtain ⟨ks, hks, hd'⟩ := hw.kept
  have hfree : ∀ name, Desk.IsFree ⟨d.buffer, used, (Own.find? · ks)⟩ name → d.IsFree name := by
    rintro name ⟨i, hi, rfl⟩
    exact ⟨i, Nat.lt_of_le_of_lt hused hi, rfl⟩
  have hsound : Desk.IsSound ⟨d.buffer, used, (Own.find? · ks)⟩ context globals :=
    ⟨hd.buffer, fun hf => hd.inUse (hfree _ hf), fun _ _ hv => hd'.tool hd hv⟩
  have hthere : Writing context globals ⟨d.buffer, used, (Own.find? · ks)⟩ s (w, page) :=
    ⟨hw.covers, hw.locked, ks, hks, hd'.1, fun _ _ _ => rfl⟩
  refine ((h _ hsound rfl rfl).matches_of s (w, page) hthere).mono (fun t v ht => ?_)
  obtain ⟨ks', hks', hlist, hothers⟩ := ht.kept
  refine ⟨ht.covers, ht.locked, ks', hks', hlist, fun name hname hf => ?_⟩
  rw [hothers name hname (fun hf' => hf (hfree name hf'))]
  exact hd'.2 name hname hf

/-! ## §3. The statements of a program. -/

section Statements

variable {context : Ref} {fr : Frame} {d : Desk} (p : Power)

theorem noteLine_follows (hfr : fr.scopes = []) (hd : d.IsSound context fr.globals)
    (pos : Position) :
    Follows (Writing context fr.globals d) ((noteLine pos).run p fr)
      (do
        noteLineIn context pos
        return .normal) := by
  refine Follows.of_work_eq (fun s w hw => ?_)
    ((Follows.run Writing.stable (noteLineIn context pos)).bind (fun _ => Follows.pure _))
  obtain ⟨ks, hks, hheld⟩ := hw.kept
  exact noteLine_work p hfr hks (hheld.tool hd rfl) pos

/-- A piece that is put into the list is written on the page. -/
theorem pushPiece_follows (hd : d.IsSound context fr.globals) (text : String) :
    Follows (Writing context fr.globals d) (pushPiece fr.globals d.buffer (.text text))
      (emit text) := by
  refine ⟨fun s ⟨w, page⟩ hw => ?_⟩
  obtain ⟨ks, hks, hheld⟩ := hw.kept
  obtain ⟨items, hitems, hs⟩ := hheld.1
  rw [pushPiece_work hks hitems]
  exact ⟨rfl, hw.setOwn hd (hheld.put 0 (hs.cons text))⟩

/-- A value of which the list gets the text is written. -/
theorem appendTo_follows (hfr : fr.scopes = []) (hd : d.IsSound context fr.globals) {e : Expr}
    (he : ∀ inner, e ≠ .starred inner) {x : Run String}
    (hx : ∀ s ks text, s.ownOf fr.globals = .kept ks → d.Holds ks text →
      (e.eval p fr).work s = (Value.text <$> x).work s) :
    Follows (Writing context fr.globals d) ((appendTo d.buffer e).run p fr)
      (do
        let text ← (x : Run String)
        emit text
        return .normal) := by
  refine Follows.of_work_eq (fun s w hw => ?_)
    ((Follows.run Writing.stable x).bind (fun text =>
      (pushPiece_follows hd text).bind (fun _ => Follows.pure Flow.normal)))
  obtain ⟨ks, hks, hheld⟩ := hw.kept
  obtain ⟨items, hitems, -⟩ := hheld.1
  rw [appendTo_work p hfr hks hd.buffer.isReserved hitems he,
    Run.work_congr _ (hx s ks _ hks hheld), map_eq_pure_bind, bind_assoc]
  rfl

theorem noteLine_cons_follows (hfr : fr.scopes = []) (hd : d.IsSound context fr.globals)
    (pos : Position) {ss : List Stmt} {k : Walk Flow}
    (h : Follows (Writing context fr.globals d) (runBody p fr ss) k) :
    Follows (Writing context fr.globals d) (runBody p fr (noteLine pos :: ss))
      (do
        noteLineIn context pos
        k) := by
  have hseq := Follows.runBody_cons p fr (noteLine_follows p hfr hd pos) h
  rw [bind_assoc] at hseq
  exact hseq

/-- Text that is put in its own place loses nothing but its newline. -/
theorem realignBlock_self (indentation text : String) :
    String.ofList (Indent.realignBlock indentation.toList indentation.toList true text.toList) =
      withoutNewline text := by
  unfold Indent.realignBlock Indent.realign withoutNewline
  rw [if_pos rfl]
  cases h : text.toList with
  | nil =>
    show String.ofList [] = text
    rw [← h, String.ofList_toList]
  | cons c cs =>
    by_cases hc : c = '\n'
    · subst hc
      rfl
    · have hne : ∀ r, c :: cs ≠ '\n' :: r := fun r hr => hc (List.cons.inj hr).1
      split
      · rename_i r _ heq
        exact absurd heq (hne _)
      · split
        · rename_i heq
          exact absurd heq (hne _)
        · rw [← h, String.ofList_toList]

/-- The pieces that an output marker puts into the list. -/
theorem outputPiece_follows (hfr : fr.scopes = []) (hd : d.IsSound context fr.globals) (e : Expr)
    (n : Placement) :
    Follows (Writing context fr.globals d)
      (runBody p fr [appendTo d.buffer
        (if n.trimsNewline then
          realigned (callOf (.name textName) [e]) n.indentation n.indentation true
        else callOf (.name textName) [e])])
      (do
        let v ← (e.eval p fr : Run Value)
        let text ← (v.outputText : Run String)
        emit (if n.trimsNewline then withoutNewline text else text)
        return .normal) := by
  by_cases hstar : ∃ inner, e = .starred inner
  · obtain ⟨inner, rfl⟩ := hstar
    rw [Expr.eval]
    exact Follows.leave_bind _ _ _
  · have he : ∀ inner, e ≠ .starred inner := fun inner heq => hstar ⟨inner, heq⟩
    rw [runBody_singleton]
    have htext : ∀ s ks text, s.ownOf fr.globals = .kept ks → d.Holds ks text →
        ((callOf (.name textName) [e]).eval p fr).work s =
          (Value.text <$> (do (← e.eval p fr).outputText : Run String)).work s := by
      intro s ks text hks hheld
      rw [textOf_work p hfr hks (hheld.tool hd rfl) he, map_eq_pure_bind, bind_assoc]
    cases n.trimsNewline with
    | false =>
      have hf := appendTo_follows p hfr hd (callOf_ne_starred _ _) htext
      rw [liftM_bind, bind_assoc] at hf
      exact hf
    | true =>
      have hf := appendTo_follows p hfr hd
        (realigned_ne_starred (callOf (.name textName) [e]) n.indentation n.indentation true)
        (x := do
          let v ← e.eval p fr
          let text ← v.outputText
          return withoutNewline text)
        (fun s ks text hks hheld => by
          rw [realigned_work p hfr hks (hheld.tool hd rfl) (callOf_ne_starred _ _)
            (htext s ks text hks hheld)]
          simp only [realignBlock_self, map_eq_pure_bind, bind_assoc, pure_bind])
      simp only [liftM_bind, bind_assoc, liftM_pure, pure_bind] at hf
      exact hf

/-- The text of a list, put in its place, goes to the list before. -/
theorem putBack_work (hfr : fr.scopes = []) (hd : d.IsSound context fr.globals) {s : State}
    {ks : List Kept} (hks : s.ownOf fr.globals = .kept ks) {text inside : String}
    (hheld : d.Holds ks text) {target : String} (htarget : IsBuffer target) {items : List Value}
    (hitems : Own.find? target ks = some (.pieces items)) (hs : Spells items inside)
    (n : Placement) :
    ((appendTo d.buffer (realigned (joined target) (n.baseline.getD "") n.indentation
      n.trimsNewline)).run p fr).work s =
      (do
        pushPiece fr.globals d.buffer (.text (placed n inside))
        return Flow.normal : Run Flow).work s := by
  obtain ⟨texts, rfl, rfl⟩ := hs
  obtain ⟨pieces, hpieces, -⟩ := hheld.1
  have hjoined : ((joined target).eval p fr).work s =
      (Value.text <$> (Pure.pure ("".intercalate texts.reverse) : Run String)).work s :=
    joined_work p hfr hks htarget.isReserved hitems
  have hplaced := realigned_work p hfr hks (hheld.tool hd rfl) (e := joined target)
    (callOf_ne_starred _ _) hjoined (n.baseline.getD "") n.indentation n.trimsNewline
  rw [appendTo_work p hfr hks hd.buffer.isReserved hpieces (realigned_ne_starred _ _ _ _),
    Run.work_congr _ hplaced]
  rfl

/-- **The list of a pipe block is the page of its own.**  `h` is about the compound statement,
which writes to the next list. -/
theorem pipe_follows (hfr : fr.scopes = []) (hd : d.IsSound context fr.globals)
    {statement : Stmt} {y : Walk Flow}
    (h : ∀ d' : Desk, d'.IsSound context fr.globals → d'.buffer = bufferName (d.used + 1) →
      d'.used = d.used + 1 →
      Follows (Writing context fr.globals d') (statement.run p fr) y)
    (m : Marker Placement) :
    Follows (Writing context fr.globals d)
      (runBody p fr (pipeStmts d.buffer (bufferName (d.used + 1)) m statement))
      (do
        noteLineIn context m.position
        apart (placed m.note) y) := by
  unfold pipeStmts
  refine noteLine_cons_follows p hfr hd m.position ?_
  refine ⟨fun s ⟨w, page⟩ hw => ?_⟩
  obtain ⟨ks, hks, hheld⟩ := hw.kept
  have hbuffer : IsBuffer (bufferName (d.used + 1)) := Or.inr ⟨_, rfl⟩
  have hinner := hd.inner hheld
  have hstart : ∀ place, Writing context fr.globals (d.inner ks)
      (s.setOwn fr.globals (.kept (Own.put (d.inner ks).buffer place (.pieces []) ks)))
      (w, ⟨"", page.dropped⟩) := fun place => hw.setOwn hinner (Desk.Holds.start ks place)
  -- the list is started: its desk remembers what the other names hold
  rw [runBody_cons, Run.work_done _ (startBuffer_work p hfr hks hbuffer.isReserved)]
  show (apart (placed m.note) y (w, page)).Matches _ ((runBody p fr (statement :: _)).work _)
  rw [runBody_cons]
  refine Follows.apart ((h (d.inner ks) hinner rfl rfl).matches_of _ _ (hstart _)) ?_ ?_
  · intro s' w' page' hw'
    obtain ⟨ks', hks', hheld'⟩ := hw'.kept
    exact ⟨hw'.covers, hw'.locked, ks', hks', hheld.finish hd hheld'⟩
  · intro s' w' page' hw'
    obtain ⟨ks', hks', hheld'⟩ := hw'.kept
    have hback := hheld.finish hd hheld'
    obtain ⟨inside, hinside, hs⟩ := hheld'.1
    obtain ⟨items, hitems, hspells⟩ := hback.1
    rw [runBody_singleton, putBack_work p hfr hd hks' hback hbuffer hinside hs,
      Run.work_done _ (pushPiece_work hks' hitems _)]
    have hthere : Writing context fr.globals d s' (w', ⟨page.written, page'.dropped⟩) :=
      ⟨hw'.covers, hw'.locked, ks', hks', hback⟩
    exact ⟨_, rfl, hthere.setOwn hd (hback.put 0 (hspells.cons _))⟩

end Statements

end Inlay
