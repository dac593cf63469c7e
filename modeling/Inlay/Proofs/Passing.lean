/-
  Inlay.Proofs.Passing
  ────────────────────────────────
  **WHERE A `PASS` COMES FROM.**

  A statement has a slot on a row only if a `pass` is read on this row, and a
  `pass` is read only where nothing but a semicolon stands behind it.  So a
  row without such a `pass` is the slot of no statement:

      LacksPass          — statements that have no slot on a row
      lacksPass_of_parse — what is read from lines without the `pass`
-/
import Inlay.Proofs.Heading
import Inlay.Proofs.Rows

namespace Inlay.Code

open Reader

variable {n : Nat}

/-! ## §1. Statements without a slot. -/

/-- Have the statements no `pass` on the row, and none below them? -/
def LacksPass (n : Nat) (ss : List Stmt) : Prop := ∀ s ∈ ss, s ≠ .pass n ∧ s.slotPath? n = none

namespace LacksPass

variable {s : Stmt} {ss ss' : List Stmt}

theorem nil : LacksPass n [] := fun _ h => absurd h List.not_mem_nil

theorem cons (hs : s ≠ .pass n ∧ s.slotPath? n = none) (h : LacksPass n ss) :
    LacksPass n (s :: ss) := List.forall_mem_cons.2 ⟨hs, h⟩

theorem append (h : LacksPass n ss) (h' : LacksPass n ss') : LacksPass n (ss ++ ss') :=
  List.forall_mem_append.2 ⟨h, h'⟩

theorem restPath? (h : LacksPass n ss) (index : Nat) : restPath? n index ss = none := by
  induction ss generalizing index with
  | nil => rfl
  | cons s ss ih =>
    obtain ⟨hs, hss⟩ := List.forall_mem_cons.1 h
    rw [Code.restPath?, hs.2, ih hss]
    rfl

/-- A body that lacks the `pass` leads nowhere. -/
theorem bodyPath? (h : LacksPass n ss) : bodyPath? n ss = none := by
  cases ss with
  | nil => rfl
  | cons s ss =>
    obtain ⟨hs, hss⟩ := List.forall_mem_cons.1 h
    have hslot : isSlot n (s :: ss) = false := by
      unfold isSlot
      split
      · rename_i m heq
        obtain ⟨rfl, -⟩ := List.cons.inj heq
        exact beq_false_of_ne fun hm => hs.1 (by rw [hm])
      · rfl
    rw [Code.bodyPath?, hslot, hs.2, restPath? hss]
    rfl

end LacksPass

/-- Has what a line says no slot on the row? -/
def Item.Lacks (n : Nat) : Item → Prop
  | .simple ss => LacksPass n ss
  | .headed _ body => LacksPass n body
  | .decorator _ => True

section Compound

variable {items : List Item} {body : List Stmt} {s : Stmt}

theorem Item.Lacks.ifTail? {orelse : List Stmt} (h : ∀ i ∈ items, i.Lacks n)
    (htail : ifTail? items = some orelse) : LacksPass n orelse := by
  fun_induction Code.ifTail? items generalizing orelse with
  | case1 =>
    obtain rfl := Option.some.inj htail
    exact .nil
  | case2 body =>
    obtain rfl := Option.some.inj htail
    exact h _ List.mem_cons_self
  | case3 test body rest ih =>
    obtain ⟨inner, hinner, rfl⟩ := Option.map_eq_some_iff.1 htail
    have hbody : LacksPass n body := h _ List.mem_cons_self
    have hrest := ih (fun i hi => h i (List.mem_cons_of_mem _ hi)) hinner
    refine .cons ⟨Stmt.noConfusion, ?_⟩ .nil
    rw [Stmt.slotPath?, hbody.bodyPath?, hrest.bodyPath?]
    rfl
  | case4 => cases htail

theorem Item.Lacks.loopTail? {orelse : List Stmt} (h : ∀ i ∈ items, i.Lacks n)
    (htail : loopTail? items = some orelse) : LacksPass n orelse := by
  unfold Code.loopTail? at htail
  split at htail
  · obtain rfl := Option.some.inj htail
    exact .nil
  · obtain rfl := Option.some.inj htail
    exact h _ List.mem_cons_self
  · cases htail

/-- The handlers at the start of some clauses lead nowhere, and the other clauses are among them. -/
theorem Item.Lacks.handlers (isGroup : Bool) (h : ∀ i ∈ items, i.Lacks n) :
    (∀ index, handlerPath? n index (handlers isGroup items).1 = none)
      ∧ ∀ i ∈ (handlers isGroup items).2, i.Lacks n := by
  fun_induction Code.handlers isGroup items with
  | case1 type name body rest hs more heq ih =>
    rw [heq] at ih
    obtain ⟨hpath, hmore⟩ := ih fun i hi => h i (List.mem_cons_of_mem _ hi)
    have hbody : LacksPass n body := h _ List.mem_cons_self
    refine ⟨fun index => ?_, hmore⟩
    rw [handlerPath?, hbody.bodyPath?, hpath]
    rfl
  | case2 k type name body rest hk => exact ⟨fun index => rfl, h⟩
  | case3 items hitems => exact ⟨fun index => rfl, h⟩

theorem Item.Lacks.tryBlock? (hbody : LacksPass n body) (h : ∀ i ∈ items, i.Lacks n)
    (htry : tryBlock? body items = some s) : s ≠ .pass n ∧ s.slotPath? n = none := by
  have hblock : ∀ isGroup hs orelse last, (∀ index, handlerPath? n index hs = none) →
      LacksPass n orelse → LacksPass n last →
      Stmt.tryBlock isGroup body hs orelse last ≠ .pass n
        ∧ (Stmt.tryBlock isGroup body hs orelse last).slotPath? n = none := by
    intro isGroup hs orelse last hhandlers horelse hlast
    refine ⟨Stmt.noConfusion, ?_⟩
    rw [Stmt.slotPath?, hbody.bodyPath?, hhandlers, horelse.bodyPath?, hlast.bodyPath?]
    rfl
  unfold Code.tryBlock? at htry
  extract_lets isGroup at htry
  obtain ⟨hhandlers, hothers⟩ := Item.Lacks.handlers isGroup h
  split at htry
  · rename_i last heq
    rw [heq] at hothers
    obtain rfl := Option.some.inj htry
    exact hblock _ _ _ _ (fun _ => rfl) .nil (hothers _ List.mem_cons_self)
  · cases htry
  · rename_i hs _ heq
    rw [heq] at hhandlers
    obtain rfl := Option.some.inj htry
    exact hblock _ _ _ _ hhandlers .nil .nil
  · rename_i hs _ orelse heq
    rw [heq] at hhandlers hothers
    obtain rfl := Option.some.inj htry
    exact hblock _ _ _ _ hhandlers (hothers _ List.mem_cons_self) .nil
  · rename_i hs _ last heq
    rw [heq] at hhandlers hothers
    obtain rfl := Option.some.inj htry
    exact hblock _ _ _ _ hhandlers .nil (hothers _ List.mem_cons_self)
  · rename_i hs _ orelse last heq
    rw [heq] at hhandlers hothers
    obtain rfl := Option.some.inj htry
    exact hblock _ _ _ _ hhandlers (hothers _ List.mem_cons_self)
      (hothers _ (List.mem_cons_of_mem _ List.mem_cons_self))
  · cases htry

/-- A compound statement has no slot on the row if none of its bodies has. -/
theorem Item.Lacks.compound? {ds : List Expr} {head : Head} (hbody : LacksPass n body)
    (h : ∀ i ∈ items, i.Lacks n) (hs : compound? ds head body items = some s) :
    s ≠ .pass n ∧ s.slotPath? n = none := by
  unfold Code.compound? at hs
  split at hs
  · obtain ⟨orelse, htail, rfl⟩ := Option.map_eq_some_iff.1 hs
    refine ⟨Stmt.noConfusion, ?_⟩
    rw [Stmt.slotPath?, hbody.bodyPath?, (Item.Lacks.ifTail? h htail).bodyPath?]
    rfl
  · obtain ⟨orelse, htail, rfl⟩ := Option.map_eq_some_iff.1 hs
    refine ⟨Stmt.noConfusion, ?_⟩
    rw [Stmt.slotPath?, hbody.bodyPath?, (Item.Lacks.loopTail? h htail).bodyPath?]
    rfl
  · obtain ⟨orelse, htail, rfl⟩ := Option.map_eq_some_iff.1 hs
    refine ⟨Stmt.noConfusion, ?_⟩
    rw [Stmt.slotPath?, hbody.bodyPath?, (Item.Lacks.loopTail? h htail).bodyPath?]
    rfl
  · exact Item.Lacks.tryBlock? hbody h hs
  · split at hs
    · obtain rfl := Option.some.inj hs
      refine ⟨Stmt.noConfusion, ?_⟩
      rw [Stmt.slotPath?, hbody.bodyPath?]
      rfl
    · cases hs
  · split at hs
    · obtain rfl := Option.some.inj hs
      refine ⟨Stmt.noConfusion, ?_⟩
      rw [Stmt.slotPath?, hbody.bodyPath?]
      rfl
    · cases hs
  · split at hs
    · obtain rfl := Option.some.inj hs
      refine ⟨Stmt.noConfusion, ?_⟩
      rw [Stmt.slotPath?, hbody.bodyPath?]
      rfl
    · cases hs
  · cases hs

theorem Item.Lacks.gather (h : ∀ i ∈ items, i.Lacks n) :
    ∀ p ∈ gather items, p.1.Lacks n ∧ ∀ i ∈ p.2, i.Lacks n := by
  fun_induction Code.gather items with
  | case1 => exact fun p hp => absurd hp List.not_mem_nil
  | case2 i rest hrest ih =>
    intro p hp
    obtain rfl := List.mem_singleton.1 hp
    exact ⟨h _ List.mem_cons_self, fun i hi => absurd hi List.not_mem_nil⟩
  | case3 i rest j clauses more hrest hcontinues ih =>
    rw [hrest] at ih
    have hmore := ih fun i hi => h i (List.mem_cons_of_mem _ hi)
    obtain ⟨hj, hclauses⟩ := hmore _ List.mem_cons_self
    intro p hp
    rcases List.mem_cons.1 hp with rfl | hp
    · exact ⟨h _ List.mem_cons_self, List.forall_mem_cons.2 ⟨hj, hclauses⟩⟩
    · exact hmore p (List.mem_cons_of_mem _ hp)
  | case4 i rest j clauses more hrest hcontinues ih =>
    rw [hrest] at ih
    have hmore := ih fun i hi => h i (List.mem_cons_of_mem _ hi)
    intro p hp
    rcases List.mem_cons.1 hp with rfl | hp
    · exact ⟨h _ List.mem_cons_self, fun i hi => absurd hi List.not_mem_nil⟩
    · exact hmore p hp

theorem Item.Lacks.statements? {ds : List Expr} {groups : List (Item × List Item)} {ss : List Stmt}
    (h : ∀ p ∈ groups, p.1.Lacks n ∧ ∀ i ∈ p.2, i.Lacks n)
    (hss : statements? ds groups = some ss) : LacksPass n ss := by
  fun_induction Code.statements? ds groups generalizing ss with
  | case1 ds hempty =>
    obtain rfl := Option.some.inj hss
    exact .nil
  | case2 ds hempty => cases hss
  | case3 ds e clauses rest hempty ih => exact ih (fun p hp => h p (List.mem_cons_of_mem _ hp)) hss
  | case4 ds e clauses rest hempty => cases hss
  | case5 ds ss' clauses rest hempty ih =>
    obtain ⟨more, hmore, rfl⟩ := Option.map_eq_some_iff.1 hss
    exact .append (h _ List.mem_cons_self).1 (ih (fun p hp => h p (List.mem_cons_of_mem _ hp)) hmore)
  | case6 ds ss' clauses rest hempty => cases hss
  | case7 ds head body clauses rest ih =>
    obtain ⟨s, hs, hss⟩ := Option.bind_eq_some_iff.1 hss
    obtain ⟨more, hmore, hss⟩ := Option.bind_eq_some_iff.1 hss
    obtain rfl := Option.some.inj hss
    obtain ⟨hbody, hclauses⟩ := h _ List.mem_cons_self
    exact .cons (Item.Lacks.compound? hbody hclauses hs)
      (ih (fun p hp => h p (List.mem_cons_of_mem _ hp)) hmore)

/-- Lines without a slot on the row form statements without one. -/
theorem Item.Lacks.assemble? {ss : List Stmt} (h : ∀ i ∈ items, i.Lacks n)
    (hss : assemble? items = some ss) : LacksPass n ss :=
  Item.Lacks.statements? (Item.Lacks.gather h) hss

theorem Item.Lacks.cases? {cs : List Case} (h : ∀ i ∈ items, i.Lacks n)
    (hcs : cases? items = some cs) (index : Nat) : casePath? n index cs = none := by
  fun_induction Code.cases? items generalizing cs index with
  | case1 =>
    obtain rfl := Option.some.inj hcs
    rfl
  | case2 p guard body rest ih =>
    obtain ⟨more, hmore, rfl⟩ := Option.map_eq_some_iff.1 hcs
    have hbody : LacksPass n body := h _ List.mem_cons_self
    rw [casePath?, hbody.bodyPath?, ih (fun i hi => h i (List.mem_cons_of_mem _ hi)) hmore]
    rfl
  | case3 => cases hcs

end Compound

/-! ## §2. Simple statements. -/

/-- Has everything that a reader finds the property? -/
def Reader.Gives {α : Type} (P : α → Prop) (r : Reader α) : Prop :=
  ∀ ts a rest, r ts = some (a, rest) → P a

namespace Reader.Gives

variable {α β : Type} {P : α → Prop}

theorem pure {a : α} (h : P a) : Gives P (Pure.pure a) := by
  intro ts b rest hb
  obtain rfl := (Prod.mk.inj (Option.some.inj hb)).1
  exact h

theorem bindWhere {Q : β → Prop} {r : Reader β} {f : β → Reader α} (hr : Gives Q r)
    (h : ∀ b, Q b → Gives P (f b)) : Gives P (r >>= f) := by
  intro ts a rest ha
  obtain ⟨b, us, hb, ha⟩ := of_bind ha
  exact h b (hr ts b us hb) us a rest ha

theorem bind {r : Reader β} {f : β → Reader α} (h : ∀ b, Gives P (f b)) : Gives P (r >>= f) :=
  bindWhere (Q := fun _ => True) (fun _ _ _ _ => trivial) fun b _ => h b

theorem ite {c : Prop} [Decidable c] {r r' : Reader α} (h : Gives P r) (h' : Gives P r') :
    Gives P (if c then r else r') := by
  split
  · exact h
  · exact h'

end Reader.Gives

/-- Is the statement neither a `pass`, nor has it a slot? -/
def Stmt.IsPlain (s : Stmt) : Prop := ∀ n, s ≠ .pass n ∧ s.slotPath? n = none

theorem assignment_gives (g : Grammar) : Gives Stmt.IsPlain (assignment g) := by
  unfold assignment
  refine .bind fun _ => .bind fun first => .bind fun _ => .ite ?_ (.bind fun op => ?_)
  · exact .bind fun _ => .bind fun _ => .bind fun _ => .pure fun n => ⟨Stmt.noConfusion, rfl⟩
  · cases op with
    | some op => exact .bind fun _ => .bind fun _ => .pure fun n => ⟨Stmt.noConfusion, rfl⟩
    | none =>
      refine .bind fun more => ?_
      split
      · exact .pure fun n => ⟨Stmt.noConfusion, rfl⟩
      · exact .bind fun _ => .pure fun n => ⟨Stmt.noConfusion, rfl⟩

/-- A simple statement that does not start with `pass` is no `pass`. -/
theorem isPlain_of_simpleStatement {g : Grammar} {ts rest : List Tok} {s : Stmt}
    (h : simpleStatement g ts = some (s, rest))
    (hts : ts.head?.map Tok.lexeme ≠ some (.word "pass")) : s.IsPlain := by
  unfold simpleStatement at h
  obtain ⟨x, us, hx, hread⟩ := of_bind h
  obtain ⟨hnext, rfl⟩ := Prod.mk.inj (Option.some.inj hx)
  rw [hnext] at hts
  have hplain : ∀ {r : Reader Stmt}, Gives Stmt.IsPlain r → r ts = some (s, rest) → s.IsPlain :=
    fun hr h => hr _ _ _ h
  revert hread
  split
  · exact absurd rfl hts
  · exact hplain (.bind fun _ => .pure fun n => ⟨Stmt.noConfusion, rfl⟩)
  · exact hplain (.bind fun _ => .pure fun n => ⟨Stmt.noConfusion, rfl⟩)
  · refine hplain (.bind fun _ => .bind fun _ => .ite ?_ (.bind fun _ => ?_))
    · exact .pure fun n => ⟨Stmt.noConfusion, rfl⟩
    · exact .pure fun n => ⟨Stmt.noConfusion, rfl⟩
  · refine hplain (.bind fun _ => .bind fun _ => .ite ?_ (.bind fun _ => .bind fun _ => .ite ?_ ?_))
    · exact .pure fun n => ⟨Stmt.noConfusion, rfl⟩
    · exact .bind fun _ => .pure fun n => ⟨Stmt.noConfusion, rfl⟩
    · exact .pure fun n => ⟨Stmt.noConfusion, rfl⟩
  · exact hplain (.bind fun _ => .bind fun _ => .pure fun n => ⟨Stmt.noConfusion, rfl⟩)
  · exact hplain (.bind fun _ => .bind fun _ => .pure fun n => ⟨Stmt.noConfusion, rfl⟩)
  · refine hplain (.bind fun _ => .bind fun found => ?_)
    exact .bind fun _ => .pure fun n => ⟨Stmt.noConfusion, rfl⟩
  · refine hplain (.bind fun _ => .bind fun _ => .bind fun _ => .ite ?_ ?_)
    · exact .bind fun _ => .pure fun n => ⟨Stmt.noConfusion, rfl⟩
    · exact .pure fun n => ⟨Stmt.noConfusion, rfl⟩
  · refine hplain (.bind fun _ => .bind fun found => ?_)
    exact .bind fun _ => .pure fun n => ⟨Stmt.noConfusion, rfl⟩
  · refine hplain (.bind fun _ => .bind fun _ => .bind fun _ => .bind fun _ => .bind fun _ => ?_)
    exact .pure fun n => ⟨Stmt.noConfusion, rfl⟩
  · exact hplain (assignment_gives g)

/-- A `pass` is one lexeme. -/
theorem simpleStatement_pass {g : Grammar} {u : Tok} {us : List Tok}
    (hu : u.lexeme = .word "pass") :
    simpleStatement g (u :: us) = some (.pass u.line, us) := by
  have hpeek : peek? (u :: us) = some (some (.word "pass"), u :: us) := by
    rw [← hu]
    rfl
  exact (bind_apply _ hpeek).trans rfl

/-- A simple statement is a `pass`, or has no slot; in any case it takes lexemes from the front. -/
theorem simpleStatement_cases {depth : Nat} {ts rest : List Tok} {s : Stmt}
    (h : simpleStatement (grammar depth) ts = some (s, rest)) (hw : weightOf ts + 2 ≤ depth) :
    (∃ u, ts = u :: rest ∧ u.lexeme = .word "pass" ∧ s = .pass u.line)
      ∨ s.IsPlain ∧ ∃ m, rest = ts.drop m := by
  by_cases hpass : ts.head?.map Tok.lexeme = some (.word "pass")
  · obtain ⟨u, hu, hlexeme⟩ := Option.map_eq_some_iff.1 hpass
    obtain ⟨us, rfl⟩ := List.head?_eq_some_iff.1 hu
    rw [simpleStatement_pass hlexeme] at h
    obtain ⟨rfl, rfl⟩ := Prod.mk.inj (Option.some.inj h)
    exact Or.inl ⟨u, rfl, hlexeme, rfl⟩
  · refine Or.inr ⟨isPlain_of_simpleStatement h hpass, ?_⟩
    have hagrees := simpleStatement_agreesOn (grammar_agrees depth depth depth (Nat.le_refl _)
      (Nat.le_refl _)) hw hpass ts ts rfl rfl (Nat.le_refl _)
    rcases hagrees with ⟨hnone, -⟩ | ⟨a, m, hsome, -⟩
    · rw [hnone] at h
      cases h
    · rw [hsome] at h
      exact ⟨m, (Prod.mk.inj (Option.some.inj h)).2.symm⟩

/-! ## §3. Lines. -/

/-- Is a simple statement over here? -/
def EndsStatement (ts : List Tok) : Prop := ∀ v ∈ ts.head?, v.lexeme = .sign ";"

theorem HasPass.of_drop {ts : List Tok} {m : Nat} (h : HasPass n (ts.drop m)) : HasPass n ts := by
  obtain ⟨front, u, back, heq, hu⟩ := h
  refine ⟨ts.take m ++ front, u, back, ?_, hu⟩
  rw [List.append_assoc, ← heq, List.take_append_drop]

/-- A sign comes next or does not. -/
theorem acceptSign_cases (s : String) (ts : List Tok) :
    (∃ t us, ts = t :: us ∧ t.lexeme = .sign s ∧ acceptSign s ts = some (true, us))
      ∨ acceptSign s ts = some (false, ts) := by
  by_cases hnext : ts.head?.map Tok.lexeme = some (.sign s)
  · obtain ⟨t, ht, hlexeme⟩ := Option.map_eq_some_iff.1 hnext
    obtain ⟨us, rfl⟩ := List.head?_eq_some_iff.1 ht
    exact Or.inl ⟨t, us, rfl, hlexeme, acceptSign_next hlexeme us⟩
  · refine Or.inr (acceptSign_lacks ?_)
    intro t ht hlexeme
    exact hnext (by rw [ht, Option.map_some, hlexeme])

/-- The statement behind the next semicolon, if there is one. -/
def furtherStatement? (g : Grammar) : Reader (Option Stmt) := do
  if ← acceptSign ";" then
    if ← atEnd then return none else return some (← simpleStatement g)
  else return none

/-- At the end of a line, no further statement is found where one is over. -/
theorem endsStatement_of_none {g : Grammar} {ts : List Tok}
    (h : furtherStatement? g ts = some (none, [])) : EndsStatement ts := by
  unfold furtherStatement? at h
  rcases acceptSign_cases ";" ts with ⟨t, us, rfl, hlexeme, -⟩ | haccept
  · intro v hv
    obtain rfl := Option.some.inj hv
    exact hlexeme
  · rw [bind_apply _ haccept] at h
    obtain rfl : ts = [] := (Prod.mk.inj (Option.some.inj h)).2
    exact fun v hv => absurd hv (Option.not_mem_none _)

theorem furtherStatement?_eq_some {g : Grammar} {ts rest : List Tok} {s : Stmt}
    (h : furtherStatement? g ts = some (some s, rest)) :
    ∃ t us, ts = t :: us ∧ t.lexeme = .sign ";" ∧ simpleStatement g us = some (s, rest) := by
  unfold furtherStatement? at h
  rcases acceptSign_cases ";" ts with ⟨t, us, rfl, hlexeme, haccept⟩ | haccept
  · rw [bind_apply _ haccept, if_pos rfl] at h
    refine ⟨t, us, rfl, hlexeme, ?_⟩
    obtain ⟨b, us', hend, h⟩ := of_bind h
    obtain ⟨rfl, rfl⟩ := Prod.mk.inj (Option.some.inj hend)
    split at h
    · cases (Prod.mk.inj (Option.some.inj h)).1
    · obtain ⟨s', us', hs, h⟩ := of_bind h
      obtain ⟨hfound, rfl⟩ := Prod.mk.inj (Option.some.inj h)
      obtain rfl := Option.some.inj hfound
      exact hs
  · rw [bind_apply _ haccept] at h
    cases (Prod.mk.inj (Option.some.inj h)).1

/-- A simple statement on a line without the `pass`, with the end of a statement behind it. -/
theorem lacksPass_of_simpleStatement {depth : Nat} {ts rest : List Tok} {s : Stmt}
    (h : simpleStatement (grammar depth) ts = some (s, rest)) (hw : weightOf ts + 2 ≤ depth)
    (hnone : ¬HasPass n ts) (hend : EndsStatement rest) : s ≠ .pass n ∧ s.slotPath? n = none := by
  rcases simpleStatement_cases h hw with ⟨u, rfl, hlexeme, rfl⟩ | ⟨hplain, -⟩
  · refine ⟨fun heq => hnone ⟨[], u, rest, rfl, hlexeme, Stmt.pass.inj heq, hend⟩, rfl⟩
  · exact hplain n

theorem weightOf_of_simpleStatement {depth : Nat} {ts rest : List Tok} {s : Stmt}
    (h : simpleStatement (grammar depth) ts = some (s, rest)) (hw : weightOf ts + 2 ≤ depth) :
    weightOf rest ≤ weightOf ts ∧ ∀ {n}, HasPass n rest → HasPass n ts := by
  rcases simpleStatement_cases h hw with ⟨u, rfl, -⟩ | ⟨-, m, rfl⟩
  · exact ⟨weightOf_drop_le 1 (u :: rest), fun hpass => .of_drop (m := 1) hpass⟩
  · exact ⟨weightOf_drop_le m ts, .of_drop⟩

theorem lacksPass_of_manyAlong {depth : Nat} (us : List Tok) {ts : List Tok} {ss : List Stmt}
    (h : manyAlong (furtherStatement? (grammar depth)) us ts = some (ss, []))
    (hw : weightOf ts + 2 ≤ depth) (hnone : ¬HasPass n ts) : EndsStatement ts ∧ LacksPass n ss := by
  induction us generalizing ts ss with
  | nil =>
    obtain ⟨found, ts', hfound, h⟩ := of_bind h
    cases found with
    | none =>
      obtain ⟨rfl, rfl⟩ := Prod.mk.inj (Option.some.inj h)
      exact ⟨endsStatement_of_none hfound, .nil⟩
    | some s => cases h
  | cons u us ih =>
    obtain ⟨found, ts', hfound, h⟩ := of_bind h
    cases found with
    | none =>
      obtain ⟨rfl, rfl⟩ := Prod.mk.inj (Option.some.inj h)
      exact ⟨endsStatement_of_none hfound, .nil⟩
    | some s =>
      obtain ⟨more, ts'', hmore, h⟩ := of_bind h
      obtain ⟨rfl, rfl⟩ := Prod.mk.inj (Option.some.inj h)
      obtain ⟨t, ts₁, rfl, hsemicolon, hs⟩ := furtherStatement?_eq_some hfound
      have hw₁ : weightOf ts₁ + 2 ≤ depth := by
        have hle := weightOf_drop_le 1 (t :: ts₁)
        rw [List.drop_one, List.tail_cons] at hle
        omega
      have hnone₁ : ¬HasPass n ts₁ := fun hpass => hnone (.of_drop (m := 1) hpass)
      obtain ⟨hle, hpass⟩ := weightOf_of_simpleStatement hs hw₁
      obtain ⟨hend, hlacks⟩ := ih hmore (by omega) fun h => hnone₁ (hpass h)
      refine ⟨?_, .cons (lacksPass_of_simpleStatement hs hw₁ hnone₁ hend) hlacks⟩
      intro v hv
      obtain rfl := Option.some.inj hv
      exact hsemicolon

theorem ensure_eq_some {b : Bool} {ts rest : List Tok} {a : Unit}
    (h : ensure b ts = some (a, rest)) : b = true ∧ rest = ts := by
  cases b with
  | true => exact ⟨rfl, (Prod.mk.inj (Option.some.inj h)).2.symm⟩
  | false => cases h

/-- **Simple statements on a line without the `pass`.** -/
theorem lacksPass_of_simpleStatements {depth : Nat} {ts rest : List Tok} {ss : List Stmt}
    (h : simpleStatements (grammar depth) ts = some (ss, rest)) (hw : weightOf ts + 2 ≤ depth)
    (hnone : ¬HasPass n ts) : LacksPass n ss := by
  unfold simpleStatements at h
  obtain ⟨first, ts₁, hfirst, h⟩ := of_bind h
  obtain ⟨more, ts₂, hmore, h⟩ := of_bind h
  obtain ⟨b, ts₃, hend, h⟩ := of_bind h
  obtain ⟨_, ts₄, hensure, h⟩ := of_bind h
  obtain ⟨rfl, rfl⟩ := Prod.mk.inj (Option.some.inj h)
  obtain ⟨rfl, rfl⟩ := Prod.mk.inj (Option.some.inj hend)
  obtain rfl := List.isEmpty_iff.1 (ensure_eq_some hensure).1
  obtain ⟨hle, hpass⟩ := weightOf_of_simpleStatement hfirst hw
  obtain ⟨hends, hlacks⟩ := lacksPass_of_manyAlong ts₁ hmore (by omega) fun h => hnone (hpass h)
  exact .cons (lacksPass_of_simpleStatement hfirst hw hnone hends) hlacks

/-- Has what the lexemes of a line say no slot on the row? -/
def LineText.Lacks (n : Nat) : LineText → Prop
  | .simple ss => LacksPass n ss
  | .inline _ body => LacksPass n body
  | .opening _ => True
  | .decorator _ => True

/-- A header, or none, is the front of the line. -/
theorem head?_drop {depth : Nat} {inMatch hasSuite : Bool} {ts rest : List Tok} {h : Option Head}
    (hhead : head? (grammar depth) inMatch hasSuite ts = some (h, rest))
    (hw : weightOf ts + 2 ≤ depth) : ∃ m, rest = ts.drop m := by
  have hagrees := head?_agrees (grammar_agrees depth depth depth (Nat.le_refl _) (Nat.le_refl _))
    hw inMatch hasSuite _ ts ts rfl rfl (Nat.le_refl _)
  rcases hagrees with ⟨hnone, -⟩ | ⟨a, m, hsome, -⟩
  · rw [hnone] at hhead
    cases hhead
  · rw [hsome] at hhead
    exact ⟨m, (Prod.mk.inj (Option.some.inj hhead)).2.symm⟩

theorem sign_eq_some {s : String} {ts rest : List Tok} {a : Unit}
    (h : sign s ts = some (a, rest)) : ∃ t, ts = t :: rest ∧ t.lexeme = .sign s := by
  unfold sign at h
  obtain ⟨b, us, haccept, h⟩ := of_bind h
  obtain ⟨rfl, rfl⟩ := ensure_eq_some h
  rcases acceptSign_cases s ts with ⟨t, us, rfl, hlexeme, htrue⟩ | hfalse
  · rw [htrue] at haccept
    obtain ⟨-, rfl⟩ := Prod.mk.inj (Option.some.inj haccept)
    exact ⟨t, rfl, hlexeme⟩
  · rw [hfalse] at haccept
    cases (Prod.mk.inj (Option.some.inj haccept)).1

theorem lacks_of_lineText {depth : Nat} {inMatch hasSuite : Bool} {ts rest : List Tok}
    {text : LineText} (h : lineText (grammar depth) inMatch hasSuite ts = some (text, rest))
    (hw : weightOf ts + 2 ≤ depth) (hnone : ¬HasPass n ts) : text.Lacks n := by
  unfold lineText at h
  obtain ⟨head, ts₁, hhead, h⟩ := of_bind h
  obtain ⟨m, rfl⟩ := head?_drop hhead hw
  have hle := weightOf_drop_le m ts
  cases head with
  | some head =>
    obtain ⟨_, ts₂, hsign, h⟩ := of_bind h
    obtain ⟨t, ht, -⟩ := sign_eq_some hsign
    obtain ⟨b, ts₃, hend, h⟩ := of_bind h
    obtain ⟨rfl, rfl⟩ := Prod.mk.inj (Option.some.inj hend)
    split at h
    · obtain rfl := (Prod.mk.inj (Option.some.inj h)).1
      trivial
    · obtain ⟨ss, ts₄, hss, h⟩ := of_bind h
      obtain rfl := (Prod.mk.inj (Option.some.inj h)).1
      have hrest : ts₂ = ts.drop (m + 1) := by
        rw [← List.drop_drop, ht]
        rfl
      have hle' := weightOf_drop_le (m + 1) ts
      rw [← hrest] at hle'
      exact lacksPass_of_simpleStatements hss (by omega) fun hpass =>
        hnone (.of_drop (hrest ▸ hpass))
  | none =>
    dsimp only at h
    rcases acceptSign_cases "@" (ts.drop m) with ⟨t, us, -, -, haccept⟩ | haccept
    · rw [bind_apply _ haccept, if_pos rfl] at h
      obtain ⟨e, us', -, h⟩ := of_bind h
      obtain ⟨b, us', -, h⟩ := of_bind h
      obtain ⟨_, us', -, h⟩ := of_bind h
      obtain rfl := (Prod.mk.inj (Option.some.inj h)).1
      trivial
    · rw [bind_apply _ haccept, if_neg Bool.false_ne_true] at h
      obtain ⟨ss, us', hss, h⟩ := of_bind h
      obtain rfl := (Prod.mk.inj (Option.some.inj h)).1
      exact lacksPass_of_simpleStatements hss (by omega) fun hpass => hnone (.of_drop hpass)

/-! ## §4. Forests. -/

mutual

/-- The lexemes of the lines of a suite, in the order in which they are written. -/
def Line.written : Line → List (List Tok)
  | .mk toks suite => toks :: writtenIn suite

/-- The lexemes of the lines of several suites. -/
def writtenIn : List Line → List (List Tok)
  | [] => []
  | l :: ls => l.written ++ writtenIn ls

end

/-- The lines of a forest are the logical lines that it is made of. -/
theorem written_of_readSuite? {fuel depth : Nat} {w : Width} {ls rest : List LogicalLine}
    {forest : List Line} (h : readSuite? fuel depth w ls = some (forest, rest)) :
    ls.map LogicalLine.toks = writtenIn forest ++ rest.map LogicalLine.toks := by
  induction fuel generalizing depth w ls forest rest with
  | zero => cases h
  | succ fuel ih =>
    unfold readSuite? at h
    split at h
    · obtain ⟨rfl, rfl⟩ := Prod.mk.inj (Option.some.inj h)
      rfl
    · rename_i l more
      obtain ⟨order, -, h⟩ := Option.bind_eq_some_iff.1 h
      cases order with
      | lt => cases h
      | gt =>
        obtain ⟨rfl, rfl⟩ := Prod.mk.inj (Option.some.inj h)
        rfl
      | eq =>
        dsimp only at h
        split at h
        · obtain ⟨rfl, rfl⟩ := Prod.mk.inj (Option.some.inj h)
          rfl
        · rename_i next more
          obtain ⟨order, -, h⟩ := Option.bind_eq_some_iff.1 h
          split at h
          · split at h
            · cases h
            obtain ⟨⟨suite, behind⟩, hsuite, h⟩ := Option.bind_eq_some_iff.1 h
            obtain ⟨⟨others, behind'⟩, hothers, h⟩ := Option.bind_eq_some_iff.1 h
            obtain ⟨rfl, rfl⟩ := Prod.mk.inj (Option.some.inj h)
            rw [List.map_cons, ih hsuite, ih hothers, writtenIn, Line.written]
            simp only [List.cons_append, List.append_assoc]
          · obtain ⟨⟨others, behind'⟩, hothers, h⟩ := Option.bind_eq_some_iff.1 h
            obtain ⟨rfl, rfl⟩ := Prod.mk.inj (Option.some.inj h)
            rw [List.map_cons, ih hothers, writtenIn, Line.written, writtenIn]
            rfl

/-- What a line and its suite say has no slot on the row if neither has. -/
theorem lacks_of_item? {text : LineText} {suite : List Item} {i : Item} (htext : text.Lacks n)
    (hsuite : ∀ i ∈ suite, i.Lacks n) (h : item? text suite = some i) : i.Lacks n := by
  unfold item? at h
  split at h
  · split at h
    · obtain rfl := Option.some.inj h
      exact htext
    · cases h
  · split at h
    · obtain rfl := Option.some.inj h
      trivial
    · cases h
  · split at h
    · obtain rfl := Option.some.inj h
      exact htext
    · cases h
  · split at h
    · cases h
    · obtain ⟨cs, hcs, rfl⟩ := Option.map_eq_some_iff.1 h
      exact .cons ⟨Stmt.noConfusion, Item.Lacks.cases? hsuite hcs 0⟩ .nil
  · split at h
    · cases h
    · obtain ⟨body, hbody, rfl⟩ := Option.map_eq_some_iff.1 h
      exact Item.Lacks.assemble? hsuite hbody

section Forests

variable {depth : Nat}

mutual

/-- Lines without the `pass` say nothing that has a slot on the row. -/
theorem lacks_of_readItem? : ∀ (l : Line) {inMatch : Bool} {i : Item},
    (∀ ts ∈ l.written, weightOf ts + 2 ≤ depth ∧ ¬HasPass n ts) →
    readItem? (grammar depth) inMatch l = some i → i.Lacks n
  | .mk toks suite, inMatch, i, hlines, h => by
    rw [readItem?] at h
    rw [Line.written] at hlines
    obtain ⟨htoks, hsuite⟩ := List.forall_mem_cons.1 hlines
    obtain ⟨⟨text, rest⟩, htext, h⟩ := Option.bind_eq_some_iff.1 h
    obtain ⟨items, hitems, h⟩ := Option.bind_eq_some_iff.1 h
    exact lacks_of_item? (lacks_of_lineText htext htoks.1 htoks.2)
      (lacks_of_readItems? suite hsuite hitems) h

/-- The same of several lines. -/
theorem lacks_of_readItems? : ∀ (ls : List Line) {inMatch : Bool} {items : List Item},
    (∀ ts ∈ writtenIn ls, weightOf ts + 2 ≤ depth ∧ ¬HasPass n ts) →
    readItems? (grammar depth) inMatch ls = some items → ∀ i ∈ items, i.Lacks n
  | [], inMatch, items, hlines, h => by
    rw [readItems?] at h
    obtain rfl := Option.some.inj h
    exact fun i hi => absurd hi List.not_mem_nil
  | l :: ls, inMatch, items, hlines, h => by
    rw [readItems?] at h
    rw [writtenIn] at hlines
    obtain ⟨hl, hls⟩ := List.forall_mem_append.1 hlines
    obtain ⟨i, hi, h⟩ := Option.bind_eq_some_iff.1 h
    obtain ⟨more, hmore, h⟩ := Option.bind_eq_some_iff.1 h
    obtain rfl := Option.some.inj h
    exact List.forall_mem_cons.2
      ⟨lacks_of_readItem? l hl hi, lacks_of_readItems? ls hls hmore⟩

end

end Forests

/-- The forest of some code is read from its logical lines, all of them. -/
theorem readSuite?_of_layout? {code : String} {forest : List Line}
    (h : layout? code = some forest) : ∃ ls, logicalLines? code = some ls
      ∧ readSuite? (2 * ls.length + 1) 0 ⟨0, 0⟩ ls = some (forest, []) := by
  obtain ⟨ls, hls, h⟩ := Option.bind_eq_some_iff.1 h
  obtain ⟨⟨forest', rest⟩, hsuite, h⟩ := Option.bind_eq_some_iff.1 h
  cases rest with
  | cons l rest => cases h
  | nil =>
    obtain rfl := Option.some.inj h
    exact ⟨ls, hls, hsuite⟩

/-- **A slot is the row of a `pass`**: one on some logical line of the code, with nothing behind it
but a semicolon perhaps. -/
theorem hasPass_of_slotPath? {code : String} {ls : List LogicalLine} {ss : List Stmt} {s : Stmt}
    (hlines : logicalLines? code = some ls) (hparse : parseStatements? code = some ss) (hs : s ∈ ss)
    (hslot : (s.slotPath? n).isSome = true) : ∃ l ∈ ls, HasPass n l.toks := by
  by_contra hnone
  obtain ⟨forest, hforest, hparse⟩ := Option.bind_eq_some_iff.1 hparse
  obtain ⟨items, hitems, hassemble⟩ := Option.bind_eq_some_iff.1 hparse
  obtain ⟨ls', hls', hsuite⟩ := readSuite?_of_layout? hforest
  obtain rfl := Option.some.inj (hls'.symm.trans hlines)
  have hwritten := written_of_readSuite? hsuite
  rw [List.map_nil, List.append_nil] at hwritten
  have hforest : ∀ ts ∈ writtenIn forest, weightOf ts + 2 ≤ code.length + 2 ∧ ¬HasPass n ts := by
    intro ts hts
    rw [← hwritten] at hts
    obtain ⟨l, hl, rfl⟩ := List.mem_map.1 hts
    have hweight := weightOf_le_of_logicalLines? hlines l hl
    exact ⟨by omega, fun hpass => hnone ⟨l, hl, hpass⟩⟩
  have hlacks := Item.Lacks.assemble? (lacks_of_readItems? forest hforest hitems) hassemble s hs
  rw [hlacks.2] at hslot
  cases hslot

end Inlay.Code
