/-
  Inlay.Proofs.Colons
  ────────────────────────────────
  **ONLY A HEADER ENDS IN A COLON.**

  Behind a colon the grammar wants something more: a value, a type, a body,
  or at least the bracket that closes a subscript.  So a reader that starts
  on a line whose last lexeme is a colon takes the whole line only if it is
  the reader of a header, and a header needs a suite below it:

      Leads b c r   — what a reader leaves of a line that ends in a colon
      grammar_solid — expressions stop in front of the colon
      not_endsInColon_of_parseStatements? — the last line of code that is complete
-/
import Inlay.Proofs.Shaping

namespace Inlay.Code

open Reader

/-! ## §1. Lines that end in a colon. -/

/-- Is the last lexeme a colon? -/
def EndsInColon (ts : List Tok) : Prop := ∃ t ∈ ts.getLast?, t.lexeme = .sign ":"

namespace EndsInColon

variable {t : Tok} {ts : List Tok}

theorem not_nil : ¬EndsInColon [] := fun ⟨_, ht, _⟩ => Option.not_mem_none _ ht

theorem tail_or (h : EndsInColon (t :: ts)) : ts = [] ∨ EndsInColon ts := by
  obtain ⟨u, hu, hcolon⟩ := h
  cases ts with
  | nil => exact Or.inl rfl
  | cons v ts => exact Or.inr ⟨u, by rwa [List.getLast?_cons_cons] at hu, hcolon⟩

theorem tail (h : EndsInColon (t :: ts)) (ht : t.lexeme ≠ .sign ":") : EndsInColon ts := by
  refine h.tail_or.resolve_left ?_
  rintro rfl
  obtain ⟨u, hu, hcolon⟩ := h
  obtain rfl := Option.some.inj hu
  exact ht hcolon

/-- What is left of the line ends in the colon, unless nothing is left. -/
theorem drop_or (h : EndsInColon ts) (n : Nat) : ts.drop n = [] ∨ EndsInColon (ts.drop n) := by
  induction n generalizing ts with
  | zero => exact Or.inr h
  | succ n ih =>
    cases ts with
    | nil => exact absurd h not_nil
    | cons t ts =>
      rw [List.drop_succ_cons]
      rcases h.tail_or with rfl | htail
      · exact Or.inl List.drop_nil
      · exact ih htail

end EndsInColon

/-- Does what is left of a line end in a colon?  Where the colon may have been taken, nothing may
be left either. -/
def ColonAhead (mayBeTaken : Bool) (ts : List Tok) : Prop :=
  (mayBeTaken = true ∧ ts = []) ∨ EndsInColon ts

namespace ColonAhead

variable {b c : Bool} {t : Tok} {ts : List Tok}

theorem mono (h : ColonAhead b ts) (hle : b = true → c = true) : ColonAhead c ts :=
  h.imp_left fun h => ⟨hle h.1, h.2⟩

theorem cons (h : ColonAhead b (t :: ts)) : EndsInColon (t :: ts) :=
  h.resolve_left fun h => List.cons_ne_nil _ _ h.2

theorem tail (h : ColonAhead b ts) : ColonAhead true ts.tail := by
  cases ts with
  | nil => exact Or.inl ⟨rfl, rfl⟩
  | cons t ts => exact h.cons.tail_or.imp_left fun hnil => ⟨rfl, hnil⟩

end ColonAhead

/-! ## §2. What readers leave. -/

section Leading

variable {α β : Type} {b c m : Bool} {r : Reader α}

/-- Does a reader leave the colon at the end of a line, if it goes on from the given lexeme?  `b`
and `c` tell whether the colon may be taken before and behind. -/
def LeadsOn (x : Option Lexeme) (b c : Bool) (r : Reader α) : Prop :=
  ∀ ts a rest, ts.head?.map Tok.lexeme = x → ColonAhead b ts → r ts = some (a, rest) →
    ColonAhead c rest

/-- The same from whatever lexeme. -/
def Leads (b c : Bool) (r : Reader α) : Prop := ∀ x, LeadsOn x b c r

/-- A reader that refuses the end of the line, and leaves a colon there where it is. -/
abbrev Solid (r : Reader α) : Prop := Leads true false r

theorem Leads.on (h : Leads b c r) (x : Option Lexeme) : LeadsOn x b c r := h x

/-- Where a lexeme comes next, the line is not over. -/
theorem Leads.next (h : Leads false c r) (x : Lexeme) : LeadsOn (some x) b c r := by
  intro ts a rest hx hts hr
  refine h _ ts a rest hx (hts.resolve_left ?_ |> Or.inr) hr
  rintro ⟨-, rfl⟩
  cases hx

theorem Leads.weaken {b' c' : Bool} (h : Leads b c r) (hb : b' = true → b = true)
    (hc : c = true → c' = true) : Leads b' c' r :=
  fun x ts a rest hx hts hr => (h x ts a rest hx (hts.mono hb) hr).mono hc

theorem Leads.keeps (h : Leads true c r) : Leads false c r := h.weaken (fun _ => rfl) fun h => h

theorem Leads.loosen (h : Leads b c r) : Leads b true r := h.weaken (fun h => h) fun _ => rfl

/-- Looking at the next lexeme, what is done next may rely on it. -/
theorem LeadsOn.peek {x : Option Lexeme} {f : Option Lexeme → Reader α}
    (h : LeadsOn x b c (f x)) : LeadsOn x b c (peek? >>= f) := by
  intro ts a rest hx hts hr
  obtain rfl := hx
  exact h ts a rest rfl hts hr

/-- A lexeme that is no colon is taken. -/
theorem LeadsOn.skip {x : Lexeme} {f : Unit → Reader α} (hx : x ≠ .sign ":")
    (h : Leads false c (f ())) : LeadsOn (some x) b c (Reader.skip >>= f) := by
  intro ts a rest hhead hts hr
  obtain ⟨t, ts, rfl⟩ : ∃ t us, ts = t :: us := by
    cases ts with
    | nil => cases hhead
    | cons t us => exact ⟨t, us, rfl⟩
  obtain rfl : t.lexeme = x := Option.some.inj hhead
  exact h _ ts a rest rfl (Or.inr (hts.cons.tail hx)) hr

theorem LeadsOn.ensure {x : Option Lexeme} {p : Bool} {f : Unit → Reader α}
    (h : LeadsOn x b c (f ())) : LeadsOn x b c (Reader.ensure p >>= f) := by
  intro ts a rest hx hts hr
  cases p with
  | true => exact h ts a rest hx hts hr
  | false => cases hr

namespace Leads

theorem pure (a : α) : Leads b b (Pure.pure a) := by
  intro x ts a' rest _ hts hr
  obtain ⟨-, rfl⟩ := Prod.mk.inj (Option.some.inj hr)
  exact hts

/-- The same where a lexeme in front of the colon was taken. -/
theorem taken (a : α) : Leads false b (Pure.pure a) :=
  (pure a).weaken (fun h => h) fun h => nomatch h

theorem refuse : Leads b c (refuse : Reader α) := fun _ _ _ _ _ _ hr => nomatch hr

theorem ensure (p : Bool) : Leads b b (ensure p) := by
  cases p with
  | true => exact pure ()
  | false => exact refuse

theorem skip : Leads b true skip := by
  intro x ts a rest _ hts hr
  obtain ⟨-, rfl⟩ := Prod.mk.inj (Option.some.inj hr)
  exact hts.tail

theorem bind {f : α → Reader β} (h : Leads b m r) (hf : ∀ a, Leads m c (f a)) :
    Leads b c (r >>= f) := by
  intro x ts a rest hx hts hr
  obtain ⟨a', us, ha, hr⟩ := of_bind hr
  exact hf a' _ us a rest rfl (h x ts a' us hx hts ha) hr

theorem ite {p : Prop} [Decidable p] {e : Reader α} (ht : Leads b c r) (he : Leads b c e) :
    Leads b c (if p then r else e) := by
  split
  · exact ht
  · exact he

theorem peek {f : Option Lexeme → Reader α} (h : ∀ x, LeadsOn x b c (f x)) :
    Leads b c (peek? >>= f) := fun x => (h x).peek

/-- A reader that only looks leaves everything. -/
theorem look {r : Reader α} (h : ∀ ts, ∃ a, r ts = some (a, ts)) : Leads b b r := by
  intro x ts a rest _ hts hr
  obtain ⟨a', ha⟩ := h ts
  obtain ⟨-, rfl⟩ := Prod.mk.inj (Option.some.inj (ha.symm.trans hr))
  exact hts

theorem peekSecond : Leads b b peekSecond? := look fun _ => ⟨_, rfl⟩

theorem atEnd : Leads b b atEnd := look fun _ => ⟨_, rfl⟩

theorem nextLine : Leads b b nextLine := look fun _ => ⟨_, rfl⟩

theorem atSign (s : String) : Leads b b (atSign s) := look fun _ => ⟨_, rfl⟩

theorem atWord (w : String) : Leads b b (atWord w) := look fun _ => ⟨_, rfl⟩

theorem get {f : List Tok → Reader α} (h : ∀ us, Leads b c (f us)) :
    Leads b c (MonadState.get >>= f) :=
  fun x ts a rest hx hts hr => h ts x ts a rest hx hts hr

/-! ## §3. Taking a lexeme or not. -/

/-- What a reader takes if it comes next is no colon. -/
theorem accepts {y : Lexeme} {r : Reader Bool} (hr : Accepts y r) {f : Bool → Reader α}
    (hy : y ≠ .sign ":") (ht : Leads false c (f true)) (hf : Leads b c (f false)) :
    Leads b c (r >>= f) := by
  intro x ts a rest hx hts h
  -- the reader says yes and takes the lexeme, or says no and takes nothing
  by_cases hnext : ts.head?.map Tok.lexeme = some y
  · obtain ⟨t, ht', hlexeme⟩ := Option.map_eq_some_iff.1 hnext
    obtain ⟨us, rfl⟩ := List.head?_eq_some_iff.1 ht'
    rw [bind_apply f (hr.next t us hlexeme)] at h
    exact ht _ us a rest rfl (Or.inr (hts.cons.tail (hlexeme ▸ hy))) h
  · have hlacks : Lacks y ts := by
      intro t ht' heq
      refine hnext ?_
      rw [ht', Option.map_some, heq]
    rw [bind_apply f (hr.lacks ts hlacks)] at h
    exact hf x ts a rest hx hts h

variable {t e : Reader α} {s w : String}

theorem ifSign (hs : s ≠ ":") (ht : Leads false c t) (he : Leads b c e) :
    Leads b c (acceptSign s >>= fun b => if b = true then t else e) :=
  accepts (acceptSign_accepts s) (fun heq => hs (Lexeme.sign.inj heq)) ht he

theorem ifWord (ht : Leads false c t) (he : Leads b c e) :
    Leads b c (acceptWord w >>= fun b => if b = true then t else e) :=
  accepts (acceptWord_accepts w) (fun heq => nomatch heq) ht he

theorem acceptWord (w : String) : Leads b b (acceptWord w) := by
  have h : Leads b b (Reader.acceptWord w >>= Pure.pure) :=
    accepts (acceptWord_accepts w) (fun heq => nomatch heq) (taken true) (pure false)
  rwa [bind_pure] at h

theorem acceptSign (hs : s ≠ ":") : Leads b b (acceptSign s) := by
  have h : Leads b b (Reader.acceptSign s >>= Pure.pure) :=
    accepts (acceptSign_accepts s) (fun heq => hs (Lexeme.sign.inj heq)) (taken true) (pure false)
  rwa [bind_pure] at h

/-- The colon itself: the last one may be taken. -/
theorem ifColon (ht : Leads true c t) (he : Leads b c e) :
    Leads b c (Reader.acceptSign ":" >>= fun b => if b = true then t else e) := by
  intro x ts a rest hx hts h
  rcases acceptSign_cases ":" ts with ⟨u, us, rfl, -, haccept⟩ | haccept
  · rw [bind_apply _ haccept, if_pos rfl] at h
    exact ht _ us a rest rfl hts.tail h
  · rw [bind_apply _ haccept, if_neg Bool.false_ne_true] at h
    exact he x ts a rest hx hts h

theorem acceptColon : Leads b true (Reader.acceptSign ":") := by
  intro x ts a rest _ hts h
  rcases acceptSign_cases ":" ts with ⟨u, us, rfl, -, haccept⟩ | haccept
  · obtain ⟨-, rfl⟩ := Prod.mk.inj (Option.some.inj (haccept.symm.trans h))
    exact hts.tail
  · obtain ⟨-, rfl⟩ := Prod.mk.inj (Option.some.inj (haccept.symm.trans h))
    exact hts.mono fun _ => rfl

end Leads

theorem sign_solid {s : String} (hs : s ≠ ":") : Solid (sign s) :=
  .accepts (acceptSign_accepts s) (fun heq => hs (Lexeme.sign.inj heq)) (.ensure true) .refuse

theorem colon_leads : Leads b true (sign ":") := .bind .acceptColon fun p => .ensure p

theorem word_solid (w : String) : Solid (word w) :=
  .accepts (acceptWord_accepts w) (fun heq => nomatch heq) (.ensure true) .refuse

theorem identifier_solid : Solid identifier := by
  unfold identifier
  refine .peek fun x => ?_
  split
  · exact .ensure (.skip (fun heq => nomatch heq) (.pure _))
  · exact Leads.refuse.on _

/-! ## §4. Repetition. -/

namespace Leads

theorem attempt (h : Leads b b r) : Leads b b (attempt r) := by
  intro x ts a rest hx hts hr
  unfold Reader.attempt at hr
  split at hr
  · rename_i found us hfound
    obtain ⟨-, rfl⟩ := Prod.mk.inj (Option.some.inj hr)
    exact h x ts found us hx hts hfound
  · obtain ⟨-, rfl⟩ := Prod.mk.inj (Option.some.inj hr)
    exact hts

theorem many {r : Reader (Option α)} (h : Leads b b r) : Leads b b (many r) := by
  -- the lexemes that are left bound the rounds
  refine get fun us => ?_
  induction us with
  | nil =>
    unfold manyAlong
    refine bind h fun a => ?_
    cases a with
    | none => exact pure []
    | some a => exact refuse
  | cons u us ih =>
    unfold manyAlong
    refine bind h fun a => ?_
    cases a with
    | none => exact pure []
    | some a => exact bind ih fun _ => pure _

/-- Behind a comma an item comes again, or the comma stays. -/
theorem commas {item : Reader α} (h : Leads true c item) : Leads true c (commas item) := by
  refine bind h fun first => bind (many ?_) fun rest =>
    bind (acceptSign (by decide)) fun _ => pure _
  refine bind (atSign ",") fun _ => ite (attempt ?_) (pure none)
  exact bind skip fun _ => h

theorem chain {item : Reader α} {operator? : Reader (Option (α → α → α))} (h : Solid item)
    (hop : Leads false false operator?) : Solid (chain item operator?) := by
  refine bind h fun first => bind (many ?_) fun rest => pure _
  refine bind hop fun op => ?_
  cases op with
  | none => exact pure none
  | some f => exact bind h.keeps fun _ => pure _

end Leads

/-! ## §5. Operators. -/

/-- An operator is taken if it comes next; none of them is a colon. -/
theorem signIn?_bind {operators : List (String × α)} {f : Option α → Reader β}
    (hops : ∀ o ∈ operators, o.1 ≠ ":") (hsome : ∀ o, Leads false c (f (some o)))
    (hnone : Leads b c (f none)) : Leads b c (signIn? operators >>= f) := by
  unfold signIn?
  rw [bind_assoc]
  refine .peek fun x => ?_
  split
  · rename_i s
    cases hfind : operators.find? (·.1 == s) with
    | none => exact hnone.on _
    | some o =>
      have hname : o.1 = s := by simpa using List.find?_some hfind
      have hs : s ≠ ":" := hname ▸ hops o (List.mem_of_find?_eq_some hfind)
      have hskip : LeadsOn (some (.sign s)) b c (Reader.skip >>= fun _ => f (some o.2)) :=
        .skip (fun heq => hs (Lexeme.sign.inj heq)) (hsome o.2)
      exact hskip
  · exact hnone.on _

theorem signIn?_leads {operators : List (String × α)} (hops : ∀ o ∈ operators, o.1 ≠ ":") :
    Leads false false (signIn? operators) := by
  have h : Leads false false (signIn? operators >>= Pure.pure) :=
    signIn?_bind hops (fun o => .pure _) (.pure _)
  rwa [bind_pure] at h

theorem compareOp?_leads : Leads false false compareOp? := by
  unfold compareOp?
  refine signIn?_bind (by decide) (fun op => .pure _) ?_
  refine .ifWord (.pure _) (.ifWord (.ifWord (.pure _) (.pure _)) ?_)
  -- `not in` is taken as a whole
  intro x ts a rest hx hts hr
  obtain ⟨first, us, hfirst, hr⟩ := of_bind hr
  obtain ⟨rfl, rfl⟩ := Prod.mk.inj (Option.some.inj hfirst)
  obtain ⟨second, us, hsecond, hr⟩ := of_bind hr
  obtain ⟨rfl, rfl⟩ := Prod.mk.inj (Option.some.inj hsecond)
  split at hr
  · rename_i hnext
    rw [Bool.and_eq_true, beq_iff_eq, beq_iff_eq] at hnext
    obtain ⟨t, ht, hnot⟩ := Option.map_eq_some_iff.1 hnext.1
    obtain ⟨us, rfl⟩ := List.head?_eq_some_iff.1 ht
    obtain ⟨u, hu, hin⟩ := Option.map_eq_some_iff.1 hnext.2
    obtain ⟨vs, rfl⟩ := List.head?_eq_some_iff.1 hu
    obtain ⟨-, rfl⟩ := Prod.mk.inj (Option.some.inj hr)
    refine Or.inr ((hts.cons.tail ?_).tail ?_)
    · rw [hnot]
      exact Lexeme.noConfusion
    · rw [hin]
      exact Lexeme.noConfusion
  · obtain ⟨-, rfl⟩ := Prod.mk.inj (Option.some.inj hr)
    exact hts

end Leading

/-! ## §6. Expressions. -/

/-- Do the rules of a grammar refuse the end of the line, and leave a colon there where it is? -/
structure Grammar.IsSolid (g : Grammar) : Prop where
  expression : Solid g.expression
  factor : Solid g.factor

section Rules

variable {b : Bool} {g : Grammar} {p : Reader Expr}

theorem binaryChain_solid (hg : g.IsSolid) {levels : List (List (String × BinaryOp))}
    (hlevels : ∀ level ∈ levels, ∀ o ∈ level, o.1 ≠ ":") : Solid (binaryChain g levels) := by
  induction levels with
  | nil => exact hg.factor
  | cons level higher ih =>
    obtain ⟨hlevel, hhigher⟩ := List.forall_mem_cons.1 hlevels
    unfold binaryChain
    exact .chain (ih hhigher) (.bind (signIn?_leads hlevel) fun _ => .pure _)

theorem operand_solid (hg : g.IsSolid) : Solid (operand g) := binaryChain_solid hg (by decide)

theorem comparison_solid (hg : g.IsSolid) : Solid (comparison g) := by
  have hoperand := operand_solid hg
  unfold comparison
  refine .bind hoperand fun first => .bind (.many ?_) fun links => .pure _
  refine .bind compareOp?_leads fun op => ?_
  cases op with
  | none => exact .pure none
  | some op => exact .bind hoperand.keeps fun _ => .pure _

theorem inversion_solid (hg : g.IsSolid) : Solid (inversion g) := by
  unfold inversion
  refine .bind (.many ?_) fun nots => .bind (comparison_solid hg) fun _ => .pure _
  exact .ifWord (.taken _) (.pure _)

theorem booleanChain_solid {op : BoolOp} {w : String} {item : Reader Expr} (h : Solid item) :
    Solid (booleanChain op w item) := by
  unfold booleanChain
  refine .bind h fun first => .bind (.many ?_) fun rest => .pure _
  exact .ifWord (.bind h.keeps fun _ => .pure _) (.pure _)

theorem disjunction_solid (hg : g.IsSolid) : Solid (disjunction g) :=
  booleanChain_solid (booleanChain_solid (inversion_solid hg))

/-! ## §7. Lists of expressions, comprehensions and displays. -/

theorem namedExpression_solid (hg : g.IsSolid) : Solid (namedExpression g) := by
  unfold namedExpression
  refine .bind .peekSecond fun _ => .ite ?_ hg.expression
  exact .bind identifier_solid fun _ => .bind .skip fun _ => .bind hg.expression fun _ => .pure _

theorem starredOr_solid (hg : g.IsSolid) (h : Solid p) : Solid (starredOr g p) := by
  unfold starredOr
  exact .ifSign (by decide) (.bind (operand_solid hg).keeps fun _ => .pure _) h

theorem starExpressions_solid (hg : g.IsSolid) : Solid (starExpressions g) := by
  unfold starExpressions
  exact .bind (.commas (starredOr_solid hg hg.expression)) fun _ => .pure _

theorem yielded_leads (hg : g.IsSolid) : Leads false false (yielded g) := by
  unfold yielded
  refine .ifWord (.bind hg.expression.keeps fun _ => .pure _) ?_
  exact .bind (.attempt (starExpressions_solid hg).keeps) fun _ => .pure _

theorem loopTarget_solid (hp : Solid p) : Solid (loopTarget p) := by
  unfold loopTarget
  refine .bind (.commas (.ifSign (by decide) (.bind hp.keeps fun _ => .pure _) hp)) fun es => ?_
  exact .bind (.ensure _) fun _ => .pure _

theorem compClauses_leads (hg : g.IsSolid) (hp : Solid p) :
    Leads false false (compClauses g p) := by
  have hdisjunction := disjunction_solid hg
  refine .many ?_
  unfold compClause?
  refine .bind (.acceptWord "async") fun isAsync => .ifWord ?_ (.bind (.ensure _) fun _ => .pure _)
  refine .bind (loopTarget_solid hp).keeps fun target => .bind (word_solid "in").keeps fun _ => ?_
  refine .bind hdisjunction.keeps fun iter => .bind (.many ?_) fun conditions => .pure _
  exact .ifWord (.bind hdisjunction.keeps fun _ => .pure _) (.pure _)

theorem groupTail_leads (hg : g.IsSolid) (hp : Solid p) : Leads false false (groupTail g p) := by
  have hclose : Leads false false (sign ")") := (sign_solid (by decide)).keeps
  have hitems := Leads.commas (starredOr_solid hg (namedExpression_solid hg))
  unfold groupTail
  refine .ifSign (by decide) (.pure _) (.ifWord ?_ (.bind hitems.keeps fun found => ?_))
  · exact .bind (yielded_leads hg) fun _ => .bind hclose fun _ => .pure _
  · obtain ⟨es, comma⟩ := found
    dsimp only
    split
    · refine .bind (.ensure _) fun _ => .bind (compClauses_leads hg hp) fun clauses => ?_
      split
      · exact .bind hclose fun _ => .pure _
      · exact .bind hclose fun _ => .pure _
    · exact .bind hclose fun _ => .pure _

theorem listTail_leads (hg : g.IsSolid) (hp : Solid p) : Leads false false (listTail g p) := by
  have hclose : Leads false false (sign "]") := (sign_solid (by decide)).keeps
  have hitems := Leads.commas (starredOr_solid hg (namedExpression_solid hg))
  unfold listTail
  refine .ifSign (by decide) (.pure _) (.bind hitems.keeps fun found => ?_)
  obtain ⟨es, comma⟩ := found
  dsimp only
  split
  · refine .bind (compClauses_leads hg hp) fun clauses => ?_
    split
    · exact .bind hclose fun _ => .pure _
    · exact .bind (.ensure _) fun _ => .bind hclose fun _ => .pure _
  · exact .bind hclose fun _ => .pure _

/-- The value of an entry stands behind its colon. -/
theorem bracesItem_solid (hg : g.IsSolid) : Solid (bracesItem g) := by
  have hoperand := operand_solid hg
  unfold bracesItem
  refine .ifSign (by decide) (.bind hoperand.keeps fun _ => .pure _)
    (.ifSign (by decide) (.bind hoperand.keeps fun _ => .pure _) ?_)
  refine .bind .peekSecond fun _ => .ite (.bind (namedExpression_solid hg) fun _ => .pure _) ?_
  exact .bind hg.expression fun _ => .ifColon (.bind hg.expression fun _ => .pure _) (.pure _)

theorem bracesTail_leads (hg : g.IsSolid) (hp : Solid p) : Leads false false (bracesTail g p) := by
  have hclose : Leads false false (sign "\x7d") := (sign_solid (by decide)).keeps
  have hclauses := compClauses_leads hg hp
  unfold bracesTail
  refine .ifSign (by decide) (.pure _)
    (.bind (Leads.commas (bracesItem_solid hg)).keeps fun found => ?_)
  obtain ⟨items, comma⟩ := found
  dsimp only
  split
  · refine .bind hclauses fun clauses => ?_
    split
    · exact .bind hclose fun _ => .pure _
    · exact .bind hclose fun _ => .pure _
  · refine .bind hclauses fun clauses => ?_
    split
    · exact .bind hclose fun _ => .pure _
    · exact .bind (.ensure _) fun _ => .bind hclose fun _ => .pure _
  · refine .bind hclose fun _ => .ite (.pure _) ?_
    exact .bind (.ensure _) fun _ => .pure _

/-! ## §8. Arguments and subscripts. -/

theorem argument_solid (hg : g.IsSolid) (hp : Solid p) : Solid (argument g p) := by
  unfold argument
  refine .ifSign (by decide) (.bind hg.expression.keeps fun _ => .pure _)
    (.ifSign (by decide) (.bind hg.expression.keeps fun _ => .pure _) ?_)
  refine .bind .peekSecond fun _ => .ite ?_ ?_
  · exact .bind identifier_solid fun _ => .bind .skip fun _ => .bind hg.expression fun _ => .pure _
  · refine .bind (namedExpression_solid hg) fun e =>
      .bind (compClauses_leads hg hp) fun clauses => ?_
    split
    · exact .pure _
    · exact .pure _

theorem argumentsTail_leads (hg : g.IsSolid) (hp : Solid p) (mayBeBare : Bool) :
    Leads false false (argumentsTail g p mayBeBare) := by
  unfold argumentsTail
  refine .ifSign (by decide) (.pure _)
    (.bind (Leads.commas (argument_solid hg hp)).keeps fun found => ?_)
  obtain ⟨arguments, comma⟩ := found
  refine .bind (sign_solid (by decide)).keeps fun _ => ?_
  split
  · exact .bind (.ensure _) fun _ => .pure _
  · split
    · exact .pure _
    · exact .refuse

theorem sliceBound_leads (hg : g.IsSolid) : Leads true true (sliceBound g) := by
  unfold sliceBound
  refine .bind (.atSign ":") fun _ => .bind (.atSign ",") fun _ => .bind (.atSign "]") fun _ => ?_
  exact .ite (.pure _) (.bind hg.expression.loosen fun _ => .pure _)

/-- Behind the colon of a slice a bound may be missing. -/
theorem sliceTail_leads (hg : g.IsSolid) (lower : Option Expr) :
    Leads true true (sliceTail g lower) := by
  have hbound := sliceBound_leads hg
  unfold sliceTail
  exact .bind hbound fun upper => .bind (.ifColon hbound (.pure _)) fun _ => .pure _

theorem indexItem_leads (hg : g.IsSolid) : Leads true true (indexItem g) := by
  unfold indexItem
  refine .ifSign (by decide) (.bind hg.expression.keeps.loosen fun _ => .pure _)
    (.ifColon (sliceTail_leads hg none) ?_)
  refine .bind .peekSecond fun second => .bind (namedExpression_solid hg) fun e => ?_
  exact .bind .acceptColon fun _ => .ite (sliceTail_leads hg _) (.pure _)

/-- The bracket that closes a subscript stands behind its last colon. -/
theorem subscriptTail_solid (hg : g.IsSolid) : Solid (subscriptTail g) := by
  unfold subscriptTail
  refine .bind (.commas (indexItem_leads hg)) fun found => ?_
  obtain ⟨es, comma⟩ := found
  refine .bind (sign_solid (by decide)) fun _ => ?_
  split
  · exact .pure _
  · exact .pure _

/-! ## §9. Atoms and what follows them. -/

theorem nextText?_leads : Leads false false nextText? := by
  unfold nextText?
  refine .peek fun x => ?_
  split
  · exact .skip (fun heq => nomatch heq) (.pure _)
  · exact (Leads.pure none).on _

theorem joinTexts_leads (g : Grammar) (texts : List (TextForm × List Char)) :
    Leads b b (joinTexts g texts) := by
  unfold joinTexts
  split
  · split
    · exact .pure _
    · exact .refuse
  · refine .ite .refuse ?_
    split
    · exact .refuse
    · refine .ite (.pure _) ?_
      split
      · exact .pure _
      · exact .pure _

theorem atom_solid (hg : g.IsSolid) (hp : Solid p) : Solid (atom g p) := by
  unfold atom
  refine .peek fun x => ?_
  split
  · exact .skip (fun heq => nomatch heq) (.pure _)
  · exact .skip (fun heq => nomatch heq) (.pure _)
  · exact .skip (fun heq => nomatch heq) (.pure _)
  · exact (Leads.bind identifier_solid fun _ => .pure _).on _
  · exact .skip (fun heq => nomatch heq) (.pure _)
  · exact (Leads.bind (.many nextText?_leads) fun texts => joinTexts_leads g texts).next _
  · exact .skip (by decide) (.pure _)
  · exact .skip (by decide) (groupTail_leads hg hp)
  · exact .skip (by decide) (listTail_leads hg hp)
  · exact .skip (by decide) (bracesTail_leads hg hp)
  · exact Leads.refuse.on _

theorem trailer?_leads (hg : g.IsSolid) (hp : Solid p) : Leads false false (trailer? g p) := by
  unfold trailer?
  refine .ifSign (by decide) (.bind identifier_solid.keeps fun _ => .pure _)
    (.ifSign (by decide) ?_ (.ifSign (by decide) ?_ (.pure _)))
  · exact .bind (argumentsTail_leads hg hp true) fun found => .pure _
  · exact .bind (subscriptTail_solid hg).keeps fun _ => .pure _

theorem primary_solid (hg : g.IsSolid) : Solid (primary g) := by
  -- the lexemes that are left bound the nesting
  refine .get fun us => ?_
  induction us with
  | nil => exact .refuse
  | cons u us ih =>
    unfold primaryAlong
    refine .bind (.acceptWord "await") fun isAwait => .bind (atom_solid hg ih) fun first => ?_
    exact .bind (.many (trailer?_leads hg ih)) fun _ => .pure _

theorem factorRule_solid (hg : g.IsSolid) : Solid (factorRule g) := by
  unfold factorRule
  refine signIn?_bind (by decide) (fun op => .bind hg.factor.keeps fun _ => .pure _) ?_
  refine .bind (primary_solid hg) fun base => ?_
  exact .ifSign (by decide) (.bind hg.factor.keeps fun _ => .pure _) (.pure _)

/-! ## §10. Parameters. -/

theorem hint?_leads (hg : g.IsSolid) (annotated mayBeStarred : Bool) :
    Leads false false (hint? g annotated mayBeStarred) := by
  unfold hint?
  refine .ite (.ifColon (.ite ?_ ?_) (.pure _)) (.pure _)
  · exact .bind (starredOr_solid hg hg.expression) fun _ => .pure _
  · exact .bind hg.expression fun _ => .pure _

theorem paramItem_solid (hg : g.IsSolid) (annotated : Bool) : Solid (paramItem g annotated) := by
  have hhint := hint?_leads hg annotated
  unfold paramItem
  refine .ifSign (by decide) (.pure _) (.ifSign (by decide) ?_ (.ifSign (by decide) ?_ ?_))
  · exact .bind identifier_solid.keeps fun _ => .bind (hhint false) fun _ => .pure _
  · refine .bind (.atSign ",") fun _ => .ite (.pure _) ?_
    exact .bind identifier_solid.keeps fun _ => .bind (hhint true) fun _ => .pure _
  · refine .bind identifier_solid fun _ => .bind (hhint false) fun _ => ?_
    refine .bind (.ifSign (by decide) ?_ (.pure _)) fun _ => .pure _
    exact .bind hg.expression.keeps fun _ => .pure _

theorem parameters_leads (hg : g.IsSolid) (annotated : Bool) (closer : String) :
    Leads false false (parameters g annotated closer) := by
  unfold parameters
  refine .bind (.atSign closer) fun _ => .ite (.pure _) ?_
  refine .bind (Leads.commas (paramItem_solid hg annotated)).keeps fun found => ?_
  split
  split
  · exact .pure _
  · exact .refuse

/-- The value of a lambda stands behind its colon. -/
theorem expressionRule_solid (hg : g.IsSolid) : Solid (expressionRule g) := by
  have hdisjunction := disjunction_solid hg
  unfold expressionRule
  refine .ifWord ?_ ?_
  · refine .bind (parameters_leads hg false ":") fun ps => .bind colon_leads fun _ => ?_
    exact .bind hg.expression fun _ => .pure _
  · refine .bind hdisjunction fun body => .ifWord ?_ (.pure _)
    refine .bind hdisjunction.keeps fun test => .bind (word_solid "else").keeps fun _ => ?_
    exact .bind hg.expression.keeps fun _ => .pure _

/-- **No expression ends in a colon.** -/
theorem grammar_solid (n : Nat) : (grammar n).IsSolid := by
  induction n with
  | zero => exact ⟨.refuse, .refuse⟩
  | succ n ih => exact ⟨expressionRule_solid ih, factorRule_solid ih⟩

/-! ## §11. Simple statements. -/

theorem valueOf_solid (hg : g.IsSolid) : Solid (valueOf g) := by
  unfold valueOf
  exact .ifWord (yielded_leads hg) (starExpressions_solid hg)

/-- The type of an annotation stands behind its colon. -/
theorem assignment_leads (hg : g.IsSolid) : Leads false false (assignment g) := by
  have hvalue := (valueOf_solid hg).keeps
  unfold assignment
  refine .bind (.atSign "(") fun _ => .bind hvalue fun first => .ifColon ?_ ?_
  · refine .bind (.ensure _) fun _ => .bind hg.expression fun hint => ?_
    exact .bind (.ifSign (by decide) (.bind hvalue fun _ => .pure _) (.pure _)) fun _ => .pure _
  · refine signIn?_bind (by decide) (fun op => ?_) ?_
    · exact .bind (.ensure _) fun _ => .bind hvalue fun _ => .pure _
    · refine .bind (.many (.ifSign (by decide) (.bind hvalue fun _ => .pure _) (.pure _)))
        fun more => ?_
      split
      · exact .pure _
      · exact .bind (.ensure _) fun _ => .pure _

theorem names_leads : Leads false false names := by
  unfold names
  refine .bind identifier_solid.keeps fun first => .bind (.many ?_) fun rest => .pure _
  exact .ifSign (by decide) (.bind identifier_solid.keeps fun _ => .pure _) (.pure _)

theorem dottedName_solid : Solid dottedName := by
  unfold dottedName
  refine .bind identifier_solid fun first => .bind (.many ?_) fun rest => .pure _
  exact .ifSign (by decide) (.bind identifier_solid.keeps fun _ => .pure _) (.pure _)

theorem importName_solid {what : Reader String} (h : Solid what) : Solid (importName what) := by
  unfold importName
  exact .bind h fun _ => .ifWord (.bind identifier_solid.keeps fun _ => .pure _) (.pure _)

theorem importMembers_leads : Leads false false importMembers := by
  have hnames := (Leads.commas (importName_solid identifier_solid)).keeps
  unfold importMembers
  refine .ifSign (by decide) (.pure _)
    (.ifSign (by decide) (.bind hnames fun found => ?_) (.bind hnames fun found => ?_))
  · exact .bind (sign_solid (by decide)).keeps fun _ => .pure _
  · exact .bind (.ensure _) fun _ => .pure _

theorem importLevel_leads : Leads false false importLevel := by
  unfold importLevel
  refine .bind (.many ?_) fun _ => .pure _
  exact .ifSign (by decide) (.pure _) (.ifSign (by decide) (.pure _) (.pure _))

theorem atStatementEnd_leads : Leads b b atStatementEnd := by
  unfold atStatementEnd
  exact .bind .atEnd fun _ => .bind (.atSign ";") fun _ => .pure _

theorem simpleStatement_leads (hg : g.IsSolid) : Leads false false (simpleStatement g) := by
  have hexpression := hg.expression.keeps
  unfold simpleStatement
  refine .peek fun x => ?_
  split
  · -- the line of a `pass` is looked at before it is taken
    intro ts a rest hx hts hr
    obtain ⟨t, ht, hlexeme⟩ := Option.map_eq_some_iff.1 hx
    obtain ⟨us, rfl⟩ := List.head?_eq_some_iff.1 ht
    obtain ⟨-, rfl⟩ := Prod.mk.inj (Option.some.inj hr)
    exact Or.inr (hts.cons.tail (by rw [hlexeme]; exact Lexeme.noConfusion))
  · exact .skip (fun heq => nomatch heq) (.pure _)
  · exact .skip (fun heq => nomatch heq) (.pure _)
  · refine .skip (fun heq => nomatch heq) (.bind atStatementEnd_leads fun _ => .ite (.pure _) ?_)
    exact .bind (starExpressions_solid hg).keeps fun _ => .pure _
  · refine .skip (fun heq => nomatch heq) (.bind atStatementEnd_leads fun _ => .ite (.pure _) ?_)
    refine .bind hexpression fun e => .ifWord ?_ (.pure _)
    exact .bind hexpression fun _ => .pure _
  · exact .skip (fun heq => nomatch heq) (.bind names_leads fun _ => .pure _)
  · exact .skip (fun heq => nomatch heq) (.bind names_leads fun _ => .pure _)
  · refine .skip (fun heq => nomatch heq) (.bind ?_ fun found => .bind (.ensure _) fun _ => .pure _)
    exact (Leads.commas (primary_solid hg)).keeps
  · refine .skip (fun heq => nomatch heq) (.bind hexpression fun test =>
      .ifSign (by decide) ?_ (.pure _))
    exact .bind hexpression fun _ => .pure _
  · refine .skip (fun heq => nomatch heq) (.bind ?_ fun found => .bind (.ensure _) fun _ => .pure _)
    exact (Leads.commas (importName_solid dottedName_solid)).keeps
  · refine .skip (fun heq => nomatch heq) (.bind importLevel_leads fun level => .bind ?_ fun module =>
      .bind (word_solid "import").keeps fun _ => .bind importMembers_leads fun _ => .pure _)
    refine .bind (.atWord "import") fun _ => .ite (.pure _) ?_
    exact .bind dottedName_solid.keeps fun _ => .pure _
  · exact (assignment_leads hg).on _

/-- **No simple statements end in a colon.** -/
theorem not_endsInColon_of_simpleStatements (hg : g.IsSolid) {ts rest : List Tok} {ss : List Stmt}
    (h : simpleStatements g ts = some (ss, rest)) : ¬EndsInColon ts := by
  intro hts
  unfold simpleStatements at h
  obtain ⟨first, ts₁, hfirst, h⟩ := of_bind h
  obtain ⟨more, ts₂, hmore, h⟩ := of_bind h
  obtain ⟨p, ts₃, hend, h⟩ := of_bind h
  obtain ⟨_, ts₄, hensure, h⟩ := of_bind h
  obtain ⟨rfl, rfl⟩ := Prod.mk.inj (Option.some.inj hend)
  obtain rfl := List.isEmpty_iff.1 (ensure_eq_some hensure).1
  -- nothing is left of the line, so the colon has been taken
  have hstatement := simpleStatement_leads hg
  have hfurther : Leads false false (many do
      if ← acceptSign ";" then
        if ← atEnd then return none else return some (← simpleStatement g)
      else return none) := by
    refine .many (.ifSign (by decide) ?_ (.pure _))
    exact .bind .atEnd fun _ => .ite (.pure _) (.bind hstatement fun _ => .pure _)
  have hfirst := hstatement _ ts first ts₁ rfl (Or.inr hts) hfirst
  rcases hfurther _ ts₁ more [] rfl hfirst hmore with ⟨hfalse, -⟩ | hnil
  · cases hfalse
  · exact EndsInColon.not_nil hnil

end Rules

/-! ## §12. Lines and forests. -/

/-- Where no header is, nothing is taken. -/
theorem rest_of_head?_none {g : Grammar} {inMatch hasSuite : Bool} {ts rest : List Tok}
    (h : head? g inMatch hasSuite ts = some (none, rest)) : rest = ts := by
  by_cases hword : ∃ t us w, ts = t :: us ∧ t.lexeme = .word w
  · obtain ⟨t, us, w, rfl, ht⟩ := hword
    rcases head?_cases ht h with ⟨head, hsome, -⟩ | ⟨-, hrest, -⟩
    · cases hsome
    · exact hrest
  · unfold head? at h
    obtain ⟨x, us, hx, hread⟩ := of_bind h
    obtain ⟨hnext, rfl⟩ := Prod.mk.inj (Option.some.inj hx)
    split at hread
    · rename_i w
      obtain ⟨t, ht, hlexeme⟩ := Option.map_eq_some_iff.1 hnext
      obtain ⟨us, rfl⟩ := List.head?_eq_some_iff.1 ht
      exact absurd ⟨t, us, w, rfl, hlexeme⟩ hword
    · obtain ⟨_, vs, hensure, hrest⟩ := of_bind hread
      obtain ⟨-, rfl⟩ := ensure_eq_some hensure
      exact (Prod.mk.inj (Option.some.inj hrest)).2.symm

/-- Of the lines that end in a colon only headers with a suite below them are read. -/
theorem opening_of_lineText {depth : Nat} {inMatch hasSuite : Bool} {ts rest : List Tok}
    {text : LineText} (h : lineText (grammar depth) inMatch hasSuite ts = some (text, rest))
    (hw : weightOf ts + 2 ≤ depth) (hts : EndsInColon ts) : ∃ head, text = .opening head := by
  have hg := grammar_solid depth
  unfold lineText at h
  obtain ⟨head, ts₁, hhead, hread⟩ := of_bind h
  cases head with
  | some head =>
    obtain ⟨m, rfl⟩ := head?_drop hhead hw
    obtain ⟨_, ts₂, hsign, hread⟩ := of_bind hread
    obtain ⟨t, ht, -⟩ := sign_eq_some hsign
    obtain ⟨p, ts₃, hend, hread⟩ := of_bind hread
    obtain ⟨rfl, rfl⟩ := Prod.mk.inj (Option.some.inj hend)
    split at hread
    · obtain rfl := (Prod.mk.inj (Option.some.inj hread)).1
      exact ⟨head, rfl⟩
    · -- statements behind the header on its line would end in the colon
      rename_i hmore
      obtain ⟨ss, ts₄, hss, -⟩ := of_bind hread
      have hrest : ts₂ = ts.drop (m + 1) := by
        rw [← List.drop_drop, ht]
        rfl
      have hcolon : EndsInColon ts₂ := by
        rw [hrest] at hmore ⊢
        exact (hts.drop_or (m + 1)).resolve_left fun hnil => hmore (List.isEmpty_iff.2 hnil)
      exact absurd hcolon (not_endsInColon_of_simpleStatements hg hss)
  | none =>
    obtain rfl := rest_of_head?_none hhead
    dsimp only at hread
    -- a decorator, or simple statements
    rcases acceptSign_cases "@" ts₁ with ⟨t, us, rfl, hat, haccept⟩ | haccept
    · rw [bind_apply _ haccept, if_pos rfl] at hread
      obtain ⟨e, us₁, he, hread⟩ := of_bind hread
      obtain ⟨p, us₂, hend, hread⟩ := of_bind hread
      obtain ⟨_, us₃, hensure, -⟩ := of_bind hread
      obtain ⟨rfl, rfl⟩ := Prod.mk.inj (Option.some.inj hend)
      obtain rfl := List.isEmpty_iff.1 (ensure_eq_some hensure).1
      have hus : EndsInColon us := hts.tail (by rw [hat]; decide)
      rcases (namedExpression_solid hg).keeps _ us e [] rfl (Or.inr hus) he with ⟨hfalse, -⟩ | hnil
      · cases hfalse
      · exact absurd hnil EndsInColon.not_nil
    · rw [bind_apply _ haccept, if_neg Bool.false_ne_true] at hread
      obtain ⟨ss, us, hss, -⟩ := of_bind hread
      exact absurd hts (not_endsInColon_of_simpleStatements hg hss)

/-- A header without a suite below it is refused. -/
theorem item?_bare (head : Head) : item? (.opening head) [] = none := by
  cases head <;> rfl

section Forests

variable {depth : Nat}

theorem written_ne_nil (l : Line) : l.written ≠ [] := by
  cases l with
  | mk toks suite =>
    rw [Line.written]
    exact List.cons_ne_nil _ _

mutual

/-- The last line of those that are read does not end in a colon: no suite stands below it. -/
theorem not_endsInColon_of_readItem? : ∀ (l : Line) {inMatch : Bool} {i : Item},
    (∀ ts ∈ l.written, weightOf ts + 2 ≤ depth) → readItem? (grammar depth) inMatch l = some i →
    ∀ ts ∈ l.written.getLast?, ¬EndsInColon ts
  | .mk toks suite, inMatch, i, hw, h => by
    rw [readItem?] at h
    rw [Line.written] at hw ⊢
    obtain ⟨htoks, hsuite⟩ := List.forall_mem_cons.1 hw
    obtain ⟨⟨text, rest⟩, htext, h⟩ := Option.bind_eq_some_iff.1 h
    obtain ⟨items, hitems, h⟩ := Option.bind_eq_some_iff.1 h
    intro ts hts hcolon
    cases suite with
    | nil =>
      rw [writtenIn, List.getLast?_singleton] at hts
      obtain rfl := Option.some.inj hts
      obtain ⟨head, rfl⟩ := opening_of_lineText htext htoks hcolon
      rw [readItems?] at hitems
      obtain rfl := Option.some.inj hitems
      rw [item?_bare] at h
      cases h
    | cons l ls =>
      have hne : writtenIn (l :: ls) ≠ [] := by
        rw [writtenIn]
        exact List.append_ne_nil_of_left_ne_nil (written_ne_nil l) _
      rw [List.getLast?_cons_of_ne_nil hne] at hts
      exact not_endsInColon_of_readItems? (l :: ls) hsuite hitems ts hts hcolon

/-- The same of several lines. -/
theorem not_endsInColon_of_readItems? : ∀ (ls : List Line) {inMatch : Bool} {items : List Item},
    (∀ ts ∈ writtenIn ls, weightOf ts + 2 ≤ depth) →
    readItems? (grammar depth) inMatch ls = some items →
    ∀ ts ∈ (writtenIn ls).getLast?, ¬EndsInColon ts
  | [], inMatch, items, hw, h => by
    rw [writtenIn]
    exact fun ts hts => absurd hts (Option.not_mem_none _)
  | l :: ls, inMatch, items, hw, h => by
    rw [readItems?] at h
    rw [writtenIn] at hw ⊢
    obtain ⟨hl, hls⟩ := List.forall_mem_append.1 hw
    obtain ⟨i, hi, h⟩ := Option.bind_eq_some_iff.1 h
    obtain ⟨more, hmore, h⟩ := Option.bind_eq_some_iff.1 h
    intro ts hts
    rw [List.getLast?_append] at hts
    cases hlast : (writtenIn ls).getLast? with
    | none =>
      rw [hlast] at hts
      exact not_endsInColon_of_readItem? l hl hi ts hts
    | some us =>
      rw [hlast] at hts
      obtain rfl := Option.some.inj hts
      exact not_endsInColon_of_readItems? ls hls hmore us hlast

end

end Forests

/-- **The last logical line of complete code does not end in a colon.** -/
theorem not_endsInColon_of_parseStatements? {code : String} {ls : List LogicalLine}
    {ss : List Stmt} (hlines : logicalLines? code = some ls)
    (hparse : parseStatements? code = some ss) : ∀ l ∈ ls.getLast?, ¬EndsInColon l.toks := by
  obtain ⟨forest, hforest, hparse⟩ := Option.bind_eq_some_iff.1 hparse
  obtain ⟨items, hitems, -⟩ := Option.bind_eq_some_iff.1 hparse
  obtain ⟨ls', hls', hsuite⟩ := readSuite?_of_layout? hforest
  obtain rfl := Option.some.inj (hls'.symm.trans hlines)
  have hwritten := written_of_readSuite? hsuite
  rw [List.map_nil, List.append_nil] at hwritten
  -- the grammar for the code is deep enough for each of its lines
  have hw : ∀ ts ∈ writtenIn forest, weightOf ts + 2 ≤ code.length + 2 := by
    intro ts hts
    rw [← hwritten] at hts
    obtain ⟨l, hl, rfl⟩ := List.mem_map.1 hts
    have hweight := weightOf_le_of_logicalLines? hlines l hl
    omega
  intro l hl
  refine not_endsInColon_of_readItems? forest hw hitems l.toks ?_
  rw [← hwritten, List.getLast?_map, hl]
  rfl

end Inlay.Code
