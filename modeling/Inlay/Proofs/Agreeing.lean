/-
  Inlay.Proofs.Agreeing
  ────────────────────────────────
  **READING DOES NOT DEPEND ON PLACES, NOR ON FUEL.**

  The readers of expressions look at lexemes only, and the grammars that
  they come back to are cut off at some depth.  Two grammars that are cut
  off deep enough read lines with the same lexemes in the same way:

      weightOf ts  — how deep the lexemes of a line can nest
      Agrees k     — two readers find the same, and take equally many
                     lexemes, on lines up to a weight
      grammar_agrees — the grammars agree up to their depth

  An opening bracket weighs two, for the expression inside and its factor,
  and the closing one nothing; a text constant weighs as much as the code
  that its holes may hold.
-/
import Inlay.Proofs.Holes
import Inlay.Proofs.Lexing
import Inlay.Proofs.Reading

namespace Inlay.Code

open Reader

/-! ## §1. Weights. -/

theorem weightOf_drop_le (n : Nat) (ts : List Tok) : weightOf (ts.drop n) ≤ weightOf ts := by
  induction n generalizing ts with
  | zero => exact Nat.le_refl _
  | succ n ih =>
    cases ts with
    | nil => exact Nat.le_refl _
    | cons t ts =>
      have hrest := ih ts
      rw [List.drop_succ_cons, weightOf_cons]
      omega

/-- Lexemes weigh the same wherever they stand. -/
theorem weightOf_eq {ts ts' : List Tok} (h : ts.map Tok.lexeme = ts'.map Tok.lexeme) :
    weightOf ts = weightOf ts' := by
  have hweights (us : List Tok) : weightOf us = ((us.map Tok.lexeme).map Lexeme.weight).sum := by
    rw [List.map_map]
    rfl
  rw [hweights, hweights, h]

/-! ## §2. Readers that agree. -/

section Agreement

variable {α β : Type} {k j : Nat} {r r' : Reader α}

/-- Do two readers do the same on lines with the same lexemes, of which the first is given: refuse
both, or find the same and take equally many lexemes?  The lines weigh at most so much. -/
def AgreesOn (x : Option Lexeme) (k : Nat) (r r' : Reader α) : Prop :=
  ∀ ts ts', ts.map Tok.lexeme = ts'.map Tok.lexeme → ts.head?.map Tok.lexeme = x →
    weightOf ts ≤ k →
    (r ts = none ∧ r' ts' = none)
      ∨ ∃ a n, r ts = some (a, ts.drop n) ∧ r' ts' = some (a, ts'.drop n)

/-- Do two readers do the same on all lines up to a weight that have the same lexemes? -/
def Agrees (k : Nat) (r r' : Reader α) : Prop := ∀ x, AgreesOn x k r r'

theorem Agrees.on (h : Agrees k r r') (x : Option Lexeme) : AgreesOn x k r r' := h x

theorem Agrees.mono (h : Agrees k r r') (hle : j ≤ k) : Agrees j r r' :=
  fun x ts ts' hsame hx hw => h x ts ts' hsame hx (Nat.le_trans hw hle)

/-- Looking at the next lexeme, what is done next may rely on it. -/
theorem AgreesOn.peek {x : Option Lexeme} {f f' : Option Lexeme → Reader α}
    (h : AgreesOn x k (f x) (f' x)) : AgreesOn x k (peek? >>= f) (peek? >>= f') := by
  intro ts ts' hsame hx hw
  have hx' : ts'.head?.map Tok.lexeme = x := by
    rw [← List.head?_map, ← hsame, List.head?_map, hx]
  have hrun : (peek? >>= f) ts = f x ts := by
    rw [← hx]
    rfl
  have hrun' : (peek? >>= f') ts' = f' x ts' := by
    rw [← hx']
    rfl
  rw [hrun, hrun']
  exact h ts ts' hsame hx hw

namespace Agrees

theorem pure (a : α) : Agrees k (Pure.pure a) (Pure.pure a) :=
  fun _ _ _ _ _ _ => Or.inr ⟨a, 0, rfl, rfl⟩

theorem refuse : Agrees k (refuse : Reader α) Reader.refuse :=
  fun _ _ _ _ _ _ => Or.inl ⟨rfl, rfl⟩

theorem ensure (b : Bool) : Agrees k (ensure b) (Reader.ensure b) := by
  cases b with
  | true => exact pure ()
  | false => exact refuse

theorem skip : Agrees k skip Reader.skip := by
  intro x ts ts' _ _ _
  refine Or.inr ⟨(), 1, ?_, ?_⟩
  · rw [List.drop_one]
    rfl
  · rw [List.drop_one]
    rfl

theorem ite {c : Prop} [Decidable c] {e e' : Reader α} (ht : Agrees k r r') (he : Agrees k e e') :
    Agrees k (if c then r else e) (if c then r' else e') := by
  split
  · exact ht
  · exact he

/-- What comes second may rely on what was found first. -/
theorem bindWhere {P : α → Prop} {f f' : α → Reader β} (h : Agrees k r r')
    (hP : ∀ ts a rest, weightOf ts ≤ k → r ts = some (a, rest) → P a)
    (hf : ∀ a, P a → Agrees k (f a) (f' a)) : Agrees k (r >>= f) (r' >>= f') := by
  intro x ts ts' hsame hx hw
  rcases h x ts ts' hsame hx hw with ⟨hr, hr'⟩ | ⟨a, n, hr, hr'⟩
  · exact Or.inl ⟨bind_none f hr, bind_none f' hr'⟩
  · have hsame' : (ts.drop n).map Tok.lexeme = (ts'.drop n).map Tok.lexeme := by
      rw [List.map_drop, List.map_drop, hsame]
    rw [bind_apply f hr, bind_apply f' hr']
    rcases hf a (hP ts a _ hw hr) _ _ _ hsame' rfl (Nat.le_trans (weightOf_drop_le n ts) hw) with
      hnone | ⟨b, m, hb, hb'⟩
    · exact Or.inl hnone
    · refine Or.inr ⟨b, n + m, ?_, ?_⟩
      · rw [hb, List.drop_drop]
      · rw [hb', List.drop_drop]

theorem bind {f f' : α → Reader β} (h : Agrees k r r') (hf : ∀ a, Agrees k (f a) (f' a)) :
    Agrees k (r >>= f) (r' >>= f') :=
  bindWhere (P := fun _ => True) h (fun _ _ _ _ _ => trivial) fun a _ => hf a

theorem peek {f f' : Option Lexeme → Reader α} (h : ∀ x, AgreesOn x k (f x) (f' x)) :
    Agrees k (peek? >>= f) (peek? >>= f') :=
  fun x => (h x).peek

theorem peekSecond : Agrees k peekSecond? peekSecond? := by
  intro x ts ts' hsame _ _
  refine Or.inr ⟨_, 0, rfl, ?_⟩
  have hsecond : ts.tail.head?.map Tok.lexeme = ts'.tail.head?.map Tok.lexeme := by
    rw [← List.head?_map, ← List.head?_map, List.map_tail, List.map_tail, hsame]
  show some (ts'.tail.head?.map Tok.lexeme, ts') = _
  rw [hsecond]
  rfl

theorem atEnd : Agrees k atEnd Reader.atEnd := by
  intro x ts ts' hsame _ _
  refine Or.inr ⟨ts.isEmpty, 0, rfl, ?_⟩
  have hempty : ts'.isEmpty = ts.isEmpty := by
    rw [← List.isEmpty_map, ← hsame, List.isEmpty_map]
  show some (ts'.isEmpty, ts') = _
  rw [hempty]
  rfl

/-- What depends on the lexemes that are left may depend on how many they are. -/
theorem get {f f' : List Tok → Reader α}
    (h : ∀ us us', us.length = us'.length → Agrees k (f us) (f' us')) :
    Agrees k (get >>= f) (MonadState.get >>= f') := by
  intro x ts ts' hsame hx hw
  have hlength : ts.length = ts'.length := by
    rw [← List.length_map, hsame, List.length_map]
  exact h ts ts' hlength x ts ts' hsame hx hw

end Agrees

/-- A lexeme that is taken is weight that is gone. -/
theorem AgreesOn.skip {x : Lexeme} {f f' : Unit → Reader α}
    (h : x.weight ≤ k → Agrees (k - x.weight) (f ()) (f' ())) :
    AgreesOn (some x) k (Reader.skip >>= f) (Reader.skip >>= f') := by
  intro ts ts' hsame hx hw
  obtain ⟨t, ts, rfl⟩ : ∃ t us, ts = t :: us := by
    cases ts with
    | nil => cases hx
    | cons t us => exact ⟨t, us, rfl⟩
  obtain ⟨t', ts', rfl⟩ : ∃ t us, ts' = t :: us := by
    cases ts' with
    | nil => cases hsame
    | cons t us => exact ⟨t, us, rfl⟩
  obtain rfl : t.lexeme = x := Option.some.inj hx
  rw [weightOf_cons] at hw
  have hsame' := (List.cons.inj hsame).2
  rcases h (by omega) _ ts ts' hsame' rfl (by omega) with hnone | ⟨a, n, ha, ha'⟩
  · exact Or.inl hnone
  · exact Or.inr ⟨a, n + 1, ha, ha'⟩

/-! ## §3. Taking a lexeme or not. -/

theorem acceptWord_next {w : String} {t : Tok} (h : t.lexeme = .word w) (ts : List Tok) :
    acceptWord w (t :: ts) = some (true, ts) := by
  have hat : atWord w (t :: ts) = some (true, t :: ts) := by
    show some (some t.lexeme == some (.word w), t :: ts) = _
    rw [h, beq_self_eq_true]
  unfold acceptWord
  rw [bind_apply _ hat]
  rfl

/-- Does a reader take the given lexeme if it comes next, and tell so? -/
structure Accepts (y : Lexeme) (r : Reader Bool) : Prop where
  next : ∀ t ts, t.lexeme = y → r (t :: ts) = some (true, ts)
  lacks : ∀ ts, Lacks y ts → r ts = some (false, ts)

theorem acceptSign_accepts (s : String) : Accepts (.sign s) (acceptSign s) :=
  ⟨fun _ ts h => acceptSign_next h ts, fun _ h => acceptSign_lacks h⟩

theorem acceptWord_accepts (w : String) : Accepts (.word w) (acceptWord w) :=
  ⟨fun _ ts h => acceptWord_next h ts, fun _ h => acceptWord_lacks h⟩

theorem Accepts.agrees {y : Lexeme} {r : Reader Bool} (hr : Accepts y r) {f f' : Bool → Reader α}
    (ht : y.weight ≤ k → Agrees (k - y.weight) (f true) (f' true))
    (hf : Agrees k (f false) (f' false)) : Agrees k (r >>= f) (r >>= f') := by
  intro x ts ts' hsame hx hw
  by_cases hnext : ts.head?.map Tok.lexeme = some y
  · -- the lexeme is there, on both lines
    obtain ⟨t, ts, rfl⟩ : ∃ t us, ts = t :: us := by
      cases ts with
      | nil => cases hnext
      | cons t us => exact ⟨t, us, rfl⟩
    obtain ⟨t', ts', rfl⟩ : ∃ t us, ts' = t :: us := by
      cases ts' with
      | nil => cases hsame
      | cons t us => exact ⟨t, us, rfl⟩
    have hty : t.lexeme = y := Option.some.inj hnext
    obtain ⟨ht', hsame'⟩ := List.cons.inj hsame
    rw [bind_apply f (hr.next t ts hty), bind_apply f' (hr.next t' ts' (ht'.symm.trans hty))]
    rw [weightOf_cons, hty] at hw
    rcases ht (by omega) _ ts ts' hsame' rfl (by omega) with hnone | ⟨a, n, ha, ha'⟩
    · exact Or.inl hnone
    · exact Or.inr ⟨a, n + 1, ha, ha'⟩
  · have hlacks {us : List Tok} (h : us.head?.map Tok.lexeme ≠ some y) : Lacks y us := by
      intro t ht heq
      refine h ?_
      rw [ht, Option.map_some, heq]
    have hnext' : ts'.head?.map Tok.lexeme ≠ some y := by
      rw [← List.head?_map, ← hsame, List.head?_map]
      exact hnext
    rw [bind_apply f (hr.lacks ts (hlacks hnext)), bind_apply f' (hr.lacks ts' (hlacks hnext'))]
    exact hf x ts ts' hsame hx hw

namespace Agrees

variable {t t' e e' : Reader α} {s w : String}

/-- A sign that is taken if it comes next leaves less weight to what is done behind it. -/
theorem acceptSign
    (ht : (Lexeme.sign s).weight ≤ k → Agrees (k - (Lexeme.sign s).weight) t t')
    (he : Agrees k e e') :
    Agrees k (acceptSign s >>= fun b => if b = true then t else e)
      (Reader.acceptSign s >>= fun b => if b = true then t' else e') :=
  (acceptSign_accepts s).agrees ht he

theorem acceptWord (ht : 1 ≤ k → Agrees (k - 1) t t') (he : Agrees k e e') :
    Agrees k (acceptWord w >>= fun b => if b = true then t else e)
      (Reader.acceptWord w >>= fun b => if b = true then t' else e') :=
  (acceptWord_accepts w).agrees ht he

/-- The same where the weight that is left plays no part. -/
theorem ifSign (ht : Agrees k t t') (he : Agrees k e e') :
    Agrees k (Reader.acceptSign s >>= fun b => if b = true then t else e)
      (Reader.acceptSign s >>= fun b => if b = true then t' else e') :=
  acceptSign (fun _ => ht.mono (Nat.sub_le _ _)) he

theorem ifWord (ht : Agrees k t t') (he : Agrees k e e') :
    Agrees k (Reader.acceptWord w >>= fun b => if b = true then t else e)
      (Reader.acceptWord w >>= fun b => if b = true then t' else e') :=
  acceptWord (fun _ => ht.mono (Nat.sub_le _ _)) he

theorem accepts {y : Lexeme} {r : Reader Bool} (hr : Accepts y r) : Agrees k r r := by
  have h : Agrees k (r >>= Pure.pure) (r >>= Pure.pure) :=
    hr.agrees (fun _ => pure true) (pure false)
  rwa [bind_pure] at h

theorem atSign (s : String) : Agrees k (atSign s) (Reader.atSign s) :=
  peek fun _ => (pure _).on _

theorem atWord (w : String) : Agrees k (atWord w) (Reader.atWord w) :=
  peek fun _ => (pure _).on _

theorem sign (s : String) : Agrees k (sign s) (Reader.sign s) :=
  bind (accepts (acceptSign_accepts s)) fun b => ensure b

theorem word (w : String) : Agrees k (word w) (Reader.word w) :=
  bind (accepts (acceptWord_accepts w)) fun b => ensure b

theorem identifier : Agrees k identifier Reader.identifier := by
  unfold Reader.identifier
  refine peek fun x => ?_
  split
  · exact (bind (ensure _) fun _ => bind skip fun _ => pure _).on _
  · exact refuse.on _

/-! ## §4. Repetition. -/

theorem attempt (h : Agrees k r r') : Agrees k (attempt r) (Reader.attempt r') := by
  intro x ts ts' hsame hx hw
  unfold Reader.attempt
  rcases h x ts ts' hsame hx hw with ⟨hr, hr'⟩ | ⟨a, n, hr, hr'⟩
  · rw [hr, hr']
    exact Or.inr ⟨none, 0, rfl, rfl⟩
  · rw [hr, hr']
    exact Or.inr ⟨some a, n, rfl, rfl⟩

/-- The lexemes that bound a repetition count by number only. -/
theorem manyAlong {r r' : Reader (Option α)} (h : Agrees k r r') :
    ∀ us us' : List Tok, us.length = us'.length →
      Agrees k (manyAlong r us) (Reader.manyAlong r' us') := by
  intro us
  induction us with
  | nil =>
    intro us' hlength
    obtain rfl := List.eq_nil_of_length_eq_zero hlength.symm
    unfold Reader.manyAlong
    refine bind h fun a => ?_
    cases a with
    | none => exact pure []
    | some a => exact refuse
  | cons u us ih =>
    intro us' hlength
    cases us' with
    | nil => cases hlength
    | cons u' us' =>
      unfold Reader.manyAlong
      refine bind h fun a => ?_
      cases a with
      | none => exact pure []
      | some a => exact bind (ih us' (Nat.succ.inj hlength)) fun _ => pure _

theorem many {r r' : Reader (Option α)} (h : Agrees k r r') :
    Agrees k (many r) (Reader.many r') :=
  get fun us us' hlength => manyAlong h us us' hlength

theorem commas (h : Agrees k r r') : Agrees k (commas r) (Reader.commas r') := by
  refine bind h fun first => bind (many ?_) fun rest => bind (accepts (acceptSign_accepts ",")) fun _ => pure _
  refine bind (atSign ",") fun b => ite ?_ (pure none)
  exact attempt (bind skip fun _ => h)

theorem chain {item item' : Reader α} {operator? operator?' : Reader (Option (α → α → α))}
    (h : Agrees k item item') (hop : Agrees k operator? operator?') :
    Agrees k (chain item operator?) (Reader.chain item' operator?') := by
  refine bind h fun first => bind (many ?_) fun rest => pure _
  refine bind hop fun op => ?_
  cases op with
  | none => exact pure none
  | some f => exact bind h fun _ => pure _

end Agrees

end Agreement

/-! ## §5. Operators. -/

section Operators

variable {α β : Type} {k : Nat}

/-- An operator is taken if it comes next; all of them weigh one. -/
theorem signIn?_agrees {operators : List (String × α)} {f f' : Option α → Reader β}
    (hweight : ∀ o ∈ operators, (Lexeme.sign o.1).weight = 1)
    (hsome : ∀ o ∈ operators, 1 ≤ k → Agrees (k - 1) (f (some o.2)) (f' (some o.2)))
    (hnone : Agrees k (f none) (f' none)) :
    Agrees k (signIn? operators >>= f) (signIn? operators >>= f') := by
  unfold signIn?
  rw [bind_assoc, bind_assoc]
  refine .peek fun x => ?_
  split
  · rename_i s
    cases hfind : operators.find? (·.1 == s) with
    | none => exact hnone.on _
    | some o =>
      obtain ⟨name, a⟩ := o
      have hmem := List.mem_of_find?_eq_some hfind
      obtain rfl : name = s := by simpa using List.find?_some hfind
      have hone := hweight _ hmem
      have hskip : AgreesOn (some (.sign name)) k (Reader.skip >>= fun _ => f (some a))
          (Reader.skip >>= fun _ => f' (some a)) := by
        refine .skip fun hle => ?_
        rw [hone] at hle ⊢
        exact hsome _ hmem hle
      exact hskip
  · exact hnone.on _

theorem signIn?_same (operators : List (String × α)) :
    Agrees k (signIn? operators) (signIn? operators) := by
  unfold signIn?
  refine .peek fun x => ?_
  split
  · cases operators.find? _ with
    | none => exact (Agrees.pure none).on _
    | some o => exact (Agrees.bind .skip fun _ => .pure _).on _
  · exact (Agrees.pure none).on _

theorem compareOp?_same : Agrees k compareOp? compareOp? := by
  unfold compareOp?
  refine .bind (signIn?_same _) fun op => ?_
  cases op with
  | some op => exact .pure _
  | none =>
    refine .ifWord (.pure _) (.ifWord (.ifWord (.pure _) (.pure _)) ?_)
    refine .bind (.atWord "not") fun _ => .bind .peekSecond fun _ => .ite ?_ (.pure _)
    exact .bind .skip fun _ => .bind .skip fun _ => .pure _

end Operators

/-! ## §6. Grammars that agree. -/

/-- Do two grammars agree up to a depth?  An expression needs two levels more than its lexemes
weigh, a factor one. -/
structure Grammar.AgreesWith (n : Nat) (g g' : Grammar) : Prop where
  expression : ∀ k, k + 2 ≤ n → Agrees k g.expression g'.expression
  factor : ∀ k, k + 1 ≤ n → Agrees k g.factor g'.factor

section Rules

variable {n k : Nat} {g g' : Grammar} {p p' : Reader Expr}

theorem binaryChain_agrees (hg : g.AgreesWith n g') (hk : k + 1 ≤ n) :
    ∀ levels, Agrees k (binaryChain g levels) (binaryChain g' levels) := by
  intro levels
  induction levels with
  | nil => exact hg.factor k hk
  | cons level higher ih =>
    unfold binaryChain
    exact .chain ih (.bind (signIn?_same level) fun _ => .pure _)

theorem operand_agrees (hg : g.AgreesWith n g') (hk : k + 1 ≤ n) :
    Agrees k (operand g) (operand g') :=
  binaryChain_agrees hg hk binaryLevels

theorem comparison_agrees (hg : g.AgreesWith n g') (hk : k + 1 ≤ n) :
    Agrees k (comparison g) (comparison g') := by
  unfold comparison
  refine .bind (operand_agrees hg hk) fun first => .bind (.many ?_) fun links => .pure _
  refine .bind compareOp?_same fun op => ?_
  cases op with
  | none => exact .pure none
  | some op => exact .bind (operand_agrees hg hk) fun _ => .pure _

theorem booleanChain_agrees {item item' : Reader Expr} (op : BoolOp) (w : String)
    (h : Agrees k item item') : Agrees k (booleanChain op w item) (booleanChain op w item') := by
  unfold booleanChain
  refine .bind h fun first => .bind (.many ?_) fun rest => .pure _
  exact .ifWord (.bind h fun _ => .pure _) (.pure _)

theorem inversion_agrees (hg : g.AgreesWith n g') (hk : k + 1 ≤ n) :
    Agrees k (inversion g) (inversion g') := by
  unfold inversion
  refine .bind (.many ?_) fun nots => .bind (comparison_agrees hg hk) fun _ => .pure _
  exact .ifWord (.pure _) (.pure _)

theorem disjunction_agrees (hg : g.AgreesWith n g') (hk : k + 1 ≤ n) :
    Agrees k (disjunction g) (disjunction g') :=
  booleanChain_agrees .or "or" (booleanChain_agrees .and "and" (inversion_agrees hg hk))

/-! ## §7. Lists of expressions, comprehensions and displays. -/

theorem namedExpression_agrees (hg : g.AgreesWith n g') (hk : k + 2 ≤ n) :
    Agrees k (namedExpression g) (namedExpression g') := by
  have hexpression := hg.expression k hk
  unfold namedExpression
  refine .bind .peekSecond fun _ => .ite ?_ hexpression
  exact .bind .identifier fun _ => .bind .skip fun _ => .bind hexpression fun _ => .pure _

theorem starredOr_agrees (hg : g.AgreesWith n g') (hk : k + 1 ≤ n) (h : Agrees k p p') :
    Agrees k (starredOr g p) (starredOr g' p') := by
  unfold starredOr
  exact .ifSign (.bind (operand_agrees hg hk) fun _ => .pure _) h

theorem starExpressions_agrees (hg : g.AgreesWith n g') (hk : k + 2 ≤ n) :
    Agrees k (starExpressions g) (starExpressions g') := by
  unfold starExpressions
  exact .bind (.commas (starredOr_agrees hg (by omega) (hg.expression k hk))) fun _ => .pure _

theorem yielded_agrees (hg : g.AgreesWith n g') (hk : k + 2 ≤ n) :
    Agrees k (yielded g) (yielded g') := by
  unfold yielded
  refine .ifWord (.bind (hg.expression k hk) fun _ => .pure _) ?_
  exact .bind (.attempt (starExpressions_agrees hg hk)) fun _ => .pure _

theorem loopTarget_agrees (hp : Agrees k p p') : Agrees k (loopTarget p) (loopTarget p') := by
  unfold loopTarget
  refine .bind (.commas (.ifSign (.bind hp fun _ => .pure _) hp)) fun es => ?_
  exact .bind (.ensure _) fun _ => .pure _

theorem compClauses_agrees (hg : g.AgreesWith n g') (hk : k + 1 ≤ n) (hp : Agrees k p p') :
    Agrees k (compClauses g p) (compClauses g' p') := by
  have hdisjunction := disjunction_agrees hg hk
  refine .many ?_
  unfold compClause?
  refine .bind (.accepts (acceptWord_accepts "async")) fun isAsync => .ifWord ?_ ?_
  · refine .bind (loopTarget_agrees hp) fun target => .bind (.word "in") fun _ => ?_
    refine .bind hdisjunction fun iter => .bind (.many ?_) fun conditions => .pure _
    exact .ifWord (.bind hdisjunction fun _ => .pure _) (.pure _)
  · exact .bind (.ensure _) fun _ => .pure _

theorem groupTail_agrees (hg : g.AgreesWith n g') (hk : k + 2 ≤ n) (hp : Agrees k p p') :
    Agrees k (groupTail g p) (groupTail g' p') := by
  have hitem := starredOr_agrees hg (by omega) (namedExpression_agrees hg hk)
  unfold groupTail
  refine .ifSign (.pure _) (.ifWord ?_ (.bind (.commas hitem) fun found => ?_))
  · exact .bind (yielded_agrees hg hk) fun _ => .bind (.sign ")") fun _ => .pure _
  · obtain ⟨es, comma⟩ := found
    dsimp only
    split
    · refine .bind (.ensure _) fun _ => .bind (compClauses_agrees hg (by omega) hp) fun clauses => ?_
      split
      · exact .bind (.sign ")") fun _ => .pure _
      · exact .bind (.sign ")") fun _ => .pure _
    · exact .bind (.sign ")") fun _ => .pure _

theorem listTail_agrees (hg : g.AgreesWith n g') (hk : k + 2 ≤ n) (hp : Agrees k p p') :
    Agrees k (listTail g p) (listTail g' p') := by
  have hitem := starredOr_agrees hg (by omega) (namedExpression_agrees hg hk)
  unfold listTail
  refine .ifSign (.pure _) (.bind (.commas hitem) fun found => ?_)
  obtain ⟨es, comma⟩ := found
  dsimp only
  split
  · refine .bind (compClauses_agrees hg (by omega) hp) fun clauses => ?_
    split
    · exact .bind (.sign "]") fun _ => .pure _
    · exact .bind (.ensure _) fun _ => .bind (.sign "]") fun _ => .pure _
  · exact .bind (.sign "]") fun _ => .pure _

theorem bracesItem_agrees (hg : g.AgreesWith n g') (hk : k + 2 ≤ n) :
    Agrees k (bracesItem g) (bracesItem g') := by
  have hoperand := operand_agrees hg (show k + 1 ≤ n by omega)
  have hexpression := hg.expression k hk
  unfold bracesItem
  refine .ifSign (.bind hoperand fun _ => .pure _) (.ifSign (.bind hoperand fun _ => .pure _) ?_)
  refine .bind .peekSecond fun _ => .ite ?_ ?_
  · exact .bind (namedExpression_agrees hg hk) fun _ => .pure _
  · exact .bind hexpression fun _ => .ifSign (.bind hexpression fun _ => .pure _) (.pure _)

theorem bracesTail_agrees (hg : g.AgreesWith n g') (hk : k + 2 ≤ n) (hp : Agrees k p p') :
    Agrees k (bracesTail g p) (bracesTail g' p') := by
  have hclauses := compClauses_agrees hg (show k + 1 ≤ n by omega) hp
  unfold bracesTail
  refine .ifSign (.pure _) (.bind (.commas (bracesItem_agrees hg hk)) fun found => ?_)
  obtain ⟨items, comma⟩ := found
  dsimp only
  split
  · refine .bind hclauses fun clauses => ?_
    split
    · exact .bind (.sign _) fun _ => .pure _
    · exact .bind (.sign _) fun _ => .pure _
  · refine .bind hclauses fun clauses => ?_
    split
    · exact .bind (.sign _) fun _ => .pure _
    · exact .bind (.ensure _) fun _ => .bind (.sign _) fun _ => .pure _
  · refine .bind (.sign _) fun _ => .ite (.pure _) ?_
    exact .bind (.ensure _) fun _ => .pure _

/-! ## §8. Arguments and subscripts. -/

theorem argument_agrees (hg : g.AgreesWith n g') (hk : k + 2 ≤ n) (hp : Agrees k p p') :
    Agrees k (argument g p) (argument g' p') := by
  have hexpression := hg.expression k hk
  unfold argument
  refine .ifSign (.bind hexpression fun _ => .pure _)
    (.ifSign (.bind hexpression fun _ => .pure _) ?_)
  refine .bind .peekSecond fun _ => .ite ?_ ?_
  · exact .bind .identifier fun _ => .bind .skip fun _ => .bind hexpression fun _ => .pure _
  · refine .bind (namedExpression_agrees hg hk) fun e => ?_
    refine .bind (compClauses_agrees hg (by omega) hp) fun clauses => ?_
    split
    · exact .pure _
    · exact .pure _

theorem argumentsTail_agrees (hg : g.AgreesWith n g') (hk : k + 2 ≤ n) (hp : Agrees k p p')
    (mayBeBare : Bool) :
    Agrees k (argumentsTail g p mayBeBare) (argumentsTail g' p' mayBeBare) := by
  unfold argumentsTail
  refine .ifSign (.pure _) (.bind (.commas (argument_agrees hg hk hp)) fun found => ?_)
  obtain ⟨arguments, comma⟩ := found
  refine .bind (.sign ")") fun _ => ?_
  split
  · exact .bind (.ensure _) fun _ => .pure _
  · split
    · exact .pure _
    · exact .refuse

theorem sliceBound_agrees (hg : g.AgreesWith n g') (hk : k + 2 ≤ n) :
    Agrees k (sliceBound g) (sliceBound g') := by
  unfold sliceBound
  refine .bind (.atSign ":") fun _ => .bind (.atSign ",") fun _ => .bind (.atSign "]") fun _ => ?_
  exact .ite (.pure _) (.bind (hg.expression k hk) fun _ => .pure _)

theorem sliceTail_agrees (hg : g.AgreesWith n g') (hk : k + 2 ≤ n) (lower : Option Expr) :
    Agrees k (sliceTail g lower) (sliceTail g' lower) := by
  have hbound := sliceBound_agrees hg hk
  unfold sliceTail
  exact .bind hbound fun upper => .bind (.ifSign hbound (.pure _)) fun _ => .pure _

theorem indexItem_agrees (hg : g.AgreesWith n g') (hk : k + 2 ≤ n) :
    Agrees k (indexItem g) (indexItem g') := by
  unfold indexItem
  refine .ifSign (.bind (hg.expression k hk) fun _ => .pure _)
    (.ifSign (sliceTail_agrees hg hk none) ?_)
  refine .bind .peekSecond fun second => .bind (namedExpression_agrees hg hk) fun e => ?_
  exact .bind (.accepts (acceptSign_accepts ":")) fun _ => .ite (sliceTail_agrees hg hk _) (.pure _)

theorem subscriptTail_agrees (hg : g.AgreesWith n g') (hk : k + 2 ≤ n) :
    Agrees k (subscriptTail g) (subscriptTail g') := by
  unfold subscriptTail
  refine .bind (.commas (indexItem_agrees hg hk)) fun found => ?_
  obtain ⟨es, comma⟩ := found
  refine .bind (.sign "]") fun _ => ?_
  split
  · exact .pure _
  · exact .pure _

end Rules

/-! ## §9. Text constants. -/

section Rules

variable {n k : Nat} {g g' : Grammar} {p p' : Reader Expr}

/-- On one and the same line, readers that agree do the same. -/
theorem Agrees.same {α : Type} {r r' : Reader α} (h : Agrees k r r') {ts : List Tok}
    (hw : weightOf ts ≤ k) : r ts = r' ts := by
  rcases h _ ts ts rfl rfl hw with ⟨hr, hr'⟩ | ⟨a, m, hr, hr'⟩
  · rw [hr, hr']
  · rw [hr, hr']

mutual

/-- The code of a hole is code of its own; it nests less deep than the text is long. -/
theorem segmentParts_same (hg : g.AgreesWith n g') (raw : Bool) :
    ∀ segments, (∀ code, HoleOf code segments → code.length + 4 ≤ n) →
      segmentParts g raw segments = segmentParts g' raw segments
  | [], _ => by rw [segmentParts, segmentParts]
  | .literal s :: rest, h => by
    rw [segmentParts, segmentParts, segmentParts_same hg raw rest fun code hcode => h code (.later hcode)]
  | .hole code label conversion format :: rest, h => by
    have hrest := segmentParts_same hg raw rest fun code hcode => h code (.later hcode)
    have hformat := formatSpec_same hg raw format fun segments hsegments code hcode =>
      h code (hsegments ▸ .inFormat hcode)
    rw [segmentParts, segmentParts, hrest, hformat]
    cases hlines : logicalLines? (String.ofList ('(' :: code ++ [')'])) with
    | none => simp only [Option.bind_eq_bind, Option.bind_none]
    | some lines =>
      rcases lines with _ | ⟨line, _ | ⟨_, _⟩⟩
      · simp only [Option.bind_eq_bind, Option.bind_some, Option.bind_none]
      · have hweight := weightOf_le_of_logicalLines? hlines line (List.mem_singleton_self _)
        have hcode := h code (.here ..)
        rw [String.length_ofList, List.length_append, List.length_cons, List.length_singleton]
          at hweight
        have hsame : starExpressions g line.toks = starExpressions g' line.toks :=
          (starExpressions_agrees hg (k := code.length + 2) hcode).same (by omega)
        dsimp only [Option.bind_eq_bind, Option.bind_some]
        rw [hsame]
      · simp only [Option.bind_eq_bind, Option.bind_some, Option.bind_none]

theorem formatSpec_same (hg : g.AgreesWith n g') (raw : Bool) :
    ∀ format, (∀ segments, format = some segments →
        ∀ code, HoleOf code segments → code.length + 4 ≤ n) →
      formatSpec g raw format = formatSpec g' raw format
  | none, _ => by rw [formatSpec, formatSpec]
  | some segments, h => by
    rw [formatSpec, formatSpec, segmentParts_same hg raw segments (h segments rfl)]

end

theorem textParts_same (hg : g.AgreesWith n g') (form : TextForm) {body : List Char}
    (hbody : body.length + 2 ≤ n) : textParts g form body = textParts g' form body := by
  unfold textParts
  cases hsegments : segments? form.raw body with
  | none => rw [Option.bind_none, Option.bind_none]
  | some segments =>
    rw [Option.bind_some, Option.bind_some, segmentParts_same hg form.raw segments]
    intro code hcode
    have hle := hole_le_of_segments? hsegments hcode
    omega

theorem joinTexts_same (hg : g.AgreesWith n g') {texts : List (TextForm × List Char)}
    (htexts : ∀ t ∈ texts, t.2.length + 2 ≤ n) : joinTexts g texts = joinTexts g' texts := by
  have hparts : texts.mapM (fun t => textParts g t.1 t.2)
      = texts.mapM (fun t => textParts g' t.1 t.2) := by
    induction texts with
    | nil => rw [List.mapM_nil, List.mapM_nil]
    | cons t texts ih =>
      rw [List.mapM_cons, List.mapM_cons, ih fun u hu => htexts u (List.mem_cons_of_mem _ hu),
        textParts_same hg t.1 (htexts t List.mem_cons_self)]
  unfold joinTexts
  rw [hparts]

theorem joinTexts_agrees (hg : g.AgreesWith n g') {texts : List (TextForm × List Char)}
    (htexts : ∀ t ∈ texts, t.2.length + 2 ≤ n) :
    Agrees k (joinTexts g texts) (joinTexts g' texts) := by
  rw [joinTexts_same hg htexts]
  unfold joinTexts
  split
  · split
    · exact .pure _
    · exact .refuse
  · refine .ite .refuse ?_
    split
    · exact .refuse
    · refine .ite (.pure _) ?_
      split
      · exact .pure _
      · exact .pure _

/-! ## §10. Atoms and what follows them. -/

theorem nextText?_agrees : Agrees k nextText? nextText? := by
  unfold nextText?
  refine .peek fun x => ?_
  split
  · exact (Agrees.bind .skip fun _ => .pure _).on _
  · exact (Agrees.pure none).on _

theorem nextText?_eq_some {ts rest : List Tok} {text : TextForm × List Char}
    (h : nextText? ts = some (some text, rest)) :
    ∃ t, ts = t :: rest ∧ t.lexeme = .text text.1 text.2 := by
  unfold nextText? at h
  obtain ⟨x, us, hx, h⟩ := Reader.of_bind h
  obtain ⟨hnext, rfl⟩ := Prod.mk.inj (Option.some.inj hx)
  split at h
  · rename_i form body
    obtain ⟨t, ht, hlexeme⟩ := Option.map_eq_some_iff.1 hnext
    obtain ⟨us, rfl⟩ := List.head?_eq_some_iff.1 ht
    obtain ⟨hfound, rfl⟩ := Prod.mk.inj (Option.some.inj h)
    obtain rfl := Option.some.inj hfound
    exact ⟨t, rfl, hlexeme⟩
  · cases (Prod.mk.inj (Option.some.inj h)).1

/-- The text constants that are found weigh no more than the line. -/
theorem weight_of_manyAlong_nextText? (us : List Tok) {ts rest : List Tok}
    {texts : List (TextForm × List Char)}
    (h : manyAlong nextText? us ts = some (texts, rest)) :
    ∀ t ∈ texts, t.2.length + 2 ≤ weightOf ts := by
  induction us generalizing ts rest texts with
  | nil =>
    obtain ⟨found, ts', hfound, h⟩ := Reader.of_bind h
    cases found with
    | none =>
      obtain ⟨rfl, -⟩ := Prod.mk.inj (Option.some.inj h)
      exact fun t ht => absurd ht List.not_mem_nil
    | some text => cases h
  | cons u us ih =>
    obtain ⟨found, ts', hfound, h⟩ := Reader.of_bind h
    cases found with
    | none =>
      obtain ⟨rfl, -⟩ := Prod.mk.inj (Option.some.inj h)
      exact fun t ht => absurd ht List.not_mem_nil
    | some text =>
      obtain ⟨more, ts'', hmore, h⟩ := Reader.of_bind h
      obtain ⟨rfl, -⟩ := Prod.mk.inj (Option.some.inj h)
      obtain ⟨t, rfl, hlexeme⟩ := nextText?_eq_some hfound
      have hweight : t.lexeme.weight = text.2.length + 2 := by
        rw [hlexeme]
        rfl
      rw [weightOf_cons, hweight]
      intro v hv
      rcases List.mem_cons.1 hv with rfl | hv
      · omega
      · have hle := ih hmore v hv
        omega

/-- What is done with the texts that come next may rely on their weight. -/
theorem texts_agree {α : Type} {f f' : List (TextForm × List Char) → Reader α}
    (hf : ∀ texts, (∀ t ∈ texts, t.2.length + 2 ≤ k) → Agrees k (f texts) (f' texts)) :
    Agrees k (many nextText? >>= f) (many nextText? >>= f') := by
  refine .bindWhere (.many nextText?_agrees) (fun ts texts rest hw h t ht => ?_) hf
  exact Nat.le_trans (weight_of_manyAlong_nextText? ts h t ht) hw

theorem atom_agrees (hg : g.AgreesWith n g') (hk : k ≤ n) (hp : Agrees k p p') :
    Agrees k (atom g p) (atom g' p') := by
  unfold atom
  refine .peek fun x => ?_
  split
  · exact (Agrees.bind .skip fun _ => .pure _).on _
  · exact (Agrees.bind .skip fun _ => .pure _).on _
  · exact (Agrees.bind .skip fun _ => .pure _).on _
  · exact (Agrees.bind .identifier fun _ => .pure _).on _
  · exact (Agrees.bind .skip fun _ => .pure _).on _
  · refine (texts_agree fun texts htexts => joinTexts_agrees hg fun t ht => ?_).on _
    have hle := htexts t ht
    omega
  · exact (Agrees.bind .skip fun _ => .pure _).on _
  · refine .skip fun hle => groupTail_agrees hg ?_ (hp.mono (Nat.sub_le _ _))
    have hweight : (Lexeme.sign "(").weight = 2 := rfl
    omega
  · refine .skip fun hle => listTail_agrees hg ?_ (hp.mono (Nat.sub_le _ _))
    have hweight : (Lexeme.sign "[").weight = 2 := rfl
    omega
  · refine .skip fun hle => bracesTail_agrees hg ?_ (hp.mono (Nat.sub_le _ _))
    have hweight : (Lexeme.sign "\x7b").weight = 2 := rfl
    omega
  · exact Agrees.refuse.on _

theorem trailer?_agrees (hg : g.AgreesWith n g') (hk : k ≤ n) (hp : Agrees k p p') :
    Agrees k (trailer? g p) (trailer? g' p') := by
  unfold trailer?
  refine .ifSign (.bind .identifier fun _ => .pure _) (.acceptSign (fun hle => ?_)
    (.acceptSign (fun hle => ?_) (.pure _)))
  · have hweight : (Lexeme.sign "(").weight = 2 := rfl
    refine .bind (argumentsTail_agrees hg (by omega) (hp.mono (Nat.sub_le _ _)) true) fun found => ?_
    exact .pure _
  · have hweight : (Lexeme.sign "[").weight = 2 := rfl
    exact .bind (subscriptTail_agrees hg (by omega)) fun _ => .pure _

theorem primaryAlong_agrees (hg : g.AgreesWith n g') (hk : k ≤ n) :
    ∀ us us' : List Tok, us.length = us'.length →
      Agrees k (primaryAlong g us) (primaryAlong g' us') := by
  intro us
  induction us with
  | nil =>
    intro us' hlength
    obtain rfl := List.eq_nil_of_length_eq_zero hlength.symm
    exact .refuse
  | cons u us ih =>
    intro us' hlength
    cases us' with
    | nil => cases hlength
    | cons u' us' =>
      have hinner := ih us' (Nat.succ.inj hlength)
      unfold primaryAlong
      refine .bind (.accepts (acceptWord_accepts "await")) fun isAwait => ?_
      refine .bind (atom_agrees hg hk hinner) fun first => ?_
      exact .bind (.many (trailer?_agrees hg hk hinner)) fun _ => .pure _

theorem primary_agrees (hg : g.AgreesWith n g') (hk : k ≤ n) :
    Agrees k (primary g) (primary g') :=
  .get fun us us' hlength => primaryAlong_agrees hg hk us us' hlength

theorem factorRule_agrees (hg : g.AgreesWith n g') (hk : k ≤ n) :
    Agrees k (factorRule g) (factorRule g') := by
  unfold factorRule
  refine signIn?_agrees ?_ ?_ ?_
  · decide
  · intro o _ hle
    exact .bind (hg.factor _ (by omega)) fun _ => .pure _
  · refine .bind (primary_agrees hg hk) fun base => .acceptSign (fun hle => ?_) (.pure _)
    have hweight : (Lexeme.sign "**").weight = 1 := rfl
    exact .bind (hg.factor _ (by omega)) fun _ => .pure _

/-! ## §11. Parameters. -/

theorem hint?_agrees (hg : g.AgreesWith n g') (hk : k + 2 ≤ n) (annotated mayBeStarred : Bool) :
    Agrees k (hint? g annotated mayBeStarred) (hint? g' annotated mayBeStarred) := by
  have hexpression := hg.expression k hk
  unfold hint?
  refine .ite (.ifSign (.ite ?_ ?_) (.pure _)) (.pure _)
  · exact .bind (starredOr_agrees hg (by omega) hexpression) fun _ => .pure _
  · exact .bind hexpression fun _ => .pure _

theorem paramItem_agrees (hg : g.AgreesWith n g') (hk : k + 2 ≤ n) (annotated : Bool) :
    Agrees k (paramItem g annotated) (paramItem g' annotated) := by
  unfold paramItem
  refine .ifSign (.pure _) (.ifSign ?_ (.ifSign ?_ ?_))
  · exact .bind .identifier fun _ => .bind (hint?_agrees hg hk _ _) fun _ => .pure _
  · refine .bind (.atSign ",") fun _ => .ite (.pure _) ?_
    exact .bind .identifier fun _ => .bind (hint?_agrees hg hk _ _) fun _ => .pure _
  · refine .bind .identifier fun _ => .bind (hint?_agrees hg hk _ _) fun _ => ?_
    refine .bind (.ifSign ?_ (.pure _)) fun _ => .pure _
    exact .bind (hg.expression k hk) fun _ => .pure _

theorem parameters_agrees (hg : g.AgreesWith n g') (hk : k + 2 ≤ n) (annotated : Bool)
    (closer : String) : Agrees k (parameters g annotated closer) (parameters g' annotated closer) := by
  unfold parameters
  refine .bind (.atSign closer) fun _ => .ite (.pure _) ?_
  refine .bind (.commas (paramItem_agrees hg hk annotated)) fun found => ?_
  split
  split
  · exact .pure _
  · exact .refuse

theorem expressionRule_agrees (hg : g.AgreesWith n g') (hk : k + 1 ≤ n) :
    Agrees k (expressionRule g) (expressionRule g') := by
  unfold expressionRule
  refine .acceptWord (fun hle => ?_) ?_
  · refine .bind (parameters_agrees hg (by omega) false ":") fun ps => .bind (.sign ":") fun _ => ?_
    exact .bind (hg.expression _ (by omega)) fun _ => .pure _
  · refine .bind (disjunction_agrees hg hk) fun body => .acceptWord (fun hle => ?_) (.pure _)
    refine .bind (disjunction_agrees hg (by omega)) fun test => .bind (.word "else") fun _ => ?_
    exact .bind (hg.expression _ (by omega)) fun _ => .pure _

/-! ## §12. The knot. -/

/-- **Grammars agree up to the depth of the one that is cut off first.** -/
theorem grammar_agrees : ∀ n m m', n ≤ m → n ≤ m' → (grammar m).AgreesWith n (grammar m') := by
  intro n
  induction n with
  | zero => exact fun m m' _ _ => ⟨fun k hk => by omega, fun k hk => by omega⟩
  | succ n ih =>
    intro m m' hm hm'
    obtain ⟨m, rfl⟩ := Nat.exists_eq_add_of_le' (Nat.le_trans (Nat.le_add_left 1 n) hm)
    obtain ⟨m', rfl⟩ := Nat.exists_eq_add_of_le' (Nat.le_trans (Nat.le_add_left 1 n) hm')
    have hg := ih m m' (by omega) (by omega)
    exact ⟨fun k hk => expressionRule_agrees hg (by omega),
      fun k hk => factorRule_agrees hg (by omega)⟩

end Rules

end Inlay.Code
