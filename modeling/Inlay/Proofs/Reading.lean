/-
  Inlay.Proofs.Reading
  ────────────────────────────────
  **READING SHORT CODE.**

  The code of most markers is one line of a few lexemes.  Here such lines are
  read, whatever the texts and the numbers of elements in them:

      Lexes     — a line, lexeme by lexeme
      AtStop    — an expression is over where a bracket closes, at a comma, and
                  at the end of the line
      isOperand — an operand in front of a stop is a whole expression
-/
import Inlay.Code.Skeleton

namespace Inlay.Code

open Reader

/-! ## §1. Readers, step by step. -/

namespace Reader

variable {α β : Type} {ts rest : List Tok} {a : α}

theorem bind_apply {r : Reader α} (f : α → Reader β) (h : r ts = some (a, rest)) :
    (r >>= f) ts = f a rest := by
  show (r ts).bind (fun p => f p.1 p.2) = _
  rw [h]
  rfl

theorem bind_none {r : Reader α} (f : α → Reader β) (h : r ts = none) : (r >>= f) ts = none := by
  show (r ts).bind (fun p => f p.1 p.2) = _
  rw [h]
  rfl

/-- What two readers find, one after the other, the first and then the second finds. -/
theorem of_bind {r : Reader α} {f : α → Reader β} {b : β} (h : (r >>= f) ts = some (b, rest)) :
    ∃ a us, r ts = some (a, us) ∧ f a us = some (b, rest) := by
  obtain ⟨⟨a, us⟩, ha, hb⟩ := Option.bind_eq_some_iff.1 h
  exact ⟨a, us, ha, hb⟩

/-- Is the given lexeme not the next one? -/
def Lacks (x : Lexeme) (ts : List Tok) : Prop := ∀ t ∈ ts.head?, t.lexeme ≠ x

theorem Lacks.nil (x : Lexeme) : Lacks x [] := fun _ h => absurd h (Option.not_mem_none _)

theorem Lacks.cons {x : Lexeme} {t : Tok} (h : t.lexeme ≠ x) (ts : List Tok) :
    Lacks x (t :: ts) := by
  intro u hu
  obtain rfl := Option.some.inj hu
  exact h

theorem next_ne {x : Lexeme} (h : Lacks x ts) : (ts.head?.map Tok.lexeme == some x) = false := by
  cases ts with
  | nil => rfl
  | cons t ts =>
    rw [List.head?_cons, Option.map_some]
    exact beq_false_of_ne (fun heq => h t rfl (Option.some.inj heq))

theorem atSign_lacks {s : String} (h : Lacks (.sign s) ts) : atSign s ts = some (false, ts) := by
  show some (ts.head?.map Tok.lexeme == some (.sign s), ts) = _
  rw [next_ne h]

theorem acceptSign_lacks {s : String} (h : Lacks (.sign s) ts) :
    acceptSign s ts = some (false, ts) := by
  unfold acceptSign
  rw [bind_apply _ (atSign_lacks h)]
  rfl

theorem acceptWord_lacks {w : String} (h : Lacks (.word w) ts) :
    acceptWord w ts = some (false, ts) := by
  have hat : atWord w ts = some (false, ts) := by
    show some (ts.head?.map Tok.lexeme == some (.word w), ts) = _
    rw [next_ne h]
  unfold acceptWord
  rw [bind_apply _ hat]
  rfl

theorem acceptSign_next {s : String} {t : Tok} (h : t.lexeme = .sign s) (ts : List Tok) :
    acceptSign s (t :: ts) = some (true, ts) := by
  have hat : atSign s (t :: ts) = some (true, t :: ts) := by
    show some (some t.lexeme == some (.sign s), t :: ts) = _
    rw [h, beq_self_eq_true]
  unfold acceptSign
  rw [bind_apply _ hat]
  rfl

theorem sign_next {s : String} {t : Tok} (h : t.lexeme = .sign s) (ts : List Tok) :
    sign s (t :: ts) = some ((), ts) := by
  unfold sign
  rw [bind_apply _ (acceptSign_next h ts)]
  rfl

theorem signIn?_lacks {operators : List (String × α)}
    (h : ∀ o ∈ operators, Lacks (.sign o.1) ts) : signIn? operators ts = some (none, ts) := by
  cases ts with
  | nil => rfl
  | cons t ts =>
    obtain ⟨x, start, stop⟩ := t
    cases x with
    | sign s =>
      have hfind : operators.find? (·.1 == s) = none := by
        rw [List.find?_eq_none]
        intro o ho heq
        exact h o ho _ rfl (congrArg Lexeme.sign (beq_iff_eq.1 heq).symm)
      have hpeek : peek? (⟨.sign s, start, stop⟩ :: ts) =
          some (some (.sign s), ⟨.sign s, start, stop⟩ :: ts) := rfl
      unfold signIn?
      rw [bind_apply _ hpeek]
      dsimp only
      rw [hfind]
      rfl
    | word w => rfl
    | number c => rfl
    | text form body => rfl

theorem many_none {r : Reader (Option α)} (h : r ts = some (none, rest)) :
    many r ts = some ([], rest) := by
  show manyAlong r ts ts = _
  cases ts <;> rw [manyAlong, bind_apply _ h] <;> rfl

theorem many_one {r : Reader (Option α)} {t : Tok} (h : r (t :: ts) = some (some a, rest))
    (hrest : r rest = some (none, rest)) : many r (t :: ts) = some ([a], rest) := by
  have hend : manyAlong r ts rest = some ([], rest) := by
    cases ts <;> rw [manyAlong, bind_apply _ hrest] <;> rfl
  show manyAlong r (t :: ts) (t :: ts) = _
  rw [manyAlong, bind_apply _ h]
  exact bind_apply _ hend

/-- An item behind which no operator stands is all that a chain finds. -/
theorem chain_one {item : Reader α} {operator? : Reader (Option (α → α → α))}
    (h : item ts = some (a, rest)) (hop : operator? rest = some (none, rest)) :
    chain item operator? ts = some (a, rest) := by
  refine (bind_apply _ h).trans ((bind_apply _ (many_none ?_)).trans rfl)
  exact bind_apply _ hop

/-- An item behind which no comma stands is the only one. -/
theorem commas_one {item : Reader α} (h : item ts = some (a, rest))
    (hcomma : Lacks (.sign ",") rest) : commas item ts = some (([a], false), rest) := by
  refine (bind_apply _ h).trans ((bind_apply _ (many_none ?_)).trans
    (bind_apply _ (acceptSign_lacks hcomma)))
  exact bind_apply _ (atSign_lacks hcomma)

end Reader

/-! ## §2. Where expressions are over. -/

/-- The signs at which an expression is over. -/
def stops : List String := [")", "]", ",", ":"]

/-- Is an expression over here? -/
def AtStop (ts : List Tok) : Prop := ∀ t ∈ ts.head?, ∃ s ∈ stops, t.lexeme = .sign s

namespace AtStop

variable {ts : List Tok}

theorem nil : AtStop [] := fun _ h => absurd h (Option.not_mem_none _)

theorem cons {t : Tok} {s : String} (h : t.lexeme = .sign s) (hs : s ∈ stops) (ts : List Tok) :
    AtStop (t :: ts) := by
  intro u hu
  obtain rfl := Option.some.inj hu
  exact ⟨s, hs, h⟩

theorem lacks_word (h : AtStop ts) (w : String) : Lacks (.word w) ts := by
  intro t ht heq
  obtain ⟨s, -, hs⟩ := h t ht
  rw [hs] at heq
  exact Lexeme.noConfusion heq

theorem lacks_sign (h : AtStop ts) {s : String} (hs : s ∉ stops) : Lacks (.sign s) ts := by
  intro t ht heq
  obtain ⟨s', hs', hlexeme⟩ := h t ht
  rw [hlexeme] at heq
  exact hs (Lexeme.sign.inj heq ▸ hs')

/-- No operator stands at a stop. -/
theorem signIn? {α : Type} (h : AtStop ts) {operators : List (String × α)}
    (hop : ∀ o ∈ operators, o.1 ∉ stops) : signIn? operators ts = some (none, ts) :=
  signIn?_lacks (fun o ho => h.lacks_sign (hop o ho))

end AtStop

/-! ## §3. Operands that are whole expressions. -/

section Operand

variable {g : Grammar} {ts rest : List Tok} {e : Expr}

theorem binaryChain_of_factor (h : g.factor ts = some (e, rest)) (hstop : AtStop rest)
    {levels : List (List (String × BinaryOp))}
    (hlevels : ∀ level ∈ levels, ∀ o ∈ level, o.1 ∉ stops) :
    binaryChain g levels ts = some (e, rest) := by
  induction levels with
  | nil => exact h
  | cons level higher ih =>
    obtain ⟨hlevel, hhigher⟩ := List.forall_mem_cons.1 hlevels
    unfold binaryChain
    refine chain_one (ih hhigher) ?_
    rw [bind_apply _ (hstop.signIn? hlevel)]
    rfl

theorem comparison_of_factor (h : g.factor ts = some (e, rest)) (hstop : AtStop rest) :
    comparison g ts = some (e, rest) := by
  have hoperand : operand g ts = some (e, rest) := binaryChain_of_factor h hstop (by decide)
  have hnot : atWord "not" rest = some (false, rest) := by
    show some (rest.head?.map Tok.lexeme == some (.word "not"), rest) = _
    rw [next_ne (hstop.lacks_word "not")]
  have hop : compareOp? rest = some (none, rest) := by
    refine (bind_apply _ (hstop.signIn? (by decide))).trans ?_
    refine (bind_apply _ (acceptWord_lacks (hstop.lacks_word "in"))).trans ?_
    refine (bind_apply _ (acceptWord_lacks (hstop.lacks_word "is"))).trans ?_
    exact bind_apply _ hnot
  refine (bind_apply _ hoperand).trans ((bind_apply _ (many_none ?_)).trans rfl)
  exact bind_apply _ hop

theorem inversion_of_factor (hhead : Lacks (.word "not") ts) (h : g.factor ts = some (e, rest))
    (hstop : AtStop rest) : inversion g ts = some (e, rest) := by
  refine (bind_apply _ (many_none ?_)).trans (bind_apply _ (comparison_of_factor h hstop))
  exact bind_apply _ (acceptWord_lacks hhead)

theorem booleanChain_one {op : BoolOp} {w : String} {item : Reader Expr}
    (h : item ts = some (e, rest)) (hstop : AtStop rest) :
    booleanChain op w item ts = some (e, rest) := by
  refine (bind_apply _ h).trans ((bind_apply _ (many_none ?_)).trans rfl)
  exact bind_apply _ (acceptWord_lacks (hstop.lacks_word w))

/-- An operand in front of a stop is a whole expression. -/
theorem expressionRule_of_factor (hlambda : Lacks (.word "lambda") ts)
    (hnot : Lacks (.word "not") ts) (h : g.factor ts = some (e, rest)) (hstop : AtStop rest) :
    expressionRule g ts = some (e, rest) := by
  have hbody : disjunction g ts = some (e, rest) :=
    booleanChain_one (booleanChain_one (inversion_of_factor hnot h hstop) hstop) hstop
  refine (bind_apply _ (acceptWord_lacks hlambda)).trans ?_
  refine (bind_apply _ hbody).trans ?_
  exact bind_apply _ (acceptWord_lacks (hstop.lacks_word "if"))

/-! ## §4. Atoms and calls. -/

theorem factorRule_of_primary (hsign : ∀ s ∈ ["-", "+", "~"], Lacks (.sign s) ts)
    (h : primary g ts = some (e, rest)) (hstop : AtStop rest) :
    factorRule g ts = some (e, rest) := by
  refine (bind_apply _ (signIn?_lacks ?_)).trans ?_
  · intro o ho
    exact hsign o.1 (List.mem_map_of_mem (f := Prod.fst) ho)
  · refine (bind_apply _ h).trans ?_
    exact bind_apply _ (acceptSign_lacks (hstop.lacks_sign (by decide)))

/-- Nothing follows an atom at a stop. -/
theorem trailer?_stop (inner : Reader Expr) (hstop : AtStop rest) :
    trailer? g inner rest = some (none, rest) := by
  refine (bind_apply _ (acceptSign_lacks (hstop.lacks_sign (by decide)))).trans ?_
  refine (bind_apply _ (acceptSign_lacks (hstop.lacks_sign (by decide)))).trans ?_
  exact bind_apply _ (acceptSign_lacks (hstop.lacks_sign (by decide)))

theorem primary_of_atom {t : Tok} (hawait : t.lexeme ≠ .word "await")
    (h : ∀ inner, atom g inner (t :: ts) = some (e, rest)) (hstop : AtStop rest) :
    primary g (t :: ts) = some (e, rest) := by
  show primaryAlong g (t :: ts) (t :: ts) = _
  refine (bind_apply _ (acceptWord_lacks (.cons hawait ts))).trans ?_
  refine (bind_apply _ (h _)).trans ?_
  exact bind_apply _ (many_none (trailer?_stop _ hstop))

/-- An atom with a call behind it. -/
theorem primary_of_call {t open_ : Tok} (hawait : t.lexeme ≠ .word "await") {f : Expr}
    (h : ∀ inner, atom g inner (t :: open_ :: ts) = some (f, open_ :: ts))
    (hopen : open_.lexeme = .sign "(") {args : List Expr} {keywords : List Keyword}
    (hargs : ∀ inner, argumentsTail g inner true ts = some ((args, keywords), rest))
    (hstop : AtStop rest) : primary g (t :: open_ :: ts) = some (.call f args keywords, rest) := by
  have hcall : ∀ inner, trailer? g inner (open_ :: ts) =
      some (some (Expr.call · args keywords), rest) := by
    intro inner
    refine (bind_apply _ (acceptSign_lacks (.cons (by rw [hopen]; decide) ts))).trans ?_
    refine (bind_apply _ (acceptSign_next hopen ts)).trans ?_
    exact bind_apply _ (hargs inner)
  show primaryAlong g (t :: open_ :: ts) (t :: open_ :: ts) = _
  refine (bind_apply _ (acceptWord_lacks (.cons hawait _))).trans ?_
  refine (bind_apply _ (h _)).trans ?_
  exact bind_apply _ (many_one (hcall _) (trailer?_stop _ hstop))

/-- An expression that no equals sign makes anything else. -/
theorem namedExpression_of (hwalrus : Lacks (.sign ":=") ts.tail)
    (h : g.expression ts = some (e, rest)) : namedExpression g ts = some (e, rest) := by
  have hsecond : peekSecond? ts = some (ts.tail.head?.map Tok.lexeme, ts) := rfl
  refine (bind_apply _ hsecond).trans ?_
  rw [next_ne hwalrus]
  exact h

theorem compClauses_stop (inner : Reader Expr) (hstop : AtStop rest) :
    compClauses g inner rest = some ([], rest) := by
  refine many_none ?_
  refine (bind_apply _ (acceptWord_lacks (hstop.lacks_word "async"))).trans ?_
  exact bind_apply _ (acceptWord_lacks (hstop.lacks_word "for"))

/-- One argument by position, and the parenthesis that closes the call. -/
theorem argumentsTail_one (inner : Reader Expr) {close : Tok} (hclose : close.lexeme = .sign ")")
    (hfirst : ∀ s ∈ [")", "*", "**"], Lacks (.sign s) ts)
    (hsecond : ∀ s ∈ ["=", ":="], Lacks (.sign s) ts.tail)
    (h : g.expression ts = some (e, close :: rest)) :
    argumentsTail g inner true ts = some (([e], []), rest) := by
  have hstop : AtStop (close :: rest) := .cons hclose (by decide) rest
  have hpeek : peekSecond? ts = some (ts.tail.head?.map Tok.lexeme, ts) := rfl
  have hargument : argument g inner ts = some (.positional e, close :: rest) := by
    refine (bind_apply _ (acceptSign_lacks (hfirst "*" (by decide)))).trans ?_
    refine (bind_apply _ (acceptSign_lacks (hfirst "**" (by decide)))).trans ?_
    refine (bind_apply _ hpeek).trans ?_
    rw [next_ne (hsecond "=" (by decide))]
    refine (bind_apply _ (namedExpression_of (hsecond ":=" (by decide)) h)).trans ?_
    exact bind_apply _ (compClauses_stop inner hstop)
  refine (bind_apply _ (acceptSign_lacks (hfirst ")" (by decide)))).trans ?_
  refine (bind_apply _ (commas_one hargument (.cons (by rw [hclose]; decide) rest))).trans ?_
  exact bind_apply _ (sign_next hclose rest)

end Operand

/-- An atom with what follows it is a whole expression in front of a stop. -/
theorem expression_of_primary {n : Nat} {ts rest : List Tok} {e : Expr}
    (hword : ∀ w ∈ ["lambda", "not"], Lacks (.word w) ts)
    (hsign : ∀ s ∈ ["-", "+", "~"], Lacks (.sign s) ts)
    (h : primary (grammar n) ts = some (e, rest)) (hstop : AtStop rest) :
    (grammar (n + 2)).expression ts = some (e, rest) :=
  expressionRule_of_factor (hword "lambda" (by decide)) (hword "not" (by decide))
    (factorRule_of_primary hsign h hstop) hstop

/-! ## §5. Text constants. -/

/-- A text constant without letters in front, one that is read. -/
theorem joinTexts_one (g : Grammar) {body : List Char} {text : String}
    (h : textOf? false body = some text) :
    joinTexts g [({}, body)] = pure (.constant (.text text false)) := by
  have hparts : [(({} : TextForm), body)].mapM (fun t => textParts g t.1 t.2) =
      some [[.constant (.text text false)]] := by
    have hpart : textParts g {} body = some [.constant (.text text false)] := by
      show (textOf? false body).map (fun t => [Expr.constant (.text t false)]) = _
      rw [h]
      rfl
    rw [List.mapM_cons, List.mapM_nil, hpart]
    rfl
  unfold joinTexts
  rw [if_neg (by simp), if_neg (by simp), hparts]
  by_cases hempty : text = ""
  · subst hempty
    rfl
  · have hjoin : joinParts [.constant (.text text false)] = [.constant (.text text false)] := by
      show (if text.isEmpty then _ else _) = _
      rw [if_neg (by simpa using hempty)]
      rfl
    dsimp only
    rw [if_neg (by simp), List.flatten_singleton, hjoin]
    rfl

theorem atom_text (g : Grammar) (inner : Reader Expr) {t : Tok} {body : List Char}
    (ht : t.lexeme = .text {} body) {text : String} (h : textOf? false body = some text)
    {rest : List Tok} (hstop : AtStop rest) :
    atom g inner (t :: rest) = some (.constant (.text text false), rest) := by
  have hnext : nextText? (t :: rest) = some (some ({}, body), rest) := by
    have hpeek : peek? (t :: rest) = some (some (.text {} body), t :: rest) := by rw [← ht]; rfl
    exact bind_apply _ hpeek
  have hend : nextText? rest = some (none, rest) := by
    cases rest with
    | nil => rfl
    | cons u us =>
      obtain ⟨s, -, hs⟩ := hstop u rfl
      have hpeek : peek? (u :: us) = some (some (.sign s), u :: us) := by rw [← hs]; rfl
      exact bind_apply _ hpeek
  have hpeek : peek? (t :: rest) = some (some (.text {} body), t :: rest) := by rw [← ht]; rfl
  refine (bind_apply _ hpeek).trans ?_
  refine (bind_apply _ (many_one hnext hend)).trans ?_
  rw [joinTexts_one g h]
  rfl

/-- A text constant in front of a stop is a whole expression. -/
theorem expression_text (n : Nat) {t : Tok} {body : List Char} (ht : t.lexeme = .text {} body)
    {text : String} (h : textOf? false body = some text) {rest : List Tok} (hstop : AtStop rest) :
    (grammar (n + 2)).expression (t :: rest) = some (.constant (.text text false), rest) := by
  have hlacks : ∀ x, (∀ form body, x ≠ .text form body) → Lacks x (t :: rest) :=
    fun x hx => .cons (by rw [ht]; exact (hx _ _).symm) _
  refine expression_of_primary (fun w _ => hlacks _ (fun _ _ => Lexeme.noConfusion))
    (fun s _ => hlacks _ (fun _ _ => Lexeme.noConfusion)) ?_ hstop
  refine primary_of_atom (by rw [ht]; exact Lexeme.noConfusion) (fun inner => ?_) hstop
  exact atom_text _ inner ht h hstop

/-- Does nothing in the text of a constant end it, or start an escape? -/
def IsClean (body : List Char) : Prop := ∀ c ∈ body, c ≠ '\'' ∧ c ≠ '\\' ∧ c ≠ '\n'

theorem decodeText?_clean {body : List Char} (h : IsClean body) (fuel : Nat)
    (hfuel : body.length < fuel) : decodeText? fuel body = some body := by
  induction body generalizing fuel with
  | nil =>
    cases fuel with
    | zero => omega
    | succ n => rfl
  | cons c body ih =>
    obtain ⟨hc, hbody⟩ := List.forall_mem_cons.1 h
    cases fuel with
    | zero => omega
    | succ n =>
      have hrest := ih hbody n (by simpa using hfuel)
      rw [decodeText?]
      · rw [hrest]
        rfl
      · exact fun _ _ heq _ => hc.2.1 heq

theorem textOf?_clean {body : List Char} (h : IsClean body) :
    textOf? false body = some (String.ofList body) := by
  show (decodeText? (body.length + 1) body).map String.ofList = _
  rw [decodeText?_clean h _ (Nat.lt_succ_self _)]
  rfl

theorem readShort?_clean {body : List Char} (h : IsClean body) (rest : List Char) :
    readShort? '\'' (body ++ '\'' :: rest) = some (body, rest) := by
  induction body with
  | nil =>
    show readShort? '\'' ('\'' :: rest) = _
    rw [readShort?]
    · rfl
    · exact fun _ _ heq _ => absurd heq (by decide)
  | cons c body ih =>
    obtain ⟨⟨hquote, hescape, hline⟩, hbody⟩ := List.forall_mem_cons.1 h
    rw [List.cons_append, readShort?]
    · rw [if_neg hquote, if_neg hline, ih hbody]
      rfl
    · exact fun _ _ heq _ => hescape heq

theorem readLexeme?_text {body : List Char} (h : IsClean body) (hne : body ≠ [])
    (rest : List Char) :
    readLexeme? ('\'' :: (body ++ '\'' :: rest)) = some (.text {} body, rest) := by
  obtain ⟨c, more, rfl⟩ := List.exists_cons_of_ne_nil hne
  have hquote : c ≠ '\'' := (h c List.mem_cons_self).1
  have hshort : ['\'', '\''].isPrefixOf (c :: more ++ '\'' :: rest) = false := by
    show ('\'' == c && _) = false
    rw [beq_false_of_ne (Ne.symm hquote)]
    rfl
  show ((if ['\'', '\''].isPrefixOf (c :: more ++ '\'' :: rest) then _
    else readShort? '\'' (c :: more ++ '\'' :: rest)).map _) = _
  rw [hshort, if_neg Bool.false_ne_true, readShort?_clean h]
  rfl

/-! ## §6. Lines. -/

/-- The characters that no lexeme starts with. -/
def nonStarters : List Char := ['\n', '#', '\\', ' ', '\t', '\x0c']

theorem starter_ne {c : Char} (h : c ∉ nonStarters) :
    c ≠ '\n' ∧ c ≠ '#' ∧ c ≠ '\\' ∧ isIndentation c = false := by
  simp only [nonStarters, List.mem_cons, List.not_mem_nil, or_false, not_or] at h
  refine ⟨h.1, h.2.1, h.2.2.1, ?_⟩
  simp [isIndentation, h]

/-- Is a text, up to the end of its line, a row of lexemes?  `closers` are the brackets that are open
where it starts. -/
inductive Lexes (rest : List Char) : List String → List Char → List Lexeme → Prop
  | finish : Lexes rest [] ('\n' :: rest) []
  | blank {closers s xs} : Lexes rest closers s xs → Lexes rest closers (' ' :: s) xs
  | lexeme {closers closers' s xs} (x : Lexeme) (c : Char) (spelling : List Char)
      (hread : readLexeme? (c :: (spelling ++ s)) = some (x, s))
      (hlength : x.lengthIn (c :: (spelling ++ s)) s = spelling.length + 1)
      (hstart : c ∉ nonStarters) (hline : '\n' ∉ spelling)
      (hclosers : closersAfter? closers x = some closers') :
      Lexes rest closers' s xs → Lexes rest closers (c :: (spelling ++ s)) (x :: xs)

theorem Spot.line_behind {spelling : List Char} (h : '\n' ∉ spelling) (rest : List Char) (p : Spot) :
    (p.behind spelling.length (spelling ++ rest)).line = p.line := by
  induction spelling generalizing p with
  | nil => cases rest <;> rfl
  | cons c spelling ih =>
    obtain ⟨hc, hspelling⟩ := List.ne_and_not_mem_of_not_mem_cons h
    show ((p.after c).behind spelling.length (spelling ++ rest)).line = _
    rw [ih hspelling]
    unfold Spot.after
    rw [if_neg (Ne.symm hc)]

/-- A row of lexemes is read as such; the lexemes are all on one line. -/
theorem readLine?_lexes {rest s : List Char} {closers : List String} {xs : List Lexeme}
    (h : Lexes rest closers s xs) (fuel : Nat) (hfuel : s.length ≤ fuel) (here : Spot) :
    ∃ toks, readLine? fuel closers here s = some (toks, ⟨here.line + 1, 0⟩, rest)
      ∧ toks.map Tok.lexeme = xs ∧ ∀ t ∈ toks, t.line = here.line := by
  induction h generalizing fuel here with
  | finish =>
    obtain ⟨n, rfl⟩ := Nat.exists_eq_add_one_of_ne_zero (n := fuel) (by rintro rfl; simp at hfuel)
    exact ⟨[], rfl, rfl, by simp⟩
  | blank _ ih =>
    obtain ⟨n, rfl⟩ := Nat.exists_eq_add_one_of_ne_zero (n := fuel) (by rintro rfl; simp at hfuel)
    exact ih n (by simpa using hfuel) (here.after ' ')
  | @lexeme closers closers' s xs x c spelling hread hlength hstart hline hclosers _ ih =>
    obtain ⟨n, rfl⟩ := Nat.exists_eq_add_one_of_ne_zero (n := fuel) (by rintro rfl; simp at hfuel)
    have hplain := starter_ne hstart
    have hline' : ((here.behind (spelling.length + 1) (c :: (spelling ++ s)))).line = here.line := by
      have hall : '\n' ∉ c :: spelling := List.not_mem_cons_of_ne_of_not_mem (Ne.symm hplain.1) hline
      exact Spot.line_behind hall s here
    have hfuel' : s.length ≤ n := by
      simp only [List.length_cons, List.length_append] at hfuel
      omega
    obtain ⟨toks, htoks, hlexemes, hlines⟩ :=
      ih n hfuel' (here.behind (spelling.length + 1) (c :: (spelling ++ s)))
    refine ⟨⟨x, here, here.behind (spelling.length + 1) (c :: (spelling ++ s))⟩ :: toks, ?_, ?_, ?_⟩
    · rw [readLine?]
      · rw [hplain.2.2.2, if_neg Bool.false_ne_true, hread]
        dsimp only [Option.bind_eq_bind, Option.bind_some]
        rw [hclosers, Option.bind_some, hlength, htoks, Option.bind_some, hline']
      · exact fun h => hplain.1 h
      · exact fun h => hplain.2.1 h
      · rintro r h -
        exact hplain.2.2.1 h
      · exact fun h => hplain.2.2.1 h
    · rw [List.map_cons, hlexemes]
    · intro t ht
      rcases List.mem_cons.1 ht with rfl | ht
      · rfl
      · rw [hlines t ht, hline']

/-- A row of lexemes at the start of a line is a logical line of its own. -/
theorem readLines?_lexes {rest s : List Char} {c : Char} {xs : List Lexeme}
    (h : Lexes rest [] (c :: s) xs) (hstart : c ∉ nonStarters) (fuel : Nat)
    (hfuel : s.length ≤ fuel) (here : Spot) {lines : List LogicalLine}
    (hrest : readLines? fuel ⟨here.line + 1, 0⟩ rest = some lines) :
    ∃ toks, readLines? (fuel + 1) here (c :: s) = some (⟨⟨0, 0⟩, toks⟩ :: lines)
      ∧ toks.map Tok.lexeme = xs ∧ ∀ t ∈ toks, t.line = here.line := by
  have hplain := starter_ne hstart
  have hmargin : readMargin? (fuel + 1) none ⟨0, 0⟩ here (c :: s) =
      some ⟨⟨0, 0⟩, here, c :: s⟩ := by
    rw [readMargin?]
    · rw [hplain.2.2.2, if_neg Bool.false_ne_true]
      rfl
    · exact fun _ heq _ => hplain.2.2.1 heq
    · exact fun heq => hplain.2.2.1 heq
  obtain ⟨toks, htoks, hlexemes, hlines⟩ := readLine?_lexes h (fuel + 1) (by simpa) here
  refine ⟨toks, ?_, hlexemes, hlines⟩
  rw [readLines?, if_neg (by simp), hmargin, Option.bind_eq_bind, Option.bind_some]
  split
  · rename_i heq
    cases heq
  · rename_i heq
    exact absurd (List.cons.inj heq).1 hplain.1
  · rename_i heq
    exact absurd (List.cons.inj heq).1 hplain.2.1
  · rw [htoks, Option.bind_eq_bind, Option.bind_some]
    dsimp only
    rw [hrest]
    rfl

theorem foldNewlines_eq {s : List Char} (h : '\r' ∉ s) : Text.foldNewlines s = s := by
  induction s with
  | nil => rfl
  | cons c s ih =>
    obtain ⟨hc, hs⟩ := List.ne_and_not_mem_of_not_mem_cons h
    rw [Text.foldNewlines]
    · rw [if_neg (Ne.symm hc), ih hs]
    · exact fun _ heq _ => hc heq.symm

/-- The logical lines of code that does not end in a newline. -/
theorem logicalLines?_eq {code : String} (hreturn : '\r' ∉ code.toList)
    (hend : code.toList.getLast? ≠ some '\n') :
    logicalLines? code = readLines? (code.toList.length + 2) ⟨1, 0⟩ (code.toList ++ ['\n']) := by
  unfold logicalLines?
  dsimp only
  rw [foldNewlines_eq hreturn, if_neg hend, List.length_append]
  rfl

section Layout

variable {c : Char} {s : List Char} {xs : List Lexeme}

/-- Code of one line. -/
theorem layout?_line {code : String} (hcode : code.toList = c :: s) (hreturn : '\r' ∉ c :: s)
    (hline : '\n' ∉ c :: s) (hstart : c ∉ nonStarters)
    (h : Lexes [] [] (c :: (s ++ ['\n'])) xs) :
    ∃ toks, layout? code = some [.mk toks []] ∧ toks.map Tok.lexeme = xs := by
  have hend : code.toList.getLast? ≠ some '\n' := by
    rw [hcode]
    exact fun heq => hline (List.mem_of_getLast? heq)
  obtain ⟨toks, hlines, hlexemes, -⟩ := readLines?_lexes h hstart ((c :: s).length + 1)
    (by simp) ⟨1, 0⟩ (show readLines? _ _ [] = some [] from rfl)
  refine ⟨toks, ?_, hlexemes⟩
  unfold layout?
  rw [logicalLines?_eq (hcode ▸ hreturn) hend, hcode]
  show (do
    let lines ← readLines? ((c :: s).length + 1 + 1) ⟨1, 0⟩ (c :: (s ++ ['\n']))
    _ : Option (List Line)) = _
  rw [hlines]
  rfl

/-- The `pass` below a header. -/
def passTok : Tok := ⟨.word "pass", ⟨2, 4⟩, ⟨2, 8⟩⟩

/-- A header with its `pass` below. -/
theorem layout?_header {code : String} (hcode : code.toList = c :: (s ++ "\n    pass".toList))
    (hreturn : '\r' ∉ c :: s) (hstart : c ∉ nonStarters)
    (h : Lexes "    pass\n".toList [] (c :: (s ++ "\n    pass\n".toList)) xs) :
    ∃ toks, layout? code = some [.mk toks [.mk [passTok] []]] ∧ toks.map Tok.lexeme = xs := by
  have hreturn' : '\r' ∉ code.toList := by
    rw [hcode, ← List.cons_append, List.mem_append, not_or]
    exact ⟨hreturn, by decide⟩
  have hend : code.toList.getLast? ≠ some '\n' := by
    have hlast : ("\n    pass".toList).getLast? = some 's' := by decide
    rw [hcode, ← List.cons_append, List.getLast?_append, hlast]
    exact fun heq => absurd (Option.some.inj heq) (by decide)
  obtain ⟨toks, hlines, hlexemes, -⟩ := readLines?_lexes h hstart (s.length + 11)
    (by simp) ⟨1, 0⟩ (show readLines? _ _ _ = some [⟨⟨4, 4⟩, [passTok]⟩] from rfl)
  refine ⟨toks, ?_, hlexemes⟩
  have hsource : code.toList ++ ['\n'] = c :: (s ++ "\n    pass\n".toList) := by
    rw [hcode, List.cons_append, List.append_assoc]
    rfl
  have hlength : code.toList.length + 2 = s.length + 11 + 1 := by
    rw [hcode, List.length_cons, List.length_append]
    rfl
  unfold layout?
  rw [logicalLines?_eq hreturn' hend, hsource, hlength, hlines]
  rfl

end Layout

end Inlay.Code

/-! ## §7. Code without blanks around it. -/

namespace Inlay

open Inlay.Text Inlay.Header

/-- Is the code a single line that neither starts nor ends with a blank? -/
structure IsTight (s : List Char) : Prop where
  line : ∀ c ∈ s, isLineBoundary c = false
  head : ∀ c ∈ s.head?, isBlank c = false
  last : ∀ c ∈ s.getLast?, isBlank c = false

theorem breakLines_line {s : List Char} (h : ∀ c ∈ s, isLineBoundary c = false) (hne : s ≠ []) :
    breakLines s = [s] := by
  induction s with
  | nil => exact absurd rfl hne
  | cons c s ih =>
    obtain ⟨hc, hs⟩ := List.forall_mem_cons.1 h
    rw [breakLines]
    · rw [if_neg (by rw [hc]; exact Bool.false_ne_true)]
      cases s with
      | nil => rfl
      | cons d s => rw [ih hs (List.cons_ne_nil _ _)]; rfl
    · rintro r rfl -
      exact absurd hc (by decide)

theorem stripRight_tight {s : List Char} (h : ∀ c ∈ s.getLast?, isBlank c = false) :
    stripRight s = s := by
  have hkeep : s.reverse.dropWhile isBlank = s.reverse := by
    rw [List.getLast?_eq_head?_reverse] at h
    cases hr : s.reverse with
    | nil => rfl
    | cons c r =>
      rw [hr] at h
      rw [List.dropWhile_cons, h c rfl]
      rfl
  unfold stripRight
  rw [hkeep, List.reverse_reverse]

/-- A text without blanks at its ends has nothing to strip. -/
theorem strip_eq_self {s : List Char} (hhead : ∀ c ∈ s.head?, isBlank c = false)
    (hlast : ∀ c ∈ s.getLast?, isBlank c = false) : strip s = s := by
  have hleft : stripLeft s = s := by
    unfold stripLeft
    cases s with
    | nil => rfl
    | cons c s =>
      rw [List.dropWhile_cons, hhead c rfl]
      rfl
  rw [strip, hleft, stripRight_tight hlast]

namespace IsTight

variable {s : List Char}

theorem not_mem (h : IsTight s) {c : Char} (hc : isLineBoundary c = true) : c ∉ s := by
  intro hmem
  rw [h.line c hmem] at hc
  exact Bool.false_ne_true hc

theorem strip (h : IsTight s) : strip s = s := strip_eq_self h.head h.last

theorem dedent (h : IsTight s) : dedent s = s := by
  unfold Text.dedent
  rw [splitNewlines_line (h.not_mem (by decide))]
  cases s with
  | nil => rfl
  | cons c s =>
    have hc : isIndent c = false := by
      have hblank := h.head c rfl
      rw [Bool.eq_false_iff]
      intro hindent
      simp only [isIndent, Bool.or_eq_true, beq_iff_eq] at hindent
      rcases hindent with rfl | rfl <;> exact absurd hblank (by decide)
    have hall : (c :: s).all isIndent = false := by simp [hc]
    have hshared : sharedIndent [c :: s] = [] := by
      simp [sharedIndent, hc]
    simp only [hshared, List.map_cons, List.map_nil, hall, Bool.false_eq_true, if_false]
    rfl

end IsTight

theorem normalize_tight {code : String} (h : IsTight code.toList) :
    Header.normalize code = code := by
  unfold Header.normalize
  rw [h.dedent, h.strip, String.ofList_toList]

theorem isHeader_tight {code : String} (h : IsTight code.toList) :
    isHeader code = (code.toList.getLast? == some ':') := by
  unfold isHeader
  rw [stripRight_tight h.last]

end Inlay
