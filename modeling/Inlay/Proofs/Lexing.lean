/-
  Inlay.Proofs.Lexing
  ────────────────────────────────
  **WHAT A LEXEME TAKES FROM A TEXT.**

  A lexeme is the front of the text that it is read from.  Only a text
  constant goes on over the end of a line, and its last character is a quote;
  so the lines of a text that are passed are those that lexemes start on and
  end on:

      takes_readLexeme?  — the front that a lexeme is
      line_behind_lexeme — the line on which the text behind it starts
      weightOf_readLine? — the lexemes of a line weigh no more than the line
-/
import Inlay.Code.Layout
import Mathlib.Algebra.GroupWithZero.Nat
import Mathlib.Data.List.TakeWhile

namespace Inlay.Code

/-! ## §1. Numbers. -/

/-- May the character stand in a number? -/
def isNumeric (c : Char) : Bool := c.isAlphanum || ['_', '.', '+', '-'].contains c

/-- Is the second text what is left of the first behind some characters of a number? -/
def LeavesNumeric (s rest : List Char) : Prop :=
  ∃ used, s = used ++ rest ∧ ∀ c ∈ used, isNumeric c = true

namespace LeavesNumeric

variable {s t rest : List Char}

theorem refl (s : List Char) : LeavesNumeric s s := ⟨[], rfl, fun _ h => absurd h List.not_mem_nil⟩

theorem trans (h : LeavesNumeric s t) (h' : LeavesNumeric t rest) : LeavesNumeric s rest := by
  obtain ⟨used, rfl, hused⟩ := h
  obtain ⟨used', rfl, hused'⟩ := h'
  exact ⟨used ++ used', (List.append_assoc ..).symm, List.forall_mem_append.2 ⟨hused, hused'⟩⟩

theorem cons {c : Char} (hc : isNumeric c = true) (h : LeavesNumeric s rest) :
    LeavesNumeric (c :: s) rest :=
  trans ⟨[c], rfl, fun _ hmem => List.mem_singleton.1 hmem ▸ hc⟩ h

end LeavesNumeric

/-- A digit of a base up to sixteen is a letter or a digit. -/
theorem isNumeric_of_isDigitOf {base : Nat} (hbase : base ≤ 16) {c : Char}
    (h : isDigitOf base c = true) : isNumeric c = true := by
  have halphanum : c.isAlphanum = true := by
    have hbetween {a b d : Char} (hab : (decide (a ≤ c) && decide (c ≤ b)) = true) (hbd : b ≤ d) :
        a ≤ c ∧ c ≤ d := by
      rw [Bool.and_eq_true, decide_eq_true_eq, decide_eq_true_eq] at hab
      exact ⟨hab.1, Char.le_trans hab.2 hbd⟩
    unfold isDigitOf digitValue? at h
    dsimp only at h
    unfold Char.isAlphanum Char.isAlpha
    split at h
    · rename_i hdigit
      have hc : c.isDigit = true := Bool.and_eq_true_iff.2
        ((hbetween hdigit (Char.le_refl '9')).imp (decide_eq_true ·) (decide_eq_true ·))
      rw [hc, Bool.or_true]
    · split at h
      · rename_i hlower
        have hc : c.isLower = true := Bool.and_eq_true_iff.2
          ((hbetween (d := 'z') hlower (by decide)).imp (decide_eq_true ·) (decide_eq_true ·))
        rw [hc, Bool.or_true, Bool.true_or]
      · split at h
        · rename_i hupper
          have hc : c.isUpper = true :=
            decide_eq_true (hbetween (d := 'Z') hupper (by decide))
          rw [hc, Bool.true_or, Bool.true_or]
        · rw [if_neg (by omega)] at h
          cases h
  unfold isNumeric
  rw [halphanum, Bool.true_or]

theorem isDigitOf_ten {c : Char} (h : c.isDigit = true) : isDigitOf 10 c = true := by
  have hrange : 48 ≤ c.toNat ∧ c.toNat ≤ 57 := by
    simpa [Char.isDigit, UInt32.le_iff_toNat_le] using h
  have hvalue : digitValue? 10 c = some (c.toNat - 48) := by
    have hle : '0' ≤ c ∧ c ≤ '9' := hrange
    have hdigit : (decide ('0' ≤ c) && decide (c ≤ '9')) = true := by
      rw [decide_eq_true hle.1, decide_eq_true hle.2]
      rfl
    unfold digitValue?
    rw [if_pos hdigit]
    dsimp only
    rw [if_pos (by omega)]
  unfold isDigitOf
  rw [hvalue]
  rfl

theorem digitRun?_leaves {base : Nat} (hbase : base ≤ 16) {s digits rest : List Char}
    (h : digitRun? base s = some (digits, rest)) : LeavesNumeric s rest := by
  fun_induction digitRun? base s generalizing digits with
  | case1 =>
    obtain ⟨rfl, rfl⟩ := Prod.mk.inj (Option.some.inj h)
    exact .refl _
  | case2 c s hc ih =>
    exact .cons (by decide) (ih h)
  | case3 c s hc => cases h
  | case4 => cases h
  | case5 c s hne hc ih =>
    obtain ⟨p, hp, heq⟩ := Option.map_eq_some_iff.1 h
    obtain ⟨-, rfl⟩ := Prod.mk.inj heq
    exact .cons (isNumeric_of_isDigitOf hbase hc) (ih hp)
  | case6 c s hne hc =>
    obtain ⟨-, rfl⟩ := Prod.mk.inj (Option.some.inj h)
    exact .refl _

theorem finishNumber?_rest {c : Constant} {s rest : List Char} {d : Constant}
    (h : finishNumber? c s = some (d, rest)) : rest = s := by
  unfold finishNumber? at h
  split at h
  · exact (Prod.mk.inj (Option.some.inj h)).2.symm
  · cases h

theorem readBase?_leaves {base : Nat} (hbase : base ≤ 16) {s rest : List Char} {c : Constant}
    (h : readBase? base s = some (c, rest)) : LeavesNumeric s rest := by
  unfold readBase? at h
  dsimp only at h
  have hscore : LeavesNumeric s (if s.head? = some '_' then s.tail else s) := by
    split
    · rename_i hhead
      obtain ⟨t, rfl⟩ := List.head?_eq_some_iff.1 hhead
      exact .cons (by decide) (.refl _)
    · exact .refl _
  generalize (if s.head? = some '_' then s.tail else s) = digits at h hscore
  split at h
  · cases h
  · obtain ⟨p, hp, h⟩ := Option.bind_eq_some_iff.1 h
    split at h
    · cases h
    · obtain rfl := finishNumber?_rest h
      exact hscore.trans (digitRun?_leaves hbase hp)

theorem readExponent?_leaves {s rest : List Char} {exponent : Option Int}
    (h : readExponent? s = some (exponent, rest)) : LeavesNumeric s rest := by
  unfold readExponent? at h
  split at h
  · rename_i e r
    split at h
    · rename_i he
      have hletter : isNumeric e = true := by
        rw [Bool.or_eq_true, decide_eq_true_eq, decide_eq_true_eq] at he
        rcases he with rfl | rfl <;> decide
      -- the same steps behind a sign, of either kind, and behind none
      have hfinish : ∀ (sign : Option Int) (digits : List Char), LeavesNumeric r digits →
          (if digits.head?.any Char.isDigit = true then (digitRun? 10 digits).map
              (fun p => (some (sign.getD 1 * (digitsValue 10 p.1 : Int)), p.2))
            else if sign.isSome = true then none
            else if endsNumber (e :: r) = true then some (none, e :: r) else none)
          = some (exponent, rest) → LeavesNumeric (e :: r) rest := by
        intro sign digits hdigits h
        split at h
        · obtain ⟨p, hp, heq⟩ := Option.map_eq_some_iff.1 h
          obtain ⟨-, rfl⟩ := Prod.mk.inj heq
          exact .cons hletter (hdigits.trans (digitRun?_leaves (by omega) hp))
        · split at h
          · cases h
          · split at h
            · obtain ⟨-, rfl⟩ := Prod.mk.inj (Option.some.inj h)
              exact .refl _
            · cases h
      dsimp only at h
      split at h
      · exact hfinish (some 1) _ (.cons (by decide) (.refl _)) h
      · exact hfinish (some (-1)) _ (.cons (by decide) (.refl _)) h
      · exact hfinish none _ (.refl _) h
    · obtain ⟨-, rfl⟩ := Prod.mk.inj (Option.some.inj h)
      exact .refl _
  · obtain ⟨-, rfl⟩ := Prod.mk.inj (Option.some.inj h)
    exact .refl _

/-- What follows the whole part is spelled like a number; a point in front is taken. -/
theorem readTail?_leaves {whole s rest : List Char} {leadingZero : Bool} {c : Constant}
    (h : readTail? whole leadingZero s = some (c, rest)) :
    LeavesNumeric s rest ∧ ∀ r, s = '.' :: r → LeavesNumeric r rest := by
  unfold readTail? at h
  extract_lets finish at h
  -- behind the fraction: an exponent, and perhaps the letter of the imaginary unit
  have hfinish : ∀ fraction t hasPoint, finish (fraction, t, hasPoint) = some (c, rest) →
      LeavesNumeric t rest := by
    intro fraction t hasPoint h
    obtain ⟨⟨exponent, u⟩, hexponent, h⟩ := Option.bind_eq_some_iff.1 h
    refine (readExponent?_leaves hexponent).trans ?_
    dsimp only at h
    split at h
    · rename_i j r
      split at h
      · rename_i hj
        obtain rfl := finishNumber?_rest h
        refine .cons ?_ (.refl _)
        rw [Bool.or_eq_true, decide_eq_true_eq, decide_eq_true_eq] at hj
        rcases hj with rfl | rfl <;> decide
      · split at h
        · obtain rfl := finishNumber?_rest h
          exact .refl _
        · split at h
          · cases h
          · obtain ⟨d, -, h⟩ := Option.bind_eq_some_iff.1 h
            obtain rfl := finishNumber?_rest h
            exact .refl _
    · split at h
      · obtain ⟨-, rfl⟩ := Prod.mk.inj (Option.some.inj h)
        exact .refl _
      · split at h
        · cases h
        · obtain ⟨d, -, h⟩ := Option.bind_eq_some_iff.1 h
          obtain ⟨-, rfl⟩ := Prod.mk.inj (Option.some.inj h)
          exact .refl _
  split at h
  · rename_i r
    have hrest : LeavesNumeric r rest := by
      split at h
      · obtain ⟨x, hx, h⟩ := Option.bind_eq_some_iff.1 h
        obtain ⟨p, hp, rfl⟩ := Option.map_eq_some_iff.1 hx
        exact (digitRun?_leaves (by omega) hp).trans (hfinish _ _ _ h)
      · exact hfinish _ _ _ h
    refine ⟨.cons (by decide) hrest, ?_⟩
    intro r' hr'
    obtain rfl := (List.cons.inj hr').2
    exact hrest
  · rename_i hpoint
    exact ⟨hfinish _ _ _ h, fun r hr => absurd hr (hpoint r)⟩

/-- A number takes its first character, and more characters of a number. -/
theorem readNumber?_leaves {d : Char} {s rest : List Char} {c : Constant}
    (hd : d.isDigit = true ∨ d = '.') (h : readNumber? (d :: s) = some (c, rest)) :
    LeavesNumeric s rest := by
  have hbase : ∀ {base r x}, base ≤ 16 → isNumeric x = true → readBase? base r = some (c, rest) →
      LeavesNumeric (x :: r) rest :=
    fun hle hx h => .cons hx (readBase?_leaves hle h)
  unfold readNumber? at h
  split at h
  · rename_i heq
    obtain ⟨-, rfl⟩ := List.cons.inj heq
    exact hbase (by omega) (by decide) h
  · rename_i heq
    obtain ⟨-, rfl⟩ := List.cons.inj heq
    exact hbase (by omega) (by decide) h
  · rename_i heq
    obtain ⟨-, rfl⟩ := List.cons.inj heq
    exact hbase (by omega) (by decide) h
  · rename_i heq
    obtain ⟨-, rfl⟩ := List.cons.inj heq
    exact hbase (by omega) (by decide) h
  · rename_i heq
    obtain ⟨-, rfl⟩ := List.cons.inj heq
    exact hbase (by omega) (by decide) h
  · rename_i heq
    obtain ⟨-, rfl⟩ := List.cons.inj heq
    exact hbase (by omega) (by decide) h
  · rename_i r heq
    obtain ⟨-, rfl⟩ := List.cons.inj heq
    exact (readTail?_leaves h).2 s heq
  · rename_i hpoint
    have hdigit : d.isDigit = true := hd.resolve_right fun hd => hpoint s (by rw [hd])
    obtain ⟨p, hp, h⟩ := Option.bind_eq_some_iff.1 h
    have hrun : LeavesNumeric s p.2 := by
      unfold digitRun? at hp
      split at hp
      · rename_i heq
        cases heq
      · rename_i heq
        obtain ⟨rfl, -⟩ := List.cons.inj heq
        exact absurd hdigit (by decide)
      · rename_i heq
        obtain ⟨rfl, rfl⟩ := List.cons.inj heq
        rw [if_pos (isDigitOf_ten hdigit)] at hp
        obtain ⟨q, hq, rfl⟩ := Option.map_eq_some_iff.1 hp
        exact digitRun?_leaves (by omega) hq
    exact hrun.trans (readTail?_leaves h).1

/-! ## §2. Text constants. -/

theorem add?_newline (f : TextForm) : f.add? '\n' = none := by
  unfold TextForm.add?
  simp

/-- The letters in front of a text constant, and the quote behind them. -/
theorem textForm?_spells {f form : TextForm} {s t : List Char} (h : textForm? f s = some (form, t)) :
    ∃ letters, s = letters ++ t ∧ (∀ c ∈ letters, isQuote c = false ∧ c ≠ '\n')
      ∧ ∃ q u, t = q :: u ∧ isQuote q = true := by
  fun_induction textForm? f s with
  | case1 => cases h
  | case2 f c s hquote =>
    obtain ⟨rfl, rfl⟩ := Prod.mk.inj (Option.some.inj h)
    exact ⟨[], rfl, fun _ hc => absurd hc List.not_mem_nil, c, s, rfl, hquote⟩
  | case3 f c s hquote g hadd ih =>
    obtain ⟨letters, rfl, hletters, hbehind⟩ := ih h
    refine ⟨c :: letters, rfl, ?_, hbehind⟩
    intro d hd
    rcases List.mem_cons.1 hd with rfl | hd
    · refine ⟨Bool.eq_false_iff.2 hquote, ?_⟩
      rintro rfl
      rw [add?_newline] at hadd
      cases hadd
    · exact hletters d hd
  | case4 => cases h

theorem readShort?_spells {q : Char} {s body rest : List Char}
    (h : readShort? q s = some (body, rest)) : s = body ++ q :: rest := by
  fun_induction readShort? q s generalizing body with
  | case1 => cases h
  | case2 c s ih =>
    obtain ⟨p, hp, heq⟩ := Option.map_eq_some_iff.1 h
    obtain ⟨rfl, rfl⟩ := Prod.mk.inj heq
    rw [ih hp]
    rfl
  | case3 c s =>
    obtain ⟨rfl, rfl⟩ := Prod.mk.inj (Option.some.inj h)
    rfl
  | case4 => cases h
  | case5 c s _ _ _ ih =>
    obtain ⟨p, hp, heq⟩ := Option.map_eq_some_iff.1 h
    obtain ⟨rfl, rfl⟩ := Prod.mk.inj heq
    rw [ih hp]
    rfl

theorem readLong?_spells {q : Char} {s body rest : List Char}
    (h : readLong? q s = some (body, rest)) : s = body ++ q :: q :: q :: rest := by
  fun_induction readLong? q s generalizing body with
  | case1 => cases h
  | case2 c s ih =>
    obtain ⟨p, hp, heq⟩ := Option.map_eq_some_iff.1 h
    obtain ⟨rfl, rfl⟩ := Prod.mk.inj heq
    rw [ih hp]
    rfl
  | case3 c s hne hclose =>
    rw [Bool.and_eq_true, decide_eq_true_eq, List.isPrefixOf_iff_prefix] at hclose
    obtain ⟨rfl, t, rfl⟩ := hclose
    obtain ⟨rfl, rfl⟩ := Prod.mk.inj (Option.some.inj h)
    rfl
  | case4 c s hne hopen ih =>
    obtain ⟨p, hp, heq⟩ := Option.map_eq_some_iff.1 h
    obtain ⟨rfl, rfl⟩ := Prod.mk.inj heq
    rw [ih hp]
    rfl

/-- The quotes around the body of a text constant: one or three, of the same kind. -/
theorem readText?_spells {q : Char} {u body rest : List Char}
    (h : readText? (q :: u) = some (body, rest)) :
    q :: u = List.replicate (if [q, q].isPrefixOf u then 3 else 1) q ++ body
      ++ List.replicate (if [q, q].isPrefixOf u then 3 else 1) q ++ rest := by
  rw [readText?] at h
  split at h
  · rename_i hlong
    obtain ⟨t, rfl⟩ := List.isPrefixOf_iff_prefix.1 hlong
    have hbody : t = body ++ q :: q :: q :: rest := readLong?_spells h
    rw [if_pos hlong, hbody]
    simp [List.replicate]
  · rename_i hshort
    rw [if_neg hshort, readShort?_spells h]
    simp

/-! ## §3. Lexemes. -/

/-- Newlines that are passed are lines that are passed. -/
theorem Spot.line_passed (p : Spot) (n : Nat) (s : List Char) :
    (p.behind n s).line = p.line + (s.take n).count '\n' := by
  induction n generalizing p s with
  | zero => rfl
  | succ n ih =>
    cases s with
    | nil => rfl
    | cons c s =>
      show ((p.after c).behind n s).line = _
      rw [ih, List.take_succ_cons, List.count_cons]
      unfold Spot.after
      by_cases hc : c = '\n'
      · subst hc
        rw [if_pos rfl, if_pos (by rfl)]
        dsimp only
        omega
      · rw [if_neg hc, if_neg (by simpa using hc)]
        rfl

/-- How many levels of a grammar a lexeme may use up: an opening bracket two, for the expression
behind it and its factor, and a text constant as many as the code of its holes. -/
def Lexeme.weight : Lexeme → Nat
  | .sign s => if (closing? s).isSome then 2 else if isClosing s then 0 else 1
  | .text _ body => body.length + 2
  | _ => 1

/-- A lexeme at the start of a text, spelled by the given characters. -/
structure Lexeme.SpelledBy (x : Lexeme) (used rest : List Char) : Prop where
  nonempty : used ≠ []
  length : x.lengthIn (used ++ rest) rest = used.length
  /-- What goes on over the end of a line ends in a quote. -/
  ends : '\n' ∉ used ∨ ∃ q, used.getLast? = some q ∧ isQuote q = true
  /-- Only the colon ends in a colon. -/
  colon : used.getLast? = some ':' → x = .sign ":"
  /-- The brackets that it opens and closes make up for its weight. -/
  weight : ∀ closers closers', closersAfter? closers x = some closers' →
    x.weight + closers.length ≤ used.length + closers'.length

namespace Lexeme.SpelledBy

variable {used rest : List Char}

/-- Behind a lexeme the lines that it has passed are counted. -/
theorem line {x : Lexeme} (h : x.SpelledBy used rest) (p : Spot) :
    (p.behind (x.lengthIn (used ++ rest) rest) (used ++ rest)).line
      = p.line + used.count '\n' := by
  rw [h.length, Spot.line_passed, List.take_left]

/-- A lexeme of letters, digits and the like, which is no bracket. -/
theorem ofPlain {x : Lexeme} (hne : used ≠ []) (hline : '\n' ∉ used) (hcolon : ':' ∉ used)
    (hlength : x.lengthIn (used ++ rest) rest = used.length) (hweight : x.weight = 1)
    (hclosers : ∀ closers, closersAfter? closers x = some closers) :
    x.SpelledBy used rest where
  nonempty := hne
  length := hlength
  ends := Or.inl hline
  colon h := absurd (List.mem_of_getLast? h) hcolon
  weight closers closers' h := by
    obtain rfl := Option.some.inj ((hclosers closers).symm.trans h)
    have hpos := List.length_pos_iff.2 hne
    omega

theorem ofWord {w : List Char} (hne : w ≠ []) (hw : ∀ c ∈ w, (startsWord c || c.isDigit) = true)
    (rest : List Char) : (Lexeme.word (String.ofList w)).SpelledBy w rest := by
  have hlacks : ∀ c : Char, (startsWord c || c.isDigit) = false → c ∉ w := by
    intro c hc hmem
    rw [hw c hmem] at hc
    cases hc
  exact ofPlain hne (hlacks _ (by decide)) (hlacks _ (by decide)) String.length_ofList rfl fun _ => rfl

theorem ofNumber {c : Constant} (hne : used ≠ []) (hnumeric : ∀ c ∈ used, isNumeric c = true)
    (rest : List Char) : (Lexeme.number c).SpelledBy used rest := by
  have hlacks : ∀ c : Char, isNumeric c = false → c ∉ used := by
    intro c hc hmem
    rw [hnumeric c hmem] at hc
    cases hc
  refine ofPlain hne (hlacks _ (by decide)) (hlacks _ (by decide)) ?_ rfl fun _ => rfl
  have hrun : numericRun (used ++ rest) = used.length + numericRun rest := by
    unfold numericRun
    rw [List.takeWhile_append_of_pos (by exact hnumeric), List.length_append]
  show numericRun (used ++ rest) - numericRun rest = used.length
  rw [hrun, Nat.add_sub_cancel]

/-- The signs are no longer than they weigh, given the brackets that are still to be closed. -/
theorem ofSign {o : String} (ho : o ∈ signs) (rest : List Char) :
    (Lexeme.sign o).SpelledBy o.toList rest where
  nonempty := by
    have hall : signs.all (fun o => o.toList ≠ []) = true := by decide
    simpa using List.all_eq_true.1 hall o ho
  length := String.length_toList.symm
  ends := by
    have hall : signs.all (fun o => !o.toList.contains '\n') = true := by decide
    left
    simpa using List.all_eq_true.1 hall o ho
  colon h := by
    have hall : signs.all (fun o => o.toList.getLast? ≠ some ':' || o = ":") = true := by decide
    have ho := List.all_eq_true.1 hall o ho
    rw [h] at ho
    exact congrArg Lexeme.sign (by simpa using ho)
  weight closers closers' h := by
    have hlength : 1 ≤ o.toList.length := by
      have hall : signs.all (fun o => 1 ≤ o.toList.length) = true := by decide
      simpa using List.all_eq_true.1 hall o ho
    simp only [closersAfter?] at h
    show (if (closing? o).isSome then 2 else if isClosing o then 0 else 1) + _ ≤ _
    cases hc : closing? o with
    | some c =>
      rw [hc] at h
      dsimp only at h
      split at h
      · obtain rfl := Option.some.inj h
        simp only [Option.isSome_some, if_true, List.length_cons]
        omega
      · cases h
    | none =>
      rw [hc] at h
      dsimp only at h
      simp only [Option.isSome_none, Bool.false_eq_true, if_false]
      split at h
      · rename_i hclosing
        rw [if_pos hclosing]
        split at h
        · split at h
          · obtain rfl := Option.some.inj h
            simp only [List.length_cons]
            omega
          · cases h
        · cases h
      · rename_i hclosing
        obtain rfl := Option.some.inj h
        rw [if_neg hclosing]
        omega

/-- A text constant: its letters, a quote or three, its body, and as many quotes again. -/
theorem ofText {form : TextForm} {letters u body : List Char} {q : Char} (hq : isQuote q = true)
    (hletters : ∀ c ∈ letters, isQuote c = false ∧ c ≠ '\n')
    (hspells : q :: u = List.replicate (if [q, q].isPrefixOf u then 3 else 1) q ++ body
      ++ List.replicate (if [q, q].isPrefixOf u then 3 else 1) q ++ rest)
    (hused : letters ++ q :: u = used ++ rest) : (Lexeme.text form body).SpelledBy used rest := by
  generalize hn : (if [q, q].isPrefixOf u then 3 else 1) = n at hspells
  obtain rfl : used = letters ++ (List.replicate n q ++ body ++ List.replicate n q) := by
    rw [hspells] at hused
    rw [← List.append_assoc] at hused
    exact (List.append_cancel_right hused).symm
  have hpos : 1 ≤ n := by
    rw [← hn]
    split <;> omega
  have hlast : (letters ++ (List.replicate n q ++ body ++ List.replicate n q)).getLast? = some q := by
    obtain ⟨m, rfl⟩ : ∃ m, n = m + 1 := ⟨n - 1, by omega⟩
    rw [List.replicate_succ' (n := m), ← List.append_assoc, ← List.append_assoc,
      List.getLast?_concat]
  have hlength : (Lexeme.text form body).lengthIn
      (letters ++ (List.replicate n q ++ body ++ List.replicate n q) ++ rest) rest
      = (letters ++ (List.replicate n q ++ body ++ List.replicate n q)).length := by
    rw [← hused]
    have hrun : (letters ++ q :: u).takeWhile (!isQuote ·) = letters := by
      rw [List.takeWhile_append_of_pos (fun c hc => by simp [(hletters c hc).1]),
        List.takeWhile_cons_of_neg (by simp [hq]), List.append_nil]
    show ((letters ++ q :: u).takeWhile (!isQuote ·)).length + body.length + _ = _
    rw [hrun, List.drop_left]
    dsimp only
    have hquotes : (if [q, q].isPrefixOf u then 6 else 2) = 2 * n := by
      rw [← hn]
      split <;> rfl
    rw [hquotes]
    simp only [List.length_append, List.length_replicate]
    omega
  exact {
    nonempty := fun hnil => by rw [hnil] at hlast; cases hlast
    length := hlength
    ends := Or.inr ⟨q, hlast, hq⟩
    colon := fun h => by
      obtain rfl := Option.some.inj (hlast.symm.trans h)
      exact absurd hq (by decide)
    weight := fun closers closers' h => by
      obtain rfl := Option.some.inj h
      show body.length + 2 + _ ≤ _
      simp only [List.length_append, List.length_replicate]
      omega }

end Lexeme.SpelledBy

/-- **A lexeme is the front of the text that it is read from.** -/
theorem takes_readLexeme? {s rest : List Char} {x : Lexeme} (h : readLexeme? s = some (x, rest)) :
    ∃ used, s = used ++ rest ∧ x.SpelledBy used rest := by
  cases s with
  | nil => cases h
  | cons c r =>
    unfold readLexeme? at h
    dsimp only at h
    split at h
    · rename_i form t hform
      obtain ⟨p, hp, heq⟩ := Option.map_eq_some_iff.1 h
      obtain ⟨rfl, rfl⟩ := Prod.mk.inj heq
      obtain ⟨letters, hs, hletters, q, u, rfl, hq⟩ := textForm?_spells hform
      have hspells := readText?_spells hp
      refine ⟨letters ++ (List.replicate (if [q, q].isPrefixOf u then 3 else 1) q ++ p.1
        ++ List.replicate (if [q, q].isPrefixOf u then 3 else 1) q), ?_, ?_⟩
      · rw [hs, List.append_assoc letters, ← hspells]
      · refine .ofText hq hletters hspells ?_
        rw [List.append_assoc letters, ← hspells]
    · split at h
      · rename_i hstarts
        split at h
        · rename_i hword
          obtain ⟨rfl, rfl⟩ := Prod.mk.inj (Option.some.inj h)
          have hprefix := List.takeWhile_append_dropWhile
            (p := fun d => startsWord d || d.isDigit) (l := c :: r)
          have hdrop : (c :: r).drop ((c :: r).takeWhile (fun d => startsWord d || d.isDigit)).length
              = (c :: r).dropWhile (fun d => startsWord d || d.isDigit) := by
            have happend := List.prefix_iff_eq_append.1
              (List.takeWhile_prefix (fun d => startsWord d || d.isDigit) (l := c :: r))
            exact List.append_cancel_left (happend.trans hprefix.symm)
          rw [hdrop]
          refine ⟨_, hprefix.symm, .ofWord ?_ (fun d hd => ?_) _⟩
          · intro hnil
            rw [hnil] at hword
            cases hword
          · exact List.mem_takeWhile_imp (p := fun d => startsWord d || d.isDigit) hd
        · cases h
      · split at h
        · obtain ⟨p, hp, heq⟩ := Option.map_eq_some_iff.1 h
          obtain ⟨rfl, rfl⟩ := Prod.mk.inj heq
          rename_i hnumber
          have hfirst : c.isDigit = true ∨ c = '.' := by
            rw [Bool.or_eq_true, Bool.and_eq_true, decide_eq_true_eq] at hnumber
            exact hnumber.imp_right And.left
          obtain ⟨used, rfl, hused⟩ := readNumber?_leaves hfirst hp
          refine ⟨c :: used, rfl, .ofNumber (List.cons_ne_nil _ _) ?_ _⟩
          refine List.forall_mem_cons.2 ⟨?_, hused⟩
          rcases hfirst with hdigit | rfl
          · exact isNumeric_of_isDigitOf (by decide) (isDigitOf_ten hdigit)
          · decide
        · obtain ⟨p, hp, heq⟩ := Option.map_eq_some_iff.1 h
          obtain ⟨rfl, rfl⟩ := Prod.mk.inj heq
          unfold readSign? at hp
          obtain ⟨o, ho, rfl⟩ := Option.map_eq_some_iff.1 hp
          have hmem := List.mem_of_find?_eq_some ho
          have hfront : o.toList.isPrefixOf (c :: r) = true := by simpa using List.find?_some ho
          obtain ⟨t, ht⟩ := List.isPrefixOf_iff_prefix.1 hfront
          refine ⟨o.toList, ?_, .ofSign hmem _⟩
          dsimp only
          rw [← ht, ← String.length_toList, List.drop_left]

/-! ## §4. Lines of lexemes. -/

/-- The rest of a logical line is read: its lexemes, and where the text behind it starts.  `closers`
are the brackets that are open. -/
inductive ReadsLine :
    List String → Spot → List Char → List Tok → Spot → List Char → Prop
  | ended (here) : ReadsLine [] here [] [] here []
  | finished (here r) : ReadsLine [] here ('\n' :: r) [] (here.after '\n') r
  | goesOn {closers here r toks q rest} (hopen : closers ≠ [])
      (h : ReadsLine closers (here.after '\n') r toks q rest) :
      ReadsLine closers here ('\n' :: r) toks q rest
  | comment {closers here r toks q rest}
      (h : ReadsLine closers here (r.dropWhile (· ≠ '\n')) toks q rest) :
      ReadsLine closers here ('#' :: r) toks q rest
  | joined {closers here r toks q rest} (hmore : r ≠ [])
      (h : ReadsLine closers (here.after '\n') r toks q rest) :
      ReadsLine closers here ('\\' :: '\n' :: r) toks q rest
  | blank {closers here c r toks q rest} (hc : isIndentation c = true)
      (h : ReadsLine closers (here.after c) r toks q rest) :
      ReadsLine closers here (c :: r) toks q rest
  | lexeme {closers closers' : List String} {here : Spot} {c : Char} {r t : List Char} {x : Lexeme}
      {toks q rest} (hstart : c ≠ '\n' ∧ c ≠ '#' ∧ c ≠ '\\' ∧ isIndentation c = false)
      (hread : readLexeme? (c :: r) = some (x, t)) (hclosers : closersAfter? closers x = some closers')
      (h : ReadsLine closers' (here.behind (x.lengthIn (c :: r) t) (c :: r)) t toks q rest) :
      ReadsLine closers here (c :: r)
        (⟨x, here, here.behind (x.lengthIn (c :: r) t) (c :: r)⟩ :: toks) q rest

theorem readsLine_of_readLine? {fuel : Nat} {closers : List String} {here q : Spot}
    {s rest : List Char} {toks : List Tok} (h : readLine? fuel closers here s = some (toks, q, rest)) :
    ReadsLine closers here s toks q rest := by
  induction fuel generalizing closers here s toks with
  | zero => cases h
  | succ n ih =>
    unfold readLine? at h
    split at h
    · split at h
      · rename_i hempty
        obtain rfl := List.isEmpty_iff.1 hempty
        obtain ⟨rfl, rfl, rfl⟩ := by simpa using h
        exact .ended _
      · cases h
    · split at h
      · rename_i hempty
        obtain rfl := List.isEmpty_iff.1 hempty
        obtain ⟨rfl, rfl, rfl⟩ := by simpa using h
        exact .finished _ _
      · rename_i hopen
        exact .goesOn (fun hnil => hopen (List.isEmpty_iff.2 hnil)) (ih h)
    · exact .comment (ih h)
    · split at h
      · cases h
      · rename_i hmore
        exact .joined (fun hnil => hmore (List.isEmpty_iff.2 hnil)) (ih h)
    · cases h
    · rename_i c r hnewline hhash hjoined hback
      split at h
      · rename_i hc
        exact .blank hc (ih h)
      · rename_i hc
        obtain ⟨⟨x, t⟩, hread, h⟩ := Option.bind_eq_some_iff.1 h
        obtain ⟨closers', hclosers, h⟩ := Option.bind_eq_some_iff.1 h
        obtain ⟨⟨more, after⟩, hmore, h⟩ := Option.bind_eq_some_iff.1 h
        obtain ⟨rfl, rfl⟩ := Prod.mk.inj (Option.some.inj h)
        refine .lexeme ⟨?_, ?_, ?_, Bool.eq_false_iff.2 hc⟩ hread hclosers (ih hmore)
        · rintro rfl
          exact hnewline rfl
        · rintro rfl
          exact hhash rfl
        · rintro rfl
          exact hback rfl

/-- How many levels of a grammar some lexemes may use up. -/
def weightOf (ts : List Tok) : Nat := (ts.map (fun t => t.lexeme.weight)).sum

theorem weightOf_cons (t : Tok) (ts : List Tok) :
    weightOf (t :: ts) = t.lexeme.weight + weightOf ts := List.sum_cons

/-- Does a text end in a newline? -/
def EndsLine (s : List Char) : Prop := s.getLast? = some '\n'

theorem EndsLine.behind {used rest : List Char} (h : EndsLine (used ++ rest))
    (hused : used.getLast? ≠ some '\n') : EndsLine rest := by
  unfold EndsLine at h ⊢
  cases rest with
  | nil => exact absurd (by rwa [List.append_nil] at h) hused
  | cons c rest =>
    rw [List.getLast?_append, List.getLast?_cons] at h
    rwa [List.getLast?_cons]

theorem EndsLine.tail {c : Char} {r : List Char} (h : EndsLine (c :: r)) (hr : r ≠ []) :
    EndsLine r := by
  unfold EndsLine at h ⊢
  obtain ⟨d, r, rfl⟩ := List.exists_cons_of_ne_nil hr
  rwa [List.getLast?_cons_cons] at h

theorem EndsLine.tail_or {c : Char} {r : List Char} (h : EndsLine (c :: r)) :
    r = [] ∨ EndsLine r := by
  by_cases hr : r = []
  · exact Or.inl hr
  · exact Or.inr (h.tail hr)

/-- What is left of a line is ended by the same newline. -/
theorem EndsLine.restOfLine {c : Char} {r : List Char} (h : EndsLine (c :: r)) (hc : c ≠ '\n') :
    EndsLine (r.dropWhile (· ≠ '\n')) ∧ (r.dropWhile (· ≠ '\n')).length ≤ r.length := by
  have happend := List.takeWhile_append_dropWhile (p := (· ≠ '\n')) (l := r)
  refine ⟨?_, (List.dropWhile_suffix _).length_le⟩
  have h' : EndsLine (c :: r.takeWhile (· ≠ '\n') ++ r.dropWhile (· ≠ '\n')) := by
    rwa [List.cons_append, happend]
  refine h'.behind fun hlast => ?_
  rcases List.mem_cons.1 (List.mem_of_getLast? hlast) with heq | hmem
  · exact hc heq.symm
  · simpa using List.mem_takeWhile_imp hmem

theorem Lexeme.SpelledBy.getLast?_ne {x : Lexeme} {used rest : List Char}
    (h : x.SpelledBy used rest) : used.getLast? ≠ some '\n' := by
  intro hlast
  rcases h.ends with hline | ⟨q, hq, hquote⟩
  · exact hline (List.mem_of_getLast? hlast)
  · obtain rfl := Option.some.inj (hq.symm.trans hlast)
    exact absurd hquote (by decide)

/-- **The lexemes of a line weigh less than its text**, the open brackets and the text behind it
taken into account; and that text ends in a newline again. -/
theorem ReadsLine.weight_lt {closers : List String} {here q : Spot} {s rest : List Char}
    {toks : List Tok} (h : ReadsLine closers here s toks q rest) (hs : EndsLine s) :
    weightOf toks + rest.length + closers.length < s.length ∧ (rest = [] ∨ EndsLine rest) := by
  induction h with
  | ended here => cases hs
  | finished here r =>
    refine ⟨?_, hs.tail_or⟩
    show 0 + r.length + 0 < r.length + 1
    omega
  | @goesOn closers here r toks q rest hopen h ih =>
    have hr : r ≠ [] := by
      rintro rfl
      cases h
      exact hopen rfl
    obtain ⟨hweight, hend⟩ := ih (hs.tail hr)
    refine ⟨?_, hend⟩
    rw [List.length_cons]
    omega
  | @comment closers here r toks q rest h ih =>
    obtain ⟨hdrop, hlength⟩ := hs.restOfLine (by decide)
    obtain ⟨hweight, hend⟩ := ih hdrop
    refine ⟨?_, hend⟩
    rw [List.length_cons]
    omega
  | @joined closers here r toks q rest hmore h ih =>
    obtain ⟨hweight, hend⟩ := ih ((hs.tail (List.cons_ne_nil _ _)).tail hmore)
    refine ⟨?_, hend⟩
    rw [List.length_cons, List.length_cons]
    omega
  | @blank closers here c r toks q rest hc h ih =>
    have hmore : r ≠ [] := by
      rintro rfl
      obtain rfl : c = '\n' := Option.some.inj hs
      exact absurd hc (by decide)
    obtain ⟨hweight, hend⟩ := ih (hs.tail hmore)
    refine ⟨?_, hend⟩
    rw [List.length_cons]
    omega
  | lexeme hstart hread hclosers h ih =>
    obtain ⟨used, hused, hspelled⟩ := takes_readLexeme? hread
    rw [hused] at hs ⊢
    obtain ⟨hweight, hend⟩ := ih (hs.behind hspelled.getLast?_ne)
    have hlexeme := hspelled.weight _ _ hclosers
    refine ⟨?_, hend⟩
    rw [weightOf_cons, List.length_append]
    dsimp only
    omega

/-! ## §5. Logical lines. -/

/-- The logical lines of a text are read. -/
inductive ReadsLines : Spot → List Char → List LogicalLine → Prop
  | done (here) : ReadsLines here [] []
  | nothing {here s fuel m} (hs : s ≠ []) (hmargin : readMargin? fuel none ⟨0, 0⟩ here s = some m)
      (hrest : m.rest = []) : ReadsLines here s []
  | blank {here s fuel m r ls} (hs : s ≠ [])
      (hmargin : readMargin? fuel none ⟨0, 0⟩ here s = some m) (hrest : m.rest = '\n' :: r)
      (h : ReadsLines (m.place.after '\n') r ls) : ReadsLines here s ls
  | lastComment {here s fuel m r} (hs : s ≠ [])
      (hmargin : readMargin? fuel none ⟨0, 0⟩ here s = some m) (hrest : m.rest = '#' :: r)
      (hend : r.dropWhile (· ≠ '\n') = []) : ReadsLines here s []
  | comment {here s fuel m r c t ls} (hs : s ≠ [])
      (hmargin : readMargin? fuel none ⟨0, 0⟩ here s = some m) (hrest : m.rest = '#' :: r)
      (hend : r.dropWhile (· ≠ '\n') = c :: t) (h : ReadsLines (m.place.after '\n') t ls) :
      ReadsLines here s ls
  | line {here s fuel m toks q rest ls} (hs : s ≠ [])
      (hmargin : readMargin? fuel none ⟨0, 0⟩ here s = some m)
      (hstart : ∀ c ∈ m.rest.head?, c ≠ '\n' ∧ c ≠ '#') (hmore : m.rest ≠ [])
      (hline : ReadsLine [] m.place m.rest toks q rest) (h : ReadsLines q rest ls) :
      ReadsLines here s (⟨m.width, toks⟩ :: ls)

theorem readsLines_of_readLines? {fuel : Nat} {here : Spot} {s : List Char}
    {ls : List LogicalLine} (h : readLines? fuel here s = some ls) : ReadsLines here s ls := by
  induction fuel generalizing here s ls with
  | zero => cases h
  | succ n ih =>
    unfold readLines? at h
    split at h
    · rename_i hempty
      obtain rfl := List.isEmpty_iff.1 hempty
      obtain rfl := Option.some.inj h
      exact .done _
    · rename_i hempty
      have hs : s ≠ [] := fun hnil => hempty (List.isEmpty_iff.2 hnil)
      obtain ⟨m, hm, h⟩ := Option.bind_eq_some_iff.1 h
      split at h
      · rename_i hrest
        obtain rfl := Option.some.inj h
        exact .nothing hs hm hrest
      · rename_i r hrest
        exact .blank hs hm hrest (ih h)
      · rename_i r hrest
        split at h
        · rename_i hend
          obtain rfl := Option.some.inj h
          exact .lastComment hs hm hrest hend
        · rename_i hend
          exact .comment hs hm hrest hend (ih h)
      · rename_i hnil hnewline hhash
        obtain ⟨⟨toks, next, after⟩, hline, h⟩ := Option.bind_eq_some_iff.1 h
        obtain ⟨more, hmore, h⟩ := Option.bind_eq_some_iff.1 h
        obtain rfl := Option.some.inj h
        refine .line hs hm ?_ hnil (readsLine_of_readLine? hline) (ih hmore)
        intro c hc
        obtain ⟨r, hr⟩ := List.head?_eq_some_iff.1 hc
        constructor
        · rintro rfl
          exact hnewline r hr
        · rintro rfl
          exact hhash r hr

/-- The margin of a line is its front. -/
theorem readMargin?_endsLine {fuel : Nat} {fixed : Option Nat} {w : Width} {here : Spot}
    {s : List Char} {m : Margin} (h : readMargin? fuel fixed w here s = some m) (hs : EndsLine s) :
    EndsLine m.rest ∧ m.rest.length ≤ s.length := by
  induction fuel generalizing fixed w here s with
  | zero => cases h
  | succ n ih =>
    unfold readMargin? at h
    split at h
    · rename_i r
      split at h
      · cases h
      · rename_i hmore
        have hr : r ≠ [] := fun hnil => hmore (List.isEmpty_iff.2 hnil)
        have hrest := ih h ((hs.tail (List.cons_ne_nil _ _)).tail hr)
        exact ⟨hrest.1, by simp only [List.length_cons]; omega⟩
    · cases h
    · rename_i c r _ _
      split at h
      · rename_i hc
        have hr : r ≠ [] := by
          rintro rfl
          obtain rfl : c = '\n' := Option.some.inj hs
          exact absurd hc (by decide)
        have hrest := ih h (hs.tail hr)
        exact ⟨hrest.1, by simp only [List.length_cons]; omega⟩
      · obtain rfl := Option.some.inj h
        exact ⟨hs, Nat.le_refl _⟩
    · cases hs

/-- Every logical line weighs less than the text. -/
theorem ReadsLines.weight_lt {here : Spot} {s : List Char} {ls : List LogicalLine}
    (h : ReadsLines here s ls) (hs : s = [] ∨ EndsLine s) : ∀ l ∈ ls, weightOf l.toks < s.length := by
  induction h with
  | done here => exact fun _ hl => absurd hl List.not_mem_nil
  | nothing hne hmargin hrest => exact fun _ hl => absurd hl List.not_mem_nil
  | @blank here s fuel m r ls hne hmargin hrest h ih =>
    obtain ⟨hend, hlength⟩ := readMargin?_endsLine hmargin (hs.resolve_left hne)
    rw [hrest] at hend hlength
    rw [List.length_cons] at hlength
    intro l hl
    have hbehind := ih hend.tail_or l hl
    omega
  | lastComment hne hmargin hrest hend => exact fun _ hl => absurd hl List.not_mem_nil
  | @comment here s fuel m r c t ls hne hmargin hrest hdrop h ih =>
    obtain ⟨hend, hlength⟩ := readMargin?_endsLine hmargin (hs.resolve_left hne)
    rw [hrest] at hend hlength
    obtain ⟨hcomment, hle⟩ := hend.restOfLine (by decide)
    rw [hdrop] at hcomment hle
    rw [List.length_cons] at hlength hle
    intro l hl
    have hbehind := ih hcomment.tail_or l hl
    omega
  | @line here s fuel m toks q rest ls hne hmargin hstart hmore hline h ih =>
    obtain ⟨hend, hlength⟩ := readMargin?_endsLine hmargin (hs.resolve_left hne)
    obtain ⟨hweight, hrest⟩ := hline.weight_lt hend
    intro l hl
    rcases List.mem_cons.1 hl with rfl | hl
    · dsimp only
      omega
    · have := ih hrest l hl
      omega

theorem length_foldNewlines_le (s : List Char) : (Text.foldNewlines s).length ≤ s.length := by
  fun_induction Text.foldNewlines s with
  | case1 => exact Nat.le_refl _
  | case2 s ih =>
    simp only [List.length_cons]
    omega
  | case3 c s _ ih =>
    simp only [List.length_cons]
    omega

/-- **A logical line weighs no more than the code is long.** -/
theorem weightOf_le_of_logicalLines? {code : String} {ls : List LogicalLine}
    (h : logicalLines? code = some ls) : ∀ l ∈ ls, weightOf l.toks ≤ code.length := by
  have hlength := length_foldNewlines_le code.toList
  rw [String.length_toList] at hlength
  unfold logicalLines? at h
  dsimp only at h
  intro l hl
  split at h
  · rename_i hend
    have hlt := (readsLines_of_readLines? h).weight_lt (Or.inr hend) l hl
    omega
  · have hend : EndsLine (Text.foldNewlines code.toList ++ ['\n']) := List.getLast?_concat
    have hlt := (readsLines_of_readLines? h).weight_lt (Or.inr hend) l hl
    rw [List.length_append, List.length_singleton] at hlt
    omega

end Inlay.Code
