/-
  Inlay.Proofs.Remarks
  ────────────────────────────────
  **WHAT STANDS BEHIND A NUMBER SIGN.**

  Outside a text constant a number sign ends a lexeme as the end of the text
  does, and what stands behind it on its line is a comment.  So the lexemes
  in front of a comment are read without it:

      readLexeme?_hash     — a lexeme in front of a number sign
      ReadsLines.colonLine — code whose last character is a colon ends in that
                             lexeme, or in a comment
-/
import Inlay.Proofs.Colons
import Mathlib.Data.List.Find

namespace Inlay.Code

/-! ## §1. Numbers, words and signs. -/

section Front

variable {α : Type} {u v t : List Char}

/-- Does a reader take a number sign for the end of the text? -/
def StopsAtHash (f : List Char → Option (α × List Char)) : Prop :=
  ∀ u v, f (u ++ '#' :: v) = (f u).map (fun p => (p.1, p.2 ++ '#' :: v))

theorem isPrefixOf_hash {o : List Char} (ho : '#' ∉ o) (u v : List Char) :
    o.isPrefixOf (u ++ '#' :: v) = o.isPrefixOf u := by
  induction o generalizing u with
  | nil => rw [List.isPrefixOf_nil_left, List.isPrefixOf_nil_left]
  | cons a o ih =>
    obtain ⟨ha, ho⟩ := List.ne_and_not_mem_of_not_mem_cons ho
    cases u with
    | nil =>
      show (a == '#' && _) = false
      rw [beq_false_of_ne ha.symm, Bool.false_and]
    | cons c u =>
      show (a == c && o.isPrefixOf (u ++ '#' :: v)) = (a == c && o.isPrefixOf u)
      rw [ih ho]

theorem takeWhile_hash {p : Char → Bool} (hp : p '#' = false) (u v : List Char) :
    (u ++ '#' :: v).takeWhile p = u.takeWhile p := by
  induction u with
  | nil => rw [List.nil_append, List.takeWhile_cons, hp, List.takeWhile_nil]; rfl
  | cons c u ih => rw [List.cons_append, List.takeWhile_cons, List.takeWhile_cons, ih]

theorem any_head?_hash {p : Char → Bool} (hp : p '#' = false) (u v : List Char) :
    (u ++ '#' :: v).head?.any p = u.head?.any p := by
  cases u with
  | nil => exact hp
  | cons c u => rfl

theorem endsNumber_hash (u v : List Char) : endsNumber (u ++ '#' :: v) = endsNumber u := by
  cases u with
  | nil => rfl
  | cons c u =>
    rw [List.cons_append, endsNumber, endsNumber]
    simp (disch := decide) only [List.any_cons, List.any_nil, ← List.cons_append, isPrefixOf_hash]
    rfl

theorem finishNumber?_hash (c : Constant) : StopsAtHash (finishNumber? c) := by
  intro u v
  unfold finishNumber?
  rw [endsNumber_hash]
  split <;> rfl

theorem isDigitOf_hash {base : Nat} (hbase : base ≤ 16) : isDigitOf base '#' = false := by
  rw [Bool.eq_false_iff]
  intro hdigit
  exact absurd (isNumeric_of_isDigitOf hbase hdigit) (by decide)

theorem digitRun?_hash {base : Nat} (hbase : base ≤ 16) : StopsAtHash (digitRun? base) := by
  have hhash : ¬isDigitOf base '#' = true := Bool.eq_false_iff.1 (isDigitOf_hash hbase)
  intro u v
  fun_induction digitRun? base u with
  | case1 =>
    rw [List.nil_append, digitRun?, if_neg hhash]
    · rfl
    · exact fun h => absurd h (by decide)
  | case2 c s hc ih =>
    show digitRun? base ('_' :: c :: (s ++ '#' :: v)) = _
    rw [digitRun?, if_pos hc, ← ih]
    rfl
  | case3 c s hc =>
    show digitRun? base ('_' :: c :: (s ++ '#' :: v)) = _
    rw [digitRun?, if_neg hc]
    rfl
  | case4 =>
    show digitRun? base ('_' :: '#' :: v) = _
    rw [digitRun?, if_neg hhash]
    rfl
  | case5 c s hne hc ih =>
    rw [List.cons_append, digitRun?, if_pos hc, ih]
    · cases digitRun? base s <;> rfl
    · exact hne
  | case6 c s hne hc =>
    rw [List.cons_append, digitRun?, if_neg hc]
    · rfl
    · exact hne

theorem readBase?_hash {base : Nat} (hbase : base ≤ 16) : StopsAtHash (readBase? base) := by
  intro u v
  -- an underscore may stand between the letter of the base and the digits
  have hscore : (if (u ++ '#' :: v).head? = some '_' then (u ++ '#' :: v).tail else u ++ '#' :: v)
      = (if u.head? = some '_' then u.tail else u) ++ '#' :: v := by
    cases u with
    | nil => rfl
    | cons c u =>
      show (if some c = some '_' then u ++ '#' :: v else c :: (u ++ '#' :: v)) = _
      rw [List.head?_cons, apply_ite (· ++ '#' :: v)]
      rfl
  unfold readBase?
  dsimp only
  rw [hscore]
  generalize (if u.head? = some '_' then u.tail else u) = w
  rw [any_head?_hash (isDigitOf_hash hbase), digitRun?_hash hbase]
  split
  · rfl
  · cases digitRun? base w with
    | none => rfl
    | some p =>
      simp only [Option.map_some, Option.bind_eq_bind, Option.bind_some]
      rw [any_head?_hash (by decide), finishNumber?_hash]
      split <;> rfl

/-- What follows the letter of an exponent: digits, of which the sign is taken already. -/
def exponentDigits? (s : List Char) (sign : Option Int) (digits : List Char) :
    Option (Option Int × List Char) :=
  if digits.head?.any Char.isDigit then
    (digitRun? 10 digits).map (fun p => (some (sign.getD 1 * (digitsValue 10 p.1 : Int)), p.2))
  else if sign.isSome then none
  else if endsNumber s then some (none, s) else none

theorem exponentDigits?_hash (s : List Char) (sign : Option Int) (digits v : List Char) :
    exponentDigits? (s ++ '#' :: v) sign (digits ++ '#' :: v)
      = (exponentDigits? s sign digits).map (fun p => (p.1, p.2 ++ '#' :: v)) := by
  unfold exponentDigits?
  rw [any_head?_hash (by decide), digitRun?_hash (by decide), endsNumber_hash]
  split
  · cases digitRun? 10 digits <;> rfl
  · split
    · rfl
    · split <;> rfl

/-- The sign in front of the digits of an exponent, and what follows it. -/
def exponentSign : List Char → Option Int × List Char
  | '+' :: t => (some 1, t)
  | '-' :: t => (some (-1), t)
  | t => (none, t)

theorem exponentSign_hash (u v : List Char) :
    exponentSign (u ++ '#' :: v) = ((exponentSign u).1, (exponentSign u).2 ++ '#' :: v) := by
  fun_cases exponentSign u with
  | case1 => rfl
  | case2 => rfl
  | case3 t hplus hminus =>
    unfold exponentSign
    split
    · rename_i w heq
      cases u with
      | nil => cases heq
      | cons c u => exact absurd (by rw [(List.cons.inj heq).1]) (hplus u)
    · rename_i w heq
      cases u with
      | nil => cases heq
      | cons c u => exact absurd (by rw [(List.cons.inj heq).1]) (hminus u)
    · rfl

theorem readExponent?_cons (e : Char) (s : List Char) :
    readExponent? (e :: s) = if e = 'e' || e = 'E' then
        exponentDigits? (e :: s) (exponentSign s).1 (exponentSign s).2
      else some (none, e :: s) := rfl

theorem readExponent?_hash : StopsAtHash readExponent? := by
  intro u v
  cases u with
  | nil => rfl
  | cons e u =>
    rw [List.cons_append, readExponent?_cons, readExponent?_cons, exponentSign_hash,
      ← List.cons_append, exponentDigits?_hash]
    split <;> rfl

theorem readTail?_hash (whole : List Char) (leadingZero : Bool) :
    StopsAtHash (readTail? whole leadingZero) := by
  intro u v
  unfold readTail?
  extract_lets finish
  -- behind the fraction: an exponent, and perhaps the letter of the imaginary unit
  have hfinish : ∀ fraction t hasPoint, finish (fraction, t ++ '#' :: v, hasPoint)
      = (finish (fraction, t, hasPoint)).map (fun p => (p.1, p.2 ++ '#' :: v)) := by
    intro fraction t hasPoint
    dsimp only [finish]
    rw [readExponent?_hash]
    cases readExponent? t with
    | none => rfl
    | some p =>
      obtain ⟨exponent, w⟩ := p
      dsimp only [Option.map_some, Option.bind_eq_bind, Option.bind_some]
      cases w with
      | nil =>
        rw [List.nil_append]
        dsimp only
        rw [if_neg (by decide)]
        split
        · rfl
        · split
          · rfl
          · cases wholeConstant? whole <;> rfl
      | cons j r =>
        rw [List.cons_append]
        dsimp only
        rw [← List.cons_append, finishNumber?_hash, finishNumber?_hash]
        split
        · rfl
        · split
          · rfl
          · split
            · rfl
            · cases wholeConstant? whole with
              | none => rfl
              | some d => exact finishNumber?_hash d (j :: r) v
  -- in front of it: a point with digits, a bare point, or no point
  cases u with
  | nil => exact hfinish [] [] false
  | cons c u =>
    by_cases hpoint : c = '.'
    · subst hpoint
      show (if (u ++ '#' :: v).head?.any Char.isDigit = true then
          ((digitRun? 10 (u ++ '#' :: v)).map (fun p => (p.1, p.2, true))).bind finish
        else finish ([], u ++ '#' :: v, true)) = Option.map _
          (if u.head?.any Char.isDigit = true then
            ((digitRun? 10 u).map (fun p => (p.1, p.2, true))).bind finish
          else finish ([], u, true))
      rw [any_head?_hash (by decide), digitRun?_hash (by decide)]
      split
      · cases digitRun? 10 u with
        | none => rfl
        | some p => exact hfinish p.1 p.2 true
      · exact hfinish [] u true
    · have hwhole := hfinish [] (c :: u) false
      rw [List.cons_append] at hwhole ⊢
      split
      · rename_i heq
        exact absurd (List.cons.inj heq).1 hpoint
      · split
        · rename_i heq
          exact absurd (List.cons.inj heq).1 hpoint
        · exact hwhole

/-- The letters that announce a base. -/
def baseLetters : List Char := ['x', 'X', 'o', 'O', 'b', 'B']

/-- A number of base ten that starts with a digit. -/
theorem readNumber?_decimal {s : List Char} (hbase : ∀ d w, s = '0' :: d :: w → d ∉ baseLetters)
    (hpoint : ∀ w, s ≠ '.' :: w) : readNumber? s = (digitRun? 10 s).bind (fun p =>
      readTail? p.1 (p.1.head? = some '0' && p.1.any (· ≠ '0')) p.2) := by
  unfold readNumber?
  split
  · exact absurd (by decide) (hbase 'x' _ rfl)
  · exact absurd (by decide) (hbase 'X' _ rfl)
  · exact absurd (by decide) (hbase 'o' _ rfl)
  · exact absurd (by decide) (hbase 'O' _ rfl)
  · exact absurd (by decide) (hbase 'b' _ rfl)
  · exact absurd (by decide) (hbase 'B' _ rfl)
  · exact absurd rfl (hpoint _)
  · rfl

theorem readNumber?_hash : StopsAtHash readNumber? := by
  intro u v
  by_cases hbase : ∃ d w, u = '0' :: d :: w ∧ d ∈ baseLetters
  · obtain ⟨d, w, rfl, hd⟩ := hbase
    simp only [baseLetters, List.mem_cons, List.not_mem_nil, or_false] at hd
    rcases hd with rfl | rfl | rfl | rfl | rfl | rfl
    · exact readBase?_hash (Nat.le_refl 16) w v
    · exact readBase?_hash (Nat.le_refl 16) w v
    · exact readBase?_hash (by decide) w v
    · exact readBase?_hash (by decide) w v
    · exact readBase?_hash (by decide) w v
    · exact readBase?_hash (by decide) w v
  · by_cases hpoint : ∃ w, u = '.' :: w
    · obtain ⟨w, rfl⟩ := hpoint
      exact readTail?_hash [] false ('.' :: w) v
    · -- a number sign is no such letter, so the longer text announces no base either
      have hbase' : ∀ d w, u ++ '#' :: v = '0' :: d :: w → d ∉ baseLetters := by
        intro d w hu hd
        rcases u with _ | ⟨c, _ | ⟨e, u⟩⟩
        · exact absurd (List.cons.inj hu).1 (by decide)
        · obtain rfl := (List.cons.inj (List.cons.inj hu).2).1
          exact absurd hd (by decide)
        · obtain ⟨rfl, hbehind⟩ := List.cons.inj hu
          obtain rfl := (List.cons.inj hbehind).1
          exact hbase ⟨_, _, rfl, hd⟩
      have hpoint' : ∀ w, u ++ '#' :: v ≠ '.' :: w := by
        intro w hu
        cases u with
        | nil => exact absurd (List.cons.inj hu).1 (by decide)
        | cons c u =>
          obtain ⟨rfl, -⟩ := List.cons.inj hu
          exact hpoint ⟨_, rfl⟩
      rw [readNumber?_decimal hbase' hpoint',
        readNumber?_decimal (fun d w hu hd => hbase ⟨d, w, hu, hd⟩) fun w hu => hpoint ⟨w, hu⟩,
        digitRun?_hash (by decide)]
      cases digitRun? 10 u with
      | none => rfl
      | some p => exact readTail?_hash _ _ p.2 v

theorem readSign?_hash : StopsAtHash readSign? := by
  intro u v
  -- no sign holds a number sign, so the first that fits is the same
  have hfind : signs.find? (fun o => o.toList.isPrefixOf (u ++ '#' :: v))
      = signs.find? (fun o => o.toList.isPrefixOf u) := by
    refine List.find?_congr fun o ho => isPrefixOf_hash ?_ u v
    have hall : signs.all (fun o => !o.toList.contains '#') = true := by decide
    simpa using List.all_eq_true.1 hall o ho
  unfold readSign?
  rw [hfind]
  cases hfound : signs.find? (fun o => o.toList.isPrefixOf u) with
  | none => rfl
  | some o =>
    have hfront : o.toList.isPrefixOf u = true := by simpa using List.find?_some hfound
    have hlength : o.length ≤ u.length := by
      rw [← String.length_toList]
      exact (List.isPrefixOf_iff_prefix.1 hfront).length_le
    simp only [Option.map_some]
    rw [List.drop_append_of_le_length hlength]

theorem textForm?_hash (f : TextForm) : StopsAtHash (textForm? f) := by
  have hhash : ∀ f : TextForm, f.add? '#' = none := by
    intro f
    unfold TextForm.add?
    simp
  intro u v
  fun_induction textForm? f u with
  | case1 f =>
    rw [List.nil_append, textForm?, if_neg (by decide), hhash]
    rfl
  | case2 f c s hquote =>
    rw [List.cons_append, textForm?, if_pos hquote]
    rfl
  | case3 f c s hquote g hadd ih =>
    rw [List.cons_append, textForm?, if_neg hquote, hadd]
    exact ih
  | case4 f c s hquote hadd =>
    rw [List.cons_append, textForm?, if_neg hquote, hadd]
    rfl

/-! ## §2. Text constants. -/

/-- A text constant is read up to its quote, whatever stands behind it. -/
theorem readShort?_behind {q : Char} {s body r : List Char} (hq : isQuote q = true)
    (h : readShort? q s = some (body, r)) (r' : List Char) :
    readShort? q (body ++ q :: r') = some (body, r') := by
  fun_induction readShort? q s generalizing body with
  | case1 => cases h
  | case2 c s ih =>
    obtain ⟨p, hp, heq⟩ := Option.map_eq_some_iff.1 h
    obtain ⟨rfl, rfl⟩ := Prod.mk.inj heq
    rw [List.cons_append, List.cons_append, readShort?, ih hp]
    rfl
  | case3 s =>
    -- the quote that closes is no backslash, which would take the next character too
    obtain ⟨rfl, rfl⟩ := Prod.mk.inj (Option.some.inj h)
    rw [List.nil_append, readShort?, if_pos rfl]
    rintro c t rfl -
    exact absurd hq (by decide)
  | case4 => cases h
  | case5 c s hne hc hline ih =>
    obtain ⟨p, hp, heq⟩ := Option.map_eq_some_iff.1 h
    obtain ⟨rfl, rfl⟩ := Prod.mk.inj heq
    rw [List.cons_append, readShort?, if_neg hc, if_neg hline, ih hp]
    · rfl
    · rintro d t rfl -
      cases s with
      | nil => cases hp
      | cons d s => exact hne d s rfl rfl

theorem readLong?_behind {q : Char} {s body r : List Char} (hq : isQuote q = true)
    (h : readLong? q s = some (body, r)) (r' : List Char) :
    readLong? q (body ++ q :: q :: q :: r') = some (body, r') := by
  fun_induction readLong? q s generalizing body with
  | case1 => cases h
  | case2 c s ih =>
    obtain ⟨p, hp, heq⟩ := Option.map_eq_some_iff.1 h
    obtain ⟨rfl, rfl⟩ := Prod.mk.inj heq
    rw [List.cons_append, List.cons_append, readLong?, ih hp]
    rfl
  | case3 c s hne hclose =>
    obtain ⟨rfl, rfl⟩ := Prod.mk.inj (Option.some.inj h)
    rw [List.nil_append, readLong?, if_pos]
    · rfl
    · simp
    · rintro c t rfl -
      exact absurd hq (by decide)
  | case4 c s hne hopen ih =>
    obtain ⟨p, hp, heq⟩ := Option.map_eq_some_iff.1 h
    obtain ⟨rfl, rfl⟩ := Prod.mk.inj heq
    have hspells := readLong?_spells hp
    -- whether two quotes come next is told by the body and the closing quotes
    have hnext : [q, q].isPrefixOf (p.1 ++ q :: q :: q :: r') = [q, q].isPrefixOf s := by
      rw [hspells]
      rcases p.1 with _ | ⟨a, _ | ⟨b, w⟩⟩ <;> rfl
    rw [← hnext] at hopen
    rw [List.cons_append, readLong?, if_neg hopen, ih hp]
    · rfl
    · rintro d t rfl -
      cases s with
      | nil => cases hp
      | cons d s => exact hne d s rfl rfl

/-- What closes a text constant stands in front of the number sign, or behind it. -/
theorem closes_hash {f : List Char → Option (List Char × List Char)} (quotes : List Char)
    (hspells : ∀ s body r, f s = some (body, r) → s = body ++ (quotes ++ r))
    (hbehind : ∀ s body r r', f s = some (body, r) → f (body ++ (quotes ++ r')) = some (body, r'))
    {u t body : List Char} (v : List Char) :
    f (u ++ '#' :: v) = some (body, t ++ '#' :: v) ↔ f u = some (body, t) := by
  constructor
  · intro h
    have hu : u = body ++ (quotes ++ t) := by
      have hall := hspells _ _ _ h
      rw [← List.append_assoc, ← List.append_assoc] at hall
      rw [← List.append_assoc]
      exact List.append_cancel_right hall
    rw [hu]
    exact hbehind _ _ _ t h
  · intro h
    have hall := hbehind _ _ _ (t ++ '#' :: v) h
    rwa [← List.append_assoc, ← List.append_assoc, List.append_assoc body,
      ← hspells _ _ _ h] at hall

theorem readText?_hash {q : Char} {u t body : List Char} (hq : isQuote q = true) (v : List Char) :
    readText? (q :: u ++ '#' :: v) = some (body, t ++ '#' :: v)
      ↔ readText? (q :: u) = some (body, t) := by
  -- whether the constant is a long one is told by quotes
  have hlacks : '#' ∉ [q, q] := by
    intro hmem
    obtain rfl : '#' = q := by simpa using hmem
    exact absurd hq (by decide)
  rw [List.cons_append, readText?, readText?, isPrefixOf_hash hlacks]
  split
  · rename_i hlong
    have hlength : 2 ≤ u.length := (List.isPrefixOf_iff_prefix.1 hlong).length_le
    rw [List.drop_append_of_le_length hlength]
    exact closes_hash [q, q, q]
      (fun s body r h => readLong?_spells h) (fun s body r r' h => readLong?_behind hq h r') v
  · exact closes_hash [q]
      (fun s body r h => readShort?_spells h) (fun s body r r' h => readShort?_behind hq h r') v

/-! ## §3. Lexemes. -/

/-- What a reader finds in front of a number sign is what it finds where the text ends there. -/
theorem StopsAtHash.eq_some_iff {f : List Char → Option (α × List Char)} (hf : StopsAtHash f)
    {a : α} (u t v : List Char) :
    f (u ++ '#' :: v) = some (a, t ++ '#' :: v) ↔ f u = some (a, t) := by
  rw [hf]
  constructor
  · intro h
    obtain ⟨p, hp, heq⟩ := Option.map_eq_some_iff.1 h
    obtain ⟨rfl, hrest⟩ := Prod.mk.inj heq
    rw [hp, ← List.append_cancel_right hrest]
  · intro h
    rw [h]
    rfl

theorem StopsAtHash.map {β : Type} {f : List Char → Option (α × List Char)} (hf : StopsAtHash f)
    (g : α → β) : StopsAtHash (fun s => (f s).map (fun p => (g p.1, p.2))) := by
  intro u v
  dsimp only
  rw [hf]
  cases f u <;> rfl

/-- **A lexeme in front of a number sign is read as if the text ended there.** -/
theorem readLexeme?_hash {u t : List Char} {x : Lexeme} (v : List Char) :
    readLexeme? (u ++ '#' :: v) = some (x, t ++ '#' :: v) ↔ readLexeme? u = some (x, t) := by
  cases u with
  | nil =>
    have hnone : readLexeme? ('#' :: v) = none := by
      have hform : textForm? {} ('#' :: v) = none := textForm?_hash {} [] v
      have hsign : readSign? ('#' :: v) = none := readSign?_hash [] v
      unfold readLexeme?
      dsimp only
      rw [hform, hsign]
      rfl
    rw [List.nil_append, hnone]
    constructor <;> exact fun h => nomatch h
  | cons c u =>
    rw [List.cons_append]
    unfold readLexeme?
    dsimp only
    rw [← List.cons_append, textForm?_hash]
    cases hform : textForm? {} (c :: u) with
    | some p =>
      -- a text constant, behind the letters in front of its quote
      obtain ⟨form, w⟩ := p
      obtain ⟨letters, -, -, q, w, rfl, hq⟩ := textForm?_spells hform
      dsimp only [Option.map_some]
      constructor
      · intro h
        obtain ⟨⟨body, r⟩, hp, heq⟩ := Option.map_eq_some_iff.1 h
        obtain ⟨rfl, rfl⟩ := Prod.mk.inj heq
        rw [(readText?_hash hq v).1 hp]
        rfl
      · intro h
        obtain ⟨⟨body, r⟩, hp, heq⟩ := Option.map_eq_some_iff.1 h
        obtain ⟨rfl, rfl⟩ := Prod.mk.inj heq
        rw [(readText?_hash hq v).2 hp]
        rfl
    | none =>
      dsimp only [Option.map_none]
      rw [takeWhile_hash (by decide)]
      split
      · -- a word
        have hlength : ((c :: u).takeWhile (fun d => startsWord d || d.isDigit)).length
            ≤ (c :: u).length := (List.takeWhile_prefix _).length_le
        rw [List.drop_append_of_le_length hlength]
        split
        · constructor
          · intro h
            obtain ⟨rfl, hrest⟩ := Prod.mk.inj (Option.some.inj h)
            rw [List.append_cancel_right hrest]
          · intro h
            obtain ⟨rfl, rfl⟩ := Prod.mk.inj (Option.some.inj h)
            rfl
        · constructor <;> exact fun h => nomatch h
      · rw [any_head?_hash (by decide)]
        -- a number, or a sign
        split
        · exact (readNumber?_hash.map Lexeme.number).eq_some_iff (c :: u) t v
        · exact (readSign?_hash.map Lexeme.sign).eq_some_iff (c :: u) t v

/-- A lexeme takes the same characters, whatever stands behind a number sign behind it. -/
theorem readLexeme?_rebehind {used f : List Char} {x : Lexeme}
    (h : readLexeme? (used ++ (f ++ '#' :: v)) = some (x, f ++ '#' :: v)) (v' : List Char) :
    readLexeme? (used ++ (f ++ '#' :: v')) = some (x, f ++ '#' :: v')
      ∧ x.SpelledBy used (f ++ '#' :: v') := by
  rw [← List.append_assoc] at h ⊢
  have hread : readLexeme? (used ++ f ++ '#' :: v') = some (x, f ++ '#' :: v') :=
    (readLexeme?_hash v').2 ((readLexeme?_hash v).1 h)
  refine ⟨hread, ?_⟩
  obtain ⟨used', hused, hspelled⟩ := takes_readLexeme? hread
  rw [List.append_assoc] at hused
  rwa [List.append_cancel_right hused]

end Front

theorem Spot.behind_front (p : Spot) (s t : List Char) :
    p.behind s.length (s ++ t) = p.behind s.length s := by
  induction s generalizing p with
  | nil => cases t <;> rfl
  | cons c s ih => exact ih (p.after c)

/-- A line is left up to its end. -/
theorem dropWhile_line {text : List Char} (h : '\n' ∉ text) (w : List Char) :
    (text ++ '\n' :: w).dropWhile (· ≠ '\n') = '\n' :: w := by
  have hline : ∀ c ∈ text, decide (c ≠ '\n') = true :=
    fun c hc => decide_eq_true (ne_of_mem_of_not_mem hc h)
  rw [List.dropWhile_append_of_pos hline, List.dropWhile_cons_of_neg (by simp)]

theorem newline_notMem_takeWhile (r : List Char) : '\n' ∉ r.takeWhile (· ≠ '\n') :=
  fun hmem => by simpa using List.mem_takeWhile_imp hmem

/-- What is left of a line starts with its end. -/
theorem exists_newline_of_dropWhile {r f v : List Char}
    (h : r.dropWhile (· ≠ '\n') = f ++ '#' :: v) : ∃ f', f = '\n' :: f' := by
  have hhead := List.head?_dropWhile_not (· ≠ '\n') r
  rw [h] at hhead
  cases f with
  | nil => simp at hhead
  | cons c f =>
    obtain rfl : c = '\n' := by simpa using hhead
    exact ⟨f, rfl⟩

/-! ## §4. Steps along a line. -/

/-- A step along a logical line, from some open brackets, a place and the text there: the lexemes
that are found, none or one, and the same behind the step. -/
inductive LineStep :
    List String → Spot → List Char → List Tok → List String → Spot → List Char → Prop
  | goesOn {closers here r} (hopen : closers ≠ []) :
      LineStep closers here ('\n' :: r) [] closers (here.after '\n') r
  | comment {closers here r} :
      LineStep closers here ('#' :: r) [] closers here (r.dropWhile (· ≠ '\n'))
  | joined {closers here r} (hmore : r ≠ []) :
      LineStep closers here ('\\' :: '\n' :: r) [] closers (here.after '\n') r
  | blank {closers here c r} (hc : isIndentation c = true) :
      LineStep closers here (c :: r) [] closers (here.after c) r
  | lexeme {closers closers' : List String} {here : Spot} {used t : List Char} {x : Lexeme}
      (hstart : ∀ c ∈ used.head?, c ≠ '\n' ∧ c ≠ '#' ∧ c ≠ '\\' ∧ isIndentation c = false)
      (hread : readLexeme? (used ++ t) = some (x, t)) (hspelled : x.SpelledBy used t)
      (hclosers : closersAfter? closers x = some closers') :
      LineStep closers here (used ++ t) [⟨x, here, here.behind used.length used⟩] closers'
        (here.behind used.length used) t

/-- A logical line is over at its start, or goes on behind a step. -/
inductive LineRun :
    List String → Spot → List Char → List Tok → Spot → List Char → Prop
  | ended (here) : LineRun [] here [] [] here []
  | finished (here r) : LineRun [] here ('\n' :: r) [] (here.after '\n') r
  | step {closers closers' here here' s s' front toks q rest}
      (h : LineStep closers here s front closers' here' s')
      (hrun : LineRun closers' here' s' toks q rest) :
      LineRun closers here s (front ++ toks) q rest

theorem ReadsLine.lineRun {closers : List String} {here q : Spot} {s rest : List Char}
    {toks : List Tok} (h : ReadsLine closers here s toks q rest) :
    LineRun closers here s toks q rest := by
  induction h with
  | ended here => exact .ended here
  | finished here r => exact .finished here r
  | goesOn hopen h ih => exact .step (.goesOn hopen) ih
  | comment h ih => exact .step .comment ih
  | joined hmore h ih => exact .step (.joined hmore) ih
  | blank hc h ih => exact .step (.blank hc) ih
  | @lexeme closers closers' here c r t x toks q rest hstart hread hclosers h ih =>
    obtain ⟨used, hused, hspelled⟩ := takes_readLexeme? hread
    rw [hused] at hread ih ⊢
    rw [hspelled.length, Spot.behind_front] at ih ⊢
    refine .step (.lexeme ?_ hread hspelled hclosers) ih
    intro d hd
    obtain ⟨w, rfl⟩ := List.head?_eq_some_iff.1 hd
    obtain rfl := (List.cons.inj hused).1
    exact hstart

namespace LineStep

variable {closers closers' : List String} {here here' : Spot} {s s' : List Char} {front : List Tok}

theorem length_lt (h : LineStep closers here s front closers' here' s') : s'.length < s.length := by
  cases h with
  | goesOn hopen => exact Nat.lt_succ_self _
  | comment => exact Nat.lt_succ_of_le (List.dropWhile_suffix _).length_le
  | joined hmore => exact Nat.lt_succ_of_lt (Nat.lt_succ_self _)
  | blank hc => exact Nat.lt_succ_self _
  | lexeme hstart hread hspelled hclosers =>
    have hpos := List.length_pos_iff.2 hspelled.nonempty
    rw [List.length_append]
    omega

/-- The reader of a line takes the same step. -/
theorem readLine?_eq (h : LineStep closers here s front closers' here' s') (n : Nat) :
    readLine? (n + 1) closers here s
      = (readLine? n closers' here' s').map (fun p => (front ++ p.1, p.2)) := by
  have hsame : ∀ o : Option (List Tok × Spot × List Char), o.map (fun p => ([] ++ p.1, p.2)) = o :=
    fun o => congrFun Option.map_id o
  cases h with
  | goesOn hopen =>
    rw [hsame, readLine?, if_neg fun hnil => hopen (List.isEmpty_iff.1 hnil)]
  | comment => exact (hsame _).symm
  | joined hmore =>
    rw [hsame, readLine?, if_neg fun hnil => hmore (List.isEmpty_iff.1 hnil)]
  | blank hc =>
    rename_i c
    rw [hsame]
    -- what the reader asks for before it asks for blanks
    have hne : c ≠ '\n' ∧ c ≠ '#' ∧ c ≠ '\\' := by
      refine ⟨?_, ?_, ?_⟩ <;> (rintro rfl; exact absurd hc (by decide))
    rw [readLine?, if_pos hc]
    · exact hne.1
    · exact hne.2.1
    · exact fun _ heq _ => hne.2.2 heq
    · exact hne.2.2
  | lexeme hstart hread hspelled hclosers =>
    rename_i used x
    have hlength := hspelled.length
    obtain ⟨c, w, rfl⟩ := List.exists_cons_of_ne_nil hspelled.nonempty
    obtain ⟨hline, hhash, hback, hindent⟩ := hstart c rfl
    have hplace : here.behind (x.lengthIn (c :: w ++ s') s') (c :: w ++ s')
        = here.behind (c :: w).length (c :: w) := by
      rw [hlength, Spot.behind_front]
    rw [List.cons_append] at hread hplace ⊢
    rw [readLine?, if_neg (by rw [hindent]; exact Bool.false_ne_true), hread]
    · dsimp only [Option.bind_eq_bind, Option.bind_some]
      rw [hclosers, Option.bind_some, hplace]
      cases readLine? n closers' (here.behind (c :: w).length (c :: w)) s' <;> rfl
    · exact hline
    · exact hhash
    · exact fun _ heq _ => hback heq
    · exact hback

/-- What stands behind a number sign behind the step plays no part for it. -/
theorem rebehind (h : LineStep closers here s front closers' here' s') {f v : List Char}
    (hs' : s' = f ++ '#' :: v) : ∃ used, s = used ++ s' ∧ ∀ v',
      LineStep closers here (used ++ (f ++ '#' :: v')) front closers' here' (f ++ '#' :: v') := by
  have hne : ∀ v', f ++ '#' :: v' ≠ [] :=
    fun v' => List.append_ne_nil_of_right_ne_nil _ (List.cons_ne_nil _ _)
  cases h with
  | goesOn hopen => exact ⟨['\n'], rfl, fun v' => .goesOn hopen⟩
  | comment =>
    rename_i r
    obtain ⟨f, rfl⟩ := exists_newline_of_dropWhile hs'
    -- a number sign behind the comment stands on a later line
    refine ⟨'#' :: r.takeWhile (· ≠ '\n'), ?_, fun v' => ?_⟩
    · rw [List.cons_append, List.takeWhile_append_dropWhile]
    · have hcomment : LineStep closers here
          ('#' :: (r.takeWhile (· ≠ '\n') ++ ('\n' :: f ++ '#' :: v')))
          [] closers here _ := .comment
      rwa [List.cons_append, dropWhile_line (newline_notMem_takeWhile r), ← List.cons_append]
        at hcomment
  | joined hmore => exact ⟨['\\', '\n'], rfl, fun v' => .joined (hne v')⟩
  | blank hc => exact ⟨[_], rfl, fun v' => .blank hc⟩
  | lexeme hstart hread hspelled hclosers =>
    rename_i used x
    refine ⟨used, rfl, fun v' => ?_⟩
    rw [hs'] at hread
    obtain ⟨hread', hspelled'⟩ := readLexeme?_rebehind hread v'
    exact .lexeme hstart hread' hspelled' hclosers

end LineStep

namespace LineRun

variable {closers : List String} {here q : Spot} {s rest : List Char} {toks : List Tok}

theorem length_lt (h : LineRun closers here s toks q rest) (hs : s ≠ []) :
    rest.length < s.length := by
  induction h with
  | ended here => exact absurd rfl hs
  | finished here r => exact Nat.lt_succ_self _
  | @step _ _ _ _ s s' front toks q rest h hrun ih =>
    have hlt := h.length_lt
    by_cases hs' : s' = []
    · subst hs'
      cases hrun with
      | ended => exact hlt
      | step h hrun => exact absurd h.length_lt (Nat.not_lt_zero _)
    · exact Nat.lt_trans (ih hs') hlt

/-- What a run finds the reader of a line finds. -/
theorem readLine?_eq (h : LineRun closers here s toks q rest) {n : Nat} (hn : s.length < n) :
    readLine? n closers here s = some (toks, q, rest) := by
  induction h generalizing n with
  | ended here =>
    obtain ⟨n, rfl⟩ := Nat.exists_eq_add_of_lt hn
    rfl
  | finished here r =>
    obtain ⟨n, rfl⟩ := Nat.exists_eq_add_of_lt hn
    rfl
  | step h hrun ih =>
    have hlt := h.length_lt
    obtain ⟨n, rfl⟩ : ∃ k, n = k + 1 := ⟨n - 1, by omega⟩
    rw [h.readLine?_eq, ih (by omega)]
    rfl

/-- What stands behind a number sign behind a line plays no part for the line. -/
theorem rebehind (h : LineRun closers here s toks q rest) {f v : List Char}
    (hrest : rest = f ++ '#' :: v) : ∃ used, s = used ++ rest ∧ ∀ v',
      LineRun closers here (used ++ (f ++ '#' :: v')) toks q (f ++ '#' :: v') := by
  induction h with
  | ended here =>
    exact absurd hrest.symm (List.append_ne_nil_of_right_ne_nil _ (List.cons_ne_nil _ _))
  | finished here r => exact ⟨['\n'], rfl, fun v' => .finished here _⟩
  | step h hrun ih =>
    obtain ⟨used, rfl, hused⟩ := ih hrest
    subst hrest
    obtain ⟨used', rfl, hused'⟩ := h.rebehind (f := used ++ f) (List.append_assoc ..).symm
    refine ⟨used' ++ used, (List.append_assoc ..).symm, fun v' => ?_⟩
    have hstep := hused' v'
    rw [List.append_assoc] at hstep
    rw [List.append_assoc]
    exact .step hstep (hused v')

end LineRun

/-! ## §5. Lines that end in a colon. -/

/-- Does the last line of a text end in a colon? -/
def ColonLine (s : List Char) : Prop := ∃ u, s = u ++ [':', '\n']

namespace ColonLine

variable {c : Char} {used rest : List Char}

theorem not_nil : ¬ColonLine [] := fun ⟨_, h⟩ => absurd h.symm (by simp)

/-- What is left of such a text is such a text, or the colon is at the end of what is taken. -/
theorem behind (h : ColonLine (used ++ rest)) :
    (rest = [] ∧ ColonLine used) ∨ (rest = ['\n'] ∧ used.getLast? = some ':') ∨ ColonLine rest := by
  obtain ⟨u, hu⟩ := h
  rcases List.eq_nil_or_concat rest with rfl | ⟨rest, a, rfl⟩
  · exact Or.inl ⟨rfl, u, by rw [← hu, List.append_nil]⟩
  · rw [List.concat_eq_append] at hu ⊢
    have hsplit : used ++ rest ++ [a] = u ++ [':'] ++ ['\n'] := by
      rw [List.append_assoc, hu, List.append_assoc]
      rfl
    obtain ⟨hfront, ha⟩ := List.append_inj' hsplit rfl
    obtain rfl := (List.cons.inj ha).1
    rcases List.eq_nil_or_concat rest with rfl | ⟨rest, b, rfl⟩
    · rw [List.append_nil] at hfront
      exact Or.inr (Or.inl ⟨rfl, by rw [hfront, List.getLast?_concat]⟩)
    · rw [List.concat_eq_append, ← List.append_assoc] at hfront
      obtain ⟨-, hb⟩ := List.append_inj' hfront rfl
      obtain rfl := (List.cons.inj hb).1
      exact Or.inr (Or.inr ⟨rest, by simp⟩)

theorem tail (h : ColonLine (c :: rest)) (hc : c ≠ ':') : ColonLine rest := by
  have hsplit : ColonLine ([c] ++ rest) := h
  rcases hsplit.behind with ⟨-, u, hu⟩ | ⟨-, hlast⟩ | h
  · have hlength := congrArg List.length hu
    rw [List.length_append] at hlength
    simp at hlength
  · exact absurd (Option.some.inj hlast) hc
  · exact h

theorem endsLine (h : ColonLine rest) : EndsLine rest := by
  obtain ⟨u, rfl⟩ := h
  unfold EndsLine
  rw [List.getLast?_append]
  rfl

end ColonLine

/-- Has every text the property that differs from the given one behind a number sign on its last
line only? -/
def HasRemark (P : List Char → Prop) (s : List Char) : Prop :=
  ∃ front text, s = front ++ '#' :: (text ++ ['\n']) ∧ '\n' ∉ text
    ∧ ∀ text', '\n' ∉ text' → P (front ++ '#' :: (text' ++ ['\n']))

theorem HasRemark.lift {P Q : List Char → Prop} {s s' : List Char} (h : HasRemark P s')
    (hlift : ∀ f v, s' = f ++ '#' :: v →
      ∃ used, s = used ++ s' ∧ ∀ v', P (f ++ '#' :: v') → Q (used ++ (f ++ '#' :: v'))) :
    HasRemark Q s := by
  obtain ⟨front, text, hs', htext, hP⟩ := h
  obtain ⟨used, rfl, hused⟩ := hlift front _ hs'
  refine ⟨used ++ front, text, by rw [hs', List.append_assoc], htext, fun text' htext' => ?_⟩
  rw [List.append_assoc]
  exact hused _ (hP text' htext')

theorem EndsInColon.append {ts : List Tok} (h : EndsInColon ts) (front : List Tok) :
    EndsInColon (front ++ ts) := by
  obtain ⟨t, ht, hcolon⟩ := h
  refine ⟨t, ?_, hcolon⟩
  rw [List.getLast?_append, ht]
  rfl

section Ends

variable {closers closers' : List String} {here here' q : Spot} {s s' rest : List Char}
  {front toks : List Tok}

/-- Where a step comes to the end of the last line, it has taken the colon or a comment. -/
theorem LineStep.colonLine (h : LineStep closers here s front closers' here' s')
    (hs : ColonLine s) : ColonLine s' ∨ s' = ['\n'] ∧ (EndsInColon front
      ∨ front = [] ∧ closers' = closers ∧ here' = here
        ∧ ∃ text, s = '#' :: (text ++ ['\n']) ∧ '\n' ∉ text) := by
  cases h with
  | goesOn hopen => exact Or.inl (hs.tail (by decide))
  | comment =>
    rename_i r
    have hline := newline_notMem_takeWhile r
    have hsplit : '#' :: r = '#' :: r.takeWhile (· ≠ '\n') ++ r.dropWhile (· ≠ '\n') := by
      rw [List.cons_append, List.takeWhile_append_dropWhile]
    rw [hsplit] at hs ⊢
    rcases hs.behind with ⟨-, hcolon⟩ | ⟨hnewline, -⟩ | hcolon
    · rcases List.mem_cons.1 (List.mem_of_getLast? hcolon.endsLine) with heq | hmem
      · exact absurd heq (by decide)
      · exact absurd hmem hline
    · exact Or.inr ⟨hnewline, Or.inr ⟨rfl, rfl, rfl, _, by rw [hnewline]; rfl, hline⟩⟩
    · exact Or.inl hcolon
  | joined hmore => exact Or.inl ((hs.tail (by decide)).tail (by decide))
  | blank hc =>
    refine Or.inl (hs.tail ?_)
    rintro rfl
    exact absurd hc (by decide)
  | lexeme hstart hread hspelled hclosers =>
    rcases hs.behind with ⟨-, hcolon⟩ | ⟨hnewline, hlast⟩ | hcolon
    · exact absurd hcolon.endsLine hspelled.getLast?_ne
    · exact Or.inr ⟨hnewline, Or.inl ⟨_, rfl, hspelled.colon hlast⟩⟩
    · exact Or.inl hcolon

/-- At the end of the text a line is over. -/
theorem LineRun.newline (h : LineRun closers here s toks q rest) (hs : s = ['\n']) :
    closers = [] ∧ toks = [] ∧ q = here.after '\n' ∧ rest = [] := by
  cases h with
  | ended => cases hs
  | finished here r => exact ⟨rfl, rfl, rfl, (List.cons.inj hs).2⟩
  | step h hrun =>
    cases h with
    | goesOn hopen =>
      obtain rfl := (List.cons.inj hs).2
      cases hrun with
      | ended => exact absurd rfl hopen
      | step h hrun => exact absurd h.length_lt (Nat.not_lt_zero _)
    | comment => exact absurd (List.cons.inj hs).1 (by decide)
    | joined hmore => exact absurd (List.cons.inj hs).1 (by decide)
    | blank hc =>
      obtain rfl := (List.cons.inj hs).1
      exact absurd hc (by decide)
    | lexeme hstart hread hspelled hclosers =>
      obtain ⟨c, w, rfl⟩ := List.exists_cons_of_ne_nil hspelled.nonempty
      exact absurd (List.cons.inj hs).1 (hstart c rfl).1

/-- **The last line ends in a colon as written**: its last lexeme is a colon, or it ends in a
comment. -/
theorem LineRun.colonLine (h : LineRun closers here s toks q rest) (hs : ColonLine s) :
    ColonLine rest ∨ rest = [] ∧ (EndsInColon toks
      ∨ HasRemark (fun t => LineRun closers here t toks q []) s) := by
  induction h with
  | ended here => exact absurd hs ColonLine.not_nil
  | finished here r => exact Or.inl (hs.tail (by decide))
  | step h hrun ih =>
    rcases h.colonLine hs with hcolon | ⟨hnewline, hcolon | ⟨rfl, rfl, rfl, text, rfl, htext⟩⟩
    · -- the colon is further on
      rcases ih hcolon with hrest | ⟨rfl, hlast | hremark⟩
      · exact Or.inl hrest
      · exact Or.inr ⟨rfl, Or.inl (hlast.append _)⟩
      · refine Or.inr ⟨rfl, Or.inr (hremark.lift fun f v hf => ?_)⟩
        obtain ⟨used, hused, hstep⟩ := h.rebehind hf
        exact ⟨used, hused, fun v' hline => .step (hstep v') hline⟩
    · -- the step has found the colon
      obtain ⟨-, rfl, -, rfl⟩ := hrun.newline hnewline
      exact Or.inr ⟨rfl, Or.inl (by rwa [List.append_nil])⟩
    · -- the step has left a comment, and any other one would be left as well
      obtain ⟨rfl, rfl, rfl, rfl⟩ := hrun.newline hnewline
      refine Or.inr ⟨rfl, Or.inr ⟨[], text, rfl, htext, fun text' htext' => ?_⟩⟩
      have hcomment : ∀ p, LineStep [] p ('#' :: (text' ++ ['\n'])) [] [] p ['\n'] := by
        intro p
        have hstep : LineStep [] p ('#' :: (text' ++ ['\n'])) [] [] p _ := .comment
        rwa [dropWhile_line htext'] at hstep
      exact .step (hcomment _) (.finished _ [])

end Ends

/-! ## §6. Logical lines. -/

section Margins

variable {fuel : Nat} {fixed : Option Nat} {w : Width} {here : Spot} {s : List Char} {m : Margin}

/-- The margin of a line holds no colon. -/
theorem readMargin?_colonLine (h : readMargin? fuel fixed w here s = some m) (hs : ColonLine s) :
    ColonLine m.rest := by
  induction fuel generalizing fixed w here s with
  | zero => cases h
  | succ n ih =>
    unfold readMargin? at h
    split at h
    · split at h
      · cases h
      · exact ih h ((hs.tail (by decide)).tail (by decide))
    · cases h
    · split at h
      · rename_i hc
        refine ih h (hs.tail ?_)
        rintro rfl
        exact absurd hc (by decide)
      · obtain rfl := Option.some.inj h
        exact hs
    · exact absurd hs ColonLine.not_nil

/-- What stands behind a number sign plays no part for the margin, nor does fuel. -/
theorem readMargin?_rebehind (h : readMargin? fuel fixed w here s = some m) {f v : List Char}
    (hrest : m.rest = f ++ '#' :: v) : ∃ used, s = used ++ m.rest ∧ ∀ v' n,
      (used ++ (f ++ '#' :: v')).length < n →
      readMargin? n fixed w here (used ++ (f ++ '#' :: v'))
        = some ⟨m.width, m.place, f ++ '#' :: v'⟩ := by
  induction fuel generalizing fixed w here s with
  | zero => cases h
  | succ k ih =>
    unfold readMargin? at h
    split at h
    · rename_i r
      split at h
      · cases h
      · obtain ⟨used, rfl, hused⟩ := ih h
        refine ⟨'\\' :: '\n' :: used, rfl, fun v' n hn => ?_⟩
        simp only [List.cons_append, List.length_cons] at hn ⊢
        obtain ⟨n, rfl⟩ : ∃ k, n = k + 1 := ⟨n - 1, by omega⟩
        rw [readMargin?, if_neg (by simp), hused v' n (by omega)]
    · cases h
    · rename_i c r hjoined hback
      split at h
      · rename_i hc
        obtain ⟨used, rfl, hused⟩ := ih h
        refine ⟨c :: used, rfl, fun v' n hn => ?_⟩
        rw [List.cons_append, List.length_cons] at hn
        obtain ⟨n, rfl⟩ : ∃ k, n = k + 1 := ⟨n - 1, by omega⟩
        rw [List.cons_append, readMargin?, if_pos hc, hused v' n (by omega)]
        · exact fun _ heq _ => hback heq
        · exact hback
      · rename_i hc
        obtain rfl := Option.some.inj h
        refine ⟨[], rfl, fun v' n hn => ?_⟩
        obtain ⟨n, rfl⟩ : ∃ k, n = k + 1 := ⟨n - 1, by omega⟩
        -- the text behind the margin starts with the same character
        obtain ⟨r', hr'⟩ : ∃ r', f ++ '#' :: v' = c :: r' := by
          cases f with
          | nil => exact ⟨v', by rw [List.nil_append, (List.cons.inj hrest).1]⟩
          | cons d f => exact ⟨f ++ '#' :: v', by rw [List.cons_append, (List.cons.inj hrest).1]⟩
        rw [List.nil_append, hr', readMargin?, if_neg hc]
        · exact fun _ heq _ => hback heq
        · exact hback
    · obtain rfl := Option.some.inj h
      exact absurd hrest.symm (List.append_ne_nil_of_right_ne_nil _ (List.cons_ne_nil _ _))

end Margins

section Lines

variable {n : Nat} {here : Spot} {s r : List Char} {m : Margin} {ls : List LogicalLine}

theorem readLines?_blank (hs : s ≠ []) (hm : readMargin? (n + 1) none ⟨0, 0⟩ here s = some m)
    (hrest : m.rest = '\n' :: r) :
    readLines? (n + 1) here s = readLines? n (m.place.after '\n') r := by
  rw [readLines?, if_neg fun hnil => hs (List.isEmpty_iff.1 hnil), hm]
  dsimp only [Option.bind_eq_bind, Option.bind_some]
  rw [hrest]
  rfl

theorem readLines?_comment (hs : s ≠ []) (hm : readMargin? (n + 1) none ⟨0, 0⟩ here s = some m)
    {text : List Char} (hrest : m.rest = '#' :: (text ++ '\n' :: r)) (htext : '\n' ∉ text) :
    readLines? (n + 1) here s = readLines? n (m.place.after '\n') r := by
  rw [readLines?, if_neg fun hnil => hs (List.isEmpty_iff.1 hnil), hm]
  have hend : (text ++ '\n' :: r).dropWhile (· ≠ '\n') = '\n' :: r :=
    dropWhile_line htext r
  dsimp only [Option.bind_eq_bind, Option.bind_some]
  rw [hrest]
  simp only [hend]

theorem readLines?_line (hs : s ≠ []) (hm : readMargin? (n + 1) none ⟨0, 0⟩ here s = some m)
    {c : Char} (hrest : m.rest = c :: r) (hc : c ≠ '\n' ∧ c ≠ '#') :
    readLines? (n + 1) here s = (readLine? (n + 1) [] m.place m.rest).bind fun p =>
      (readLines? n p.2.1 p.2.2).bind fun ls => some (⟨m.width, p.1⟩ :: ls) := by
  rw [readLines?, if_neg fun hnil => hs (List.isEmpty_iff.1 hnil), hm]
  dsimp only [Option.bind_eq_bind, Option.bind_some]
  rw [hrest]
  split
  · rename_i heq
    cases heq
  · rename_i heq
    exact absurd (List.cons.inj heq).1 hc.1
  · rename_i heq
    exact absurd (List.cons.inj heq).1 hc.2
  · rfl

/-- Are the given logical lines those of a text? -/
def ReadsAs (here : Spot) (ls : List LogicalLine) (s : List Char) : Prop :=
  ∀ n, s.length < n → readLines? n here s = some ls

/-- Are they those of the texts whose margin is the given one, and the given text behind it? -/
def ReadsBehind (here : Spot) (w : Width) (place : Spot) (ls : List LogicalLine) (r : List Char) :
    Prop :=
  ∀ n s, s ≠ [] → r.length ≤ n → readMargin? (n + 1) none ⟨0, 0⟩ here s = some ⟨w, place, r⟩ →
    readLines? (n + 1) here s = some ls

/-- A comment behind a margin. -/
theorem HasRemark.margin {fuel : Nat} (hmargin : readMargin? fuel none ⟨0, 0⟩ here s = some m)
    (h : HasRemark (ReadsBehind here m.width m.place ls) m.rest) :
    HasRemark (ReadsAs here ls) s := by
  refine h.lift fun f v hf => ?_
  obtain ⟨used, hused, hm⟩ := readMargin?_rebehind hmargin hf
  refine ⟨used, hused, fun v' hP n hn => ?_⟩
  have hpos : 1 ≤ (f ++ '#' :: v').length := by
    rw [List.length_append, List.length_cons]
    omega
  obtain ⟨n, rfl⟩ : ∃ k, n = k + 1 := ⟨n - 1, by omega⟩
  have hlength : (used ++ (f ++ '#' :: v')).length = used.length + (f ++ '#' :: v').length :=
    List.length_append
  refine hP n _ ?_ (by omega) (hm v' (n + 1) hn)
  exact List.append_ne_nil_of_right_ne_nil _ (List.ne_nil_of_length_pos hpos)

theorem ReadsLines.eq_nil (h : ReadsLines here [] ls) : ls = [] := by
  cases h with
  | done => rfl
  | nothing hs => exact absurd rfl hs
  | blank hs => exact absurd rfl hs
  | lastComment hs => exact absurd rfl hs
  | comment hs => exact absurd rfl hs
  | line hs => exact absurd rfl hs

/-- **Code whose last line ends in a colon as written** ends in a logical line whose last lexeme is
a colon, or in a comment. -/
theorem ReadsLines.colonLine (h : ReadsLines here s ls) (hs : ColonLine s) :
    (∃ l ∈ ls.getLast?, EndsInColon l.toks) ∨ HasRemark (ReadsAs here ls) s := by
  induction h with
  | done here => exact absurd hs ColonLine.not_nil
  | nothing hs' hmargin hrest =>
    have hcolon := readMargin?_colonLine hmargin hs
    rw [hrest] at hcolon
    exact absurd hcolon ColonLine.not_nil
  | @blank here s fuel m r ls hs' hmargin hrest h ih =>
    have hcolon := readMargin?_colonLine hmargin hs
    rw [hrest] at hcolon
    refine (ih (hcolon.tail (by decide))).imp_right fun hremark => .margin hmargin ?_
    refine hremark.lift fun f v hf => ⟨['\n'], hrest, fun v' hP n s hs hn hm => ?_⟩
    exact (readLines?_blank hs hm rfl).trans (hP n hn)
  | lastComment hs' hmargin hrest hend =>
    have hcolon := readMargin?_colonLine hmargin hs
    rw [hrest] at hcolon
    have hline := (hcolon.endsLine.restOfLine (by decide)).1
    rw [hend] at hline
    cases hline
  | @comment here s fuel m r c t ls hs' hmargin hrest hend h ih =>
    have hcolon := readMargin?_colonLine hmargin hs
    obtain ⟨text, htext, rfl⟩ : ∃ text, '\n' ∉ text ∧ r = text ++ '\n' :: t := by
      refine ⟨r.takeWhile (· ≠ '\n'), newline_notMem_takeWhile r, ?_⟩
      have hhead := List.head?_dropWhile_not (· ≠ '\n') r
      rw [hend] at hhead
      obtain rfl : c = '\n' := by simpa using hhead
      rw [← hend, List.takeWhile_append_dropWhile]
    have hsplit : m.rest = '#' :: text ++ ['\n'] ++ t := by
      rw [hrest]
      simp
    rw [hsplit] at hcolon
    rcases hcolon.behind with ⟨rfl, -⟩ | ⟨-, hlast⟩ | hcolon
    · -- the comment is the end of the text
      obtain rfl := h.eq_nil
      refine Or.inr (.margin hmargin ⟨[], text, hrest, htext, fun text' htext' n s hs hn hm => ?_⟩)
      obtain ⟨n, rfl⟩ : ∃ k, n = k + 1 := ⟨n - 1, by simp at hn; omega⟩
      exact (readLines?_comment hs hm rfl htext').trans rfl
    · rw [List.getLast?_concat] at hlast
      cases hlast
    · -- the comment is behind a later line
      refine (ih hcolon).imp_right fun hremark => .margin hmargin ?_
      refine hremark.lift fun f v hf =>
        ⟨'#' :: text ++ ['\n'], hsplit, fun v' hP n s hs hn hm => ?_⟩
      rw [List.append_assoc, List.cons_append] at hn hm
      refine (readLines?_comment hs hm rfl htext).trans (hP n ?_)
      simp only [List.length_append, List.length_cons, List.length_nil] at hn ⊢
      omega
  | @line here s fuel m toks q rest ls hs' hmargin hstart hmore hline h ih =>
    have hrun := hline.lineRun
    -- a text that starts as the line does, behind a margin that is read
    have hreads : ∀ {f v : List Char}, m.rest = f ++ '#' :: v → ∀ {v' rest' n s'}, s' ≠ [] →
        (f ++ '#' :: v').length ≤ n →
        readMargin? (n + 1) none ⟨0, 0⟩ here s' = some ⟨m.width, m.place, f ++ '#' :: v'⟩ →
        LineRun [] m.place (f ++ '#' :: v') toks q rest' → readLines? n q rest' = some ls →
        readLines? (n + 1) here s' = some (⟨m.width, toks⟩ :: ls) := by
      intro f v hf v' rest' n s' hs' hn hm hrun' hrest'
      obtain ⟨c, w, rfl⟩ : ∃ c w, f = c :: w := by
        cases f with
        | nil =>
          rw [hf] at hstart
          exact absurd rfl (hstart '#' rfl).2
        | cons c w => exact ⟨c, w, rfl⟩
      rw [hf] at hstart
      rw [readLines?_line hs' hm (List.cons_append ..) (hstart c rfl)]
      dsimp only
      rw [hrun'.readLine?_eq (by omega), Option.bind_some, hrest', Option.bind_some]
    rcases hrun.colonLine (readMargin?_colonLine hmargin hs) with hcolon | ⟨rfl, hlast⟩
    · -- the colon is behind this logical line
      rcases ih hcolon with ⟨l, hl, hlast⟩ | hremark
      · refine Or.inl ⟨l, ?_, hlast⟩
        rw [List.getLast?_cons, hl]
        rfl
      · refine Or.inr (.margin hmargin (hremark.lift fun f v hf => ?_))
        obtain ⟨used, hused, hruns⟩ := hrun.rebehind hf
        refine ⟨used, hused, fun v' hP n s hs hn hm => ?_⟩
        have hlength := hrun.length_lt hmore
        rw [hused, List.length_append] at hlength
        have hline := hruns v'
        rw [← List.append_assoc] at hn hm hline
        refine hreads (by rw [hused, hf, List.append_assoc]) hs hn hm hline (hP n ?_)
        rw [List.append_assoc, List.length_append] at hn
        omega
    · -- this logical line is the last one
      obtain rfl := h.eq_nil
      rcases hlast with hlast | hremark
      · exact Or.inl ⟨_, rfl, hlast⟩
      · refine Or.inr (.margin hmargin (hremark.lift fun f v hf => ⟨[], rfl, ?_⟩))
        intro v' hline n s hs hn hm
        obtain ⟨n, rfl⟩ : ∃ k, n = k + 1 := ⟨n - 1, by simp at hn; omega⟩
        exact hreads hf hs hn hm hline rfl

end Lines

end Inlay.Code
