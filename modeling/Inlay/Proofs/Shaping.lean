/-
  Inlay.Proofs.Shaping
  ────────────────────────────────
  **THE FOREST OF A BLOCK.**

  Headers that form one statement are the lines of a forest, each with its
  `pass` as the suite, or the cases below one `match`:

      if a:             match a:
          pass              case b:
      elif b:                   pass
          pass              case c:
                                pass

  Everything else is refused: a `case` below another header, a second
  `match`, a header behind the cases of a `match`.
-/
import Inlay.Proofs.Passing

namespace Inlay.Code

open Header Reader

/-! ## §1. Heads and the words that they start with. -/

/-- The word that a header starts with. -/
def Head.word : Head → String
  | .ifHead _ => "if"
  | .elifHead _ => "elif"
  | .elseHead => "else"
  | .whileHead _ => "while"
  | .forHead isAsync _ _ => if isAsync then "async" else "for"
  | .withHead isAsync _ => if isAsync then "async" else "with"
  | .tryHead => "try"
  | .exceptHead .. => "except"
  | .finallyHead => "finally"
  | .functionHead isAsync .. => if isAsync then "async" else "def"
  | .classHead .. => "class"
  | .matchHead _ => "match"
  | .caseHead .. => "case"

/-- The words that headers start with. -/
def headWords : List String :=
  ["if", "elif", "else", "while", "for", "with", "try", "except", "finally", "async", "def",
   "class", "match", "case"]

theorem Head.word_mem (h : Head) : h.word ∈ headWords := by
  have hite : ∀ (b : Bool) {v w : String}, v ∈ headWords → w ∈ headWords →
      (if b then v else w) ∈ headWords := by
    intro b v w hv hw
    cases b with
    | true => exact hv
    | false => exact hw
  cases h with
  | forHead isAsync => exact hite isAsync (by decide) (by decide)
  | withHead isAsync => exact hite isAsync (by decide) (by decide)
  | functionHead isAsync => exact hite isAsync (by decide) (by decide)
  | _ => simp [word, headWords]

/-- The words that headers start with are made of letters. -/
theorem Head.takeWhile_word (h : Head) : h.word.toList.takeWhile isWordChar = h.word.toList := by
  have hall : ∀ w ∈ headWords, w.toList.takeWhile isWordChar = w.toList := by decide
  exact hall h.word h.word_mem

/-- Does a header start with the word?  Inside a `match` it is one of a case, and one of a `match`
has a suite. -/
structure Head.Fits (w : String) (inMatch hasSuite : Bool) (h : Head) : Prop where
  word : h.word = w
  inMatch : w = "case" ↔ inMatch = true
  hasSuite : w = "match" → hasSuite = true

section Words

variable (g : Grammar)

theorem forHead_gives (isAsync : Bool) :
    Gives (fun h => h.word = if isAsync then "async" else "for") (forHead g isAsync) :=
  .bind fun _ => .bind fun _ => .bind fun _ => .pure rfl

theorem withHead_gives (isAsync : Bool) :
    Gives (fun h => h.word = if isAsync then "async" else "with") (withHead g isAsync) := by
  refine .bind fun found => ?_
  cases found with
  | some items => exact .pure rfl
  | none => exact .bind fun _ => .bind fun _ => .pure rfl

theorem functionHead_gives (isAsync : Bool) :
    Gives (fun h => h.word = if isAsync then "async" else "def") (functionHead g isAsync) :=
  .bind fun _ => .bind fun _ => .bind fun _ => .bind fun _ => .bind fun _ => .pure rfl

theorem classHead_gives : Gives (fun h => h.word = "class") (classHead g) :=
  .bind fun _ => .bind fun _ => .ite (.bind fun _ => .pure rfl) (.pure rfl)

theorem exceptHead_gives : Gives (fun h => h.word = "except") (exceptHead g) := by
  refine .bind fun _ => .bind fun _ => .ite (.bind fun _ => .pure rfl) (.bind fun _ => ?_)
  exact .bind fun _ => .ite (.bind fun _ => .pure rfl) (.pure rfl)

end Words

/-- **A header is one that starts with the word on the line.**  If there is none, nothing is read. -/
theorem head?_cases {g : Grammar} {inMatch hasSuite : Bool} {t : Tok} {ts rest : List Tok}
    {w : String} {o : Option Head} (ht : t.lexeme = .word w)
    (hhead : head? g inMatch hasSuite (t :: ts) = some (o, rest)) :
    (∃ h, o = some h ∧ h.Fits w inMatch hasSuite)
      ∨ o = none ∧ rest = t :: ts ∧ inMatch = false := by
  unfold head? at hhead
  obtain ⟨x, us, hx, hread⟩ := of_bind hhead
  obtain ⟨hnext, rfl⟩ := Prod.mk.inj (Option.some.inj hx)
  obtain rfl : x = some (.word w) := by rw [← hnext, List.head?_cons, Option.map_some, ht]
  dsimp only at hread
  have hsome : ∀ {v : String} {h : Head}, h.word = v →
      Gives (fun o => ∃ h, o = some h ∧ h.word = v) (Pure.pure (some h)) :=
    fun hw => .pure ⟨_, rfl, hw⟩
  have hstarts : ∀ {v : String} {r : Reader (Option Head)},
      Gives (fun o => ∃ h, o = some h ∧ h.word = v) r → r (t :: ts) = some (o, rest) →
      ∃ h : Head, o = some h ∧ h.word = v := fun hr h => hr _ _ _ h
  cases inMatch with
  | true =>
    rw [if_pos rfl] at hread
    obtain ⟨_, us, hensure, hread⟩ := of_bind hread
    obtain ⟨hw, rfl⟩ := ensure_eq_some hensure
    obtain rfl := of_decide_eq_true hw
    obtain ⟨h, rfl, hword⟩ := hstarts (v := "case")
      (.bind fun _ => .bind fun _ => .bind fun _ => hsome rfl) hread
    exact Or.inl ⟨h, rfl, hword, by decide, fun hv => absurd hv (by decide)⟩
  | false =>
    rw [if_neg Bool.false_ne_true] at hread
    have hgives : ∀ {v : String} {r : Reader (Option Head)},
        Gives (fun o => ∃ h, o = some h ∧ h.word = v) r → v ≠ "case" → v ≠ "match" →
        r (t :: ts) = some (o, rest) →
        (∃ h, o = some h ∧ h.Fits v false hasSuite)
          ∨ o = none ∧ rest = t :: ts ∧ false = false := by
      intro v r hr hcase hmatch hread
      obtain ⟨h, rfl, hword⟩ := hstarts hr hread
      exact Or.inl ⟨h, rfl, hword, ⟨fun hv => absurd hv hcase, fun h => by cases h⟩,
        fun hv => absurd hv hmatch⟩
    revert hread
    split
    · exact hgives (.bind fun _ => .bind fun _ => hsome rfl) (by decide) (by decide)
    · exact hgives (.bind fun _ => .bind fun _ => hsome rfl) (by decide) (by decide)
    · exact hgives (.bind fun _ => hsome rfl) (by decide) (by decide)
    · exact hgives (.bind fun _ => .bind fun _ => hsome rfl) (by decide) (by decide)
    · exact hgives (.bind fun _ => .bindWhere (forHead_gives g false) fun _ => hsome)
        (by decide) (by decide)
    · exact hgives (.bind fun _ => .bindWhere (withHead_gives g false) fun _ => hsome)
        (by decide) (by decide)
    · exact hgives (.bind fun _ => hsome rfl) (by decide) (by decide)
    · exact hgives (.bind fun _ => .bindWhere (exceptHead_gives g) fun _ => hsome)
        (by decide) (by decide)
    · exact hgives (.bind fun _ => hsome rfl) (by decide) (by decide)
    · exact hgives (.bind fun _ => .bindWhere (functionHead_gives g false) fun _ => hsome)
        (by decide) (by decide)
    · exact hgives (.bind fun _ => .bindWhere (classHead_gives g) fun _ => hsome)
        (by decide) (by decide)
    · refine hgives (.bind fun _ => .bind fun _ => .ite ?_ (.bind fun _ => .ite ?_
        (.bind fun _ => .ite ?_ ?_))) (by decide) (by decide)
      · exact .bindWhere (functionHead_gives g true) fun _ => hsome
      · exact .bindWhere (forHead_gives g true) fun _ => hsome
      · exact .bindWhere (withHead_gives g true) fun _ => hsome
      · exact fun _ _ _ h => by cases h
    · intro hread
      split at hread
      · rename_i hsuite
        obtain ⟨h, rfl, hword⟩ := hstarts (v := "match") (.bind fun _ => .bind fun _ => hsome rfl)
          hread
        exact Or.inl ⟨h, rfl, hword, by decide, fun _ => hsuite⟩
      · obtain ⟨rfl, rfl⟩ := Prod.mk.inj (Option.some.inj hread)
        exact Or.inr ⟨rfl, rfl, rfl⟩
    · intro hread
      obtain ⟨rfl, rfl⟩ := Prod.mk.inj (Option.some.inj hread)
      exact Or.inr ⟨rfl, rfl, rfl⟩

/-! ## §2. Lines that start with a word. -/

/-- The word that some code starts with. -/
def firstWord (code : List Char) : String := String.ofList (code.takeWhile isWordChar)

/-- Does a line start with the word of the header, and perhaps more characters of a name? -/
def LedBy (code : List Char) (toks : List Tok) : Prop :=
  ∃ w u us, toks = u :: us ∧ u.lexeme = .word w
    ∧ w.toList.takeWhile isWordChar = code.takeWhile isWordChar

/-- Where a line starts with a header, its word is the whole word. -/
theorem Head.Fits.firstWord {w : String} {inMatch hasSuite : Bool} {h : Head} {code : List Char}
    (hfits : h.Fits w inMatch hasSuite)
    (hw : w.toList.takeWhile isWordChar = code.takeWhile isWordChar) : firstWord code = w := by
  unfold Code.firstWord
  rw [← hw, ← hfits.word, h.takeWhile_word, String.ofList_toList]

section Items

variable {g : Grammar} {inMatch hasSuite : Bool} {t : Tok} {ts rest : List Tok} {w : String}
  {suite : List Line} {items : List Item} {i : Item}

theorem acceptSign_word (ht : t.lexeme = .word w) (s : String) (ts : List Tok) :
    acceptSign s (t :: ts) = some (false, t :: ts) := by
  refine acceptSign_lacks ?_
  intro v hv hsign
  obtain rfl := Option.some.inj hv
  rw [ht] at hsign
  cases hsign

/-- What a line says that starts with a word: a header, or simple statements. -/
theorem lineText_cases {text : LineText} (ht : t.lexeme = .word w)
    (h : lineText g inMatch hasSuite (t :: ts) = some (text, rest)) :
    (∃ head : Head, head.Fits w inMatch hasSuite
        ∧ (text = .opening head ∧ rest = [] ∨ ∃ body, text = .inline head body))
      ∨ (∃ s ss, text = .simple (s :: ss)) ∧ inMatch = false := by
  unfold lineText at h
  obtain ⟨o, us, hhead, h⟩ := of_bind h
  rcases head?_cases ht hhead with ⟨head, rfl, hfits⟩ | ⟨rfl, rfl, hmatch⟩
  · refine Or.inl ⟨head, hfits, ?_⟩
    obtain ⟨_, us, -, h⟩ := of_bind h
    obtain ⟨b, us', hend, h⟩ := of_bind h
    obtain ⟨rfl, rfl⟩ := Prod.mk.inj (Option.some.inj hend)
    split at h
    · rename_i hempty
      obtain ⟨rfl, rfl⟩ := Prod.mk.inj (Option.some.inj h)
      exact Or.inl ⟨rfl, List.isEmpty_iff.1 hempty⟩
    · obtain ⟨ss, us', -, h⟩ := of_bind h
      obtain ⟨rfl, -⟩ := Prod.mk.inj (Option.some.inj h)
      exact Or.inr ⟨ss, rfl⟩
  · refine Or.inr ⟨?_, hmatch⟩
    dsimp only at h
    rw [bind_apply _ (acceptSign_word ht "@" ts), if_neg Bool.false_ne_true] at h
    obtain ⟨ss, us, hss, h⟩ := of_bind h
    obtain ⟨rfl, -⟩ := Prod.mk.inj (Option.some.inj h)
    unfold simpleStatements at hss
    obtain ⟨first, us', -, hss⟩ := of_bind hss
    obtain ⟨more, us', -, hss⟩ := of_bind hss
    obtain ⟨b, us', -, hss⟩ := of_bind hss
    obtain ⟨_, us', -, hss⟩ := of_bind hss
    obtain ⟨rfl, -⟩ := Prod.mk.inj (Option.some.inj hss)
    exact ⟨first, more, rfl⟩

theorem length_readItems? (h : readItems? g inMatch suite = some items) :
    items.length = suite.length := by
  induction suite generalizing items with
  | nil =>
    rw [readItems?] at h
    obtain rfl := Option.some.inj h
    rfl
  | cons l ls ih =>
    rw [readItems?] at h
    obtain ⟨i, -, h⟩ := Option.bind_eq_some_iff.1 h
    obtain ⟨more, hmore, h⟩ := Option.bind_eq_some_iff.1 h
    obtain rfl := Option.some.inj h
    rw [List.length_cons, List.length_cons, ih hmore]

/-- A line with a suite that starts with a word is a header. -/
theorem opening_of_readItem? (ht : t.lexeme = .word w) (hsuite : suite ≠ [])
    (h : readItem? g inMatch (.mk (t :: ts) suite) = some i) :
    ∃ head : Head, lineText g inMatch true (t :: ts) = some (.opening head, [])
      ∧ head.Fits w inMatch true ∧ ∃ items, item? (.opening head) items = some i
        ∧ readItems? g (LineText.opening head).opensMatch suite = some items := by
  rw [readItem?] at h
  obtain ⟨⟨text, rest⟩, htext, hread⟩ := Option.bind_eq_some_iff.1 h
  obtain ⟨items, hitems, hitem⟩ := Option.bind_eq_some_iff.1 hread
  have hempty : items.isEmpty = false := by
    rw [List.isEmpty_eq_false_iff, ← List.length_pos_iff, length_readItems? hitems]
    exact List.length_pos_iff.2 hsuite
  rw [List.isEmpty_eq_false_iff.2 hsuite] at htext
  rcases lineText_cases ht htext with ⟨head, hfits, ⟨rfl, rfl⟩ | ⟨body, rfl⟩⟩ | ⟨⟨s, ss, rfl⟩, -⟩
  · exact ⟨head, htext, hfits, items, hitem, hitems⟩
  · rw [item?, hempty] at hitem
    cases hitem
  · rw [item?, hempty] at hitem
    cases hitem

/-- Does a line say a statement, or a clause of one? -/
def Item.Counts : Item → Prop
  | .simple ss => ss ≠ []
  | .headed _ _ => True
  | .decorator _ => False

/-- Every line that starts with a word counts. -/
theorem counts_of_readItem? (ht : t.lexeme = .word w)
    (h : readItem? g inMatch (.mk (t :: ts) suite) = some i) : i.Counts := by
  rw [readItem?] at h
  obtain ⟨⟨text, rest⟩, htext, hread⟩ := Option.bind_eq_some_iff.1 h
  obtain ⟨items, -, h⟩ := Option.bind_eq_some_iff.1 hread
  clear hread
  rcases lineText_cases ht htext with ⟨head, -, ⟨rfl, -⟩ | ⟨body, rfl⟩⟩ | ⟨⟨s, ss, rfl⟩, -⟩
  · unfold item? at h
    split at h
    · rename_i heq
      cases heq
    · rename_i heq
      cases heq
    · rename_i heq
      cases heq
    · split at h
      · cases h
      · obtain ⟨cs, -, rfl⟩ := Option.map_eq_some_iff.1 h
        exact List.cons_ne_nil _ _
    · split at h
      · cases h
      · obtain ⟨body, -, rfl⟩ := Option.map_eq_some_iff.1 h
        trivial
  · rw [item?] at h
    split at h
    · obtain rfl := Option.some.inj h
      trivial
    · cases h
  · rw [item?] at h
    split at h
    · obtain rfl := Option.some.inj h
      exact List.cons_ne_nil _ _
    · cases h

/-- A `pass` alone on a line has no suite, and stands in no `match`. -/
theorem readItem?_pass (ht : t.lexeme = .word "pass")
    (h : readItem? g inMatch (.mk [t] suite) = some i) :
    suite = [] ∧ inMatch = false ∧ i = .simple [.pass t.line] := by
  have hno : ∀ {inMatch hasSuite : Bool} {head : Head}, ¬head.Fits "pass" inMatch hasSuite := by
    intro inMatch hasSuite head hfits
    have hmem := head.word_mem
    rw [hfits.word] at hmem
    exact absurd hmem (by decide)
  obtain rfl : suite = [] := by
    by_contra hsuite
    obtain ⟨head, -, hfits, -⟩ := opening_of_readItem? ht hsuite h
    exact hno hfits
  rw [readItem?] at h
  obtain ⟨⟨text, rest⟩, htext, hread⟩ := Option.bind_eq_some_iff.1 h
  obtain ⟨items, hitems, hitem⟩ := Option.bind_eq_some_iff.1 hread
  rw [readItems?] at hitems
  obtain rfl := Option.some.inj hitems
  clear h hread hitems
  unfold lineText at htext
  obtain ⟨o, us, hhead, htext⟩ := of_bind htext
  rcases head?_cases ht hhead with ⟨head, -, hfits⟩ | ⟨rfl, rfl, hmatch⟩
  · exact absurd hfits hno
  · refine ⟨rfl, hmatch, ?_⟩
    dsimp only at htext
    rw [bind_apply _ (acceptSign_word ht "@" []), if_neg Bool.false_ne_true] at htext
    obtain ⟨ss, us, hss, htext⟩ := of_bind htext
    obtain ⟨rfl, -⟩ := Prod.mk.inj (Option.some.inj htext)
    unfold simpleStatements at hss
    rw [bind_apply _ (simpleStatement_pass ht)] at hss
    obtain ⟨rfl, -⟩ := Prod.mk.inj (Option.some.inj hss)
    exact (Option.some.inj hitem).symm

/-- A header that is none of a `match` takes the statements of its suite for a body. -/
theorem item?_opening {head : Head} (hhead : head.word ≠ "match") (items : List Item) :
    item? (.opening head) items
      = if items.isEmpty then none else (assemble? items).map (.headed head ·) := by
  cases head with
  | matchHead subject => exact absurd rfl hhead
  | _ => rfl

theorem opensMatch_opening {head : Head} (hhead : head.word ≠ "match") :
    (LineText.opening head).opensMatch = false := by
  cases head with
  | matchHead subject => exact absurd rfl hhead
  | _ => rfl

theorem Head.eq_matchHead {head : Head} (hhead : head.word = "match") :
    ∃ subject, head = .matchHead subject := by
  have hite : ∀ (b : Bool) {v : String}, v ≠ "match" → (if b then "async" else v) ≠ "match" := by
    intro b v hv
    cases b with
    | true =>
      rw [if_pos rfl]
      decide
    | false => exact hv
  cases head with
  | matchHead subject => exact ⟨subject, rfl⟩
  | forHead isAsync => exact absurd hhead (hite isAsync (by decide))
  | withHead isAsync => exact absurd hhead (hite isAsync (by decide))
  | functionHead isAsync => exact absurd hhead (hite isAsync (by decide))
  | _ => exact absurd hhead (by simp [word])

/-- A `match` forms a simple statement, or is none at all. -/
theorem simple_of_match {code : List Char} {toks : List Tok} (hcode : firstWord code = "match")
    (hled : LedBy code toks) (h : readItem? g inMatch (.mk toks suite) = some i) :
    ∃ ss, i = .simple ss := by
  obtain ⟨w, t, ts, rfl, ht, hw⟩ := hled
  by_cases hsuite : suite = []
  · subst hsuite
    rw [readItem?] at h
    obtain ⟨⟨text, rest⟩, htext, hread⟩ := Option.bind_eq_some_iff.1 h
    obtain ⟨items, hitems, hitem⟩ := Option.bind_eq_some_iff.1 hread
    rw [readItems?] at hitems
    obtain rfl := Option.some.inj hitems
    clear h hread hitems
    rcases lineText_cases ht htext with ⟨head, hfits, -⟩ | ⟨⟨s, ss, rfl⟩, -⟩
    · -- a `match` without a suite is no header
      cases hfits.hasSuite (by rw [← hfits.firstWord hw, hcode])
    · exact ⟨_, (Option.some.inj hitem).symm⟩
  · obtain ⟨head, -, hfits, items, hitem, -⟩ := opening_of_readItem? ht hsuite h
    obtain ⟨subject, rfl⟩ := Head.eq_matchHead (by rw [hfits.word, ← hfits.firstWord hw, hcode])
    rw [item?] at hitem
    split at hitem
    · cases hitem
    · obtain ⟨cs, -, rfl⟩ := Option.map_eq_some_iff.1 hitem
      exact ⟨_, rfl⟩

end Items

/-! ## §3. One statement. -/

/-- The lines of groups, in order. -/
theorem flatMap_gather (items : List Item) :
    (gather items).flatMap (fun p => p.1 :: p.2) = items := by
  fun_induction gather items with
  | case1 => rfl
  | case2 i rest hrest ih =>
    rw [hrest] at ih
    obtain rfl : [] = rest := ih
    rfl
  | case3 i rest j clauses more hrest hcontinues ih =>
    rw [hrest] at ih
    exact congrArg (i :: ·) ih
  | case4 i rest j clauses more hrest hcontinues ih =>
    rw [hrest] at ih
    exact congrArg (i :: ·) ih

theorem continues_of_gather {items : List Item} :
    ∀ p ∈ gather items, ∀ c ∈ p.2, c.continues = true := by
  fun_induction gather items with
  | case1 => exact fun p hp => absurd hp List.not_mem_nil
  | case2 i rest hrest ih =>
    intro p hp c hc
    obtain rfl := List.mem_singleton.1 hp
    exact absurd hc List.not_mem_nil
  | case3 i rest j clauses more hrest hcontinues ih =>
    rw [hrest] at ih
    intro p hp c hc
    rcases List.mem_cons.1 hp with rfl | hp
    · rcases List.mem_cons.1 hc with rfl | hc
      · exact hcontinues
      · exact ih _ List.mem_cons_self c hc
    · exact ih p (List.mem_cons_of_mem _ hp) c hc
  | case4 i rest j clauses more hrest hcontinues ih =>
    rw [hrest] at ih
    intro p hp c hc
    rcases List.mem_cons.1 hp with rfl | hp
    · exact absurd hc List.not_mem_nil
    · exact ih p hp c hc

/-- Clauses are all in the group of the line above them. -/
theorem gather_clauses (i : Item) {clauses : List Item}
    (h : ∀ c ∈ clauses, c.continues = true) : gather (i :: clauses) = [(i, clauses)] := by
  induction clauses generalizing i with
  | nil => rfl
  | cons c clauses ih =>
    obtain ⟨hc, hclauses⟩ := List.forall_mem_cons.1 h
    rw [gather, ih c hclauses]
    dsimp only
    rw [if_pos hc]

/-- Every group of lines is a statement at least. -/
theorem length_le_of_statements? {ds : List Expr} {groups : List (Item × List Item)}
    {ss : List Stmt} (hcounts : ∀ p ∈ groups, p.1.Counts) (h : statements? ds groups = some ss) :
    groups.length ≤ ss.length := by
  fun_induction statements? ds groups generalizing ss with
  | case1 => exact Nat.zero_le _
  | case2 => cases h
  | case3 ds e clauses rest hempty ih => exact absurd (hcounts _ List.mem_cons_self) id
  | case4 ds e clauses rest hempty => cases h
  | case5 ds ss' clauses rest hempty ih =>
    obtain ⟨more, hmore, rfl⟩ := Option.map_eq_some_iff.1 h
    have hle := ih (fun p hp => hcounts p (List.mem_cons_of_mem _ hp)) hmore
    have hpos : 0 < ss'.length := List.length_pos_iff.2 (hcounts _ List.mem_cons_self)
    rw [List.length_cons, List.length_append]
    omega
  | case6 ds ss' clauses rest hempty => cases h
  | case7 ds head body clauses rest ih =>
    obtain ⟨s, -, h⟩ := Option.bind_eq_some_iff.1 h
    obtain ⟨more, hmore, h⟩ := Option.bind_eq_some_iff.1 h
    obtain rfl := Option.some.inj h
    have hle := ih (fun p hp => hcounts p (List.mem_cons_of_mem _ hp)) hmore
    rw [List.length_cons, List.length_cons]
    omega

/-- **Lines that form one statement**: simple statements on one line, or a header and its
clauses. -/
theorem assemble?_eq_singleton {items : List Item} {s : Stmt} (hcounts : ∀ i ∈ items, i.Counts)
    (h : assemble? items = some [s]) :
    items = [.simple [s]] ∨ ∃ head body clauses, items = .headed head body :: clauses
      ∧ (∀ c ∈ clauses, c.continues = true) ∧ compound? [] head body clauses = some s := by
  unfold assemble? at h
  have hflat := flatMap_gather items
  have hcontinues : ∀ p ∈ gather items, ∀ c ∈ p.2, c.continues = true := continues_of_gather
  generalize gather items = groups at h hflat hcontinues
  have hgroups : ∀ p ∈ groups, p.1.Counts := by
    intro p hp
    refine hcounts p.1 ?_
    rw [← hflat]
    exact List.mem_flatMap.2 ⟨p, hp, List.mem_cons_self⟩
  have hlength := length_le_of_statements? hgroups h
  match groups, hlength with
  | [], _ => cases h
  | [(i, clauses)], _ =>
    rw [List.flatMap_singleton] at hflat
    subst hflat
    have hclauses := hcontinues _ List.mem_cons_self
    cases i with
    | decorator e => exact absurd (hcounts _ List.mem_cons_self) id
    | simple ss =>
      rw [statements?] at h
      split at h
      · rename_i hempty
        rw [Bool.and_eq_true] at hempty
        obtain rfl := List.isEmpty_iff.1 hempty.2
        rw [statements?] at h
        obtain rfl : ss = [s] := by
          rw [← List.append_nil ss]
          exact Option.some.inj h
        exact Or.inl rfl
      · cases h
    | headed head body =>
      rw [statements?] at h
      obtain ⟨s', hs, h⟩ := Option.bind_eq_some_iff.1 h
      obtain ⟨more, hmore, h⟩ := Option.bind_eq_some_iff.1 h
      obtain ⟨rfl, -⟩ := List.cons.inj (Option.some.inj h)
      exact Or.inr ⟨head, body, clauses, rfl, hclauses, hs⟩
  | p :: q :: more, hlength =>
    simp only [List.length_cons, List.length_nil] at hlength
    omega

/-- A header and its clauses are one statement. -/
theorem assemble?_clauses {head : Head} {body : List Stmt} {clauses : List Item} {s : Stmt}
    (hcontinues : ∀ c ∈ clauses, c.continues = true)
    (hs : compound? [] head body clauses = some s) :
    assemble? (.headed head body :: clauses) = some [s] := by
  rw [assemble?, gather_clauses _ hcontinues, statements?, hs]
  rfl

/-! ## §4. Suites of lines that are indented with spaces. -/

/-- Are the lines a suite at the margin, with the other lines behind it? -/
def IsSuite (m : Nat) (ls : List LogicalLine) (forest : List Line) (rest : List LogicalLine) : Prop :=
  ∃ fuel depth, readSuite? fuel depth ⟨m, m⟩ ls = some (forest, rest)

theorem Width.compare?_spaces (m k : Nat) : (⟨m, m⟩ : Width).compare? ⟨k, k⟩ =
    some (if k = m then .eq else if m < k then .lt else .gt) := by
  unfold compare?
  dsimp only
  split
  · rfl
  · split
    · rfl
    · rfl

namespace IsSuite

variable {m k : Nat} {toks : List Tok} {ls rest : List LogicalLine} {forest : List Line}

theorem nil (h : IsSuite m [] forest rest) : forest = [] ∧ rest = [] := by
  obtain ⟨fuel, depth, h⟩ := h
  cases fuel with
  | zero => cases h
  | succ fuel =>
    obtain ⟨rfl, rfl⟩ := Prod.mk.inj (Option.some.inj h)
    exact ⟨rfl, rfl⟩

/-- The first line is not deeper than the suite. -/
theorem le (h : IsSuite m (⟨⟨k, k⟩, toks⟩ :: ls) forest rest) : k ≤ m := by
  obtain ⟨fuel, depth, h⟩ := h
  by_contra hlt
  cases fuel with
  | zero => cases h
  | succ fuel =>
    unfold readSuite? at h
    dsimp only at h
    rw [Width.compare?_spaces, if_neg (by omega), if_pos (by omega)] at h
    cases h

/-- The first line of the suite. -/
theorem first (h : IsSuite m (⟨⟨m, m⟩, toks⟩ :: ls) forest rest) :
    ∃ suite forest', forest = .mk toks suite :: forest' := by
  obtain ⟨fuel, depth, h⟩ := h
  cases fuel with
  | zero => cases h
  | succ fuel =>
    unfold readSuite? at h
    dsimp only at h
    rw [Width.compare?_spaces, if_pos rfl] at h
    dsimp only [Option.bind_eq_bind, Option.bind_some] at h
    split at h
    · obtain ⟨rfl, -⟩ := Prod.mk.inj (Option.some.inj h)
      exact ⟨[], [], rfl⟩
    · obtain ⟨order, -, h⟩ := Option.bind_eq_some_iff.1 h
      split at h
      · split at h
        · cases h
        obtain ⟨⟨suite, ls'⟩, -, h⟩ := Option.bind_eq_some_iff.1 h
        obtain ⟨⟨more, rest'⟩, -, h⟩ := Option.bind_eq_some_iff.1 h
        obtain ⟨rfl, -⟩ := Prod.mk.inj (Option.some.inj h)
        exact ⟨suite, more, rfl⟩
      · obtain ⟨⟨more, rest'⟩, -, h⟩ := Option.bind_eq_some_iff.1 h
        obtain ⟨rfl, -⟩ := Prod.mk.inj (Option.some.inj h)
        exact ⟨[], more, rfl⟩

/-- A shallower line ends the suite. -/
theorem shallower (h : IsSuite m (⟨⟨k, k⟩, toks⟩ :: ls) forest rest) (hk : k < m) :
    forest = [] ∧ rest = ⟨⟨k, k⟩, toks⟩ :: ls := by
  obtain ⟨fuel, depth, h⟩ := h
  cases fuel with
  | zero => cases h
  | succ fuel =>
    unfold readSuite? at h
    dsimp only at h
    rw [Width.compare?_spaces, if_neg (by omega), if_neg (by omega)] at h
    obtain ⟨rfl, rfl⟩ := Prod.mk.inj (Option.some.inj h)
    exact ⟨rfl, rfl⟩

/-- A line without deeper lines below it has no suite. -/
theorem flat (h : IsSuite m (⟨⟨m, m⟩, toks⟩ :: ls) forest rest)
    (hls : ∀ l ∈ ls.head?, ∃ k, k ≤ m ∧ l.width = ⟨k, k⟩) :
    ∃ forest', forest = .mk toks [] :: forest' ∧ IsSuite m ls forest' rest := by
  obtain ⟨fuel, depth, h⟩ := h
  cases fuel with
  | zero => cases h
  | succ fuel =>
    unfold readSuite? at h
    dsimp only at h
    rw [Width.compare?_spaces, if_pos rfl] at h
    cases ls with
    | nil =>
      obtain ⟨rfl, rfl⟩ := Prod.mk.inj (Option.some.inj h)
      exact ⟨[], rfl, 1, 0, rfl⟩
    | cons next ls =>
      obtain ⟨k, hk, hwidth⟩ := hls next rfl
      dsimp only [Option.bind_eq_bind, Option.bind_some] at h
      rw [hwidth, Width.compare?_spaces] at h
      dsimp only [Option.bind_some] at h
      split at h
      · rename_i hlt
        rw [if_neg (show ¬m < k by omega)] at hlt
        split at hlt <;> cases hlt
      obtain ⟨⟨more, rest'⟩, hmore, h⟩ := Option.bind_eq_some_iff.1 h
      obtain ⟨rfl, rfl⟩ := Prod.mk.inj (Option.some.inj h)
      exact ⟨more, rfl, fuel, depth, hmore⟩

/-- The deeper lines below a line are its suite. -/
theorem nested {next : LogicalLine} (h : IsSuite m (⟨⟨m, m⟩, toks⟩ :: next :: ls) forest rest)
    (hwidth : next.width = ⟨k, k⟩) (hk : m < k) :
    ∃ suite ls' forest', forest = .mk toks suite :: forest'
      ∧ IsSuite k (next :: ls) suite ls' ∧ IsSuite m ls' forest' rest := by
  obtain ⟨fuel, depth, h⟩ := h
  cases fuel with
  | zero => cases h
  | succ fuel =>
    unfold readSuite? at h
    dsimp only at h
    rw [Width.compare?_spaces, if_pos rfl] at h
    dsimp only [Option.bind_eq_bind, Option.bind_some] at h
    rw [hwidth, Width.compare?_spaces, if_neg (by omega), if_pos hk] at h
    dsimp only [Option.bind_some] at h
    split at h
    · cases h
    obtain ⟨⟨suite, ls'⟩, hsuite, h⟩ := Option.bind_eq_some_iff.1 h
    obtain ⟨⟨more, rest'⟩, hmore, h⟩ := Option.bind_eq_some_iff.1 h
    obtain ⟨rfl, rfl⟩ := Prod.mk.inj (Option.some.inj h)
    exact ⟨suite, ls', more, rfl, ⟨fuel, depth + 1, hsuite⟩, fuel, depth, hmore⟩

end IsSuite

/-! ## §5. The rows of headers. -/

/-- The rows of a header: a case is indented, and only a `match` has no `pass`. -/
def rowsOfCode (code : List Char) : List Row :=
  if firstWord code = "case" then [.heading 4 code, .pass 8]
  else if firstWord code = "match" then [.heading 0 code]
  else [.heading 0 code, .pass 4]

/-- The rows of some headers. -/
def rowsOf (codes : List (List Char)) : List Row := codes.flatMap rowsOfCode

/-- The rows of the `pass` of some headers, of which the first stands on the given row. -/
def slotsFrom (k : Nat) : List (List Char) → List (Option Nat)
  | [] => []
  | code :: codes =>
    if firstWord code = "match" then none :: slotsFrom (k + 1) codes
    else some (k + 1) :: slotsFrom (k + 2) codes

/-- A `match` has no `pass`. -/
theorem slotsFrom_append {ms : List (List Char)} (hms : ∀ c ∈ ms, firstWord c = "match") (k : Nat)
    (codes : List (List Char)) : slotsFrom k (ms ++ codes)
      = List.replicate ms.length none ++ slotsFrom (k + ms.length) codes := by
  induction ms generalizing k with
  | nil => rfl
  | cons c ms ih =>
    obtain ⟨hc, hms⟩ := List.forall_mem_cons.1 hms
    rw [List.cons_append, slotsFrom, if_pos hc, ih hms, List.length_cons, List.replicate_succ,
      Nat.add_assoc, Nat.add_comm 1]
    rfl

/-- The margin of a header. -/
def marginOf (code : List Char) : Nat := if firstWord code = "case" then 4 else 0

theorem rowsOf_cons (code : List Char) (codes : List (List Char)) :
    rowsOf (code :: codes) = rowsOfCode code ++ rowsOf codes := List.flatMap_cons

theorem rowsOfCode_match {code : List Char} (h : firstWord code = "match") :
    rowsOfCode code = [.heading 0 code] := by
  unfold rowsOfCode
  rw [if_neg (by rw [h]; decide), if_pos h]

theorem rowsOfCode_of_ne {code : List Char} (h : firstWord code ≠ "match") :
    rowsOfCode code = [.heading (marginOf code) code, .pass (marginOf code + 4)] := by
  unfold rowsOfCode marginOf
  split
  · rfl
  · rfl

theorem marginOf_match {code : List Char} (h : firstWord code = "match") : marginOf code = 0 := by
  unfold marginOf
  rw [if_neg (by rw [h]; decide)]

theorem rowsOfCode_eq_cons (code : List Char) :
    ∃ rows, rowsOfCode code = .heading (marginOf code) code :: rows := by
  by_cases h : firstWord code = "match"
  · exact ⟨[], by rw [rowsOfCode_match h, marginOf_match h]⟩
  · exact ⟨_, rowsOfCode_of_ne h⟩

/-- A `match` is read together with the rows of other headers: of other `match` headers, and
perhaps of one more whose `pass` is left behind. -/
theorem rowsOf_eq_append {codes : List (List Char)} {swallowed rows : List Row}
    (h : rowsOf codes = swallowed ++ rows) (hswallowed : ∀ r ∈ swallowed, r.isHeading = true) :
    ∃ ms codes', codes = ms ++ codes' ∧ (∀ c ∈ ms, firstWord c = "match")
      ∧ (rows = rowsOf codes' ∧ ms.length = swallowed.length
        ∨ ∃ m rows', rows = .pass (m + 1) :: rows') := by
  induction codes generalizing swallowed with
  | nil =>
    obtain ⟨rfl, rfl⟩ := List.append_eq_nil_iff.1 h.symm
    exact ⟨[], [], rfl, fun c hc => absurd hc List.not_mem_nil, Or.inl ⟨rfl, rfl⟩⟩
  | cons code codes ih =>
    cases swallowed with
    | nil =>
      exact ⟨[], code :: codes, rfl, fun c hc => absurd hc List.not_mem_nil, Or.inl ⟨h.symm, rfl⟩⟩
    | cons r swallowed =>
      obtain ⟨hr, hswallowed⟩ := List.forall_mem_cons.1 hswallowed
      rw [rowsOf_cons, List.cons_append] at h
      by_cases hmatch : firstWord code = "match"
      · rw [rowsOfCode_match hmatch, List.singleton_append] at h
        obtain ⟨ms, codes', rfl, hms, hrows⟩ := ih (List.cons.inj h).2 hswallowed
        refine ⟨code :: ms, codes', rfl, List.forall_mem_cons.2 ⟨hmatch, hms⟩, ?_⟩
        rw [List.length_cons, List.length_cons]
        exact hrows.imp_left fun hrest => ⟨hrest.1, congrArg (· + 1) hrest.2⟩
      · rw [rowsOfCode_of_ne hmatch, List.cons_append, List.singleton_append] at h
        have hrest := (List.cons.inj h).2
        cases swallowed with
        | nil =>
          exact ⟨[], code :: codes, rfl, fun c hc => absurd hc List.not_mem_nil,
            Or.inr ⟨marginOf code + 3, _, hrest.symm⟩⟩
        | cons r' swallowed =>
          rw [List.cons_append] at hrest
          have hheading := hswallowed r' List.mem_cons_self
          rw [← (List.cons.inj hrest).1] at hheading
          cases hheading

namespace Ruled

variable {k : Nat} {code : List Char} {codes : List (List Char)} {ls : List LogicalLine}

/-- A logical line starts with the first header. -/
theorem first (h : Ruled k (rowsOf (code :: codes)) ls) :
    ∃ toks ls' swallowed rows rest, ls = ⟨⟨marginOf code, marginOf code⟩, toks⟩ :: ls'
      ∧ LedBy code toks ∧ rowsOfCode code = .heading (marginOf code) code :: rest
      ∧ rest ++ rowsOf codes = swallowed ++ rows ∧ (∀ r ∈ swallowed, r.isHeading = true)
      ∧ Ruled (k + 1 + swallowed.length) rows ls' := by
  obtain ⟨rest, hrest⟩ := rowsOfCode_eq_cons code
  generalize hrows : rowsOf (code :: codes) = rows at h
  rw [rowsOf_cons, hrest, List.cons_append] at hrows
  cases h with
  | nil => cases hrows
  | pass => cases (List.cons.inj hrows).1
  | heading hlexeme hword hswallowed h =>
    obtain ⟨hheading, hbelow⟩ := List.cons.inj hrows
    obtain ⟨rfl, rfl⟩ := Row.heading.inj hheading
    exact ⟨_, _, _, _, rest, rfl, ⟨_, _, _, rfl, hlexeme, hword⟩, hrest, hbelow, hswallowed, h⟩

/-- A header with a `pass` is a logical line, and the `pass` is one. -/
theorem clause (hcode : firstWord code ≠ "match") (h : Ruled k (rowsOf (code :: codes)) ls) :
    ∃ toks u ls', ls = ⟨⟨marginOf code, marginOf code⟩, toks⟩
        :: ⟨⟨marginOf code + 4, marginOf code + 4⟩, [u]⟩ :: ls'
      ∧ LedBy code toks ∧ u.lexeme = .word "pass" ∧ u.line = k + 1
      ∧ Ruled (k + 2) (rowsOf codes) ls' := by
  obtain ⟨toks, ls', swallowed, rows, rest, rfl, hled, hrest, hbelow, hswallowed, h⟩ := h.first
  obtain rfl : rest = [.pass (marginOf code + 4)] := by
    rw [rowsOfCode_of_ne hcode] at hrest
    exact (List.cons.inj hrest).2.symm
  cases swallowed with
  | cons r swallowed =>
    have hheading := hswallowed r List.mem_cons_self
    rw [← (List.cons.inj hbelow).1] at hheading
    cases hheading
  | nil =>
    obtain rfl : _ = rows := hbelow
    rw [List.singleton_append] at h
    cases h with
    | pass hlexeme hline hls => exact ⟨toks, _, _, rfl, hled, hlexeme, hline, hls⟩

/-- What stands below a logical line that starts with a `match`. -/
theorem matched (hcode : firstWord code = "match") (h : Ruled k (rowsOf (code :: codes)) ls) :
    ∃ toks ls' ms codes', ls = ⟨⟨0, 0⟩, toks⟩ :: ls' ∧ LedBy code toks ∧ codes = ms ++ codes'
      ∧ (∀ c ∈ ms, firstWord c = "match")
      ∧ (Ruled (k + 1 + ms.length) (rowsOf codes') ls'
        ∨ ∃ m u ls'', ls' = ⟨⟨m + 1, m + 1⟩, [u]⟩ :: ls'' ∧ u.lexeme = .word "pass") := by
  obtain ⟨toks, ls', swallowed, rows, rest, rfl, hled, hrest, hbelow, hswallowed, h⟩ := h.first
  obtain rfl : rest = [] := by
    rw [rowsOfCode_match hcode] at hrest
    exact (List.cons.inj hrest).2.symm
  obtain ⟨ms, codes', rfl, hms, hrows⟩ := rowsOf_eq_append hbelow hswallowed
  rw [marginOf_match hcode]
  refine ⟨toks, ls', ms, codes', rfl, hled, rfl, hms, ?_⟩
  rcases hrows with ⟨rfl, hlength⟩ | ⟨m, rows', rfl⟩
  · rw [hlength]
    exact Or.inl h
  · cases h with
    | pass hlexeme hline h => exact Or.inr ⟨m, _, _, rfl, hlexeme⟩

/-- Rows are over where the logical lines are. -/
theorem eq_nil (h : Ruled k (rowsOf codes) []) : codes = [] := by
  cases codes with
  | nil => rfl
  | cons code codes =>
    obtain ⟨toks, ls', swallowed, rows, rest, hls, -⟩ := h.first
    cases hls

/-- The lines of headers have the margins of these. -/
theorem head?_width (h : Ruled k (rowsOf codes) ls) {l : LogicalLine} (hl : l ∈ ls.head?) :
    ∃ code ∈ codes.head?, l.width = ⟨marginOf code, marginOf code⟩ := by
  cases codes with
  | nil =>
    generalize hrows : rowsOf [] = rows at h
    cases h with
    | nil => exact absurd hl (Option.not_mem_none _)
    | pass => cases hrows
    | heading => cases hrows
  | cons code codes =>
    obtain ⟨toks, ls', swallowed, rows, rest, rfl, -⟩ := h.first
    obtain rfl := Option.some.inj hl
    exact ⟨code, rfl, rfl⟩

/-- Every logical line starts with a word. -/
theorem ledByWord {rows : List Row} (h : Ruled k rows ls) :
    ∀ l ∈ ls, ∃ t ts w, l.toks = t :: ts ∧ t.lexeme = .word w := by
  induction h with
  | nil k => exact fun l hl => absurd hl List.not_mem_nil
  | pass hlexeme hline h ih => exact List.forall_mem_cons.2 ⟨⟨_, _, _, rfl, hlexeme⟩, ih⟩
  | heading hlexeme hword hswallowed h ih =>
    exact List.forall_mem_cons.2 ⟨⟨_, _, _, rfl, hlexeme⟩, ih⟩

end Ruled

/-! ## §6. Clauses. -/

/-- A header and the row of the `pass` that is its body. -/
structure Clause where
  head : Head
  row : Nat

/-- The clause with a body. -/
def Clause.withBody (bodies : Nat → List Stmt) (c : Clause) : Item := .headed c.head (bodies c.row)

/-- The bodies that are a `pass`. -/
def passes (row : Nat) : List Stmt := [.pass row]

/-- The lines of headers, of which the first stands on the given row, each with its `pass` below. -/
inductive Clauses (g : Grammar) (inMatch : Bool) :
    Nat → List (List Char) → List Line → List Clause → Prop
  | nil (k) : Clauses g inMatch k [] [] []
  | cons {k code codes toks u head forest clauses}
      (htext : lineText g inMatch true toks = some (.opening head, []))
      (hword : head.word = firstWord code) (hmatch : firstWord code ≠ "match")
      (hlexeme : u.lexeme = .word "pass") (hline : u.line = k + 1)
      (h : Clauses g inMatch (k + 2) codes forest clauses) :
      Clauses g inMatch k (code :: codes) (.mk toks [.mk [u] []] :: forest)
        (⟨head, k + 1⟩ :: clauses)

section Shape

variable {g : Grammar} {inMatch : Bool} {k m : Nat} {codes : List (List Char)}
  {ls rest : List LogicalLine} {forest : List Line} {items : List Item}

theorem readItems?_cons {l : Line} (h : readItems? g inMatch (l :: forest) = some items) :
    ∃ i more, items = i :: more ∧ readItem? g inMatch l = some i
      ∧ readItems? g inMatch forest = some more := by
  rw [readItems?] at h
  obtain ⟨i, hi, h⟩ := Option.bind_eq_some_iff.1 h
  obtain ⟨more, hmore, h⟩ := Option.bind_eq_some_iff.1 h
  exact ⟨i, more, (Option.some.inj h).symm, hi, hmore⟩

theorem marginOf_le (code : List Char) : marginOf code ≤ 4 := by
  unfold marginOf
  split
  · exact Nat.le_refl _
  · exact Nat.zero_le _

theorem Clauses.slots {clauses : List Clause} (h : Clauses g inMatch k codes forest clauses) :
    slotsFrom k codes = clauses.map (some ·.row) := by
  induction h with
  | nil k => rfl
  | cons _ _ hmatch _ _ h ih => rw [slotsFrom, if_neg hmatch, ih, List.map_cons]

theorem Clauses.words {clauses : List Clause} (h : Clauses g inMatch k codes forest clauses) :
    codes.map firstWord = clauses.map (·.head.word) := by
  induction h with
  | nil k => rfl
  | cons _ hword _ _ _ h ih => rw [List.map_cons, List.map_cons, ih, hword]

theorem Clauses.lt_row {clauses : List Clause} (h : Clauses g inMatch k codes forest clauses) :
    ∀ c ∈ clauses, k < c.row := by
  induction h with
  | nil k => exact fun c hc => absurd hc List.not_mem_nil
  | @cons k code codes toks u head forest clauses _ _ _ _ _ h ih =>
    refine List.forall_mem_cons.2 ⟨Nat.lt_succ_self k, fun c hc => ?_⟩
    have hlt := ih c hc
    omega

theorem Clauses.nodup_rows {clauses : List Clause} (h : Clauses g inMatch k codes forest clauses) :
    (clauses.map Clause.row).Nodup := by
  induction h with
  | nil k => exact List.nodup_nil
  | @cons k code codes toks u head forest clauses _ _ _ _ _ h ih =>
    refine List.nodup_cons.2 ⟨fun hmem => ?_, ih⟩
    obtain ⟨c, hc, hrow⟩ := List.mem_map.1 hmem
    have hrow : c.row = k + 1 := hrow
    have hlt := h.lt_row c hc
    omega

/-- The suite of a header is its `pass`: below it stands no `case`. -/
theorem suite_of_pass {u : Tok} {suite : List Line} (hrows : Ruled k (rowsOf codes) ls)
    (hlexeme : u.lexeme = .word "pass")
    (hsuite : IsSuite (m + 4) (⟨⟨m + 4, m + 4⟩, [u]⟩ :: ls) suite rest)
    (hitems : readItems? g false suite = some items) :
    suite = [.mk [u] []] ∧ rest = ls ∧ items = [.simple [.pass u.line]] := by
  have hwidths : ∀ l ∈ ls.head?, ∃ k, k ≤ m + 4 ∧ l.width = ⟨k, k⟩ := by
    intro l hl
    obtain ⟨code, -, hwidth⟩ := hrows.head?_width hl
    have hle := marginOf_le code
    exact ⟨_, by omega, hwidth⟩
  obtain ⟨suite', rfl, hsuite'⟩ := hsuite.flat hwidths
  obtain ⟨i, more, rfl, hi, hmore⟩ := readItems?_cons hitems
  obtain ⟨-, -, rfl⟩ := readItem?_pass hlexeme hi
  suffices hend : suite' = [] ∧ rest = ls by
    obtain ⟨rfl, rfl⟩ := hend
    rw [readItems?] at hmore
    obtain rfl := Option.some.inj hmore
    exact ⟨rfl, rfl, rfl⟩
  cases codes with
  | nil =>
    cases ls with
    | nil => exact hsuite'.nil
    | cons l ls =>
      obtain ⟨code, hcode, -⟩ := hrows.head?_width (l := l) rfl
      exact absurd hcode (Option.not_mem_none _)
  | cons code codes =>
    by_cases hdeep : marginOf code < m + 4
    · obtain ⟨toks, ls', swallowed, rows, below, rfl, -⟩ := hrows.first
      exact hsuite'.shallower hdeep
    · -- a `case` would be a line with a suite, but no header
      have hle := marginOf_le code
      obtain rfl : m = 0 := by omega
      have hcase : firstWord code = "case" := by
        by_contra hne
        unfold marginOf at hdeep
        rw [if_neg hne] at hdeep
        omega
      obtain ⟨toks, v, ls', rfl, hled, -⟩ := hrows.clause (by rw [hcase]; decide)
      have hmargin : marginOf code = 4 := if_pos hcase
      rw [hmargin] at hsuite'
      obtain ⟨inner, ls'', suite'', rfl, hinner, -⟩ := hsuite'.nested rfl (by omega)
      obtain ⟨below, inner', rfl⟩ := hinner.first
      obtain ⟨j, more', rfl, hj, -⟩ := readItems?_cons hmore
      obtain ⟨w, t, ts, rfl, ht, hw⟩ := hled
      obtain ⟨head, -, hfits, -⟩ := opening_of_readItem? ht (List.cons_ne_nil _ _) hj
      rw [hfits.firstWord hw] at hcase
      cases hfits.inMatch.1 hcase

/-- A suite without lines has no clauses. -/
theorem clauses_of_nil (hrows : Ruled k (rowsOf codes) ls)
    (hitems : readItems? g inMatch [] = some items) :
    ∃ codes₁ codes₂ clauses, codes = codes₁ ++ codes₂ ∧ Clauses g inMatch k codes₁ [] clauses
      ∧ items = clauses.map (·.withBody passes)
      ∧ Ruled (k + 2 * codes₁.length) (rowsOf codes₂) ls := by
  rw [readItems?] at hitems
  obtain rfl := Option.some.inj hitems
  exact ⟨[], codes, [], rfl, .nil k, rfl, hrows⟩

/-- **Headers in a suite are clauses**, each with its `pass` below it, if all lines of the suite are
headers; the suite ends where a header is indented less. -/
theorem clauses_of_suite (hrows : Ruled k (rowsOf codes) ls) (hsuite : IsSuite m ls forest rest)
    (hitems : readItems? g inMatch forest = some items)
    (hheaded : ∀ i ∈ items, ∃ head body, i = .headed head body) :
    ∃ codes₁ codes₂ clauses, codes = codes₁ ++ codes₂ ∧ Clauses g inMatch k codes₁ forest clauses
      ∧ items = clauses.map (·.withBody passes)
      ∧ Ruled (k + 2 * codes₁.length) (rowsOf codes₂) rest := by
  induction codes generalizing k ls forest items with
  | nil =>
    cases ls with
    | nil =>
      obtain ⟨rfl, rfl⟩ := hsuite.nil
      exact clauses_of_nil hrows hitems
    | cons l ls =>
      obtain ⟨code, hcode, -⟩ := hrows.head?_width (l := l) rfl
      exact absurd hcode (Option.not_mem_none _)
  | cons code codes ih =>
    obtain ⟨toks, ls', swallowed, rows, below, rfl, hled, -⟩ := hrows.first
    rcases Nat.lt_or_eq_of_le hsuite.le with hlt | rfl
    · obtain ⟨rfl, rfl⟩ := hsuite.shallower hlt
      exact clauses_of_nil hrows hitems
    by_cases hmatch : firstWord code = "match"
    · -- a `match` is no header with a body
      obtain ⟨suite, forest', rfl⟩ := hsuite.first
      obtain ⟨i, more, rfl, hi, -⟩ := readItems?_cons hitems
      obtain ⟨ss, rfl⟩ := simple_of_match hmatch hled hi
      obtain ⟨head, body, heq⟩ := hheaded _ List.mem_cons_self
      cases heq
    · obtain ⟨toks', u, ls'', heq, -, hlexeme, hline, hrows'⟩ := hrows.clause hmatch
      obtain ⟨htoks, rfl⟩ := List.cons.inj heq
      obtain ⟨suite, ls₁, forest', rfl, hsuite', hforest'⟩ := hsuite.nested rfl (by omega)
      obtain ⟨i, more, rfl, hi, hmore⟩ := readItems?_cons hitems
      obtain ⟨w, t, ts, rfl, ht, hw⟩ := hled
      obtain ⟨inner, suite', hne⟩ := hsuite'.first
      obtain ⟨head, htext, hfits, items', hitem, hitems'⟩ :=
        opening_of_readItem? ht (by rw [hne]; exact List.cons_ne_nil _ _) hi
      have hword := hfits.firstWord hw
      have hhead : head.word ≠ "match" := by rw [hfits.word, ← hword]; exact hmatch
      rw [opensMatch_opening hhead] at hitems'
      obtain ⟨rfl, rfl, rfl⟩ := suite_of_pass hrows' hlexeme hsuite' hitems'
      rw [item?_opening hhead] at hitem
      obtain rfl : .headed head [.pass u.line] = i := Option.some.inj hitem
      obtain ⟨codes₁, codes₂, clauses, rfl, hclauses, rfl, hrest⟩ := ih hrows' hforest' hmore
        (fun i hi => hheaded i (List.mem_cons_of_mem _ hi))
      refine ⟨code :: codes₁, codes₂, ⟨head, k + 1⟩ :: clauses, rfl, ?_, ?_, ?_⟩
      · refine .cons htext ?_ hmatch hlexeme hline hclauses
        rw [hfits.word, hword]
      · rw [hline]
        rfl
      · rw [List.length_cons]
        exact (show k + 2 + 2 * codes₁.length = k + 2 * (codes₁.length + 1) by omega) ▸ hrest

/-- Lines that start with a word count. -/
theorem counts_of_readItems? (hwords : ∀ ts ∈ writtenIn forest, ∃ t us w, ts = t :: us
    ∧ t.lexeme = .word w) (h : readItems? g inMatch forest = some items) :
    ∀ i ∈ items, i.Counts := by
  induction forest generalizing items with
  | nil =>
    rw [readItems?] at h
    obtain rfl := Option.some.inj h
    exact fun i hi => absurd hi List.not_mem_nil
  | cons l forest ih =>
    obtain ⟨i, more, rfl, hi, hmore⟩ := readItems?_cons h
    rw [writtenIn] at hwords
    obtain ⟨hl, hforest⟩ := List.forall_mem_append.1 hwords
    refine List.forall_mem_cons.2 ⟨?_, ih hforest hmore⟩
    cases l with
    | mk toks suite =>
      obtain ⟨t, us, w, rfl, ht⟩ := hl toks (by rw [Line.written]; exact List.mem_cons_self)
      exact counts_of_readItem? ht hi

theorem IsSuite.written (h : IsSuite m ls forest rest) :
    ls.map LogicalLine.toks = writtenIn forest ++ rest.map LogicalLine.toks := by
  obtain ⟨fuel, depth, h⟩ := h
  exact written_of_readSuite? h

theorem headed_of_continues {i : Item} (h : i.continues = true) :
    ∃ head body, i = .headed head body := by
  cases i with
  | headed head body => exact ⟨head, body, rfl⟩
  | simple ss => cases h
  | decorator e => cases h

theorem headed_of_cases? {cs : List Case} (h : cases? items = some cs) :
    ∀ i ∈ items, ∃ head body, i = .headed head body := by
  fun_induction cases? items generalizing cs with
  | case1 => exact fun i hi => absurd hi List.not_mem_nil
  | case2 p guard body rest ih =>
    obtain ⟨more, hmore, -⟩ := Option.map_eq_some_iff.1 h
    exact List.forall_mem_cons.2 ⟨⟨_, _, rfl⟩, ih hmore⟩
  | case3 => cases h

end Shape

/-! ## §7. The shape of a block. -/

/-- The forest of headers that form one statement, and the statement. -/
inductive Shape (g : Grammar) : List (List Char) → List Line → Stmt → Prop
  /-- A header and its clauses. -/
  | block {codes forest head row clauses s}
      (hclauses : Clauses g false 1 codes forest (⟨head, row⟩ :: clauses))
      (hcontinues : ∀ c ∈ clauses, (c.withBody passes).continues = true)
      (hs : compound? [] head (passes row) (clauses.map (·.withBody passes)) = some s) :
      Shape g codes forest s
  /-- A `match` and its cases; the line of the `match` may have gone on over several headers. -/
  | cases {ms codes toks suite subject clauses cs} (hms : ms ≠ [])
      (hmatch : ∀ c ∈ ms, firstWord c = "match") (hcodes : codes ≠ [])
      (htext : lineText g false true toks = some (.opening (.matchHead subject), []))
      (hclauses : Clauses g true (1 + ms.length) codes suite clauses)
      (hcs : cases? (clauses.map (·.withBody passes)) = some cs) :
      Shape g (ms ++ codes) [.mk toks suite] (.matchBlock subject cs)
  /-- A line that starts with the word `match`, but looks at nothing. -/
  | alone {ms toks s rest} (hmatch : ∀ c ∈ ms, firstWord c = "match")
      (hled : ∃ t ts w, toks = t :: ts ∧ t.lexeme = .word w ∧ w ≠ "pass")
      (htext : lineText g false false toks = some (.simple [s], rest)) :
      Shape g ms [.mk toks []] s

section Shape

variable {g : Grammar} {codes : List (List Char)} {code : List Char} {ls : List LogicalLine}
  {forest : List Line} {items : List Item} {s : Stmt}

/-- A line that starts with a `match` is a simple statement if nothing is below it. -/
theorem shape_of_alone {ms : List (List Char)} {toks : List Tok}
    (hmatch : ∀ c ∈ code :: ms, firstWord c = "match") (hled : LedBy code toks)
    (h : readItem? g false (.mk toks []) = some (.simple [s])) :
    Shape g (code :: ms) [.mk toks []] s := by
  obtain ⟨w, t, ts, rfl, ht, hw⟩ := hled
  rw [readItem?] at h
  obtain ⟨⟨text, rest⟩, htext, hread⟩ := Option.bind_eq_some_iff.1 h
  obtain ⟨items, hitems, hitem⟩ := Option.bind_eq_some_iff.1 hread
  rw [readItems?] at hitems
  obtain rfl := Option.some.inj hitems
  clear h hread hitems
  have hcode := hmatch code List.mem_cons_self
  rcases lineText_cases ht htext with ⟨head, hfits, -⟩ | ⟨⟨s', ss, rfl⟩, -⟩
  · cases hfits.hasSuite (by rw [← hfits.firstWord hw, hcode])
  · obtain ⟨rfl, rfl⟩ := List.cons.inj (Item.simple.inj (Option.some.inj hitem))
    refine .alone hmatch ⟨t, ts, w, rfl, ht, ?_⟩ htext
    rintro rfl
    rw [firstWord, ← hw] at hcode
    exact absurd hcode (by decide)

/-- A line that starts with a `match` and has lines below it looks for cases there. -/
theorem matchHead_of_readItem? {toks : List Tok} {suite : List Line} {i : Item}
    (hcode : firstWord code = "match") (hled : LedBy code toks) (hsuite : suite ≠ [])
    (h : readItem? g false (.mk toks suite) = some i) :
    ∃ subject, lineText g false true toks = some (.opening (.matchHead subject), [])
      ∧ ∃ items, item? (.opening (.matchHead subject)) items = some i
        ∧ readItems? g true suite = some items := by
  obtain ⟨w, t, ts, rfl, ht, hw⟩ := hled
  obtain ⟨head, htext, hfits, items, hitem, hitems⟩ := opening_of_readItem? ht hsuite h
  obtain ⟨subject, rfl⟩ := Head.eq_matchHead (by rw [hfits.word, ← hfits.firstWord hw, hcode])
  exact ⟨subject, htext, items, hitem, hitems⟩

theorem matchBlock_of_item? {subject : Expr}
    (h : item? (.opening (.matchHead subject)) items = some (.simple [s])) :
    ∃ cs, cases? items = some cs ∧ s = .matchBlock subject cs := by
  rw [item?] at h
  split at h
  · cases h
  · obtain ⟨cs, hcs, heq⟩ := Option.map_eq_some_iff.1 h
    exact ⟨cs, hcs, (List.cons.inj (Item.simple.inj heq)).1.symm⟩

/-- Where no line is left to a forest, no row is. -/
theorem IsSuite.eq_nil_of_rows {k : Nat} (h : IsSuite 0 ls [] []) (hrows : Ruled k (rowsOf codes) ls) :
    ls = [] := by
  cases ls with
  | nil => rfl
  | cons l ls =>
    obtain ⟨code, -, hwidth⟩ := hrows.head?_width (l := l) rfl
    obtain ⟨width, toks⟩ := l
    obtain rfl : width = ⟨marginOf code, marginOf code⟩ := hwidth
    have hle := h.le
    rw [Nat.le_zero.1 hle] at h
    obtain ⟨suite, more, hne⟩ := h.first
    cases hne

/-- A line that starts with a `match` stands alone or has its cases below it. -/
theorem shape_of_match (hcode : firstWord code = "match")
    (hrows : Ruled 1 (rowsOf (code :: codes)) ls) (hsuite : IsSuite 0 ls forest [])
    (hitems : readItems? g false forest = some items) (hs : items = [.simple [s]]) :
    Shape g (code :: codes) forest s := by
  subst hs
  obtain ⟨toks, ls', ms, codes', rfl, hled, rfl, hms, hbelow⟩ := hrows.matched hcode
  have hmatch : ∀ c ∈ code :: ms, firstWord c = "match" := List.forall_mem_cons.2 ⟨hcode, hms⟩
  obtain ⟨suite, forest', rfl⟩ := hsuite.first
  obtain ⟨i, more, hmore, hi, hforest'⟩ := readItems?_cons hitems
  obtain ⟨rfl, rfl⟩ := List.cons.inj hmore
  -- nothing stands beside the line
  obtain rfl : forest' = [] := List.length_eq_zero_iff.1 (length_readItems? hforest').symm
  rcases hbelow with hrows' | ⟨m, u, ls'', rfl, hlexeme⟩
  · cases ls' with
    | nil =>
      obtain rfl := hrows'.eq_nil
      obtain ⟨forest', heq, -⟩ := hsuite.flat fun l hl => absurd hl (Option.not_mem_none _)
      obtain ⟨hline, rfl⟩ := List.cons.inj heq
      obtain ⟨-, rfl⟩ := Line.mk.inj hline
      rw [List.append_nil]
      exact shape_of_alone hmatch hled hi
    | cons l ls' =>
      obtain ⟨code', hcode', hwidth⟩ := hrows'.head?_width (l := l) rfl
      by_cases hcase : firstWord code' = "case"
      · rw [marginOf, if_pos hcase] at hwidth
        obtain ⟨suite', ls'', forest', heq, hcases, hforest⟩ := hsuite.nested hwidth (by omega)
        obtain ⟨hline, rfl⟩ := List.cons.inj heq
        obtain ⟨-, rfl⟩ := Line.mk.inj hline
        have hne : suite ≠ [] := by
          obtain ⟨width, toks'⟩ := l
          obtain rfl : width = ⟨4, 4⟩ := hwidth
          obtain ⟨inner, more, rfl⟩ := hcases.first
          exact List.cons_ne_nil _ _
        obtain ⟨subject, htext, items, hitem, hitems'⟩ := matchHead_of_readItem? hcode hled hne hi
        obtain ⟨cs, hcs, rfl⟩ := matchBlock_of_item? hitem
        obtain ⟨codes₁, codes₂, clauses, rfl, hclauses, rfl, hrest⟩ :=
          clauses_of_suite hrows' hcases hitems' (headed_of_cases? hcs)
        obtain rfl := hforest.eq_nil_of_rows hrest
        obtain rfl := hrest.eq_nil
        rw [List.append_nil] at hcode' ⊢
        have hcodes : codes₁ ≠ [] := by
          rintro rfl
          exact absurd hcode' (Option.not_mem_none _)
        rw [← List.cons_append]
        refine .cases (List.cons_ne_nil _ _) hmatch hcodes htext ?_ hcs
        rw [List.length_cons, Nat.add_comm ms.length 1, ← Nat.add_assoc]
        exact hclauses
      · -- the line below would stand beside it
        rw [marginOf, if_neg hcase] at hwidth
        obtain ⟨forest', heq, hforest⟩ := hsuite.flat fun l' hl' => by
          obtain rfl := Option.some.inj hl'
          exact ⟨0, Nat.le_refl _, hwidth⟩
        obtain ⟨-, rfl⟩ := List.cons.inj heq
        obtain ⟨width, toks'⟩ := l
        obtain rfl : width = ⟨0, 0⟩ := hwidth
        obtain ⟨suite', more, hne⟩ := hforest.first
        cases hne
  · -- the `pass` of a header that is read together with the `match` would be a case
    obtain ⟨suite', ls', forest', heq, hsuite', -⟩ := hsuite.nested rfl (Nat.succ_pos m)
    obtain ⟨hline, -⟩ := List.cons.inj heq
    obtain ⟨-, rfl⟩ := Line.mk.inj hline
    obtain ⟨inner, more, rfl⟩ := hsuite'.first
    obtain ⟨subject, -, items, hitem, hitems⟩ :=
      matchHead_of_readItem? hcode hled (List.cons_ne_nil _ _) hi
    obtain ⟨j, more', rfl, hj, -⟩ := readItems?_cons hitems
    obtain ⟨-, hfalse, -⟩ := readItem?_pass hlexeme hj
    cases hfalse

/-- **Headers that form one statement have one of three shapes.** -/
theorem shape_of_assemble? (hrows : Ruled 1 (rowsOf codes) ls) (hsuite : IsSuite 0 ls forest [])
    (hitems : readItems? g false forest = some items) (hs : assemble? items = some [s]) :
    Shape g codes forest s := by
  have hcounts : ∀ i ∈ items, i.Counts := by
    refine counts_of_readItems? ?_ hitems
    intro ts hts
    have hwritten := hsuite.written
    rw [List.map_nil, List.append_nil] at hwritten
    rw [← hwritten] at hts
    obtain ⟨l, hl, rfl⟩ := List.mem_map.1 hts
    exact hrows.ledByWord l hl
  have hone := assemble?_eq_singleton hcounts hs
  cases codes with
  | nil =>
    cases ls with
    | nil =>
      obtain ⟨rfl, -⟩ := hsuite.nil
      rw [readItems?] at hitems
      obtain rfl := Option.some.inj hitems
      rcases hone with hone | ⟨head, body, clauses, hone, -⟩
      · cases hone
      · cases hone
    | cons l ls =>
      obtain ⟨code, hcode, -⟩ := hrows.head?_width (l := l) rfl
      exact absurd hcode (Option.not_mem_none _)
  | cons code codes =>
    obtain ⟨toks, ls', swallowed, rows, below, rfl, hled, -⟩ := hrows.first
    have hmargin := Nat.le_zero.1 hsuite.le
    rw [hmargin] at hsuite
    obtain ⟨suite, forest', rfl⟩ := hsuite.first
    obtain ⟨i, more, rfl, hi, hmore⟩ := readItems?_cons hitems
    by_cases hmatch : firstWord code = "match"
    · obtain ⟨ss, rfl⟩ := simple_of_match hmatch hled hi
      refine shape_of_match hmatch hrows (hmargin ▸ hsuite) hitems (hone.resolve_right ?_)
      rintro ⟨head, body, clauses, heq, -⟩
      cases heq
    · obtain ⟨toks', u, ls'', heq, -, hlexeme, -⟩ := hrows.clause hmatch
      obtain ⟨-, rfl⟩ := List.cons.inj heq
      rw [hmargin] at hsuite
      obtain ⟨suite', ls₁, forest'', heq, hsuite', -⟩ := hsuite.nested rfl (by omega)
      obtain ⟨hline, -⟩ := List.cons.inj heq
      obtain ⟨-, rfl⟩ := Line.mk.inj hline
      obtain ⟨inner, more', rfl⟩ := hsuite'.first
      obtain ⟨w, t, ts, rfl, ht, hw⟩ := hled
      obtain ⟨head, htext, hfits, items', hitem, -⟩ :=
        opening_of_readItem? ht (List.cons_ne_nil _ _) hi
      rw [item?_opening (by rw [hfits.word, ← hfits.firstWord hw]; exact hmatch)] at hitem
      have hheaded : ∃ body, i = .headed head body := by
        split at hitem
        · cases hitem
        · obtain ⟨body, -, rfl⟩ := Option.map_eq_some_iff.1 hitem
          exact ⟨body, rfl⟩
      obtain ⟨body, rfl⟩ := hheaded
      rcases hone with hone | ⟨head', body', clauses, heq, hcontinues, hcompound⟩
      · cases hone
      obtain ⟨hfirst, rfl⟩ := List.cons.inj heq
      obtain ⟨rfl, rfl⟩ := Item.headed.inj hfirst
      have hheaded : ∀ i ∈ Item.headed head body :: more, ∃ head body, i = .headed head body :=
        List.forall_mem_cons.2 ⟨⟨_, _, rfl⟩, fun i hi => headed_of_continues (hcontinues i hi)⟩
      rw [hmargin] at hrows
      obtain ⟨codes₁, codes₂, clauses, hcodes, hclauses, hmap, hrest⟩ :=
        clauses_of_suite hrows hsuite hitems hheaded
      obtain rfl := hrest.eq_nil
      rw [List.append_nil] at hcodes
      subst hcodes
      cases clauses with
      | nil => cases hmap
      | cons c clauses =>
        obtain ⟨hfirst, rfl⟩ := List.cons.inj hmap
        obtain ⟨rfl, rfl⟩ := Item.headed.inj hfirst
        exact .block hclauses (fun c hc => hcontinues _ (List.mem_map_of_mem hc)) hcompound

end Shape

end Inlay.Code
