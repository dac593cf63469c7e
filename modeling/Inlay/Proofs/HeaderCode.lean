/-
  Inlay.Proofs.HeaderCode
  ────────────────────────────────
  **BLOCKS THAT COUNT.**

  A block may walk its body once, or as often as a list has items:

      if True:                 — one round
      for _ in [1, 1, 1]:      — a round for each item

  Both headers are read as what they look like, however long the list is, and
  the statement that they form is legal wherever one more loop may be entered.
-/
import Inlay.Proofs.Allowed
import Inlay.Proofs.Reading

namespace Inlay

open Inlay.Code Inlay.Program Inlay.Text

/-! ## §1. Lists of equal items. -/

/-- The item of a list: the number one. -/
def oneItem : Expr := .constant (.int 1)

/-- The characters of further items, each behind a comma. -/
def furtherItems (n : Nat) : List Char := (List.replicate n [',', ' ', '1']).flatten

/-- Their lexemes. -/
def furtherLexemes (n : Nat) : List Lexeme :=
  (List.replicate n [Lexeme.sign ",", .number (.int 1)]).flatten

/-- The characters of all items. -/
def itemChars : Nat → List Char
  | 0 => []
  | n + 1 => '1' :: furtherItems n

/-- Their lexemes. -/
def itemLexemes : Nat → List Lexeme
  | 0 => []
  | n + 1 => .number (.int 1) :: furtherLexemes n

theorem toList_items (n : Nat) :
    (", ".intercalate (List.replicate n "1")).toList = itemChars n := by
  rw [String.toList_intercalate, List.map_replicate]
  cases n with
  | zero => rfl
  | succ n =>
    induction n with
    | zero => rfl
    | succ n ih =>
      rw [List.replicate_succ, List.replicate_succ, List.intercalate_cons_cons,
        ← List.replicate_succ, ih]
      rfl

theorem mem_furtherItems {n : Nat} {c : Char} (hc : c ∈ furtherItems n) :
    c ∈ [',', ' ', '1'] := by
  obtain ⟨l, hl, hcl⟩ := List.mem_flatten.1 hc
  rwa [List.eq_of_mem_replicate hl] at hcl

theorem length_furtherLexemes (n : Nat) : (furtherLexemes n).length = n * 2 := by
  rw [furtherLexemes, List.length_flatten, List.map_replicate, List.sum_replicate_nat]
  rfl

/-- The items of a list, its closing bracket, and the colon behind it. -/
theorem lexes_furtherItems (n : Nat) (rest : List Char) :
    Lexes rest ["]"] (furtherItems n ++ (']' :: ':' :: '\n' :: rest))
      (furtherLexemes n ++ [.sign "]", .sign ":"]) := by
  induction n with
  | zero =>
    refine .lexeme (.sign "]") ']' [] (by rfl) (by rfl) (by decide) (by decide) rfl ?_
    exact .lexeme (.sign ":") ':' [] (by rfl) (by rfl) (by decide) (by decide) rfl .finish
  | succ n ih =>
    refine .lexeme (.sign ",") ',' [] (by rfl) (by rfl) (by decide) (by decide) rfl (.blank ?_)
    refine .lexeme (.number (.int 1)) '1' [] ?_ ?_ (by decide) (by decide) rfl ih
    -- where a number ends depends on the character behind it
    all_goals cases n <;> rfl

theorem lexes_items (n : Nat) (rest : List Char) :
    Lexes rest ["]"] (itemChars n ++ (']' :: ':' :: '\n' :: rest))
      (itemLexemes n ++ [.sign "]", .sign ":"]) := by
  cases n with
  | zero => exact lexes_furtherItems 0 rest
  | succ n =>
    refine .lexeme (.number (.int 1)) '1' [] ?_ ?_ (by decide) (by decide) rfl
      (lexes_furtherItems n rest)
    all_goals cases n <;> rfl

/-! ## §2. The two headers. -/

/-- How often a block walks its body: once, or for each item of a list of so many. -/
inductive Rounds where
  | once
  | each (n : Nat)
  deriving Repr, DecidableEq

namespace Rounds

/-- The number of rounds. -/
def count : Rounds → Nat
  | once => 1
  | each n => n

/-- The number of loops that the body stands in. -/
def loops : Rounds → Nat
  | once => 0
  | each _ => 1

/-- The header of the block. -/
def header : Rounds → String
  | once => "if True:"
  | each n => "for _ in [" ++ ", ".intercalate (List.replicate n "1") ++ "]:"

/-- The statement that the block is, with its body. -/
def statement (body : List Stmt) : Rounds → Stmt
  | once => .conditional (.constant .true) body []
  | each n => .forLoop false (.name "_") (.list (List.replicate n oneItem)) body []

theorem toList_header_each (n : Nat) : (header (each n)).toList =
    'f' :: ("or _ in [".toList ++ (itemChars n ++ "]:".toList)) := by
  unfold header
  dsimp only
  rw [String.toList_append, String.toList_append, toList_items, List.append_assoc]
  rfl

/-- The characters that headers are made of. -/
def headerChars : List Char := "for _ in [1, ]:ifTrue".toList

theorem mem_headerChars {s : List Char} (h : s.all headerChars.contains = true) {c : Char}
    (hc : c ∈ s) : c ∈ headerChars :=
  List.contains_iff_mem.1 (List.all_eq_true.1 h c hc)

theorem mem_header {r : Rounds} {c : Char} (hc : c ∈ r.header.toList) : c ∈ headerChars := by
  have hitem : [',', ' ', '1'].all headerChars.contains = true := by decide
  cases r with
  | once => exact mem_headerChars (by decide) hc
  | each n =>
    rw [toList_header_each, List.mem_cons, List.mem_append, List.mem_append] at hc
    obtain rfl | hc | hc | hc := hc
    · decide
    · exact mem_headerChars (by decide) hc
    · cases n with
      | zero => exact absurd hc List.not_mem_nil
      | succ n =>
        rcases List.mem_cons.1 hc with rfl | hc
        · decide
        · exact mem_headerChars hitem (mem_furtherItems hc)
    · exact mem_headerChars (by decide) hc

theorem getLast?_header (r : Rounds) : r.header.toList.getLast? = some ':' := by
  cases r with
  | once => decide
  | each n =>
    rw [toList_header_each, ← List.cons_append, List.getLast?_append, List.getLast?_append]
    rfl

theorem isTight_header (r : Rounds) : IsTight r.header.toList where
  line := by
    have hall : headerChars.all (fun c => !isLineBoundary c) = true := by decide
    intro c hc
    have hnone := List.all_eq_true.1 hall c (mem_header hc)
    rwa [Bool.not_eq_true'] at hnone
  head := by
    intro c hc
    cases r with
    | once =>
      obtain rfl := Option.some.inj hc
      decide
    | each n =>
      rw [toList_header_each] at hc
      obtain rfl := Option.some.inj hc
      decide
  last := by
    intro c hc
    rw [getLast?_header] at hc
    obtain rfl := Option.some.inj hc
    decide

theorem header_ne_nil (r : Rounds) : r.header.toList ≠ [] := by
  intro h
  have hlast := r.getLast?_header
  rw [h] at hlast
  cases hlast

theorem not_mem_header (r : Rounds) {c : Char} (hc : c ∉ headerChars) : c ∉ r.header.toList :=
  fun hmem => hc (mem_header hmem)

theorem isHeader_header (r : Rounds) : Header.isHeader r.header = true := by
  rw [isHeader_tight r.isTight_header, getLast?_header]
  rfl

theorem leadingWord?_header (r : Rounds) : Header.leadingWord? r.header = some (match r with
    | once => "if"
    | each _ => "for") := by
  unfold Header.leadingWord?
  rw [r.isTight_header.strip]
  cases r with
  | once => rfl
  | each n =>
    rw [toList_header_each]
    rfl

theorem opensBlock_header (r : Rounds) : Header.opensBlock r.header = true := by
  unfold Header.opensBlock
  rw [isHeader_header, leadingWord?_header]
  cases r <;> rfl

theorem hasBody_header (r : Rounds) : Header.hasBody r.header = true := by
  unfold Header.hasBody
  rw [leadingWord?_header]
  cases r <;> rfl

theorem clauseWord?_header (r : Rounds) : Header.clauseWord? r.header = none := by
  unfold Header.clauseWord?
  rw [isHeader_header, leadingWord?_header]
  cases r <;> rfl

theorem lacksEnd_header (r : Rounds) : lacksEnd r.header = true := by
  unfold lacksEnd
  rw [Bool.not_eq_true', decide_eq_false_iff_not]
  exact fun hwithin => r.not_mem_header (by decide) (hwithin.subset List.mem_cons_self)

theorem lexes_each (n : Nat) : Lexes "    pass\n".toList []
    ('f' :: (("or _ in [".toList ++ (itemChars n ++ "]:".toList)) ++ "\n    pass\n".toList))
      (.word "for" :: .word "_" :: .word "in" :: .sign "[" ::
        (itemLexemes n ++ [.sign "]", .sign ":"])) := by
  have hsource : ("or _ in [".toList ++ (itemChars n ++ "]:".toList)) ++ "\n    pass\n".toList =
      "or".toList ++ (' ' :: '_' :: ([] ++ ' ' :: 'i' :: ("n".toList ++ ' ' :: '[' ::
        ([] ++ (itemChars n ++ (']' :: ':' :: '\n' :: "    pass\n".toList)))))) := by
    simp [List.append_assoc]
  rw [hsource]
  refine .lexeme (.word "for") 'f' "or".toList (by rfl) (by rfl) (by decide) (by decide) rfl
    (.blank ?_)
  refine .lexeme (.word "_") '_' [] (by rfl) (by rfl) (by decide) (by decide) rfl (.blank ?_)
  refine .lexeme (.word "in") 'i' "n".toList (by rfl) (by rfl) (by decide) (by decide) rfl
    (.blank ?_)
  exact .lexeme (.sign "[") '[' [] (by rfl) (by rfl) (by decide) (by decide) rfl
    (lexes_items n _)

theorem lexes_once : Lexes "    pass\n".toList []
    ('i' :: ("f True:".toList ++ "\n    pass\n".toList))
      [.word "if", .word "True", .sign ":"] := by
  refine .lexeme (.word "if") 'i' "f".toList (by rfl) (by rfl) (by decide) (by decide) rfl
    (.blank ?_)
  refine .lexeme (.word "True") 'T' "rue".toList (by rfl) (by rfl) (by decide) (by decide) rfl ?_
  exact .lexeme (.sign ":") ':' [] (by rfl) (by rfl) (by decide) (by decide) rfl .finish

end Rounds

/-! ## §3. Reading items. -/

namespace Code.Reader

theorem skip_next (t : Tok) (ts : List Tok) : skip (t :: ts) = some ((), ts) := rfl

variable {α : Type} {item : Reader α} {rest : List Tok}

/-- Are these the items that follow the first one, each with a comma in front? -/
inductive Follow (item : Reader α) (rest : List Tok) : List α → List Tok → Prop
  | nil (h : Lacks (.sign ",") rest) : Follow item rest [] rest
  | cons {a : α} {as : List α} {comma : Tok} {ts us : List Tok}
      (hcomma : comma.lexeme = .sign ",") (hitem : item ts = some (a, us))
      (h : Follow item rest as us) : Follow item rest (a :: as) (comma :: ts)

/-- One more item behind a comma. -/
def nextItem? (item : Reader α) : Reader (Option α) := do
  if ← atSign "," then attempt (do skip; item) else return none

theorem manyAlong_follow {as : List α} {ts : List Tok} (h : Follow item rest as ts)
    (along : List Tok) (hlength : as.length ≤ along.length) :
    manyAlong (nextItem? item) along ts = some (as, rest) := by
  induction h generalizing along with
  | nil h =>
    have hnone : nextItem? item rest = some (none, rest) := bind_apply _ (atSign_lacks h)
    cases along <;> rw [manyAlong, bind_apply _ hnone] <;> rfl
  | @cons a as comma ts us hcomma hitem _ ih =>
    cases along with
    | nil => simp at hlength
    | cons t along =>
      have hat : atSign "," (comma :: ts) = some (true, comma :: ts) := by
        show some (some comma.lexeme == some (.sign ","), comma :: ts) = _
        rw [hcomma, beq_self_eq_true]
      have hone : nextItem? item (comma :: ts) = some (some a, us) := by
        have hbehind : (do skip; item : Reader α) (comma :: ts) = some (a, us) :=
          (bind_apply _ (skip_next comma ts)).trans hitem
        refine (bind_apply _ hat).trans ?_
        rw [if_pos rfl, attempt, hbehind]
      rw [manyAlong, bind_apply _ hone]
      exact bind_apply _ (ih along (Nat.le_of_succ_le_succ hlength))

/-- Items between commas, as many as there are. -/
theorem commas_follow {a : α} {as : List α} {ts us : List Tok} (hitem : item ts = some (a, us))
    (h : Follow item rest as us) (hlength : as.length ≤ us.length)
    (hcomma : Lacks (.sign ",") rest) : commas item ts = some ((a :: as, false), rest) := by
  have hmany : many (nextItem? item) us = some (as, rest) := manyAlong_follow h us hlength
  refine (bind_apply _ hitem).trans ((bind_apply _ hmany).trans ?_)
  exact bind_apply _ (acceptSign_lacks hcomma)

end Code.Reader

section Items

open Reader

variable {n k : Nat} {rest ts : List Tok}

theorem expression_number {t : Tok} {c : Constant} (ht : t.lexeme = .number c)
    (hstop : AtStop rest) : (grammar (n + 2)).expression (t :: rest) = some (.constant c, rest) := by
  have hpeek : peek? (t :: rest) = some (some (.number c), t :: rest) := by
    rw [← ht]
    rfl
  have hlacks : ∀ x, (∀ c, x ≠ .number c) → Lacks x (t :: rest) :=
    fun x hx => .cons (by rw [ht]; exact (hx _).symm) _
  refine expression_of_primary (fun w _ => hlacks _ (fun _ => Lexeme.noConfusion))
    (fun s _ => hlacks _ (fun _ => Lexeme.noConfusion))
    (primary_of_atom ?_ (fun inner => ?_) hstop) hstop
  · rw [ht]
    exact Lexeme.noConfusion
  · exact (bind_apply _ hpeek).trans rfl

theorem oneItem_next {t : Tok} (ht : t.lexeme = .number (.int 1)) (hstop : AtStop rest) :
    starredOr (grammar (n + 2)) (namedExpression (grammar (n + 2))) (t :: rest) =
      some (oneItem, rest) := by
  refine (bind_apply _ (acceptSign_lacks (.cons ?_ _))).trans ?_
  · rw [ht]
    exact Lexeme.noConfusion
  · exact namedExpression_of (hstop.lacks_sign (by decide)) (expression_number ht hstop)

/-- Behind an item stands a comma, or the bracket that closes the list. -/
theorem atStop_furtherItems (hts : ts.map Tok.lexeme = furtherLexemes k) {close : Tok}
    (hclose : close.lexeme = .sign "]") : AtStop (ts ++ close :: rest) := by
  cases k with
  | zero =>
    obtain rfl := List.map_eq_nil_iff.1 hts
    exact .cons hclose (by decide) rest
  | succ k =>
    obtain ⟨comma, ts, rfl, hcomma, -⟩ := List.map_eq_cons_iff.1 hts
    exact .cons hcomma (by decide) _

theorem follow_furtherItems (hts : ts.map Tok.lexeme = furtherLexemes k) {close : Tok}
    (hclose : close.lexeme = .sign "]") :
    Follow (starredOr (grammar (n + 2)) (namedExpression (grammar (n + 2)))) (close :: rest)
      (List.replicate k oneItem) (ts ++ close :: rest) := by
  induction k generalizing ts with
  | zero =>
    obtain rfl := List.map_eq_nil_iff.1 hts
    exact .nil (.cons (by rw [hclose]; decide) rest)
  | succ k ih =>
    obtain ⟨comma, us, rfl, hcomma, hus⟩ := List.map_eq_cons_iff.1 hts
    obtain ⟨number, ts, rfl, hnumber, hts⟩ := List.map_eq_cons_iff.1 hus
    exact .cons hcomma (oneItem_next hnumber (atStop_furtherItems hts hclose)) (ih hts)

/-- What stands in the brackets is a list of so many items. -/
theorem listTail_items (hts : ts.map Tok.lexeme = itemLexemes k) {close : Tok}
    (hclose : close.lexeme = .sign "]") (inner : Reader Expr) :
    listTail (grammar (n + 2)) inner (ts ++ close :: rest) =
      some (.list (List.replicate k oneItem), rest) := by
  cases k with
  | zero =>
    obtain rfl := List.map_eq_nil_iff.1 hts
    exact bind_apply _ (acceptSign_next hclose rest)
  | succ k =>
    obtain ⟨number, ts, rfl, hnumber, hts⟩ := List.map_eq_cons_iff.1 hts
    have hlength : (List.replicate k oneItem).length ≤ (ts ++ close :: rest).length := by
      have hlexemes := congrArg List.length hts
      rw [List.length_map, length_furtherLexemes] at hlexemes
      rw [List.length_replicate, List.length_append]
      omega
    have hstop : AtStop (close :: rest) := .cons hclose (by decide) rest
    have hitems := commas_follow (oneItem_next hnumber (atStop_furtherItems hts hclose))
      (follow_furtherItems (n := n) hts hclose) hlength (.cons (by rw [hclose]; decide) rest)
    refine (bind_apply _ (acceptSign_lacks
      (.cons (by rw [hnumber]; exact Lexeme.noConfusion) _))).trans ?_
    refine (bind_apply _ hitems).trans ?_
    cases k with
    | zero =>
      -- behind a single item a comprehension could begin
      refine (bind_apply _ (compClauses_stop inner hstop)).trans ?_
      exact bind_apply _ (sign_next hclose rest)
    | succ k => exact bind_apply _ (sign_next hclose rest)

end Items

/-! ## §4. Reading headers. -/

section Heads

open Reader

variable {g : Grammar} {n k : Nat} {rest ts : List Tok}

theorem expression_true {t : Tok} (ht : t.lexeme = .word "True") (hstop : AtStop rest) :
    (grammar (n + 2)).expression (t :: rest) = some (.constant .true, rest) := by
  have hpeek : peek? (t :: rest) = some (some (.word "True"), t :: rest) := by
    rw [← ht]
    rfl
  refine expression_of_primary (fun w hw => .cons ?_ _) (fun s _ => .cons ?_ _)
    (primary_of_atom ?_ (fun inner => ?_) hstop) hstop
  · rw [ht]
    revert w
    decide
  · rw [ht]
    exact Lexeme.noConfusion
  · rw [ht]
    decide
  · exact (bind_apply _ hpeek).trans rfl

theorem head?_if {t test colon : Tok} (ht : t.lexeme = .word "if")
    (htest : test.lexeme = .word "True")
    (hcolon : colon.lexeme = .sign ":") : head? (grammar (n + 2)) false true [t, test, colon] =
      some (some (.ifHead (.constant .true)), [colon]) := by
  have hpeek : peek? [t, test, colon] = some (some (.word "if"), [t, test, colon]) := by
    rw [← ht]
    rfl
  have hstop : AtStop [colon] := .cons hcolon (by decide) []
  refine (bind_apply _ hpeek).trans ((bind_apply _ (skip_next t _)).trans ?_)
  exact bind_apply _
    (namedExpression_of (hstop.lacks_sign (by decide)) (expression_true htest hstop))

/-- A name in front of a word is an atom that nothing follows. -/
theorem primary_name {t word : Tok} (ht : t.lexeme = .word "_") {w : String}
    (hword : word.lexeme = .word w) :
    primary g (t :: word :: rest) = some (.name "_", word :: rest) := by
  have hsign : ∀ s, Lacks (.sign s) (word :: rest) := fun s =>
    .cons (by rw [hword]; exact Lexeme.noConfusion) rest
  have hpeek : peek? (t :: word :: rest) = some (some (.word "_"), t :: word :: rest) := by
    rw [← ht]
    rfl
  have hname : identifier (t :: word :: rest) = some ("_", word :: rest) :=
    (bind_apply _ hpeek).trans rfl
  have hatom : ∀ inner, atom g inner (t :: word :: rest) = some (.name "_", word :: rest) :=
    fun inner => (bind_apply _ hpeek).trans (bind_apply _ hname)
  have htrailer : ∀ inner, trailer? g inner (word :: rest) = some (none, word :: rest) := by
    intro inner
    refine (bind_apply _ (acceptSign_lacks (hsign "."))).trans ?_
    refine (bind_apply _ (acceptSign_lacks (hsign "("))).trans ?_
    exact bind_apply _ (acceptSign_lacks (hsign "["))
  show primaryAlong g (t :: word :: rest) (t :: word :: rest) = _
  refine (bind_apply _ (acceptWord_lacks (.cons (by rw [ht]; decide) _))).trans ?_
  refine (bind_apply _ (hatom _)).trans ?_
  exact bind_apply _ (many_none (htrailer _))

theorem loopTarget_name {t word : Tok} (ht : t.lexeme = .word "_") {w : String}
    (hword : word.lexeme = .word w) :
    loopTarget (primary g) (t :: word :: rest) = some (.name "_", word :: rest) := by
  have hitem : (do if ← acceptSign "*" then return Expr.starred (← primary g) else primary g :
      Reader Expr) (t :: word :: rest) = some (.name "_", word :: rest) :=
    (bind_apply _ (acceptSign_lacks (.cons (by rw [ht]; exact Lexeme.noConfusion) _))).trans
      (primary_name ht hword)
  have hcommas := commas_one hitem (.cons (by rw [hword]; exact Lexeme.noConfusion) rest)
  exact (bind_apply _ hcommas).trans rfl

theorem expression_list {opening close colon : Tok} (hopening : opening.lexeme = .sign "[")
    (hts : ts.map Tok.lexeme = itemLexemes k) (hclose : close.lexeme = .sign "]")
    (hcolon : colon.lexeme = .sign ":") :
    (grammar (n + 4)).expression (opening :: (ts ++ [close, colon])) =
      some (.list (List.replicate k oneItem), [colon]) := by
  have hstop : AtStop [colon] := .cons hcolon (by decide) []
  have hpeek : peek? (opening :: (ts ++ [close, colon])) =
      some (some (.sign "["), opening :: (ts ++ [close, colon])) := by
    rw [← hopening]
    rfl
  refine expression_of_primary (fun w _ => .cons ?_ _) (fun s hs => .cons ?_ _)
    (primary_of_atom ?_ (fun inner => ?_) hstop) hstop
  · rw [hopening]
    exact Lexeme.noConfusion
  · rw [hopening]
    revert s
    decide
  · rw [hopening]
    exact Lexeme.noConfusion
  · exact (bind_apply _ hpeek).trans (listTail_items hts hclose inner)

theorem head?_for {t name word opening close colon : Tok} (ht : t.lexeme = .word "for")
    (hname : name.lexeme = .word "_") (hword : word.lexeme = .word "in")
    (hopening : opening.lexeme = .sign "[") (hts : ts.map Tok.lexeme = itemLexemes k)
    (hclose : close.lexeme = .sign "]") (hcolon : colon.lexeme = .sign ":") :
    head? (grammar (n + 4)) false true (t :: name :: word :: opening :: (ts ++ [close, colon])) =
      some (some (.forHead false (.name "_") (.list (List.replicate k oneItem))), [colon]) := by
  have hpeek : ∀ us, peek? (t :: us) = some (some (.word "for"), t :: us) := by
    intro us
    rw [← ht]
    rfl
  have hin : ∀ us, Reader.word "in" (word :: us) = some ((), us) := by
    intro us
    have hat : atWord "in" (word :: us) = some (true, word :: us) := by
      show some (some word.lexeme == some (.word "in"), word :: us) = _
      rw [hword, beq_self_eq_true]
    exact (bind_apply _ (bind_apply _ hat)).trans rfl
  have hiter : starExpressions (grammar (n + 4)) (opening :: (ts ++ [close, colon])) =
      some (.list (List.replicate k oneItem), [colon]) := by
    have hlist := expression_list (n := n) hopening hts hclose hcolon
    have hitem : starredOr (grammar (n + 4)) (grammar (n + 4)).expression
        (opening :: (ts ++ [close, colon])) = some (.list (List.replicate k oneItem), [colon]) :=
      (bind_apply _ (acceptSign_lacks (.cons (by rw [hopening]; decide) _))).trans hlist
    have hcommas := commas_one hitem (.cons (by rw [hcolon]; decide) [])
    exact (bind_apply _ hcommas).trans rfl
  have hhead : forHead (grammar (n + 4)) false (name :: word :: opening :: (ts ++ [close, colon])) =
      some (.forHead false (.name "_") (.list (List.replicate k oneItem)), [colon]) := by
    refine (bind_apply _ (loopTarget_name hname hword)).trans ?_
    exact (bind_apply _ (hin _)).trans (bind_apply _ hiter)
  refine (bind_apply _ (hpeek _)).trans ((bind_apply _ (skip_next t _)).trans ?_)
  exact bind_apply _ hhead

end Heads

/-! ## §5. Skeletons of one header. -/

theorem readItems?_pass (g : Grammar) :
    readItems? g false [.mk [passTok] []] = some [.simple [.pass 2]] := by
  rw [readItems?, readItem?]
  rfl

/-- A header with its `pass` is the statement that the header says. -/
theorem parseStatements?_header {code : String} {toks : List Tok} {h : Head} {colon : Tok} {s : Stmt}
    (hlayout : layout? code = some [.mk toks [.mk [passTok] []]])
    (hhead : head? (grammarFor code) false true toks = some (some h, [colon]))
    (hcolon : colon.lexeme = .sign ":") (hopens : (LineText.opening h).opensMatch = false)
    (hitem : item? (.opening h) [.simple [.pass 2]] = some (.headed h [.pass 2]))
    (hs : compound? [] h [.pass 2] [] = some s) : parseStatements? code = some [s] := by
  have htext : lineText (grammarFor code) false true toks = some (.opening h, []) := by
    refine (Reader.bind_apply _ hhead).trans ?_
    exact Reader.bind_apply _ (Reader.sign_next hcolon [])
  have hread : readItems? (grammarFor code) false [.mk toks [.mk [passTok] []]] =
      some [.headed h [.pass 2]] := by
    have hitemRead : readItem? (grammarFor code) false (.mk toks [.mk [passTok] []]) =
        some (.headed h [.pass 2]) := by
      rw [readItem?, List.isEmpty_cons, Bool.not_false, htext, Option.bind_eq_bind,
        Option.bind_some]
      dsimp only
      rw [hopens, readItems?_pass, Option.bind_eq_bind, Option.bind_some, hitem]
    rw [readItems?, hitemRead, readItems?]
    rfl
  have hassemble : assemble? [.headed h [.pass 2]] = some [s] := by
    unfold assemble? gather gather
    rw [statements?, hs, statements?]
    rfl
  unfold parseStatements?
  rw [hlayout, Option.bind_eq_bind, Option.bind_some, hread]
  exact hassemble

/-- A header of its own has the statement as its skeleton that it forms with a `pass`. -/
theorem skeleton_header {header : String} (htight : IsTight header.toList)
    (hne : header.toList ≠ []) (hbody : Header.hasBody header = true)
    (hclause : Header.clauseWord? header = none) (hnul : '\x00' ∉ header.toList) {s : Stmt}
    (hstatement : parseStatements? (header ++ "\n    pass") = some [s])
    (hslot : (s.slotPath? 2).isSome = true) : skeleton [header] = .ok ⟨s, [some 2]⟩ := by
  have hone : linesOf header = [header] := by
    unfold linesOf
    rw [breakLines_line htight.line hne, List.map_singleton, String.ofList_toList]
  have hlines : headerLines header = [header] := by
    unfold headerLines
    rw [normalize_tight htight, hone]
  have hassembly : assembleHeaders [header] = ⟨[header, "    pass"], [some 2]⟩ := by
    rw [assembleHeaders, List.foldl_cons, List.foldl_nil, Assembly.add, hlines]
    dsimp only
    rw [hclause, if_neg (by simp), hbody, if_pos rfl]
    rfl
  have hcode : "\n".intercalate [header, "    pass"] = header ++ "\n    pass" := by
    apply String.toList_injective
    rw [String.toList_intercalate, String.toList_append]
    rfl
  have hclean : (header ++ "\n    pass").toList.contains '\x00' = false := by
    rw [Bool.eq_false_iff]
    intro hmem
    rw [List.contains_iff_mem, String.toList_append, List.mem_append] at hmem
    exact hmem.elim hnul (by decide)
  have hfind : missingSlot? s [some 2] = none := by
    show [2].find? (fun line => (s.slotPath? line).isNone) = none
    rw [List.find?_cons, ← Option.not_isSome, hslot]
    rfl
  unfold skeleton
  dsimp only
  rw [hassembly]
  dsimp only
  rw [hcode, hclean, if_neg Bool.false_ne_true, hstatement]
  dsimp only
  rw [hfind]

namespace Rounds

theorem layout?_rounds (r : Rounds) {c : Char} {s : List Char} {xs : List Lexeme}
    (hr : r.header.toList = c :: s) (hstart : c ∉ nonStarters)
    (h : Lexes "    pass\n".toList [] (c :: (s ++ "\n    pass\n".toList)) xs) :
    ∃ toks, layout? (r.header ++ "\n    pass") = some [.mk toks [.mk [passTok] []]]
      ∧ toks.map Tok.lexeme = xs := by
  refine layout?_header (c := c) (s := s) ?_ ?_ hstart h
  · rw [String.toList_append, hr]
    rfl
  · rw [← hr]
    exact r.isTight_header.not_mem (by decide)

/-- The code is longer than the rules of the grammar nest. -/
theorem grammarFor_header (r : Rounds) :
    ∃ n, grammarFor (r.header ++ "\n    pass") = grammar (n + 4) := by
  refine ⟨(r.header ++ "\n    pass").length - 2, ?_⟩
  have hlong : 2 ≤ (r.header ++ "\n    pass").length := by
    rw [String.length_append]
    exact Nat.le_add_left_of_le (by decide)
  unfold grammarFor
  congr 1
  omega

theorem parseStatements?_once :
    parseStatements? (header once ++ "\n    pass") = some [statement [.pass 2] once] := by
  obtain ⟨toks, hlayout, htoks⟩ := layout?_rounds once (c := 'i') (s := "f True:".toList) rfl
    (by decide) lexes_once
  obtain ⟨t, rest, rfl, ht, hrest⟩ := List.map_eq_cons_iff.1 htoks
  obtain ⟨test, rest, rfl, htest, hrest⟩ := List.map_eq_cons_iff.1 hrest
  obtain ⟨colon, rest, rfl, hcolon, hrest⟩ := List.map_eq_cons_iff.1 hrest
  obtain rfl := List.map_eq_nil_iff.1 hrest
  obtain ⟨n, hn⟩ := once.grammarFor_header
  refine parseStatements?_header (h := .ifHead (.constant .true)) hlayout ?_ hcolon rfl rfl rfl
  rw [hn]
  exact head?_if ht htest hcolon

theorem parseStatements?_each (k : Nat) :
    parseStatements? (header (each k) ++ "\n    pass") = some [statement [.pass 2] (each k)] := by
  obtain ⟨toks, hlayout, htoks⟩ := layout?_rounds (each k) (toList_header_each k) (by decide)
    (lexes_each k)
  obtain ⟨t, rest, rfl, ht, hrest⟩ := List.map_eq_cons_iff.1 htoks
  obtain ⟨name, rest, rfl, hname, hrest⟩ := List.map_eq_cons_iff.1 hrest
  obtain ⟨word, rest, rfl, hword, hrest⟩ := List.map_eq_cons_iff.1 hrest
  obtain ⟨opening, rest, rfl, hopening, hrest⟩ := List.map_eq_cons_iff.1 hrest
  obtain ⟨ts, rest, rfl, hts, hrest⟩ := List.map_eq_append_iff.1 hrest
  obtain ⟨close, rest, rfl, hclose, hrest⟩ := List.map_eq_cons_iff.1 hrest
  obtain ⟨colon, rest, rfl, hcolon, hrest⟩ := List.map_eq_cons_iff.1 hrest
  obtain rfl := List.map_eq_nil_iff.1 hrest
  obtain ⟨n, hn⟩ := (each k).grammarFor_header
  refine parseStatements?_header (h := .forHead false (.name "_") (.list (List.replicate k oneItem)))
    hlayout ?_ hcolon rfl rfl rfl
  rw [hn]
  exact head?_for ht hname hword hopening hts hclose hcolon

/-- **A header is read as the statement that it looks like.** -/
theorem skeleton_rounds (r : Rounds) :
    skeleton [r.header] = .ok ⟨r.statement [.pass 2], [some 2]⟩ := by
  refine skeleton_header r.isTight_header r.header_ne_nil r.hasBody_header r.clauseWord?_header
    (r.not_mem_header (by decide)) ?_ ?_
  · cases r with
    | once => exact parseStatements?_once
    | each k => exact parseStatements?_each k
  · cases r <;> rfl

/-! ## §6. The statement. -/

theorem fill_statement (r : Rounds) (body : List Stmt) :
    (r.statement [.pass 2]).fill ([(2, body)].lookup ·) = r.statement body := by
  cases r <;> rfl

theorem rewriteExprs_items (f : CallRewriter) (n : Nat) :
    rewriteExprs f (List.replicate n oneItem) = List.replicate n oneItem := by
  induction n with
  | zero => rfl
  | succ n ih =>
    rw [List.replicate_succ, rewriteExprs, ih]
    rfl

/-- No include stands in a header. -/
theorem wrapIncludesIn_statement (indentation : String) (r : Rounds) :
    wrapIncludesIn indentation (r.statement [.pass 2]) = r.statement [.pass 2] := by
  cases r with
  | once => rfl
  | each n =>
    unfold wrapIncludesIn statement
    dsimp only
    rw [Stmt.rewriteCalls, Stmt.mapExprs, Expr.rewriteCalls, Expr.rewriteCalls, rewriteExprs_items]
    rfl

theorem fits_items {d : Descent} {budget : Nat} (hlist : d.node ≤ budget)
    (hitem : oneItem.fitsUpTo d budget
      (budget - d.node - d.between { detour := 1, expr := oneItem }) = true) (n : Nat) :
    (Expr.list (List.replicate n oneItem)).fits d budget = true := by
  unfold Expr.fits
  rw [Expr.fitsUpTo, Bool.and_eq_true, decide_eq_true_eq, List.all_eq_true]
  refine ⟨hlist, fun p hp => ?_⟩
  rw [Expr.parts, detoured, List.map_replicate] at hp
  rw [List.eq_of_mem_replicate hp]
  exact hitem

theorem fits_statement (r : Rounds) : (r.statement [.pass 2]).fits reading readingBudget = true
    ∧ (r.statement [.pass 2]).fits rewriting rewritingBudget = true := by
  cases r with
  | once => exact ⟨by decide, by decide⟩
  | each n =>
    have hreading : (Expr.list (List.replicate n oneItem)).fits reading (readingBudget - 1) = true :=
      fits_items (by decide) (by decide) n
    have hrewriting :
        (Expr.list (List.replicate n oneItem)).fits rewriting (rewritingBudget - 2) = true :=
      fits_items (by decide) (by decide) n
    constructor
    · show ((_ && exprsFit reading (readingBudget - 1) [.name "_", _]) && _ && _) = true
      rw [exprsFit, List.all_cons, List.all_cons, hreading]
      decide
    · show ((_ && exprsFit rewriting (rewritingBudget - 2) [.name "_", _]) && _ && _) = true
      rw [exprsFit, List.all_cons, List.all_cons, hrewriting]
      decide

theorem isAllowed_items (n : Nat) : (Expr.list (List.replicate n oneItem)).IsAllowed := by
  refine .list (fun e he => ?_)
  rw [List.eq_of_mem_replicate he]
  exact .constant _

theorem legal_once (body : List Stmt) (p : Place) :
    (once.statement body).legal p = bodyLegal p body := by
  unfold statement
  dsimp only
  rw [Stmt.legal, Expr.legal_constant, bodyLegal_nil, Bool.true_and, Bool.and_true]

theorem legal_each (n : Nat) (body : List Stmt) (p : Place) :
    ((each n).statement body).legal p = (p.hasRoom 1 && bodyLegal p.loop body) := by
  have htarget : (Expr.name "_").legalTarget p = true := by
    rw [Expr.legalTarget]
    decide
  unfold statement
  dsimp only
  rw [Stmt.legal, htarget, (isAllowed_items n).legal p, bodyLegal_nil, Bool.and_true]
  rfl

/-- The statement is allowed where its body is, if one more loop may be entered. -/
theorem isAllowed_statement (r : Rounds) {loops : Nat} {body : List Stmt}
    (h : AreAllowed loops body) : (r.statement body).IsAllowed (loops + r.loops) := by
  have hnamed : ∀ s ∈ body, ∀ fuel, namesFault? fuel [s] = none := fun s hs => (h s hs).named
  cases r with
  | once =>
    refine ⟨fun p hp => ?_, ?_, ?_, ?_⟩
    · rw [legal_once]
      exact h.bodyLegal hp
    · intro m hm
      unfold statement at hm
      dsimp only at hm
      rw [Stmt.mentions, Expr.mentions_constant, List.nil_append, bodyMentions_nil,
        List.append_nil] at hm
      exact h.bodyMentions m hm
    · exact namesFault?_of_parts (List.forall_mem_singleton.2 (.constant _)) rfl
        (List.forall_mem_cons.2 ⟨hnamed, by simp⟩)
    · unfold statement
      dsimp only
      rw [Stmt.annotates, h.bodyAnnotates]
      rfl
  | each n =>
    refine ⟨fun p hp => ?_, ?_, ?_, ?_⟩
    · have hroom : p.hasRoom 1 = true := by
        unfold Place.hasRoom
        rw [decide_eq_true_eq]
        have hloops : (each n).loops = 1 := rfl
        omega
      have hdeeper : p.loop.depth + loops ≤ Place.maxDepth := by
        have hloops : (each n).loops = 1 := rfl
        have hdepth : p.loop.depth = p.depth + 1 := rfl
        omega
      rw [legal_each, hroom, h.bodyLegal hdeeper]
      rfl
    · intro m hm
      unfold statement at hm
      dsimp only at hm
      rw [Stmt.mentions, bodyMentions_nil, List.append_nil, List.mem_append, List.mem_append] at hm
      rcases hm with (hm | hm) | hm
      · exact (isAllowed_items n).mentions m hm
      · rw [Expr.targetMentions, List.mem_singleton] at hm
        rw [hm]
        exact (by decide : "_" ≠ "__debug__")
      · exact h.bodyMentions m hm
    · refine namesFault?_of_parts (List.forall_mem_cons.2 ⟨.name (by decide), ?_⟩) rfl
        (List.forall_mem_cons.2 ⟨hnamed, by simp⟩)
      exact List.forall_mem_singleton.2 (isAllowed_items n)
    · unfold statement
      dsimp only
      rw [Stmt.annotates, h.bodyAnnotates]
      rfl

end Rounds

end Inlay
