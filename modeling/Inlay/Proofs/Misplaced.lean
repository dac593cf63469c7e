/-
  Inlay.Proofs.Misplaced
  ────────────────────────────────
  **WHICH TOKEN IS OUT OF PLACE.**

  Tokens that are not balanced are refused, and the refusal points at one of
  them:

      the first `end` or clause header that stands outside all blocks, or,
      if there is none, the opener of the innermost block that is left open:
      the last opener that no `end` behind it closes.

  The parser keeps its open blocks on a stack.  What carries the second half
  is that their openers are those which the tokens read so far leave open,
  innermost first, with nothing behind each of them but blocks that have been
  closed again.
-/
import Inlay.Program.Compile
import Inlay.Proofs.Balance
import Inlay.Value

namespace Inlay

open Inlay.Diagnostic Inlay.Program Header

/-! ## §1. Tokens out of place. -/

/-- Is the token the first `end` or clause header that stands outside all blocks? -/
def IsFirstStray (ts : List Token) (t : Token) : Prop :=
  ∃ before after, ts = before ++ t :: after ∧ HeadersInside 0 before ∧ depth before = 0
    ∧ (t.isEnd ∨ t.isClause)

/-- Is a block closed by the tokens behind its opener?  Its `end` is the one with which they hold
more of these than openers. -/
def IsClosedBy (behind : List Token) : Prop := ∃ front, front <+: behind ∧ depth front < 0

/-- Is the token the last opener that no `end` closes? -/
def IsLastOpen (ts : List Token) (t : Token) : Prop :=
  ∃ behind, t :: behind <:+ ts ∧ t.isOpener ∧ ¬IsClosedBy behind
    ∧ ∀ u rest, u :: rest <:+ behind → u.isOpener → IsClosedBy rest

/-- Are the tokens refused with an error of structure that has the code and points at the token? -/
def IsRefusedAt (o : Origin) (tokens : List Token) (code : ErrorCode) (t : Token) : Prop :=
  ∃ r, treeOfTokens o tokens = .error r ∧ (Report.malformed r).errorClass = .templateStructure
    ∧ r.anchor = .structure t ∧ r.line = some t.position.line ∧ r.column = some t.position.column
    ∧ r.fault.code = code

instance (behind : List Token) : Decidable (IsClosedBy behind) :=
  decidable_of_iff (∃ front ∈ behind.inits, depth front < 0) (by simp [IsClosedBy])

/-! ## §2. Only one token is the first stray, and only one the last left open. -/

theorem IsFirstStray.not_headersInside {ts : List Token} {t : Token} (h : IsFirstStray ts t) :
    ¬HeadersInside 0 ts := by
  obtain ⟨before, after, rfl, -, hdepth, hstray⟩ := h
  intro hinside
  have := hinside before t after rfl hstray
  omega

theorem isFirstStray_unique {ts : List Token} {t u : Token} (ht : IsFirstStray ts t)
    (hu : IsFirstStray ts u) : t = u := by
  -- one that stands in front of the other one would have to stand inside of a block
  have hsame {before mid after after' : List Token} {t u : Token} (hinside : HeadersInside 0 before)
      (hdepth : depth before = 0) (hstray : t.isEnd ∨ t.isClause)
      (hbetween : HeadersInside 0 (before ++ mid)) (heq : t :: after = mid ++ u :: after') :
      t = u := by
    cases mid with
    | nil => exact (List.cons.inj heq).1
    | cons v mid =>
      obtain ⟨rfl, -⟩ := List.cons.inj heq
      have hfirst : IsFirstStray (before ++ t :: mid) t := ⟨before, mid, rfl, hinside, hdepth, hstray⟩
      exact absurd hbetween hfirst.not_headersInside
  obtain ⟨before, after, rfl, hinside, hdepth, hstray⟩ := ht
  obtain ⟨before', after', heq, hinside', hdepth', hstray'⟩ := hu
  rcases List.append_eq_append_iff.1 heq with ⟨mid, rfl, hmid⟩ | ⟨mid, rfl, hmid⟩
  · exact hsame hinside hdepth hstray hinside' hmid
  · exact (hsame hinside' hdepth' hstray' hinside hmid).symm

theorem isLastOpen_unique {ts : List Token} {t u : Token} (ht : IsLastOpen ts t)
    (hu : IsLastOpen ts u) : t = u := by
  obtain ⟨behind, hsuffix, hopener, hopen, hlast⟩ := ht
  obtain ⟨behind', hsuffix', hopener', hopen', hlast'⟩ := hu
  -- the one with less behind it is behind the other one, or they are the same
  rcases List.suffix_or_suffix_of_suffix hsuffix hsuffix' with h | h
  · rcases List.suffix_cons_iff.1 h with heq | h
    · exact (List.cons.inj heq).1
    · exact absurd (hlast' t behind h hopener) hopen
  · rcases List.suffix_cons_iff.1 h with heq | h
    · exact (List.cons.inj heq).1.symm
    · exact absurd (hlast u behind' h hopener') hopen'

/-! ## §3. Stretches without open blocks. -/

/-- Do some tokens close what they open, and nothing else? -/
structure IsEven (ts : List Token) : Prop where
  depth_eq : depth ts = 0
  keeps : ¬IsClosedBy ts

theorem isClosedBy_append {ts us : List Token} (h : IsClosedBy (ts ++ us)) :
    IsClosedBy ts ∨ ∃ front, front <+: us ∧ depth ts + depth front < 0 := by
  obtain ⟨front, hfront, hlow⟩ := h
  rcases List.prefix_or_prefix_of_prefix hfront (List.prefix_append ts us) with hpre | ⟨mid, rfl⟩
  · exact Or.inl ⟨front, hpre, hlow⟩
  · refine Or.inr ⟨mid, (List.prefix_append_right_inj ts).1 hfront, ?_⟩
    rw [depth_append] at hlow
    exact hlow

theorem isEven_nil : IsEven [] := by
  refine ⟨rfl, ?_⟩
  rintro ⟨front, hfront, hlow⟩
  rw [List.prefix_nil.1 hfront, depth_nil] at hlow
  omega

theorem IsEven.append {ts us : List Token} (h : IsEven ts) (hu : IsEven us) :
    IsEven (ts ++ us) := by
  refine ⟨by rw [depth_append, h.depth_eq, hu.depth_eq]; rfl, fun hclosed => ?_⟩
  rcases isClosedBy_append hclosed with hts | ⟨front, hfront, hlow⟩
  · exact h.keeps hts
  · rw [h.depth_eq, Int.zero_add] at hlow
    exact hu.keeps ⟨front, hfront, hlow⟩

theorem isEven_singleton {t : Token} (h : t.step = 0) : IsEven [t] := by
  refine ⟨h, ?_⟩
  rintro ⟨front, hfront, hlow⟩
  rcases List.prefix_cons_iff.1 hfront with rfl | ⟨front, rfl, hnil⟩
  · rw [depth_nil] at hlow
    omega
  · rw [List.prefix_nil.1 hnil] at hlow
    replace hlow : t.step < 0 := hlow
    omega

/-- An opener, what it closes again, and its `end`. -/
theorem IsEven.block {inner : List Token} (h : IsEven inner) {t u : Token} (ht : t.step = 1)
    (hu : u.step = -1) : IsEven (t :: (inner ++ [u])) := by
  have hwhole : depth (t :: (inner ++ [u])) = 0 := by
    rw [depth_cons, depth_append, h.depth_eq, ht]
    show 1 + (0 + u.step) = 0
    omega
  refine ⟨hwhole, ?_⟩
  rintro ⟨front, hfront, hlow⟩
  rcases List.prefix_cons_iff.1 hfront with rfl | ⟨within, rfl, hwithin⟩
  · rw [depth_nil] at hlow
    omega
  rcases List.prefix_concat_iff.1 hwithin with rfl | hinner
  · omega
  · -- inside of the block, one more block is open than the inner tokens say
    rw [depth_cons, ht] at hlow
    have hkeeps : ¬depth within < 0 := fun hlow => h.keeps ⟨within, hinner, hlow⟩
    omega

/-- Behind an even stretch, an opener in it has been closed. -/
theorem IsEven.closes {ts : List Token} (h : IsEven ts) {u : Token} {rest : List Token}
    (hsuffix : u :: rest <:+ ts) (hu : u.step = 1) : IsClosedBy rest := by
  obtain ⟨front, rfl⟩ := hsuffix
  have hfront : ¬depth front < 0 := fun hlow => h.keeps ⟨front, List.prefix_append _ _, hlow⟩
  have hwhole := h.depth_eq
  rw [depth_append, depth_cons, hu] at hwhole
  exact ⟨rest, List.prefix_rfl, by omega⟩

/-! ## §4. The openers that are left open. -/

/-- Do the tokens leave these openers open, innermost first? -/
inductive LeavesOpen : List Token → List Token → Prop where
  | none (ts : List Token) : LeavesOpen ts []
  | behind {before after outer : List Token} {t : Token} (h : LeavesOpen before outer)
      (ht : t.isOpener) (hafter : IsEven after) : LeavesOpen (before ++ t :: after) (t :: outer)

namespace LeavesOpen

variable {ts openers : List Token} {t : Token}

theorem last (h : LeavesOpen ts (t :: openers)) : IsLastOpen ts t := by
  cases h with
  | @behind before after outer t h ht hafter =>
    exact ⟨after, List.suffix_append _ _, ht, hafter.keeps, fun u rest hsuffix hu =>
      hafter.closes hsuffix (Token.step_of_isOpener hu)⟩

/-- An opener is the innermost one that is open. -/
theorem opened (h : LeavesOpen ts openers) (ht : t.isOpener) :
    LeavesOpen (ts ++ [t]) (t :: openers) := .behind h ht isEven_nil

/-- Any token but an opener and an `end` leaves open what is open. -/
theorem passed (h : LeavesOpen ts openers) (ht : t.step = 0) : LeavesOpen (ts ++ [t]) openers := by
  cases h with
  | none ts => exact .none _
  | @behind before after outer v h hv hafter =>
    rw [List.append_assoc, List.cons_append]
    exact .behind h hv (hafter.append (isEven_singleton ht))

/-- An `end` closes the innermost block, which is now one of those behind the next opener. -/
theorem closed (h : LeavesOpen ts openers) (ht : t.step = -1) :
    LeavesOpen (ts ++ [t]) openers.tail := by
  cases h with
  | none ts => exact .none _
  | @behind before after outer v h hv hafter =>
    rw [List.append_assoc, List.cons_append, List.tail_cons]
    -- from its opener to this `end`, the block is even
    have hblock := hafter.block (Token.step_of_isOpener hv) ht
    cases h with
    | none ts => exact .none _
    | @behind before' after' outer' w h hw hafter' =>
      rw [List.append_assoc, List.cons_append]
      exact .behind h hw (hafter'.append hblock)

end LeavesOpen

/-! ## §5. The parser. -/

/-- The code of the refusal of a token that stands outside all blocks. -/
def strayCode (t : Token) : ErrorCode := if t.isEnd then .unexpectedEnd else .unexpectedClause

namespace Builder

/-- The openers of the blocks that are open, innermost first. -/
def pending (b : Builder) : List Token := b.stack.map (·.token)

theorem pending_mapBody (b : Builder) (f : List (Node Unit) → List (Node Unit)) :
    (b.mapBody f).pending = b.pending := by
  obtain ⟨root, stack⟩ := b
  cases stack <;> rfl

/-- Has the builder read these tokens?  None of them was out of place, and the blocks that it keeps
are those which the tokens leave open. -/
structure HasRead (b : Builder) (ts : List Token) : Prop where
  inside : HeadersInside 0 ts
  depth_eq : depth ts = b.stack.length
  pending : LeavesOpen ts b.pending

variable {b : Builder} {ts : List Token}

/-- **One marker.**  It is read, or it is the first stray token and refused as such. -/
theorem HasRead.takeMarker (h : b.HasRead ts) {kind : MarkerKind} {t : Token}
    (hk : t.kind = .marker kind) :
    (∀ e, b.takeMarker kind t = .error e → e.token = t ∧ depth ts = 0
      ∧ (t.isEnd ∨ t.isClause) ∧ e.fault.code = strayCode t)
    ∧ ∀ b', b.takeMarker kind t = .ok b' → b'.HasRead (ts ++ [t]) := by
  have houtside (hb : b.stack = []) : depth ts = 0 := by rw [h.depth_eq, hb]; rfl
  -- a token behind those that have been read, in its place and with its count of open blocks
  have hread {b' : Builder} (hplace : t.isEnd ∨ t.isClause → b.stack ≠ [])
      (hlength : (b'.stack.length : Int) = b.stack.length + t.step)
      (hpending : LeavesOpen (ts ++ [t]) b'.pending) : b'.HasRead (ts ++ [t]) := by
    refine ⟨headersInside_append.2 ⟨h.inside, headersInside_cons.2 ⟨fun ht => ?_, ?_⟩⟩, ?_, hpending⟩
    · have hpos := List.length_pos_iff.2 (hplace ht)
      rw [h.depth_eq]
      omega
    · exact headersInside_nil _
    · rw [depth_append, h.depth_eq, hlength]
      rfl
  have hisEnd := Token.isEnd_of_marker hk
  have hisClause := Token.isClause_of_marker hk
  have hisOpener := Token.isOpener_of_marker hk
  have htakes := b.takes_takeMarker kind t
  generalize b.takeMarker kind t = r at htakes ⊢
  cases htakes with
  | strayEnd hend =>
    rw [hend] at hisEnd
    refine ⟨fun e he => ?_, fun _ hb' => nomatch hb'⟩
    obtain rfl := Except.error.inj he
    exact ⟨rfl, houtside rfl, Or.inl hisEnd, by rw [strayCode, if_pos hisEnd]; rfl⟩
  | strayClause hend hword =>
    rw [hend] at hisEnd
    rw [hword] at hisClause
    refine ⟨fun e he => ?_, fun _ hb' => nomatch hb'⟩
    obtain rfl := Except.error.inj he
    exact ⟨rfl, houtside rfl, Or.inr hisClause, by rw [strayCode, hisEnd]; rfl⟩
  | @closed root top rest hend =>
    rw [hend] at hisEnd
    refine ⟨fun _ he => (nomatch he), fun b' hb' => ?_⟩
    obtain rfl := Except.ok.inj hb'
    refine hread (fun _ => List.cons_ne_nil _ _) ?_ ?_
    · rw [Token.step_of_isEnd hisEnd, length_stack_mapBody, List.length_cons]
      show (rest.length : Int) = ((rest.length + 1 : Nat) : Int) + -1
      omega
    · rw [pending_mapBody]
      exact h.pending.closed (Token.step_of_isEnd hisEnd)
  | continued hend hword =>
    rw [hend] at hisEnd
    rw [hword] at hisClause
    have hstep := Token.step_of_isClause hisClause hisEnd
    refine ⟨fun _ he => (nomatch he), fun b' hb' => ?_⟩
    obtain rfl := Except.ok.inj hb'
    refine hread (fun _ => List.cons_ne_nil _ _) ?_ (h.pending.passed hstep)
    rw [hstep]
    exact (Int.add_zero _).symm
  | opened hend hword hopen =>
    rw [hend] at hisEnd
    rw [hword] at hisClause
    rw [hopen] at hisOpener
    refine ⟨fun _ he => (nomatch he), fun b' hb' => ?_⟩
    obtain rfl := Except.ok.inj hb'
    refine hread (fun hstray => by simp [hisEnd, hisClause] at hstray) ?_
      (h.pending.opened hisOpener)
    rw [Token.step_of_isOpener hisOpener]
    rfl
  | placed hend hword hopen =>
    rw [hend] at hisEnd
    rw [hword] at hisClause
    have hstep : t.step = 0 := by rw [Token.step_eq, hisEnd, hisOpener.trans hopen]; rfl
    refine ⟨fun _ he => (nomatch he), fun b' hb' => ?_⟩
    obtain rfl := Except.ok.inj hb'
    refine hread (fun hstray => by simp [hisEnd, hisClause] at hstray) ?_ ?_
    · rw [hstep, length_stack_mapBody, Int.add_zero]
    · rw [pending_mapBody]
      exact h.pending.passed hstep

theorem HasRead.passed (h : b.HasRead ts) {t : Token} (hcode : t.kind.holdsCode = false)
    {b' : Builder} (hb : b'.pending = b.pending) : b'.HasRead (ts ++ [t]) := by
  have hstep := Token.step_of_not_holdsCode hcode
  refine ⟨headersInside_append.2 ⟨h.inside, ?_⟩, ?_, hb ▸ h.pending.passed hstep⟩
  · rw [headersInside_cons]
    exact ⟨fun ht => by simp [Token.isEnd, Token.isClause, hcode] at ht, headersInside_nil _⟩
  · have hlength : b'.stack.length = b.stack.length := by
      simpa [Builder.pending] using congrArg List.length hb
    rw [depth_append, h.depth_eq, hlength]
    show _ + t.step = _
    omega

/-- **A run of the parser.**  It reads all the tokens in front of the end of the source, comments
apart, or stops at the first one that is out of place. -/
theorem HasRead.takeAll (tokens : List Token) (h : b.HasRead ts) :
    (∀ e, b.takeAll tokens = .error e →
      IsFirstStray (ts ++ significant tokens) e.token ∧ e.fault.code = strayCode e.token)
    ∧ ∀ b', b.takeAll tokens = .ok b' → b'.HasRead (ts ++ significant tokens) := by
  have hdone {b : Builder} {ts : List Token} (h : b.HasRead ts) :
      (∀ e : ParseFault, Except.ok b = .error e →
        IsFirstStray (ts ++ []) e.token ∧ e.fault.code = strayCode e.token)
      ∧ ∀ b', (Except.ok b : Except ParseFault Builder) = .ok b' → b'.HasRead (ts ++ []) := by
    rw [List.append_nil]
    refine ⟨fun e he => ?_, fun b' hb' => Except.ok.inj hb' ▸ h⟩
    cases he
  -- on the tokens that are left; each one goes over to those that have been read
  induction tokens generalizing b ts with
  | nil => exact hdone h
  | cons t tokens ih =>
    rw [significant_cons]
    cases hk : t.kind with
    | eof =>
      rw [Builder.takeAll, hk, if_pos rfl]
      exact hdone h
    | comment =>
      rw [Builder.takeAll, hk, if_neg (by simp), if_pos rfl]
      exact ih h
    | data =>
      rw [Builder.takeAll, hk, if_neg (by simp), if_neg (by simp), List.append_cons]
      exact ih (h.passed (by rw [hk]; rfl) (pending_mapBody b _))
    | marker kind =>
      rw [Builder.takeAll, hk, if_neg (by simp), if_neg (by simp)]
      obtain ⟨herror, hok⟩ := h.takeMarker hk
      dsimp only
      cases htake : b.takeMarker kind t with
      | error e =>
        -- what has been read so far is in its place, so no stray token is in front of this one
        obtain ⟨rfl, hdepth, hstray, hcode⟩ := herror e htake
        refine ⟨fun e' he => ?_, fun b' hb' => ?_⟩
        · obtain rfl := Except.error.inj he
          exact ⟨⟨ts, significant tokens, rfl, h.inside, hdepth, hstray⟩, hcode⟩
        · cases hb'
      | ok b' =>
        rw [List.append_cons]
        exact ih (hok b' htake)

end Builder

/-! ## §6. Refusals. -/

theorem hasRead_start : Builder.HasRead ⟨[], []⟩ [] :=
  ⟨headersInside_nil 0, rfl, .none []⟩

theorem isRefusedAt_of_parseBody (o : Origin) (tokens : List Token) (f : ParseFault)
    (h : parseBody tokens = .error f) : IsRefusedAt o tokens f.fault.code f.token := by
  refine ⟨tokenReport o f, ?_, rfl, rfl, rfl, rfl, rfl⟩
  unfold treeOfTokens parse
  rw [h]
  rfl

/-- **WHICH TOKEN IS OUT OF PLACE.**  If some `end` or clause header stands outside all blocks, the
first of them is refused; if none does and blocks are left open, the opener of the innermost one is,
which is the last opener that nothing closes; and otherwise the tokens have a tree. -/
theorem treeOfTokens_misplaced (o : Origin) (tokens : List Token) :
    (¬HeadersInside 0 (significant tokens) →
      (∃ t, IsFirstStray (significant tokens) t)
      ∧ ∀ t, IsFirstStray (significant tokens) t →
        IsRefusedAt o tokens (if t.isEnd then .unexpectedEnd else .unexpectedClause) t)
    ∧ (HeadersInside 0 (significant tokens) → depth (significant tokens) ≠ 0 →
      (∃ t, IsLastOpen (significant tokens) t)
      ∧ ∀ t, IsLastOpen (significant tokens) t → IsRefusedAt o tokens .unclosedBlock t)
    ∧ (HeadersInside 0 (significant tokens) → depth (significant tokens) = 0 →
      ∃ tree, treeOfTokens o tokens = .ok tree) := by
  obtain ⟨herror, hok⟩ := hasRead_start.takeAll tokens
  rw [List.nil_append] at herror hok
  cases hall : Builder.takeAll ⟨[], []⟩ tokens with
  | error e =>
    -- there is a stray token, which rules out the other two cases
    obtain ⟨hstray, hcode⟩ := herror e hall
    have hrefused := isRefusedAt_of_parseBody o tokens e
      (by unfold parseBody; rw [hall])
    rw [hcode] at hrefused
    have hnot := hstray.not_headersInside
    refine ⟨fun _ => ⟨⟨e.token, hstray⟩, fun t ht => ?_⟩, fun h => absurd h hnot,
      fun h => absurd h hnot⟩
    rw [isFirstStray_unique ht hstray]
    exact hrefused
  | ok b =>
    -- there is none, and whether a block is left open shows on the stack
    have hrun := hok b hall
    obtain ⟨root, stack⟩ := b
    refine ⟨fun hnot => absurd hrun.inside hnot, fun _ hopen => ?_, fun _ hclosed => ?_⟩
    · cases stack with
      | nil => exact absurd hrun.depth_eq hopen
      | cons top rest =>
        have hlast : IsLastOpen (significant tokens) top.token := hrun.pending.last
        have hrefused := isRefusedAt_of_parseBody o tokens
          ⟨.unclosedBlock (Text.stripString top.opener.code), top.token⟩
          (by unfold parseBody; rw [hall])
        refine ⟨⟨top.token, hlast⟩, fun t ht => ?_⟩
        rw [isLastOpen_unique ht hlast]
        exact hrefused
    · cases stack with
      | nil =>
        refine ⟨⟨o.name, root⟩, ?_⟩
        unfold treeOfTokens parse parseBody
        rw [hall]
        rfl
      | cons top rest =>
        have hlength : (0 : Int) = (rest.length + 1 : Nat) := hclosed ▸ hrun.depth_eq
        omega

/-- A closed block with an `end` in a comment, a stray clause header, and a stray `end` behind it. -/
def strayTokens : List Token :=
  [⟨.marker .silent, "if x:", ⟨1, 0⟩⟩, ⟨.comment, "end", ⟨1, 9⟩⟩, ⟨.marker .output, "else:", ⟨2, 0⟩⟩,
    ⟨.marker .pipe, " end\t", ⟨3, 0⟩⟩, ⟨.data, "end", ⟨3, 9⟩⟩, ⟨.marker .pipe, "elif y :", ⟨4, 0⟩⟩,
    ⟨.marker .silent, "end", ⟨5, 0⟩⟩, ⟨.eof, "", ⟨6, 0⟩⟩]

/-- Two blocks left open, each with a closed one inside, and an `end` behind the end of the source. -/
def openTokens : List Token :=
  [⟨.marker .silent, "for a in b:", ⟨1, 0⟩⟩, ⟨.marker .pipe, "if c:", ⟨2, 0⟩⟩,
    ⟨.marker .silent, "end", ⟨3, 0⟩⟩, ⟨.marker .pipe, "while d:", ⟨4, 0⟩⟩,
    ⟨.marker .silent, "else:", ⟨5, 0⟩⟩, ⟨.marker .silent, "match e:", ⟨6, 0⟩⟩,
    ⟨.marker .output, "end", ⟨7, 0⟩⟩, ⟨.eof, "", ⟨8, 0⟩⟩, ⟨.marker .silent, "end", ⟨9, 0⟩⟩]

theorem treeOfTokens_misplaced_hardTokens :
    IsRefusedAt {} strayTokens .unexpectedClause ⟨.marker .pipe, "elif y :", ⟨4, 0⟩⟩
      ∧ IsRefusedAt {} openTokens .unclosedBlock ⟨.marker .pipe, "while d:", ⟨4, 0⟩⟩
      ∧ ∃ tree, treeOfTokens {} hardTokens = .ok tree := by
  obtain ⟨-, hstray⟩ := (treeOfTokens_misplaced {} strayTokens).1 (by decide)
  obtain ⟨-, hopen⟩ := (treeOfTokens_misplaced {} openTokens).2.1 (by decide) (by decide)
  have hbehind : IsEven [⟨.marker .silent, "else:", ⟨5, 0⟩⟩, ⟨.marker .silent, "match e:", ⟨6, 0⟩⟩,
      ⟨.marker .output, "end", ⟨7, 0⟩⟩] := ⟨by decide, by decide⟩
  refine ⟨hstray _ ⟨(significant strayTokens).take 4, (significant strayTokens).drop 5, by decide,
    by decide, by decide, by decide⟩, hopen _ ⟨_, by decide, by decide, hbehind.keeps,
    fun u rest h hu => hbehind.closes h (Token.step_of_isOpener hu)⟩, ?_⟩
  exact (treeOfTokens_misplaced {} hardTokens).2.2 (by decide) (by decide)

end Inlay
