/-
  Inlay.Proofs.Balance
  ────────────────────────────────
  **TREES AND TOKENS.**

  A parser looks at the tokens in front of the end of the source, comments
  apart.  Two things hold of it, whatever the tokens are:

      it succeeds exactly if the tokens are balanced: no `end` and no clause
      header stands outside all blocks, and no block is left open;
      the tree that it then gives holds all the tokens, in their order.

  Both go through the parser one token at a time.  What it has built so far
  holds the tokens that it has read, and it has as many open blocks as the
  tokens have openers without an `end`.
-/
import Inlay.Proofs.Printing

namespace Inlay

open Header

/-! ## §1. Balanced tokens. -/

/-- The tokens that a parser looks at. -/
def significant (ts : List Token) : List Token :=
  (ts.takeWhile (·.kind ≠ .eof)).filter (·.kind ≠ .comment)

/-- Is it a kind of markers that hold code? -/
def TokenKind.holdsCode : TokenKind → Bool
  | marker _ => true
  | _ => false

namespace Token

/-- Is the token an `end`? -/
def isEnd (t : Token) : Bool := t.kind.holdsCode && closesBlock t.value

/-- Is the token a clause header? -/
def isClause (t : Token) : Bool := t.kind.holdsCode && (clauseWord? t.value).isSome

/-- Does the token open a block? -/
def isOpener (t : Token) : Bool := t.kind.holdsCode && opensBlock t.value

end Token

/-- So many blocks are open behind some tokens. -/
def depth (ts : List Token) : Int := ts.countP Token.isOpener - ts.countP Token.isEnd

/-- Does every `end` and every clause header stand inside of a block, if so many blocks are open in
front of the tokens? -/
def HeadersInside (d : Int) (ts : List Token) : Prop :=
  ∀ before t after, ts = before ++ t :: after → t.isEnd ∨ t.isClause → 0 < d + depth before

/-- Does every `end` and every clause header stand inside of a block, and is no block left open? -/
def IsBalanced (ts : List Token) : Prop := HeadersInside 0 ts ∧ depth ts = 0

/-! ## §2. Trees as tokens. -/

/-- The marker as a token. -/
def Marker.token (m : Marker Unit) : Token := ⟨.marker m.kind, m.code, m.position⟩

/-- An `end` like any other. -/
def endToken : Token := ⟨.marker .silent, "end", nowhere⟩

mutual

/-- The tokens of a node. -/
def Node.tokens : Node Unit → List Token
  | .text p v => [⟨.data, v, p⟩]
  | .expr m => [m.token]
  | .block m [] => [m.token, endToken]
  | .block m (.mk _ _ body :: rest) =>
    m.token :: (bodyTokens body ++ (clauseTokens rest ++ [endToken]))

/-- The tokens of some nodes. -/
def bodyTokens : List (Node Unit) → List Token
  | [] => []
  | n :: ns => n.tokens ++ bodyTokens ns

/-- The tokens of some clauses with their headers. -/
def clauseTokens : List (Clause Unit) → List Token
  | [] => []
  | .mk p code body :: rest => ⟨.marker .silent, code, p⟩ :: (bodyTokens body ++ clauseTokens rest)

end

/-- The token as far as a tree keeps it: of an `end` that it is there, of a clause header its code
and its place. -/
def Token.kept (t : Token) : Token :=
  if t.isEnd then endToken else if t.isClause then { t with kind := .marker .silent } else t

/-- Does the token hold text? -/
def Token.isData (t : Token) : Bool := t.kind = .data

/-- Tokens with one more at the end; a text joins one that stands there. -/
def joinToken (ts : List Token) (t : Token) : List Token :=
  match ts.getLast? with
  | some u =>
    if u.isData && t.isData then ts.dropLast ++ [{ u with value := u.value ++ t.value }]
    else ts ++ [t]
  | none => [t]

/-- Tokens with neighbouring texts joined; the text stands where the first one of them stood. -/
def joinTexts (ts : List Token) : List Token := ts.foldl joinToken []

theorem joinTexts_snoc (ts : List Token) (t : Token) :
    joinTexts (ts ++ [t]) = joinToken (joinTexts ts) t := by
  rw [joinTexts, List.foldl_append]
  rfl

theorem joinToken_of_not_isData {t : Token} (h : t.isData = false) (ts : List Token) :
    joinToken ts t = ts ++ [t] := by
  unfold joinToken
  split
  · simp [h]
  · rename_i hl
    rw [List.getLast?_eq_none_iff.1 hl]
    rfl

/-! ## §3. Balance, token by token. -/

/-- By so much a token changes the depth. -/
def Token.step (t : Token) : Int := depth [t]

theorem depth_cons (t : Token) (ts : List Token) : depth (t :: ts) = t.step + depth ts := by
  simp only [depth, Token.step, List.countP_cons, List.countP_nil]
  omega

@[simp]
theorem depth_nil : depth [] = 0 := rfl

theorem depth_append (ts us : List Token) : depth (ts ++ us) = depth ts + depth us := by
  simp only [depth, List.countP_append]
  omega

theorem Token.step_eq (t : Token) :
    t.step = (if t.isOpener then 1 else 0) - (if t.isEnd then 1 else 0) := by
  simp only [Token.step, depth, List.countP_cons, List.countP_nil]
  split <;> split <;> rfl

/-- An opener neither ends a block nor continues one. -/
theorem Token.not_isEnd_of_isOpener {t : Token} (h : t.isOpener) :
    t.isEnd = false ∧ t.isClause = false := by
  have hopens : opensBlock t.value = true := ((Bool.and_eq_true _ _).mp h).2
  constructor
  · rw [isEnd, closesBlock_of_opensBlock hopens, Bool.and_false]
  · rw [isClause, clauseWord?_of_opensBlock hopens]
    exact Bool.and_false _

theorem Token.step_of_isOpener {t : Token} (h : t.isOpener) : t.step = 1 := by
  rw [step_eq, if_pos h, (not_isEnd_of_isOpener h).1]
  rfl

theorem Token.step_of_isEnd {t : Token} (h : t.isEnd) : t.step = -1 := by
  have hopener : ¬t.isOpener := fun hopener => by
    rw [(not_isEnd_of_isOpener hopener).1] at h
    exact Bool.false_ne_true h
  rw [step_eq, if_pos h, if_neg hopener]
  rfl

theorem Token.step_of_isClause {t : Token} (h : t.isClause) (hend : t.isEnd = false) :
    t.step = 0 := by
  have hopener : ¬t.isOpener := fun hopener => by
    rw [(not_isEnd_of_isOpener hopener).2] at h
    exact Bool.false_ne_true h
  rw [step_eq, hend, if_neg hopener]
  rfl

theorem headersInside_nil (d : Int) : HeadersInside d [] := by
  intro before t after h
  simp at h

theorem headersInside_cons {d : Int} {t : Token} {ts : List Token} :
    HeadersInside d (t :: ts) ↔
      (t.isEnd ∨ t.isClause → 0 < d) ∧ HeadersInside (d + t.step) ts := by
  constructor
  · intro h
    refine ⟨fun ht => by simpa [depth] using h [] t ts rfl ht, fun before u after hts hu => ?_⟩
    have := h (t :: before) u after (by rw [hts]; rfl) hu
    rw [depth_cons] at this
    omega
  · rintro ⟨ht, h⟩ before u after hts hu
    cases before with
    | nil =>
      obtain ⟨rfl, -⟩ := List.cons.inj hts
      simpa [depth] using ht hu
    | cons v before =>
      rw [List.cons_append] at hts
      obtain ⟨rfl, rfl⟩ := List.cons.inj hts
      have := h before u after rfl hu
      rw [depth_cons]
      omega

theorem headersInside_append {d : Int} {ts us : List Token} :
    HeadersInside d (ts ++ us) ↔ HeadersInside d ts ∧ HeadersInside (d + depth ts) us := by
  induction ts generalizing d with
  | nil => rw [List.nil_append, depth_nil, Int.add_zero, and_iff_right (headersInside_nil d)]
  | cons t ts ih =>
    rw [List.cons_append, headersInside_cons, headersInside_cons, ih, depth_cons, and_assoc,
      Int.add_assoc]

instance decidableHeadersInside : (d : Int) → (ts : List Token) → Decidable (HeadersInside d ts)
  | d, [] => .isTrue (headersInside_nil d)
  | d, t :: ts =>
    have := decidableHeadersInside (d + t.step) ts
    decidable_of_iff _ headersInside_cons.symm

theorem significant_cons (t : Token) (ts : List Token) :
    significant (t :: ts) =
      if t.kind = .eof then [] else if t.kind = .comment then significant ts
      else t :: significant ts := by
  unfold significant
  by_cases he : t.kind = .eof
  · simp [he]
  · by_cases hc : t.kind = .comment <;> simp [he, hc]

/-! ## §4. What has been built, as tokens. -/

/-- The tokens of a block that is still open. -/
def OpenBlock.tokens (o : OpenBlock) : List Token :=
  match o.finished with
  | [] => o.opener.token :: bodyTokens o.body
  | .mk _ _ body :: rest =>
    o.opener.token :: (bodyTokens body
      ++ (clauseTokens rest ++ ⟨.marker .silent, o.code, o.position⟩ :: bodyTokens o.body))

/-- The tokens that have been taken in, as far as they are kept. -/
def Builder.tokens (b : Builder) : List Token :=
  bodyTokens b.root ++ b.stack.reverse.flatMap OpenBlock.tokens

/-- Does a list of tokens end in a text? -/
def endsInData (ts : List Token) : Bool := ts.getLast?.any Token.isData

theorem bodyTokens_append (ns ns' : List (Node Unit)) :
    bodyTokens (ns ++ ns') = bodyTokens ns ++ bodyTokens ns' := by
  induction ns with
  | nil => rfl
  | cons n ns ih => simp [bodyTokens, ih]

theorem clauseTokens_append (cs cs' : List (Clause Unit)) :
    clauseTokens (cs ++ cs') = clauseTokens cs ++ clauseTokens cs' := by
  induction cs with
  | nil => rfl
  | cons c cs ih =>
    obtain ⟨p, code, body⟩ := c
    simp [clauseTokens, ih]

theorem OpenBlock.close_tokens (o : OpenBlock) : o.close.tokens = o.tokens ++ [endToken] := by
  obtain ⟨token, opener, finished, position, code, body⟩ := o
  cases finished with
  | nil => simp [close, clauses, tokens, Node.tokens, clauseTokens]
  | cons c cs =>
    obtain ⟨p, code', body'⟩ := c
    simp [close, clauses, tokens, Node.tokens, clauseTokens, clauseTokens_append]

theorem OpenBlock.continueWith_tokens (o : OpenBlock) (t : Token) :
    (o.continueWith t).tokens = o.tokens ++ [⟨.marker .silent, t.value, t.position⟩] := by
  obtain ⟨token, opener, finished, position, code, body⟩ := o
  cases finished with
  | nil => simp [continueWith, clauses, tokens, bodyTokens, clauseTokens]
  | cons c cs =>
    obtain ⟨p, code', body'⟩ := c
    simp [continueWith, clauses, tokens, bodyTokens, clauseTokens, clauseTokens_append]

/-- The innermost body stands at the end of all tokens, and no text stands right before it. -/
theorem Builder.tokens_mapBody (b : Builder) :
    ∃ before, endsInData before = false ∧ b.tokens = before ++ bodyTokens b.body
      ∧ ∀ f, (b.mapBody f).tokens = before ++ bodyTokens (f b.body) := by
  obtain ⟨root, stack⟩ := b
  cases stack with
  | nil => exact ⟨[], rfl, by simp [tokens, body], fun f => by simp [mapBody, tokens, body]⟩
  | cons top rest =>
    obtain ⟨token, opener, finished, position, code, ns⟩ := top
    cases finished with
    | nil =>
      refine ⟨tokens ⟨root, rest⟩ ++ [opener.token], ?_, ?_, fun f => ?_⟩
      · simp [endsInData, Token.isData, Marker.token]
      · simp [tokens, body, OpenBlock.tokens]
      · simp [mapBody, tokens, body, OpenBlock.tokens]
    | cons c cs =>
      obtain ⟨p, code', body'⟩ := c
      refine ⟨tokens ⟨root, rest⟩ ++ opener.token :: (bodyTokens body'
        ++ (clauseTokens cs ++ [⟨.marker .silent, code, position⟩])), ?_, ?_, fun f => ?_⟩
      · simp [endsInData, Token.isData, List.getLast?_append, List.getLast?_cons]
      · simp [tokens, body, OpenBlock.tokens]
      · simp [mapBody, tokens, body, OpenBlock.tokens]

@[simp]
theorem Builder.length_stack_mapBody (b : Builder) (f : List (Node Unit) → List (Node Unit)) :
    (b.mapBody f).stack.length = b.stack.length := by
  obtain ⟨root, stack⟩ := b
  cases stack <;> rfl

/-- A node goes to the end of the innermost body as its tokens go to the end of the tokens. -/
theorem Builder.tokens_append (b : Builder) (n : Node Unit) :
    (b.mapBody (· ++ [n])).tokens = b.tokens ++ n.tokens := by
  obtain ⟨before, -, hb, h⟩ := b.tokens_mapBody
  rw [h, hb, bodyTokens_append]
  simp [bodyTokens]

theorem endsInData_snoc (ts : List Token) (n : Node Unit) :
    endsInData (ts ++ n.tokens) = n.isText := by
  match n with
  | .text _ _ => simp [Node.tokens, endsInData, Token.isData, Node.isText]
  | .expr _ => simp [Node.tokens, endsInData, Token.isData, Node.isText, Marker.token]
  | .block _ [] => simp [Node.tokens, endsInData, Token.isData, Node.isText, endToken]
  | .block _ (.mk _ _ _ :: _) =>
    simp [Node.tokens, endsInData, endToken, Token.isData, Node.isText, List.getLast?_append,
      List.getLast?_cons]

theorem joinToken_of_not_endsInData {ts : List Token} (h : endsInData ts = false) (t : Token) :
    joinToken ts t = ts ++ [t] := by
  unfold joinToken
  split
  · rename_i u hl
    have hu : u.isData = false := by simpa [endsInData, hl] using h
    simp [hu]
  · rename_i hl
    rw [List.getLast?_eq_none_iff.1 hl]
    rfl

/-- A text goes to the end of the innermost body as its token goes to the end of the tokens. -/
theorem Builder.tokens_appendText (b : Builder) (p : Position) (v : String) :
    (b.mapBody (appendText p v)).tokens = joinToken b.tokens ⟨.data, v, p⟩ := by
  obtain ⟨before, hbefore, hb, h⟩ := b.tokens_mapBody
  rw [h, hb]
  rcases List.eq_nil_or_concat b.body with hbody | ⟨ns, n, hbody⟩
  · -- nothing but a header, or nothing at all, stands before the text
    rw [hbody, joinToken_of_not_endsInData (by simpa [bodyTokens] using hbefore)]
    simp [appendText, bodyTokens, Node.tokens]
  · rw [hbody, List.concat_eq_append, bodyTokens_append, ← List.append_assoc]
    simp only [bodyTokens, List.append_nil]
    cases ht : n.isText with
    | true =>
      obtain ⟨q, w, rfl⟩ : ∃ q w, n = .text q w := by
        cases n <;> first | exact ⟨_, _, rfl⟩ | simp [Node.isText] at ht
      simp [appendText, bodyTokens_append, bodyTokens, Node.tokens, joinToken, Token.isData]
    | false =>
      rw [joinToken_of_not_endsInData (by rw [endsInData_snoc, ht]),
        appendText_of_not_endsInText (by rw [endsInText_snoc, ht])]
      simp [bodyTokens_append, bodyTokens, Node.tokens]

/-! ## §5. One token. -/

section Markers

variable {t : Token} {kind : MarkerKind}

theorem Token.isEnd_of_marker (hk : t.kind = .marker kind) : t.isEnd = closesBlock t.value := by
  rw [isEnd, hk]
  rfl

theorem Token.isClause_of_marker (hk : t.kind = .marker kind) :
    t.isClause = (clauseWord? t.value).isSome := by
  rw [isClause, hk]
  rfl

theorem Token.isOpener_of_marker (hk : t.kind = .marker kind) : t.isOpener = opensBlock t.value := by
  rw [isOpener, hk]
  rfl

end Markers

/-- **What a parser does with the token of a marker.**  It fails only at an `end` or a clause header
outside all blocks; otherwise the token has been taken in, and as many blocks are open as before and
the token says. -/
theorem Builder.takeMarker_spec (b : Builder) {kind : MarkerKind} {t : Token}
    (hk : t.kind = .marker kind) :
    if (t.isEnd ∨ t.isClause) ∧ b.stack = [] then ∃ e, b.takeMarker kind t = .error e
    else ∃ b', b.takeMarker kind t = .ok b' ∧ (b'.stack.length : Int) = b.stack.length + t.step
      ∧ b'.tokens = b.tokens ++ [t.kept] := by
  have hmarker : Marker.token ⟨t.position, kind, t.value, ()⟩ = t := by
    obtain ⟨k, v, p⟩ := t
    obtain rfl : k = .marker kind := hk
    rfl
  have hisEnd := Token.isEnd_of_marker hk
  have hisClause := Token.isClause_of_marker hk
  have hisOpener := Token.isOpener_of_marker hk
  have htakes := b.takes_takeMarker kind t
  generalize b.takeMarker kind t = r at htakes ⊢
  cases htakes with
  | strayEnd hend =>
    rw [if_pos ⟨Or.inl (hisEnd.trans hend), rfl⟩]
    exact ⟨_, rfl⟩
  | strayClause hend hword =>
    rw [if_pos ⟨Or.inr (by rw [hisClause, hword]; rfl), rfl⟩]
    exact ⟨_, rfl⟩
  | @closed root top rest hend =>
    rw [hend] at hisEnd
    rw [if_neg (fun h => List.cons_ne_nil _ _ h.2)]
    refine ⟨_, rfl, ?_, ?_⟩
    · rw [Token.step_of_isEnd hisEnd, length_stack_mapBody, List.length_cons]
      show (rest.length : Int) = ((rest.length + 1 : Nat) : Int) + -1
      omega
    · rw [tokens_append, OpenBlock.close_tokens]
      simp [tokens, Token.kept, hisEnd]
  | continued hend hword =>
    rw [hend] at hisEnd
    rw [hword] at hisClause
    rw [if_neg (fun h => List.cons_ne_nil _ _ h.2)]
    refine ⟨_, rfl, ?_, ?_⟩
    · rw [Token.step_of_isClause hisClause hisEnd, Int.add_zero]
      rfl
    · simp [tokens, OpenBlock.continueWith_tokens, Token.kept, hisEnd, hisClause]
  | opened hend hword hopen =>
    rw [hend] at hisEnd
    rw [hword] at hisClause
    rw [if_neg (by simp [hisEnd, hisClause])]
    refine ⟨_, rfl, ?_, ?_⟩
    · rw [Token.step_of_isOpener (hisOpener.trans hopen)]
      rfl
    · simp [tokens, OpenBlock.start, OpenBlock.tokens, bodyTokens, hmarker, Token.kept, hisEnd,
        hisClause]
  | placed hend hword hopen =>
    rw [hend] at hisEnd
    rw [hword] at hisClause
    rw [if_neg (by simp [hisEnd, hisClause])]
    refine ⟨_, rfl, ?_, ?_⟩
    · rw [Token.step_eq, hisEnd, hisOpener.trans hopen, length_stack_mapBody]
      exact (Int.add_zero _).symm
    · rw [tokens_append, Node.tokens, hmarker]
      simp [Token.kept, hisEnd, hisClause]

/-! ## §6. All tokens. -/

theorem Token.step_of_not_holdsCode {t : Token} (h : t.kind.holdsCode = false) : t.step = 0 := by
  simp [Token.step, depth, Token.isOpener, Token.isEnd, h]

theorem Token.isData_kept {t : Token} {kind : MarkerKind} (h : t.kind = .marker kind) :
    t.kept.isData = false := by
  unfold Token.kept
  split
  · rfl
  · split <;> simp [Token.isData, h]

theorem Token.kept_of_not_holdsCode {t : Token} (h : t.kind.holdsCode = false) : t.kept = t := by
  simp [Token.kept, Token.isEnd, Token.isClause, h]

/-- **A run of the parser.**  It ends well exactly if every `end` and every clause header stands
inside of a block; then all the tokens have been taken in, texts joined, and as many blocks are open
as the tokens say. -/
theorem Builder.takeAll_spec (ts : List Token) (b : Builder) (sofar : List Token)
    (hb : b.tokens = joinTexts sofar) :
    ((∃ b', b.takeAll ts = .ok b') ↔ HeadersInside b.stack.length (significant ts))
    ∧ ∀ b', b.takeAll ts = .ok b' →
      (b'.stack.length : Int) = b.stack.length + depth (significant ts)
      ∧ b'.tokens = joinTexts (sofar ++ (significant ts).map Token.kept) := by
  induction ts generalizing b sofar with
  | nil =>
    refine ⟨iff_of_true ⟨b, rfl⟩ (headersInside_nil _), fun b' h => ?_⟩
    obtain rfl := Except.ok.inj h
    exact ⟨by simp [significant, depth], by simpa [significant] using hb⟩
  | cons t ts ih =>
    -- a token that is no marker leaves the blocks as they are
    have hplain (hc : t.kind.holdsCode = false) (he : t.kind ≠ .eof) (hn : t.kind ≠ .comment)
        (b₁ : Builder) (heq : b.takeAll (t :: ts) = b₁.takeAll ts)
        (hlen : b₁.stack.length = b.stack.length)
        (htok : b₁.tokens = joinTexts (sofar ++ [t])) :
        ((∃ b', b.takeAll (t :: ts) = .ok b') ↔
          HeadersInside b.stack.length (significant (t :: ts)))
        ∧ ∀ b', b.takeAll (t :: ts) = .ok b' →
          (b'.stack.length : Int) = b.stack.length + depth (significant (t :: ts))
          ∧ b'.tokens = joinTexts (sofar ++ (significant (t :: ts)).map Token.kept) := by
      obtain ⟨hok, hrun⟩ := ih b₁ _ htok
      rw [hlen] at hok hrun
      have hstep := Token.step_of_not_holdsCode hc
      rw [heq, significant_cons, if_neg he, if_neg hn, headersInside_cons, hstep, Int.add_zero,
        depth_cons, hstep, Int.zero_add, List.map_cons, Token.kept_of_not_holdsCode hc]
      refine ⟨by simpa [Token.isEnd, Token.isClause, hc] using hok, fun b' hb' => ?_⟩
      simpa using hrun b' hb'
    cases hk : t.kind with
    | eof =>
      have heq : b.takeAll (t :: ts) = .ok b := by rw [takeAll, hk]
      rw [significant_cons, if_pos hk, heq]
      refine ⟨iff_of_true ⟨b, rfl⟩ (headersInside_nil _), fun b' h => ?_⟩
      obtain rfl := Except.ok.inj h
      exact ⟨by simp [depth], by simpa using hb⟩
    | comment =>
      have heq : b.takeAll (t :: ts) = b.takeAll ts := by rw [takeAll, hk]
      rw [significant_cons, hk, if_neg (by simp), if_pos rfl, heq]
      exact ih b _ hb
    | data =>
      refine hplain (by rw [hk]; rfl) (by simp [hk]) (by simp [hk])
        (b.mapBody (appendText t.position t.value)) (by rw [takeAll, hk])
        (b.length_stack_mapBody _) ?_
      rw [tokens_appendText, hb, joinTexts_snoc, ← hk]
    | marker kind =>
      have hstep := b.takeMarker_spec hk
      rw [significant_cons, hk, if_neg (by simp), if_neg (by simp), headersInside_cons,
        depth_cons, List.map_cons]
      split at hstep
      · rename_i hbad
        obtain ⟨e, he⟩ := hstep
        have heq : b.takeAll (t :: ts) = .error e := by
          rw [takeAll, hk]
          simp only [he]
        rw [heq]
        simp [hbad.1, hbad.2]
      · rename_i hgood
        obtain ⟨b₁, hb₁, hlen, htok⟩ := hstep
        have heq : b.takeAll (t :: ts) = b₁.takeAll ts := by
          rw [takeAll, hk]
          simp only [hb₁]
        have hnew : b₁.tokens = joinTexts (sofar ++ [t.kept]) := by
          rw [htok, joinTexts_snoc, ← hb, joinToken_of_not_isData (Token.isData_kept hk)]
        obtain ⟨hok, hrun⟩ := ih b₁ _ hnew
        rw [heq, hok, hlen]
        refine ⟨?_, fun b' hb' => ?_⟩
        · have hinside : t.isEnd ∨ t.isClause → (0 : Int) < b.stack.length := by
            intro ht
            have : b.stack ≠ [] := fun h => hgood ⟨ht, h⟩
            have := List.length_pos_iff.2 this
            omega
          exact ⟨fun h => ⟨hinside, h⟩, fun h => h.2⟩
        · obtain ⟨h₁, h₂⟩ := hrun b' hb'
          exact ⟨by rw [h₁, hlen]; omega, by rw [h₂]; simp⟩

/-! ## §7. Trees and tokens. -/

/-- **Balanced tokens are parsed, and nothing is lost.**  A parser accepts exactly the tokens that
are balanced, and the tree holds them in order: every text, every marker with its kind, code and
place, every clause header with its code and place, and every `end`. -/
theorem parse_iff_isBalanced (name : Option String) (tokens : List Token) :
    ((∃ t, parse name tokens = .ok t) ↔ IsBalanced (significant tokens))
    ∧ ∀ t, parse name tokens = .ok t →
      bodyTokens t.body = joinTexts ((significant tokens).map Token.kept) := by
  obtain ⟨hok, hrun⟩ := Builder.takeAll_spec tokens ⟨[], []⟩ [] rfl
  unfold parse parseBody
  cases hall : Builder.takeAll ⟨[], []⟩ tokens with
  | error e =>
    have hno : ¬IsBalanced (significant tokens) := by
      intro hbal
      obtain ⟨b', hb'⟩ := hok.2 hbal.1
      rw [hall] at hb'
      simp at hb'
    simp [Except.map, hno]
  | ok b =>
    have hinside := hok.1 ⟨b, hall⟩
    obtain ⟨hlen, htok⟩ := hrun b hall
    obtain ⟨root, stack⟩ := b
    cases stack with
    | nil =>
      have hbal : IsBalanced (significant tokens) := ⟨hinside, by simpa using hlen.symm⟩
      simp only [Except.map, hbal, iff_true, Except.ok.injEq, forall_eq']
      exact ⟨⟨_, rfl⟩, by simpa [Builder.tokens] using htok⟩
    | cons top rest =>
      have hno : ¬IsBalanced (significant tokens) := by
        intro hbal
        rw [hbal.2] at hlen
        simp at hlen
        omega
      simp [Except.map, hno]

/-- Two blocks, one inside of the other, with a comment between two texts, an `end` that is spelled
with blanks, and a stray `end` behind the end of the source. -/
def hardTokens : List Token :=
  [⟨.data, "a", ⟨1, 0⟩⟩, ⟨.comment, "end", ⟨1, 1⟩⟩, ⟨.data, "b", ⟨1, 9⟩⟩,
    ⟨.marker .pipe, "if x:", ⟨1, 10⟩⟩, ⟨.data, "c", ⟨2, 0⟩⟩,
    ⟨.marker .output, "else:", ⟨2, 1⟩⟩, ⟨.data, "d", ⟨2, 12⟩⟩,
    ⟨.marker .silent, "for y in z :", ⟨3, 0⟩⟩, ⟨.marker .pipe, " end\t", ⟨3, 20⟩⟩,
    ⟨.marker .silent, "end", ⟨4, 0⟩⟩, ⟨.eof, "", ⟨5, 0⟩⟩, ⟨.marker .silent, "end", ⟨6, 0⟩⟩]

theorem parse_hardTokens :
    ∃ t, parse none hardTokens = .ok t ∧ IsBalanced (significant hardTokens)
      ∧ bodyTokens t.body
        = [⟨.data, "ab", ⟨1, 0⟩⟩, ⟨.marker .pipe, "if x:", ⟨1, 10⟩⟩, ⟨.data, "c", ⟨2, 0⟩⟩,
            ⟨.marker .silent, "else:", ⟨2, 1⟩⟩, ⟨.data, "d", ⟨2, 12⟩⟩,
            ⟨.marker .silent, "for y in z :", ⟨3, 0⟩⟩, endToken, endToken] := by
  obtain ⟨t, ht⟩ : ∃ t, parse none hardTokens = .ok t := ⟨_, rfl⟩
  obtain ⟨hiff, hkept⟩ := parse_iff_isBalanced none hardTokens
  exact ⟨t, ht, hiff.1 ⟨t, ht⟩, by rw [hkept t ht]; decide⟩

end Inlay
