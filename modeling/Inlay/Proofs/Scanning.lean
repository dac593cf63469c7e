/-
  Inlay.Proofs.Scanning
  ────────────────────────────────
  **WHAT THE SCANNER MAKES OF WRITTEN TOKENS.**

  A token without its place is a `Lexed`.  It is written down as text with
  its `<%` escaped, or as a marker with a space on either side of its code:

      spellAll ts — the source that some tokens are written as
      scan_spellAll — the scanner reads this source as `ts` again

  The reading is unique because an escaped text never ends in the middle of
  an opener: behind it stands the end of the source or another `<`.
-/
import Inlay.Token.Scan
import Mathlib.Data.List.Infix

namespace Inlay

/-! ## §1. Tokens without their places. -/

/-- A token without its place. -/
structure Lexed where
  kind : TokenKind
  value : String
  deriving Repr, DecidableEq

/-- The token without its place. -/
def Token.lexed (t : Token) : Lexed := ⟨t.kind, t.value⟩

/-- The end of a source. -/
def Lexed.eof : Lexed := ⟨.eof, ""⟩

/-! ## §2. Writing tokens. -/

/-- The text with every `<%` written as `<%%`. -/
def escaped : List Char → List Char
  | '<' :: '%' :: s => '<' :: '%' :: '%' :: escaped s
  | c :: s => c :: escaped s
  | [] => []

/-- The source of a token: escaped text, or a marker with a space on either side of its code. -/
def Lexed.spelling (t : Lexed) : List Char :=
  match t.kind with
  | .data => escaped t.value.toList
  | kind => '<' :: '%' :: (kind.sigil ++ ' ' :: t.value.toList ++ [' ', '%', '>'])

/-- The source of some tokens. -/
def spellAll (ts : List Lexed) : List Char := ts.flatMap Lexed.spelling

/-- Does the code hold no end of a marker? -/
def lacksEnd (code : String) : Bool := !decide (['%', '>'] <:+: code.toList)

/-- Is the token a text? -/
def Lexed.isData (t : Lexed) : Bool := t.kind = .data

/-- Can the token be written down by itself? -/
def Lexed.isWritable (t : Lexed) : Bool :=
  match t.kind with
  | .data => t.value ≠ ""
  | .eof => false
  | _ => lacksEnd t.value

/-- Can the tokens be written down one after the other?  Two texts in a row would be one. -/
def areWritable : List Lexed → Bool
  | [] => true
  | t :: ts => t.isWritable && !(t.isData && ts.head?.any Lexed.isData) && areWritable ts

/-! ## §3. One step of the scanner. -/

@[simp]
theorem Scan.cons_pieces (p : Piece) (s : Scan) : (s.cons p).pieces = p :: s.pieces := rfl

@[simp]
theorem Scan.cons_dangling (p : Piece) (s : Scan) : (s.cons p).dangling = s.dangling := rfl

@[simp]
theorem scan_nil : scan [] = ⟨[], none⟩ := by
  unfold scan
  rfl

theorem scan_escape (s : List Char) :
    scan ('<' :: '%' :: '%' :: s) = (scan s).cons .escape := by
  rw [scan]

/-- A character that opens no marker is text. -/
theorem scan_char {c : Char} {s : List Char} (h : ¬(c = '<' ∧ s.head? = some '%')) :
    scan (c :: s) = (scan s).cons (.char c) := by
  rw [scan]
  · intro r hc hs
    exact h ⟨hc, by rw [hs]; rfl⟩
  · intro r hc hs
    exact h ⟨hc, by rw [hs]; rfl⟩

theorem scan_marker {s raw rest : List Char} (hs : s.head? ≠ some '%')
    (h : cutAtEnd (markerKind s).2 = some (raw, rest)) :
    scan ('<' :: '%' :: s) = (scan rest).cons (.marker (markerKind s).1 raw) := by
  rw [scan]
  · split
    · rename_i hn
      rw [h] at hn
      exact absurd hn (by simp)
    · rename_i raw' rest' hn
      rw [h] at hn
      obtain ⟨rfl, rfl⟩ := by simpa using hn
      rfl
  · intro r hr
    exact hs (by rw [hr]; rfl)

/-! ## §4. Ends of markers. -/

theorem cutAtEnd_cons {c : Char} {s : List Char} (h : ¬(c = '%' ∧ s.head? = some '>')) :
    cutAtEnd (c :: s) = (cutAtEnd s).map (fun p => (c :: p.1, p.2)) := by
  rw [cutAtEnd]
  intro r hc hs
  exact h ⟨hc, by rw [hs]; rfl⟩

/-- The first `%>` is the one that is written behind a code without any. -/
theorem cutAtEnd_append {raw : List Char} (rest : List Char) (h : ¬['%', '>'] <:+: raw) :
    cutAtEnd (raw ++ '%' :: '>' :: rest) = some (raw, rest) := by
  induction raw with
  | nil => rfl
  | cons c s ih =>
    have hs : ¬['%', '>'] <:+: s := fun hi => h (hi.trans (List.suffix_cons c s).isInfix)
    have hc : ¬(c = '%' ∧ (s ++ '%' :: '>' :: rest).head? = some '>') := by
      rintro ⟨rfl, hd⟩
      cases s with
      | nil => simp at hd
      | cons d t =>
        obtain rfl : d = '>' := by simpa using hd
        exact h ⟨[], t, rfl⟩
    rw [List.cons_append, cutAtEnd_cons hc, ih hs]
    rfl

/-- A text whose cut part starts with `>` starts so itself. -/
theorem head?_of_cutAtEnd {s t rest : List Char} (h : cutAtEnd s = some ('>' :: t, rest)) :
    s.head? = some '>' := by
  cases s with
  | nil => simp [cutAtEnd] at h
  | cons d u =>
    by_cases hd : d = '%' ∧ u.head? = some '>'
    · obtain ⟨rfl, hu⟩ := hd
      cases u with
      | nil => simp at hu
      | cons e v =>
        obtain rfl : e = '>' := by simpa using hu
        simp [cutAtEnd] at h
    · rw [cutAtEnd_cons hd] at h
      obtain ⟨p, -, hp⟩ := Option.map_eq_some_iff.1 h
      simp only [Prod.mk.injEq, List.cons.injEq] at hp
      rw [hp.1.1]
      rfl

/-- What is cut off holds no end itself. -/
theorem cutAtEnd_lacks {s raw rest : List Char} (h : cutAtEnd s = some (raw, rest)) :
    ¬['%', '>'] <:+: raw := by
  induction s generalizing raw with
  | nil => simp [cutAtEnd] at h
  | cons c s ih =>
    by_cases hc : c = '%' ∧ s.head? = some '>'
    · obtain ⟨rfl, hd⟩ := hc
      cases s with
      | nil => simp at hd
      | cons d t =>
        obtain rfl : d = '>' := by simpa using hd
        obtain ⟨rfl, -⟩ := by simpa [cutAtEnd] using h
        simp
    · rw [cutAtEnd_cons hc] at h
      obtain ⟨⟨raw', rest'⟩, hp, hq⟩ := Option.map_eq_some_iff.1 h
      simp only [Prod.mk.injEq] at hq
      obtain ⟨rfl, rfl⟩ := hq
      rw [List.infix_cons_iff]
      rintro (hpre | hin)
      · -- the end would have been found one character earlier
        obtain ⟨t, ht⟩ := hpre
        simp only [List.cons_append, List.nil_append, List.cons.injEq] at ht
        obtain ⟨rfl, rfl⟩ := ht
        refine hc ⟨rfl, ?_⟩
        exact head?_of_cutAtEnd hp
      · exact ih hp hin

/-! ## §5. Written text. -/

/-- The pieces that an escaped text is read as. -/
def textPieces : List Char → List Piece
  | '<' :: '%' :: s => .escape :: textPieces s
  | c :: s => .char c :: textPieces s
  | [] => []

theorem escaped_head? (s : List Char) : (escaped s).head? = s.head? := by
  fun_cases escaped s <;> rfl

theorem scan_escaped (s : List Char) {rest : List Char} (h : rest.head? ≠ some '%') :
    scan (escaped s ++ rest)
      = ⟨textPieces s ++ (scan rest).pieces, (scan rest).dangling⟩ := by
  fun_induction escaped s with
  | case1 s ih =>
    simp only [List.cons_append, scan_escape, ih, Scan.cons, textPieces]
  | case2 c s hne ih =>
    have hc : ¬(c = '<' ∧ (escaped s ++ rest).head? = some '%') := by
      rintro ⟨rfl, hd⟩
      rw [List.head?_append, escaped_head?] at hd
      cases s with
      | nil => exact h (by simpa using hd)
      | cons d t =>
        obtain rfl : d = '%' := by simpa using hd
        exact hne t rfl rfl
    rw [List.cons_append, scan_char hc, ih, textPieces]
    · rfl
    · exact hne
  | case3 => simp [textPieces]

/-! ## §6. Written tokens. -/

/-- The pieces that a written token is read as. -/
def Lexed.pieces (t : Lexed) : List Piece :=
  match t.kind with
  | .data => textPieces t.value.toList
  | kind => [.marker kind (' ' :: t.value.toList ++ [' '])]

/-- A code between two spaces still lacks an end. -/
theorem lacksEnd_spaced {s : List Char} (h : ¬['%', '>'] <:+: s) :
    ¬['%', '>'] <:+: ' ' :: s ++ [' '] := by
  rintro ⟨a, b, hab⟩
  cases a with
  | nil => simp at hab
  | cons c a =>
    simp only [List.cons_append, List.cons.injEq] at hab
    obtain ⟨-, hab⟩ := hab
    rcases List.eq_nil_or_concat b with rfl | ⟨b, d, rfl⟩
    · have := congrArg List.getLast? hab
      simp at this
    · refine h ⟨a, b, ?_⟩
      rw [List.concat_eq_append, ← List.append_assoc] at hab
      exact (List.append_inj' hab rfl).1

theorem scan_spelling {t : Lexed} {rest : List Char} (h : t.isWritable)
    (hrest : t.isData → rest.head? ≠ some '%') :
    scan (t.spelling ++ rest) = ⟨t.pieces ++ (scan rest).pieces, (scan rest).dangling⟩ := by
  obtain ⟨kind, value⟩ := t
  -- a marker is read to its end, and the scan goes on behind it
  have hmarker (s : List Char) (hs : s.head? ≠ some '%')
      (hk : markerKind s = (kind, ' ' :: value.toList ++ [' ', '%', '>'] ++ rest))
      (hl : lacksEnd value) :
      scan ('<' :: '%' :: s)
        = (scan rest).cons (.marker kind (' ' :: value.toList ++ [' '])) := by
    have hcut : cutAtEnd (markerKind s).2 = some (' ' :: value.toList ++ [' '], rest) := by
      rw [hk]
      have := cutAtEnd_append rest (lacksEnd_spaced (by simpa [lacksEnd] using hl))
      simpa using this
    rw [scan_marker hs hcut, hk]
  match kind with
  | .data => exact scan_escaped value.toList (hrest rfl)
  | .marker .output => exact hmarker _ (by simp [TokenKind.sigil]) (by simp [TokenKind.sigil, markerKind]) h
  | .marker .silent => exact hmarker _ (by simp [TokenKind.sigil]) (by simp [TokenKind.sigil, markerKind]) h
  | .marker .pipe => exact hmarker _ (by simp [TokenKind.sigil]) (by simp [TokenKind.sigil, markerKind]) h
  | .comment => exact hmarker _ (by simp [TokenKind.sigil]) (by simp [TokenKind.sigil, markerKind]) h
  | .eof => simp [Lexed.isWritable] at h

theorem spellAll_head? {ts : List Lexed} (h : ¬ts.head?.any Lexed.isData) :
    (spellAll ts).head? ≠ some '%' := by
  cases ts with
  | nil => simp [spellAll]
  | cons t ts =>
    obtain ⟨kind, value⟩ := t
    cases kind with
    | data => simp [Lexed.isData] at h
    | marker kind => simp [spellAll, Lexed.spelling]
    | comment => simp [spellAll, Lexed.spelling]
    | eof => simp [spellAll, Lexed.spelling]

theorem scan_spellAll {ts : List Lexed} (h : areWritable ts) :
    scan (spellAll ts) = ⟨ts.flatMap Lexed.pieces, none⟩ := by
  induction ts with
  | nil => simp [spellAll]
  | cons t ts ih =>
    simp only [areWritable, Bool.and_eq_true, Bool.not_eq_true', Bool.and_eq_false_iff] at h
    obtain ⟨⟨hw, hd⟩, hts⟩ := h
    have hrest : t.isData → (spellAll ts).head? ≠ some '%' := by
      intro ht
      rcases hd with hd | hd
      · rw [ht] at hd
        exact absurd hd (by simp)
      · exact spellAll_head? (by simp [hd])
    rw [spellAll, List.flatMap_cons, ← spellAll, scan_spelling hw hrest, ih hts]
    simp

/-! ## §7. Tokens again. -/

theorem trimSpacing_spaced (s : List Char) : trimSpacing (' ' :: s ++ [' ']) = s := by
  simp [trimSpacing]

/-- Text is collected, backwards, up to the next marker. -/
theorem tokensOf_textPieces (s : List Char) (start here : Position) (text : List Char)
    (ps : List Piece) :
    ∃ next, tokensOf start here text (textPieces s ++ ps)
      = tokensOf start next (s.reverse ++ text) ps := by
  fun_induction textPieces s generalizing here text with
  | case1 s ih =>
    obtain ⟨next, h⟩ := ih (here.after ['<', '%', '%']) ('%' :: '<' :: text)
    exact ⟨next, by simpa [tokensOf] using h⟩
  | case2 c s hne ih =>
    obtain ⟨next, h⟩ := ih (here.next c) (c :: text)
    exact ⟨next, by simpa [tokensOf] using h⟩
  | case3 => exact ⟨here, rfl⟩

/-- The text read so far, as a token without its place. -/
def pendingText (text : List Char) : List Lexed :=
  if text.isEmpty then [] else [⟨.data, String.ofList text.reverse⟩]

theorem dataToken_lexed (start : Position) (text : List Char) :
    (dataToken start text).map Token.lexed = pendingText text := by
  unfold dataToken pendingText
  split <;> rfl

theorem tokensOf_pieces {ts : List Lexed} (h : areWritable ts) (start here : Position)
    (text : List Char) (htext : text = [] ∨ ¬ts.head?.any Lexed.isData) :
    (tokensOf start here text (ts.flatMap Lexed.pieces)).map Token.lexed
      = pendingText text ++ ts ++ [.eof] := by
  induction ts generalizing start here text with
  | nil => simp [tokensOf, dataToken_lexed, Token.lexed, Lexed.eof]
  | cons t ts ih =>
    obtain ⟨kind, value⟩ := t
    simp only [areWritable, Bool.and_eq_true, Bool.not_eq_true', Bool.and_eq_false_iff] at h
    obtain ⟨⟨hw, hd⟩, hts⟩ := h
    by_cases hk : kind = .data
    · subst hk
      obtain rfl : text = [] := by simpa [Lexed.isData] using htext
      have hnext : ¬ts.head?.any Lexed.isData := by simpa [Lexed.isData] using hd
      obtain ⟨next, hp⟩ :=
        tokensOf_textPieces value.toList start here [] (ts.flatMap Lexed.pieces)
      rw [List.flatMap_cons, Lexed.pieces, hp, ih hts _ _ _ (Or.inr hnext)]
      have hne : value ≠ "" := by simpa [Lexed.isWritable] using hw
      simp [pendingText, hne]
    · have hp : Lexed.pieces ⟨kind, value⟩
          = [.marker kind (' ' :: value.toList ++ [' '])] := by
        cases kind <;> first | rfl | exact absurd rfl hk
      rw [List.flatMap_cons, hp, List.singleton_append, tokensOf, List.map_append,
        List.map_cons, ih hts _ _ _ (Or.inl rfl), dataToken_lexed]
      rw [trimSpacing_spaced]
      simp [pendingText, Token.lexed]

/-- **Written tokens are read again**, up to their places. -/
theorem tokenize_spellAll {ts : List Lexed} (h : areWritable ts) :
    ∃ tokens, tokenize (String.ofList (spellAll ts)) = .ok tokens
      ∧ tokens.map Token.lexed = ts ++ [.eof] := by
  refine ⟨tokensOf .start .start [] (ts.flatMap Lexed.pieces), ?_, ?_⟩
  · simp [tokenize, scan_spellAll h]
  · rw [tokensOf_pieces h _ _ _ (Or.inl rfl)]
    simp [pendingText]

/-! ## §8. What the scanner never finds. -/

theorem infix_trimSpacing (raw : List Char) : trimSpacing raw <:+: raw := by
  unfold trimSpacing
  dsimp only
  split
  · refine (List.dropLast_prefix _).isInfix.trans ?_
    split
    · exact (List.suffix_cons _ _).isInfix
    · exact List.infix_rfl
  · split
    · exact (List.suffix_cons _ _).isInfix
    · exact List.infix_rfl

/-- Is the token one that the scanner can find? -/
def Token.isFound (t : Token) : Bool :=
  match t.kind with
  | .data => t.value ≠ ""
  | .marker _ => lacksEnd t.value
  | _ => true

/-- Is the piece one that the scanner can find?  The code of a marker holds no end. -/
def Piece.isFound : Piece → Bool
  | .marker kind raw => kind ≠ .data && !decide (['%', '>'] <:+: raw)
  | _ => true

theorem markerKind_ne_data (s : List Char) : (markerKind s).1 ≠ .data := by
  unfold markerKind
  split <;> simp

theorem scan_isFound (s : List Char) : ∀ p ∈ (scan s).pieces, p.isFound := by
  fun_induction scan s with
  | case1 => simp
  | case2 s ih => simpa [Piece.isFound] using ih
  | case3 s hne hcut => simp
  | case4 s hne raw rest hcut ih =>
    simp only [Scan.cons_pieces, List.mem_cons, forall_eq_or_imp]
    exact ⟨by simpa [Piece.isFound, markerKind_ne_data] using cutAtEnd_lacks hcut, ih⟩
  | case5 c s h₁ h₂ ih => simpa [Piece.isFound] using ih

theorem dataToken_isFound (start : Position) (text : List Char) :
    ∀ t ∈ dataToken start text, t.isFound := by
  unfold dataToken
  split
  · simp
  · rename_i h
    intro t ht
    obtain rfl := List.mem_singleton.1 ht
    simpa [Token.isFound] using h

theorem tokensOf_isFound {ps : List Piece} (h : ∀ p ∈ ps, p.isFound) (start here : Position)
    (text : List Char) : ∀ t ∈ tokensOf start here text ps, t.isFound := by
  induction ps generalizing start here text with
  | nil =>
    intro t ht
    rcases List.mem_append.1 ht with ht | ht
    · exact dataToken_isFound start text t ht
    · obtain rfl := List.mem_singleton.1 ht
      rfl
  | cons p ps ih =>
    simp only [List.mem_cons, forall_eq_or_imp] at h
    cases p with
    | char c => exact ih h.2 _ _ _
    | escape => exact ih h.2 _ _ _
    | marker kind raw =>
      intro t ht
      rcases List.mem_append.1 ht with ht | ht
      · exact dataToken_isFound start text t ht
      rcases List.mem_cons.1 ht with rfl | ht
      · simp only [Piece.isFound, Bool.and_eq_true, decide_eq_true_eq, Bool.not_eq_true',
          decide_eq_false_iff_not] at h
        have hcode : ¬['%', '>'] <:+: trimSpacing raw :=
          fun hi => h.1.2 (hi.trans (infix_trimSpacing raw))
        cases kind with
        | data => exact absurd rfl h.1.1
        | marker kind => simpa [Token.isFound, lacksEnd] using hcode
        | comment => rfl
        | eof => rfl
      · exact ih h.2 _ _ _ t ht

theorem tokenize_isFound {source : String} {tokens : List Token}
    (h : tokenize source = .ok tokens) : ∀ t ∈ tokens, t.isFound := by
  obtain ⟨-, rfl⟩ := tokenize_ok_iff.1 h
  exact tokensOf_isFound (scan_isFound source.toList) _ _ _

end Inlay
