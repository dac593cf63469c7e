/-
  Inlay.Proofs.Grammar
  ────────────────────────────────
  **THE GRAMMAR OF SOURCES.**

  A source is a text, a marker, a text, a marker, ..., a text:

      text   — pieces without `<%`, with the escape `<%%` between any two
      marker — `<%`, a sigil or none, a raw part without `%>`, and `%>`

  The scanner accepts the sources of this shape and no others, and finds the
  one way in which a source has it.  What the grammar does not cover goes on,
  behind such a source, with an opener that nothing closes.
-/
import Inlay.Program.Compile
import Inlay.Proofs.Scanning
import Inlay.Value

namespace Inlay

open Inlay.Diagnostic Inlay.Program

/-! ## §1. Texts. -/

/-- Does the text hold no opener? -/
def IsPlain (s : List Char) : Prop := ¬['<', '%'] <:+: s

instance (s : List Char) : Decidable (IsPlain s) := inferInstanceAs (Decidable (¬_))

/-- A text as it is written: pieces, with an escape in front of all but the first. -/
structure Passage where
  first : List Char
  further : List (List Char)
  deriving Repr, DecidableEq

namespace Passage

/-- Do the pieces hold no openers? -/
def IsGrammatical (x : Passage) : Prop := IsPlain x.first ∧ ∀ s ∈ x.further, IsPlain s

instance (x : Passage) : Decidable x.IsGrammatical := inferInstanceAs (Decidable (_ ∧ _))

/-- The text in a source. -/
def spelling (x : Passage) : List Char :=
  x.first ++ x.further.flatMap (fun s => '<' :: '%' :: '%' :: s)

/-- The text as it is read: every escape stands for `<%`. -/
def reading (x : Passage) : List Char :=
  x.first ++ x.further.flatMap (fun s => '<' :: '%' :: s)

/-- The tokens of a text: one, unless the text is empty. -/
def lexed (x : Passage) : List Lexed :=
  if x.spelling = [] then [] else [⟨.data, String.ofList x.reading⟩]

/-- The text as pieces of a scan. -/
def pieces (x : Passage) : List Piece :=
  x.first.map .char ++ x.further.flatMap (fun s => .escape :: s.map .char)

end Passage

/-! ## §2. Markers. -/

/-- The text without the space that it may start with. -/
def dropSpace : List Char → List Char
  | ' ' :: s => s
  | s => s

/-- A marker as it is written: its kind, and what stands between its sigil and its end. -/
structure Tag where
  kind : TokenKind
  raw : List Char
  deriving Repr, DecidableEq

/-- Can the text follow `<%` and the sigil of a kind of markers?  Where there is no sigil, it must
not look like one, nor like the rest of an escape. -/
def FollowsSigil (kind : TokenKind) (s : List Char) : Prop :=
  match kind with
  | .marker .silent => ∀ c ∈ s.head?, c ∉ ['=', '|', '#', '%']
  | .marker _ => True
  | .comment => True
  | _ => False

instance : (kind : TokenKind) → (s : List Char) → Decidable (FollowsSigil kind s)
  | .marker .silent, [] => .isTrue (by simp [FollowsSigil])
  | .marker .silent, c :: _ => decidable_of_iff (c ∉ ['=', '|', '#', '%']) (by simp [FollowsSigil])
  | .marker .output, _ | .marker .pipe, _ | .comment, _ => .isTrue trivial
  | .data, _ | .eof, _ => .isFalse id

namespace Tag

/-- Has the raw part no end in it, and is it one for the sigil? -/
def IsGrammatical (m : Tag) : Prop :=
  ¬['%', '>'] <:+: m.raw ∧ FollowsSigil m.kind m.raw
    ∧ (m.kind = .marker .silent → m.raw ≠ [])

instance (m : Tag) : Decidable m.IsGrammatical := inferInstanceAs (Decidable (_ ∧ _ ∧ _))

/-- The marker in a source. -/
def spelling (m : Tag) : List Char := '<' :: '%' :: (m.kind.sigil ++ m.raw ++ ['%', '>'])

/-- The code: the raw part without a space at its start, and then without one at its end. -/
def code (m : Tag) : List Char := (dropSpace (dropSpace m.raw).reverse).reverse

/-- The token of a marker. -/
def lexed (m : Tag) : Lexed := ⟨m.kind, String.ofList m.code⟩

end Tag

/-! ## §3. Sources. -/

/-- A source as it is written: a text, and markers with a text behind each. -/
structure Sentence where
  opening : Passage
  rest : List (Tag × Passage)
  deriving Repr, DecidableEq

namespace Sentence

/-- Are all the texts and markers as they should be? -/
def IsGrammatical (r : Sentence) : Prop :=
  r.opening.IsGrammatical ∧ ∀ p ∈ r.rest, p.1.IsGrammatical ∧ p.2.IsGrammatical

instance (r : Sentence) : Decidable r.IsGrammatical := inferInstanceAs (Decidable (_ ∧ _))

/-- The source. -/
def spelling (r : Sentence) : List Char :=
  r.opening.spelling ++ r.rest.flatMap (fun p => p.1.spelling ++ p.2.spelling)

/-- The tokens, but for the end of the source. -/
def lexed (r : Sentence) : List Lexed :=
  r.opening.lexed ++ r.rest.flatMap (fun p => p.1.lexed :: p.2.lexed)

/-- The source as pieces of a scan. -/
def pieces (r : Sentence) : List Piece :=
  r.opening.pieces ++ r.rest.flatMap (fun p => .marker p.1.kind p.1.raw :: p.2.pieces)

/-- The source that some pieces of a scan make up. -/
def ofPieces : List Piece → Sentence
  | [] => ⟨⟨[], []⟩, []⟩
  | .char c :: ps =>
    let r := ofPieces ps
    { r with opening := { r.opening with first := c :: r.opening.first } }
  | .escape :: ps =>
    let r := ofPieces ps
    { r with opening := ⟨[], r.opening.first :: r.opening.further⟩ }
  | .marker kind raw :: ps =>
    let r := ofPieces ps
    ⟨⟨[], []⟩, (⟨kind, raw⟩, r.opening) :: r.rest⟩

end Sentence

/-! ## §4. Pieces and sources are the same. -/

theorem Sentence.pieces_ofPieces (ps : List Piece) : (ofPieces ps).pieces = ps := by
  induction ps with
  | nil => rfl
  | cons p ps ih =>
    cases p <;> simpa [ofPieces, pieces, Passage.pieces] using ih

theorem Sentence.ofPieces_chars (s : List Char) (ps : List Piece) :
    ofPieces (s.map .char ++ ps)
      = { ofPieces ps with
          opening := { (ofPieces ps).opening with first := s ++ (ofPieces ps).opening.first } } := by
  induction s with
  | nil => rfl
  | cons c s ih => simp [ofPieces, ih]

theorem Sentence.ofPieces_passage (x : Passage) {ps : List Piece}
    (h : (ofPieces ps).opening = ⟨[], []⟩) :
    ofPieces (x.pieces ++ ps) = ⟨x, (ofPieces ps).rest⟩ := by
  obtain ⟨first, further⟩ := x
  have hfurther : ofPieces (further.flatMap (fun s => .escape :: s.map .char) ++ ps)
      = ⟨⟨[], further⟩, (ofPieces ps).rest⟩ := by
    induction further with
    | nil => simp [← h]
    | cons s further ih => simp [ofPieces, ofPieces_chars, ih]
  simp [Passage.pieces, ofPieces_chars, hfurther]

/-- The pieces of a source tell which source it is. -/
theorem Sentence.ofPieces_pieces (r : Sentence) : ofPieces r.pieces = r := by
  obtain ⟨opening, rest⟩ := r
  have hrest : ofPieces (rest.flatMap (fun p => .marker p.1.kind p.1.raw :: p.2.pieces))
      = ⟨⟨[], []⟩, rest⟩ := by
    induction rest with
    | nil => rfl
    | cons p rest ih =>
      rw [List.flatMap_cons, List.cons_append, ofPieces, ofPieces_passage _ (by rw [ih]), ih]
  rw [pieces, ofPieces_passage _ (by rw [hrest]), hrest]

theorem spelling_chars (s : List Char) : (s.map Piece.char).flatMap Piece.spelling = s := by
  induction s with
  | nil => rfl
  | cons c s ih => simp [Piece.spelling, ih]

theorem Passage.spelling_pieces (x : Passage) : x.pieces.flatMap Piece.spelling = x.spelling := by
  obtain ⟨first, further⟩ := x
  induction further with
  | nil => simp [pieces, spelling, spelling_chars]
  | cons s further ih =>
    simp only [pieces, spelling, List.flatMap_append, spelling_chars] at ih ⊢
    simpa [Piece.spelling, spelling_chars] using ih

theorem Sentence.spelling_pieces (r : Sentence) :
    r.pieces.flatMap Piece.spelling = r.spelling := by
  obtain ⟨opening, rest⟩ := r
  induction rest with
  | nil => simp [pieces, spelling, Passage.spelling_pieces]
  | cons p rest ih =>
    simp only [pieces, spelling, List.flatMap_append, Passage.spelling_pieces] at ih ⊢
    simpa [Piece.spelling, Tag.spelling, Passage.spelling_pieces] using ih

/-! ## §5. Grammatical sources are scanned as they are written. -/

theorem isPlain_cons {c : Char} {s : List Char} :
    IsPlain (c :: s) ↔ ¬(c = '<' ∧ s.head? = some '%') ∧ IsPlain s := by
  rw [IsPlain, IsPlain, List.infix_cons_iff, not_or, List.cons_prefix_cons]
  cases s with
  | nil => simp
  | cons d s => simp [List.cons_prefix_cons, eq_comm]

/-- Plain text is read character by character, unless it runs into an opener. -/
theorem scan_plain {s rest : List Char} (h : IsPlain s) (hrest : rest.head? ≠ some '%') :
    scan (s ++ rest) = ⟨s.map .char ++ (scan rest).pieces, (scan rest).dangling⟩ := by
  induction s with
  | nil => rfl
  | cons c s ih =>
    rw [isPlain_cons] at h
    have hc : ¬(c = '<' ∧ (s ++ rest).head? = some '%') := by
      rintro ⟨rfl, hd⟩
      cases s with
      | nil => exact hrest hd
      | cons d t => exact h.1 ⟨rfl, hd⟩
    rw [List.cons_append, scan_char hc, ih h.2]
    rfl

theorem scan_passage {x : Passage} {rest : List Char} (h : x.IsGrammatical)
    (hrest : rest.head? ≠ some '%') :
    scan (x.spelling ++ rest) = ⟨x.pieces ++ (scan rest).pieces, (scan rest).dangling⟩ := by
  obtain ⟨first, further⟩ := x
  obtain ⟨hfirst, hfurther⟩ : IsPlain first ∧ ∀ s ∈ further, IsPlain s := h
  -- the pieces behind the first one, whatever stands before them
  have htail : (further.flatMap (fun s => '<' :: '%' :: '%' :: s) ++ rest).head? ≠ some '%'
      ∧ scan (further.flatMap (fun s => '<' :: '%' :: '%' :: s) ++ rest)
        = ⟨further.flatMap (fun s => .escape :: s.map .char) ++ (scan rest).pieces,
            (scan rest).dangling⟩ := by
    induction further with
    | nil => exact ⟨hrest, rfl⟩
    | cons s further ih =>
      obtain ⟨hs, hfurther⟩ := List.forall_mem_cons.1 hfurther
      obtain ⟨hhead, heq⟩ := ih hfurther
      refine ⟨by simp, ?_⟩
      simp only [List.flatMap_cons, List.cons_append, List.append_assoc]
      rw [scan_escape, scan_plain hs hhead, heq]
      simp [Scan.cons]
  simp only [Passage.spelling, Passage.pieces, List.append_assoc]
  rw [scan_plain hfirst htail.1, htail.2]

theorem scan_tag {m : Tag} (rest : List Char) (h : m.IsGrammatical) :
    scan (m.spelling ++ rest) = (scan rest).cons (.marker m.kind m.raw) := by
  obtain ⟨kind, raw⟩ := m
  obtain ⟨hraw, hsigil, hne⟩ := h
  have hcut := cutAtEnd_append rest hraw
  -- what stands behind `<%` tells the kind of the marker
  have hmarker {s : List Char} (hs : s.head? ≠ some '%')
      (hk : markerKind s = (kind, raw ++ '%' :: '>' :: rest)) :
      scan ('<' :: '%' :: s) = (scan rest).cons (.marker kind raw) := by
    rw [scan_marker hs (by rw [hk]; exact hcut), hk]
  simp only [Tag.spelling, List.cons_append, List.append_assoc, List.nil_append]
  match kind with
  | .marker .output => exact hmarker (by simp [TokenKind.sigil]) rfl
  | .marker .pipe => exact hmarker (by simp [TokenKind.sigil]) rfl
  | .comment => exact hmarker (by simp [TokenKind.sigil]) rfl
  | .marker .silent =>
    obtain ⟨c, raw, rfl⟩ := List.exists_cons_of_ne_nil (hne rfl)
    have hc : c ∉ ['=', '|', '#', '%'] := by simpa [FollowsSigil] using hsigil
    simp only [List.mem_cons, List.not_mem_nil, or_false, not_or] at hc
    obtain ⟨h₁, h₂, h₃, h₄⟩ := hc
    refine hmarker (by simpa [TokenKind.sigil] using h₄) ?_
    simp [TokenKind.sigil, markerKind, h₁, h₂, h₃]
  | .data => exact hsigil.elim
  | .eof => exact hsigil.elim

/-- **A grammatical source is scanned as it is written.** -/
theorem scan_sentence {r : Sentence} (h : r.IsGrammatical) :
    scan r.spelling = ⟨r.pieces, none⟩ := by
  obtain ⟨opening, rest⟩ := r
  obtain ⟨hopening, hrest⟩ : opening.IsGrammatical
    ∧ ∀ p ∈ rest, p.1.IsGrammatical ∧ p.2.IsGrammatical := h
  have htail : (rest.flatMap (fun p => p.1.spelling ++ p.2.spelling)).head? ≠ some '%'
      ∧ scan (rest.flatMap (fun p => p.1.spelling ++ p.2.spelling))
        = ⟨rest.flatMap (fun p => .marker p.1.kind p.1.raw :: p.2.pieces), none⟩ := by
    induction rest with
    | nil => exact ⟨by simp, scan_nil⟩
    | cons p rest ih =>
      obtain ⟨⟨hm, hx⟩, hrest⟩ := List.forall_mem_cons.1 hrest
      obtain ⟨hhead, heq⟩ := ih hrest
      refine ⟨by simp [Tag.spelling], ?_⟩
      simp only [List.flatMap_cons, List.append_assoc]
      rw [scan_tag _ hm, scan_passage hx hhead, heq]
      simp [Scan.cons]
  simp only [Sentence.spelling, Sentence.pieces]
  rw [scan_passage hopening htail.1, htail.2]

/-! ## §6. What is scanned is grammatical. -/

theorem cutAtEnd_eq_some {s raw rest : List Char} (h : cutAtEnd s = some (raw, rest)) :
    s = raw ++ '%' :: '>' :: rest := by
  induction s generalizing raw with
  | nil => simp [cutAtEnd] at h
  | cons c s ih =>
    by_cases hc : c = '%' ∧ s.head? = some '>'
    · obtain ⟨rfl, hd⟩ := hc
      obtain ⟨t, rfl⟩ := List.head?_eq_some_iff.1 hd
      obtain ⟨rfl, rfl⟩ := by simpa [cutAtEnd] using h
      rfl
    · rw [cutAtEnd_cons hc] at h
      obtain ⟨⟨raw', rest'⟩, hp, hq⟩ := Option.map_eq_some_iff.1 h
      obtain ⟨rfl, rfl⟩ := by simpa using hq
      rw [ih hp]
      rfl

theorem lacks_of_cutAtEnd_eq_none {s : List Char} (h : cutAtEnd s = none) :
    ¬['%', '>'] <:+: s := by
  rintro ⟨a, b, rfl⟩
  induction a with
  | nil => simp [cutAtEnd] at h
  | cons c a ih =>
    by_cases hc : c = '%' ∧ (a ++ ['%', '>'] ++ b).head? = some '>'
    · obtain ⟨rfl, hd⟩ := hc
      obtain ⟨t, ht⟩ := List.head?_eq_some_iff.1 hd
      rw [List.cons_append, List.cons_append, ht] at h
      simp [cutAtEnd] at h
    · rw [List.cons_append, List.cons_append, cutAtEnd_cons hc] at h
      exact ih (by simpa using h)

theorem markerKind_spells (s : List Char) : (markerKind s).1.sigil ++ (markerKind s).2 = s := by
  unfold markerKind
  split <;> rfl

/-- What stands behind an opener that is no escape can follow its sigil. -/
theorem markerKind_follows {s : List Char} (hs : s.head? ≠ some '%') :
    FollowsSigil (markerKind s).1 (markerKind s).2 := by
  unfold markerKind
  split <;> try trivial
  rename_i h₁ h₂ h₃
  intro c hc
  obtain ⟨t, rfl⟩ := List.head?_eq_some_iff.1 hc
  simp only [List.mem_cons, List.not_mem_nil, or_false, not_or]
  refine ⟨?_, ?_, ?_, ?_⟩
  · rintro rfl
    exact h₁ t rfl
  · rintro rfl
    exact h₂ t rfl
  · rintro rfl
    exact h₃ t rfl
  · rintro rfl
    exact hs rfl

theorem FollowsSigil.of_append {kind : TokenKind} {s t : List Char}
    (h : FollowsSigil kind (s ++ t)) : FollowsSigil kind s := by
  match kind with
  | .marker .silent =>
    intro c hc
    rw [Option.mem_def] at hc
    exact h c (by rw [List.head?_append, hc]; rfl)
  | .marker .output => trivial
  | .marker .pipe => trivial
  | .comment => trivial

/-- A text of a scan starts with `%` only if the source does. -/
theorem head?_of_opening {s : List Char}
    (h : (Sentence.ofPieces (scan s).pieces).opening.first.head? = some '%') :
    s.head? = some '%' := by
  revert h
  fun_cases scan s with
  | case1 => simp [Sentence.ofPieces]
  | case2 s => simp [Sentence.ofPieces]
  | case3 s hne hcut => simp [Sentence.ofPieces]
  | case4 s hne raw rest hcut => simp [Sentence.ofPieces]
  | case5 c s h₁ h₂ => simp [Sentence.ofPieces]

/-- **The pieces of a scan make up a grammatical source.** -/
theorem isGrammatical_scan (s : List Char) :
    (Sentence.ofPieces (scan s).pieces).IsGrammatical := by
  fun_induction scan s with
  | case1 => simp [Sentence.ofPieces, Sentence.IsGrammatical, Passage.IsGrammatical, IsPlain]
  | case2 s ih =>
    obtain ⟨⟨hfirst, hfurther⟩, hrest⟩ := ih
    refine ⟨⟨by simp [Sentence.ofPieces, IsPlain], ?_⟩, hrest⟩
    exact List.forall_mem_cons.2 ⟨hfirst, hfurther⟩
  | case3 s hne hcut =>
    simp [Sentence.ofPieces, Sentence.IsGrammatical, Passage.IsGrammatical, IsPlain]
  | case4 s hne raw rest hcut ih =>
    obtain ⟨hopening, hrest⟩ := ih
    refine ⟨by simp [Sentence.ofPieces, Passage.IsGrammatical, IsPlain], ?_⟩
    refine List.forall_mem_cons.2 ⟨⟨⟨cutAtEnd_lacks hcut, ?_, ?_⟩, hopening⟩, hrest⟩
    · have hs : s.head? ≠ some '%' := by
        intro hd
        obtain ⟨t, rfl⟩ := List.head?_eq_some_iff.1 hd
        exact hne t rfl
      have hf := markerKind_follows hs
      rw [cutAtEnd_eq_some hcut] at hf
      exact hf.of_append
    · -- an empty raw part would have made the opener an escape
      rintro hk rfl
      have hspell := markerKind_spells s
      rw [cutAtEnd_eq_some hcut] at hspell
      replace hk : (markerKind s).1 = .marker .silent := hk
      rw [hk] at hspell
      exact hne _ hspell.symm
  | case5 c s h₁ h₂ ih =>
    obtain ⟨⟨hfirst, hfurther⟩, hrest⟩ := ih
    refine ⟨⟨isPlain_cons.2 ⟨?_, hfirst⟩, hfurther⟩, hrest⟩
    rintro ⟨rfl, hd⟩
    obtain ⟨t, rfl⟩ := List.head?_eq_some_iff.1 (head?_of_opening hd)
    exact h₂ t rfl rfl

/-- An opener without an end: its kind, and all that stands behind its sigil. -/
def IsDangling (kind : TokenKind) (s : List Char) : Prop :=
  FollowsSigil kind s ∧ ¬['%', '>'] <:+: s

/-- The pieces of a scan spell the source, up to the opener that stopped it. -/
theorem scan_spells (s : List Char) :
    match (scan s).dangling with
    | none => s = (scan s).pieces.flatMap Piece.spelling
    | some kind => ∃ t, IsDangling kind t
      ∧ s = (scan s).pieces.flatMap Piece.spelling ++ '<' :: '%' :: (kind.sigil ++ t) := by
  -- one more piece in front, on both sides
  have hcons (p : Piece) (s : List Char)
      (ih : match (scan s).dangling with
        | none => s = (scan s).pieces.flatMap Piece.spelling
        | some kind => ∃ t, IsDangling kind t
          ∧ s = (scan s).pieces.flatMap Piece.spelling ++ '<' :: '%' :: (kind.sigil ++ t)) :
      match ((scan s).cons p).dangling with
      | none => p.spelling ++ s = ((scan s).cons p).pieces.flatMap Piece.spelling
      | some kind => ∃ t, IsDangling kind t
        ∧ p.spelling ++ s = ((scan s).cons p).pieces.flatMap Piece.spelling
          ++ '<' :: '%' :: (kind.sigil ++ t) := by
    simp only [Scan.cons_dangling, Scan.cons_pieces, List.flatMap_cons, List.append_assoc]
    split
    · rename_i hd
      rw [hd] at ih
      rw [← ih]
    · rename_i kind hd
      rw [hd] at ih
      obtain ⟨t, ht, heq⟩ := ih
      exact ⟨t, ht, by rw [← heq]⟩
  fun_induction scan s with
  | case1 => simp
  | case2 s ih => exact hcons .escape s ih
  | case3 s hne hcut =>
    have hs : s.head? ≠ some '%' := by
      intro hd
      obtain ⟨t, rfl⟩ := List.head?_eq_some_iff.1 hd
      exact hne t rfl
    refine ⟨(markerKind s).2, ⟨markerKind_follows hs, lacks_of_cutAtEnd_eq_none hcut⟩, ?_⟩
    rw [markerKind_spells]
    rfl
  | case4 s hne raw rest hcut ih =>
    have hspell : '<' :: '%' :: s = (Piece.marker (markerKind s).1 raw).spelling ++ rest := by
      conv => lhs; rw [← markerKind_spells s, cutAtEnd_eq_some hcut]
      simp [Piece.spelling]
    rw [hspell]
    exact hcons (.marker (markerKind s).1 raw) rest ih
  | case5 c s h₁ h₂ ih => exact hcons (.char c) s ih

/-- Tokens are those of pieces that spell their source. -/
theorem pieces_of_tokenize {source : String} {tokens : List Token}
    (h : tokenize source = .ok tokens) :
    tokens = tokensOf .start .start [] (scan source.toList).pieces
      ∧ source.toList = (scan source.toList).pieces.flatMap Piece.spelling := by
  obtain ⟨hdangling, htokens⟩ := tokenize_ok_iff.1 h
  have hspells := scan_spells source.toList
  rw [hdangling] at hspells
  exact ⟨htokens, hspells⟩

/-! ## §7. Tokens of grammatical sources. -/

theorem trimSpacing_eq_code (m : Tag) : trimSpacing m.raw = m.code := by
  -- behind a first space only the last one is still dropped
  have hlast (s : List Char) : trimSpacing (' ' :: s) = (dropSpace s.reverse).reverse := by
    unfold trimSpacing
    dsimp only
    rcases List.eq_nil_or_concat s with rfl | ⟨s, c, rfl⟩
    · rfl
    · by_cases hc : c = ' '
      · simp [hc, dropSpace]
      · simp [hc, dropSpace]
  have hfirst : trimSpacing m.raw = trimSpacing (' ' :: dropSpace m.raw) := by
    cases m.raw with
    | nil => rfl
    | cons c s =>
      by_cases hc : c = ' '
      · subst hc
        rfl
      · simp [trimSpacing, dropSpace, hc]
  rw [hfirst, hlast]
  rfl

theorem tokensOf_chars (s : List Char) (start here : Position) (text : List Char)
    (ps : List Piece) :
    tokensOf start here text (s.map .char ++ ps)
      = tokensOf start (here.after s) (s.reverse ++ text) ps := by
  induction s generalizing here text with
  | nil => rfl
  | cons c s ih =>
    rw [List.map_cons, List.cons_append, tokensOf, ih, List.reverse_cons, List.append_assoc]
    rfl

/-- Text is collected as it is read, backwards, up to the next marker. -/
theorem tokensOf_passage (x : Passage) (start here : Position) (text : List Char)
    (ps : List Piece) :
    tokensOf start here text (x.pieces ++ ps)
      = tokensOf start (here.after x.spelling) (x.reading.reverse ++ text) ps := by
  obtain ⟨first, further⟩ := x
  have hfurther : ∀ (here : Position) (text : List Char),
      tokensOf start here text (further.flatMap (fun s => .escape :: s.map .char) ++ ps)
        = tokensOf start (here.after (further.flatMap (fun s => '<' :: '%' :: '%' :: s)))
          ((further.flatMap (fun s => '<' :: '%' :: s)).reverse ++ text) ps := by
    induction further with
    | nil => exact fun here text => rfl
    | cons s further ih =>
      intro here text
      rw [List.flatMap_cons, List.append_assoc, List.cons_append, tokensOf, tokensOf_chars, ih,
        ← Position.after_append, ← Position.after_append]
      simp
  rw [Passage.pieces, List.append_assoc, tokensOf_chars, hfurther, ← Position.after_append]
  simp [Passage.reading, Passage.spelling]

/-- An empty text is read as an empty one, and no other is. -/
theorem Passage.reading_eq_nil {x : Passage} : x.reading = [] ↔ x.spelling = [] := by
  obtain ⟨first, further⟩ := x
  cases further <;> simp [reading, spelling]

theorem Passage.pendingText_reading (x : Passage) :
    pendingText (x.reading.reverse ++ []) = x.lexed := by
  simp [pendingText, lexed, ← reading_eq_nil]

/-- **The tokens of a grammatical source**, up to their places. -/
theorem tokensOf_sentence (r : Sentence) (start here : Position) :
    (tokensOf start here [] r.pieces).map Token.lexed = r.lexed ++ [.eof] := by
  obtain ⟨opening, rest⟩ := r
  induction rest generalizing opening start here with
  | nil =>
    simp only [Sentence.pieces, List.flatMap_nil, tokensOf_passage, tokensOf, List.map_append,
      dataToken_lexed]
    rw [Passage.pendingText_reading]
    simp [Sentence.lexed, Token.lexed, Lexed.eof]
  | cons p rest ih =>
    obtain ⟨m, x⟩ := p
    have hpieces : Sentence.pieces ⟨opening, (m, x) :: rest⟩
        = opening.pieces ++ .marker m.kind m.raw :: Sentence.pieces ⟨x, rest⟩ := rfl
    rw [hpieces, tokensOf_passage, tokensOf, List.map_append, List.map_cons, dataToken_lexed,
      Passage.pendingText_reading, ih, trimSpacing_eq_code]
    simp [Sentence.lexed, Token.lexed, Tag.lexed]

theorem Sentence.lexed_ne_eof {r : Sentence} (h : r.IsGrammatical) :
    ∀ t ∈ r.lexed, t.kind ≠ .eof := by
  have htext (x : Passage) : ∀ t ∈ x.lexed, t.kind ≠ .eof := by
    intro t ht
    rw [Passage.lexed] at ht
    split at ht
    · simp at ht
    · rw [List.mem_singleton.1 ht]
      simp
  obtain ⟨opening, rest⟩ := r
  intro t ht
  rcases List.mem_append.1 ht with ht | ht
  · exact htext opening t ht
  · obtain ⟨p, hp, ht⟩ := List.mem_flatMap.1 ht
    rcases List.mem_cons.1 ht with rfl | ht
    · intro hk
      have hfollows := (h.2 p hp).1.2.1
      replace hk : p.1.kind = .eof := hk
      rw [hk] at hfollows
      exact hfollows
    · exact htext p.2 t ht

/-! ## §8. Places. -/

/-- The place behind a text at the start of a source: the line counts the newlines of the text, the
column the characters behind the last one. -/
theorem Position.after_start (s : List Char) :
    Position.start.after s
      = ⟨1 + s.count '\n', (s.reverse.takeWhile (· ≠ '\n')).length⟩ := by
  rcases List.eq_nil_or_concat s with rfl | ⟨s, c, rfl⟩
  · rfl
  · have ih := Position.after_start s
    rw [List.concat_eq_append, Position.after_append, ih, Position.after, List.foldl_cons,
      List.foldl_nil]
    by_cases hc : c = '\n'
    · simp [Position.next, hc, Int.add_assoc]
    · simp [Position.next, hc]
termination_by s.length

/-! ## §9. The scanner and the grammar. -/

theorem tokensOfSource_grammatical (filename : Option String) {source : String} {r : Sentence}
    (h : r.IsGrammatical) (hs : r.spelling = source.toList) :
    ∃ ts, tokensOfSource filename source = .ok ts
      ∧ ts.map Token.lexed = r.lexed ++ [.eof] := by
  refine ⟨tokensOf .start .start [] r.pieces, ?_, tokensOf_sentence r _ _⟩
  simp [tokensOfSource, tokenize, ← hs, scan_sentence h, Except.mapError]

theorem tokensOfSource_dangling (filename : Option String) {source : String} {kind : TokenKind}
    (h : (scan source.toList).dangling = some kind) :
    ∃ (r : Sentence) (s : List Char), r.IsGrammatical ∧ IsDangling kind s
      ∧ source.toList = r.spelling ++ '<' :: '%' :: (kind.sigil ++ s)
      ∧ tokensOfSource filename source = .error (markerReport filename source
          ⟨String.ofList ('<' :: '%' :: kind.sigil), ⟨kind, "", Position.start.after r.spelling⟩⟩) := by
  have hspell := scan_spells source.toList
  rw [h] at hspell
  obtain ⟨s, hs, heq⟩ := hspell
  have hpieces := Sentence.spelling_pieces (Sentence.ofPieces (scan source.toList).pieces)
  rw [Sentence.pieces_ofPieces] at hpieces
  refine ⟨_, s, isGrammatical_scan source.toList, hs, by rw [← hpieces]; exact heq, ?_⟩
  simp [tokensOfSource, tokenize, h, Except.mapError, placeAfter, hpieces]

/-- **The scanner accepts its grammar.**  A source has tokens exactly if it is grammatical; it is so
in one way only, and the tokens are those of its texts and markers.  Any other source goes on, behind
a grammatical part, with an opener that nothing closes, and this is what is reported. -/
theorem tokensOfSource_iff_grammatical (filename : Option String) (source : String) :
    ((∃ ts, tokensOfSource filename source = .ok ts) ↔
      ∃ r : Sentence, r.IsGrammatical ∧ r.spelling = source.toList)
    ∧ (∀ r r' : Sentence, r.IsGrammatical → r.spelling = source.toList →
        r'.IsGrammatical → r'.spelling = source.toList → r = r')
    ∧ (∀ r : Sentence, r.IsGrammatical → r.spelling = source.toList →
        (∀ t ∈ r.lexed, t.kind ≠ .eof)
        ∧ ∃ ts, tokensOfSource filename source = .ok ts
          ∧ ts.map Token.lexed = r.lexed ++ [.eof])
    ∧ ((¬∃ r : Sentence, r.IsGrammatical ∧ r.spelling = source.toList) →
        ∃ (r : Sentence) (kind : TokenKind) (s : List Char) (e : Malformed),
          r.IsGrammatical ∧ IsDangling kind s
          ∧ source.toList = r.spelling ++ '<' :: '%' :: (kind.sigil ++ s)
          ∧ tokensOfSource filename source = .error e
          ∧ (Report.malformed e).errorClass = .templateMarker
          ∧ e.fault.code = .unterminatedMarker
          ∧ e.anchor = .marker ⟨kind, "", ⟨1 + r.spelling.count '\n',
              (r.spelling.reverse.takeWhile (· ≠ '\n')).length⟩⟩) := by
  refine ⟨⟨?_, ?_⟩, ?_, ?_, ?_⟩
  · rintro ⟨ts, hts⟩
    cases hd : (scan source.toList).dangling with
    | none =>
      have hspell := scan_spells source.toList
      rw [hd] at hspell
      refine ⟨_, isGrammatical_scan source.toList, ?_⟩
      rw [← Sentence.spelling_pieces, Sentence.pieces_ofPieces]
      exact hspell.symm
    | some kind =>
      obtain ⟨r, s, -, -, -, herr⟩ := tokensOfSource_dangling filename hd
      rw [herr] at hts
      simp at hts
  · rintro ⟨r, hr, hs⟩
    obtain ⟨ts, hts, -⟩ := tokensOfSource_grammatical filename hr hs
    exact ⟨ts, hts⟩
  · intro r r' hr hs hr' hs'
    have hscan := scan_sentence hr
    rw [hs, ← hs', scan_sentence hr'] at hscan
    have hpieces : r'.pieces = r.pieces := congrArg Scan.pieces hscan
    rw [← Sentence.ofPieces_pieces r, ← Sentence.ofPieces_pieces r', hpieces]
  · intro r hr hs
    exact ⟨Sentence.lexed_ne_eof hr, tokensOfSource_grammatical filename hr hs⟩
  · intro hno
    cases hd : (scan source.toList).dangling with
    | none =>
      have hspell := scan_spells source.toList
      rw [hd] at hspell
      refine absurd ⟨_, isGrammatical_scan source.toList, ?_⟩ hno
      rw [← Sentence.spelling_pieces, Sentence.pieces_ofPieces]
      exact hspell.symm
    | some kind =>
      obtain ⟨r, s, hr, hs, heq, herr⟩ := tokensOfSource_dangling filename hd
      refine ⟨r, kind, s, _, hr, hs, heq, herr, rfl, rfl, ?_⟩
      rw [← Position.after_start]
      rfl

/-- A source whose texts end in `<` and start with `%`, with a marker whose raw part ends in `%` and
one that holds an opener. -/
def hardSentence : Sentence :=
  ⟨⟨['a', '<'], [['%', '>', '<'], ['%', '%']]⟩,
    [(⟨.marker .output, ['%']⟩, ⟨[], []⟩), (⟨.marker .silent, ['>', '<', '%', ' ']⟩, ⟨['<'], [[]]⟩)]⟩

theorem tokensOfSource_hardSentence :
    (hardSentence.IsGrammatical
      ∧ ∃ ts, tokensOfSource none "a<<%%%><<%%%%<%=%%><%><% %><<%%" = .ok ts
        ∧ ts.map Token.lexed
          = [⟨.data, "a<<%%><<%%%"⟩, ⟨.marker .output, "%"⟩, ⟨.marker .silent, "><%"⟩,
              ⟨.data, "<<%"⟩, ⟨.eof, ""⟩])
    ∧ (¬∃ r : Sentence, r.IsGrammatical ∧ r.spelling = "x<%%\n<%| %".toList)
    ∧ ∃ e, tokensOfSource none "x<%%\n<%| %" = .error e ∧ e.fault.code = .unterminatedMarker := by
  have hr : hardSentence.IsGrammatical := by decide
  have hno : ¬∃ r : Sentence, r.IsGrammatical ∧ r.spelling = "x<%%\n<%| %".toList := by
    rintro ⟨r, hr, hs⟩
    have hscan := scan_sentence hr
    rw [hs] at hscan
    have hd : (scan "x<%%\n<%| %".toList).dangling = some (.marker .pipe) := by cbv
    rw [hscan] at hd
    simp at hd
  obtain ⟨-, ts, hts, heq⟩ :=
    (tokensOfSource_iff_grammatical none "a<<%%%><<%%%%<%=%%><%><% %><<%%").2.2.1 hardSentence hr
      (by decide)
  obtain ⟨-, -, -, e, -, -, -, he, -, hcode, -⟩ :=
    (tokensOfSource_iff_grammatical none "x<%%\n<%| %").2.2.2 hno
  exact ⟨⟨hr, ts, hts, heq⟩, hno, e, he, hcode⟩

end Inlay
