/-
  Inlay.Proofs.Offsets
  ────────────────────────────────
  **WHERE TOKENS BEGIN.**

  The tokens of a source take it up from its start to its end, each of them a
  stretch of it, and the position of a token is the place of the offset at
  which its stretch begins:

      line    — one more than the newlines in front of the offset
      column  — the characters between the last of these, or the start of the
                source, and the offset

  The scanner moves its position over each piece that it reads.  So what has
  to be seen is that every piece belongs to the stretch of exactly one token.
-/
import Inlay.Proofs.Grammar

namespace Inlay

open Inlay.Diagnostic Inlay.Program

/-! ## §1. Places and stretches. -/

/-- The place of an offset in a source. -/
def placeOf (source : List Char) (offset : Nat) : Position :=
  ⟨1 + (source.take offset).count '\n',
    ((source.take offset).reverse.takeWhile (· ≠ '\n')).length⟩

/-- Is a token what is read from a stretch of a source? -/
def Token.IsReadFrom (t : Token) (s : List Char) : Prop :=
  match t.kind with
  | .data => ∃ x : Passage, x.IsGrammatical ∧ x.spelling = s ∧ s ≠ []
      ∧ t.value = String.ofList x.reading
  | .eof => s = [] ∧ t.value = ""
  | kind => ∃ m : Tag, m.kind = kind ∧ m.IsGrammatical ∧ m.spelling = s
      ∧ t.value = String.ofList m.code

/-- The offsets at which stretches begin that stand one behind the other. -/
def offsetsFrom (start : Nat) : List (List Char) → List Nat
  | [] => []
  | s :: ss => start :: offsetsFrom (start + s.length) ss

/-- Do tokens stand one behind the other from a place on, up to the end of the source, each of them
read from its stretch? -/
inductive Stand : Position → List Token → List (List Char) → Prop where
  | eof (p : Position) : Stand p [⟨.eof, "", p⟩] [[]]
  | next {p : Position} {t : Token} {s : List Char} {ts : List Token} {ss : List (List Char)}
      (hp : t.position = p) (ht : t.IsReadFrom s) (hs : s ≠ []) (h : Stand (p.after s) ts ss) :
      Stand p (t :: ts) (s :: ss)

theorem placeOf_eq_after (source : List Char) (offset : Nat) :
    placeOf source offset = Position.start.after (source.take offset) :=
  (Position.after_start _).symm

/-! ## §2. The tokens of a source stand one behind the other. -/

theorem Tag.spelling_ne_nil (m : Tag) : m.spelling ≠ [] := List.cons_ne_nil _ _

/-- The token of a marker is read from the marker. -/
theorem Tag.isReadFrom {m : Tag} (h : m.IsGrammatical) (p : Position) :
    Token.IsReadFrom ⟨m.kind, String.ofList (trimSpacing m.raw), p⟩ m.spelling := by
  have hcode := trimSpacing_eq_code m
  obtain ⟨kind, raw⟩ := m
  have hfollows := h.2.1
  cases kind with
  | data => exact absurd hfollows id
  | eof => exact absurd hfollows id
  | comment => exact ⟨_, rfl, h, rfl, congrArg String.ofList hcode⟩
  | marker kind => exact ⟨_, rfl, h, rfl, congrArg String.ofList hcode⟩

/-- What is neither a text nor the end of the source is read from a marker. -/
theorem Token.IsReadFrom.exists_tag {t : Token} {s : List Char} (h : t.IsReadFrom s)
    (hdata : t.kind ≠ .data) (heof : t.kind ≠ .eof) : ∃ m : Tag, m.spelling = s := by
  unfold IsReadFrom at h
  split at h
  · rename_i hk
    exact absurd hk hdata
  · rename_i hk
    exact absurd hk heof
  · obtain ⟨m, -, -, hspelling, -⟩ := h
    exact ⟨m, hspelling⟩

/-- A text in front of tokens is a token in front of them, or nothing. -/
theorem Stand.passage {x : Passage} (h : x.IsGrammatical) {p : Position} {ts : List Token}
    {ss : List (List Char)} (hstand : Stand (p.after x.spelling) ts ss) :
    ∃ ss', Stand p (dataToken p (x.reading.reverse ++ []) ++ ts) ss'
      ∧ ss'.flatten = x.spelling ++ ss.flatten := by
  unfold dataToken
  rw [List.append_nil, List.isEmpty_reverse, List.reverse_reverse]
  by_cases hempty : x.spelling = []
  · rw [if_pos (by rw [Passage.reading_eq_nil.2 hempty]; rfl)]
    rw [hempty] at hstand ⊢
    exact ⟨ss, hstand, rfl⟩
  · have hread : x.reading ≠ [] := fun hnil => hempty (Passage.reading_eq_nil.1 hnil)
    rw [if_neg (by rwa [List.isEmpty_iff])]
    exact ⟨x.spelling :: ss, .next rfl ⟨x, h, rfl, hempty, rfl⟩ hempty hstand, List.flatten_cons⟩

/-- **Tokens take up the source.**  By induction on the markers: each one ends the text in front of
it and starts the text behind it. -/
theorem stand_sentence {r : Sentence} (h : r.IsGrammatical) (p : Position) :
    ∃ ss, Stand p (tokensOf p p [] r.pieces) ss ∧ ss.flatten = r.spelling := by
  obtain ⟨opening, rest⟩ := r
  obtain ⟨hopening, hrest⟩ := h
  induction rest generalizing opening p with
  | nil =>
    obtain ⟨ss, hstand, hflatten⟩ := (Stand.eof (p.after opening.spelling)).passage hopening
    have htokens := tokensOf_passage opening p p [] []
    rw [List.append_nil, tokensOf] at htokens
    refine ⟨ss, ?_, by simpa [Sentence.spelling] using hflatten⟩
    rw [Sentence.pieces, List.flatMap_nil, List.append_nil, htokens]
    exact hstand
  | cons mx rest ih =>
    obtain ⟨m, x⟩ := mx
    obtain ⟨⟨hm, hx⟩, hrest⟩ := List.forall_mem_cons.1 hrest
    obtain ⟨ss, hstand, hflatten⟩ := ih ((p.after opening.spelling).after m.spelling) x hx hrest
    have hmarker := Stand.next (t := ⟨m.kind, String.ofList (trimSpacing m.raw),
      p.after opening.spelling⟩) rfl (m.isReadFrom hm _) m.spelling_ne_nil hstand
    obtain ⟨ss', hstand', hflatten'⟩ := hmarker.passage hopening
    refine ⟨ss', ?_, ?_⟩
    · have hpieces : Sentence.pieces ⟨opening, (m, x) :: rest⟩
          = opening.pieces ++ .marker m.kind m.raw :: Sentence.pieces ⟨x, rest⟩ := rfl
      rw [hpieces, tokensOf_passage, tokensOf]
      exact hstand'
    · rw [hflatten', List.flatten_cons, hflatten]
      simp [Sentence.spelling]

/-! ## §3. Offsets. -/

namespace Stand

variable {p : Position} {ts : List Token} {ss : List (List Char)}

theorem isReadFrom (h : Stand p ts ss) : List.Forall₂ Token.IsReadFrom ts ss := by
  induction h with
  | eof p => exact .cons ⟨rfl, rfl⟩ .nil
  | next hp ht hs h ih => exact .cons ht ih

/-- A token stands where the text in front of its stretch ends. -/
theorem position_of_mem (h : Stand p ts ss) {t : Token} (ht : t ∈ ts) :
    ∃ before s behind, ss.flatten = before ++ (s ++ behind) ∧ t.IsReadFrom s
      ∧ t.position = p.after before := by
  induction h with
  | eof p =>
    obtain rfl := List.mem_singleton.1 ht
    exact ⟨[], [], [], rfl, ⟨rfl, rfl⟩, rfl⟩
  | @next p u s ts ss hp hu hs h ih =>
    rcases List.mem_cons.1 ht with rfl | ht
    · exact ⟨[], s, ss.flatten, rfl, hu, hp⟩
    · obtain ⟨before, s', behind, hflatten, hread, hposition⟩ := ih ht
      refine ⟨s ++ before, s', behind, ?_, hread, ?_⟩
      · rw [List.flatten_cons, hflatten, List.append_assoc]
      · rw [hposition, Position.after_append]

/-- Behind a text at the start of a source, the positions are the places of the offsets. -/
theorem positions (h : Stand p ts ss) (front : List Char) (hp : p = Position.start.after front) :
    ts.map (·.position)
      = (offsetsFrom front.length ss).map (placeOf (front ++ ss.flatten)) := by
  have hplace : ∀ back, placeOf (front ++ back) front.length = Position.start.after front :=
    fun back => by rw [placeOf_eq_after, List.take_left]
  -- on the tokens, with the text that the ones in front of them take up
  induction h generalizing front with
  | eof p =>
    show [p] = [placeOf (front ++ ([] ++ [])) front.length]
    rw [hplace, hp]
  | @next p t s ts ss ht hread hs h ih =>
    have hrest := ih (front ++ s) (by rw [hp, Position.after_append])
      (fun back => by rw [placeOf_eq_after, List.take_left])
    rw [List.map_cons, hrest, offsetsFrom, List.map_cons, List.flatten_cons, List.length_append,
      List.append_assoc, hplace, ht, hp]

theorem le_of_mem_offsetsFrom {start k : Nat} (h : k ∈ offsetsFrom start ss) : start ≤ k := by
  induction ss generalizing start with
  | nil => exact absurd h List.not_mem_nil
  | cons s ss ih =>
    rcases List.mem_cons.1 h with rfl | h
    · exact Nat.le_refl _
    · have := ih h
      omega

/-- Only the stretch of the end of the source is empty, so each token begins behind the last one. -/
theorem offsets_increase (h : Stand p ts ss) (start : Nat) :
    (offsetsFrom start ss).Pairwise (· < ·) := by
  induction h generalizing start with
  | eof p => exact List.pairwise_singleton _ _
  | next ht hread hs h ih =>
    refine List.pairwise_cons.2 ⟨fun k hk => ?_, ih _⟩
    have hle := le_of_mem_offsetsFrom hk
    have hpos := List.length_pos_iff.2 hs
    omega

end Stand

/-! ## §4. The tokens of a source. -/

theorem stand_of_tokenize {source : String} {tokens : List Token}
    (h : tokenize source = .ok tokens) :
    ∃ ss, Stand .start tokens ss ∧ ss.flatten = source.toList := by
  obtain ⟨rfl, hspells⟩ := pieces_of_tokenize h
  obtain ⟨ss, hstand, hflatten⟩ := stand_sentence (isGrammatical_scan source.toList) .start
  rw [Sentence.pieces_ofPieces] at hstand
  refine ⟨ss, hstand, ?_⟩
  rw [hflatten, ← Sentence.spelling_pieces, Sentence.pieces_ofPieces, ← hspells]

/-- **WHERE TOKENS BEGIN.**  The tokens of a source take it up stretch by stretch, in its order and
to its end, and stand at the places of the offsets where their stretches begin.  The token of an
opener without an end stands at the place of the opener: all that is in front of it has tokens, and
behind it nothing closes it. -/
theorem tokensOfSource_offsets (filename : Option String) (source : String) :
    (∀ tokens, tokensOfSource filename source = .ok tokens →
      ∃ stretches : List (List Char), stretches.flatten = source.toList
        ∧ List.Forall₂ Token.IsReadFrom tokens stretches
        ∧ (offsetsFrom 0 stretches).Pairwise (· < ·)
        ∧ tokens.map (·.position) = (offsetsFrom 0 stretches).map (placeOf source.toList))
    ∧ ∀ e, tokensOfSource filename source = .error e →
      (Report.malformed e).errorClass = .templateMarker
      ∧ ∃ (t : Token) (offset : Nat) (s : List Char), e.anchor = .marker t
        ∧ e.line = some t.position.line ∧ e.column = some t.position.column
        ∧ t.position = placeOf source.toList offset
        ∧ source.toList.drop offset = '<' :: '%' :: (t.kind.sigil ++ s) ∧ IsDangling t.kind s
        ∧ ∃ tokens, tokensOfSource filename (String.ofList (source.toList.take offset))
            = .ok tokens := by
  constructor
  · intro tokens h
    have htokens : tokenize source = .ok tokens := by
      unfold tokensOfSource at h
      cases htokenize : tokenize source with
      | error u =>
        rw [htokenize] at h
        exact nomatch h
      | ok ts =>
        rw [htokenize] at h
        exact congrArg Except.ok (Except.ok.inj h)
    obtain ⟨stretches, hstand, hflatten⟩ := stand_of_tokenize htokens
    have hpositions := hstand.positions [] rfl
    rw [List.nil_append, hflatten] at hpositions
    exact ⟨stretches, hflatten, hstand.isReadFrom, hstand.offsets_increase 0, hpositions⟩
  · intro e h
    cases hd : (scan source.toList).dangling with
    | none =>
      have htokens := tokenize_ok_iff.2 ⟨hd, rfl⟩
      unfold tokensOfSource at h
      rw [htokens] at h
      exact nomatch h
    | some kind =>
      -- what stands in front of the opener is grammatical, so it has tokens of its own
      obtain ⟨r, s, hr, hs, hsource, herror⟩ := tokensOfSource_dangling filename hd
      obtain rfl := Except.error.inj (herror.symm.trans h)
      refine ⟨rfl, _, r.spelling.length, s, rfl, rfl, rfl, ?_, ?_, hs, ?_⟩
      · rw [hsource, placeOf_eq_after, List.take_left]
      · rw [hsource, List.drop_left]
      · have hspelling : r.spelling = (String.ofList r.spelling).toList :=
          String.toList_ofList.symm
        obtain ⟨ts, hts, -⟩ := tokensOfSource_grammatical filename hr hspelling
        rw [hsource, List.take_left]
        exact ⟨ts, hts⟩

/-- A source with an escape in its text, a newline in its comment, and a text that begins in the
middle of a line. -/
def commentedSource : String := "a<%%\n<%# b\n %>c"

/-- The tokens of this source. -/
def commentedTokens : List Token :=
  [⟨.data, "a<%\n", ⟨1, 0⟩⟩, ⟨.comment, "b\n", ⟨2, 0⟩⟩, ⟨.data, "c", ⟨3, 3⟩⟩, ⟨.eof, "", ⟨3, 4⟩⟩]

theorem tokenize_commentedSource : tokenize commentedSource = .ok commentedTokens := by
  have hscan := scan_sentence (r := ⟨⟨['a'], [['\n']]⟩, [(⟨.comment, [' ', 'b', '\n', ' ']⟩,
    ⟨['c'], []⟩)]⟩) (by decide)
  have hspelling : commentedSource.toList = Sentence.spelling ⟨⟨['a'], [['\n']]⟩,
    [(⟨.comment, [' ', 'b', '\n', ' ']⟩, ⟨['c'], []⟩)]⟩ := by decide
  refine tokenize_ok_iff.2 ⟨by rw [hspelling, hscan], ?_⟩
  rw [hspelling, hscan]
  decide

/-- The tokens of one source, and the opener of another one, on the third line behind two blanks. -/
theorem tokensOfSource_offsets_severalLines :
    (∃ stretches : List (List Char), stretches.flatten = commentedSource.toList
        ∧ List.Forall₂ Token.IsReadFrom commentedTokens stretches
        ∧ (offsetsFrom 0 stretches).Pairwise (· < ·)
        ∧ commentedTokens.map (·.position)
          = (offsetsFrom 0 stretches).map (placeOf commentedSource.toList))
      ∧ ∃ (t : Token) (offset : Nat) (s : List Char), t.position = ⟨3, 2⟩
        ∧ t.position = placeOf "<% a %>\n\n  <%| b".toList offset
        ∧ "<% a %>\n\n  <%| b".toList.drop offset = '<' :: '%' :: (t.kind.sigil ++ s)
        ∧ IsDangling t.kind s := by
  have hscan : scan "<% a %>\n\n  <%| b".toList = ⟨[.marker (.marker .silent) [' ', 'a', ' '],
      .char '\n', .char '\n', .char ' ', .char ' '], some (.marker .pipe)⟩ := by
    have hchars : "<% a %>\n\n  <%| b".toList
        = '<' :: '%' :: " a %>\n\n  <%| b".toList := by decide
    have hcut : cutAtEnd (markerKind " a %>\n\n  <%| b".toList).2
        = some ([' ', 'a', ' '], ['\n', '\n', ' ', ' ', '<', '%', '|', ' ', 'b']) := by decide
    have hdangling : scan ['<', '%', '|', ' ', 'b'] = ⟨[], some (.marker .pipe)⟩ := by
      unfold scan
      rfl
    rw [hchars, scan_marker (by decide) hcut, scan_char (by decide), scan_char (by decide),
      scan_char (by decide), scan_char (by decide), hdangling]
    decide
  have herror : tokensOfSource none "<% a %>\n\n  <%| b" = .error (markerReport none
      "<% a %>\n\n  <%| b" ⟨"<%|", ⟨.marker .pipe, "", ⟨3, 2⟩⟩⟩) := by
    unfold tokensOfSource tokenize
    rw [hscan]
    rfl
  refine ⟨(tokensOfSource_offsets none commentedSource).1 commentedTokens ?_, ?_⟩
  · unfold tokensOfSource
    rw [tokenize_commentedSource]
    rfl
  · obtain ⟨-, t, offset, s, hanchor, -, -, hplace, hopener, hdangling, -⟩ :=
      (tokensOfSource_offsets none "<% a %>\n\n  <%| b").2 _ herror
    obtain rfl := Anchor.marker.inj hanchor
    exact ⟨_, offset, s, rfl, hplace, hopener, hdangling⟩

end Inlay
