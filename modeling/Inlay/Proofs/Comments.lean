/-
  Inlay.Proofs.Comments
  ────────────────────────────────
  **COMMENTS ARE INVISIBLE.**

  A comment on one line can be put anywhere between two halves of a source,
  as long as the first half ends outside of all markers and no opener stands
  across the seam:

      head<%#comment%>tail      is compiled as      headtail

  The comment splits a text in two, and shifts what stands behind it on its
  line.  The parser joins the two texts, and the rest is columns:

      scan_append       — a source is scanned as its halves are
      takeAll_comment   — the tokens of both sources are taken in alike
      comment_invisible — so both have one program, with its code on the same
                          lines, or both are refused with errors of one class
                          and one code on the same line
-/
import Inlay.Proofs.Columns
import Inlay.Proofs.Including
import Inlay.Store

namespace Inlay

open Inlay.Code Inlay.Diagnostic Inlay.Program

/-! ## §1. Scanning two halves. -/

/-- What is cut off at the first end of a marker does not depend on what stands behind it. -/
theorem cutAtEnd_behind {s raw rest : List Char} (h : cutAtEnd s = some (raw, rest))
    (tail : List Char) : cutAtEnd (s ++ tail) = some (raw, rest ++ tail) := by
  rw [cutAtEnd_eq_some h, List.append_assoc]
  exact cutAtEnd_append (rest ++ tail) (cutAtEnd_lacks h)

theorem markerKind_behind {s : List Char} (h : s ≠ []) (tail : List Char) :
    markerKind (s ++ tail) = ((markerKind s).1, (markerKind s).2 ++ tail) := by
  obtain ⟨c, s, rfl⟩ := List.exists_cons_of_ne_nil h
  rw [List.cons_append]
  unfold markerKind
  by_cases hc : c = '=' ∨ c = '|' ∨ c = '#'
  · rcases hc with rfl | rfl | rfl <;> rfl
  · obtain ⟨h₁, h₂, h₃⟩ : c ≠ '=' ∧ c ≠ '|' ∧ c ≠ '#' := by simpa using hc
    simp [h₁, h₂, h₃]

/-- Does an opener stand across the seam of two halves? -/
def IsTorn (head tail : List Char) : Prop := head.getLast? = some '<' ∧ tail.head? = some '%'

instance (head tail : List Char) : Decidable (IsTorn head tail) :=
  inferInstanceAs (Decidable (_ ∧ _))

theorem IsTorn.of_suffix {s head tail : List Char} (h : IsTorn s tail) (hs : s <:+ head) :
    IsTorn head tail := by
  obtain ⟨t, rfl⟩ := hs
  exact ⟨by rw [List.getLast?_append, h.1]; rfl, h.2⟩

/-- **A source is scanned as its halves are**, if the first one ends outside of all markers and no
opener is torn apart. -/
theorem scan_append {head tail : List Char} (h : (scan head).dangling = none)
    (hseam : ¬IsTorn head tail) :
    scan (head ++ tail) = ⟨(scan head).pieces ++ (scan tail).pieces, (scan tail).dangling⟩ := by
  fun_induction scan head with
  | case1 => rfl
  | case2 s ih =>
    have hs : s <:+ '<' :: '%' :: '%' :: s := ⟨['<', '%', '%'], rfl⟩
    rw [List.cons_append, List.cons_append, List.cons_append, scan_escape,
      ih h (fun htorn => hseam (htorn.of_suffix hs))]
    rfl
  | case3 s hne hcut => cases h
  | case4 s hne raw rest hcut ih =>
    have hnil : s ≠ [] := by
      rintro rfl
      cases hcut
    have hs : s.head? ≠ some '%' := by
      intro hd
      obtain ⟨t, rfl⟩ := List.head?_eq_some_iff.1 hd
      exact hne t rfl
    have hkind := markerKind_behind hnil tail
    have hcut' : cutAtEnd (markerKind (s ++ tail)).2 = some (raw, rest ++ tail) := by
      rw [hkind]
      exact cutAtEnd_behind hcut tail
    have hs' : (s ++ tail).head? ≠ some '%' := by
      rwa [List.head?_append_of_ne_nil _ hnil]
    have hrest : rest <:+ '<' :: '%' :: s := by
      have hcode : (markerKind s).2 <:+ s := ⟨_, markerKind_spells s⟩
      have hcutRest : rest <:+ (markerKind s).2 := by
        rw [cutAtEnd_eq_some hcut]
        exact (List.suffix_cons _ _).trans ((List.suffix_cons _ _).trans (List.suffix_append _ _))
      exact hcutRest.trans (hcode.trans ((List.suffix_cons _ _).trans (List.suffix_cons _ _)))
    rw [List.cons_append, List.cons_append, scan_marker hs' hcut', hkind,
      ih h (fun htorn => hseam (htorn.of_suffix hrest))]
    rfl
  | case5 c s h₁ h₂ ih =>
    have hc : ¬(c = '<' ∧ (s ++ tail).head? = some '%') := by
      rintro ⟨rfl, hd⟩
      cases s with
      | nil => exact hseam ⟨rfl, hd⟩
      | cons d t =>
        obtain rfl : d = '%' := Option.some.inj hd
        exact h₂ t rfl rfl
    rw [List.cons_append, scan_char hc,
      ih h (fun htorn => hseam (htorn.of_suffix (List.suffix_cons c s)))]
    rfl

/-! ## §2. The tokens around a comment. -/

theorem Position.flush_next {p q : Position} (h : p.flush = q.flush) (c : Char) :
    (p.next c).flush = (q.next c).flush := by
  have hline : p.line = q.line := (Position.mk.inj h).1
  unfold next
  split <;> simp [flush, hline]

theorem Position.flush_after {p q : Position} (h : p.flush = q.flush) (s : List Char) :
    (p.after s).flush = (q.after s).flush := by
  induction s generalizing p q with
  | nil => exact h
  | cons c s ih => exact ih (flush_next h c)

/-- On its line, a text without newlines leads nowhere. -/
theorem Position.flush_after_line {s : List Char} (h : '\n' ∉ s) (p : Position) :
    (p.after s).flush = p.flush := by
  induction s generalizing p with
  | nil => rfl
  | cons c s ih =>
    obtain ⟨hc, hs⟩ := List.ne_and_not_mem_of_not_mem_cons h
    refine (ih hs (p.next c)).trans ?_
    rw [next, if_neg (Ne.symm hc)]
    rfl

theorem dataToken_flush {p q : Position} (h : p.flush = q.flush) (text : List Char) :
    (dataToken p text).map Token.flush = (dataToken q text).map Token.flush := by
  unfold dataToken
  split
  · rfl
  · simp [Token.flush, h]

/-- Where tokens start on their lines depends on where the source starts on its line. -/
theorem tokensOf_flush {start start' here here' : Position} (hstart : start.flush = start'.flush)
    (hhere : here.flush = here'.flush) (text : List Char) (ps : List Piece) :
    (tokensOf start here text ps).map Token.flush
      = (tokensOf start' here' text ps).map Token.flush := by
  induction ps generalizing start start' here here' text with
  | nil =>
    simp only [tokensOf, List.map_append, dataToken_flush hstart]
    simp [Token.flush, hhere]
  | cons p ps ih =>
    cases p with
    | char c => exact ih hstart (Position.flush_next hhere c) _
    | escape => exact ih hstart (Position.flush_after hhere _) _
    | marker kind raw =>
      have hnext := Position.flush_after hhere (Piece.marker kind raw).spelling
      simp only [tokensOf, List.map_append, List.map_cons, dataToken_flush hstart, ih hnext hnext]
      simp [Token.flush, hhere]

/-- Two texts are put behind a body as one. -/
theorem appendText_appendText (p q : Position) (v w : String) (ns : List (Node Unit)) :
    appendText p w (appendText q v ns) = appendText q (v ++ w) ns := by
  by_cases h : endsInText ns = true
  · rcases List.eq_nil_or_concat ns with rfl | ⟨ns, n, rfl⟩
    · cases h
    · rw [List.concat_eq_append, endsInText_snoc] at h
      cases n with
      | text r u =>
        rw [List.concat_eq_append, appendText_snoc, appendText_snoc, appendText_snoc,
          String.append_assoc]
      | expr m => cases h
      | block m cs => cases h
  · rw [Bool.not_eq_true] at h
    rw [appendText_of_not_endsInText h, appendText_of_not_endsInText h, appendText_snoc]

namespace Builder

theorem takeAll_append_congr {ts ts' : List Token} (h : ∀ b : Builder, b.takeAll ts = b.takeAll ts')
    (before : List Token) (b : Builder) : b.takeAll (before ++ ts) = b.takeAll (before ++ ts') := by
  induction before generalizing b with
  | nil => exact h b
  | cons t before ih =>
    rw [List.cons_append, List.cons_append, takeAll, takeAll]
    cases t.kind with
    | eof => rfl
    | comment => exact ih b
    | data => exact ih _
    | marker kind =>
      dsimp only
      cases b.takeMarker kind t with
      | error e => rfl
      | ok b => exact ih b

/-- A text that is taken in in two parts is taken in as a whole. -/
theorem takeAll_dataTokens {start p : Position} {text : List Char}
    (h : text = [] → start.flush = p.flush) (u : List Char) (ts : List Token) (b : Builder) :
    b.takeAll ((dataToken start text).map Token.flush ++ ((dataToken p u).map Token.flush ++ ts)) =
      b.takeAll ((dataToken start (u ++ text)).map Token.flush ++ ts) := by
  by_cases htext : text = []
  · rw [htext, List.append_nil, dataToken_flush (h htext) u]
    rfl
  by_cases hu : u = []
  · rw [hu]
    rfl
  have hne : ∀ {s : List Char}, s ≠ [] → ∀ q,
      dataToken q s = [⟨.data, String.ofList s.reverse, q⟩] := by
    intro s hs q
    exact if_neg (by simpa using hs)
  rw [hne htext, hne hu, hne (by simp [htext])]
  show b.takeAll (⟨.data, _, _⟩ :: ⟨.data, _, _⟩ :: ts) = b.takeAll (⟨.data, _, _⟩ :: ts)
  rw [takeAll_text, takeAll_text, takeAll_text, mapBody_mapBody]
  refine congrArg (fun b : Builder => b.takeAll ts) (mapBody_congr ?_)
  rw [appendText_appendText, List.reverse_append, String.ofList_append]

/-- Text is taken in alike whether it was cut once, in front of what follows, or not at all. -/
theorem takeAll_cut {start p here here' : Position} {text : List Char}
    (h : text = [] → start.flush = p.flush) (hhere : here.flush = here'.flush) (u : List Char)
    (ps : List Piece) (b : Builder) :
    b.takeAll ((dataToken start text ++ tokensOf p here' u ps).map Token.flush) =
      b.takeAll ((tokensOf start here (u ++ text) ps).map Token.flush) := by
  induction ps generalizing here here' u with
  | nil =>
    have hlast : ([⟨.eof, "", here'⟩] : List Token).map Token.flush =
        ([⟨.eof, "", here⟩] : List Token).map Token.flush := by simp [Token.flush, hhere]
    simp only [tokensOf, List.map_append, hlast]
    exact takeAll_dataTokens h u _ b
  | cons piece ps ih =>
    cases piece with
    | char c => exact ih (Position.flush_next hhere c) (c :: u)
    | escape => exact ih (Position.flush_after hhere _) ('%' :: '<' :: u)
    | marker kind raw =>
      have hnext := Position.flush_after hhere.symm (Piece.marker kind raw).spelling
      have hmarker : Token.flush ⟨kind, String.ofList (trimSpacing raw), here'⟩ =
          Token.flush ⟨kind, String.ofList (trimSpacing raw), here⟩ := by simp [Token.flush, hhere]
      simp only [tokensOf, List.map_append, List.map_cons, tokensOf_flush hnext hnext, hmarker]
      exact takeAll_dataTokens h u _ b

/-- **The tokens of a source are taken in as if its comments on one line were not there.** -/
theorem takeAll_comment {comment : List Char} (hline : '\n' ∉ comment) (before after : List Piece)
    {start here : Position} {text : List Char} (h : text = [] → start.flush = here.flush)
    (b : Builder) :
    b.takeAll ((tokensOf start here text (before ++ .marker .comment comment :: after)).map
        Token.flush) =
      b.takeAll ((tokensOf start here text (before ++ after)).map Token.flush) := by
  induction before generalizing start here text b with
  | nil =>
    have hnext := Position.flush_after_line (s := (Piece.marker .comment comment).spelling)
      (by simpa [Piece.spelling, TokenKind.sigil] using hline) here
    have hcut := takeAll_cut (b := b) (p := here.after (Piece.marker .comment comment).spelling)
      (fun htext => (h htext).trans hnext.symm) hnext.symm [] after
    rw [List.nil_append] at hcut
    rw [List.nil_append, List.nil_append, ← hcut, tokensOf, List.map_append, List.map_append]
    -- the comment itself is passed over
    exact takeAll_append_congr (fun _ => by rw [List.map_cons, takeAll]; rfl) _ b
  | cons piece before ih =>
    cases piece with
    | char c => exact ih (fun hnil => absurd hnil (List.cons_ne_nil _ _)) b
    | escape => exact ih (fun hnil => absurd hnil (List.cons_ne_nil _ _)) b
    | marker kind raw =>
      rw [List.cons_append, List.cons_append, tokensOf, tokensOf, List.map_append, List.map_append,
        List.map_cons, List.map_cons]
      refine takeAll_append_congr (fun b => ?_) _ b
      exact takeAll_append_congr (fun b => ih (fun _ => rfl) b) [_] b

end Builder

/-! ## §3. Sources with and without a comment. -/

/-- Two halves of a source with a comment between them. -/
def commented (head comment tail : String) : String := head ++ "<%#" ++ comment ++ "%>" ++ tail

/-- Two halves of a source that a comment on one line can be put between. -/
structure CanComment (head comment tail : String) : Prop where
  complete : ∃ tokens, tokenize head = .ok tokens
  seam : ¬IsTorn head.toList tail.toList
  oneLine : '\n' ∉ comment.toList
  lacksEnd : Inlay.lacksEnd comment = true

section Sources

variable {head comment tail : String}

theorem CanComment.dangling (h : CanComment head comment tail) :
    (scan head.toList).dangling = none := by
  obtain ⟨tokens, htokens⟩ := h.complete
  exact (tokenize_ok_iff.1 htokens).1

theorem CanComment.scan_join (h : CanComment head comment tail) :
    scan (head ++ tail).toList =
      ⟨(scan head.toList).pieces ++ (scan tail.toList).pieces, (scan tail.toList).dangling⟩ := by
  rw [String.toList_append]
  exact scan_append h.dangling h.seam

theorem CanComment.scan_commented (h : CanComment head comment tail) :
    scan (commented head comment tail).toList =
      ⟨(scan head.toList).pieces ++ .marker .comment comment.toList :: (scan tail.toList).pieces,
        (scan tail.toList).dangling⟩ := by
  have htag : (⟨.comment, comment.toList⟩ : Tag).IsGrammatical := by
    refine ⟨?_, trivial, fun hk => by cases hk⟩
    simpa [Inlay.lacksEnd] using h.lacksEnd
  have hsource : (commented head comment tail).toList =
      head.toList ++ ((⟨.comment, comment.toList⟩ : Tag).spelling ++ tail.toList) := by
    simp [commented, Tag.spelling, TokenKind.sigil]
  have hseam : ¬IsTorn head.toList
      ((⟨.comment, comment.toList⟩ : Tag).spelling ++ tail.toList) := fun htorn => by
    cases htorn.2
  rw [hsource, scan_append h.dangling hseam, scan_tag _ htag]
  rfl

/-- Openers without an end are found on one line. -/
theorem CanComment.placeAfter_flush (h : CanComment head comment tail) (before after : List Piece) :
    (placeAfter .start (before ++ .marker .comment comment.toList :: after)).flush =
      (placeAfter .start (before ++ after)).flush := by
  unfold placeAfter
  rw [List.flatMap_append, List.flatMap_append, List.flatMap_cons, Position.after_append,
    Position.after_append, Position.after_append]
  refine Position.flush_after (Position.flush_after_line ?_ _) _
  simpa [Piece.spelling, TokenKind.sigil] using h.oneLine

/-- **A comment is invisible in the tree of a source**, but for columns: without it, there is the
same tree, or the same fault on the same line. -/
theorem CanComment.treeOfSource_flush (h : CanComment head comment tail)
    (name filename source source' : Option String) :
    (∃ t t', treeOfSource ⟨name, filename, source⟩ (commented head comment tail) = .ok t
        ∧ treeOfSource ⟨name, filename, source'⟩ (head ++ tail) = .ok t' ∧ t.flush = t'.flush)
      ∨ ∃ r r', treeOfSource ⟨name, filename, source⟩ (commented head comment tail) = .error r
        ∧ treeOfSource ⟨name, filename, source'⟩ (head ++ tail) = .error r'
        ∧ (Report.malformed r).errorClass = (Report.malformed r').errorClass
        ∧ r.fault = r'.fault ∧ r.line = r'.line := by
  unfold treeOfSource tokensOfSource tokenize
  rw [h.scan_commented, h.scan_join]
  dsimp only
  cases (scan tail.toList).dangling with
  | some kind =>
    have hplace := h.placeAfter_flush (scan head.toList).pieces (scan tail.toList).pieces
    exact Or.inr ⟨_, _, rfl, rfl, rfl, rfl, congrArg some (Position.mk.inj hplace).1⟩
  | none =>
    have hparse : parse name ((tokensOf .start .start [] ((scan head.toList).pieces
          ++ .marker .comment comment.toList :: (scan tail.toList).pieces)).map Token.flush) =
        parse name ((tokensOf .start .start []
          ((scan head.toList).pieces ++ (scan tail.toList).pieces)).map Token.flush) := by
      unfold parse parseBody
      rw [Builder.takeAll_comment h.oneLine _ _ (fun _ => rfl)]
    rw [parse_flush, parse_flush] at hparse
    rcases outcomes_of_map_eq hparse with ⟨t, t', ht, ht', heq⟩ | ⟨f, f', hf, hf', heq⟩
    · exact Or.inl ⟨t, t', congrArg (Except.mapError (tokenReport _)) ht,
        congrArg (Except.mapError (tokenReport _)) ht', heq⟩
    · obtain ⟨hfault, htoken⟩ := ParseFault.mk.inj heq
      have hline : f.token.position.line = f'.token.position.line :=
        (Position.mk.inj (congrArg Token.position htoken)).1
      exact Or.inr ⟨_, _, congrArg (Except.mapError (tokenReport _)) hf,
        congrArg (Except.mapError (tokenReport _)) hf', rfl, hfault, congrArg some hline⟩

end Sources

/-! ## §4. Programs with and without a comment. -/

/-- Is a source compiled to a program, whose code stands in some regions? -/
structure IsCompiledTo (o : Origin) (source : String) (program : List Stmt)
    (regions : List Region) : Prop where
  compiles : programOfSource o source = .ok program
  standsIn : ∃ t, treeOfSource o source = .ok t
    ∧ templateStmts (Indent.resolve t) = .ok (program, regions)

/-- The line that is at fault, as far as it is reported. -/
def Program.CompileFault.line? : CompileFault → Option Int
  | .reported r => r.line
  | .refused _ => none

/-- Do two faults give rise to errors of one class and one code on one line? -/
structure Program.CompileFault.IsLike (f f' : CompileFault) : Prop where
  cls : (compileExc f).cls = (compileExc f').cls
  code : (compileExc f).report.bind Report.code = (compileExc f').report.bind Report.code
  line : f.line? = f'.line?
  /-- What has no report is refused for one reason. -/
  refusal : ∀ r, f = .refused r ↔ f' = .refused r

theorem isLike_reported {r r' : Malformed}
    (hcls : (Report.malformed r).errorClass = (Report.malformed r').errorClass)
    (hfault : r.fault = r'.fault) (hline : r.line = r'.line) :
    (CompileFault.reported r).IsLike (.reported r') where
  cls := hcls
  code := by
    show some r.fault.code = some r'.fault.code
    rw [hfault]
  line := hline
  refusal := fun _ => ⟨fun h => (by cases h), fun h => (by cases h)⟩

theorem isLike_toCompileFault {r r' : Refusal} (h : r.flush = r'.flush) (o o' : Origin) :
    (r.toCompileFault o).IsLike (r'.toCompileFault o') := by
  rcases Refusal.eq_or_of_flush_eq h with rfl | ⟨f, p, p', rfl, rfl, hline⟩
  · cases r with
    | faulty f p => exact isLike_reported rfl rfl rfl
    | _ => exact ⟨rfl, rfl, rfl, fun _ => Iff.rfl⟩
  · exact isLike_reported rfl rfl (congrArg some hline)

/-- **Comments are invisible.**  A comment on one line between two halves of a source changes
nothing: with it and without it, the source has one program with its code on the same lines, or is
refused with an error of one class and code on the same line. -/
theorem comment_invisible {head comment tail : String} (h : CanComment head comment tail)
    (name filename source source' : Option String) :
    (∃ program regions,
        IsCompiledTo ⟨name, filename, source⟩ (commented head comment tail) program regions
        ∧ IsCompiledTo ⟨name, filename, source'⟩ (head ++ tail) program regions)
      ∨ ∃ f f', programOfSource ⟨name, filename, source⟩ (commented head comment tail) = .error f
        ∧ programOfSource ⟨name, filename, source'⟩ (head ++ tail) = .error f' ∧ f.IsLike f' := by
  rcases h.treeOfSource_flush name filename source source' with
    ⟨t, t', ht, ht', hflush⟩ | ⟨r, r', hr, hr', hcls, hfault, hline⟩
  · rcases build_of_flush_eq hflush with
      ⟨program, regions, ⟨hbuild, hbuild'⟩, hstmts, hstmts'⟩ | ⟨r, r', hr, hr', heq⟩
    · refine Or.inl ⟨program, regions, ⟨?_, t, ht, hstmts⟩, ⟨?_, t', ht', hstmts'⟩⟩
      · exact (programOfSource_of_tree ht).trans (congrArg (Except.mapError _) hbuild)
      · exact (programOfSource_of_tree ht').trans (congrArg (Except.mapError _) hbuild')
    · exact Or.inr ⟨_, _, (programOfSource_of_tree ht).trans (congrArg (Except.mapError _) hr),
        (programOfSource_of_tree ht').trans (congrArg (Except.mapError _) hr'),
        isLike_toCompileFault heq _ _⟩
  · exact Or.inr ⟨.reported r, .reported r', programOfSource_of_malformed hr,
      programOfSource_of_malformed hr', isLike_reported hcls hfault hline⟩

theorem comment_invisible_inText : CanComment "x<" "%<%| end" "\n%> y" ∧
    ∃ program regions, IsCompiledTo {} "x<<%#%<%| end%>\n%> y" program regions
      ∧ IsCompiledTo {} "x<\n%> y" program regions := by
  have hhead : ∃ tokens, tokenize "x<" = .ok tokens := by
    refine ⟨[⟨.data, "x<", .start⟩, ⟨.eof, "", ⟨1, 2⟩⟩], ?_⟩
    cbv
  have h : CanComment "x<" "%<%| end" "\n%> y" := ⟨hhead, by decide, by decide, by decide⟩
  refine ⟨h, ?_⟩
  have hplain : IsPlain "x<\n%> y".toList ∧ 1 + ("x<\n%> y".length : Int) < lineLimit := by decide
  obtain ⟨-, program, -, -, -, -, hprogram⟩ := programOfSource_text hplain.1 hplain.2 {}
  rcases comment_invisible h none none none none with hcompiled | ⟨-, f', -, hf', -⟩
  · exact hcompiled
  · rw [show "x<" ++ "\n%> y" = "x<\n%> y" from rfl] at hf'
    cases hf'.symm.trans hprogram

end Inlay
