/-
  Inlay.Proofs.Complete
  ────────────────────────────────
  **A COMPLETE STATEMENT IS NO HEADER.**

  Code is taken for a header by its first word and its last character.  No
  statement ends in a colon, so the last character of code that is complete
  by itself is one only where the code ends in a comment; all other complete
  code is kept as it is, whatever word it starts with:

      endsInComment_of_getLast? — complete code that ends in a colon
      complete_isKept           — complete code is kept as a plain statement
-/
import Inlay.Proofs.Assembling
import Inlay.Proofs.Remarks
import Inlay.Tree.Parse
import Mathlib.Data.List.Basic

namespace Inlay.Text

/-! ## §1. The last character. -/

theorem length_commonStart_le (s t : List Char) :
    (commonStart s t).length ≤ s.length ∧ (commonStart s t).length ≤ t.length := by
  fun_induction commonStart s t with
  | case1 a s t ih => exact ⟨Nat.succ_le_succ ih.1, Nat.succ_le_succ ih.2⟩
  | case2 => exact ⟨Nat.zero_le _, Nat.zero_le _⟩
  | case3 => exact ⟨Nat.zero_le _, Nat.zero_le _⟩

theorem length_foldl_commonStart_le (s : List Char) (ts : List (List Char)) :
    ∀ t ∈ s :: ts, (ts.foldl commonStart s).length ≤ t.length := by
  induction ts generalizing s with
  | nil =>
    intro t ht
    obtain rfl := List.mem_singleton.1 ht
    exact Nat.le_refl _
  | cons u ts ih =>
    obtain ⟨hs, hu⟩ := length_commonStart_le s u
    have hall := ih (commonStart s u)
    have hfirst := hall _ List.mem_cons_self
    intro t ht
    rcases List.mem_cons.1 ht with rfl | ht
    · exact Nat.le_trans hfirst hs
    · rcases List.mem_cons.1 ht with rfl | ht
      · exact Nat.le_trans hfirst hu
      · exact hall t (List.mem_cons_of_mem _ ht)

/-- The shared indentation is no longer than that of a line. -/
theorem length_sharedIndent_le {lines : List (List Char)} {l : List Char} (hl : l ∈ lines)
    (hindent : l.all isIndent = false) :
    (sharedIndent lines).length ≤ (l.takeWhile isIndent).length := by
  have hmem : l.takeWhile isIndent
      ∈ (lines.filter (fun l => !l.all isIndent)).map (·.takeWhile isIndent) :=
    List.mem_map_of_mem (List.mem_filter.2 ⟨hl, by rw [hindent]; rfl⟩)
  unfold sharedIndent
  cases hlines : (lines.filter (fun l => !l.all isIndent)).map (·.takeWhile isIndent) with
  | nil =>
    rw [hlines] at hmem
    exact absurd hmem List.not_mem_nil
  | cons s ts =>
    rw [hlines] at hmem
    exact length_foldl_commonStart_le s ts _ hmem

/-- The characters of a text that are no blanks. -/
def inked (s : List Char) : List Char := s.filter (fun c => !isBlank c)

theorem inked_append (s t : List Char) : inked (s ++ t) = inked s ++ inked t :=
  List.filter_append ..

theorem inked_of_isIndent {s : List Char} (h : ∀ c ∈ s, isIndent c = true) : inked s = [] := by
  refine List.filter_eq_nil_iff.2 fun c hc => ?_
  rw [Code.IsSingleLine.isBlank_of_isIndent (h c hc)]
  exact Bool.false_ne_true

theorem inked_joinNewlines (ls : List (List Char)) :
    inked (joinNewlines ls) = (ls.map inked).flatten := by
  induction ls with
  | nil => rfl
  | cons l ls ih =>
    cases ls with
    | nil => simp [joinNewlines]
    | cons m ms =>
      rw [joinNewlines_cons_of_ne_nil (List.cons_ne_nil m ms), inked_append, List.map_cons,
        List.flatten_cons, ← ih]
      rfl

/-- What dedenting leaves of a line: nothing of one that is indentation alone, and of any other what
stands behind the indentation that the lines share. -/
def dedentLine (lines : List (List Char)) (l : List Char) : List Char :=
  if l.all isIndent then [] else l.drop (sharedIndent lines).length

theorem dedent_eq_joinNewlines (s : List Char) :
    dedent s = joinNewlines ((splitNewlines s).map (dedentLine (splitNewlines s))) := rfl

/-- A line loses a part of its own indentation, and nothing else. -/
theorem exists_indent_dedentLine {lines : List (List Char)} {l : List Char} (hl : l ∈ lines) :
    ∃ w, (∀ c ∈ w, isIndent c = true) ∧ l = w ++ dedentLine lines l := by
  unfold dedentLine
  split
  · rename_i hall
    exact ⟨l, List.all_eq_true.1 hall, (List.append_nil l).symm⟩
  · rename_i hall
    have hle := length_sharedIndent_le hl (Bool.eq_false_iff.2 hall)
    refine ⟨l.take (sharedIndent lines).length, fun c hc => ?_, (List.take_append_drop _ _).symm⟩
    rw [← List.takeWhile_append_dropWhile (p := isIndent) (l := l),
      List.take_append_of_le_length hle] at hc
    exact List.mem_takeWhile_imp (List.mem_of_mem_take hc)

/-- Only blanks are lost with the shared indentation. -/
theorem inked_dedent (s : List Char) : inked (dedent s) = inked s := by
  have hline : ∀ l ∈ splitNewlines s, inked (dedentLine (splitNewlines s) l) = inked l := by
    intro l hl
    obtain ⟨w, hw, hsplit⟩ := exists_indent_dedentLine hl
    have hink := congrArg inked hsplit
    rw [inked_append, inked_of_isIndent hw, List.nil_append] at hink
    exact hink.symm
  calc inked (dedent s)
      = ((splitNewlines s).map inked).flatten := by
        rw [dedent_eq_joinNewlines, inked_joinNewlines, List.map_map]
        exact congrArg List.flatten (List.map_congr_left hline)
    _ = inked s := by rw [← inked_joinNewlines, joinNewlines_splitNewlines]

/-- The last character that is no blank. -/
theorem getLast?_stripRight_eq (s : List Char) : (stripRight s).getLast? = (inked s).getLast? := by
  rw [Code.getLast?_stripRight, ← List.head?_filter, List.filter_reverse, List.head?_reverse]
  rfl

/-! ## §2. Carriage returns. -/

section Folding

variable {c : Char} {s t u : List Char}

/-- A character that ends no line parts a text in two that are folded apart. -/
theorem foldNewlines_parted (hreturn : c ≠ '\r') (hnewline : c ≠ '\n') (s t : List Char) :
    foldNewlines (s ++ c :: t) = foldNewlines s ++ c :: foldNewlines t := by
  have hhead : foldNewlines (c :: t) = c :: foldNewlines t := by
    rw [foldNewlines, if_neg hreturn]
    exact fun _ heq => absurd heq hreturn
  fun_induction foldNewlines s with
  | case1 => exact hhead
  | case2 s ih => rw [List.cons_append, List.cons_append, foldNewlines, ih, List.cons_append]
  | case3 d s hnot ih =>
    rw [List.cons_append, foldNewlines, ih, List.cons_append]
    intro v hd hv
    cases s with
    | nil => exact hnewline (List.cons.inj hv).1
    | cons e s => exact hnot s hd (congrArg (· :: s) (List.cons.inj hv).1)

/-- Where a folded text holds such a character, the text holds it. -/
theorem exists_parted_of_foldNewlines (hnewline : c ≠ '\n')
    (h : foldNewlines s = u ++ c :: t) :
    ∃ v w, s = v ++ c :: w ∧ foldNewlines v = u ∧ foldNewlines w = t := by
  fun_induction foldNewlines s generalizing u with
  | case1 => exact absurd h.symm (by simp)
  | case2 s ih =>
    cases u with
    | nil => exact absurd (List.cons.inj h).1.symm hnewline
    | cons d u =>
      obtain ⟨rfl, htail⟩ := List.cons.inj h
      obtain ⟨v, w, rfl, rfl, rfl⟩ := ih htail
      exact ⟨'\r' :: '\n' :: v, w, rfl, by rw [foldNewlines], rfl⟩
  | case3 d s hnot ih =>
    cases u with
    | nil =>
      obtain ⟨hd, h⟩ := List.cons.inj h
      split at hd
      · exact absurd hd.symm hnewline
      · exact ⟨[], s, by rw [hd]; rfl, rfl, h⟩
    | cons e u =>
      obtain ⟨rfl, htail⟩ := List.cons.inj h
      obtain ⟨v, w, rfl, rfl, rfl⟩ := ih htail
      refine ⟨d :: v, w, rfl, ?_, rfl⟩
      rw [foldNewlines]
      intro x hd hx
      exact hnot (x ++ c :: w) hd (by rw [hx]; rfl)

/-- A text that is folded to a single line is one. -/
theorem notMem_of_foldNewlines (h : '\n' ∉ foldNewlines s) : '\r' ∉ s ∧ '\n' ∉ s := by
  fun_induction foldNewlines s with
  | case1 => exact ⟨List.not_mem_nil, List.not_mem_nil⟩
  | case2 s ih => exact absurd List.mem_cons_self h
  | case3 d s hnot ih =>
    obtain ⟨hd, hs⟩ := List.ne_and_not_mem_of_not_mem_cons h
    split at hd
    · exact absurd rfl hd
    · rename_i hreturn
      obtain ⟨hr, hn⟩ := ih hs
      exact ⟨List.not_mem_cons_of_ne_of_not_mem (Ne.symm hreturn) hr,
        List.not_mem_cons_of_ne_of_not_mem hd hn⟩

end Folding

end Inlay.Text

namespace Inlay.Code

open Inlay.Text

/-! ## §3. Code that ends in a comment. -/

/-- Does the code end in a comment: is all behind some number sign on its last line of no account
for the statements that the code is? -/
def EndsInComment (code : String) : Prop :=
  ∃ front text, code.toList = front ++ '#' :: text ∧ '\r' ∉ text ∧ '\n' ∉ text
    ∧ ∀ text', '\r' ∉ text' → '\n' ∉ text' →
      parseStatements? (String.ofList (front ++ '#' :: text')) = parseStatements? code

section Ends

variable {code : String}

/-- The logical lines of code without a newline at its end. -/
theorem logicalLines?_folded {s : List Char} (hfold : foldNewlines code.toList = s)
    (hend : s.getLast? ≠ some '\n') :
    logicalLines? code = readLines? ((s ++ ['\n']).length + 1) ⟨1, 0⟩ (s ++ ['\n']) := by
  unfold logicalLines?
  dsimp only
  rw [hfold, if_neg hend]

/-- Code with the same logical lines is the same statements. -/
theorem parseStatements?_of_logicalLines? {code' : String}
    (h : logicalLines? code = logicalLines? code') :
    parseStatements? code = parseStatements? code' := by
  have hlayout : layout? code = layout? code' := by
    unfold layout?
    rw [h]
  rcases Nat.le_total code'.length code.length with hle | hle
  · exact parseStatements?_congr hlayout hle
  · exact (parseStatements?_congr hlayout.symm hle).symm

/-- **Statements whose code ends in a colon end in a comment.** -/
theorem endsInComment_of_getLast? (hparse : (parseStatements? code).isSome = true)
    (hcolon : code.toList.getLast? = some ':') : EndsInComment code := by
  obtain ⟨ss, hss⟩ := Option.isSome_iff_exists.1 hparse
  obtain ⟨s, hs⟩ := List.getLast?_eq_some_iff.1 hcolon
  have hfold : foldNewlines code.toList = foldNewlines s ++ [':'] := by
    rw [hs, foldNewlines_parted (by decide) (by decide)]
    rfl
  have hlogical := logicalLines?_folded hfold (by rw [List.getLast?_concat]; decide)
  obtain ⟨ls, hls⟩ : ∃ ls, logicalLines? code = some ls := by
    cases hls : logicalLines? code with
    | none =>
      unfold parseStatements? layout? at hss
      rw [hls] at hss
      cases hss
    | some ls => exact ⟨ls, rfl⟩
  -- the last line is read up to the colon, or up to a comment
  have hreads := readsLines_of_readLines? (hlogical.symm.trans hls)
  have hline : ColonLine (foldNewlines s ++ [':'] ++ ['\n']) :=
    ⟨foldNewlines s, by rw [List.append_assoc]; rfl⟩
  rcases hreads.colonLine hline with ⟨l, hl, hends⟩ | ⟨front, text, hfront, htext, hsame⟩
  · exact absurd hends (not_endsInColon_of_parseStatements? hls hss l hl)
  · rw [← List.cons_append, ← List.append_assoc] at hfront
    have hfront := List.append_cancel_right hfront
    -- the comment stands in the code itself, where carriage returns are not folded yet
    obtain ⟨v, w, hcode, rfl, rfl⟩ :=
      exists_parted_of_foldNewlines (by decide) (hfold.trans hfront)
    obtain ⟨hreturn, hnewline⟩ := notMem_of_foldNewlines htext
    refine ⟨v, w, hcode, hreturn, hnewline, fun text' hr hn => ?_⟩
    refine parseStatements?_of_logicalLines? (Eq.trans ?_ hls.symm)
    have hfold' : foldNewlines (String.ofList (v ++ '#' :: text')).toList
        = foldNewlines v ++ '#' :: text' := by
      rw [String.toList_ofList, foldNewlines_parted (by decide) (by decide), foldNewlines_eq hr]
    have hlast : (foldNewlines v ++ '#' :: text').getLast? ≠ some '\n' := by
      rw [List.getLast?_append_cons]
      intro hlast
      rcases List.mem_cons.1 (List.mem_of_getLast? hlast) with heq | hmem
      · cases heq
      · exact hn hmem
    rw [logicalLines?_folded hfold' hlast, List.append_assoc, List.cons_append]
    exact hsame text' hn _ (Nat.lt_succ_self _)

end Ends

end Inlay.Code

namespace Inlay

open Inlay.Header Inlay.Code Inlay.Text

theorem getLast?_normalize (code : String) :
    (Header.normalize code).toList.getLast? = (stripRight code.toList).getLast? := by
  rw [Header.normalize, String.toList_ofList, getLast?_strip, getLast?_stripRight_eq, inked_dedent,
    ← getLast?_stripRight_eq]

/-- Does a comment at its end make the code look like a header? -/
def LooksLikeHeader (code : String) : Prop :=
  EndsInComment (Header.normalize code) ∧ (Header.normalize code).toList.getLast? = some ':'
    ∧ ∃ w ∈ leadingWord? code, w ∈ blockWords ++ clauseWords

/-- Is the code no header, and does a marker with it stand for itself wherever it comes? -/
structure IsKept (code : String) : Prop where
  opensBlock : opensBlock code = false
  clauseWord? : clauseWord? code = none
  takeMarker : ∀ (b : Builder) (kind : MarkerKind) (p : Position),
    b.takeMarker kind ⟨.marker kind, code, p⟩
      = .ok (b.mapBody (· ++ [.expr ⟨p, kind, code, ()⟩]))

/-- Complete code that ends in a colon as a header does starts with no word of a header, unless a
comment makes it look like one. -/
theorem leadingWord?_of_isHeader {code : String}
    (hparse : (parseStatements? (Header.normalize code)).isSome = true)
    (hcomment : ¬LooksLikeHeader code) (h : isHeader code = true) :
    ∀ w ∈ leadingWord? code, w ∉ blockWords ++ clauseWords := by
  have hcolon : (Header.normalize code).toList.getLast? = some ':' := by
    rw [getLast?_normalize]
    exact eq_of_beq h
  intro w hw hmem
  exact hcomment ⟨endsInComment_of_getLast? hparse hcolon, hcolon, w, hw, hmem⟩

/-- **Complete code is no header.**  Whatever word it starts with, it is kept as a plain marker,
unless a comment makes it look like a header. -/
theorem complete_isKept {code : String}
    (hparse : (parseStatements? (Header.normalize code)).isSome = true)
    (hend : closesBlock code = false) (hcomment : ¬LooksLikeHeader code) : IsKept code := by
  have hword := leadingWord?_of_isHeader hparse hcomment
  have hopens : opensBlock code = false := by
    refine Bool.eq_false_iff.2 fun hopens => ?_
    obtain ⟨hheader, hany⟩ := Bool.and_eq_true_iff.1 hopens
    obtain ⟨w, hw, hcontains⟩ := (Option.any_eq_true _ _).1 hany
    exact hword hheader w hw (List.mem_append_left _ (List.contains_iff_mem.1 hcontains))
  have hclause : clauseWord? code = none := by
    unfold clauseWord?
    split
    · rename_i hheader
      refine Option.filter_eq_none_iff.2 fun w hw hcontains => ?_
      exact hword hheader w hw (List.mem_append_right _ (List.contains_iff_mem.1 hcontains))
    · rfl
  refine ⟨hopens, hclause, fun b kind p => ?_⟩
  rw [Builder.takeMarker, hend, hclause, hopens]
  rfl

/-- Two lines that start with words of headers, one with a comment that ends in a colon. -/
theorem complete_isKept_names :
    (parseStatements?
        (Header.normalize "  match = 1  # note:\n  case(match)  # kept")).isSome = true
      ∧ closesBlock "  match = 1  # note:\n  case(match)  # kept" = false
      ∧ ¬LooksLikeHeader "  match = 1  # note:\n  case(match)  # kept"
      ∧ IsKept "  match = 1  # note:\n  case(match)  # kept" := by
  have hparse : (parseStatements?
      (Header.normalize "  match = 1  # note:\n  case(match)  # kept")).isSome = true := by
    decide +kernel
  have hcomment : ¬LooksLikeHeader "  match = 1  # note:\n  case(match)  # kept" :=
    fun h => absurd h.2.1 (by decide)
  exact ⟨hparse, by decide, hcomment, complete_isKept hparse (by decide) hcomment⟩

/-- A comment can make complete code look like a header. -/
example : (parseStatements? "match = 1  # note:").isSome = true
    ∧ opensBlock "match = 1  # note:" = true := by decide +kernel

end Inlay
