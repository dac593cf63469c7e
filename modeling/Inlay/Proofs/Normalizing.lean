/-
  Inlay.Proofs.Normalizing
  ────────────────────────────────
  **CODE IN NORMAL FORM.**

  What a marker is, a tree asks of its code as it was written; what the code
  says is read from its normal form.  Both look at the same: every answer
  hangs on the first run of characters that are no blanks and on the sequence
  of all characters that are none, and to normalize keeps the two.

      firstInk, inked     — what the answers hang on
      IsNormal            — code that normalizing leaves as it is
      normalize_isStable  — normal code is normal, and means the same marker

  A line of blanks that no indentation is made of, such as a form feed, keeps
  these blanks: it is no empty line, and shares in the indentation.
-/
import Inlay.Proofs.Complete

namespace Inlay.Text

/-! ## §1. Stripping. -/

section Strip

variable {s : List Char}

/-- What is stripped are blanks at both ends. -/
theorem exists_blanks_strip (s : List Char) :
    ∃ lead trail, s = lead ++ (strip s ++ trail) ∧ (∀ c ∈ lead, isBlank c = true)
      ∧ ∀ c ∈ trail, isBlank c = true := by
  have hright : stripLeft s
      = strip s ++ ((stripLeft s).reverse.takeWhile isBlank).reverse := by
    rw [strip, stripRight, ← List.reverse_append, List.takeWhile_append_dropWhile,
      List.reverse_reverse]
  refine ⟨s.takeWhile isBlank, ((stripLeft s).reverse.takeWhile isBlank).reverse, ?_,
    fun c hc => List.mem_takeWhile_imp hc,
    fun c hc => List.mem_takeWhile_imp (List.mem_reverse.1 hc)⟩
  rw [← hright, stripLeft, List.takeWhile_append_dropWhile]

theorem head?_strip (s : List Char) : ∀ c ∈ (strip s).head?, isBlank c = false := by
  intro c hc
  have hprefix : strip s <+: stripLeft s := by
    rw [← List.reverse_suffix, strip, stripRight, List.reverse_reverse]
    exact List.dropWhile_suffix _
  obtain ⟨t, ht⟩ := hprefix
  have hhead : (stripLeft s).head? = some c := by
    rw [← ht, List.head?_append, hc]
    rfl
  have hnot := List.head?_dropWhile_not isBlank s
  rw [show s.dropWhile isBlank = stripLeft s from rfl, hhead] at hnot
  simpa using hnot

theorem getLast?_strip_not (s : List Char) : ∀ c ∈ (strip s).getLast?, isBlank c = false := by
  intro c hc
  rw [Code.getLast?_strip, Code.getLast?_stripRight] at hc
  simpa using List.find?_some hc

end Strip

/-! ## §2. What the answers hang on. -/

section Ink

variable {s t w : List Char}

theorem inked_of_blanks (h : ∀ c ∈ w, isBlank c = true) : inked w = [] :=
  List.filter_eq_nil_iff.2 fun c hc => by rw [h c hc]; exact Bool.false_ne_true

theorem inked_eq_self (h : ∀ c ∈ w, isBlank c = false) : inked w = w :=
  List.filter_eq_self.2 fun c hc => by rw [h c hc]; rfl

theorem inked_strip (s : List Char) : inked (strip s) = inked s := by
  obtain ⟨lead, trail, hs, hlead, htrail⟩ := exists_blanks_strip s
  nth_rewrite 2 [hs]
  rw [inked_append, inked_append, inked_of_blanks hlead, inked_of_blanks htrail, List.nil_append,
    List.append_nil]

/-- The first run of characters that are no blanks. -/
def firstInk (s : List Char) : List Char := (stripLeft s).takeWhile (fun c => !isBlank c)

theorem firstInk_cons {c : Char} (hc : isBlank c = false) (s : List Char) :
    firstInk (c :: s) = c :: s.takeWhile (fun c => !isBlank c) := by
  rw [firstInk, stripLeft, List.dropWhile_cons_of_neg (by rw [hc]; exact Bool.false_ne_true),
    List.takeWhile_cons_of_pos (by rw [hc]; rfl)]

theorem firstInk_blanks_append (h : ∀ c ∈ w, isBlank c = true) (s : List Char) :
    firstInk (w ++ s) = firstInk s := by
  rw [firstInk, stripLeft, List.dropWhile_append_of_pos h]
  rfl

theorem firstInk_of_blanks (h : ∀ c ∈ w, isBlank c = true) : firstInk w = [] := by
  have hall := firstInk_blanks_append h []
  rwa [List.append_nil] at hall

/-- A blank ends the first run, if it has started. -/
theorem firstInk_append_blank {b : Char} (hb : isBlank b = true) (s t : List Char) :
    firstInk (s ++ b :: t) = if firstInk s = [] then firstInk t else firstInk s := by
  induction s with
  | nil => exact firstInk_blanks_append (List.forall_mem_singleton.2 hb) t
  | cons c s ih =>
    cases hc : isBlank c with
    | true =>
      have hskip : ∀ u, firstInk (c :: u) = firstInk u := fun u =>
        firstInk_blanks_append (List.forall_mem_singleton.2 hc) u
      rw [List.cons_append, hskip, hskip, ih]
    | false =>
      -- the run has started, and stops before the blank
      have hstop : (s ++ b :: t).takeWhile (fun c => !isBlank c)
          = s.takeWhile (fun c => !isBlank c) := by
        rw [List.takeWhile_append, List.takeWhile_cons_of_neg (by rw [hb]; exact Bool.false_ne_true),
          List.append_nil]
        split
        · rename_i hlength
          exact (List.takeWhile_prefix _).eq_of_length hlength |>.symm
        · rfl
      rw [List.cons_append, firstInk_cons hc, firstInk_cons hc, hstop,
        if_neg (List.cons_ne_nil c _)]

theorem firstInk_append_blanks (h : ∀ c ∈ w, isBlank c = true) (s : List Char) :
    firstInk (s ++ w) = firstInk s := by
  cases w with
  | nil => rw [List.append_nil]
  | cons b w =>
    obtain ⟨hb, hw⟩ := List.forall_mem_cons.1 h
    rw [firstInk_append_blank hb, firstInk_of_blanks hw]
    split
    · rename_i hnone
      exact hnone.symm
    · rfl

theorem firstInk_strip (s : List Char) : firstInk (strip s) = firstInk s := by
  obtain ⟨lead, trail, hs, hlead, htrail⟩ := exists_blanks_strip s
  nth_rewrite 2 [hs]
  rw [firstInk_blanks_append hlead, firstInk_append_blanks htrail]

/-- A stripped text starts with the first run. -/
theorem takeWhile_strip (s : List Char) :
    (strip s).takeWhile (fun c => !isBlank c) = firstInk s := by
  rw [← firstInk_strip s]
  cases hs : strip s with
  | nil => rfl
  | cons c t =>
    have hc : isBlank c = false := head?_strip s c (by rw [hs]; rfl)
    rw [firstInk_cons hc, List.takeWhile_cons_of_pos (by rw [hc]; rfl)]

/-- A text is stripped to a word if this is its first run and there is no other. -/
theorem strip_eq_iff (hw : ∀ c ∈ w, isBlank c = false) :
    strip s = w ↔ firstInk s = w ∧ inked s = w := by
  constructor
  · rintro rfl
    rw [← takeWhile_strip, ← inked_strip, inked_eq_self hw]
    exact ⟨List.takeWhile_eq_self_iff.2 fun c hc => by rw [hw c hc]; rfl, rfl⟩
  · rintro ⟨hfirst, hink⟩
    rw [← takeWhile_strip] at hfirst
    rw [← inked_strip] at hink
    -- behind the first run there are blanks only, and a stripped text does not end in one
    have hsplit := List.takeWhile_append_dropWhile (p := fun c => !isBlank c) (l := strip s)
    rw [hfirst] at hsplit
    have hrest : inked ((strip s).dropWhile (fun c => !isBlank c)) = [] := by
      have happend := congrArg inked hsplit
      rw [inked_append, inked_eq_self hw, hink] at happend
      exact List.append_right_eq_self.1 happend
    cases hlast : ((strip s).dropWhile (fun c => !isBlank c)).getLast? with
    | none => rw [← hsplit, List.getLast?_eq_none_iff.1 hlast, List.append_nil]
    | some c =>
      have hend : (strip s).getLast? = some c := by
        rw [← hsplit, List.getLast?_append, hlast]
        rfl
      have hnot := List.filter_eq_nil_iff.1 hrest c (List.mem_of_getLast? hlast)
      rw [getLast?_strip_not s c hend] at hnot
      exact absurd rfl hnot

/-- Lines with the same first runs are texts with the same first run. -/
theorem firstInk_joinNewlines_map {f : List Char → List Char} {ls : List (List Char)}
    (h : ∀ l ∈ ls, firstInk (f l) = firstInk l) :
    firstInk (joinNewlines (ls.map f)) = firstInk (joinNewlines ls) := by
  induction ls with
  | nil => rfl
  | cons l ls ih =>
    obtain ⟨hl, hls⟩ := List.forall_mem_cons.1 h
    cases ls with
    | nil => exact hl
    | cons m ms =>
      have hmap : (m :: ms).map f ≠ [] := List.cons_ne_nil _ _
      rw [List.map_cons, joinNewlines_cons_of_ne_nil hmap,
        joinNewlines_cons_of_ne_nil (List.cons_ne_nil m ms), firstInk_append_blank (by decide),
        firstInk_append_blank (by decide), hl, ih hls]

theorem firstInk_dedent (s : List Char) : firstInk (dedent s) = firstInk s := by
  have hline : ∀ l ∈ splitNewlines s, firstInk (dedentLine (splitNewlines s) l) = firstInk l := by
    intro l hl
    obtain ⟨w, hw, hsplit⟩ := exists_indent_dedentLine hl
    have hblank : ∀ c ∈ w, isBlank c = true := fun c hc =>
      Code.IsSingleLine.isBlank_of_isIndent (hw c hc)
    have hfirst := congrArg firstInk hsplit
    rw [firstInk_blanks_append hblank] at hfirst
    exact hfirst.symm
  rw [dedent_eq_joinNewlines, firstInk_joinNewlines_map hline, joinNewlines_splitNewlines]

end Ink

end Inlay.Text

namespace Inlay.Header

open Inlay.Text

/-! ## §3. The answers. -/

section Answers

variable {code code' : String}

theorem isBlank_of_isWordChar {c : Char} (h : isWordChar c = true) : isBlank c = false := by
  have hcode : (65 ≤ c.toNat ∧ c.toNat ≤ 90 ∨ 97 ≤ c.toNat ∧ c.toNat ≤ 122) ∨ c.toNat = 95 := by
    rw [isWordChar, Bool.or_eq_true, beq_iff_eq] at h
    refine h.imp (fun halpha => ?_) (fun hline => by rw [hline]; rfl)
    rcases Bool.or_eq_true_iff.1 halpha with hupper | hlower
    · exact .inl (of_decide_eq_true hupper)
    · obtain ⟨hge, hle⟩ := Bool.and_eq_true_iff.1 hlower
      exact .inr ⟨of_decide_eq_true hge, of_decide_eq_true hle⟩
  unfold isBlank inRanges blankRanges
  simp only [List.any_cons, List.any_nil, Bool.or_false, Bool.or_eq_false_iff,
    Bool.and_eq_false_iff, decide_eq_false_iff_not]
  omega

/-- The first word is the start of the first run. -/
theorem takeWhile_isWordChar_strip (s : List Char) :
    (strip s).takeWhile isWordChar = (firstInk s).takeWhile isWordChar := by
  rw [← takeWhile_strip, List.takeWhile_takeWhile]
  congr 1
  funext c
  cases hc : isWordChar c with
  | true => simp [isBlank_of_isWordChar hc]
  | false => simp

theorem leadingWord?_congr (h : firstInk code.toList = firstInk code'.toList) :
    leadingWord? code = leadingWord? code' := by
  unfold leadingWord?
  rw [takeWhile_isWordChar_strip, takeWhile_isWordChar_strip, h]

theorem isHeader_congr (h : inked code.toList = inked code'.toList) :
    isHeader code = isHeader code' := by
  unfold isHeader
  rw [getLast?_stripRight_eq, getLast?_stripRight_eq, h]

theorem closesBlock_congr (hfirst : firstInk code.toList = firstInk code'.toList)
    (hink : inked code.toList = inked code'.toList) : closesBlock code = closesBlock code' := by
  have hend : ∀ c ∈ ['e', 'n', 'd'], isBlank c = false := by
    simp only [List.forall_mem_cons, List.not_mem_nil, false_imp_iff, implies_true, and_true]
    decide
  unfold closesBlock
  rw [Bool.eq_iff_iff, beq_iff_eq, beq_iff_eq, strip_eq_iff hend, strip_eq_iff hend, hfirst, hink]

section Normal

variable (code : String)

theorem firstInk_normalize :
    firstInk (normalize code).toList = firstInk code.toList := by
  rw [normalize, String.toList_ofList, firstInk_strip, firstInk_dedent]

theorem inked_normalize : inked (normalize code).toList = inked code.toList := by
  rw [normalize, String.toList_ofList, inked_strip, inked_dedent]

theorem leadingWord?_normalize : leadingWord? (normalize code) = leadingWord? code :=
  leadingWord?_congr (firstInk_normalize code)

theorem isHeader_normalize : isHeader (normalize code) = isHeader code :=
  isHeader_congr (inked_normalize code)

theorem opensBlock_normalize : opensBlock (normalize code) = opensBlock code := by
  rw [opensBlock, opensBlock, isHeader_normalize, leadingWord?_normalize]

theorem clauseWord?_normalize : clauseWord? (normalize code) = clauseWord? code := by
  rw [clauseWord?, clauseWord?, isHeader_normalize, leadingWord?_normalize]

theorem closesBlock_normalize : closesBlock (normalize code) = closesBlock code :=
  closesBlock_congr (firstInk_normalize code) (inked_normalize code)

theorem hasBody_normalize : hasBody (normalize code) = hasBody code := by
  rw [hasBody, hasBody, leadingWord?_normalize]

end Normal

end Answers

end Inlay.Header

namespace Inlay.Text

/-! ## §4. Normal form. -/

theorem splitNewlines_append (s t : List Char) :
    splitNewlines (s ++ '\n' :: t) = splitNewlines s ++ splitNewlines t := by
  induction s with
  | nil => exact if_pos rfl
  | cons c s ih =>
    rw [List.cons_append, splitNewlines, splitNewlines, ih]
    split
    · rfl
    · obtain ⟨l, ls, hs⟩ := List.exists_cons_of_ne_nil (splitNewlines_ne_nil s)
      rw [hs]
      rfl

/-- Is `l` a line of a text: a stretch without newlines between two of them, or between one and an end
of the text? -/
def IsLineOf (s l : List Char) : Prop :=
  '\n' ∉ l ∧ ∃ p q, s = p ++ (l ++ q) ∧ (p = [] ∨ p.getLast? = some '\n')
    ∧ (q = [] ∨ q.head? = some '\n')

theorem isLineOf_of_mem {s l : List Char} (h : l ∈ splitNewlines s) : IsLineOf s l := by
  refine ⟨newline_notMem_of_mem_splitNewlines h, ?_⟩
  rw [← joinNewlines_splitNewlines s]
  generalize splitNewlines s = ls at h
  induction ls with
  | nil => exact absurd h List.not_mem_nil
  | cons m ms ih =>
    rcases List.mem_cons.1 h with rfl | h
    · cases ms with
      | nil => exact ⟨[], [], (List.append_nil l).symm, .inl rfl, .inl rfl⟩
      | cons k ks => exact ⟨[], '\n' :: joinNewlines (k :: ks), rfl, .inl rfl, .inr rfl⟩
    · obtain ⟨p, q, hjoin, hp, hq⟩ := ih h
      refine ⟨m ++ '\n' :: p, q, ?_, .inr ?_, hq⟩
      · rw [joinNewlines_cons_of_ne_nil (List.ne_nil_of_mem h), hjoin, List.append_assoc]
        rfl
      · rcases hp with rfl | hp
        · exact List.getLast?_concat
        · rw [List.getLast?_append, List.getLast?_cons, hp]
          rfl

theorem mem_of_isLineOf {s l : List Char} (h : IsLineOf s l) : l ∈ splitNewlines s := by
  obtain ⟨hl, p, q, rfl, hp, hq⟩ := h
  -- the line starts a text of its own, and this text is the end of the whole one
  have hstart : l ∈ splitNewlines (l ++ q) := by
    rcases hq with rfl | hq
    · rw [List.append_nil, splitNewlines_line hl]
      exact List.mem_singleton_self l
    · obtain ⟨t, rfl⟩ := List.head?_eq_some_iff.1 hq
      rw [splitNewlines_newline hl]
      exact List.mem_cons_self
  rcases hp with rfl | hp
  · exact hstart
  · obtain ⟨u, rfl⟩ := List.getLast?_eq_some_iff.1 hp
    rw [List.append_assoc, List.singleton_append, splitNewlines_append]
    exact List.mem_append_right _ hstart

/-- Does normalizing leave the code as it is? -/
structure IsNormal (s : List Char) : Prop where
  head : ∀ c ∈ s.head?, isBlank c = false
  last : ∀ c ∈ s.getLast?, isBlank c = false
  /-- A line that is made of spaces and tabs is empty. -/
  line : ∀ l ∈ splitNewlines s, l.all isIndent = true → l = []

namespace IsNormal

variable {s : List Char}

/-- The first line starts with no indentation, so there is none that the lines share. -/
theorem sharedIndent_eq_nil (h : IsNormal s) (hne : s ≠ []) :
    sharedIndent (splitNewlines s) = [] := by
  obtain ⟨c, t, rfl⟩ := List.exists_cons_of_ne_nil hne
  have hc : isBlank c = false := h.head c rfl
  have hnewline : c ≠ '\n' := by
    rintro rfl
    exact absurd hc (by decide)
  have hindent : isIndent c = false := Bool.eq_false_iff.2 fun hindent => by
    rw [Code.IsSingleLine.isBlank_of_isIndent hindent] at hc
    cases hc
  obtain ⟨l, ls, ht⟩ := List.exists_cons_of_ne_nil (splitNewlines_ne_nil t)
  have hfirst : c :: l ∈ splitNewlines (c :: t) := by
    rw [splitNewlines, if_neg hnewline, ht]
    exact List.mem_cons_self
  have hle := length_sharedIndent_le hfirst (by rw [List.all_cons, hindent, Bool.false_and])
  rw [List.takeWhile_cons_of_neg (by rw [hindent]; exact Bool.false_ne_true)] at hle
  exact List.length_eq_zero_iff.1 (Nat.le_zero.1 hle)

theorem dedent_eq_self (h : IsNormal s) : dedent s = s := by
  by_cases hne : s = []
  · rw [hne]
    rfl
  have hline : ∀ l ∈ splitNewlines s, dedentLine (splitNewlines s) l = l := by
    intro l hl
    unfold dedentLine
    rw [h.sharedIndent_eq_nil hne]
    split
    · rename_i hall
      exact (h.line l hl hall).symm
    · rfl
  rw [dedent_eq_joinNewlines, List.map_congr_left hline, List.map_id', joinNewlines_splitNewlines]

end IsNormal

/-- Dedenting leaves no line that is made of spaces and tabs. -/
theorem eq_nil_of_mem_splitNewlines_dedent {s l : List Char} (hl : l ∈ splitNewlines (dedent s))
    (hall : l.all isIndent = true) : l = [] := by
  have hlines : splitNewlines (dedent s)
      = (splitNewlines s).map (dedentLine (splitNewlines s)) := by
    rw [dedent_eq_joinNewlines]
    refine splitNewlines_joinNewlines (by simpa using splitNewlines_ne_nil s) fun l hl => ?_
    obtain ⟨m, hm, rfl⟩ := List.mem_map.1 hl
    obtain ⟨w, -, hsplit⟩ := exists_indent_dedentLine hm
    intro hmem
    exact newline_notMem_of_mem_splitNewlines hm (hsplit ▸ List.mem_append_right w hmem)
  rw [hlines] at hl
  obtain ⟨m, hm, rfl⟩ := List.mem_map.1 hl
  obtain ⟨w, hw, hsplit⟩ := exists_indent_dedentLine hm
  -- the line was such a line before, and then nothing is left of it
  have hbefore : m.all isIndent = true := by
    rw [hsplit, List.all_append, hall, Bool.and_true]
    exact List.all_eq_true.2 hw
  unfold dedentLine
  rw [if_pos hbefore]

/-- **Code is normal once it is dedented and stripped.** -/
theorem isNormal_strip_dedent (s : List Char) : IsNormal (strip (dedent s)) := by
  have hhead := head?_strip (dedent s)
  have hlast := getLast?_strip_not (dedent s)
  refine ⟨hhead, hlast, fun l hl hall => ?_⟩
  by_contra hne
  have hblank : ∀ c ∈ l, isBlank c = true := fun c hc =>
    Code.IsSingleLine.isBlank_of_isIndent (List.all_eq_true.1 hall c hc)
  obtain ⟨hnewline, p, q, hsplit, hp, hq⟩ := isLineOf_of_mem hl
  -- neither end of the text is blank, so there is a line before this one and one behind it
  have hbefore : p.getLast? = some '\n' := by
    refine hp.resolve_left ?_
    rintro rfl
    obtain ⟨c, t, rfl⟩ := List.exists_cons_of_ne_nil hne
    have hfirst := hhead c (by rw [hsplit]; rfl)
    rw [hblank c List.mem_cons_self] at hfirst
    cases hfirst
  have hbehind : q.head? = some '\n' := by
    refine hq.resolve_left ?_
    rintro rfl
    have hend := hlast (l.getLast hne) (by
      rw [hsplit, List.append_nil, List.getLast?_append_of_ne_nil _ hne,
        List.getLast?_eq_some_getLast hne]
      rfl)
    rw [hblank _ (List.getLast_mem hne)] at hend
    cases hend
  obtain ⟨lead, trail, hwhole, -, -⟩ := exists_blanks_strip (dedent s)
  have hline : IsLineOf (dedent s) l := by
    refine ⟨hnewline, lead ++ p, q ++ trail, ?_, .inr ?_, .inr ?_⟩
    · rw [hwhole, hsplit]
      simp only [List.append_assoc]
    · rw [List.getLast?_append, hbefore]
      rfl
    · rw [List.head?_append, hbehind]
      rfl
  exact hne (eq_nil_of_mem_splitNewlines_dedent (mem_of_isLineOf hline) hall)

end Inlay.Text

namespace Inlay.Header

open Inlay.Text

/-! ## §5. Normalizing. -/

theorem normalize_normalize (code : String) : normalize (normalize code) = normalize code := by
  have h := isNormal_strip_dedent code.toList
  rw [normalize, normalize, String.toList_ofList, h.dedent_eq_self, strip_eq_self h.head h.last]

end Inlay.Header

namespace Inlay.Code

open Inlay.Header

/-- A header adds the same lines and the same slot in normal form. -/
theorem Assembly.add_normalize (a : Assembly) (header : String) :
    a.add (normalize header) = a.add header := by
  unfold Assembly.add headerLines
  rw [normalize_normalize, clauseWord?_normalize, hasBody_normalize]

theorem skeleton_normalize (headers : List String) :
    skeleton (headers.map normalize) = skeleton headers := by
  have hadd : (fun a header => Assembly.add a (normalize header)) = Assembly.add :=
    funext fun a => funext fun header => a.add_normalize header
  have hassemble : assembleHeaders (headers.map normalize) = assembleHeaders headers := by
    rw [assembleHeaders, assembleHeaders, List.foldl_map, hadd]
  unfold skeleton
  rw [hassemble]

end Inlay.Code

namespace Inlay.Header

/-- **NORMALIZING IS STABLE.**  Normal code is left as it is, and it is the same marker as the code
that it was made from: whatever a tree asks of the code as it was written has the same answer for
the normal form, and headers form the same statement. -/
theorem normalize_isStable :
    (∀ code, normalize (normalize code) = normalize code
      ∧ opensBlock (normalize code) = opensBlock code
      ∧ clauseWord? (normalize code) = clauseWord? code
      ∧ closesBlock (normalize code) = closesBlock code
      ∧ leadingWord? (normalize code) = leadingWord? code
      ∧ hasBody (normalize code) = hasBody code)
      ∧ ∀ headers, Code.skeleton (headers.map normalize) = Code.skeleton headers :=
  ⟨fun code => ⟨normalize_normalize code, opensBlock_normalize code, clauseWord?_normalize code,
    closesBlock_normalize code, leadingWord?_normalize code, hasBody_normalize code⟩,
    Code.skeleton_normalize⟩

/-- Blanks of every kind, with a form feed on a line that is no empty one for the indentation. -/
example : normalize "\t \n  x = 1\n \t\n   y = 2  \n  \x0c \n" = "x = 1\n\n y = 2" := by decide

end Inlay.Header
