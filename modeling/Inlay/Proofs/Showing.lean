/-
  Inlay.Proofs.Showing
  ────────────────────────────────
  **THE LINE THAT IS SHOWN FOR A MARKER.**

  A position counts newlines; a diagnostic cuts the source at every line
  boundary.  The two agree on a marker as long as nothing but newlines, each
  perhaps behind a carriage return, breaks a line in front of it:

      Position.after      — where the text behind a text begins, by newlines
      Position.shownAfter — where it begins among the lines that are shown

  Any other boundary (a lone carriage return, a form feed, a line separator)
  is a line more for the diagnostic, and another line is shown.
-/
import Inlay.Diagnostic.Report
import Inlay.Proofs.Offsets

namespace Inlay

open Inlay.Diagnostic Inlay.Text

/-! ## §1. Places among the lines that are shown. -/

/-- The place after one character that is a boundary or not, by itself. -/
def Position.shownNext (p : Position) (c : Char) : Position :=
  if isLineBoundary c then ⟨p.line + 1, 0⟩ else ⟨p.line, p.column + 1⟩

/-- The place after a text, by the lines of `breakLines`. -/
def Position.shownAfter (p : Position) : List Char → Position
  | [] => p
  | '\r' :: '\n' :: s => shownAfter ⟨p.line + 1, 0⟩ s
  | c :: s => shownAfter (p.shownNext c) s

/-- Is a character no boundary, or the one that positions count? -/
def breaksPlainly (c : Char) : Bool := !isLineBoundary c || c == '\n'

/-- Do only newlines break lines, each perhaps behind a carriage return? -/
def hasPlainBreaks : List Char → Bool
  | [] => true
  | '\r' :: '\n' :: s => hasPlainBreaks s
  | c :: s => breaksPlainly c && hasPlainBreaks s

namespace Position

theorem after_cons (p : Position) (c : Char) (s : List Char) :
    p.after (c :: s) = (p.next c).after s := rfl

/-- A carriage return in front of a newline is on the line that the newline ends. -/
theorem after_carriageReturn (p : Position) (s : List Char) :
    p.after ('\r' :: '\n' :: s) = after ⟨p.line + 1, 0⟩ s := rfl

theorem shownNext_of_breaksPlainly (p : Position) {c : Char} (h : breaksPlainly c) :
    p.shownNext c = p.next c := by
  rw [breaksPlainly, Bool.or_eq_true, Bool.not_eq_true', beq_iff_eq] at h
  rcases h with hc | rfl
  · have hne : c ≠ '\n' := by
      rintro rfl
      exact absurd hc (by decide)
    unfold shownNext next
    rw [hc, if_neg hne]
    rfl
  · rfl

/-- A boundary that positions do not count is a line more among the lines that are shown. -/
theorem shownNext_line_of_not_breaksPlainly (p : Position) {c : Char}
    (h : breaksPlainly c = false) :
    (p.shownNext c).line = p.line + 1 ∧ (p.next c).line = p.line := by
  rw [breaksPlainly, Bool.or_eq_false_iff, Bool.not_eq_false', beq_eq_false_iff_ne] at h
  unfold shownNext next
  rw [if_pos h.1, if_neg h.2]
  exact ⟨rfl, rfl⟩

/-- A lead over the lines that newlines count is never lost. -/
theorem after_line_add_le_shownAfter {p q : Position} {lead : Int} (hle : p.line + lead ≤ q.line)
    (s : List Char) : (p.after s).line + lead ≤ (q.shownAfter s).line := by
  fun_induction shownAfter q s generalizing p with
  | case1 q => exact hle
  | case2 q s ih =>
    rw [after_carriageReturn]
    apply ih
    dsimp only
    omega
  | case3 q c s _ ih =>
    rw [after_cons]
    apply ih
    cases h : breaksPlainly c with
    | true =>
      rw [shownNext_of_breaksPlainly q h]
      unfold next
      split <;> dsimp only <;> omega
    | false =>
      have hq := (shownNext_line_of_not_breaksPlainly q h).1
      have hp := (shownNext_line_of_not_breaksPlainly p h).2
      omega

/-- Where only newlines break lines, the two places are the same. -/
theorem shownAfter_of_hasPlainBreaks (p : Position) {s : List Char} (h : hasPlainBreaks s) :
    p.shownAfter s = p.after s := by
  fun_induction shownAfter p s with
  | case1 p => rfl
  | case2 p s ih =>
    rw [after_carriageReturn]
    exact ih (by rwa [hasPlainBreaks] at h)
  | case3 p c s hpair ih =>
    rw [hasPlainBreaks.eq_3 c s hpair, Bool.and_eq_true] at h
    rw [ih h.2, shownNext_of_breaksPlainly p h.1, after_cons]

/-- Any other boundary puts the line that is shown ahead. -/
theorem after_line_lt_shownAfter {p q : Position} (hle : p.line ≤ q.line) {s : List Char}
    (h : hasPlainBreaks s = false) : (p.after s).line < (q.shownAfter s).line := by
  fun_induction shownAfter q s generalizing p with
  | case1 q => cases h
  | case2 q s ih =>
    rw [after_carriageReturn]
    refine ih ?_ (by rwa [hasPlainBreaks] at h)
    dsimp only
    omega
  | case3 q c s hpair ih =>
    rw [hasPlainBreaks.eq_3 c s hpair] at h
    rw [after_cons]
    cases hc : breaksPlainly c with
    | true =>
      rw [hc, Bool.true_and] at h
      refine ih ?_ h
      rw [shownNext_of_breaksPlainly q hc]
      unfold next
      split <;> dsimp only <;> omega
    | false =>
      -- the lead starts here, and nothing behind takes it away
      have hq := (shownNext_line_of_not_breaksPlainly q hc).1
      have hp := (shownNext_line_of_not_breaksPlainly p hc).2
      have hlead : (p.next c).line + 1 ≤ (q.shownNext c).line := by omega
      have hrest := after_line_add_le_shownAfter hlead s
      omega

end Position

/-! ## §2. Lines by number. -/

section Cutting

variable {rest : List Char}

/-- Some lines with a text in front of the first of them. -/
def consAll (front : List Char) (ls : List (List Char)) : List (List Char) :=
  front.foldr consFirst ls

theorem consAll_consFirst (front : List Char) (c : Char) (ls : List (List Char)) :
    consAll front (consFirst c ls) = consAll (front ++ [c]) ls := by
  unfold consAll
  rw [List.foldr_append]
  rfl

theorem consAll_cons (front l : List Char) (ls : List (List Char)) :
    consAll front (l :: ls) = (front ++ l) :: ls := by
  induction front with
  | nil => rfl
  | cons c front ih =>
    show consFirst c (consAll front (l :: ls)) = _
    rw [ih]
    rfl

/-- Among some lines, numbered from `first` on, does a text stand at the place? -/
def StandsAt (t : List Char) (first : Int) (ls : List (List Char)) (p : Position) : Prop :=
  first ≤ p.line ∧ ∃ l, ls[(p.line - first).toNat]? = some l ∧ t <+: l.drop p.column.toNat

theorem StandsAt.behind {t l : List Char} {first : Int} {ls : List (List Char)} {p : Position}
    (h : StandsAt t (first + 1) ls p) : StandsAt t first (l :: ls) p := by
  obtain ⟨hline, m, hm, ht⟩ := h
  refine ⟨by omega, m, ?_, ht⟩
  have hnumber : (p.line - first).toNat = (p.line - (first + 1)).toNat + 1 := by omega
  rw [hnumber, List.getElem?_cons_succ]
  exact hm

theorem StandsAt.first {t front l : List Char} {ls : List (List Char)} {p : Position}
    (hcolumn : p.column = front.length) (ht : t <+: l) :
    StandsAt t p.line (consAll front (l :: ls)) p := by
  refine ⟨Int.le_refl _, front ++ l, ?_, ?_⟩
  · rw [consAll_cons, Int.sub_self]
    rfl
  · rw [hcolumn, Int.toNat_natCast, List.drop_left]
    exact ht

/-- A newline ends the line at hand, any other character goes on with it. -/
theorem consAll_splitNewlines (front : List Char) (c : Char) (s : List Char) :
    consAll front (splitNewlines (c :: s)) =
      if c = '\n' then front :: splitNewlines s else consAll (front ++ [c]) (splitNewlines s) := by
  rw [splitNewlines]
  split
  · rw [consAll_cons, List.append_nil]
  · rw [consAll_consFirst]

/-- Between newlines, a text stands at its position.  `front` is the part of the line at hand that
was read already. -/
theorem standsAt_splitNewlines {t l : List Char} {ls : List (List Char)}
    (hrest : splitNewlines rest = l :: ls) (ht : t <+: l) (before front : List Char)
    (p : Position) (hcolumn : p.column = front.length) :
    StandsAt t p.line (consAll front (splitNewlines (before ++ rest))) (p.after before) := by
  induction before generalizing p front with
  | nil =>
    rw [List.nil_append, hrest]
    exact StandsAt.first hcolumn ht
  | cons c s ih =>
    rw [List.cons_append, consAll_splitNewlines, Position.after_cons]
    unfold Position.next
    split
    · exact (ih [] ⟨p.line + 1, 0⟩ rfl).behind
    · refine ih (front ++ [c]) ⟨p.line, p.column + 1⟩ ?_
      rw [List.length_append, List.length_singleton, hcolumn]
      rfl

theorem consAll_breakLines {front s : List Char} {c : Char}
    (hpair : ∀ s', c = '\r' → s = '\n' :: s' → False) :
    consAll front (breakLines (c :: s)) =
      if isLineBoundary c then front :: breakLines s else consAll (front ++ [c]) (breakLines s) := by
  rw [breakLines.eq_3 c s hpair]
  split
  · rw [consAll_cons, List.append_nil]
  · rw [consAll_consFirst]

/-- Among the lines of `breakLines`, a text that starts with no newline stands where
`shownAfter` says. -/
theorem standsAt_breakLines {t l : List Char} {ls : List (List Char)}
    (hrest : breakLines rest = l :: ls) (ht : t <+: l) (hhead : rest.head? ≠ some '\n')
    (before front : List Char) (p : Position) (hcolumn : p.column = front.length) :
    StandsAt t p.line (consAll front (breakLines (before ++ rest))) (p.shownAfter before) := by
  fun_induction Position.shownAfter p before generalizing front with
  | case1 p =>
    rw [List.nil_append, hrest]
    exact StandsAt.first hcolumn ht
  | case2 p s ih =>
    have hpair : consAll front (breakLines ('\r' :: '\n' :: s ++ rest))
        = front :: breakLines (s ++ rest) := by
      rw [List.cons_append, List.cons_append, breakLines, consAll_cons, List.append_nil]
    rw [hpair]
    exact (ih [] rfl).behind
  | case3 p c s hpair ih =>
    -- a carriage return at the end is alone, for no newline follows
    have hpair' : ∀ s', c = '\r' → s ++ rest = '\n' :: s' → False := by
      intro s' hc hs
      cases s with
      | nil =>
        rw [List.nil_append] at hs
        exact hhead (by rw [hs]; rfl)
      | cons d s =>
        obtain ⟨rfl, rfl⟩ := List.cons.inj hs
        exact hpair s hc rfl
    rw [List.cons_append, consAll_breakLines hpair']
    unfold Position.shownNext at ih ⊢
    split at ih
    · rename_i hc
      rw [if_pos hc, if_pos hc]
      exact (ih [] rfl).behind
    · rename_i hc
      rw [if_neg hc, if_neg hc]
      refine ih (front ++ [c]) ?_
      rw [List.length_append, List.length_singleton, hcolumn]
      rfl

end Cutting

/-! ## §3. Markers. -/

/-- The token of a marker or comment stands where the text in front of it ends. -/
theorem opener_of_mem_tokens {source : String} {tokens : List Token} {t : Token}
    (h : tokenize source = .ok tokens) (ht : t ∈ tokens) (hdata : t.kind ≠ .data)
    (heof : t.kind ≠ .eof) :
    ∃ before behind, source.toList = before ++ '<' :: '%' :: behind
      ∧ t.position = Position.start.after before := by
  obtain ⟨ss, hstand, hflatten⟩ := stand_of_tokenize h
  obtain ⟨before, s, behind, hsource, hread, hposition⟩ := hstand.position_of_mem ht
  obtain ⟨m, rfl⟩ := hread.exists_tag hdata heof
  refine ⟨before, m.kind.sigil ++ m.raw ++ ['%', '>'] ++ behind, ?_, hposition⟩
  rw [← hflatten, hsource]
  rfl

theorem consFirst_eq_cons (c : Char) (ls : List (List Char)) :
    ∃ l ls', consFirst c ls = (c :: l) :: ls' := by
  cases ls with
  | nil => exact ⟨[], [], rfl⟩
  | cons l ls => exact ⟨l, ls, rfl⟩

theorem splitNewlines_opener (s : List Char) :
    ∃ l ls, splitNewlines ('<' :: '%' :: s) = ('<' :: '%' :: l) :: ls := by
  obtain ⟨l, ls, h⟩ := consFirst_eq_cons '%' (splitNewlines s)
  refine ⟨l, ls, ?_⟩
  show consFirst '<' (consFirst '%' (splitNewlines s)) = _
  rw [h]
  rfl

theorem breakLines_opener (s : List Char) :
    ∃ l ls, breakLines ('<' :: '%' :: s) = ('<' :: '%' :: l) :: ls := by
  obtain ⟨l, ls, h⟩ := consFirst_eq_cons '%' (breakLines s)
  refine ⟨l, ls, ?_⟩
  show consFirst '<' (consFirst '%' (breakLines s)) = _
  rw [h]
  rfl

/-! ## §4. What is shown for a number. -/

/-- Is a text the line that diagnostics show under a number?  It is the only line with the number
in a snippet around it, however many lines stand around it, and the one that a report of a
malformed source at the number holds. -/
def IsShownAs (source : String) (n : Int) (l : String) : Prop :=
  (∀ context column, 0 ≤ context →
    ∀ m, (n, m) ∈ (Snippet.ofSource source n context column).lines ↔ m = l)
  ∧ ∀ r : Malformed, r.source = some source → r.line = some n →
    r.sourceLines = ["   |", padLeft 3 (toString n) ++ " | " ++ l]
      ++ (r.column.map (fun c => "   | " ++ blanks c ++ "^")).toList

/-- The numbered lines are those of the source, by number. -/
theorem mem_numberedLines {lines : List String} {start stop : Nat} {n : Int} {l : String} :
    (n, l) ∈ numberedLines lines start stop ↔
      ∃ i : Nat, n = (i : Int) + 1 ∧ start ≤ i ∧ i < stop ∧ lines[i]? = some l := by
  unfold numberedLines
  rw [List.mem_filterMap]
  constructor
  · rintro ⟨i, hi, hl⟩
    obtain ⟨m, hm, heq⟩ := Option.map_eq_some_iff.1 hl
    obtain ⟨rfl, rfl⟩ := Prod.mk.inj heq
    rw [List.mem_range'_1] at hi
    exact ⟨i, rfl, hi.1, by omega, hm⟩
  · rintro ⟨i, rfl, hstart, hstop, hl⟩
    refine ⟨i, List.mem_range'_1.2 ⟨hstart, by omega⟩, ?_⟩
    rw [hl]
    rfl

/-- A line of the source is shown under its number. -/
theorem isShownAs_of_getElem? {source : String} {i : Nat} {l : String}
    (hl : (linesOf source)[i]? = some l) : IsShownAs source ((i : Int) + 1) l := by
  have hlength : i < (linesOf source).length := (List.getElem?_eq_some_iff.1 hl).1
  constructor
  · intro context column hcontext m
    show _ ∈ numberedLines (linesOf source) _ _ ↔ _
    rw [mem_numberedLines]
    constructor
    · rintro ⟨j, hj, -, -, hm⟩
      obtain rfl : i = j := by omega
      exact Option.some.inj (hm.symm.trans hl)
    · rintro rfl
      exact ⟨i, rfl, by omega, by omega, hl⟩
  · intro r hsource hline
    -- a source with a line is not empty
    have hne : source ≠ "" := by
      rintro rfl
      exact absurd hlength (Nat.not_lt_zero i)
    have hnonempty : nonempty? (some source) = some source := by
      unfold nonempty?
      rw [Option.filter_some, if_pos]
      simpa using hne
    unfold Malformed.sourceLines
    rw [hsource, hline, hnonempty]
    dsimp only
    have hindex : ((i : Int) + 1).toNat - 1 = i := by omega
    rw [if_pos, hindex, hl]
    · rfl
    · simp only [Bool.and_eq_true, decide_eq_true_eq]
      omega

/-- Does a text stand at the place in the line that is shown for it? -/
def ShowsAt (source : String) (t : List Char) (p : Position) : Prop :=
  ∃ l, IsShownAs source p.line l ∧ t <+: l.toList.drop p.column.toNat

theorem showsAt_of_standsAt {source : String} {t : List Char} {p : Position}
    (h : StandsAt t 1 (breakLines source.toList) p) : ShowsAt source t p := by
  obtain ⟨hline, l, hl, hprefix⟩ := h
  have hnumber : p.line = ((p.line - 1).toNat : Int) + 1 := by omega
  have hshown : (linesOf source)[(p.line - 1).toNat]? = some (String.ofList l) := by
    unfold linesOf
    rw [List.getElem?_map, hl]
    rfl
  refine ⟨String.ofList l, ?_, ?_⟩
  · rw [hnumber]
    exact isShownAs_of_getElem? hshown
  · rw [String.toList_ofList]
    exact hprefix

/-- **THE LINE OF A MARKER.**  Its position is where it stands among the newline-separated lines of
the source; diagnostics show it where `shownAfter` says, which is that position if only newlines
break lines in front of it, and on a line further down otherwise. -/
theorem marker_shown {source : String} {tokens : List Token} {t : Token}
    (h : tokenize source = .ok tokens) (ht : t ∈ tokens) (hdata : t.kind ≠ .data)
    (heof : t.kind ≠ .eof) :
    ∃ before behind, source.toList = before ++ '<' :: '%' :: behind
      ∧ t.position = Position.start.after before
      ∧ StandsAt ['<', '%'] 1 (splitNewlines source.toList) t.position
      ∧ ShowsAt source ['<', '%'] (Position.start.shownAfter before)
      ∧ (hasPlainBreaks before → Position.start.shownAfter before = t.position)
      ∧ (hasPlainBreaks before = false →
        t.position.line < (Position.start.shownAfter before).line) := by
  obtain ⟨before, behind, hsource, hposition⟩ := opener_of_mem_tokens h ht hdata heof
  have hstands : StandsAt ['<', '%'] 1 (splitNewlines source.toList)
      (Position.start.after before) := by
    obtain ⟨l, ls, hlines⟩ := splitNewlines_opener behind
    rw [hsource]
    exact standsAt_splitNewlines hlines ⟨l, rfl⟩ before [] .start rfl
  have hshown : StandsAt ['<', '%'] 1 (breakLines source.toList)
      (Position.start.shownAfter before) := by
    obtain ⟨l, ls, hlines⟩ := breakLines_opener behind
    rw [hsource]
    exact standsAt_breakLines hlines ⟨l, rfl⟩ (by simp) before [] .start rfl
  refine ⟨before, behind, hsource, hposition, ?_, showsAt_of_standsAt hshown, ?_, ?_⟩
  · rw [hposition]
    exact hstands
  · intro hplain
    rw [hposition]
    exact Position.shownAfter_of_hasPlainBreaks .start hplain
  · intro hstray
    rw [hposition]
    exact Position.after_line_lt_shownAfter (Int.le_refl _) hstray

/-- A source with a line separator in front of its marker. -/
def separatedSource : String := "\u2028<%= x %>"

theorem tokenize_separatedSource : tokenize separatedSource =
    .ok [⟨.data, "\u2028", ⟨1, 0⟩⟩, ⟨.marker .output, "x", ⟨1, 1⟩⟩, ⟨.eof, "", ⟨1, 9⟩⟩] := by
  have hscan : scan separatedSource.toList
      = ⟨[.char '\u2028', .marker (.marker .output) [' ', 'x', ' ']], none⟩ := by
    have hchars : separatedSource.toList = '\u2028' :: '<' :: '%' :: "= x %>".toList := by decide
    have hcut : cutAtEnd (markerKind "= x %>".toList).2 = some ([' ', 'x', ' '], []) := by decide
    rw [hchars, scan_char (by decide), scan_marker (by decide) hcut, scan_nil]
    decide
  refine tokenize_ok_iff.2 ⟨?_, ?_⟩
  · rw [hscan]
  · rw [hscan]
    decide

/-- The marker behind a line separator is on the first line by its position, where diagnostics show
an empty line. -/
theorem marker_shown_separatedSource :
    (Snippet.ofSource separatedSource 1 0 none).lines = [(1, "")]
      ∧ ∃ before behind, separatedSource.toList = before ++ '<' :: '%' :: behind
        ∧ (⟨1, 1⟩ : Position) = Position.start.after before
        ∧ StandsAt ['<', '%'] 1 (splitNewlines separatedSource.toList) ⟨1, 1⟩
        ∧ ShowsAt separatedSource ['<', '%'] (Position.start.shownAfter before)
        ∧ (hasPlainBreaks before → Position.start.shownAfter before = ⟨1, 1⟩)
        ∧ (hasPlainBreaks before = false → 1 < (Position.start.shownAfter before).line) :=
  ⟨by decide, marker_shown (t := ⟨.marker .output, "x", ⟨1, 1⟩⟩) tokenize_separatedSource
    (by decide) (by decide) (by decide)⟩

end Inlay
