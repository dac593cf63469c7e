/-
  Inlay.Text.Lines
  ────────────────────────────────
  **CUTTING TEXT INTO LINES.**

  Three notions of a line live side by side:

      splitNewlines — lines between newlines; always at least one piece, and
                      `joinNewlines` puts the text together again
      breakLines    — lines ended by any line boundary, as an editor counts
                      them; a boundary at the end opens no further line
      foldNewlines  — a carriage return, alone or before a newline, read as
                      one newline
-/
import Inlay.Text.Blank

namespace Inlay.Text

/-! ## §1. Newline-separated lines. -/

/-- Put a character in front of the first of several lines. -/
def consFirst (c : Char) : List (List Char) → List (List Char)
  | [] => [[c]]
  | l :: ls => (c :: l) :: ls

/-- The pieces of a text between its newlines. -/
def splitNewlines : List Char → List (List Char)
  | [] => [[]]
  | c :: s => if c = '\n' then [] :: splitNewlines s else consFirst c (splitNewlines s)

/-- The lines with a newline between any two neighbours. -/
def joinNewlines : List (List Char) → List Char
  | [] => []
  | [l] => l
  | l :: ls => l ++ '\n' :: joinNewlines ls

theorem splitNewlines_ne_nil (s : List Char) : splitNewlines s ≠ [] := by
  cases s with
  | nil => simp [splitNewlines]
  | cons c s =>
    unfold splitNewlines
    split
    · simp
    · cases splitNewlines s <;> simp [consFirst]

theorem joinNewlines_cons_of_ne_nil {l : List Char} {ls : List (List Char)} (h : ls ≠ []) :
    joinNewlines (l :: ls) = l ++ '\n' :: joinNewlines ls := by
  cases ls with
  | nil => exact absurd rfl h
  | cons m ms => rfl

theorem joinNewlines_consFirst (c : Char) {ls : List (List Char)} (h : ls ≠ []) :
    joinNewlines (consFirst c ls) = c :: joinNewlines ls := by
  cases ls with
  | nil => exact absurd rfl h
  | cons l ls => cases ls <;> rfl

/-- Splitting loses nothing. -/
theorem joinNewlines_splitNewlines (s : List Char) : joinNewlines (splitNewlines s) = s := by
  induction s with
  | nil => rfl
  | cons c s ih =>
    unfold splitNewlines
    split
    · rename_i h
      rw [joinNewlines_cons_of_ne_nil (splitNewlines_ne_nil s), ih, h]
      rfl
    · rw [joinNewlines_consFirst c (splitNewlines_ne_nil s), ih]

theorem splitNewlines_line {s : List Char} (h : '\n' ∉ s) : splitNewlines s = [s] := by
  induction s with
  | nil => rfl
  | cons c s ih =>
    have hc : c ≠ '\n' := fun heq => h (heq ▸ List.mem_cons_self)
    have hs : '\n' ∉ s := fun hmem => h (List.mem_cons_of_mem c hmem)
    rw [splitNewlines, if_neg hc, ih hs]
    rfl

theorem splitNewlines_newline {s : List Char} (h : '\n' ∉ s) (t : List Char) :
    splitNewlines (s ++ '\n' :: t) = s :: splitNewlines t := by
  induction s with
  | nil => rw [List.nil_append, splitNewlines, if_pos rfl]
  | cons c s ih =>
    have hc : c ≠ '\n' := fun heq => h (heq ▸ List.mem_cons_self)
    have hs : '\n' ∉ s := fun hmem => h (List.mem_cons_of_mem c hmem)
    rw [List.cons_append, splitNewlines, if_neg hc, ih hs]
    rfl

/-- Joining lines keeps them apart. -/
theorem splitNewlines_joinNewlines {ls : List (List Char)} (hne : ls ≠ [])
    (h : ∀ l ∈ ls, '\n' ∉ l) : splitNewlines (joinNewlines ls) = ls := by
  induction ls with
  | nil => exact absurd rfl hne
  | cons l ls ih =>
    have hl : '\n' ∉ l := h l List.mem_cons_self
    cases ls with
    | nil => exact splitNewlines_line hl
    | cons m ms =>
      have hms : ∀ l ∈ m :: ms, '\n' ∉ l := fun l' hl' => h l' (List.mem_cons_of_mem l hl')
      rw [joinNewlines_cons_of_ne_nil (List.cons_ne_nil m ms), splitNewlines_newline hl,
        ih (List.cons_ne_nil m ms) hms]

/-- No line holds a newline. -/
theorem newline_notMem_of_mem_splitNewlines {s l : List Char} (h : l ∈ splitNewlines s) :
    '\n' ∉ l := by
  induction s generalizing l with
  | nil =>
    obtain rfl := List.mem_singleton.1 h
    exact List.not_mem_nil
  | cons c s ih =>
    rw [splitNewlines] at h
    split at h
    · rcases List.mem_cons.1 h with rfl | h
      · exact List.not_mem_nil
      · exact ih h
    · rename_i hc
      cases hs : splitNewlines s with
      | nil => exact absurd hs (splitNewlines_ne_nil s)
      | cons m ms =>
        rw [hs] at h ih
        rcases List.mem_cons.1 h with rfl | h
        · intro hmem
          rcases List.mem_cons.1 hmem with heq | hmem
          · exact hc heq.symm
          · exact ih List.mem_cons_self hmem
        · exact ih (List.mem_cons_of_mem m h)

section Members

variable {c d : Char} {s l : List Char} {ls : List (List Char)}

theorem mem_consFirst (hl : l ∈ consFirst d ls) (hc : c ∈ l) : c = d ∨ ∃ l' ∈ ls, c ∈ l' := by
  cases ls with
  | nil =>
    obtain rfl := List.mem_singleton.1 hl
    exact Or.inl (List.mem_singleton.1 hc)
  | cons m ms =>
    rcases List.mem_cons.1 hl with rfl | hl
    · rcases List.mem_cons.1 hc with rfl | hc
      · exact Or.inl rfl
      · exact Or.inr ⟨m, List.mem_cons_self, hc⟩
    · exact Or.inr ⟨l, List.mem_cons_of_mem _ hl, hc⟩

/-- The characters of a piece are those of the text. -/
theorem mem_of_mem_splitNewlines (hl : l ∈ splitNewlines s) (hc : c ∈ l) : c ∈ s := by
  induction s generalizing l with
  | nil =>
    obtain rfl := List.mem_singleton.1 hl
    exact hc
  | cons d s ih =>
    rw [splitNewlines] at hl
    split at hl
    · rcases List.mem_cons.1 hl with rfl | hl
      · exact absurd hc List.not_mem_nil
      · exact List.mem_cons_of_mem _ (ih hl hc)
    · rcases mem_consFirst hl hc with rfl | ⟨l', hl', hc'⟩
      · exact List.mem_cons_self
      · exact List.mem_cons_of_mem _ (ih hl' hc')

theorem mem_joinNewlines (h : c ∈ joinNewlines ls) : c = '\n' ∨ ∃ l ∈ ls, c ∈ l := by
  induction ls with
  | nil => exact absurd h List.not_mem_nil
  | cons l ls ih =>
    cases ls with
    | nil => exact Or.inr ⟨l, List.mem_cons_self, h⟩
    | cons m ms =>
      rw [joinNewlines_cons_of_ne_nil (List.cons_ne_nil m ms)] at h
      rcases List.mem_append.1 h with h | h
      · exact Or.inr ⟨l, List.mem_cons_self, h⟩
      · rcases List.mem_cons.1 h with rfl | h
        · exact Or.inl rfl
        · rcases ih h with heq | ⟨l', hl', hc'⟩
          · exact Or.inl heq
          · exact Or.inr ⟨l', List.mem_cons_of_mem _ hl', hc'⟩

end Members

/-! ## §2. Lines at every boundary. -/

/-- Line boundaries: line feed, vertical tab, form feed, carriage return, the file, group and
record separators, next line, line separator and paragraph separator. -/
def isLineBoundary (c : Char) : Bool :=
  inRanges [(0x0A, 0x0D), (0x1C, 0x1E), (0x85, 0x85), (0x2028, 0x2029)] c.toNat

/-- The lines of a text, each ended by a boundary or by the end of the text; a carriage return
and the newline after it are one boundary. -/
def breakLines : List Char → List (List Char)
  | [] => []
  | '\r' :: '\n' :: s => [] :: breakLines s
  | c :: s => if isLineBoundary c then [] :: breakLines s else consFirst c (breakLines s)

/-- The characters of a line are those of the text. -/
theorem mem_of_mem_breakLines {c : Char} {s l : List Char} (hl : l ∈ breakLines s)
    (hc : c ∈ l) : c ∈ s := by
  fun_induction breakLines s generalizing l with
  | case1 => exact absurd hl List.not_mem_nil
  | case2 s ih =>
    rcases List.mem_cons.1 hl with rfl | hl
    · exact absurd hc List.not_mem_nil
    · exact List.mem_cons_of_mem _ (List.mem_cons_of_mem _ (ih hl hc))
  | case3 d s _ _ ih =>
    rcases List.mem_cons.1 hl with rfl | hl
    · exact absurd hc List.not_mem_nil
    · exact List.mem_cons_of_mem _ (ih hl hc)
  | case4 d s _ _ ih =>
    rcases mem_consFirst hl hc with rfl | ⟨l', hl', hc'⟩
    · exact List.mem_cons_self
    · exact List.mem_cons_of_mem _ (ih hl' hc')

/-- `breakLines` on strings. -/
def linesOf (s : String) : List String := (breakLines s.toList).map String.ofList

/-! ## §3. Universal newlines. -/

/-- Carriage returns, alone or before a newline, become newlines. -/
def foldNewlines : List Char → List Char
  | [] => []
  | '\r' :: '\n' :: s => '\n' :: foldNewlines s
  | c :: s => (if c = '\r' then '\n' else c) :: foldNewlines s

end Inlay.Text
