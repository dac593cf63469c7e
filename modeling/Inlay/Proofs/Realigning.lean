/-
  Inlay.Proofs.Realigning
  ────────────────────────────────
  **MOVING LINES IN SEVERAL STEPS.**

  A text comes to its place in steps: an included text is indented by each
  include on the way, and the text of a block is realigned by each block
  around it.  Every step changes the lines behind the first one by one, so
  two steps are one, and this is the one that the indentations say:

      reindent b ∘ reindent a                  =  reindent (b ++ a)
      realign m c ∘ realign b m                =  realign b c
      realign b c ('\n' :: (b ++ reindent b s)) =  '\n' :: (c ++ reindent c s)

  What a step finds is what the one before has left only if that one puts no
  newline into a line.  An indentation holds none.
-/
import Inlay.Indent.Lines

namespace Inlay.Indent

open Inlay.Text

/-! ## §1. Changing later lines. -/

section Later

variable {f g : List Char → List Char}

/-- What stands on the later lines of a text. -/
theorem mapLaterLines_of_splitNewlines (f : List Char → List Char) {s first : List Char}
    {rest : List (List Char)} (h : splitNewlines s = first :: rest) :
    mapLaterLines f s = joinNewlines (first :: rest.map f) := by
  unfold mapLaterLines
  rw [h]

/-- A change of later lines, on lines that are put together. -/
theorem mapLaterLines_joinNewlines (f : List Char → List Char) {first : List Char}
    {rest : List (List Char)} (h : ∀ l ∈ first :: rest, '\n' ∉ l) :
    mapLaterLines f (joinNewlines (first :: rest)) = joinNewlines (first :: rest.map f) :=
  mapLaterLines_of_splitNewlines f (splitNewlines_joinNewlines (List.cons_ne_nil _ _) h)

/-- Only the later lines of a text are changed. -/
theorem mapLaterLines_congr {s : List Char} (h : ∀ l ∈ (splitNewlines s).tail, f l = g l) :
    mapLaterLines f s = mapLaterLines g s := by
  obtain ⟨first, rest, hs⟩ := List.exists_cons_of_ne_nil (splitNewlines_ne_nil s)
  rw [hs, List.tail_cons] at h
  rw [mapLaterLines_of_splitNewlines f hs, mapLaterLines_of_splitNewlines g hs,
    List.map_congr_left h]

/-- A change that leaves every line leaves the text. -/
theorem mapLaterLines_eq_self {s : List Char} (h : ∀ l, f l = l) : mapLaterLines f s = s := by
  obtain ⟨first, rest, hs⟩ := List.exists_cons_of_ne_nil (splitNewlines_ne_nil s)
  have hrest : rest.map f = rest := by
    rw [List.map_congr_left (fun l _ => h l), List.map_id']
  rw [mapLaterLines_of_splitNewlines f hs, hrest, ← hs, joinNewlines_splitNewlines]

/-- **Two changes of later lines are one.** -/
theorem mapLaterLines_mapLaterLines (f : List Char → List Char)
    (hg : ∀ l, '\n' ∉ l → '\n' ∉ g l) (s : List Char) :
    mapLaterLines f (mapLaterLines g s) = mapLaterLines (fun l => f (g l)) s := by
  obtain ⟨first, rest, hs⟩ := List.exists_cons_of_ne_nil (splitNewlines_ne_nil s)
  have hlines : ∀ l ∈ first :: rest, '\n' ∉ l := fun l hl =>
    newline_notMem_of_mem_splitNewlines (hs ▸ hl)
  have hchanged : ∀ l ∈ first :: rest.map g, '\n' ∉ l := by
    intro l hl
    rcases List.mem_cons.1 hl with rfl | hl
    · exact hlines l List.mem_cons_self
    · obtain ⟨l', hl', rfl⟩ := List.mem_map.1 hl
      exact hg l' (hlines l' (List.mem_cons_of_mem first hl'))
  rw [mapLaterLines_of_splitNewlines g hs, mapLaterLines_joinNewlines f hchanged,
    mapLaterLines_of_splitNewlines _ hs, List.map_map]
  rfl

end Later

/-! ## §2. Lines. -/

section Lines

variable {a b c m line : List Char}

/-- A line behind an indentation, unless it is empty. -/
def indentLine (indentation line : List Char) : List Char :=
  if line = [] then line else indentation ++ line

theorem indentLine_of_ne_nil (h : line ≠ []) (b : List Char) : indentLine b line = b ++ line :=
  if_neg h

theorem newline_notMem_indentLine (hb : '\n' ∉ b) (h : '\n' ∉ line) :
    '\n' ∉ indentLine b line := by
  by_cases hline : line = []
  · rw [hline]
    exact List.not_mem_nil
  · rw [indentLine_of_ne_nil hline]
    intro hmem
    exact (List.mem_append.1 hmem).elim hb h

/-- An empty line is empty behind every indentation; any other has both. -/
theorem indentLine_indentLine (a b line : List Char) :
    indentLine b (indentLine a line) = indentLine (b ++ a) line := by
  by_cases h : line = []
  · rw [h]
    rfl
  · have hne : a ++ line ≠ [] := fun heq => h (List.append_eq_nil_iff.1 heq).2
    rw [indentLine_of_ne_nil h, indentLine_of_ne_nil hne, indentLine_of_ne_nil h,
      List.append_assoc]

theorem realignLine_nil (b c : List Char) : realignLine b c [] = [] := rfl

theorem realignLine_behind (h : b ++ line ≠ []) (c : List Char) :
    realignLine b c (b ++ line) = c ++ line := by
  have hstart : b.isPrefixOf (b ++ line) = true :=
    List.isPrefixOf_iff_prefix.2 (List.prefix_append _ _)
  unfold realignLine
  rw [if_pos (by rw [hstart, Bool.and_true, decide_eq_true_eq]; exact h), List.drop_left]

theorem realignLine_otherwise (h : ¬b <+: line) (c : List Char) :
    realignLine b c line = line := by
  have hstart : b.isPrefixOf line = false := by
    rw [Bool.eq_false_iff]
    exact fun hprefix => h (List.isPrefixOf_iff_prefix.1 hprefix)
  unfold realignLine
  rw [if_neg (by rw [hstart, Bool.and_false]; exact Bool.false_ne_true)]

theorem realignLine_self (b line : List Char) : realignLine b b line = line := by
  by_cases h : b <+: line
  · obtain ⟨r, rfl⟩ := h
    by_cases hempty : b ++ r = []
    · rw [hempty, realignLine_nil]
    · exact realignLine_behind hempty b
  · exact realignLine_otherwise h b

theorem newline_notMem_realignLine (hc : '\n' ∉ c) (h : '\n' ∉ line) (b : List Char) :
    '\n' ∉ realignLine b c line := by
  unfold realignLine
  split
  · intro hmem
    exact (List.mem_append.1 hmem).elim hc fun hdrop => h (List.mem_of_mem_drop hdrop)
  · exact h

/-- A line that starts with the first indentation ends up behind the last one.  A line that starts
with neither stays where it is; one that starts with the middle one alone would be moved by mistake,
and one that is the first indentation and nothing else would be lost on the way if the middle one is
empty. -/
theorem realignLine_realignLine (h : line ≠ [] → b <+: line ∨ ¬m <+: line)
    (hline : m ≠ [] ∨ line ≠ b) (c : List Char) :
    realignLine m c (realignLine b m line) = realignLine b c line := by
  by_cases hempty : line = []
  · rw [hempty, realignLine_nil, realignLine_nil, realignLine_nil]
  by_cases hstart : b <+: line
  · obtain ⟨r, rfl⟩ := hstart
    have hmoved : m ++ r ≠ [] := by
      intro heq
      obtain ⟨hm, hr⟩ := List.append_eq_nil_iff.1 heq
      rcases hline with hline | hline
      · exact hline hm
      · exact hline (by rw [hr, List.append_nil])
    rw [realignLine_behind hempty, realignLine_behind hmoved, realignLine_behind hempty]
  · have hother : ¬m <+: line := (h hempty).resolve_left hstart
    rw [realignLine_otherwise hstart, realignLine_otherwise hother,
      realignLine_otherwise hstart]

/-- An indented line is realigned to the line with the other indentation. -/
theorem realignLine_indentLine (b c line : List Char) :
    realignLine b c (indentLine b line) = indentLine c line := by
  by_cases h : line = []
  · rw [h]
    rfl
  · have hne : b ++ line ≠ [] := fun heq => h (List.append_eq_nil_iff.1 heq).2
    rw [indentLine_of_ne_nil h, indentLine_of_ne_nil h, realignLine_behind hne]

end Lines

/-! ## §3. Texts. -/

section Texts

variable {a b c m s : List Char}

/-- To realign to the same indentation is to leave every line: no case of its own. -/
theorem realign_eq_mapLaterLines (b c s : List Char) :
    realign b c s = mapLaterLines (realignLine b c) s := by
  unfold realign
  split
  · rename_i h
    rw [h, mapLaterLines_eq_self (realignLine_self c)]
  · rfl

/-- To indent by nothing is to leave every line: no case of its own. -/
theorem reindent_eq_mapLaterLines (b s : List Char) :
    reindent b s = mapLaterLines (indentLine b) s := by
  unfold reindent
  split
  · rename_i h
    have hline : ∀ l, indentLine [] l = l := fun l => by
      unfold indentLine
      rw [List.nil_append, ite_self]
    rw [h, mapLaterLines_eq_self hline]
  · rfl

/-- **Indenting twice is indenting once, by both indentations.** -/
theorem reindent_append (ha : '\n' ∉ a) (b s : List Char) :
    reindent (b ++ a) s = reindent b (reindent a s) := by
  rw [reindent_eq_mapLaterLines, reindent_eq_mapLaterLines, reindent_eq_mapLaterLines,
    mapLaterLines_mapLaterLines _ (fun _ => newline_notMem_indentLine ha)]
  exact mapLaterLines_congr fun l _ => (indentLine_indentLine a b l).symm

/-- An indented text on a line of its own, put together from its lines. -/
theorem newline_reindent {first : List Char} {rest : List (List Char)}
    (hs : splitNewlines s = first :: rest) (b : List Char) :
    '\n' :: (b ++ reindent b s) = joinNewlines ([] :: (b ++ first) :: rest.map (indentLine b)) := by
  rw [reindent_eq_mapLaterLines, mapLaterLines_of_splitNewlines _ hs,
    joinNewlines_cons_of_ne_nil (List.cons_ne_nil _ _), List.nil_append]
  cases rest.map (indentLine b) with
  | nil => rfl
  | cons l ls =>
    rw [joinNewlines_cons_of_ne_nil (List.cons_ne_nil l ls),
      joinNewlines_cons_of_ne_nil (List.cons_ne_nil l ls), List.append_assoc]

/-- **REALIGNING IN TWO STEPS.**  If every line that starts with the middle indentation starts with
the first one as well, and none that is the first one and nothing else is emptied on the way, then
the two steps are the one from the first indentation to the last; and the step back undoes the
step. -/
theorem realign_realign (hm : '\n' ∉ m)
    (h : ∀ line ∈ (splitNewlines s).tail, line ≠ [] → b <+: line ∨ ¬m <+: line)
    (hline : m ≠ [] ∨ b ∉ (splitNewlines s).tail) :
    (∀ c, realign m c (realign b m s) = realign b c s) ∧ realign m b (realign b m s) = s := by
  have hsteps : ∀ c, realign m c (realign b m s) = realign b c s := by
    intro c
    rw [realign_eq_mapLaterLines, realign_eq_mapLaterLines, realign_eq_mapLaterLines,
      mapLaterLines_mapLaterLines _ (fun _ hl => newline_notMem_realignLine hm hl b)]
    refine mapLaterLines_congr fun l hl => realignLine_realignLine (h l hl) ?_ c
    exact hline.imp_right fun hb heq => hb (heq ▸ hl)
  refine ⟨hsteps, ?_⟩
  rw [hsteps b, realign_eq_mapLaterLines, mapLaterLines_eq_self (realignLine_self b)]

/-- A text with an empty line, a line of indentation alone and a line too shallow to move goes from
two blanks to a tab and from there to four blanks, or back. -/
theorem realign_realign_mixedLines :
    realign ['\t'] "    ".toList (realign "  ".toList ['\t'] "  a\n  b\n\n   c\n  \n d".toList)
        = "  a\n    b\n\n     c\n    \n d".toList
      ∧ realign ['\t'] "  ".toList (realign "  ".toList ['\t'] "  a\n  b\n\n   c\n  \n d".toList)
        = "  a\n  b\n\n   c\n  \n d".toList := by
  obtain ⟨hsteps, hback⟩ := realign_realign (b := "  ".toList) (m := ['\t'])
    (s := "  a\n  b\n\n   c\n  \n d".toList) (by decide) (by decide) (by decide)
  exact ⟨(hsteps _).trans (by decide), hback⟩

/-- **REINDENTING IN SEVERAL STEPS.**  Nothing is added by an empty indentation, two indentations add
up, and an indented text on a line of its own is realigned to the text with the other indentation.
The line must not be empty: with an empty first line and an empty indentation there is nothing that
could be moved. -/
theorem reindent_composes (s : List Char) :
    reindent [] s = s
      ∧ (∀ a b, '\n' ∉ a → reindent b (reindent a s) = reindent (b ++ a) s)
      ∧ ∀ b c, '\n' ∉ b → (splitNewlines s).head? ≠ some [] ∨ b ≠ [] →
        realign b c ('\n' :: (b ++ reindent b s)) = '\n' :: (c ++ reindent c s) := by
  refine ⟨rfl, fun a b ha => (reindent_append ha b s).symm, fun b c hb hfirst => ?_⟩
  -- the lines of the indented text: an empty one in front, and the first one is no longer first
  obtain ⟨first, rest, hs⟩ := List.exists_cons_of_ne_nil (splitNewlines_ne_nil s)
  have hlines : ∀ l ∈ first :: rest, '\n' ∉ l := fun l hl =>
    newline_notMem_of_mem_splitNewlines (hs ▸ hl)
  have hindented : ∀ l ∈ [] :: (b ++ first) :: rest.map (indentLine b), '\n' ∉ l := by
    intro l hl
    rcases List.mem_cons.1 hl with rfl | hl
    · exact List.not_mem_nil
    rcases List.mem_cons.1 hl with rfl | hl
    · intro hmem
      exact (List.mem_append.1 hmem).elim hb (hlines first List.mem_cons_self)
    · obtain ⟨l', hl', rfl⟩ := List.mem_map.1 hl
      exact newline_notMem_indentLine hb (hlines l' (List.mem_cons_of_mem first hl'))
  have hmoved : b ++ first ≠ [] := by
    intro heq
    obtain ⟨hempty, rfl⟩ := List.append_eq_nil_iff.1 heq
    rcases hfirst with hfirst | hfirst
    · exact hfirst (by rw [hs, List.head?_cons])
    · exact hfirst hempty
  have hrest : (rest.map (indentLine b)).map (realignLine b c) = rest.map (indentLine c) := by
    rw [List.map_map]
    exact List.map_congr_left fun l _ => realignLine_indentLine b c l
  rw [newline_reindent hs b, newline_reindent hs c, realign_eq_mapLaterLines,
    mapLaterLines_joinNewlines _ hindented, List.map_cons, realignLine_behind hmoved, hrest]

/-- A text that starts with an empty line, indented by a tab on top of a blank, and realigned from a
tab to two blanks. -/
theorem reindent_composes_emptyFirstLine :
    reindent ['\t'] (reindent [' '] "\na\n\n\tb".toList) = "\n\t a\n\n\t \tb".toList
      ∧ realign ['\t'] "  ".toList ('\n' :: '\t' :: reindent ['\t'] "\na\n\n\tb".toList)
        = "\n  \n  a\n\n  \tb".toList := by
  obtain ⟨-, hadd, hmove⟩ := reindent_composes "\na\n\n\tb".toList
  exact ⟨(hadd [' '] ['\t'] (by decide)).trans (by decide),
    (hmove ['\t'] "  ".toList (by decide) (by decide)).trans (by decide)⟩

end Texts

end Inlay.Indent
