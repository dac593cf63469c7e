/-
  Inlay.Proofs.Replacing
  ────────────────────────────────
  **REALIGNING IS REPLACING.**

  A text is realigned line by line.  The same comes out where nobody looks at
  lines: one pass over the text replaces every newline with the baseline
  behind it by a newline with the new indentation.

      Replaced           — what such a pass makes of a text
      replaced_replaceIn — the replacing that cuts a text into pieces is a pass
      realign_replaces   — so is realigning

  An empty baseline stands behind every newline, also where the line is empty
  and does not move, so it has a rule of its own: the new indentation goes
  behind every newline that starts a line with something on it.
-/
import Inlay.Proofs.Realigning
import Inlay.Text.Search

namespace Inlay.Text

/-! ## §1. One pass over a text. -/

/-- Is the second text the first one after a pass from left to right that replaces `old` by `new`
wherever it meets it?  What is replaced is passed over as a whole, and nothing else changes. -/
inductive Replaced (old new : List Char) : List Char → List Char → Prop
  | nil : Replaced old new [] []
  | met {s t : List Char} (h : Replaced old new s t) : Replaced old new (old ++ s) (new ++ t)
  | passed {c : Char} {s t : List Char} (hnot : ¬old <+: c :: s) (h : Replaced old new s t) :
    Replaced old new (c :: s) (c :: t)

namespace Replaced

variable {old new s t u : List Char}

/-- What a pass can have done, by what stands at its start. -/
theorem inversion (h : Replaced old new s t) :
    (s = [] ∧ t = [])
      ∨ (∃ s' t', s = old ++ s' ∧ t = new ++ t' ∧ Replaced old new s' t')
      ∨ ∃ c s' t', s = c :: s' ∧ t = c :: t' ∧ ¬old <+: s ∧ Replaced old new s' t' := by
  cases h with
  | nil => exact .inl ⟨rfl, rfl⟩
  | met h => exact .inr (.inl ⟨_, _, rfl, rfl, h⟩)
  | passed hnot h => exact .inr (.inr ⟨_, _, _, rfl, rfl, hnot, h⟩)

/-- **A pass has one outcome**, unless it replaces nothing at all by something. -/
theorem unique (hold : old ≠ []) (h : Replaced old new s t) (h' : Replaced old new s u) :
    t = u := by
  induction h generalizing u with
  | nil =>
    rcases h'.inversion with ⟨-, rfl⟩ | ⟨s', t', hs, -, -⟩ | ⟨c, s', t', hs, -⟩
    · rfl
    · exact absurd (List.append_eq_nil_iff.1 hs.symm).1 hold
    · cases hs
  | @met s t h ih =>
    rcases h'.inversion with ⟨hs, -⟩ | ⟨s', t', hs, rfl, h'⟩ | ⟨c, s', t', -, -, hnot, -⟩
    · exact absurd (List.append_eq_nil_iff.1 hs).1 hold
    · obtain rfl := List.append_cancel_left hs
      rw [ih h']
    · exact absurd (List.prefix_append old s) hnot
  | @passed c s t hnot h ih =>
    rcases h'.inversion with ⟨hs, -⟩ | ⟨s', t', hs, -, -⟩ | ⟨d, s', t', hs, rfl, -, h'⟩
    · cases hs
    · exact absurd (hs ▸ List.prefix_append old s') hnot
    · obtain ⟨rfl, rfl⟩ := List.cons.inj hs
      rw [ih h']

/-- A stretch without the first character of what is replaced is passed. -/
theorem stretch {d : Char} {w : List Char} (hw : d ∉ w) (h : Replaced (d :: old) new s t) :
    Replaced (d :: old) new (w ++ s) (w ++ t) := by
  induction w with
  | nil => exact h
  | cons c w ih =>
    obtain ⟨hc, hw⟩ := List.ne_and_not_mem_of_not_mem_cons hw
    exact .passed (fun hprefix => hc (List.cons_prefix_cons.1 hprefix).1) (ih hw)

end Replaced

/-! ## §2. Replacing part by part. -/

section Pieces

variable {old : List Char}

theorem piecesBetween_ne_nil (old : List Char) (limit : Nat) (piece : List Char) (skip : Nat)
    (s : List Char) : piecesBetween old limit piece skip s ≠ [] := by
  fun_induction piecesBetween old limit piece skip s with
  | case1 => exact List.cons_ne_nil _ _
  | case2 _ _ _ _ _ ih => exact ih
  | case3 => exact List.cons_ne_nil _ _
  | case4 => exact List.cons_ne_nil _ _
  | case5 _ _ _ _ _ ih => exact ih

/-- The pieces of a text, with `new` between them, are what a pass makes of it. -/
theorem replaced_pieces (hold : old ≠ []) (new : List Char) {limit skip : Nat}
    {piece s : List Char} (hskip : skip ≤ s.length) (hlimit : s.length ≤ limit + skip) :
    ∃ t, Replaced old new (s.drop skip) t
      ∧ new.intercalate (piecesBetween old limit piece skip s) = piece.reverse ++ t := by
  fun_induction piecesBetween old limit piece skip s with
  | case1 limit piece skip =>
    refine ⟨[], by rw [List.drop_nil]; exact .nil, ?_⟩
    rw [List.intercalate_singleton, List.append_nil]
  | case2 limit piece c s k ih =>
    rw [List.length_cons] at hskip hlimit
    exact ih (Nat.le_of_succ_le_succ hskip) (Nat.le_of_succ_le_succ hlimit)
  | case3 piece c s => exact absurd hlimit (Nat.not_succ_le_zero _)
  | case4 piece c s n hprefix ih =>
    -- the separator starts here: what is left of it is skipped
    obtain ⟨r, hr⟩ := List.isPrefixOf_iff_prefix.1 hprefix
    have hlength : old.length + r.length = s.length + 1 := by
      rw [← List.length_append, hr, List.length_cons]
    have hpos : 0 < old.length := List.length_pos_iff.2 hold
    rw [List.length_cons] at hlimit
    obtain ⟨t, ht, hpieces⟩ := ih (by omega) (by omega)
    have hrest : s.drop (old.length - 1) = r := by
      have hdrop := congrArg (List.drop old.length) hr
      rw [List.drop_left, ← Nat.succ_pred_eq_of_pos hpos, List.drop_succ_cons] at hdrop
      exact hdrop.symm
    rw [hrest] at ht
    obtain ⟨l, ls, hls⟩ := List.exists_cons_of_ne_nil
      (piecesBetween_ne_nil old n [] (old.length - 1) s)
    refine ⟨new ++ t, ?_, ?_⟩
    · rw [List.drop_zero, ← hr]
      exact .met ht
    · rw [hls, List.intercalate_cons_cons, ← hls, hpieces, List.reverse_nil, List.nil_append,
        List.append_assoc]
  | case5 piece c s n hprefix ih =>
    rw [List.length_cons] at hlimit
    obtain ⟨t, ht, hpieces⟩ := ih (Nat.zero_le _) (by omega)
    refine ⟨c :: t, .passed (fun h => hprefix (List.isPrefixOf_iff_prefix.2 h)) ht, ?_⟩
    rw [hpieces, List.reverse_cons, List.append_assoc]
    rfl

/-- **Replacing part by part is one pass**, if it is allowed often enough. -/
theorem replaced_replaceIn (hold : old ≠ []) (new : List Char) {limit : Nat} {s : List Char}
    (hlimit : s.length ≤ limit) : Replaced old new s (replaceIn old new limit s) := by
  obtain ⟨t, ht, hpieces⟩ : ∃ t, Replaced old new s t
      ∧ new.intercalate (piecesBetween old limit [] 0 s) = t :=
    replaced_pieces hold new (Nat.zero_le _) hlimit
  have hempty : old.isEmpty = false := Bool.eq_false_iff.2 fun h => hold (List.isEmpty_iff.1 h)
  unfold replaceIn splitOn
  rw [hempty, if_neg Bool.false_ne_true, hpieces]
  exact ht

end Pieces

end Inlay.Text

namespace Inlay.Indent

open Inlay.Text

/-! ## §3. Realigning. -/

/-- Lines behind the first one, each with the newline in front of it. -/
def laterLines (rest : List (List Char)) : List Char := rest.flatMap ('\n' :: ·)

theorem joinNewlines_eq_append (first : List Char) (rest : List (List Char)) :
    joinNewlines (first :: rest) = first ++ laterLines rest := by
  induction rest generalizing first with
  | nil => exact (List.append_nil first).symm
  | cons l ls ih => rw [joinNewlines_cons_of_ne_nil (List.cons_ne_nil l ls), ih l]; rfl

section Lines

variable {b l : List Char} {rest : List (List Char)}

/-- Lines that follow start with no indentation that holds no newline. -/
theorem prefix_of_prefix_append_laterLines (hb : '\n' ∉ b) (h : b <+: l ++ laterLines rest) :
    b <+: l := by
  rcases Nat.le_total b.length l.length with hle | hle
  · exact List.prefix_of_prefix_length_le h (List.prefix_append l _) hle
  · obtain ⟨r, rfl⟩ := List.prefix_of_prefix_length_le (List.prefix_append l _) h hle
    rw [List.prefix_append_right_inj] at h
    cases r with
    | nil => exact ⟨[], by rw [List.append_nil, List.append_nil]⟩
    | cons c r =>
      -- more of the indentation would start with the newline in front of the next line
      cases rest with
      | nil => exact absurd (List.prefix_nil.1 h) (List.cons_ne_nil c r)
      | cons m ms =>
        obtain rfl := (List.cons_prefix_cons.1 h).1
        exact absurd (List.mem_append_right l List.mem_cons_self) hb

theorem replaced_laterLines (hne : b ≠ []) (hb : '\n' ∉ b) (c : List Char)
    (hrest : ∀ l ∈ rest, '\n' ∉ l) :
    Replaced ('\n' :: b) ('\n' :: c) (laterLines rest)
      (laterLines (rest.map (realignLine b c))) := by
  induction rest with
  | nil => exact .nil
  | cons l ls ih =>
    obtain ⟨hl, hls⟩ := List.forall_mem_cons.1 hrest
    have hmore := ih hls
    show Replaced _ _ ('\n' :: (l ++ laterLines ls))
      ('\n' :: (realignLine b c l ++ laterLines (ls.map (realignLine b c))))
    by_cases hstart : b <+: l
    · obtain ⟨r, rfl⟩ := hstart
      have hr : '\n' ∉ r := fun hmem => hl (List.mem_append_right b hmem)
      rw [realignLine_behind (fun h => hne (List.append_eq_nil_iff.1 h).1), List.append_assoc,
        List.append_assoc]
      exact .met (hmore.stretch hr)
    · rw [realignLine_otherwise hstart]
      refine .passed (fun hprefix => hstart ?_) (hmore.stretch hl)
      exact prefix_of_prefix_append_laterLines hb (List.cons_prefix_cons.1 hprefix).2

end Lines

/-- The text with `w` behind every newline that neither another newline nor the end of the text
follows. -/
def putBehindNewlines (w : List Char) : List Char → List Char
  | [] => []
  | c :: s =>
    if c = '\n' ∧ s ≠ [] ∧ s.head? ≠ some '\n' then c :: (w ++ putBehindNewlines w s)
    else c :: putBehindNewlines w s

theorem putBehindNewlines_stretch {l : List Char} (hl : '\n' ∉ l) (w s : List Char) :
    putBehindNewlines w (l ++ s) = l ++ putBehindNewlines w s := by
  induction l with
  | nil => rfl
  | cons c l ih =>
    obtain ⟨hc, hl⟩ := List.ne_and_not_mem_of_not_mem_cons hl
    rw [List.cons_append, putBehindNewlines, if_neg (fun h => hc h.1.symm), ih hl]
    rfl

/-- The indentation goes in front of a line, unless this is empty. -/
theorem putBehindNewlines_line {l : List Char} (hl : '\n' ∉ l) (w : List Char)
    (rest : List (List Char)) :
    putBehindNewlines w ('\n' :: (l ++ laterLines rest))
      = '\n' :: (realignLine [] w l ++ putBehindNewlines w (laterLines rest)) := by
  cases l with
  | nil =>
    have hnot : ¬('\n' = '\n' ∧ laterLines rest ≠ [] ∧ (laterLines rest).head? ≠ some '\n') := by
      rintro ⟨-, hne, hhead⟩
      cases rest with
      | nil => exact hne rfl
      | cons m ms => exact hhead rfl
    rw [realignLine_nil, List.nil_append, List.nil_append, putBehindNewlines, if_neg hnot]
  | cons d l =>
    have hd : some d ≠ some '\n' := fun h => hl (Option.some.inj h ▸ List.mem_cons_self)
    have hmoved : realignLine [] w (d :: l) = w ++ (d :: l) :=
      realignLine_behind (b := []) (List.cons_ne_nil d l) w
    rw [putBehindNewlines, if_pos ⟨rfl, List.cons_ne_nil d _, hd⟩, putBehindNewlines_stretch hl,
      hmoved, List.append_assoc]

theorem putBehindNewlines_laterLines (w : List Char) {rest : List (List Char)}
    (hrest : ∀ l ∈ rest, '\n' ∉ l) :
    putBehindNewlines w (laterLines rest) = laterLines (rest.map (realignLine [] w)) := by
  induction rest with
  | nil => rfl
  | cons l ls ih =>
    obtain ⟨hl, hls⟩ := List.forall_mem_cons.1 hrest
    exact (putBehindNewlines_line hl w ls).trans (by rw [ih hls]; rfl)

/-- A realigned text: its first line as it is, and the others realigned behind it. -/
theorem realign_eq_append {s first : List Char} {rest : List (List Char)}
    (hs : splitNewlines s = first :: rest) (b c : List Char) :
    realign b c s = first ++ laterLines (rest.map (realignLine b c)) := by
  rw [realign_eq_mapLaterLines, mapLaterLines_of_splitNewlines _ hs, joinNewlines_eq_append]

/-- **REALIGNING IS REPLACING.**  A pass that replaces the newlines in front of the baseline, each
with the baseline, ends with the realigned text and no other; so does replacing as a text method
does it.  Where the baseline is empty, the indentation goes behind every newline that starts a line
with something on it.  Both hold as well where the two indentations are the same. -/
theorem realign_replaces (c s : List Char) :
    (∀ b, b ≠ [] → '\n' ∉ b →
        (∀ t, Replaced ('\n' :: b) ('\n' :: c) s t ↔ realign b c s = t)
          ∧ replaceIn ('\n' :: b) ('\n' :: c) s.length s = realign b c s)
      ∧ realign [] c s = putBehindNewlines c s := by
  obtain ⟨first, rest, hs⟩ := List.exists_cons_of_ne_nil (splitNewlines_ne_nil s)
  have htext : s = first ++ laterLines rest := by
    rw [← joinNewlines_eq_append, ← hs, joinNewlines_splitNewlines]
  obtain ⟨hfirst, hrest⟩ := List.forall_mem_cons.1
    (fun l (hl : l ∈ first :: rest) => newline_notMem_of_mem_splitNewlines (hs ▸ hl))
  refine ⟨fun b hne hb => ?_, ?_⟩
  · have hpass := (replaced_laterLines hne hb c hrest).stretch hfirst
    rw [← htext, ← realign_eq_append hs] at hpass
    have hold : '\n' :: b ≠ [] := List.cons_ne_nil _ _
    exact ⟨fun t => ⟨hpass.unique hold, fun h => h ▸ hpass⟩,
      (replaced_replaceIn hold _ (Nat.le_refl _)).unique hold hpass⟩
  · rw [realign_eq_append hs, ← putBehindNewlines_laterLines c hrest,
      ← putBehindNewlines_stretch hfirst, ← htext]

/-- A text with empty lines and lines of blanks alone goes from two blanks to a tab; another one is
replaced by what it is. -/
theorem realign_replaces_mixedLines :
    Replaced ('\n' :: "  ".toList) ['\n', '\t'] "  x\n  a\n\n  \n c\n    d\n \n  ".toList
        "  x\n\ta\n\n\t\n c\n\t  d\n \n\t".toList
      ∧ replaceIn ['\n', ' '] ['\n', ' '] 6 ['\n', ' ', ' ', '\n', '\n', ' ']
        = ['\n', ' ', ' ', '\n', '\n', ' '] := by
  obtain ⟨hmoved, -⟩ := realign_replaces ['\t'] "  x\n  a\n\n  \n c\n    d\n \n  ".toList
  obtain ⟨hstays, -⟩ := realign_replaces [' '] ['\n', ' ', ' ', '\n', '\n', ' ']
  exact ⟨((hmoved "  ".toList (by decide) (by decide)).1 _).2 (by decide),
    (hstays [' '] (by decide) (by decide)).2⟩

end Inlay.Indent
