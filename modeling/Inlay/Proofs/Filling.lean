/-
  Inlay.Proofs.Filling
  ────────────────────────────────
  **FILLING WHERE THERE IS NOTHING TO FILL.**

  `fill` replaces bodies that are a single `pass`.  A piece of code that has
  no way to any slot of a filling is what it was afterwards.
-/
import Inlay.Code.Skeleton

namespace Inlay.Code

@[simp]
theorem stepTo_eq_none (step : Step) (path : Option (List Step)) :
    stepTo step path = none ↔ path = none := by
  unfold stepTo
  exact Option.map_eq_none_iff

/-- Has a filling nothing for any slot that a piece of code has a way to? -/
def Filling.Misses (fill : Filling) (path : Nat → Option (List Step)) : Prop :=
  ∀ line, (fill line).isSome → path line = none

/-- A body that the filling replaces has a way to its slot. -/
theorem Filling.Misses.of?_eq_none {fill : Filling} {ss : List Stmt}
    (h : fill.Misses (bodyPath? · ss)) : fill.of? ss = none := by
  unfold Filling.of?
  split
  · rename_i line
    cases hline : fill line with
    | none => rfl
    | some b =>
      have hpath := h line (by rw [hline]; rfl)
      simp [bodyPath?, isSlot] at hpath
  · rfl

mutual

theorem fill_of_misses (fill : Filling) :
    ∀ s : Stmt, fill.Misses s.slotPath? → s.fill fill = s
  | .conditional _ body orelse, h => by
    have h' : ∀ line, (fill line).isSome → bodyPath? line body = none ∧ bodyPath? line orelse = none :=
      fun line hline => by simpa [Stmt.slotPath?] using h line hline
    unfold Stmt.fill
    rw [fillBody_of_misses fill body (fun line hline => (h' line hline).1),
      fillBody_of_misses fill orelse (fun line hline => (h' line hline).2)]
  | .whileLoop _ body orelse, h => by
    have h' : ∀ line, (fill line).isSome → bodyPath? line body = none ∧ bodyPath? line orelse = none :=
      fun line hline => by simpa [Stmt.slotPath?] using h line hline
    unfold Stmt.fill
    rw [fillBody_of_misses fill body (fun line hline => (h' line hline).1),
      fillBody_of_misses fill orelse (fun line hline => (h' line hline).2)]
  | .forLoop _ _ _ body orelse, h => by
    have h' : ∀ line, (fill line).isSome → bodyPath? line body = none ∧ bodyPath? line orelse = none :=
      fun line hline => by simpa [Stmt.slotPath?] using h line hline
    unfold Stmt.fill
    rw [fillBody_of_misses fill body (fun line hline => (h' line hline).1),
      fillBody_of_misses fill orelse (fun line hline => (h' line hline).2)]
  | .withBlock _ _ body, h => by
    have h' : fill.Misses (bodyPath? · body) :=
      fun line hline => by simpa [Stmt.slotPath?] using h line hline
    unfold Stmt.fill
    rw [fillBody_of_misses fill body h']
  | .tryBlock _ body handlers orelse finalbody, h => by
    have h' : ∀ line, (fill line).isSome → bodyPath? line body = none ∧
        handlerPath? line 0 handlers = none ∧ bodyPath? line orelse = none ∧
        bodyPath? line finalbody = none :=
      fun line hline => by simpa [Stmt.slotPath?] using h line hline
    unfold Stmt.fill
    rw [fillBody_of_misses fill body (fun line hline => (h' line hline).1),
      fillHandlers_of_misses fill handlers 0 (fun line hline => (h' line hline).2.1),
      fillBody_of_misses fill orelse (fun line hline => (h' line hline).2.2.1),
      fillBody_of_misses fill finalbody (fun line hline => (h' line hline).2.2.2)]
  | .matchBlock _ cases, h => by
    unfold Stmt.fill
    rw [fillCases_of_misses fill cases 0 h]
  | .function _ _ _ body _ _, h => by
    have h' : fill.Misses (bodyPath? · body) :=
      fun line hline => by simpa [Stmt.slotPath?] using h line hline
    unfold Stmt.fill
    rw [fillBody_of_misses fill body h']
  | .classBlock _ _ _ body _, h => by
    have h' : fill.Misses (bodyPath? · body) :=
      fun line hline => by simpa [Stmt.slotPath?] using h line hline
    unfold Stmt.fill
    rw [fillBody_of_misses fill body h']
  | .expression _, _ => rfl
  | .assign _ _, _ => rfl
  | .augment _ _ _, _ => rfl
  | .annotate _ _ _ _, _ => rfl
  | .delete _, _ => rfl
  | .pass _, _ => rfl
  | .breakLoop, _ => rfl
  | .continueLoop, _ => rfl
  | .giveBack _, _ => rfl
  | .throw _ _, _ => rfl
  | .assertion _ _, _ => rfl
  | .importModules _, _ => rfl
  | .importMembers _ _ _, _ => rfl
  | .globals _, _ => rfl
  | .nonlocals _, _ => rfl

theorem fillBody_of_misses (fill : Filling) :
    ∀ ss : List Stmt, fill.Misses (bodyPath? · ss) → fillBody fill ss = ss
  | [], _ => rfl
  | s :: ss, h => by
    have h' : ∀ line, (fill line).isSome → s.slotPath? line = none ∧ restPath? line 1 ss = none := by
      intro line hline
      have hpath : bodyPath? line (s :: ss) = none := h line hline
      unfold bodyPath? at hpath
      split at hpath
      · simp at hpath
      · simpa using hpath
    unfold fillBody
    rw [h.of?_eq_none, fill_of_misses fill s (fun line hline => (h' line hline).1),
      fillRest_of_misses fill ss 1 (fun line hline => (h' line hline).2)]
    rfl

theorem fillRest_of_misses (fill : Filling) :
    ∀ (ss : List Stmt) (index : Nat), fill.Misses (restPath? · index ss) → fillRest fill ss = ss
  | [], _, _ => rfl
  | s :: ss, index, h => by
    have h' : ∀ line, (fill line).isSome →
        s.slotPath? line = none ∧ restPath? line (index + 1) ss = none :=
      fun line hline => by simpa [restPath?] using h line hline
    unfold fillRest
    rw [fill_of_misses fill s (fun line hline => (h' line hline).1),
      fillRest_of_misses fill ss (index + 1) (fun line hline => (h' line hline).2)]

theorem fillHandlers_of_misses (fill : Filling) :
    ∀ (hs : List Handler) (index : Nat), fill.Misses (handlerPath? · index hs) →
      fillHandlers fill hs = hs
  | [], _, _ => rfl
  | .mk type name body :: rest, index, h => by
    have h' : ∀ line, (fill line).isSome →
        bodyPath? line body = none ∧ handlerPath? line (index + 1) rest = none :=
      fun line hline => by simpa [handlerPath?] using h line hline
    unfold fillHandlers
    rw [fillBody_of_misses fill body (fun line hline => (h' line hline).1),
      fillHandlers_of_misses fill rest (index + 1) (fun line hline => (h' line hline).2)]

theorem fillCases_of_misses (fill : Filling) :
    ∀ (cs : List Case) (index : Nat), fill.Misses (casePath? · index cs) → fillCases fill cs = cs
  | [], _, _ => rfl
  | .mk pattern guard body :: rest, index, h => by
    have h' : ∀ line, (fill line).isSome →
        bodyPath? line body = none ∧ casePath? line (index + 1) rest = none :=
      fun line hline => by simpa [casePath?] using h line hline
    unfold fillCases
    rw [fillBody_of_misses fill body (fun line hline => (h' line hline).1),
      fillCases_of_misses fill rest (index + 1) (fun line hline => (h' line hline).2)]

end

end Inlay.Code
