/-
  Inlay.Proofs.Building
  ────────────────────────────────
  **THE STATEMENTS OF A TREE DO WHAT WALKING IT DOES.**

  Building claims lists in the order of the openers.  So the statements of a
  node may use the lists above the number in use when they were built, and
  leave the others alone; this is what keeps the lists of nested blocks and
  of neighbours apart.
-/
import Inlay.Proofs.Desk

namespace Inlay

open Inlay.Code Inlay.Program

/-! ## §1. What building makes. -/

namespace Program

theorem Build.of_bind {α β : Type} {x : Build α} {f : α → Build β} {q r : Progress} {b : β}
    (h : (x >>= f) q = .ok (b, r)) : ∃ a t, x q = .ok (a, t) ∧ f a t = .ok (b, r) := by
  cases hx : x q with
  | error e =>
    have herr : (x >>= f) q = .error e := by
      show (x q >>= _) = _
      rw [hx]
      rfl
    rw [herr] at h
    simp at h
  | ok at' =>
    refine ⟨at'.1, at'.2, rfl, ?_⟩
    rw [← h]
    show _ = (x q >>= _)
    rw [hx]
    rfl

theorem refuse_ne_ok {α : Type} {e : Refusal} {q : Progress} {r : α × Progress} :
    (refuse e : Build α) q ≠ .ok r := by
  unfold refuse
  simp

theorem markerCode_ok {m : Marker Placement} {q r : Progress} {code : String}
    (h : markerCode m q = .ok (code, r)) : code = Header.normalize m.code ∧ r = q := by
  unfold markerCode at h
  cases hnul : (Header.normalize m.code).toList.contains '\x00' with
  | true =>
    rw [hnul, if_pos rfl] at h
    exact absurd h refuse_ne_ok
  | false =>
    rw [hnul, if_neg Bool.false_ne_true] at h
    obtain ⟨hcode, hprogress⟩ := Prod.mk.inj (Except.ok.inj h)
    exact ⟨hcode.symm, hprogress.symm⟩

theorem checkDepth_ok {fits : Descent → Nat → Bool} {q r : Progress} {u : Unit}
    (h : checkDepth fits q = .ok (u, r)) : r = q := by
  unfold checkDepth at h
  split at h
  · exact absurd h refuse_ne_ok
  · split at h
    · exact absurd h refuse_ne_ok
    · cases h
      rfl

theorem noteExtents_ok {m : Marker Placement} {extents : Unit → List Extent} {q r : Progress}
    {u : Unit} (h : noteExtents m extents q = .ok (u, r)) : r.buffers = q.buffers := by
  unfold noteExtents noteRegions at h
  cases h
  rfl

theorem silentStmts_ok {m : Marker Placement} {q r : Progress} {stmts : List Stmt}
    (h : silentStmts m q = .ok (stmts, r)) :
    r.buffers = q.buffers ∧ ∃ ss, parseStatements? (Header.normalize m.code) = some ss ∧
      stmts = noteLine m.position :: ss.map (wrapIncludesIn m.note.indentation) := by
  unfold silentStmts at h
  obtain ⟨code, q₁, hcode, h₁⟩ := Build.of_bind h
  obtain ⟨rfl, rfl⟩ := markerCode_ok hcode
  cases hss : parseStatements? (Header.normalize m.code) with
  | none =>
    rw [hss] at h₁
    exact absurd h₁ refuse_ne_ok
  | some ss =>
    rw [hss] at h₁
    obtain ⟨_, q₂, hdepth, h₂⟩ := Build.of_bind h₁
    obtain rfl := checkDepth_ok hdepth
    obtain ⟨_, q₃, hnote, h₃⟩ := Build.of_bind h₂
    cases h₃
    exact ⟨noteExtents_ok hnote, ss, rfl, rfl⟩

theorem outputStmts_ok {buffer : String} {m : Marker Placement} {q r : Progress}
    {stmts : List Stmt} (h : outputStmts buffer m q = .ok (stmts, r)) :
    r.buffers = q.buffers ∧ ∃ e, parseExpression? (Header.normalize m.code) = some e ∧
      stmts = [noteLine m.position, appendTo buffer
        (if m.note.trimsNewline then
          realigned (callOf (.name textName) [wrapIncludes m.note.indentation e])
            m.note.indentation m.note.indentation true
        else callOf (.name textName) [wrapIncludes m.note.indentation e])] := by
  unfold outputStmts at h
  obtain ⟨code, q₁, hcode, h₁⟩ := Build.of_bind h
  obtain ⟨rfl, rfl⟩ := markerCode_ok hcode
  cases he : parseExpression? (Header.normalize m.code) with
  | none =>
    rw [he] at h₁
    exact absurd h₁ refuse_ne_ok
  | some e =>
    rw [he] at h₁
    obtain ⟨_, q₂, hdepth, h₂⟩ := Build.of_bind h₁
    obtain rfl := checkDepth_ok hdepth
    obtain ⟨_, q₃, hnote, h₃⟩ := Build.of_bind h₂
    cases h₃
    exact ⟨noteExtents_ok hnote, e, rfl, rfl⟩

theorem blockSkeleton_ok {m : Marker Placement} {headers : List String} {q r : Progress}
    {s : Skeleton} (h : blockSkeleton m headers q = .ok (s, r)) :
    r.buffers = q.buffers ∧ ∃ s', skeleton headers = .ok s' ∧ s.slots = s'.slots ∧
      s.statement = wrapIncludesIn m.note.indentation s'.statement := by
  unfold blockSkeleton at h
  cases hs : skeleton headers with
  | error e =>
    rw [hs] at h
    cases e <;> exact absurd h refuse_ne_ok
  | ok s' =>
    rw [hs] at h
    obtain ⟨_, q₁, hdepth, h₁⟩ := Build.of_bind h
    obtain rfl := checkDepth_ok hdepth
    obtain ⟨_, q₂, hnote, h₂⟩ := Build.of_bind h₁
    cases h₂
    exact ⟨noteExtents_ok hnote, s', rfl, rfl, rfl⟩

theorem checkBlank_ok {body : List (Node Placement)} {q r : Progress} {u : Unit}
    (h : checkBlank body q = .ok (u, r)) : r = q := by
  unfold checkBlank at h
  cases hf : body.find? (!isBlankText ·) <;> rw [hf] at h
  · cases h
    rfl
  · exact absurd h refuse_ne_ok

theorem orPass_ok {p : Position} {body stmts : List Stmt} {q r : Progress}
    (h : orPass p body q = .ok (stmts, r)) :
    r.buffers = q.buffers ∧ (stmts = body ∨ (body = [] ∧ stmts = [.pass 0])) := by
  unfold orPass at h
  cases body with
  | nil =>
    obtain ⟨_, q₁, hnote, h₁⟩ := Build.of_bind h
    cases h₁
    cases hnote
    exact ⟨rfl, Or.inr ⟨rfl, rfl⟩⟩
  | cons s ss =>
    cases h
    exact ⟨rfl, Or.inl rfl⟩

end Program

/-! ## §2. Nodes. -/

section Nodes

variable {context : Ref} {fr : Frame} (p : Power)

/-- A silent marker. -/
theorem silentStmts_follows {d : Desk} (hfr : fr.scopes = []) (hd : d.IsSound context fr.globals)
    {m : Marker Placement} {q r : Progress} {stmts : List Stmt}
    (h : silentStmts m q = .ok (stmts, r)) :
    Follows (Writing context fr.globals d) (runBody p fr stmts) (walkSilent p fr context m) := by
  obtain ⟨-, ss, hss, rfl⟩ := silentStmts_ok h
  unfold walkSilent
  rw [hss]
  exact noteLine_cons_follows p hfr hd m.position (Follows.run Writing.stable _)

/-- A marker that writes a value. -/
theorem outputStmts_follows {d : Desk} (hfr : fr.scopes = []) (hd : d.IsSound context fr.globals)
    {m : Marker Placement} {q r : Progress} {stmts : List Stmt}
    (h : outputStmts d.buffer m q = .ok (stmts, r)) :
    Follows (Writing context fr.globals d) (runBody p fr stmts) (walkOutput p fr context m) := by
  obtain ⟨-, e, he, rfl⟩ := outputStmts_ok h
  unfold walkOutput
  rw [he]
  exact noteLine_cons_follows p hfr hd m.position
    (outputPiece_follows p hfr hd (wrapIncludes m.note.indentation e) m.note)

/-- Do statements follow a walk wherever they write to a list, and so many lists are in use? -/
def WritesLike (context : Ref) (p : Power) (fr : Frame) (buffer : String) (used : Nat)
    (stmts : List Stmt) (walk : Walk Flow) : Prop :=
  ∀ d : Desk, d.IsSound context fr.globals → d.buffer = buffer → d.used = used →
    Follows (Writing context fr.globals d) (runBody p fr stmts) walk

variable {p}

theorem WritesLike.of_le {buffer : String} {used used' : Nat} {stmts : List Stmt}
    {walk : Walk Flow} (h : WritesLike context p fr buffer used' stmts walk) (hle : used ≤ used') :
    WritesLike context p fr buffer used stmts walk := by
  rintro d hd rfl rfl
  exact Follows.of_used hle hd h

/-- What does nothing can stand for no statements. -/
theorem WritesLike.pass {buffer : String} {used n : Nat} {walk : Walk Flow}
    (h : WritesLike context p fr buffer used [] walk) :
    WritesLike context p fr buffer used [.pass n] walk := by
  intro d hd hbuffer hused
  have hpass : runBody p fr [.pass n] = runBody p fr [] := by
    rw [runBody_cons]
    show (Pure.pure Flow.normal : Run Flow) >>= _ = _
    rw [pure_bind]
  rw [hpass]
  exact h d hd hbuffer hused

variable (p)

mutual

/-- **The statements of a node do what walking it does**, and leave the lists below the number they
started with alone. -/
theorem nodeStmts_ok (hfr : fr.scopes = []) :
    ∀ (node : Node Placement) (buffer : String) (q r : Progress) (stmts : List Stmt),
      nodeStmts buffer node q = .ok (stmts, r) → q.buffers ≤ r.buffers ∧
        WritesLike context p fr buffer q.buffers stmts (walkNode p fr context node)
  | .text pos v, buffer, q, r, stmts, h => by
    rw [nodeStmts] at h
    rw [walkNode]
    by_cases hv : v.isEmpty = true
    · rw [if_pos hv] at h
      cases h
      obtain rfl := String.isEmpty_iff.mp hv
      refine ⟨Nat.le_refl _, fun d _ _ _ => ⟨fun s w hw => ⟨rfl, hw.covers, hw.locked, ?_⟩⟩⟩
      rw [String.append_empty]
      exact hw.kept
    · rw [if_neg hv] at h
      obtain ⟨_, q₁, hnote, h₁⟩ := Build.of_bind h
      cases hnote
      cases h₁
      refine ⟨Nat.le_refl _, ?_⟩
      rintro d hd rfl -
      rw [runBody_singleton]
      have he : ∀ inner, textConstant v ≠ .starred inner := by
        unfold textConstant
        exact fun inner => Expr.noConfusion
      exact appendTo_follows p hfr hd he (x := Pure.pure v) (fun s ks text hks hheld => rfl)
  | .expr m, buffer, q, r, stmts, h => by
    rw [nodeStmts] at h
    rw [walkNode]
    by_cases hm : m.kind = .silent
    · rw [if_pos hm] at h ⊢
      refine ⟨Nat.le_of_eq (silentStmts_ok h).1.symm, ?_⟩
      rintro d hd rfl -
      exact silentStmts_follows p hfr hd h
    · rw [if_neg hm] at h ⊢
      refine ⟨Nat.le_of_eq (outputStmts_ok h).1.symm, ?_⟩
      rintro d hd rfl -
      exact outputStmts_follows p hfr hd h
  | .block m clauses, buffer, q, r, stmts, h => by
    rw [nodeStmts] at h
    rw [walkNode]
    obtain ⟨s, q₁, hskeleton, h₁⟩ := Build.of_bind h
    obtain ⟨hq, s', hs', hslots, hstatement⟩ := blockSkeleton_ok hskeleton
    unfold walkBlock
    rw [hs']
    dsimp only
    by_cases hm : m.kind = .pipe
    · rw [if_pos hm] at h₁ ⊢
      obtain ⟨target, q₂, htarget, h₂⟩ := Build.of_bind h₁
      cases htarget
      obtain ⟨bodies, q₃, hbodies, h₃⟩ := Build.of_bind h₂
      cases h₃
      obtain ⟨hle, hfills⟩ := clauseBodies_ok hfr clauses _ _ _ _ _ hbodies
      have hle' : q₁.buffers + 1 ≤ r.buffers := hle
      refine ⟨by omega, ?_⟩
      rintro d hd rfl hused
      rw [← hused.trans hq.symm] at hfills ⊢
      refine pipe_follows p hfr hd (fun d' hd' hb hu => ?_) m
      have hf : Fills (Writing context fr.globals d') p fr bodies
          (walkClauses p fr context s'.slots clauses) :=
        hslots ▸ hfills.imp (fun _ _ h => ⟨h.1, h.2 d' hd' hb hu⟩)
      rw [hstatement]
      exact hf.stmt Writing.stable _
    · rw [if_neg hm] at h₁ ⊢
      obtain ⟨bodies, q₂, hbodies, h₂⟩ := Build.of_bind h₁
      cases h₂
      obtain ⟨hle, hfills⟩ := clauseBodies_ok hfr clauses _ _ _ _ _ hbodies
      refine ⟨by omega, fun d hd hb hused => noteLine_cons_follows p hfr hd m.position ?_⟩
      have hf : Fills (Writing context fr.globals d) p fr bodies
          (walkClauses p fr context s'.slots clauses) :=
        hslots ▸ hfills.imp (fun _ _ h => ⟨h.1, h.2 d hd hb (hused.trans hq.symm)⟩)
      rw [runBody_singleton, hstatement]
      exact hf.stmt Writing.stable _

/-- The statements of nodes do what walking them does. -/
theorem bodyStmts_ok (hfr : fr.scopes = []) :
    ∀ (nodes : List (Node Placement)) (buffer : String) (q r : Progress) (stmts : List Stmt),
      bodyStmts buffer nodes q = .ok (stmts, r) → q.buffers ≤ r.buffers ∧
        WritesLike context p fr buffer q.buffers stmts (walkBody p fr context nodes)
  | [], buffer, q, r, stmts, h => by
    rw [bodyStmts] at h
    cases h
    exact ⟨Nat.le_refl _, fun _ _ _ _ => Follows.pure _⟩
  | node :: rest, buffer, q, r, stmts, h => by
    rw [bodyStmts] at h
    obtain ⟨first, q₁, hfirst, h₁⟩ := Build.of_bind h
    obtain ⟨more, q₂, hmore, h₂⟩ := Build.of_bind h₁
    cases h₂
    obtain ⟨hle, hnode⟩ := nodeStmts_ok hfr node buffer q q₁ first hfirst
    obtain ⟨hle', hrest⟩ := bodyStmts_ok hfr rest buffer q₁ r more hmore
    refine ⟨Nat.le_trans hle hle', fun d hd hbuffer hused => ?_⟩
    rw [walkBody]
    exact Follows.runBody_append p fr (hnode d hd hbuffer hused)
      (hrest.of_le hle d hd hbuffer hused)

/-- The bodies of clauses do what walking them does, each in its slot. -/
theorem clauseBodies_ok (hfr : fr.scopes = []) :
    ∀ (clauses : List (Clause Placement)) (buffer : String) (slots : List (Option Nat))
      (q r : Progress) (bodies : List (Nat × List Stmt)),
      clauseBodies buffer slots clauses q = .ok (bodies, r) → q.buffers ≤ r.buffers ∧
        List.Forall₂ (fun b w => b.1 = w.1 ∧ WritesLike context p fr buffer q.buffers b.2 w.2)
          bodies (walkClauses p fr context slots clauses)
  | [], buffer, slots, q, r, bodies, h => by
    rw [clauseBodies] at h
    cases h
    exact ⟨Nat.le_refl _, .nil⟩
  | .mk pos code body :: rest, buffer, slots, q, r, bodies, h => by
    rw [clauseBodies] at h
    rw [walkClauses]
    cases hslot : slots.headD none with
    | none =>
      rw [hslot] at h
      obtain ⟨_, q₁, hblank, h₁⟩ := Build.of_bind h
      obtain rfl := checkBlank_ok hblank
      exact clauseBodies_ok hfr rest buffer slots.tail _ r bodies h₁
    | some line =>
      rw [hslot] at h
      obtain ⟨stmts, q₁, hstmts, h₁⟩ := Build.of_bind h
      obtain ⟨b, q₂, hb, h₂⟩ := Build.of_bind h₁
      obtain ⟨more, q₃, hmore, h₃⟩ := Build.of_bind h₂
      cases h₃
      obtain ⟨hle, hbody⟩ := bodyStmts_ok hfr body buffer q q₁ stmts hstmts
      obtain ⟨hq, hcases⟩ := orPass_ok hb
      obtain ⟨hle', hrest⟩ := clauseBodies_ok hfr rest buffer slots.tail q₂ r more hmore
      refine ⟨by omega, .cons ⟨rfl, ?_⟩ (hrest.imp (fun _ _ h => ⟨h.1, h.2.of_le (by omega)⟩))⟩
      rcases hcases with rfl | ⟨rfl, rfl⟩
      · exact hbody
      · exact hbody.pass

end

end Nodes

end Inlay
