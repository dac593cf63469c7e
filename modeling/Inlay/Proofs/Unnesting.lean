/-
  Inlay.Proofs.Unnesting
  ────────────────────────────────
  **STATEMENTS ONE BY ONE.**

  `unnested` lists a statement and all that stand in its bodies, at any
  depth, in the order in which they are written; each is listed bare, without
  its own bodies.  So what a list of statements does can be said of every
  single one, and filling slots puts the statements of the fillings where the
  slots were.

      found_fill         — what is found in a statement with its slots filled
      slotPath?_reaches  — a filling stands where the slot was
      Stmt.Mentions      — what a bare statement mentions, in whatever way
-/
import Inlay.Code.Scope
import Inlay.Proofs.Parts
import Inlay.Proofs.Slots

namespace Inlay.Code

/-! ## §1. Bare statements. -/

/-- The handler without its body. -/
def Handler.bare : Handler → Handler
  | .mk type name _ => .mk type name []

/-- The case without its body. -/
def Case.bare : Case → Case
  | .mk pattern guard _ => .mk pattern guard []

mutual

/-- The statement and all that stand in its bodies, each without its own. -/
def Stmt.unnested : Stmt → List Stmt
  | .conditional test body orelse =>
    .conditional test [] [] :: (unnestedIn body ++ unnestedIn orelse)
  | .whileLoop test body orelse => .whileLoop test [] [] :: (unnestedIn body ++ unnestedIn orelse)
  | .forLoop isAsync target iter body orelse =>
    .forLoop isAsync target iter [] [] :: (unnestedIn body ++ unnestedIn orelse)
  | .withBlock isAsync items body => .withBlock isAsync items [] :: unnestedIn body
  | .tryBlock isGroup body handlers orelse finalbody =>
    .tryBlock isGroup [] (handlers.map Handler.bare) [] []
      :: (unnestedIn body ++ (unnestedHandlers handlers
        ++ (unnestedIn orelse ++ unnestedIn finalbody)))
  | .matchBlock subject cases =>
    .matchBlock subject (cases.map Case.bare) :: unnestedCases cases
  | .function isAsync name params body decorators returns =>
    .function isAsync name params [] decorators returns :: unnestedIn body
  | .classBlock name bases keywords body decorators =>
    .classBlock name bases keywords [] decorators :: unnestedIn body
  | s => [s]

/-- The statements of a list and all that stand in their bodies. -/
def unnestedIn : List Stmt → List Stmt
  | [] => []
  | s :: ss => s.unnested ++ unnestedIn ss

/-- The statements in the bodies of handlers. -/
def unnestedHandlers : List Handler → List Stmt
  | [] => []
  | .mk _ _ body :: rest => unnestedIn body ++ unnestedHandlers rest

/-- The statements in the bodies of cases. -/
def unnestedCases : List Case → List Stmt
  | [] => []
  | .mk _ _ body :: rest => unnestedIn body ++ unnestedCases rest

end

theorem unnestedIn_append (ss ss' : List Stmt) :
    unnestedIn (ss ++ ss') = unnestedIn ss ++ unnestedIn ss' := by
  induction ss with
  | nil => rfl
  | cons s ss ih => rw [List.cons_append, unnestedIn, unnestedIn, ih, List.append_assoc]

/-! ## §2. Slots that are filled. -/

theorem Filling.of?_eq (f : Filling) (ss : List Stmt) : f.of? ss = (passRow? ss).bind f := by
  by_cases hpass : ∃ n, ss = [.pass n]
  · obtain ⟨n, rfl⟩ := hpass
    rfl
  · have hnot : ∀ n, ss = [.pass n] → False := fun n heq => hpass ⟨n, heq⟩
    have hfill : f.of? ss = none := Filling.of?.eq_2 f ss hnot
    have hrow : passRow? ss = none := passRow?.eq_2 ss hnot
    rw [hfill, hrow]
    rfl

theorem bare_fillHandlers (f : Filling) (hs : List Handler) :
    (fillHandlers f hs).map Handler.bare = hs.map Handler.bare := by
  induction hs with
  | nil => rfl
  | cons h rest ih =>
    cases h with
    | mk type name body =>
      rw [fillHandlers, List.map_cons, ih]
      rfl

theorem bare_fillCases (f : Filling) (cs : List Case) :
    (fillCases f cs).map Case.bare = cs.map Case.bare := by
  induction cs with
  | nil => rfl
  | cons c rest ih =>
    cases c with
    | mk pattern guard body =>
      rw [fillCases, List.map_cons, ih]
      rfl

section Finding

variable {α : Type} (g : Stmt → Option α) (f : Filling)

/-- What is found in the filling of a slot, if it has one. -/
def foundAt (n : Nat) : List α := ((f n).map fun b => (unnestedIn b).filterMap g).getD []

/-- Is nothing to be found in the statements? -/
def Misses (ss : List Stmt) : Prop := ∀ u ∈ ss, g u = none

variable {g}

theorem Misses.of_append {ss ss' : List Stmt} (h : Misses g (ss ++ ss')) :
    Misses g ss ∧ Misses g ss' := List.forall_mem_append.1 h

theorem Misses.of_cons {s : Stmt} {ss : List Stmt} (h : Misses g (s :: ss)) :
    g s = none ∧ Misses g ss := List.forall_mem_cons.1 h

mutual

/-- **What is found in a statement with its slots filled is found in the fillings**, in the order of
the slots, if nothing is to be found in the statement itself. -/
theorem found_fill : ∀ s : Stmt, Misses g s.unnested →
    (s.fill f).unnested.filterMap g = s.slots.flatMap (foundAt g f)
  | .conditional test body orelse, h | .whileLoop test body orelse, h
  | .forLoop isAsync target iter body orelse, h => by
    rw [Stmt.unnested] at h
    obtain ⟨hs, h⟩ := h.of_cons
    obtain ⟨hbody, horelse⟩ := h.of_append
    rw [Stmt.fill, Stmt.unnested, Stmt.slots, List.filterMap_cons_none hs, List.filterMap_append,
      List.flatMap_append, found_fillBody body hbody, found_fillBody orelse horelse]
  | .withBlock isAsync items body, h => by
    rw [Stmt.unnested] at h
    obtain ⟨hs, hbody⟩ := h.of_cons
    rw [Stmt.fill, Stmt.unnested, Stmt.slots, List.filterMap_cons_none hs,
      found_fillBody body hbody]
  | .tryBlock isGroup body handlers orelse finalbody, h => by
    rw [Stmt.unnested] at h
    obtain ⟨hs, h⟩ := h.of_cons
    obtain ⟨hbody, h⟩ := h.of_append
    obtain ⟨hhandlers, h⟩ := h.of_append
    obtain ⟨horelse, hfinalbody⟩ := h.of_append
    rw [Stmt.fill, Stmt.unnested, Stmt.slots, bare_fillHandlers, List.filterMap_cons_none hs,
      List.filterMap_append, List.filterMap_append, List.filterMap_append, List.flatMap_append,
      List.flatMap_append, List.flatMap_append, found_fillBody body hbody,
      found_fillHandlers handlers hhandlers, found_fillBody orelse horelse,
      found_fillBody finalbody hfinalbody]
  | .matchBlock subject cases, h => by
    rw [Stmt.unnested] at h
    obtain ⟨hs, hcases⟩ := h.of_cons
    rw [Stmt.fill, Stmt.unnested, Stmt.slots, bare_fillCases, List.filterMap_cons_none hs,
      found_fillCases cases hcases]
  | .function isAsync name params body decorators returns, h => by
    rw [Stmt.unnested] at h
    obtain ⟨hs, hbody⟩ := h.of_cons
    rw [Stmt.fill, Stmt.unnested, Stmt.slots, List.filterMap_cons_none hs,
      found_fillBody body hbody]
  | .classBlock name bases keywords body decorators, h => by
    rw [Stmt.unnested] at h
    obtain ⟨hs, hbody⟩ := h.of_cons
    rw [Stmt.fill, Stmt.unnested, Stmt.slots, List.filterMap_cons_none hs,
      found_fillBody body hbody]
  | .expression _, h | .assign _ _, h | .augment _ _ _, h | .annotate _ _ _ _, h | .delete _, h
  | .pass _, h | .breakLoop, h | .continueLoop, h | .giveBack _, h | .throw _ _, h
  | .assertion _ _, h | .importModules _, h | .importMembers _ _ _, h | .globals _, h
  | .nonlocals _, h => List.filterMap_cons_none (h _ List.mem_cons_self)

theorem found_fillBody : ∀ ss : List Stmt, Misses g (unnestedIn ss) →
    (unnestedIn (fillBody f ss)).filterMap g = (bodySlots ss).flatMap (foundAt g f)
  | [], _ => by
    rw [fillBody, bodySlots]
    rfl
  | s :: ss, h => by
    have hrest : (unnestedIn (s.fill f :: fillRest f ss)).filterMap g
        = (s.slots ++ restSlots ss).flatMap (foundAt g f) := by
      obtain ⟨hs, hss⟩ := h.of_append
      rw [unnestedIn, List.filterMap_append, List.flatMap_append, found_fill s hs,
        found_fillRest ss hss]
    rw [fillBody, bodySlots, Filling.of?_eq]
    cases hrow : passRow? (s :: ss) with
    | none => exact hrest
    | some n =>
      obtain ⟨rfl, rfl⟩ := List.cons.inj (eq_of_passRow? hrow)
      rw [List.flatMap_singleton, Option.bind_some, foundAt]
      cases f n with
      | none => exact hrest
      | some b => rfl

theorem found_fillRest : ∀ ss : List Stmt, Misses g (unnestedIn ss) →
    (unnestedIn (fillRest f ss)).filterMap g = (restSlots ss).flatMap (foundAt g f)
  | [], _ => by
    rw [fillRest, restSlots]
    rfl
  | s :: ss, h => by
    obtain ⟨hs, hss⟩ := h.of_append
    rw [fillRest, unnestedIn, restSlots, List.filterMap_append, List.flatMap_append,
      found_fill s hs, found_fillRest ss hss]

theorem found_fillHandlers : ∀ hs : List Handler, Misses g (unnestedHandlers hs) →
    (unnestedHandlers (fillHandlers f hs)).filterMap g = (handlerSlots hs).flatMap (foundAt g f)
  | [], _ => by
    rw [fillHandlers, handlerSlots]
    rfl
  | .mk type name body :: rest, h => by
    obtain ⟨hbody, hrest⟩ := h.of_append
    rw [fillHandlers, unnestedHandlers, handlerSlots, List.filterMap_append, List.flatMap_append,
      found_fillBody body hbody, found_fillHandlers rest hrest]

theorem found_fillCases : ∀ cs : List Case, Misses g (unnestedCases cs) →
    (unnestedCases (fillCases f cs)).filterMap g = (caseSlots cs).flatMap (foundAt g f)
  | [], _ => by
    rw [fillCases, caseSlots]
    rfl
  | .mk pattern guard body :: rest, h => by
    obtain ⟨hbody, hrest⟩ := h.of_append
    rw [fillCases, unnestedCases, caseSlots, List.filterMap_append, List.flatMap_append,
      found_fillBody body hbody, found_fillCases rest hrest]

end

/-- What holds of every single statement, and of those of every filling, holds after filling. -/
theorem forall_fill {P : Stmt → Prop} {f : Filling} {s : Stmt} (hs : ∀ u ∈ s.unnested, P u)
    (hf : ∀ n b, f n = some b → ∀ u ∈ unnestedIn b, P u) : ∀ u ∈ (s.fill f).unnested, P u := by
  classical
  -- look for the statements of which it does not hold
  let g : Stmt → Option Unit := fun u => if P u then none else some ()
  have hfound := found_fill (g := g) f s fun u hu => if_pos (hs u hu)
  have hnone : s.slots.flatMap (foundAt g f) = [] := by
    refine List.flatMap_eq_nil_iff.2 fun n _ => ?_
    unfold foundAt
    cases hn : f n with
    | none => rfl
    | some b => exact List.filterMap_eq_nil_iff.2 fun u hu => if_pos (hf n b hn u hu)
  rw [hnone, List.filterMap_eq_nil_iff] at hfound
  intro u hu
  by_contra hP
  have hsome : g u = some () := if_neg hP
  rw [hfound u hu] at hsome
  cases hsome

end Finding

/-! ## §3. Where the fillings stand. -/

/-- Does a path that is found lead to the statements? -/
def Reaches (b : List Stmt) (found : Option (List Step)) (at? : List Step → Option (List Stmt)) :
    Prop :=
  ∀ path, found = some path → at? path = some b

namespace Reaches

variable {b : List Stmt} {found found' : Option (List Step)} {at? : List Step → Option (List Stmt)}

theorem none : Reaches b none at? := fun _ h => by cases h

theorem or (h : Reaches b found at?) (h' : Reaches b found' at?) :
    Reaches b (found.or found') at? := by
  intro path hpath
  rcases Option.or_eq_some_iff.1 hpath with hfound | ⟨-, hfound⟩
  · exact h path hfound
  · exact h' path hfound

theorem step {s : Step} (h : Reaches b found fun path => at? (s :: path)) :
    Reaches b (stepTo s found) at? := by
  intro path hpath
  obtain ⟨path', hpath', rfl⟩ := Option.map_eq_some_iff.1 hpath
  exact h path' hpath'

end Reaches

section Reaching

variable {f : Filling} {n : Nat} {b : List Stmt}

mutual

/-- **A filling stands where the slot was.** -/
theorem slotPath?_reaches (hf : f n = some b) :
    ∀ s : Stmt, Reaches b (s.slotPath? n) (Stmt.listAt? · (s.fill f))
  | .conditional _ body orelse | .whileLoop _ body orelse | .forLoop _ _ _ body orelse =>
    .or (.step (bodyPath?_reaches hf body)) (.step (bodyPath?_reaches hf orelse))
  | .withBlock _ _ body | .function _ _ _ body _ _ | .classBlock _ _ _ body _ =>
    .step (bodyPath?_reaches hf body)
  | .tryBlock isGroup body handlers orelse finalbody => by
    refine .or (.step (bodyPath?_reaches hf body)) (.or ?_
      (.or (.step (bodyPath?_reaches hf orelse)) (.step (bodyPath?_reaches hf finalbody))))
    exact handlerPath?_reaches hf handlers 0 fun i path => by rw [Nat.zero_add]; rfl
  | .matchBlock subject cases =>
    casePath?_reaches hf cases 0 fun i path => by rw [Nat.zero_add]; rfl
  | .expression _ | .assign _ _ | .augment _ _ _ | .annotate _ _ _ _ | .delete _ | .pass _
  | .breakLoop | .continueLoop | .giveBack _ | .throw _ _ | .assertion _ _ | .importModules _
  | .importMembers _ _ _ | .globals _ | .nonlocals _ => .none

theorem bodyPath?_reaches (hf : f n = some b) :
    ∀ ss : List Stmt, Reaches b (bodyPath? n ss) (listIn? · (fillBody f ss))
  | [] => .none
  | s :: ss => by
    rw [bodyPath?]
    split
    · rename_i hslot
      intro path hpath
      obtain rfl := Option.some.inj hpath
      rw [eq_of_isSlot hslot]
      show some ((f n).getD _) = some b
      rw [hf]
      rfl
    · have hpaths : Reaches b ((stepTo (.statement 0) (s.slotPath? n)).or (restPath? n 1 ss))
          (listIn? · (s.fill f :: fillRest f ss)) :=
        .or (.step (slotPath?_reaches hf s))
          (restPath?_reaches hf ss 1 fun i path => by rw [Nat.add_comm 1 i]; rfl)
      rw [fillBody, Filling.of?_eq]
      cases hrow : passRow? (s :: ss) with
      | none => exact hpaths
      | some m =>
        obtain ⟨rfl, rfl⟩ := List.cons.inj (eq_of_passRow? hrow)
        exact .none

theorem restPath?_reaches (hf : f n = some b) : ∀ (ss : List Stmt) (index : Nat)
    {at? : List Step → Option (List Stmt)},
    (∀ i path, at? (.statement (index + i) :: path)
      = (fillRest f ss)[i]?.bind (Stmt.listAt? path)) →
    Reaches b (restPath? n index ss) at?
  | [], _, _, _ => .none
  | s :: ss, index, at?, hat => by
    refine .or (.step ?_) (restPath?_reaches hf ss (index + 1) fun i path => ?_)
    · intro path hpath
      refine (hat 0 path).trans ?_
      exact slotPath?_reaches hf s path hpath
    · rw [Nat.add_assoc, Nat.add_comm 1 i]
      exact hat (i + 1) path

theorem handlerPath?_reaches (hf : f n = some b) : ∀ (hs : List Handler) (index : Nat)
    {at? : List Step → Option (List Stmt)},
    (∀ i path, at? (.handler (index + i) :: .body :: path)
      = ((fillHandlers f hs)[i]?.map Handler.body).bind (listIn? path)) →
    Reaches b (handlerPath? n index hs) at?
  | [], _, _, _ => .none
  | .mk _ _ body :: hs, index, at?, hat => by
    refine .or (.step (.step ?_)) (handlerPath?_reaches hf hs (index + 1) fun i path => ?_)
    · intro path hpath
      refine (hat 0 path).trans ?_
      exact bodyPath?_reaches hf body path hpath
    · rw [Nat.add_assoc, Nat.add_comm 1 i]
      exact hat (i + 1) path

theorem casePath?_reaches (hf : f n = some b) : ∀ (cs : List Case) (index : Nat)
    {at? : List Step → Option (List Stmt)},
    (∀ i path, at? (.case (index + i) :: .body :: path)
      = ((fillCases f cs)[i]?.map Case.body).bind (listIn? path)) →
    Reaches b (casePath? n index cs) at?
  | [], _, _, _ => .none
  | .mk _ _ body :: cs, index, at?, hat => by
    refine .or (.step (.step ?_)) (casePath?_reaches hf cs (index + 1) fun i path => ?_)
    · intro path hpath
      refine (hat 0 path).trans ?_
      exact bodyPath?_reaches hf body path hpath
    · rw [Nat.add_assoc, Nat.add_comm 1 i]
      exact hat (i + 1) path

end

end Reaching

/-! ## §4. Other expressions. -/

section Replacing

variable (f : Expr → Expr)

theorem passRow?_mapStmts (ss : List Stmt) : passRow? (mapStmts f ss) = passRow? ss := by
  cases ss with
  | nil => rfl
  | cons s ss =>
    cases ss with
    | nil => cases s <;> rfl
    | cons t ts => cases s <;> rfl

mutual

/-- The slots stay where they are. -/
theorem slots_mapExprs : ∀ s : Stmt, (s.mapExprs f).slots = s.slots
  | .conditional _ body orelse | .whileLoop _ body orelse | .forLoop _ _ _ body orelse => by
    rw [Stmt.mapExprs, Stmt.slots, Stmt.slots, bodySlots_mapStmts body, bodySlots_mapStmts orelse]
  | .withBlock _ _ body | .function _ _ _ body _ _ | .classBlock _ _ _ body _ =>
    bodySlots_mapStmts body
  | .tryBlock _ body handlers orelse finalbody => by
    rw [Stmt.mapExprs, Stmt.slots, Stmt.slots, bodySlots_mapStmts body,
      handlerSlots_mapHandlers handlers, bodySlots_mapStmts orelse, bodySlots_mapStmts finalbody]
  | .matchBlock _ cases => caseSlots_mapCases cases
  | .expression _ | .assign _ _ | .augment _ _ _ | .annotate _ _ _ _ | .delete _ | .pass _
  | .breakLoop | .continueLoop | .giveBack _ | .throw _ _ | .assertion _ _ | .importModules _
  | .importMembers _ _ _ | .globals _ | .nonlocals _ => rfl

theorem bodySlots_mapStmts : ∀ ss : List Stmt, bodySlots (mapStmts f ss) = bodySlots ss
  | [] => rfl
  | s :: ss => by
    have hrow := passRow?_mapStmts f (s :: ss)
    rw [mapStmts] at hrow
    rw [mapStmts, bodySlots, bodySlots, hrow, slots_mapExprs s, restSlots_mapStmts ss]

theorem restSlots_mapStmts : ∀ ss : List Stmt, restSlots (mapStmts f ss) = restSlots ss
  | [] => rfl
  | s :: ss => by rw [mapStmts, restSlots, restSlots, slots_mapExprs s, restSlots_mapStmts ss]

theorem handlerSlots_mapHandlers :
    ∀ hs : List Handler, handlerSlots (mapHandlers f hs) = handlerSlots hs
  | [] => rfl
  | .mk _ _ body :: rest => by
    rw [mapHandlers, handlerSlots, handlerSlots, bodySlots_mapStmts body,
      handlerSlots_mapHandlers rest]

theorem caseSlots_mapCases : ∀ cs : List Case, caseSlots (mapCases f cs) = caseSlots cs
  | [] => rfl
  | .mk _ _ body :: rest => by
    rw [mapCases, caseSlots, caseSlots, bodySlots_mapStmts body, caseSlots_mapCases rest]

end

theorem bare_mapHandlers : ∀ hs : List Handler,
    (mapHandlers f hs).map Handler.bare = mapHandlers f (hs.map Handler.bare)
  | [] => rfl
  | .mk _ _ _ :: rest => by
    rw [mapHandlers, List.map_cons, bare_mapHandlers rest]
    rfl

theorem bare_mapCases : ∀ cs : List Case,
    (mapCases f cs).map Case.bare = mapCases f (cs.map Case.bare)
  | [] => rfl
  | .mk _ _ _ :: rest => by
    rw [mapCases, List.map_cons, bare_mapCases rest]
    rfl

mutual

/-- Every single statement has its expressions replaced. -/
theorem unnested_mapExprs :
    ∀ s : Stmt, (s.mapExprs f).unnested = s.unnested.map (Stmt.mapExprs f)
  | .conditional _ body orelse | .whileLoop _ body orelse | .forLoop _ _ _ body orelse => by
    rw [Stmt.mapExprs, Stmt.unnested, Stmt.unnested, List.map_cons, List.map_append,
      unnestedIn_mapStmts body, unnestedIn_mapStmts orelse]
    rfl
  | .withBlock _ _ body | .function _ _ _ body _ _ | .classBlock _ _ _ body _ => by
    rw [Stmt.mapExprs, Stmt.unnested, Stmt.unnested, List.map_cons, unnestedIn_mapStmts body]
    rfl
  | .tryBlock _ body handlers orelse finalbody => by
    rw [Stmt.mapExprs, Stmt.unnested, Stmt.unnested, List.map_cons, List.map_append,
      List.map_append, List.map_append, bare_mapHandlers, unnestedIn_mapStmts body,
      unnestedHandlers_mapHandlers handlers, unnestedIn_mapStmts orelse,
      unnestedIn_mapStmts finalbody]
    rfl
  | .matchBlock _ cases => by
    rw [Stmt.mapExprs, Stmt.unnested, Stmt.unnested, List.map_cons, bare_mapCases,
      unnestedCases_mapCases cases]
    rfl
  | .expression _ | .assign _ _ | .augment _ _ _ | .annotate _ _ _ _ | .delete _ | .pass _
  | .breakLoop | .continueLoop | .giveBack _ | .throw _ _ | .assertion _ _ | .importModules _
  | .importMembers _ _ _ | .globals _ | .nonlocals _ => rfl

theorem unnestedIn_mapStmts :
    ∀ ss : List Stmt, unnestedIn (mapStmts f ss) = (unnestedIn ss).map (Stmt.mapExprs f)
  | [] => rfl
  | s :: ss => by
    rw [mapStmts, unnestedIn, unnestedIn, List.map_append, unnested_mapExprs s,
      unnestedIn_mapStmts ss]

theorem unnestedHandlers_mapHandlers : ∀ hs : List Handler,
    unnestedHandlers (mapHandlers f hs) = (unnestedHandlers hs).map (Stmt.mapExprs f)
  | [] => rfl
  | .mk _ _ body :: rest => by
    rw [mapHandlers, unnestedHandlers, unnestedHandlers, List.map_append,
      unnestedIn_mapStmts body, unnestedHandlers_mapHandlers rest]

theorem unnestedCases_mapCases : ∀ cs : List Case,
    unnestedCases (mapCases f cs) = (unnestedCases cs).map (Stmt.mapExprs f)
  | [] => rfl
  | .mk _ _ body :: rest => by
    rw [mapCases, unnestedCases, unnestedCases, List.map_append, unnestedIn_mapStmts body,
      unnestedCases_mapCases rest]

end

end Replacing

/-! ## §5. Names. -/

/-- The names that an expression itself mentions. -/
def Expr.ownNames : Expr → List String
  | .name id => [id]
  | .walrus target _ => [target]
  | .lambda params _ => params.map Param.name
  | _ => []

/-- Does an expression mention the name, at any depth? -/
def Expr.Mentions (id : String) (e : Expr) : Prop := ∃ x, Within x e ∧ id ∈ x.ownNames

mutual

/-- The names that a pattern gives to what it matches. -/
def Pattern.captures : Pattern → List String
  | .value _ => []
  | .singleton _ => []
  | .sequence patterns => patternCaptures patterns
  | .mapping entries rest => entryCaptures entries ++ rest.toList
  | .instanceOf _ positional named => patternCaptures positional ++ namedCaptures named
  | .rest name => name.toList
  | .capture pattern name => patternOptionCaptures pattern ++ name.toList
  | .alternatives patterns => patternCaptures patterns

/-- The names that some patterns give. -/
def patternCaptures : List Pattern → List String
  | [] => []
  | p :: ps => p.captures ++ patternCaptures ps

/-- The names that a pattern gives, if there is one. -/
def patternOptionCaptures : Option Pattern → List String
  | none => []
  | some p => p.captures

/-- The names that the entries of a mapping pattern give. -/
def entryCaptures : List MapEntry → List String
  | [] => []
  | .mk _ pattern :: rest => pattern.captures ++ entryCaptures rest

/-- The names that the named parts of a class pattern give. -/
def namedCaptures : List NamedPattern → List String
  | [] => []
  | .mk _ pattern :: rest => pattern.captures ++ namedCaptures rest

end

/-- The names that handlers give to what they handle. -/
def handlerNames (hs : List Handler) : List String :=
  hs.filterMap fun
    | .mk _ name _ => name

/-- The names that cases give. -/
def caseNames (cs : List Case) : List String :=
  cs.flatMap fun
    | .mk pattern _ _ => pattern.captures

/-- The names that a statement itself gives or declares, those in its expressions apart. -/
def Stmt.binders : Stmt → List String
  | .function _ name params _ _ _ => name :: params.map Param.name
  | .classBlock name _ _ _ _ => [name]
  | .importModules names => names.map ImportName.bound
  | .importMembers _ names _ => names.map (fun n => n.boundAs.getD n.name)
  | .globals names => names
  | .nonlocals names => names
  | .tryBlock _ _ handlers _ _ => handlerNames handlers
  | .matchBlock _ cases => caseNames cases
  | _ => []

/-- Does a statement mention the name, in whatever way? -/
def Stmt.Mentions (id : String) (s : Stmt) : Prop :=
  id ∈ s.binders ∨ ∃ e ∈ s.expressions, e.Mentions id

section Names

variable (f : Expr → Expr)

mutual

theorem Pattern.captures_mapExprs : ∀ p : Pattern, (p.mapExprs f).captures = p.captures
  | .value _ | .singleton _ | .rest _ => rfl
  | .sequence patterns | .alternatives patterns => patternCaptures_mapPatterns patterns
  | .mapping entries rest => congrArg (· ++ rest.toList) (entryCaptures_mapEntries entries)
  | .instanceOf _ positional named => by
    rw [Pattern.mapExprs, Pattern.captures, Pattern.captures,
      patternCaptures_mapPatterns positional, namedCaptures_mapNamed named]
  | .capture pattern name =>
    congrArg (· ++ name.toList) (patternOptionCaptures_mapPatternOption pattern)

theorem patternCaptures_mapPatterns :
    ∀ ps : List Pattern, patternCaptures (mapPatterns f ps) = patternCaptures ps
  | [] => rfl
  | p :: ps => by
    rw [mapPatterns, patternCaptures, patternCaptures, p.captures_mapExprs,
      patternCaptures_mapPatterns ps]

theorem patternOptionCaptures_mapPatternOption : ∀ p : Option Pattern,
    patternOptionCaptures (mapPatternOption f p) = patternOptionCaptures p
  | none => rfl
  | some p => p.captures_mapExprs

theorem entryCaptures_mapEntries :
    ∀ es : List MapEntry, entryCaptures (mapEntries f es) = entryCaptures es
  | [] => rfl
  | .mk _ pattern :: rest => by
    rw [mapEntries, entryCaptures, entryCaptures, pattern.captures_mapExprs,
      entryCaptures_mapEntries rest]

theorem namedCaptures_mapNamed :
    ∀ ns : List NamedPattern, namedCaptures (mapNamed f ns) = namedCaptures ns
  | [] => rfl
  | .mk _ pattern :: rest => by
    rw [mapNamed, namedCaptures, namedCaptures, pattern.captures_mapExprs,
      namedCaptures_mapNamed rest]

end

theorem names_mapExprs (params : List Param) :
    (params.map (Param.mapExprs f)).map Param.name = params.map Param.name := by
  rw [List.map_map]
  exact List.map_congr_left fun ⟨_, _, _, _⟩ _ => rfl

theorem handlerNames_mapHandlers (hs : List Handler) :
    handlerNames (mapHandlers f hs) = handlerNames hs := by
  induction hs with
  | nil => rfl
  | cons handler rest ih =>
    obtain ⟨type, name, body⟩ := handler
    unfold handlerNames at ih ⊢
    rw [mapHandlers, List.filterMap_cons, List.filterMap_cons, ih]

theorem caseNames_mapCases (cs : List Case) : caseNames (mapCases f cs) = caseNames cs := by
  induction cs with
  | nil => rfl
  | cons case rest ih =>
    obtain ⟨pattern, guard, body⟩ := case
    unfold caseNames at ih ⊢
    rw [mapCases, List.flatMap_cons, List.flatMap_cons, ih]
    exact congrArg (· ++ _) (pattern.captures_mapExprs f)

/-- A statement with other expressions binds the same names. -/
theorem binders_mapExprs (s : Stmt) : (s.mapExprs f).binders = s.binders := by
  cases s
  case function isAsync name params body decorators returns =>
    exact congrArg (name :: ·) (names_mapExprs f params)
  case tryBlock => exact handlerNames_mapHandlers f _
  case matchBlock => exact caseNames_mapCases f _
  all_goals rfl

end Names

end Inlay.Code
