/-
  Inlay.Proofs.Heads
  ────────────────────────────────
  **WHAT STANDS AT THE HEAD OF NODES AND CLAUSES.**

  A head is a place with the code that stands there: that of a marker, that
  of a clause header, or none at all for a text.

      heads_of_parse    — every head of a tree was a token
      heads_resolveBody — resolving indentation makes no new heads
-/
import Inlay.Indent.Resolve
import Inlay.Proofs.Parsing

namespace Inlay

/-! ## §1. Heads. -/

section Trees

variable {α : Type}

mutual

/-- The places in a node, with the codes that stand there. -/
def Node.heads : Node α → List (Position × String)
  | .text p _ => [(p, "")]
  | .expr m => [(m.position, m.code)]
  | .block m clauses => (m.position, m.code) :: clauseHeads clauses

/-- The places in some nodes, with the codes that stand there. -/
def bodyHeads : List (Node α) → List (Position × String)
  | [] => []
  | n :: ns => n.heads ++ bodyHeads ns

/-- The places in some clauses, with the headers and codes that stand there. -/
def clauseHeads : List (Clause α) → List (Position × String)
  | [] => []
  | .mk p code body :: rest => (p, code) :: (bodyHeads body ++ clauseHeads rest)

end

theorem bodyHeads_append (ns ns' : List (Node α)) :
    bodyHeads (ns ++ ns') = bodyHeads ns ++ bodyHeads ns' := by
  induction ns with
  | nil => rfl
  | cons n ns ih => rw [List.cons_append, bodyHeads, ih, bodyHeads, List.append_assoc]

theorem clauseHeads_append (cs cs' : List (Clause α)) :
    clauseHeads (cs ++ cs') = clauseHeads cs ++ clauseHeads cs' := by
  induction cs with
  | nil => rfl
  | cons c cs ih =>
    obtain ⟨p, code, body⟩ := c
    rw [List.cons_append, clauseHeads, clauseHeads, ih, List.cons_append, List.append_assoc]

/-- The headers of some clauses are among their heads. -/
theorem mem_clauseHeads {cs : List (Clause α)} {code : String} (h : code ∈ cs.map Clause.code) :
    ∃ p, (p, code) ∈ clauseHeads cs := by
  induction cs with
  | nil => exact absurd h List.not_mem_nil
  | cons c cs ih =>
    obtain ⟨p, code', body⟩ := c
    rw [clauseHeads]
    rcases List.mem_cons.1 h with rfl | h
    · exact ⟨p, List.mem_cons_self⟩
    · obtain ⟨q, hq⟩ := ih h
      exact ⟨q, List.mem_cons_of_mem _ (List.mem_append_right _ hq)⟩

/-- The place of a node is among its heads. -/
theorem Node.exists_mem_heads (n : Node α) : ∃ code, (n.position, code) ∈ n.heads := by
  cases n with
  | text p v => exact ⟨_, List.mem_cons_self⟩
  | expr m => exact ⟨_, List.mem_cons_self⟩
  | block m clauses => exact ⟨_, List.mem_cons_self⟩

theorem exists_mem_bodyHeads {n : Node α} {ns : List (Node α)} (h : n ∈ ns) :
    ∃ code, (n.position, code) ∈ bodyHeads ns := by
  obtain ⟨front, back, rfl⟩ := List.append_of_mem h
  obtain ⟨code, hcode⟩ := n.exists_mem_heads
  refine ⟨code, ?_⟩
  rw [bodyHeads_append, bodyHeads]
  exact List.mem_append_right _ (List.mem_append_left _ hcode)

end Trees

/-! ## §2. Parsing. -/

namespace Builder

/-- Are all heads in a tree under construction of some kind? -/
structure HasHeads (P : Position → String → Prop) (b : Builder) : Prop where
  root : ∀ head ∈ bodyHeads b.root, P head.1 head.2
  stack : ∀ o ∈ b.stack, ∀ head ∈ o.close.heads, P head.1 head.2

variable {P : Position → String → Prop} {b b' : Builder}

/-- The heads of an open block: its opener, its clauses, and what its body holds so far. -/
theorem forall_heads_close {o : OpenBlock} : (∀ head ∈ o.close.heads, P head.1 head.2) ↔
    (P o.opener.position o.opener.code ∧ (∀ head ∈ clauseHeads o.finished, P head.1 head.2)
      ∧ P o.position o.code) ∧ ∀ head ∈ bodyHeads o.body, P head.1 head.2 := by
  have hheads : o.close.heads = (o.opener.position, o.opener.code) ::
      (clauseHeads o.finished ++ (o.position, o.code) :: bodyHeads o.body) := by
    rw [OpenBlock.close, Node.heads, OpenBlock.clauses, clauseHeads_append, clauseHeads,
      clauseHeads, List.append_nil]
  rw [hheads, List.forall_mem_cons, List.forall_mem_append, List.forall_mem_cons]
  exact ⟨fun ⟨h₁, h₂, h₃, h₄⟩ => ⟨⟨h₁, h₂, h₃⟩, h₄⟩, fun ⟨⟨h₁, h₂, h₃⟩, h₄⟩ => ⟨h₁, h₂, h₃, h₄⟩⟩

theorem HasHeads.mapBody (h : b.HasHeads P) {f : List (Node Unit) → List (Node Unit)}
    (hf : ∀ ns, (∀ head ∈ bodyHeads ns, P head.1 head.2) →
      ∀ head ∈ bodyHeads (f ns), P head.1 head.2) : (b.mapBody f).HasHeads P := by
  obtain ⟨root, stack⟩ := b
  cases stack with
  | nil => exact ⟨hf root h.root, h.stack⟩
  | cons top rest =>
    obtain ⟨htop, hrest⟩ := List.forall_mem_cons.1 h.stack
    obtain ⟨hopen, hbody⟩ := forall_heads_close.1 htop
    exact ⟨h.root, List.forall_mem_cons.2 ⟨forall_heads_close.2 ⟨hopen, hf _ hbody⟩, hrest⟩⟩

theorem HasHeads.append (h : b.HasHeads P) {n : Node Unit}
    (hn : ∀ head ∈ n.heads, P head.1 head.2) : (b.mapBody (· ++ [n])).HasHeads P := by
  refine h.mapBody fun ns hns => ?_
  rw [bodyHeads_append]
  refine List.forall_mem_append.2 ⟨hns, ?_⟩
  rwa [bodyHeads, bodyHeads, List.append_nil]

/-- A text keeps the place of the one that it joins. -/
theorem heads_appendText {p : Position} (hp : P p "") (v : String) {ns : List (Node Unit)}
    (h : ∀ head ∈ bodyHeads ns, P head.1 head.2) :
    ∀ head ∈ bodyHeads (appendText p v ns), P head.1 head.2 := by
  unfold appendText
  split
  · rename_i q w hlast
    obtain ⟨ms, rfl⟩ := List.getLast?_eq_some_iff.1 hlast
    rw [bodyHeads_append] at h
    rw [List.dropLast_concat, bodyHeads_append]
    exact h
  · rw [bodyHeads_append]
    exact List.forall_mem_append.2 ⟨h, List.forall_mem_singleton.2 hp⟩

theorem HasHeads.takes (h : b.HasHeads P) {kind : MarkerKind} {t : Token}
    (ht : P t.position t.value) (hb : Takes kind t b (.ok b')) : b'.HasHeads P := by
  cases hb with
  | @closed root top rest hend =>
    obtain ⟨htop, hrest⟩ := List.forall_mem_cons.1 h.stack
    exact HasHeads.append (b := ⟨root, rest⟩) ⟨h.root, hrest⟩ htop
  | @continued root top rest word hend hword =>
    obtain ⟨htop, hrest⟩ := List.forall_mem_cons.1 h.stack
    obtain ⟨⟨hopener, hfinished, hcode⟩, hbody⟩ := forall_heads_close.1 htop
    refine ⟨h.root, List.forall_mem_cons.2 ⟨forall_heads_close.2 ⟨⟨hopener, ?_, ht⟩, ?_⟩, hrest⟩⟩
    · show ∀ head ∈ clauseHeads (top.finished ++ [.mk top.position top.code top.body]), _
      rw [clauseHeads_append, clauseHeads, clauseHeads, List.append_nil]
      exact List.forall_mem_append.2 ⟨hfinished, List.forall_mem_cons.2 ⟨hcode, hbody⟩⟩
    · exact fun _ hmem => absurd hmem List.not_mem_nil
  | opened hend hword hopen =>
    refine ⟨h.root, List.forall_mem_cons.2 ⟨forall_heads_close.2 ⟨⟨ht, ?_, ht⟩, ?_⟩, h.stack⟩⟩
    · exact fun _ hmem => absurd hmem List.not_mem_nil
    · exact fun _ hmem => absurd hmem List.not_mem_nil
  | placed hend hword hopen => exact h.append (List.forall_mem_singleton.2 ht)

end Builder

/-- **Every head of a parsed tree was a token.** -/
theorem heads_of_parse {P : Position → String → Prop} {name : Option String} {tokens : List Token}
    {t : Template Unit}
    (hmarkers : ∀ t ∈ tokens, ∀ kind, t.kind = .marker kind → P t.position t.value)
    (htexts : ∀ t ∈ tokens, t.kind = .data → P t.position "") (h : parse name tokens = .ok t) :
    ∀ head ∈ bodyHeads t.body, P head.1 head.2 := by
  have hempty : Builder.HasHeads P ⟨[], []⟩ :=
    ⟨fun _ hmem => absurd hmem List.not_mem_nil, fun _ ho => absurd ho List.not_mem_nil⟩
  exact (Builder.takeAll_keeps
    (fun t ht hk b hb => hb.mapBody fun ns hns => Builder.heads_appendText (htexts t ht hk) _ hns)
    (fun t ht kind hk b b' hb hstep => hb.takes (hmarkers t ht kind hk) hstep)
    hempty (takeAll_of_parse h)).root

/-! ## §3. Resolving indentation. -/

namespace Indent

theorem heads_textUnlessEmpty (p : Position) (v : String) :
    bodyHeads (textUnlessEmpty p v) ⊆ [(p, "")] := by
  unfold textUnlessEmpty
  split
  · exact List.nil_subset _
  · exact List.Subset.refl _

theorem heads_trimLast (ns : List (Node Placement)) : bodyHeads (trimLast ns) ⊆ bodyHeads ns := by
  unfold trimLast
  split
  · rename_i p v hlast
    obtain ⟨ms, rfl⟩ := List.getLast?_eq_some_iff.1 hlast
    rw [List.dropLast_concat, bodyHeads_append, bodyHeads_append]
    exact List.append_subset.2 ⟨List.subset_append_left _ _,
      List.Subset.trans (heads_textUnlessEmpty p _) (List.subset_append_right _ _)⟩
  · exact List.Subset.refl _

mutual

/-- **Resolving indentation makes no new heads** in a body. -/
theorem heads_resolveBody (previous : Option (Node Unit)) (ns : List (Node Unit)) :
    bodyHeads (resolveBody previous ns) ⊆ bodyHeads ns := by
  match ns with
  | [] => exact List.Subset.refl _
  | n :: rest =>
    rw [resolveBody, bodyHeads_append, bodyHeads]
    exact List.append_subset.2
      ⟨List.Subset.trans (heads_resolveNode previous _ n) (List.subset_append_left _ _),
        List.Subset.trans (heads_resolveBody (some n) rest) (List.subset_append_right _ _)⟩

/-- Resolving indentation makes no new heads in a node. -/
theorem heads_resolveNode (previous : Option (Node Unit)) (beforePipe : Bool) (n : Node Unit) :
    bodyHeads (resolveNode previous beforePipe n) ⊆ n.heads := by
  match n with
  | .text p v => exact heads_textUnlessEmpty p _
  | .expr m => exact List.Subset.refl _
  | .block m clauses =>
    have hclauses := fun isPipe =>
      List.cons_subset_cons (m.position, m.code) (heads_resolveClauses isPipe clauses)
    rw [resolveNode, Node.heads]
    split
    · rw [bodyHeads, bodyHeads, List.append_nil]
      exact hclauses true
    · rw [bodyHeads, bodyHeads, List.append_nil]
      exact hclauses false

/-- Resolving indentation makes no new heads in clauses. -/
theorem heads_resolveClauses (isPipe : Bool) (cs : List (Clause Unit)) :
    clauseHeads (resolveClauses isPipe cs) ⊆ clauseHeads cs := by
  match cs with
  | [] => exact List.Subset.refl _
  | .mk p code body :: rest =>
    have hbody : bodyHeads (if isPipe then trimLast (resolveBody none body)
        else resolveBody none body) ⊆ bodyHeads body := by
      split
      · exact List.Subset.trans (heads_trimLast _) (heads_resolveBody none body)
      · exact heads_resolveBody none body
    rw [resolveClauses, clauseHeads, clauseHeads]
    exact List.cons_subset_cons _ (List.append_subset.2
      ⟨List.Subset.trans hbody (List.subset_append_left _ _),
        List.Subset.trans (heads_resolveClauses isPipe rest) (List.subset_append_right _ _)⟩)

end

end Indent

end Inlay
