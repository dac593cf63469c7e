/-
  Inlay.Proofs.Places
  ────────────────────────────────
  **WHERE THE NODES OF A TREE STAND.**

  Nodes stand where their tokens do, and tokens stand in the source: on its
  first line at the earliest, and nowhere so far down that the code of a
  marker could not follow before the source ends.  So a source that is short
  enough has no line that is too large a number.
-/
import Inlay.Proofs.Grammar
import Inlay.Proofs.Heads
import Inlay.Proofs.Printing

namespace Inlay

open Inlay.Program

/-! ## §1. Places with room behind them. -/

/-- Does a place lie behind the start of a source, and in front of so many characters of code with
which the line does not come to more than a limit? -/
def Position.HasRoom (limit : Int) (p : Position) (length : Nat) : Prop :=
  1 ≤ p.line ∧ p.line + length ≤ limit

theorem Position.HasRoom.zero {limit : Int} {p : Position} {length : Nat}
    (h : p.HasRoom limit length) : p.HasRoom limit 0 :=
  ⟨h.1, by have := h.2; simp only [Int.natCast_zero]; omega⟩

mutual

/-- Does every node have room for its code? -/
def Node.HasRoom (limit : Int) : Node Unit → Prop
  | .text p _ => p.HasRoom limit 0
  | .expr m => m.position.HasRoom limit m.code.length
  | .block m clauses => m.position.HasRoom limit m.code.length ∧ clausesHaveRoom limit clauses

/-- Do all nodes of a body have room for their code? -/
def bodyHasRoom (limit : Int) : List (Node Unit) → Prop
  | [] => True
  | n :: ns => n.HasRoom limit ∧ bodyHasRoom limit ns

/-- Do all clauses have room for their headers, and their nodes for their code? -/
def clausesHaveRoom (limit : Int) : List (Clause Unit) → Prop
  | [] => True
  | .mk p code body :: rest =>
    p.HasRoom limit code.length ∧ bodyHasRoom limit body ∧ clausesHaveRoom limit rest

end

mutual

/-- A node has room if its heads have. -/
theorem Node.hasRoom_iff {limit : Int} (n : Node Unit) : n.HasRoom limit ↔
    ∀ head ∈ n.heads, head.1.HasRoom limit head.2.length := by
  match n with
  | .text p _ => rw [Node.HasRoom, Node.heads, List.forall_mem_singleton, String.length_empty]
  | .expr m => rw [Node.HasRoom, Node.heads, List.forall_mem_singleton]
  | .block m clauses =>
    rw [Node.HasRoom, Node.heads, List.forall_mem_cons, clausesHaveRoom_iff clauses]

/-- A body has room if its heads have. -/
theorem bodyHasRoom_iff {limit : Int} (ns : List (Node Unit)) : bodyHasRoom limit ns ↔
    ∀ head ∈ bodyHeads ns, head.1.HasRoom limit head.2.length := by
  match ns with
  | [] => exact iff_of_true trivial (fun _ h => absurd h List.not_mem_nil)
  | n :: rest =>
    rw [bodyHasRoom, bodyHeads, List.forall_mem_append, n.hasRoom_iff, bodyHasRoom_iff rest]

/-- Clauses have room if their heads have. -/
theorem clausesHaveRoom_iff {limit : Int} (cs : List (Clause Unit)) : clausesHaveRoom limit cs ↔
    ∀ head ∈ clauseHeads cs, head.1.HasRoom limit head.2.length := by
  match cs with
  | [] => exact iff_of_true trivial (fun _ h => absurd h List.not_mem_nil)
  | .mk p code body :: rest =>
    rw [clausesHaveRoom, clauseHeads, List.forall_mem_cons, List.forall_mem_append,
      bodyHasRoom_iff body, clausesHaveRoom_iff rest]

end

/-- The nodes of a parsed tree have the room that its tokens have. -/
theorem bodyHasRoom_of_parse {limit : Int} {name : Option String} {tokens : List Token}
    {t : Template Unit} (htokens : ∀ t ∈ tokens, t.position.HasRoom limit t.value.length)
    (h : parse name tokens = .ok t) : bodyHasRoom limit t.body :=
  (bodyHasRoom_iff t.body).2
    (heads_of_parse (P := fun p code => p.HasRoom limit code.length)
      (fun t ht _ _ => htokens t ht) (fun t ht _ => (htokens t ht).zero) h)

/-! ## §2. Tokens. -/

theorem Position.line_next (p : Position) (c : Char) :
    p.line ≤ (p.next c).line ∧ (p.next c).line ≤ p.line + 1 := by
  unfold Position.next
  split <;> dsimp only <;> omega

theorem Position.line_after (s : List Char) (p : Position) :
    p.line ≤ (p.after s).line ∧ (p.after s).line ≤ p.line + s.length := by
  induction s generalizing p with
  | nil => simp [Position.after]
  | cons c s ih =>
    have hnext := p.line_next c
    have hrest := ih (p.next c)
    show p.line ≤ ((p.next c).after s).line ∧ ((p.next c).after s).line ≤ _
    rw [List.length_cons, Int.natCast_add]
    omega

theorem length_trimSpacing (raw : List Char) : (trimSpacing raw).length ≤ raw.length :=
  (infix_trimSpacing raw).length_le

theorem dataToken_hasRoom {limit : Int} {start : Position} {text : List Char}
    (h : start.HasRoom limit text.length) :
    ∀ t ∈ dataToken start text, t.position.HasRoom limit t.value.length := by
  intro t ht
  unfold dataToken at ht
  split at ht
  · exact absurd ht List.not_mem_nil
  · obtain rfl := List.mem_singleton.1 ht
    rw [String.length_ofList, List.length_reverse]
    exact h

/-- Tokens have room in what is left of the source.  `start` and `here` have room for the text
behind them that was read already. -/
theorem tokensOf_hasRoom {limit : Int} (ps : List Piece) (start here : Position)
    (text : List Char)
    (hstart : start.HasRoom limit (text.length + (ps.flatMap Piece.spelling).length))
    (hhere : here.HasRoom limit (ps.flatMap Piece.spelling).length) :
    ∀ t ∈ tokensOf start here text ps, t.position.HasRoom limit t.value.length := by
  induction ps generalizing start here text with
  | nil =>
    intro t ht
    rcases List.mem_append.1 ht with ht | ht
    · exact dataToken_hasRoom hstart t ht
    · obtain rfl := List.mem_singleton.1 ht
      exact hhere
  | cons p ps ih =>
    rw [List.flatMap_cons, List.length_append] at hstart hhere
    cases p with
    | char c =>
      have hnext := here.line_next c
      refine ih start (here.next c) (c :: text) ?_ ?_
      · simp only [Position.HasRoom, Piece.spelling, List.length_cons, List.length_nil] at hstart ⊢
        omega
      · simp only [Position.HasRoom, Piece.spelling, List.length_cons, List.length_nil] at hhere ⊢
        omega
    | escape =>
      have hnext := here.line_after ['<', '%', '%']
      refine ih start (here.after ['<', '%', '%']) ('%' :: '<' :: text) ?_ ?_
      · simp only [Position.HasRoom, Piece.spelling, List.length_cons, List.length_nil] at hstart ⊢
        omega
      · simp only [Position.HasRoom, Piece.spelling, List.length_cons,
          List.length_nil] at hhere hnext ⊢
        omega
    | marker kind raw =>
      have hnext := here.line_after (Piece.marker kind raw).spelling
      have hraw := length_trimSpacing raw
      have hspelling : raw.length + 4 ≤ (Piece.marker kind raw).spelling.length := by
        simp only [Piece.spelling, List.length_cons, List.length_append, List.length_nil]
        omega
      have hbehind : (here.after (Piece.marker kind raw).spelling).HasRoom limit
          (ps.flatMap Piece.spelling).length := by
        unfold Position.HasRoom at hhere ⊢
        omega
      intro t ht
      rcases List.mem_append.1 ht with ht | ht
      · refine dataToken_hasRoom ?_ t ht
        unfold Position.HasRoom at hstart ⊢
        omega
      rcases List.mem_cons.1 ht with rfl | ht
      · rw [String.length_ofList]
        show here.HasRoom limit (trimSpacing raw).length
        unfold Position.HasRoom at hhere ⊢
        omega
      · exact ih _ _ [] (by simpa using hbehind) hbehind t ht

/-- The tokens of a source have room in it. -/
theorem tokenize_hasRoom {source : String} {tokens : List Token}
    (h : tokenize source = .ok tokens) :
    ∀ t ∈ tokens, t.position.HasRoom (1 + source.length) t.value.length := by
  obtain ⟨rfl, hspells⟩ := pieces_of_tokenize h
  have hroom : Position.HasRoom (1 + source.length) .start
      ((scan source.toList).pieces.flatMap Piece.spelling).length := by
    rw [← hspells, String.length_toList]
    exact ⟨Int.le_refl 1, Int.le_refl _⟩
  exact tokensOf_hasRoom _ _ _ [] (by simpa using hroom) hroom

/-! ## §3. Printed trees. -/

/-- A tree is read from the source that it is printed as, up to places, and its nodes have room in
that source. -/
theorem treeOfSource_print {t : Template Unit} (h : t.wellFormed) (o : Origin) {source : String}
    (hsource : source = t.print) :
    ∃ t', treeOfSource o source = .ok t' ∧ unplacedBody t'.body = unplacedBody t.body
      ∧ bodyHasRoom (1 + source.length) t'.body := by
  obtain ⟨tokens, t', htokens, hparse, hunplaced⟩ := parse_tokenize_print h
  rw [← hsource] at htokens
  -- the name of a template plays no part in parsing
  obtain ⟨body, hbody, rfl⟩ : ∃ body, parseBody tokens = .ok body ∧ t' = ⟨t.name, body⟩ := by
    unfold parse at hparse
    cases hb : parseBody tokens with
    | error e => rw [hb] at hparse; cases hparse
    | ok body => rw [hb] at hparse; exact ⟨body, rfl, (Except.ok.inj hparse).symm⟩
  have hparse' : parse o.name tokens = .ok ⟨o.name, body⟩ := by
    unfold parse
    rw [hbody]
    rfl
  exact ⟨⟨o.name, body⟩, treeOfSource_ok_iff.2 ⟨tokens, htokens, hparse'⟩,
    congrArg Template.body hunplaced, bodyHasRoom_of_parse (tokenize_hasRoom htokens) hparse'⟩

/-! ## §4. Trees up to places. -/

section Unplaced

variable {body : List (Node Unit)}

theorem of_unplaced_text {n : Node Unit} {p : Position} {v : String}
    (h : n.unplaced = .text p v) : ∃ q, n = .text q v := by
  cases n <;> simp_all [Node.unplaced]

theorem of_unplaced_expr {n : Node Unit} {p : Position} {kind : MarkerKind} {code : String}
    (h : n.unplaced = .expr ⟨p, kind, code, ()⟩) : ∃ q, n = .expr ⟨q, kind, code, ()⟩ := by
  cases n with
  | text q v => simp [Node.unplaced] at h
  | block m cs => simp [Node.unplaced] at h
  | expr m =>
    obtain ⟨q, kind', code', note⟩ := m
    simp only [Node.unplaced, Marker.unplaced, Node.expr.injEq, Marker.mk.injEq] at h
    obtain ⟨-, rfl, rfl, -⟩ := h
    exact ⟨q, rfl⟩

theorem of_unplacedBody_cons {n : Node Unit} {ns : List (Node Unit)}
    (h : unplacedBody body = n :: ns) :
    ∃ m ms, body = m :: ms ∧ m.unplaced = n ∧ unplacedBody ms = ns := by
  cases body with
  | nil => exact absurd h.symm (List.cons_ne_nil _ _)
  | cons m ms => exact ⟨m, ms, rfl, List.cons.inj h⟩

theorem of_unplacedBody_nil (h : unplacedBody body = []) : body = [] := by
  cases body with
  | nil => rfl
  | cons n ns => exact absurd h (List.cons_ne_nil _ _)

end Unplaced

/-! ## §5. Text that needs no escapes. -/

theorem escaped_plain {s : List Char} (h : IsPlain s) : escaped s = s := by
  induction s with
  | nil => rfl
  | cons c s ih =>
    rw [isPlain_cons] at h
    rw [escaped]
    · rw [ih h.2]
    · rintro r rfl rfl
      exact h.1 ⟨rfl, rfl⟩

theorem isPlain_append {s t : List Char} (hs : IsPlain s) (ht : IsPlain t)
    (hhead : t.head? ≠ some '%') : IsPlain (s ++ t) := by
  induction s with
  | nil => exact ht
  | cons c s ih =>
    rw [isPlain_cons] at hs
    rw [List.cons_append, isPlain_cons]
    refine ⟨?_, ih hs.2⟩
    rintro ⟨rfl, hd⟩
    cases s with
    | nil => exact hhead hd
    | cons d s => exact hs.1 ⟨rfl, hd⟩

end Inlay
