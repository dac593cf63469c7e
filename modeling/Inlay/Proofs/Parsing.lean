/-
  Inlay.Proofs.Parsing
  ────────────────────────────────
  **ONE TOKEN, AND ALL OF THEM.**

  What a parser does with the token of a marker depends on what its code is
  and on whether a block is open:

      an `end`         — closes the innermost block, or is refused outside all blocks
      a clause header  — starts its next clause, or is refused outside all blocks
      a block header   — opens a block
      any other code   — is a node

  What is kept by each of these and by texts holds of the tree in the end if
  it holds of the empty one.
-/
import Inlay.Tree.Parse

namespace Inlay

open Header

namespace Builder

/-! ## §1. One token. -/

/-- What a parser does with the token of a marker. -/
inductive Takes (kind : MarkerKind) (t : Token) : Builder → Except ParseFault Builder → Prop where
  | strayEnd {root : List (Node Unit)} (hend : closesBlock t.value) :
      Takes kind t ⟨root, []⟩ (.error ⟨.unexpectedEnd, t⟩)
  | strayClause {root : List (Node Unit)} {word : String} (hend : closesBlock t.value = false)
      (hword : clauseWord? t.value = some word) :
      Takes kind t ⟨root, []⟩ (.error ⟨.unexpectedClause word, t⟩)
  | closed {root : List (Node Unit)} {top : OpenBlock} {rest : List OpenBlock}
      (hend : closesBlock t.value) :
      Takes kind t ⟨root, top :: rest⟩ (.ok (mapBody ⟨root, rest⟩ (· ++ [top.close])))
  | continued {root : List (Node Unit)} {top : OpenBlock} {rest : List OpenBlock} {word : String}
      (hend : closesBlock t.value = false) (hword : clauseWord? t.value = some word) :
      Takes kind t ⟨root, top :: rest⟩ (.ok ⟨root, top.continueWith t :: rest⟩)
  | opened {root : List (Node Unit)} {stack : List OpenBlock} (hend : closesBlock t.value = false)
      (hword : clauseWord? t.value = none) (hopen : opensBlock t.value) :
      Takes kind t ⟨root, stack⟩ (.ok ⟨root, .start t ⟨t.position, kind, t.value, ()⟩ :: stack⟩)
  | placed {b : Builder} (hend : closesBlock t.value = false) (hword : clauseWord? t.value = none)
      (hopen : opensBlock t.value = false) :
      Takes kind t b (.ok (b.mapBody (· ++ [.expr ⟨t.position, kind, t.value, ()⟩])))

theorem takes_takeMarker (b : Builder) (kind : MarkerKind) (t : Token) :
    Takes kind t b (b.takeMarker kind t) := by
  obtain ⟨root, stack⟩ := b
  unfold takeMarker
  cases hend : closesBlock t.value with
  | true =>
    rw [if_pos rfl]
    cases stack with
    | nil => exact .strayEnd hend
    | cons top rest => exact .closed hend
  | false =>
    rw [if_neg Bool.false_ne_true]
    cases hword : clauseWord? t.value with
    | some word =>
      cases stack with
      | nil => exact .strayClause hend hword
      | cons top rest => exact .continued hend hword
    | none =>
      dsimp only
      cases hopen : opensBlock t.value with
      | true => exact .opened hend hword hopen
      | false => exact .placed hend hword hopen

theorem takes_of_takeMarker {b b' : Builder} {kind : MarkerKind} {t : Token}
    (h : b.takeMarker kind t = .ok b') : Takes kind t b (.ok b') := h ▸ b.takes_takeMarker kind t

/-! ## §2. All tokens. -/

/-- **A run keeps what each token keeps.** -/
theorem takeAll_keeps {Inv : Builder → Prop} {ts : List Token}
    (htext : ∀ t ∈ ts, t.kind = .data → ∀ b : Builder, Inv b →
      Inv (b.mapBody (appendText t.position t.value)))
    (hmarker : ∀ t ∈ ts, ∀ kind, t.kind = .marker kind → ∀ b b' : Builder, Inv b →
      Takes kind t b (.ok b') → Inv b')
    {b b' : Builder} (h : Inv b) (hb : b.takeAll ts = .ok b') : Inv b' := by
  -- on the tokens, with the builder that has taken in the ones in front of them
  induction ts generalizing b with
  | nil =>
    obtain rfl := Except.ok.inj hb
    exact h
  | cons t ts ih =>
    obtain ⟨hthisText, htext⟩ := List.forall_mem_cons.1 htext
    obtain ⟨hthisMarker, hmarker⟩ := List.forall_mem_cons.1 hmarker
    unfold takeAll at hb
    split at hb
    · obtain rfl := Except.ok.inj hb
      exact h
    · rename_i hk
      exact ih htext hmarker (hthisText hk b h) hb
    · exact ih htext hmarker h hb
    · rename_i kind hk
      split at hb
      · cases hb
      · rename_i b₁ hb₁
        exact ih htext hmarker (hthisMarker kind hk b b₁ h (takes_of_takeMarker hb₁)) hb

end Builder

/-- Behind all tokens of a parsed tree no block is open. -/
theorem takeAll_of_parse {name : Option String} {tokens : List Token} {t : Template Unit}
    (h : parse name tokens = .ok t) : Builder.takeAll ⟨[], []⟩ tokens = .ok ⟨t.body, []⟩ := by
  unfold parse parseBody at h
  split at h
  · cases h
  · rename_i root hall
    obtain rfl := Except.ok.inj h
    exact hall
  · cases h

end Inlay
