/-
  Inlay.Proofs.Printing
  ────────────────────────────────
  **TREES AND THEIR SOURCES.**

  A tree is printed by writing its nodes as tokens, in order: text, markers,
  and blocks with their clause headers and their `end`.  Two laws tie printing
  to reading:

      reading what was printed gives the tree again, up to places;
      every tree that was read is well formed, so it can be printed.

  The first one goes through the parser node by node, whatever blocks are
  open; the second one keeps every open block well formed.
-/
import Inlay.Proofs.Parsing
import Inlay.Proofs.Scanning

namespace Inlay

open Header

/-! ## §1. Well-formed trees. -/

/-- Is the node a text? -/
def Node.isText {α : Type} : Node α → Bool
  | .text _ _ => true
  | _ => false

/-- Is the code neither an `end`, nor a clause header, nor the opening of a block? -/
def standsAlone (code : String) : Bool :=
  !closesBlock code && (clauseWord? code).isNone && !opensBlock code

mutual

/-- Can the node have been read from a source?  A text is not empty, a marker without a block
stands for itself, and a block has the clauses that its headers say. -/
def Node.wellFormed : Node Unit → Bool
  | .text _ v => v ≠ ""
  | .expr m => lacksEnd m.code && standsAlone m.code
  | .block _ [] => false
  | .block m (.mk _ code body :: rest) =>
    lacksEnd m.code && opensBlock m.code && code = m.code && bodyWellFormed body
      && clausesWellFormed rest

/-- Can the nodes have been read as one body?  No two texts stand side by side. -/
def bodyWellFormed : List (Node Unit) → Bool
  | [] => true
  | n :: ns => n.wellFormed && !(n.isText && ns.head?.any Node.isText) && bodyWellFormed ns

/-- Can the clauses have been read as the further ones of a block? -/
def clausesWellFormed : List (Clause Unit) → Bool
  | [] => true
  | .mk _ code body :: rest =>
    lacksEnd code && (clauseWord? code).isSome && bodyWellFormed body && clausesWellFormed rest

end

/-- Can the tree have been read from a source? -/
def Template.wellFormed (t : Template Unit) : Bool := bodyWellFormed t.body

/-! ## §2. Printing. -/

/-- A marker as a token. -/
def Lexed.marker (kind : MarkerKind) (code : String) : Lexed := ⟨.marker kind, code⟩

/-- The marker that ends a block. -/
def Lexed.blockEnd : Lexed := .marker .silent "end"

mutual

/-- The tokens of a node. -/
def Node.flat : Node Unit → List Lexed
  | .text _ v => [⟨.data, v⟩]
  | .expr m => [.marker m.kind m.code]
  | .block m [] => [.marker m.kind m.code, .blockEnd]
  | .block m (.mk _ _ body :: rest) =>
    .marker m.kind m.code :: (flatBody body ++ (flatClauses rest ++ [.blockEnd]))

/-- The tokens of some nodes. -/
def flatBody : List (Node Unit) → List Lexed
  | [] => []
  | n :: ns => n.flat ++ flatBody ns

/-- The tokens of some clauses with their headers. -/
def flatClauses : List (Clause Unit) → List Lexed
  | [] => []
  | .mk _ code body :: rest => .marker .silent code :: (flatBody body ++ flatClauses rest)

end

/-- The source that a tree is printed as. -/
def Template.print (t : Template Unit) : String := String.ofList (spellAll (flatBody t.body))

/-! ## §3. Trees without their places. -/

/-- A place like any other. -/
def nowhere : Position := ⟨0, 0⟩

/-- The marker without its place. -/
def Marker.unplaced (m : Marker Unit) : Marker Unit := { m with position := nowhere }

mutual

/-- The node without its places. -/
def Node.unplaced : Node Unit → Node Unit
  | .text _ v => .text nowhere v
  | .expr m => .expr m.unplaced
  | .block m clauses => .block m.unplaced (unplacedClauses clauses)

/-- The nodes without their places. -/
def unplacedBody : List (Node Unit) → List (Node Unit)
  | [] => []
  | n :: ns => n.unplaced :: unplacedBody ns

/-- The clauses without their places. -/
def unplacedClauses : List (Clause Unit) → List (Clause Unit)
  | [] => []
  | .mk _ code body :: rest => .mk nowhere code (unplacedBody body) :: unplacedClauses rest

end

/-- The template without its places. -/
def Template.unplaced (t : Template Unit) : Template Unit := ⟨t.name, unplacedBody t.body⟩

/-! ## §4. Headers apart. -/

theorem getLast?_strip {s : List Char} {c : Char} (h : (Text.strip s).getLast? = some c) :
    (Text.stripRight s).getLast? = some c := by
  simp only [Text.strip, Text.stripRight, Text.stripLeft, List.getLast?_reverse] at h ⊢
  -- what `stripLeft` keeps is a suffix, so the reversed text starts with what is kept of it
  obtain ⟨t, ht⟩ : s.dropWhile Text.isBlank <:+ s := List.dropWhile_suffix _
  have hr : s.reverse = (s.dropWhile Text.isBlank).reverse ++ t.reverse := by
    rw [← List.reverse_append, ht]
  rw [hr, List.dropWhile_append]
  split
  · rename_i he
    rw [List.isEmpty_iff.1 he] at h
    simp at h
  · rw [List.head?_append, h]
    rfl

/-- An `end` is no header. -/
theorem isHeader_of_closesBlock {code : String} (h : closesBlock code) :
    isHeader code = false := by
  have hs : Text.strip code.toList = ['e', 'n', 'd'] := by simpa [closesBlock] using h
  have hl : (Text.strip code.toList).getLast? = some 'd' := by rw [hs]; rfl
  rw [isHeader, getLast?_strip hl]
  rfl

theorem closesBlock_of_opensBlock {code : String} (h : opensBlock code) :
    closesBlock code = false := by
  by_contra hc
  rw [opensBlock, isHeader_of_closesBlock (by simpa using hc)] at h
  simp at h

theorem closesBlock_of_clauseWord? {code : String} (h : (clauseWord? code).isSome) :
    closesBlock code = false := by
  by_contra hc
  rw [clauseWord?, isHeader_of_closesBlock (by simpa using hc)] at h
  simp at h

/-- No word both opens a block and continues one. -/
theorem clauseWords_of_blockWords {w : String} (h : blockWords.contains w) :
    clauseWords.contains w = false := by
  have : w ∈ blockWords := by simpa using h
  simp only [blockWords, List.mem_cons, List.not_mem_nil, or_false] at this
  rcases this with rfl | rfl | rfl | rfl | rfl | rfl <;> decide

theorem clauseWord?_of_opensBlock {code : String} (h : opensBlock code) :
    clauseWord? code = none := by
  simp only [opensBlock, Bool.and_eq_true, Option.any_eq_true] at h
  obtain ⟨hh, w, hw, hb⟩ := h
  rw [clauseWord?, if_pos hh, hw, Option.filter_eq_none_iff]
  intro v hv
  obtain rfl : w = v := by simpa using hv
  rw [clauseWords_of_blockWords hb]
  simp

/-! ## §5. The innermost body. -/

/-- The innermost body. -/
def Builder.body (b : Builder) : List (Node Unit) :=
  match b.stack with
  | [] => b.root
  | top :: _ => top.body

theorem Builder.mapBody_mapBody (b : Builder) (f g : List (Node Unit) → List (Node Unit)) :
    (b.mapBody f).mapBody g = b.mapBody (fun ns => g (f ns)) := by
  obtain ⟨root, stack⟩ := b
  cases stack <;> rfl

theorem Builder.mapBody_congr {b : Builder} {f g : List (Node Unit) → List (Node Unit)}
    (h : f b.body = g b.body) : b.mapBody f = b.mapBody g := by
  obtain ⟨root, stack⟩ := b
  cases stack with
  | nil =>
    replace h : f root = g root := h
    simp [mapBody, h]
  | cons top rest =>
    replace h : f top.body = g top.body := h
    simp [mapBody, h]

@[simp]
theorem Builder.body_mapBody (b : Builder) (f : List (Node Unit) → List (Node Unit)) :
    (b.mapBody f).body = f b.body := by
  obtain ⟨root, stack⟩ := b
  cases stack <;> rfl

theorem Builder.mapBody_append_nil (b : Builder) : b.mapBody (· ++ []) = b := by
  obtain ⟨root, stack⟩ := b
  cases stack <;> simp [mapBody]

/-- Does a body end in a text? -/
def endsInText (body : List (Node Unit)) : Bool := body.getLast?.any Node.isText

theorem appendText_of_not_endsInText {body : List (Node Unit)} (h : endsInText body = false)
    (p : Position) (v : String) : appendText p v body = body ++ [.text p v] := by
  unfold appendText
  split
  · rename_i hl
    simp [endsInText, hl, Node.isText] at h
  · rfl

@[simp]
theorem endsInText_snoc (body : List (Node Unit)) (n : Node Unit) :
    endsInText (body ++ [n]) = n.isText := by
  simp [endsInText]

/-! ## §6. One token. -/

theorem Token.eq_of_lexed {t : Token} {kind : TokenKind} {value : String}
    (h : t.lexed = ⟨kind, value⟩) : t = ⟨kind, value, t.position⟩ := by
  obtain ⟨k, v, p⟩ := t
  simp only [Token.lexed, Lexed.mk.injEq] at h
  obtain ⟨rfl, rfl⟩ := h
  rfl

section Steps

variable (root : List (Node Unit)) (b : Builder) (top : OpenBlock) (stack : List OpenBlock)
  (p : Position) (kind : MarkerKind) {code : String} (ts : List Token)

theorem takeAll_text (v : String) :
    b.takeAll (⟨.data, v, p⟩ :: ts) = (b.mapBody (appendText p v)).takeAll ts := by
  rw [Builder.takeAll]

theorem takeAll_expr (h : standsAlone code) :
    b.takeAll (⟨.marker kind, code, p⟩ :: ts)
      = (b.mapBody (· ++ [.expr ⟨p, kind, code, ()⟩])).takeAll ts := by
  simp only [standsAlone, Bool.and_eq_true, Bool.not_eq_true', Option.isNone_iff_eq_none] at h
  obtain ⟨⟨hend, hword⟩, hopen⟩ := h
  have : b.takeMarker kind ⟨.marker kind, code, p⟩
      = .ok (b.mapBody (· ++ [.expr ⟨p, kind, code, ()⟩])) := by
    simp [Builder.takeMarker, hend, hword, hopen]
  rw [Builder.takeAll]
  simp only [this]

theorem takeAll_opener (h : opensBlock code) :
    b.takeAll (⟨.marker kind, code, p⟩ :: ts)
      = Builder.takeAll
          ⟨b.root, .start ⟨.marker kind, code, p⟩ ⟨p, kind, code, ()⟩ :: b.stack⟩ ts := by
  have : b.takeMarker kind ⟨.marker kind, code, p⟩
      = .ok ⟨b.root, .start ⟨.marker kind, code, p⟩ ⟨p, kind, code, ()⟩ :: b.stack⟩ := by
    simp [Builder.takeMarker, closesBlock_of_opensBlock h, clauseWord?_of_opensBlock h, h]
  rw [Builder.takeAll]
  simp only [this]

theorem takeAll_header (h : (clauseWord? code).isSome) :
    Builder.takeAll ⟨root, top :: stack⟩ (⟨.marker kind, code, p⟩ :: ts)
      = Builder.takeAll ⟨root, top.continueWith ⟨.marker kind, code, p⟩ :: stack⟩ ts := by
  obtain ⟨word, hword⟩ := Option.isSome_iff_exists.1 h
  have : Builder.takeMarker ⟨root, top :: stack⟩ kind ⟨.marker kind, code, p⟩
      = .ok ⟨root, top.continueWith ⟨.marker kind, code, p⟩ :: stack⟩ := by
    simp [Builder.takeMarker, closesBlock_of_clauseWord? h, hword]
  rw [Builder.takeAll]
  simp only [this]

theorem takeAll_end (h : closesBlock code) :
    Builder.takeAll ⟨root, top :: stack⟩ (⟨.marker kind, code, p⟩ :: ts)
      = (Builder.mapBody ⟨root, stack⟩ (· ++ [top.close])).takeAll ts := by
  have : Builder.takeMarker ⟨root, top :: stack⟩ kind ⟨.marker kind, code, p⟩
      = .ok (Builder.mapBody ⟨root, stack⟩ (· ++ [top.close])) := by
    simp [Builder.takeMarker, h]
  rw [Builder.takeAll]
  simp only [this]

end Steps

/-! ## §7. Printed trees are read again. -/

theorem isText_of_unplaced {n n' : Node Unit} (h : n'.unplaced = n.unplaced) :
    n'.isText = n.isText := by
  cases n <;> cases n' <;> first | rfl | simp [Node.unplaced] at h

/-- The first nodes of a clause become its body. -/
theorem mapBody_open {top : OpenBlock} (h : top.body = []) (root ns : List (Node Unit))
    (stack : List OpenBlock) :
    Builder.mapBody ⟨root, top :: stack⟩ (· ++ ns) = ⟨root, { top with body := ns } :: stack⟩ := by
  simp [Builder.mapBody, h]

mutual

/-- A node is read as itself, and goes to the end of the innermost body. -/
theorem takeAll_flat (n : Node Unit) (hw : n.wellFormed) (b : Builder) {tokens : List Token}
    (rest : List Token) (h : tokens.map Token.lexed = n.flat)
    (hb : n.isText → endsInText b.body = false) :
    ∃ n' : Node Unit, n'.unplaced = n.unplaced
      ∧ b.takeAll (tokens ++ rest) = (b.mapBody (· ++ [n'])).takeAll rest := by
  match n with
  | .text _ v =>
    obtain ⟨t, rfl, ht⟩ := List.map_eq_singleton_iff.1 h
    refine ⟨.text t.position v, rfl, ?_⟩
    rw [Token.eq_of_lexed ht, List.singleton_append, takeAll_text]
    rw [Builder.mapBody_congr (g := (· ++ [.text t.position v]))
      (appendText_of_not_endsInText (hb rfl) t.position v)]
  | .expr m =>
    obtain ⟨t, rfl, ht⟩ := List.map_eq_singleton_iff.1 h
    simp only [Node.wellFormed, Bool.and_eq_true] at hw
    refine ⟨.expr ⟨t.position, m.kind, m.code, ()⟩, rfl, ?_⟩
    rw [Token.eq_of_lexed ht, List.singleton_append, takeAll_expr _ _ _ _ hw.2]
  | .block _ [] => simp [Node.wellFormed] at hw
  | .block m (.mk q code body :: cs) =>
    simp only [Node.wellFormed, Bool.and_eq_true, decide_eq_true_eq] at hw
    obtain ⟨⟨⟨⟨-, hopen⟩, rfl⟩, hbody⟩, hcs⟩ := hw
    obtain ⟨t, ts, rfl, ht, hts⟩ := List.map_eq_cons_iff.1 h
    obtain ⟨ts₁, ts₂, rfl, h₁, h₂⟩ := List.map_eq_append_iff.1 hts
    let top := OpenBlock.start ⟨.marker m.kind, m.code, t.position⟩ ⟨t.position, m.kind, m.code, ()⟩
    obtain ⟨body', hb', heq⟩ :=
      takeAll_flatBody body hbody ⟨b.root, top :: b.stack⟩ (ts₂ ++ rest) h₁ (fun _ => rfl)
    obtain ⟨cs', hc', heq₂⟩ :=
      takeAll_flatClauses cs hcs b.root { top with body := body' } b.stack rest h₂
    refine ⟨.block top.opener (.mk t.position m.code body' :: cs'), ?_, ?_⟩
    · simp [Node.unplaced, unplacedClauses, hb', hc', Marker.unplaced, top, OpenBlock.start]
    · rw [Token.eq_of_lexed ht, List.cons_append, takeAll_opener _ _ _ _ hopen, List.append_assoc]
      rw [heq, mapBody_open rfl, heq₂]
      rfl
termination_by sizeOf n

/-- Nodes are read as themselves, one after the other. -/
theorem takeAll_flatBody (ns : List (Node Unit)) (hw : bodyWellFormed ns) (b : Builder)
    {tokens : List Token} (rest : List Token) (h : tokens.map Token.lexed = flatBody ns)
    (hb : ns.head?.any Node.isText → endsInText b.body = false) :
    ∃ ns', unplacedBody ns' = unplacedBody ns
      ∧ b.takeAll (tokens ++ rest) = (b.mapBody (· ++ ns')).takeAll rest := by
  match ns with
  | [] =>
    obtain rfl : tokens = [] := by simpa [flatBody] using h
    exact ⟨[], rfl, by rw [Builder.mapBody_append_nil]; rfl⟩
  | n :: ns =>
    simp only [bodyWellFormed, Bool.and_eq_true, Bool.not_eq_true', Bool.and_eq_false_iff] at hw
    obtain ⟨⟨hn, hnext⟩, hns⟩ := hw
    obtain ⟨ts₁, ts₂, rfl, h₁, h₂⟩ := List.map_eq_append_iff.1 h
    obtain ⟨n', hn', heq⟩ := takeAll_flat n hn b (ts₂ ++ rest) h₁ (by simpa using hb)
    have hb₂ : ns.head?.any Node.isText → endsInText (b.mapBody (· ++ [n'])).body = false := by
      intro ht
      rw [Builder.body_mapBody, endsInText_snoc, isText_of_unplaced hn']
      simpa [ht] using hnext
    obtain ⟨ns', hns', heq₂⟩ := takeAll_flatBody ns hns (b.mapBody (· ++ [n'])) rest h₂ hb₂
    refine ⟨n' :: ns', by simp [unplacedBody, hn', hns'], ?_⟩
    rw [List.append_assoc, heq, heq₂, Builder.mapBody_mapBody]
    simp
termination_by sizeOf ns

/-- Clauses and the end of the innermost block are read as themselves, and the block goes to the
end of the body around it. -/
theorem takeAll_flatClauses (cs : List (Clause Unit)) (hw : clausesWellFormed cs)
    (root : List (Node Unit)) (top : OpenBlock) (stack : List OpenBlock) {tokens : List Token}
    (rest : List Token) (h : tokens.map Token.lexed = flatClauses cs ++ [.blockEnd]) :
    ∃ cs', unplacedClauses cs' = unplacedClauses cs
      ∧ Builder.takeAll ⟨root, top :: stack⟩ (tokens ++ rest)
        = (Builder.mapBody ⟨root, stack⟩
            (· ++ [.block top.opener (top.clauses ++ cs')])).takeAll rest := by
  match cs with
  | [] =>
    obtain ⟨t, rfl, ht⟩ := List.map_eq_singleton_iff.1 h
    refine ⟨[], rfl, ?_⟩
    rw [Token.eq_of_lexed ht, List.singleton_append, takeAll_end _ _ _ _ _ _ (by decide)]
    rw [OpenBlock.close, List.append_nil]
  | .mk _ code body :: cs =>
    simp only [clausesWellFormed, Bool.and_eq_true] at hw
    obtain ⟨⟨⟨-, hword⟩, hbody⟩, hcs⟩ := hw
    rw [flatClauses, List.cons_append, List.append_assoc] at h
    obtain ⟨t, ts, rfl, ht, hts⟩ := List.map_eq_cons_iff.1 h
    obtain ⟨ts₁, ts₂, rfl, h₁, h₂⟩ := List.map_eq_append_iff.1 hts
    let next := top.continueWith ⟨.marker .silent, code, t.position⟩
    obtain ⟨body', hb', heq⟩ :=
      takeAll_flatBody body hbody ⟨root, next :: stack⟩ (ts₂ ++ rest) h₁ (fun _ => rfl)
    obtain ⟨cs', hc', heq₂⟩ :=
      takeAll_flatClauses cs hcs root { next with body := body' } stack rest h₂
    refine ⟨.mk t.position code body' :: cs', ?_, ?_⟩
    · simp [unplacedClauses, hb', hc']
    · rw [Token.eq_of_lexed ht, List.cons_append, takeAll_header _ _ _ _ _ _ hword]
      rw [List.append_assoc, heq, mapBody_open rfl, heq₂]
      simp [next, OpenBlock.continueWith, OpenBlock.clauses]
termination_by sizeOf cs

end

/-! ## §8. Printed trees are tokenized again. -/

theorem flat_eq_cons (n : Node Unit) : ∃ t ts, n.flat = t :: ts ∧ t.isData = n.isText := by
  match n with
  | .text _ v => exact ⟨_, _, rfl, rfl⟩
  | .expr m => exact ⟨_, _, rfl, rfl⟩
  | .block m [] => exact ⟨_, _, rfl, rfl⟩
  | .block m (.mk _ _ _ :: _) => exact ⟨_, _, rfl, rfl⟩

/-- A body that starts with no text is written with a marker in front. -/
theorem head?_flatBody {ns : List (Node Unit)} {rest : List Lexed}
    (h : ns.head?.any Node.isText = false) (hr : rest.head?.any Lexed.isData = false) :
    (flatBody ns ++ rest).head?.any Lexed.isData = false := by
  cases ns with
  | nil => exact hr
  | cons n ns =>
    obtain ⟨t, ts, hf, ht⟩ := flat_eq_cons n
    rw [flatBody, hf]
    simpa [ht] using h

theorem areWritable_marker {kind : MarkerKind} {code : String} {ts : List Lexed}
    (hc : lacksEnd code) (hts : areWritable ts) : areWritable (.marker kind code :: ts) := by
  simp [areWritable, Lexed.isWritable, Lexed.marker, Lexed.isData, hc, hts]

/-- A token that is no text stands between two texts. -/
theorem areWritable_blockEnd {ts : List Lexed} (h : areWritable ts) :
    areWritable (.blockEnd :: ts) :=
  areWritable_marker (by decide) h

mutual

theorem areWritable_flat (n : Node Unit) (hw : n.wellFormed) {rest : List Lexed}
    (hr : areWritable rest) (hn : n.isText → rest.head?.any Lexed.isData = false) :
    areWritable (n.flat ++ rest) := by
  match n with
  | .text _ v =>
    have hv : v ≠ "" := by simpa [Node.wellFormed] using hw
    simp [Node.flat, areWritable, Lexed.isWritable, Lexed.isData, hv, hr, hn rfl]
  | .expr m =>
    simp only [Node.wellFormed, Bool.and_eq_true] at hw
    exact areWritable_marker hw.1 hr
  | .block _ [] => simp [Node.wellFormed] at hw
  | .block m (.mk _ code body :: cs) =>
    simp only [Node.wellFormed, Bool.and_eq_true] at hw
    obtain ⟨⟨⟨⟨hcode, -⟩, -⟩, hbody⟩, hcs⟩ := hw
    rw [Node.flat, List.cons_append, List.append_assoc, List.append_assoc]
    have hrest := areWritable_flatClauses cs hcs (areWritable_blockEnd hr) rfl
    exact areWritable_marker hcode (areWritable_flatBody body hbody hrest.1 hrest.2)

theorem areWritable_flatBody (ns : List (Node Unit)) (hw : bodyWellFormed ns)
    {rest : List Lexed} (hr : areWritable rest) (hn : rest.head?.any Lexed.isData = false) :
    areWritable (flatBody ns ++ rest) := by
  match ns with
  | [] => exact hr
  | n :: ns =>
    simp only [bodyWellFormed, Bool.and_eq_true, Bool.not_eq_true', Bool.and_eq_false_iff] at hw
    obtain ⟨⟨hw, hnext⟩, hns⟩ := hw
    rw [flatBody, List.append_assoc]
    refine areWritable_flat n hw (areWritable_flatBody ns hns hr hn) (fun ht => ?_)
    exact head?_flatBody (by simpa [ht] using hnext) hn

/-- Clauses start with a header, never with a text. -/
theorem areWritable_flatClauses (cs : List (Clause Unit)) (hw : clausesWellFormed cs)
    {rest : List Lexed} (hr : areWritable rest) (hn : rest.head?.any Lexed.isData = false) :
    areWritable (flatClauses cs ++ rest)
      ∧ (flatClauses cs ++ rest).head?.any Lexed.isData = false := by
  match cs with
  | [] => exact ⟨hr, hn⟩
  | .mk _ code body :: cs =>
    simp only [clausesWellFormed, Bool.and_eq_true] at hw
    obtain ⟨⟨⟨hcode, -⟩, hbody⟩, hcs⟩ := hw
    rw [flatClauses, List.cons_append, List.append_assoc]
    have hrest := areWritable_flatClauses cs hcs hr hn
    exact ⟨areWritable_marker hcode (areWritable_flatBody body hbody hrest.1 hrest.2), rfl⟩

end

/-- A well-formed tree is printed, tokenized and parsed as itself, up to places. -/
theorem parse_tokenize_print {t : Template Unit} (h : t.wellFormed) :
    ∃ tokens t', tokenize t.print = .ok tokens ∧ parse t.name tokens = .ok t'
      ∧ t'.unplaced = t.unplaced := by
  have hw : areWritable (flatBody t.body) := by
    have := @areWritable_flatBody t.body h [] rfl rfl
    simpa using this
  obtain ⟨tokens, htok, hlex⟩ := tokenize_spellAll hw
  refine ⟨tokens, ?_⟩
  obtain ⟨ts, es, rfl, hts, hes⟩ := List.map_eq_append_iff.1 hlex
  obtain ⟨e, rfl, he⟩ := List.map_eq_singleton_iff.1 hes
  obtain ⟨ns, hns, heq⟩ := takeAll_flatBody t.body h ⟨[], []⟩ [e] hts (fun _ => rfl)
  refine ⟨⟨t.name, ns⟩, htok, ?_, by simp [Template.unplaced, hns]⟩
  have hend : (Builder.mapBody ⟨[], []⟩ (· ++ ns)).takeAll [e] = .ok ⟨ns, []⟩ := by
    rw [Token.eq_of_lexed he, Builder.takeAll]
    rfl
  rw [parse, parseBody, heq, hend]
  rfl

/-! ## §9. Parsed trees are well formed. -/

theorem bodyWellFormed_snoc {ns : List (Node Unit)} {n : Node Unit} :
    bodyWellFormed (ns ++ [n])
      ↔ bodyWellFormed ns ∧ n.wellFormed ∧ ¬(endsInText ns ∧ n.isText) := by
  induction ns with
  | nil => simp [bodyWellFormed, endsInText]
  | cons m ns ih =>
    cases ns with
    | nil =>
      simp only [List.nil_append, List.cons_append, bodyWellFormed, endsInText]
      cases hm : m.isText <;> simp [hm, and_assoc, and_comm, and_left_comm]
    | cons k ns =>
      have he : endsInText (m :: k :: ns) = endsInText (k :: ns) := by simp [endsInText]
      rw [List.cons_append, bodyWellFormed, Bool.and_eq_true, ih, he]
      simp only [bodyWellFormed, List.cons_append, List.head?_cons, Bool.and_eq_true]
      tauto

theorem bodyWellFormed_appendText {ns : List (Node Unit)} (h : bodyWellFormed ns) {v : String}
    (hv : v ≠ "") (p : Position) : bodyWellFormed (appendText p v ns) := by
  unfold appendText
  split
  · rename_i q w hl
    obtain ⟨ms, rfl⟩ : ∃ ms, ns = ms ++ [.text q w] := by
      exact ⟨_, (List.dropLast_append_getLast? _ hl).symm⟩
    rw [List.dropLast_concat, bodyWellFormed_snoc]
    rw [bodyWellFormed_snoc] at h
    refine ⟨h.1, ?_, h.2.2⟩
    simp [Node.wellFormed, hv]
  · rename_i hl
    refine bodyWellFormed_snoc.2 ⟨h, by simpa [Node.wellFormed] using hv, ?_⟩
    rintro ⟨he, -⟩
    obtain ⟨n, hn, ht⟩ := (Option.any_eq_true _ _).1 he
    cases n with
    | text q w => exact hl q w hn
    | expr m => simp [Node.isText] at ht
    | block m cs => simp [Node.isText] at ht

theorem clausesWellFormed_append (cs ds : List (Clause Unit)) :
    clausesWellFormed (cs ++ ds) = (clausesWellFormed cs && clausesWellFormed ds) := by
  induction cs with
  | nil => rfl
  | cons c cs ih =>
    obtain ⟨p, code, body⟩ := c
    simp [clausesWellFormed, ih, Bool.and_assoc]

/-- Can the block so far have been read, its current body apart? -/
def OpenBlock.headersFit (o : OpenBlock) : Bool :=
  ({ o with body := [] } : OpenBlock).close.wellFormed

theorem OpenBlock.wellFormed_close {o : OpenBlock} :
    o.close.wellFormed ↔ o.headersFit ∧ bodyWellFormed o.body := by
  obtain ⟨token, opener, finished, position, code, body⟩ := o
  cases finished with
  | nil =>
    simp [headersFit, close, clauses, Node.wellFormed, bodyWellFormed, clausesWellFormed]
  | cons c cs =>
    obtain ⟨p, code', body'⟩ := c
    simp [headersFit, close, clauses, Node.wellFormed, bodyWellFormed, clausesWellFormed,
      clausesWellFormed_append]
    tauto

/-- All the bodies and blocks so far are well formed. -/
structure Builder.IsSound (b : Builder) : Prop where
  root : bodyWellFormed b.root
  stack : ∀ o ∈ b.stack, o.close.wellFormed

theorem Builder.IsSound.mapBody {b : Builder} (h : b.IsSound)
    {f : List (Node Unit) → List (Node Unit)}
    (hf : ∀ ns, bodyWellFormed ns → bodyWellFormed (f ns)) : (b.mapBody f).IsSound := by
  obtain ⟨root, stack⟩ := b
  obtain ⟨hroot, hstack⟩ := h
  cases stack with
  | nil => exact ⟨hf root hroot, hstack⟩
  | cons top rest =>
    replace hstack := List.forall_mem_cons.1 hstack
    have htop := OpenBlock.wellFormed_close.1 hstack.1
    refine ⟨hroot, List.forall_mem_cons.2 ⟨?_, hstack.2⟩⟩
    exact OpenBlock.wellFormed_close.2 ⟨htop.1, hf _ htop.2⟩

/-- A node that is no text goes to the end of a body. -/
theorem Builder.IsSound.append {b : Builder} (h : b.IsSound) {n : Node Unit} (hn : n.wellFormed)
    (ht : n.isText = false) : (b.mapBody (· ++ [n])).IsSound :=
  h.mapBody fun _ hns => bodyWellFormed_snoc.2 ⟨hns, hn, by simp [ht]⟩

theorem OpenBlock.wellFormed_start {token : Token} {opener : Marker Unit}
    (hl : lacksEnd opener.code) (ho : opensBlock opener.code) (hv : token.value = opener.code) :
    (OpenBlock.start token opener).close.wellFormed := by
  simp [start, close, clauses, Node.wellFormed, bodyWellFormed, clausesWellFormed, hl, ho, hv]

theorem OpenBlock.wellFormed_continueWith {o : OpenBlock} (h : o.close.wellFormed) {token : Token}
    (hl : lacksEnd token.value) (hw : (clauseWord? token.value).isSome) :
    (o.continueWith token).close.wellFormed := by
  have hc : (o.continueWith token).close
      = .block o.opener (o.clauses ++ [.mk token.position token.value []]) := rfl
  have hnew : clausesWellFormed [.mk token.position token.value []] := by
    simp [clausesWellFormed, bodyWellFormed, hl, hw]
  rw [close] at h
  rw [hc]
  revert h
  cases o.clauses with
  | nil => simp [Node.wellFormed]
  | cons c cs =>
    obtain ⟨p, code, body⟩ := c
    simp only [List.cons_append, Node.wellFormed, clausesWellFormed_append, Bool.and_eq_true]
    intro h
    exact ⟨h.1, h.2, hnew⟩

theorem Builder.IsSound.takes {b b' : Builder} (h : b.IsSound) {kind : MarkerKind} {t : Token}
    (hl : lacksEnd t.value) (hb : Takes kind t b (.ok b')) : b'.IsSound := by
  cases hb with
  | @closed root top rest hend =>
    obtain ⟨htop, hrest⟩ := List.forall_mem_cons.1 h.stack
    exact IsSound.append (b := ⟨root, rest⟩) ⟨h.root, hrest⟩ htop rfl
  | continued hend hword =>
    obtain ⟨htop, hrest⟩ := List.forall_mem_cons.1 h.stack
    refine ⟨h.root, List.forall_mem_cons.2 ⟨?_, hrest⟩⟩
    exact OpenBlock.wellFormed_continueWith htop hl (by rw [hword]; rfl)
  | opened hend hword hopen =>
    exact ⟨h.root, List.forall_mem_cons.2 ⟨OpenBlock.wellFormed_start hl hopen rfl, h.stack⟩⟩
  | placed hend hword hopen =>
    refine h.append ?_ rfl
    simp [Node.wellFormed, standsAlone, hl, hend, hword, hopen]

/-- Every tree that is parsed from a tokenized source is well formed. -/
theorem wellFormed_of_parse {source : String} {tokens : List Token} {name : Option String}
    {t : Template Unit} (htok : tokenize source = .ok tokens) (ht : parse name tokens = .ok t) :
    t.wellFormed := by
  have hsound : Builder.IsSound ⟨[], []⟩ := ⟨rfl, by simp⟩
  -- a found text is no empty one, and a found marker has no end in its code
  have hfound {t : Token} (h : t ∈ tokens) : t.isFound := tokenize_isFound htok t h
  refine (Builder.takeAll_keeps (fun t h hk b hb => ?_) (fun t h kind hk b b' hb hstep => ?_)
    hsound (takeAll_of_parse ht)).root
  · have hv : t.value ≠ "" := by simpa [Token.isFound, hk] using hfound h
    exact hb.mapBody fun ns hns => bodyWellFormed_appendText hns hv _
  · exact hb.takes (by simpa [Token.isFound, hk] using hfound h) hstep

/-! ## §10. The two laws. -/

/-- **Printing and reading.**  A well-formed tree is printed as a source that reads as this tree
again, up to places; and the trees that are read from sources are all well formed. -/
theorem print_read_and_read_wellFormed :
    (∀ t : Template Unit, t.wellFormed →
      ∃ tokens t', tokenize t.print = .ok tokens ∧ parse t.name tokens = .ok t'
        ∧ t'.unplaced = t.unplaced)
    ∧ ∀ (source : String) (tokens : List Token) (name : Option String) (t : Template Unit),
      tokenize source = .ok tokens → parse name tokens = .ok t → t.wellFormed := by
  constructor
  · intro t h
    exact parse_tokenize_print h
  · intro source tokens name t htok ht
    exact wellFormed_of_parse htok ht

/-- A tree with an escape at the end of a text, a code with sigils around it and a block with two
clauses. -/
def hardTree : Template Unit :=
  ⟨some "hard",
    [.text nowhere "<%%<", .expr ⟨nowhere, .output, " = %|# ", ()⟩, .text nowhere "<%<",
      .block ⟨nowhere, .pipe, "if x:", ()⟩
        [.mk nowhere "if x:" [.text nowhere "%>"],
          .mk nowhere "else:" [.block ⟨nowhere, .silent, "for x in y :", ()⟩
            [.mk nowhere "for x in y :" []]]]]⟩

theorem print_read_hardTree :
    hardTree.wellFormed ∧ ∃ tokens t', tokenize hardTree.print = .ok tokens
      ∧ parse hardTree.name tokens = .ok t' ∧ t'.unplaced = hardTree.unplaced
      ∧ t'.wellFormed := by
  have hw : hardTree.wellFormed := by decide
  obtain ⟨tokens, t', htok, ht, heq⟩ := print_read_and_read_wellFormed.1 hardTree hw
  have hw' := print_read_and_read_wellFormed.2 hardTree.print tokens hardTree.name t' htok ht
  exact ⟨hw, tokens, t', htok, ht, heq, hw'⟩

end Inlay
