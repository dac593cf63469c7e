/-
  Inlay.Proofs.Buffering
  ────────────────────────────────
  **EVERY PIPE BLOCK HAS A LIST OF ITS OWN.**

  Building threads a counter through nodes and clauses, and puts the bodies
  of clauses into slots.  What comes out of it can be said without either:

      a node writes to the list of the innermost pipe block around it;
      the list of a pipe block is made empty right before its compound
      statement, and joined, realigned and appended right behind it;
      all that the program does to its lists is the traffic of the tree, in
      the order of the tree, because slots come in the order of the headers.

      IsBodyCode         — the statements of some nodes, without a counter
      bodyStmts_keeps    — building gives them, with the traffic of the nodes
      build_keepsLists   — and so does a whole program
-/
import Inlay.Proofs.Building
import Inlay.Proofs.Ending
import Inlay.Proofs.Traffic

namespace Inlay

open Code Program

/-! ## §1. Slots of headers. -/

namespace Code

/-- A `case` has a body. -/
theorem hasBody_of_case {header : String} (h : Header.clauseWord? header = some "case") :
    Header.hasBody header = true := by
  unfold Header.clauseWord? at h
  split at h
  · obtain ⟨hword, -⟩ := Option.filter_eq_some_iff.1 h
    unfold Header.hasBody
    rw [hword]
    decide
  · cases h

/-- One more header has a slot behind all lines if it has a body, and none otherwise. -/
theorem Assembly.add_cases (a : Assembly) (header : String) :
    (Header.hasBody header = true ∧ a.lines.length < (a.add header).lines.length
        ∧ (a.add header).slots = a.slots ++ [some (a.add header).lines.length])
      ∨ (Header.hasBody header = false ∧ a.lines.length ≤ (a.add header).lines.length
        ∧ (a.add header).slots = a.slots ++ [none]) := by
  obtain ⟨first, rest, hlines⟩ : ∃ first rest, headerLines header = first :: rest := by
    unfold headerLines
    cases Text.linesOf (Header.normalize header) with
    | nil => exact ⟨"", [], rfl⟩
    | cons first rest => exact ⟨first, rest, rfl⟩
  have hlast : ∀ first last : String,
      a.lines.length < (a.lines ++ (first :: rest ++ [last])).length := by
    intro first last
    rw [List.length_append, List.length_append, List.length_singleton]
    omega
  unfold Assembly.add
  rw [hlines]
  dsimp only
  split
  · rename_i hcase
    exact Or.inl ⟨hasBody_of_case hcase, hlast _ _, rfl⟩
  · split
    · rename_i hbody
      exact Or.inl ⟨hbody, hlast _ _, rfl⟩
    · rename_i hbody
      refine Or.inr ⟨Bool.eq_false_iff.2 hbody, ?_, rfl⟩
      rw [List.length_append]
      exact Nat.le_add_right _ _

/-- Slots as the headers ask for them: one for every header with a body, in rising order. -/
structure SlotsOf (headers : List String) (slots : List (Option Nat)) : Prop where
  isSome : slots.map Option.isSome = headers.map Header.hasBody
  rising : (slots.filterMap id).Pairwise (· < ·)

theorem slotsOf_foldl (headers : List String) : ∀ (a : Assembly) (before : List String),
    SlotsOf before a.slots → (∀ n ∈ a.slots.filterMap id, n ≤ a.lines.length) →
    SlotsOf (before ++ headers) (headers.foldl Assembly.add a).slots := by
  induction headers with
  | nil =>
    intro a before h _
    rwa [List.append_nil]
  | cons header headers ih =>
    intro a before h hle
    rw [List.foldl_cons, ← List.singleton_append, ← List.append_assoc]
    have hcases := a.add_cases header
    generalize a.add header = next at hcases ⊢
    rcases hcases with ⟨hbody, hlt, hslots⟩ | ⟨hbody, hlines, hslots⟩
    · have hfilter : next.slots.filterMap id = a.slots.filterMap id ++ [next.lines.length] := by
        rw [hslots, List.filterMap_append]
        rfl
      refine ih _ _ ⟨?_, ?_⟩ fun n hn => ?_
      · rw [hslots, List.map_append, List.map_append, h.isSome, List.map_singleton,
          List.map_singleton, hbody]
        rfl
      · rw [hfilter, List.pairwise_append]
        refine ⟨h.rising, List.pairwise_singleton _ _, fun n hn m hm => ?_⟩
        obtain rfl := List.mem_singleton.1 hm
        exact Nat.lt_of_le_of_lt (hle n hn) hlt
      · rw [hfilter] at hn
        rcases List.mem_append.1 hn with hn | hn
        · exact Nat.le_trans (hle n hn) (Nat.le_of_lt hlt)
        · exact Nat.le_of_eq (List.mem_singleton.1 hn)
    · have hfilter : next.slots.filterMap id = a.slots.filterMap id := by
        rw [hslots, List.filterMap_append]
        exact List.append_nil _
      refine ih _ _ ⟨?_, ?_⟩ fun n hn => ?_
      · rw [hslots, List.map_append, List.map_append, h.isSome, List.map_singleton,
          List.map_singleton, hbody]
        rfl
      · rw [hfilter]
        exact h.rising
      · rw [hfilter] at hn
        exact Nat.le_trans (hle n hn) hlines

/-- **The slots of a skeleton.**  They are as the headers ask for them, and the statement has
them all, in rising order. -/
structure Skeleton.IsOrdered (headers : List String) (sk : Skeleton) : Prop where
  slots : SlotsOf headers sk.slots
  rows : sk.statement.slots.Pairwise (· < ·)
  mem : ∀ n ∈ sk.slots.filterMap id, n ∈ sk.statement.slots

theorem isOrdered_of_skeleton {headers : List String} {sk : Skeleton}
    (h : skeleton headers = .ok sk) : sk.IsOrdered headers := by
  unfold skeleton at h
  dsimp only at h
  split at h
  · cases h
  split at h
  · cases h
  · rename_i s hparse
    split at h
    · cases h
    · rename_i hmissing
      obtain rfl := Except.ok.inj h
      have hrising := rising_of_parse hparse
      refine ⟨?_, ?_, fun n hn => ?_⟩
      · exact slotsOf_foldl headers ⟨[], []⟩ [] ⟨rfl, .nil⟩ fun _ hn => absurd hn List.not_mem_nil
      · rcases bodySlots_cases [s] with ⟨n, hs, -⟩ | hslots
        · obtain rfl := (List.cons.inj hs).1
          exact .nil
        · rw [hslots, restSlots, restSlots, List.append_nil] at hrising
          exact hrising
      · have hpath := List.find?_eq_none.1 hmissing n hn
        rw [Option.isNone_iff_eq_none, ← ne_eq, Option.ne_none_iff_isSome] at hpath
        exact (slotPath?_iff_mem_slots s).1 hpath
  · cases h

/-- Going through rows and taking what stands under each is going through what stands there, if both
are in rising order. -/
theorem flatMap_lookup {α β : Type} (F : β → List α) {rows : List Nat} (hrows : rows.Pairwise (· < ·)) :
    ∀ {bodies : List (Nat × β)}, (bodies.map Prod.fst).Pairwise (· < ·) →
      (∀ b ∈ bodies, b.1 ∈ rows) →
      rows.flatMap (fun n => ((bodies.lookup n).map F).getD []) = bodies.flatMap (fun b => F b.2) := by
  induction rows with
  | nil =>
    intro bodies _ hmem
    cases bodies with
    | nil => rfl
    | cons b bodies => exact absurd (hmem b List.mem_cons_self) List.not_mem_nil
  | cons n rows ih =>
    obtain ⟨hfirst, hrest⟩ := List.pairwise_cons.1 hrows
    intro bodies hkeys hmem
    cases bodies with
    | nil => simp
    | cons b bodies =>
      obtain ⟨k, b⟩ := b
      obtain ⟨hkey, hkeys'⟩ := List.pairwise_cons.1 hkeys
      -- the keys of the others are behind the first one
      have hbehind : ∀ c ∈ bodies, k < c.1 := fun c hc => hkey c.1 (List.mem_map_of_mem hc)
      rw [List.flatMap_cons]
      rcases List.mem_cons.1 (hmem _ List.mem_cons_self) with hk | hk
      · obtain rfl : k = n := hk
        rw [List.lookup_cons_self, List.flatMap_cons, ← ih hrest hkeys' fun c hc => ?_]
        · refine congrArg (F b ++ ·) (List.flatMap_congr fun m hm => ?_)
          have hne : (m == k) = false := by
            have := hfirst m hm
            simp
            omega
          rw [List.lookup_cons, hne]
        · have hlt := hbehind c hc
          rcases List.mem_cons.1 (hmem c (List.mem_cons_of_mem _ hc)) with heq | hc
          · omega
          · exact hc
      · have hlt : n < k := hfirst k hk
        have hnone : ((k, b) :: bodies).lookup n = none := by
          rw [List.lookup_eq_none_iff]
          intro c hc
          rcases List.mem_cons.1 hc with rfl | hc
          · simp
            omega
          · have := hbehind c hc
            simp
            omega
        rw [hnone]
        refine ih hrest hkeys fun c hc => ?_
        rcases List.mem_cons.1 (hmem c hc) with heq | hc'
        · rcases List.mem_cons.1 hc with rfl | hc
          · exact hk
          · have := hbehind c hc
            omega
        · exact hc'

end Code

namespace Program

/-! ## §2. Statements with traffic. -/

/-- Does an expression mention no lists but these? -/
def OnlyLists (names : List String) (e : Expr) : Prop :=
  ∀ list, isListName list = true → e.Mentions list → list ∈ names

/-- Do statements have the traffic, and do nothing else with lists? -/
structure Carries (ops : List ListOp) (ss : List Stmt) : Prop where
  traffic : traffic ss = ops
  only : ∀ u ∈ unnestedIn ss, ∀ list, isListName list = true → u.Mentions list →
    ∃ op, listOp? u = some op ∧ list ∈ op.lists

section Expressions

variable {names : List String}

theorem OnlyLists.name {n : String} (h : isListName n = true → n ∈ names) :
    OnlyLists names (.name n) := by
  intro list hlist hmentions
  obtain rfl := mentions_name hmentions
  exact h hlist

theorem OnlyLists.other {n : String} (h : n ∈ otherNames) : OnlyLists names (.name n) := by
  refine .name fun hlist => ?_
  rw [isListName_other h] at hlist
  cases hlist

theorem OnlyLists.constant (c : Constant) : OnlyLists names (.constant c) :=
  fun _ _ hmentions => absurd hmentions not_mentions_constant

theorem OnlyLists.attribute {e : Expr} (h : OnlyLists names e) (member : String) :
    OnlyLists names (.attribute e member) := by
  intro list hlist hmentions
  rcases mentions_cases hmentions with hown | ⟨x, hx, hpart⟩
  · cases hown
  · obtain rfl := List.mem_singleton.1 (show x ∈ [e] from hx)
    exact h list hlist hpart

theorem OnlyLists.callOf {func : Expr} {args : List Expr} (hfunc : OnlyLists names func)
    (hargs : ∀ a ∈ args, OnlyLists names a) : OnlyLists names (callOf func args) := by
  intro list hlist hmentions
  rcases mentions_cases hmentions with hown | ⟨x, hx, hpart⟩
  · cases hown
  · unfold Program.callOf at hx
    rw [children_call] at hx
    rcases List.mem_cons.1 hx with rfl | hx
    · exact hfunc list hlist hpart
    · rcases List.mem_append.1 hx with hx | hx
      · exact hargs x hx list hlist hpart
      · cases hx

theorem OnlyLists.wholeCode (n : Int) : OnlyLists names (wholeCode n) := by
  unfold Program.wholeCode
  split
  · intro list hlist hmentions
    rcases mentions_cases hmentions with hown | ⟨x, hx, hpart⟩
    · cases hown
    · obtain rfl := List.mem_singleton.1 (show x ∈ [_] from hx)
      exact absurd hpart not_mentions_constant
  · exact .constant _

theorem OnlyLists.joined {list : String} (h : list ∈ names) : OnlyLists names (joined list) :=
  .callOf (.attribute (.constant _) _) (List.forall_mem_singleton.2 (.name fun _ => h))

theorem OnlyLists.realigned {text : Expr} (h : OnlyLists names text)
    (baseline indentation : String) (trims : Bool) :
    OnlyLists names (realigned text baseline indentation trims) := by
  refine .callOf (.other (by decide)) fun a ha => ?_
  simp only [List.mem_cons, List.not_mem_nil, or_false] at ha
  rcases ha with rfl | rfl | rfl | rfl
  · exact h
  all_goals exact .constant _

end Expressions

/-- The text of a value is not that of a list. -/
theorem flushed?_text (args : List Expr) : flushed? (callOf (.name textName) args) = none := by
  unfold flushed?
  split
  · rename_i hcall
    obtain ⟨hfunc, -⟩ := Expr.call.inj hcall
    refine if_neg fun hflush => ?_
    rw [← Expr.name.inj hfunc] at hflush
    exact absurd hflush.1 (by decide)
  · rfl

namespace Carries

variable {ops ops' : List ListOp} {ss ss' : List Stmt}

theorem nil : Carries [] [] := ⟨rfl, fun _ hu => absurd hu List.not_mem_nil⟩

theorem append (h : Carries ops ss) (h' : Carries ops' ss') : Carries (ops ++ ops') (ss ++ ss') := by
  refine ⟨by rw [traffic_append, h.traffic, h'.traffic], fun u hu => ?_⟩
  rw [unnestedIn_append] at hu
  rcases List.mem_append.1 hu with hu | hu
  · exact h.only u hu
  · exact h'.only u hu

theorem cons {op : ListOp} {s : Stmt} (h : Carries [op] [s]) (h' : Carries ops ss) :
    Carries (op :: ops) (s :: ss) := h.append h'

/-- A statement in front that has nothing to do with lists. -/
theorem behind {s : Stmt} (h : Carries [] [s]) (h' : Carries ops ss) : Carries ops (s :: ss) :=
  h.append h'

/-- A statement without bodies. -/
theorem single {s : Stmt} (hs : s.unnested = [s])
    (honly : ∀ list, isListName list = true → s.Mentions list →
      ∃ op, listOp? s = some op ∧ list ∈ op.lists) : Carries (listOp? s).toList [s] := by
  have hunnested : unnestedIn [s] = [s] := by rw [unnestedIn, unnestedIn, hs, List.append_nil]
  constructor
  · unfold Program.traffic
    rw [hunnested]
    cases hop : listOp? s with
    | none => rw [List.filterMap_cons_none hop]; rfl
    | some op => rw [List.filterMap_cons_some hop]; rfl
  · intro u hu
    rw [hunnested] at hu
    obtain rfl := List.mem_singleton.1 hu
    exact honly

/-- An expression that stands for itself. -/
theorem expression {op : ListOp} {e : Expr} (hop : listOp? (.expression e) = some op)
    (he : OnlyLists op.lists e) : Carries [op] [.expression e] := by
  have hsingle : Carries (listOp? (.expression e)).toList [.expression e] := by
    refine .single rfl fun list hlist hmentions => ⟨op, hop, ?_⟩
    rcases hmentions with hbound | ⟨e', he', hmentions⟩
    · cases hbound
    · obtain rfl := List.mem_singleton.1 he'
      exact he list hlist hmentions
  rwa [hop] at hsingle

theorem appendTo {list : String} {v : Expr} (hlist : isListName list = true)
    (hflushed : flushed? v = none) (hv : OnlyLists [list] v) :
    Carries [.append list] [appendTo list v] := by
  refine .expression (listOp?_appendTo hlist hflushed) ?_
  exact .callOf (.attribute (.name fun _ => List.mem_cons_self) _) (List.forall_mem_singleton.2 hv)

theorem flush {list target : String} (hlist : isListName list = true)
    (htarget : isListName target = true) (baseline indentation : String) (trims : Bool) :
    Carries [.flush target list]
      [Program.appendTo list (realigned (joined target) baseline indentation trims)] := by
  refine .expression (listOp?_flush hlist htarget _ _ _) (.callOf ?_ ?_)
  · exact .attribute (.name fun _ => List.mem_cons_of_mem _ List.mem_cons_self) _
  · exact List.forall_mem_singleton.2 (.realigned (.joined List.mem_cons_self) _ _ _)

theorem startBuffer {list : String} (hlist : isListName list = true) :
    Carries [.start list] [startBuffer list] := by
  have hop := listOp?_startBuffer hlist
  have hsingle : Carries (listOp? (Program.startBuffer list)).toList [Program.startBuffer list] := by
    refine .single rfl fun name hname hmentions => ⟨_, hop, ?_⟩
    rcases hmentions with hbound | ⟨e, he, hpart⟩
    · cases hbound
    · rcases List.mem_cons.1 he with rfl | he
      · exact List.mem_singleton.2 (mentions_name hpart)
      · obtain rfl := List.mem_singleton.1 he
        rcases mentions_cases hpart with hown | ⟨x, hx, -⟩
        · cases hown
        · cases hx
  rwa [hop] at hsingle

theorem noteLine (p : Position) : Carries [] [noteLine p] := by
  have hsingle : Carries (listOp? (Program.noteLine p)).toList [Program.noteLine p] := by
    refine .single rfl fun list hlist hmentions => ?_
    have honly : ∀ e ∈ (Program.noteLine p).expressions, OnlyLists [] e := by
      intro e he
      rcases List.mem_cons.1 he with rfl | he
      · exact .attribute (.other (by decide)) _
      · obtain rfl := List.mem_singleton.1 he
        exact .wholeCode p.line
    rcases hmentions with hbound | ⟨e, he, hpart⟩
    · cases hbound
    · exact absurd (honly e he list hlist hpart) List.not_mem_nil
  exact hsingle

theorem pass (n : Nat) : Carries [] [.pass n] := by
  have hsingle : Carries (listOp? (.pass n)).toList [.pass n] := by
    refine .single rfl fun list hlist hmentions => ?_
    rcases hmentions with hbound | ⟨e, he, -⟩
    · cases hbound
    · cases he
  exact hsingle

/-- Code of authors that keeps clear of reserved names. -/
theorem authored {own : List Stmt} (h : ∀ s ∈ own, StmtKeepsClear s) (i : String) :
    Carries [] (own.map (wrapIncludesIn i)) := by
  induction own with
  | nil => exact .nil
  | cons s own ih =>
    obtain ⟨hs, hown⟩ := List.forall_mem_cons.1 h
    refine .behind ⟨?_, fun u hu list hlist hmentions => ?_⟩ (ih hown)
    · rw [traffic_cons, List.filterMap_eq_nil_iff.2 (hs.misses i)]
      rfl
    · rw [unnestedIn, unnestedIn, List.append_nil] at hu
      exact absurd hmentions (hs.not_mentions hu hlist)

end Carries

/-! ## §3. Statements of a tree. -/

/-- Is the statement the one of a skeleton, wrapped, with a body in the place of every `pass`? -/
structure IsFilled (sk : Skeleton) (i : String) (bodies : List (Nat × List Stmt)) (s : Stmt) :
    Prop where
  eq : s = (wrapIncludesIn i sk.statement).fill (bodies.lookup ·)
  placed : ∀ b ∈ bodies, ∃ path,
    (wrapIncludesIn i sk.statement).slotPath? b.1 = some path ∧ s.listAt? path = some b.2

mutual

/-- Are these the statements of a node that writes to the list, if so many pipe blocks are in front
of it?  Its own list, if it is a pipe block, has the next number. -/
def IsNodeCode (list : String) (used : Nat) : Node Placement → List Stmt → Prop
  | .text _ v, ss => ss = if v.isEmpty then [] else [appendTo list (textConstant v)]
  | .expr m, ss =>
    if m.kind = .silent then
      ∃ own, parseStatements? (Header.normalize m.code) = some own
        ∧ ss = noteLine m.position :: own.map (wrapIncludesIn m.note.indentation)
    else ∃ value, ss = [noteLine m.position, appendTo list value]
  | .block m clauses, ss => ∃ sk bodies s, skeleton (clauses.map Clause.code) = .ok sk
    ∧ IsFilled sk m.note.indentation bodies s
    ∧ if m.kind = .pipe then
        AreClausesCode (bufferName (used + 1)) (used + 1) sk.slots clauses bodies
          ∧ ss = [noteLine m.position, startBuffer (bufferName (used + 1)), s,
            appendTo list (realigned (joined (bufferName (used + 1)))
              (m.note.baseline.getD "") m.note.indentation m.note.trimsNewline)]
      else AreClausesCode list used sk.slots clauses bodies ∧ ss = [noteLine m.position, s]

/-- Are these the statements of some nodes? -/
def IsBodyCode (list : String) (used : Nat) : List (Node Placement) → List Stmt → Prop
  | [], ss => ss = []
  | node :: rest, ss => ∃ first more, IsNodeCode list used node first
    ∧ IsBodyCode list (used + (nodeOpeners node).length) rest more ∧ ss = first ++ more

/-- Are these the bodies of some clauses, each with the row of its slot?  None of them is empty. -/
def AreClausesCode (list : String) (used : Nat) (slots : List (Option Nat)) :
    List (Clause Placement) → List (Nat × List Stmt) → Prop
  | [], bodies => bodies = []
  | .mk _ _ body :: rest, bodies =>
    match slots.headD none with
    | none => AreClausesCode list used slots.tail rest bodies
    | some row => ∃ own b more, IsBodyCode list used body own
      ∧ b ≠ [] ∧ (b = own ∨ own = [] ∧ b = [.pass 0])
      ∧ AreClausesCode list (used + (bodyOpeners body).length) slots.tail rest more
      ∧ bodies = (row, b) :: more

end

/-! ## §4. Building. -/

/-- What stands under a key, if the keys rise. -/
theorem lookup_of_mem {β : Type} {bodies : List (Nat × β)}
    (hkeys : (bodies.map Prod.fst).Pairwise (· < ·)) {b : Nat × β} (hb : b ∈ bodies) :
    bodies.lookup b.1 = some b.2 := by
  induction bodies with
  | nil => cases hb
  | cons c bodies ih =>
    obtain ⟨hfirst, hrest⟩ := List.pairwise_cons.1 hkeys
    rcases List.mem_cons.1 hb with rfl | hmem
    · exact List.lookup_cons_self
    · have hlt := hfirst b.1 (List.mem_map_of_mem hmem)
      have hne : (b.1 == c.1) = false := beq_false_of_ne (Nat.ne_of_gt hlt)
      obtain ⟨k, x⟩ := c
      rw [List.lookup_cons, hne]
      exact ih hrest hmem

section Filled

variable {headers : List String} {sk : Skeleton} {bodies : List (Nat × List Stmt)}

/-- The bodies stand under the slots of the skeleton. -/
theorem keys_of_slots (hsk : sk.IsOrdered headers)
    (hkeys : bodies.map Prod.fst = sk.slots.filterMap id) :
    (bodies.map Prod.fst).Pairwise (· < ·) ∧ ∀ b ∈ bodies, b.1 ∈ sk.statement.slots := by
  refine ⟨?_, fun b hb => hsk.mem b.1 ?_⟩
  · rw [hkeys]
    exact hsk.slots.rising
  · rw [← hkeys]
    exact List.mem_map_of_mem hb

theorem slots_wrapIncludesIn (i : String) (s : Stmt) : (wrapIncludesIn i s).slots = s.slots :=
  slots_mapExprs _ s

theorem isFilled (hsk : sk.IsOrdered headers)
    (hkeys : bodies.map Prod.fst = sk.slots.filterMap id) (i : String) :
    IsFilled sk i bodies ((wrapIncludesIn i sk.statement).fill (bodies.lookup ·)) := by
  obtain ⟨hrising, hmem⟩ := keys_of_slots hsk hkeys
  refine ⟨rfl, fun b hb => ?_⟩
  have hslot : b.1 ∈ (wrapIncludesIn i sk.statement).slots := by
    rw [slots_wrapIncludesIn]
    exact hmem b hb
  obtain ⟨path, hpath⟩ := Option.isSome_iff_exists.1 ((slotPath?_iff_mem_slots _).2 hslot)
  exact ⟨path, hpath, slotPath?_reaches (lookup_of_mem hrising hb) _ path hpath⟩

theorem traffic_flatMap (bodies : List (Nat × List Stmt)) :
    traffic (bodies.flatMap Prod.snd) = bodies.flatMap fun b => traffic b.2 := by
  induction bodies with
  | nil => rfl
  | cons b bodies ih => rw [List.flatMap_cons, List.flatMap_cons, traffic_append, ih]

theorem mem_unnestedIn_flatMap {u : Stmt} {b : Nat × List Stmt} (hb : b ∈ bodies)
    (hu : u ∈ unnestedIn b.2) : u ∈ unnestedIn (bodies.flatMap Prod.snd) := by
  induction bodies with
  | nil => cases hb
  | cons c bodies ih =>
    rw [List.flatMap_cons, unnestedIn_append]
    rcases List.mem_cons.1 hb with rfl | hb
    · exact List.mem_append_left _ hu
    · exact List.mem_append_right _ (ih hb)

theorem mem_of_lookup {n : Nat} {b : List Stmt} (h : bodies.lookup n = some b) :
    (n, b) ∈ bodies := by
  obtain ⟨l₁, l₂, rfl, -⟩ := List.lookup_eq_some_iff.1 h
  exact List.mem_append_right _ List.mem_cons_self

/-- **A compound statement carries what its bodies carry**, in the order of the clauses. -/
theorem Carries.fill {ops : List ListOp} (hsk : sk.IsOrdered headers)
    (hkeys : bodies.map Prod.fst = sk.slots.filterMap id)
    (hclear : StmtKeepsClear sk.statement) (i : String)
    (h : Carries ops (bodies.flatMap Prod.snd)) :
    Carries ops [(wrapIncludesIn i sk.statement).fill (bodies.lookup ·)] := by
  obtain ⟨hrising, hmem⟩ := keys_of_slots hsk hkeys
  constructor
  · rw [traffic_cons, found_fill _ _ (hclear.misses i), slots_wrapIncludesIn]
    show sk.statement.slots.flatMap (fun n => ((bodies.lookup n).map Program.traffic).getD [])
      ++ [] = ops
    rw [flatMap_lookup Program.traffic hsk.rows hrising hmem, List.append_nil, ← traffic_flatMap,
      h.traffic]
  · intro u hu
    rw [unnestedIn, unnestedIn, List.append_nil] at hu
    refine forall_fill (P := fun v => ∀ list, isListName list = true → v.Mentions list →
      ∃ op, listOp? v = some op ∧ list ∈ op.lists) (fun v hv list hlist hmentions => ?_)
      (fun n b hn v hv => ?_) u hu
    · exact absurd hmentions (hclear.not_mentions hv hlist)
    · exact h.only v (mem_unnestedIn_flatMap (mem_of_lookup hn) hv)

end Filled

/-- What building has done: so many pipe blocks have come to those in use, and the statements have
the traffic, which starts a list for each of them. -/
structure HasBuilt (used count used' : Nat) (ops : List ListOp) (ss : List Stmt) : Prop where
  counted : used' = used + count
  carries : Carries ops ss
  starts : ops.filterMap ListOp.started? = (List.range' (used + 1) count).map bufferName

namespace HasBuilt

variable {used used' used'' count count' : Nat} {ops ops' : List ListOp} {ss ss' : List Stmt}

theorem nothing : HasBuilt used 0 used [] [] := ⟨rfl, .nil, rfl⟩

/-- Statements that start no list. -/
theorem quiet (h : Carries ops ss) (hused : used' = used)
    (hops : ops.filterMap ListOp.started? = []) : HasBuilt used 0 used' ops ss :=
  ⟨hused, h, hops⟩

/-- A list is started before all others, and flushed at the end. -/
theorem pipe {list : String} (h : HasBuilt (used + 1) count used' ops ss) (hss : Carries
    (.start (bufferName (used + 1)) :: (ops ++ [.flush (bufferName (used + 1)) list])) ss') :
    HasBuilt used (1 + count) used'
      (.start (bufferName (used + 1)) :: (ops ++ [.flush (bufferName (used + 1)) list])) ss' := by
  refine ⟨?_, hss, ?_⟩
  · rw [h.counted, Nat.add_assoc]
  · have hops : (ops ++ [ListOp.flush (bufferName (used + 1)) list]).filterMap ListOp.started?
        = (List.range' (used + 1 + 1) count).map bufferName := by
      rw [List.filterMap_append, h.starts]
      exact List.append_nil _
    rw [Nat.add_comm 1, List.range'_succ, List.map_cons, ← hops]
    rfl

theorem append (h : HasBuilt used count used' ops ss)
    (h' : HasBuilt used' count' used'' ops' ss') :
    HasBuilt used (count + count') used'' (ops ++ ops') (ss ++ ss') := by
  obtain rfl := h.counted
  refine ⟨?_, h.carries.append h'.carries, ?_⟩
  · rw [h'.counted]
    omega
  · rw [List.filterMap_append, h.starts, h'.starts, ← List.map_append,
      show used + count + 1 = used + 1 + count by omega, List.range'_append_1]

end HasBuilt

theorem openers_of_isBlankText {body : List (Node Placement)}
    (h : ∀ node ∈ body, isBlankText node = true) : bodyOpeners body = [] := by
  induction body with
  | nil => rfl
  | cons node rest ih =>
    obtain ⟨hnode, hrest⟩ := List.forall_mem_cons.1 h
    rw [bodyOpeners, ih hrest]
    cases node with
    | text p v => rfl
    | expr m => cases hnode
    | block m clauses => cases hnode

/-- No pipe block is in front of the first `case`. -/
theorem openers_of_checkBlank {body : List (Node Placement)} {q r : Progress} {u : Unit}
    (h : checkBlank body q = .ok (u, r)) : bodyOpeners body = [] := by
  refine openers_of_isBlankText fun node hnode => ?_
  unfold checkBlank at h
  cases hfind : body.find? (!isBlankText ·) with
  | none => simpa using List.find?_eq_none.1 hfind node hnode
  | some other =>
    rw [hfind] at h
    exact absurd h refuse_ne_ok

/-- No body is left empty. -/
theorem orPass_ne_nil {p : Position} {body ss : List Stmt} {q r : Progress}
    (h : orPass p body q = .ok (ss, r)) : ss ≠ [] := by
  obtain ⟨-, hcases⟩ := orPass_ok h
  cases body with
  | nil =>
    cases h
    exact List.cons_ne_nil _ _
  | cons s rest =>
    rcases hcases with rfl | ⟨hnil, -⟩
    · exact List.cons_ne_nil _ _
    · cases hnil

mutual

/-- **The statements of a node**, and what they do with lists. -/
theorem nodeStmts_keeps : ∀ (node : Node Placement) (list : String) (q r : Progress)
    (ss : List Stmt), isListName list = true → nodeKeepsClear node →
    nodeStmts list node q = .ok (ss, r) →
    IsNodeCode list q.buffers node ss ∧ HasBuilt q.buffers (nodeOpeners node).length r.buffers
      (nodeTraffic list q.buffers node) ss
  | .text p v, list, q, r, ss, hlist, _, h => by
    rw [nodeStmts] at h
    rw [IsNodeCode, nodeTraffic]
    by_cases hv : v.isEmpty = true
    · rw [if_pos hv] at h ⊢
      rw [if_pos hv]
      cases h
      exact ⟨rfl, .nothing⟩
    · rw [if_neg hv] at h ⊢
      rw [if_neg hv]
      obtain ⟨_, q₁, hnote, h₁⟩ := Build.of_bind h
      cases hnote
      cases h₁
      exact ⟨rfl, .quiet (.appendTo hlist rfl (.constant _)) rfl rfl⟩
  | .expr m, list, q, r, ss, hlist, hclear, h => by
    rw [nodeStmts] at h
    rw [IsNodeCode, nodeTraffic]
    rw [nodeKeepsClear] at hclear
    by_cases hm : m.kind = .silent
    · rw [if_pos hm] at h hclear ⊢
      rw [if_pos hm]
      obtain ⟨hused, own, hown, rfl⟩ := silentStmts_ok h
      refine ⟨⟨own, hown, rfl⟩, .quiet ?_ hused rfl⟩
      exact .behind (.noteLine _) (.authored (hclear own hown) _)
    · rw [if_neg hm] at h hclear ⊢
      rw [if_neg hm]
      obtain ⟨hused, e, he, rfl⟩ := outputStmts_ok h
      refine ⟨⟨_, rfl⟩, .quiet (.behind (.noteLine _) (.appendTo hlist ?_ ?_)) hused rfl⟩
      · split
        · rfl
        · exact flushed?_text _
      · have hvalue : OnlyLists [list]
            (callOf (.name textName) [wrapIncludes m.note.indentation e]) :=
          .callOf (.other (by decide)) (List.forall_mem_singleton.2 fun name hname hmentions =>
            absurd hmentions ((hclear e he).not_mentions hname))
        split
        · exact hvalue.realigned _ _ _
        · exact hvalue
  | .block m clauses, list, q, r, ss, hlist, hclear, h => by
    obtain ⟨hstatement, hclauses⟩ := hclear
    rw [nodeStmts] at h
    rw [IsNodeCode, nodeTraffic, nodeOpeners]
    obtain ⟨s, q₁, hskeleton, h₁⟩ := Build.of_bind h
    obtain ⟨hq, sk, hsk, hslots, hs⟩ := blockSkeleton_ok hskeleton
    have hordered := isOrdered_of_skeleton hsk
    have hsome : s.slots.map Option.isSome = clauses.map fun c => Header.hasBody c.code := by
      rw [hslots, hordered.slots.isSome, List.map_map]
      rfl
    by_cases hm : m.kind = .pipe
    · rw [if_pos hm] at h₁
      obtain ⟨target, q₂, htarget, h₂⟩ := Build.of_bind h₁
      cases htarget
      obtain ⟨bodies, q₃, hbodies, h₃⟩ := Build.of_bind h₂
      cases h₃
      have hbuffer : isListName (bufferName (q₁.buffers + 1)) = true :=
        isListName_of_isBuffer (Or.inr ⟨_, rfl⟩)
      obtain ⟨hcode, hbuilt, hkeys⟩ :=
        clauseBodies_keeps clauses _ _ _ _ _ hbuffer hclauses hsome hbodies
      rw [hslots] at hcode hkeys
      rw [hs, ← hq, if_pos hm, if_pos hm]
      rw [List.length_append, List.length_singleton]
      refine ⟨⟨sk, bodies, _, hsk, isFilled hordered hkeys _, ?_⟩, hbuilt.pipe ?_⟩
      · rw [if_pos hm]
        exact ⟨hcode, rfl⟩
      · refine .behind (.noteLine _) (.cons (.startBuffer hbuffer) ?_)
        exact (hbuilt.carries.fill hordered hkeys (hstatement sk hsk) _).append
          (.flush hlist hbuffer _ _ _)
    · rw [if_neg hm] at h₁
      obtain ⟨bodies, q₂, hbodies, h₂⟩ := Build.of_bind h₁
      cases h₂
      obtain ⟨hcode, hbuilt, hkeys⟩ :=
        clauseBodies_keeps clauses _ _ _ _ _ hlist hclauses hsome hbodies
      rw [hslots] at hcode hkeys
      rw [hs, ← hq, if_neg hm, if_neg hm]
      refine ⟨⟨sk, bodies, _, hsk, isFilled hordered hkeys _, ?_⟩, hbuilt.counted, ?_, hbuilt.starts⟩
      · rw [if_neg hm]
        exact ⟨hcode, rfl⟩
      · exact .behind (.noteLine _) (hbuilt.carries.fill hordered hkeys (hstatement sk hsk) _)

/-- **The statements of some nodes**, and what they do with lists. -/
theorem bodyStmts_keeps : ∀ (nodes : List (Node Placement)) (list : String) (q r : Progress)
    (ss : List Stmt), isListName list = true → bodyKeepsClear nodes →
    bodyStmts list nodes q = .ok (ss, r) →
    IsBodyCode list q.buffers nodes ss ∧ HasBuilt q.buffers (bodyOpeners nodes).length r.buffers
      (bodyTraffic list q.buffers nodes) ss
  | [], list, q, r, ss, _, _, h => by
    rw [bodyStmts] at h
    cases h
    exact ⟨rfl, .nothing⟩
  | node :: rest, list, q, r, ss, hlist, hclear, h => by
    rw [bodyStmts] at h
    obtain ⟨first, q₁, hfirst, h₁⟩ := Build.of_bind h
    obtain ⟨more, q₂, hmore, h₂⟩ := Build.of_bind h₁
    cases h₂
    obtain ⟨hcode, hbuilt⟩ := nodeStmts_keeps node list q q₁ first hlist hclear.1 hfirst
    obtain ⟨hcode', hbuilt'⟩ := bodyStmts_keeps rest list q₁ r more hlist hclear.2 hmore
    rw [IsBodyCode, bodyTraffic, bodyOpeners, List.length_append]
    rw [hbuilt.counted] at hcode'
    have hall := hbuilt.append hbuilt'
    rw [hbuilt.counted] at hall
    exact ⟨⟨first, more, hcode, hcode', rfl⟩, hall⟩

/-- **The bodies of some clauses**, and what they do with lists, one behind the other. -/
theorem clauseBodies_keeps : ∀ (clauses : List (Clause Placement)) (list : String)
    (slots : List (Option Nat)) (q r : Progress) (bodies : List (Nat × List Stmt)),
    isListName list = true → clausesKeepClear clauses →
    (slots.map Option.isSome = clauses.map fun c => Header.hasBody c.code) →
    clauseBodies list slots clauses q = .ok (bodies, r) →
    AreClausesCode list q.buffers slots clauses bodies
      ∧ HasBuilt q.buffers (clausesOpeners clauses).length r.buffers
        (clausesTraffic list q.buffers clauses) (bodies.flatMap Prod.snd)
      ∧ bodies.map Prod.fst = slots.filterMap id
  | [], list, slots, q, r, bodies, _, _, hsome, h => by
    rw [clauseBodies] at h
    cases h
    rw [List.map_eq_nil_iff.1 hsome]
    exact ⟨rfl, .nothing, rfl⟩
  | .mk p code body :: rest, list, slots, q, r, bodies, hlist, hclear, hsome, h => by
    rw [clauseBodies] at h
    rw [AreClausesCode, clausesTraffic, clausesOpeners, List.length_append]
    cases slots with
    | nil => cases hsome
    | cons slot slots =>
      obtain ⟨hslot, hrest⟩ := List.cons.inj hsome
      rw [show Header.hasBody code = slot.isSome from hslot.symm]
      cases slot with
      | none =>
        obtain ⟨_, q₁, hblank, h₁⟩ := Build.of_bind h
        obtain rfl := checkBlank_ok hblank
        obtain ⟨hcode, hbuilt, hkeys⟩ :=
          clauseBodies_keeps rest list slots _ r bodies hlist hclear.2 hrest h₁
        rw [openers_of_checkBlank hblank, List.length_nil, Nat.zero_add, Nat.add_zero]
        exact ⟨hcode, hbuilt, hkeys⟩
      | some row =>
        obtain ⟨own, q₁, hown, h₁⟩ := Build.of_bind h
        obtain ⟨b, q₂, hb, h₂⟩ := Build.of_bind h₁
        obtain ⟨more, q₃, hmore, h₃⟩ := Build.of_bind h₂
        cases h₃
        obtain ⟨hcode, hbuilt⟩ := bodyStmts_keeps body list q q₁ own hlist hclear.1 hown
        obtain ⟨hq, hcases⟩ := orPass_ok hb
        obtain ⟨hcode', hbuilt', hkeys⟩ :=
          clauseBodies_keeps rest list slots q₂ r more hlist hclear.2 hrest hmore
        have hown' : Carries (bodyTraffic list q.buffers body) b := by
          rcases hcases with rfl | ⟨rfl, rfl⟩
          · exact hbuilt.carries
          · rw [← hbuilt.carries.traffic]
            exact .pass 0
        have hbody : HasBuilt q.buffers (bodyOpeners body).length q₂.buffers
            (bodyTraffic list q.buffers body) b :=
          ⟨hq.trans hbuilt.counted, hown', hbuilt.starts⟩
        rw [hq, hbuilt.counted] at hcode'
        have hall := hbody.append hbuilt'
        rw [hq, hbuilt.counted] at hall
        exact ⟨⟨own, b, more, hcode, orPass_ne_nil hb, hcases, hcode', rfl⟩, hall, congrArg (row :: ·) hkeys⟩

end

/-! ## §5. Programs. -/

/-- What a program does with its lists, if it comes from a tree with so many pipe blocks. -/
structure KeepsLists (t : Template Placement) (n : Nat) (program : List Stmt) : Prop where
  /-- Every node writes to the list of the innermost pipe block around it, and the list of a pipe
  block is started right before its compound statement and flushed right behind it. -/
  code : ∃ body, IsBodyCode outputName 0 t.body body ∧ program = programOf body
  /-- What the program does to lists, it does in the order of the tree. -/
  traffic : traffic program = .start outputName :: bodyTraffic outputName 0 t.body
  /-- Every list is started, in the order of the openers. -/
  starts : (Program.traffic program).filterMap ListOp.started?
    = outputName :: (List.range' 1 n).map bufferName
  /-- None of them is started twice. -/
  once : ((Program.traffic program).filterMap ListOp.started?).Nodup
  /-- No other statement mentions a list, but the one that joins the output. -/
  only : ∀ u ∈ unnestedIn program, ∀ list, IsBuffer list → u.Mentions list →
    (∃ op, listOp? u = some op ∧ list ∈ op.lists)
      ∨ u = .assign [.name resultName] (joined outputName)

/-- **The lists of a program.**  Code that mentions no reserved name leaves them alone, and they are
numbered as the openers stand in the source, whatever was built before. -/
theorem build_keepsLists {t : Template Unit} {program : List Stmt} (hclear : bodyKeepsClear t.body)
    (h : build t = .ok program) :
    KeepsLists (Indent.resolve t) (bodyOpeners t.body).length program
      ∧ (∀ name tokens, parse name tokens = .ok t →
        bodyOpeners t.body = openersOf (significant tokens))
      ∧ ∀ earlier : Progress, ∃ r,
        (programStmts (Indent.resolve t)).run earlier = .ok (program, r) := by
  obtain ⟨body, r, hbody, rfl⟩ := build_ok h
  have hclear' : bodyKeepsClear (Indent.resolve t).body := keepsClear_resolveBody none _ hclear
  have hopeners : bodyOpeners (Indent.resolve t).body = bodyOpeners t.body :=
    openers_resolveBody none _
  have hout : isListName outputName = true := isListName_of_isBuffer (Or.inl rfl)
  obtain ⟨hcode, hbuilt⟩ := bodyStmts_keeps _ _ _ _ _ hout hclear' hbody
  have hfront : Carries (.start outputName :: bodyTraffic outputName 0 (Indent.resolve t).body)
      (startBuffer outputName :: body) := .cons (.startBuffer hout) hbuilt.carries
  have htraffic : traffic (programOf body)
      = .start outputName :: bodyTraffic outputName 0 (Indent.resolve t).body := by
    rw [programOf, ← List.cons_append, traffic_append, hfront.traffic]
    exact List.append_nil _
  have hstarts : (traffic (programOf body)).filterMap ListOp.started?
      = outputName :: (List.range' 1 (bodyOpeners t.body).length).map bufferName := by
    rw [htraffic, ← hopeners]
    exact congrArg (outputName :: ·) hbuilt.starts
  refine ⟨⟨⟨body, hcode, rfl⟩, htraffic, hstarts, ?_, fun u hu list hlist hmentions => ?_⟩,
    fun _ _ hparse => openers_of_parse hparse, fun earlier => ⟨r, ?_⟩⟩
  · rw [hstarts, List.nodup_cons]
    have hnodup : (List.range' 1 (bodyOpeners t.body).length).Nodup :=
      List.nodup_range' 1 Nat.one_pos
    refine ⟨fun hmem => ?_, List.Pairwise.map bufferName
      (fun _ _ hne heq => hne (bufferName_injective heq)) hnodup⟩
    obtain ⟨i, -, hi⟩ := List.mem_map.1 hmem
    have hout' : outputName ≠ bufferName i := ne_bufferName (by decide) i
    exact hout' hi.symm
  · rw [programOf, ← List.cons_append, unnestedIn_append] at hu
    rcases List.mem_append.1 hu with hu | hu
    · exact Or.inl (hfront.only u hu list (isListName_of_isBuffer hlist) hmentions)
    · exact Or.inr (List.mem_singleton.1 hu)
  · -- building starts over, so it does not matter what was built earlier
    have hrun : (programStmts (Indent.resolve t)).run earlier
        = (bodyStmts outputName (Indent.resolve t).body).run {} >>= fun found =>
          .ok (programOf found.1, found.2) := rfl
    rw [hrun, show (bodyStmts outputName (Indent.resolve t).body).run {} = .ok (body, r) from hbody]
    rfl

/-- A pipe block with another one inside of it and one behind it. -/
def nestedPipes : Template Unit :=
  ⟨none, [.block ⟨.start, .pipe, "if x:", ()⟩ [.mk .start "if x:"
      [.text ⟨2, 0⟩ "a", .block ⟨⟨2, 1⟩, .pipe, "if x:", ()⟩ [.mk ⟨2, 1⟩ "if x:"
        [.expr ⟨⟨2, 9⟩, .output, "x", ()⟩]]]],
    .block ⟨⟨3, 0⟩, .pipe, "if x:", ()⟩ [.mk ⟨3, 0⟩ "if x:" []]]⟩

/-- Is it the skeleton of one `if x:`? -/
def isChoice : Except SkeletonFault Skeleton → Bool
  | .ok ⟨.conditional (.name "x") [.pass _] [], _⟩ => true
  | _ => false

/-- Is it the name alone? -/
def isLetter : Option Expr → Bool
  | some (.name "x") => true
  | _ => false

theorem not_isReserved_letter : isReserved "x" = false := by
  rw [← Bool.not_eq_true, isReserved_iff]
  decide

theorem keepsClear_choice {s : Skeleton}
    (h : skeleton ["if x:"] = .ok s) : StmtKeepsClear s.statement := by
  have hchoice : isChoice (skeleton ["if x:"]) = true := by decide +kernel
  rw [h] at hchoice
  unfold isChoice at hchoice
  split at hchoice
  · rename_i n slots hs
    obtain rfl := Except.ok.inj hs
    intro u hu id hmentions
    rcases List.mem_cons.1 hu with rfl | hu
    · rcases hmentions with hbound | ⟨e, he, hid⟩
      · cases hbound
      · obtain rfl := List.mem_singleton.1 he
        rw [mentions_name hid]
        exact not_isReserved_letter
    · obtain rfl := List.mem_singleton.1 hu
      rcases hmentions with hbound | ⟨e, he, -⟩
      · cases hbound
      · cases he
  · cases hchoice

theorem keepsClear_letter {e : Expr} (h : parseExpression? (Header.normalize "x") = some e) :
    KeepsClear e := by
  have hletter : isLetter (parseExpression? (Header.normalize "x")) = true := by decide +kernel
  rw [h] at hletter
  unfold isLetter at hletter
  split at hletter
  · rename_i he
    obtain rfl := Option.some.inj he
    intro id hmentions
    rw [mentions_name hmentions]
    exact not_isReserved_letter
  · cases hletter

/-- Three lists: the second one is flushed to the first one, the others to the output. -/
theorem build_keepsLists_nested : ∃ program, build nestedPipes = .ok program
    ∧ bodyKeepsClear nestedPipes.body
    ∧ traffic program = [.start "_snug_out", .start "_snug_buf1", .append "_snug_buf1",
      .start "_snug_buf2", .append "_snug_buf2", .flush "_snug_buf2" "_snug_buf1",
      .flush "_snug_buf1" "_snug_out", .start "_snug_buf3", .flush "_snug_buf3" "_snug_out"] := by
  obtain ⟨t, ht⟩ : ∃ program, build nestedPipes = .ok program := by
    have hok : (build nestedPipes).isOk = true := by decide +kernel
    cases hb : build nestedPipes with
    | error e =>
      rw [hb] at hok
      cases hok
    | ok program => exact ⟨program, rfl⟩
  have hletter : nodeKeepsClear (.expr (⟨⟨2, 9⟩, .output, "x", ()⟩ : Marker Unit)) :=
    fun e he => keepsClear_letter he
  have hclear : bodyKeepsClear nestedPipes.body :=
    ⟨⟨fun _ => keepsClear_choice, ⟨trivial, ⟨fun _ => keepsClear_choice, ⟨hletter, trivial⟩,
      trivial⟩, trivial⟩, trivial⟩, ⟨fun _ => keepsClear_choice, trivial, trivial⟩, trivial⟩
  obtain ⟨hkeeps, -⟩ := build_keepsLists hclear ht
  refine ⟨t, ht, hclear, ?_⟩
  rw [hkeeps.traffic]
  decide

end Program

end Inlay
