/-
  Inlay.Proofs.Slots
  ────────────────────────────────
  **THE SLOTS OF A STATEMENT, IN ORDER.**

  A slot is a body that is a single `pass`.  No two slots of what is read from
  some code are on the same row: the statements of a logical line all come
  into one body.  And slots come in the order of their rows, because the
  bodies of a statement come in the order in which they are written.

      restSlots_of_assemble? — lines keep their slots, and the order of these
      rising_of_parse        — the slots of some code are on rising rows
-/
import Inlay.Proofs.Passing
import Inlay.Proofs.Placing

namespace Inlay.Code

open Reader

/-! ## §1. Slots. -/

/-- The row of the only statement, if it is a `pass`. -/
def passRow? : List Stmt → Option Nat
  | [.pass n] => some n
  | _ => none

mutual

/-- The rows of the slots of a statement, in the order of its bodies. -/
def Stmt.slots : Stmt → List Nat
  | .conditional _ body orelse => bodySlots body ++ bodySlots orelse
  | .whileLoop _ body orelse => bodySlots body ++ bodySlots orelse
  | .forLoop _ _ _ body orelse => bodySlots body ++ bodySlots orelse
  | .withBlock _ _ body => bodySlots body
  | .tryBlock _ body handlers orelse finalbody =>
    bodySlots body ++ (handlerSlots handlers ++ (bodySlots orelse ++ bodySlots finalbody))
  | .matchBlock _ cases => caseSlots cases
  | .function _ _ _ body _ _ => bodySlots body
  | .classBlock _ _ _ body _ => bodySlots body
  | _ => []

/-- The rows of the slots of a body: its own, or those of its statements. -/
def bodySlots : List Stmt → List Nat
  | [] => []
  | s :: ss =>
    match passRow? (s :: ss) with
    | some n => [n]
    | none => s.slots ++ restSlots ss

/-- The rows of the slots of some statements. -/
def restSlots : List Stmt → List Nat
  | [] => []
  | s :: ss => s.slots ++ restSlots ss

/-- The rows of the slots of handlers. -/
def handlerSlots : List Handler → List Nat
  | [] => []
  | .mk _ _ body :: rest => bodySlots body ++ handlerSlots rest

/-- The rows of the slots of cases. -/
def caseSlots : List Case → List Nat
  | [] => []
  | .mk _ _ body :: rest => bodySlots body ++ caseSlots rest

end

theorem restSlots_append (ss ss' : List Stmt) :
    restSlots (ss ++ ss') = restSlots ss ++ restSlots ss' := by
  induction ss with
  | nil => rfl
  | cons s ss ih => rw [List.cons_append, restSlots, restSlots, ih, List.append_assoc]

theorem eq_of_passRow? {n : Nat} {ss : List Stmt} (h : passRow? ss = some n) : ss = [.pass n] := by
  unfold passRow? at h
  split at h
  · rw [Option.some.inj h]
  · cases h

/-- A body is a slot, or has the slots of its statements. -/
theorem bodySlots_cases (ss : List Stmt) :
    (∃ n, ss = [.pass n] ∧ bodySlots ss = [n]) ∨ bodySlots ss = restSlots ss := by
  cases ss with
  | nil => exact Or.inr rfl
  | cons s ss =>
    rw [bodySlots]
    split
    · rename_i n hn
      exact Or.inl ⟨n, eq_of_passRow? hn, rfl⟩
    · exact Or.inr rfl

section Paths

variable {n : Nat}

theorem isSlot_iff_passRow? (ss : List Stmt) : isSlot n ss = true ↔ passRow? ss = some n := by
  constructor
  · intro h
    rw [eq_of_isSlot h]
    rfl
  · intro h
    rw [eq_of_passRow? h]
    exact beq_self_eq_true n

theorem isSome_stepTo (step : Step) (path : Option (List Step)) :
    (stepTo step path).isSome = path.isSome := by
  cases path <;> rfl

mutual

/-- A way leads to every slot, and to nothing else. -/
theorem slotPath?_iff_mem_slots :
    ∀ s : Stmt, (s.slotPath? n).isSome = true ↔ n ∈ s.slots
  | .conditional _ body orelse | .whileLoop _ body orelse | .forLoop _ _ _ body orelse => by
    rw [Stmt.slotPath?, Stmt.slots, Option.isSome_or, isSome_stepTo, isSome_stepTo,
      Bool.or_eq_true, List.mem_append, bodyPath?_iff_mem_slots body,
      bodyPath?_iff_mem_slots orelse]
  | .withBlock _ _ body | .function _ _ _ body _ _ | .classBlock _ _ _ body _ => by
    rw [Stmt.slotPath?, Stmt.slots, isSome_stepTo, bodyPath?_iff_mem_slots body]
  | .tryBlock _ body handlers orelse finalbody => by
    rw [Stmt.slotPath?, Stmt.slots, Option.isSome_or, Option.isSome_or, Option.isSome_or,
      isSome_stepTo, isSome_stepTo, isSome_stepTo, Bool.or_eq_true, Bool.or_eq_true,
      Bool.or_eq_true, List.mem_append, List.mem_append, List.mem_append,
      bodyPath?_iff_mem_slots body, handlerPath?_iff_mem_slots handlers,
      bodyPath?_iff_mem_slots orelse, bodyPath?_iff_mem_slots finalbody]
  | .matchBlock _ cases => casePath?_iff_mem_slots cases 0
  | .expression _ | .assign _ _ | .augment _ _ _ | .annotate _ _ _ _ | .delete _ | .pass _
  | .breakLoop | .continueLoop | .giveBack _ | .throw _ _ | .assertion _ _ | .importModules _
  | .importMembers _ _ _ | .globals _ | .nonlocals _ => by
    rw [Stmt.slotPath?, Stmt.slots] <;> simp

theorem bodyPath?_iff_mem_slots :
    ∀ ss : List Stmt, (bodyPath? n ss).isSome = true ↔ n ∈ bodySlots ss
  | [] => by
    rw [bodyPath?, bodySlots]
    simp
  | s :: ss => by
    rw [bodyPath?, bodySlots]
    cases hrow : passRow? (s :: ss) with
    | some m =>
      obtain ⟨rfl, rfl⟩ := List.cons.inj (eq_of_passRow? hrow)
      rw [isSlot]
      by_cases hm : m = n
      · subst hm
        simp
      · rw [if_neg (by simpa using hm), Stmt.slotPath?, restPath?]
        · simp [stepTo, Ne.symm hm]
        all_goals simp
    | none =>
      have hslot : isSlot n (s :: ss) = false := by
        rw [Bool.eq_false_iff, ne_eq, isSlot_iff_passRow?, hrow]
        exact fun hnone => (by cases hnone)
      rw [hslot, if_neg Bool.false_ne_true, Option.isSome_or, isSome_stepTo, Bool.or_eq_true,
        List.mem_append, slotPath?_iff_mem_slots s, restPath?_iff_mem_slots ss]

theorem restPath?_iff_mem_slots :
    ∀ (ss : List Stmt) (index : Nat), (restPath? n index ss).isSome = true ↔ n ∈ restSlots ss
  | [], _ => by
    rw [restPath?, restSlots]
    simp
  | s :: ss, index => by
    rw [restPath?, restSlots, Option.isSome_or, isSome_stepTo, Bool.or_eq_true, List.mem_append,
      slotPath?_iff_mem_slots s, restPath?_iff_mem_slots ss]

theorem handlerPath?_iff_mem_slots : ∀ (hs : List Handler) (index : Nat),
    (handlerPath? n index hs).isSome = true ↔ n ∈ handlerSlots hs
  | [], _ => by
    rw [handlerPath?, handlerSlots]
    simp
  | .mk _ _ body :: rest, index => by
    rw [handlerPath?, handlerSlots, Option.isSome_or, isSome_stepTo, isSome_stepTo,
      Bool.or_eq_true, List.mem_append, bodyPath?_iff_mem_slots body,
      handlerPath?_iff_mem_slots rest]

theorem casePath?_iff_mem_slots : ∀ (cs : List Case) (index : Nat),
    (casePath? n index cs).isSome = true ↔ n ∈ caseSlots cs
  | [], _ => by
    rw [casePath?, caseSlots]
    simp
  | .mk _ _ body :: rest, index => by
    rw [casePath?, caseSlots, Option.isSome_or, isSome_stepTo, isSome_stepTo, Bool.or_eq_true,
      List.mem_append, bodyPath?_iff_mem_slots body, casePath?_iff_mem_slots rest]

end

/-- A plain statement has no slots. -/
theorem Stmt.IsPlain.slots_eq_nil {s : Stmt} (h : s.IsPlain) : s.slots = [] := by
  refine List.eq_nil_iff_forall_not_mem.2 fun n hn => ?_
  have hpath := (slotPath?_iff_mem_slots s).2 hn
  rw [(h n).2] at hpath
  cases hpath

end Paths

/-! ## §2. Lines that form statements. -/

/-- The rows of the slots in what a line says. -/
def Item.slots : Item → List Nat
  | .simple ss => restSlots ss
  | .headed _ body => bodySlots body
  | .decorator _ => []

section Assembling

variable {items : List Item}

theorem bodySlots_of_ifTail? {orelse : List Stmt} (h : ifTail? items = some orelse) :
    bodySlots orelse = items.flatMap Item.slots := by
  fun_induction Code.ifTail? items generalizing orelse with
  | case1 =>
    obtain rfl := Option.some.inj h
    rfl
  | case2 body =>
    obtain rfl := Option.some.inj h
    exact (List.append_nil _).symm
  | case3 test body rest ih =>
    obtain ⟨inner, hinner, rfl⟩ := Option.map_eq_some_iff.1 h
    show bodySlots body ++ bodySlots inner ++ [] = _
    rw [List.append_nil, ih hinner, List.flatMap_cons]
    rfl
  | case4 => cases h

theorem bodySlots_of_loopTail? {orelse : List Stmt} (h : loopTail? items = some orelse) :
    bodySlots orelse = items.flatMap Item.slots := by
  unfold Code.loopTail? at h
  split at h
  · obtain rfl := Option.some.inj h
    rfl
  · obtain rfl := Option.some.inj h
    exact (List.append_nil _).symm
  · cases h

theorem handlerSlots_of_handlers (isGroup : Bool) (items : List Item) :
    items.flatMap Item.slots = handlerSlots (handlers isGroup items).1
      ++ (handlers isGroup items).2.flatMap Item.slots := by
  fun_induction Code.handlers isGroup items with
  | case1 type name body rest hs more heq ih =>
    rw [heq] at ih
    rw [List.flatMap_cons, ih, handlerSlots, List.append_assoc]
    rfl
  | case2 k type name body rest hk => rfl
  | case3 items hitems => rfl

theorem slots_of_tryBlock? {body : List Stmt} {s : Stmt} (h : tryBlock? body items = some s) :
    s.slots = bodySlots body ++ items.flatMap Item.slots := by
  unfold Code.tryBlock? at h
  extract_lets isGroup at h
  rw [handlerSlots_of_handlers isGroup items]
  -- the clauses behind the handlers are an `else` and a `finally`, in this order
  split at h
  case h_2 | h_7 => cases h
  all_goals
    rename_i heq
    rw [heq]
    obtain rfl := Option.some.inj h
    simp only [Stmt.slots, handlerSlots, bodySlots, Item.slots, List.flatMap_cons,
      List.flatMap_nil, List.append_nil, List.nil_append]

/-- A compound statement has the slots of its body and of its clauses. -/
theorem slots_of_compound? {ds : List Expr} {head : Head} {body : List Stmt} {s : Stmt}
    (h : compound? ds head body items = some s) :
    s.slots = bodySlots body ++ items.flatMap Item.slots := by
  have halone : items.isEmpty = true → bodySlots body = bodySlots body
      ++ items.flatMap Item.slots := by
    intro hempty
    rw [List.isEmpty_iff.1 hempty]
    exact (List.append_nil _).symm
  unfold Code.compound? at h
  split at h
  · obtain ⟨orelse, htail, rfl⟩ := Option.map_eq_some_iff.1 h
    rw [Stmt.slots, bodySlots_of_ifTail? htail]
  · obtain ⟨orelse, htail, rfl⟩ := Option.map_eq_some_iff.1 h
    rw [Stmt.slots, bodySlots_of_loopTail? htail]
  · obtain ⟨orelse, htail, rfl⟩ := Option.map_eq_some_iff.1 h
    rw [Stmt.slots, bodySlots_of_loopTail? htail]
  · exact slots_of_tryBlock? h
  case h_8 => cases h
  all_goals
    split at h
    · rename_i hempty
      obtain rfl := Option.some.inj h
      exact halone hempty
    · cases h

theorem restSlots_of_statements? {ds : List Expr} {groups : List (Item × List Item)}
    {ss : List Stmt} (h : statements? ds groups = some ss) :
    restSlots ss = groups.flatMap (fun p => p.1.slots ++ p.2.flatMap Item.slots) := by
  fun_induction Code.statements? ds groups generalizing ss with
  | case1 ds hempty =>
    obtain rfl := Option.some.inj h
    rfl
  | case2 ds hempty => cases h
  | case3 ds e clauses rest hempty ih =>
    rw [ih h, List.flatMap_cons, List.isEmpty_iff.1 hempty]
    rfl
  | case4 ds e clauses rest hempty => cases h
  | case5 ds ss' clauses rest hempty ih =>
    obtain ⟨more, hmore, rfl⟩ := Option.map_eq_some_iff.1 h
    rw [restSlots_append, ih hmore, List.flatMap_cons,
      List.isEmpty_iff.1 (Bool.and_eq_true_iff.1 hempty).2, List.flatMap_nil, List.append_nil]
    rfl
  | case6 ds ss' clauses rest hempty => cases h
  | case7 ds head body clauses rest ih =>
    obtain ⟨s, hs, h⟩ := Option.bind_eq_some_iff.1 h
    obtain ⟨more, hmore, h⟩ := Option.bind_eq_some_iff.1 h
    obtain rfl := Option.some.inj h
    rw [restSlots, ih hmore, List.flatMap_cons, slots_of_compound? hs]
    rfl

/-- **Statements have the slots of the lines that form them, in the same order.** -/
theorem restSlots_of_assemble? {ss : List Stmt} (h : assemble? items = some ss) :
    restSlots ss = items.flatMap Item.slots := by
  calc restSlots ss
      = (gather items).flatMap (fun p => (p.1 :: p.2).flatMap Item.slots) :=
        restSlots_of_statements? h
    _ = ((gather items).flatMap (fun p => p.1 :: p.2)).flatMap Item.slots :=
        List.flatMap_assoc.symm
    _ = items.flatMap Item.slots := by rw [flatMap_gather]

theorem caseSlots_of_cases? {cs : List Case} (h : cases? items = some cs) :
    caseSlots cs = items.flatMap Item.slots := by
  fun_induction Code.cases? items generalizing cs with
  | case1 =>
    obtain rfl := Option.some.inj h
    rfl
  | case2 p guard body rest ih =>
    obtain ⟨more, hmore, rfl⟩ := Option.map_eq_some_iff.1 h
    rw [caseSlots, ih hmore, List.flatMap_cons]
    rfl
  | case3 => cases h

end Assembling

/-! ## §3. Rows that rise. -/

/-- Is the row that of a lexeme of the lines? -/
def IsRowOf (lines : List (List Tok)) (n : Nat) : Prop := ∃ ts ∈ lines, ∃ t ∈ ts, t.line = n

/-- Is every lexeme of the first line on an earlier row than those of the second? -/
def StandsAbove (ts ts' : List Tok) : Prop := ∀ t ∈ ts, ∀ t' ∈ ts', t.line < t'.line

/-- Rows that rise, each the row of a lexeme of the lines. -/
structure Rising (lines : List (List Tok)) (rows : List Nat) : Prop where
  rising : rows.Pairwise (· < ·)
  isRow : ∀ n ∈ rows, IsRowOf lines n

namespace Rising

variable {lines lines' : List (List Tok)} {rows rows' : List Nat} {n : Nat}

theorem nil : Rising lines [] := ⟨.nil, fun _ h => absurd h List.not_mem_nil⟩

theorem single (h : IsRowOf lines n) : Rising lines [n] :=
  ⟨List.pairwise_singleton _ _, fun _ hm => List.mem_singleton.1 hm ▸ h⟩

theorem mono (h : Rising lines rows) (hlines : ∀ n, IsRowOf lines n → IsRowOf lines' n) :
    Rising lines' rows :=
  ⟨h.rising, fun n hn => hlines n (h.isRow n hn)⟩

/-- Rows of some lines, and rows of the lines below them. -/
theorem append (h : Rising lines rows) (h' : Rising lines' rows')
    (habove : (lines ++ lines').Pairwise StandsAbove) :
    Rising (lines ++ lines') (rows ++ rows') := by
  have hbetween := (List.pairwise_append.1 habove).2.2
  refine ⟨List.pairwise_append.2 ⟨h.rising, h'.rising, fun n hn m hm => ?_⟩, fun n hn => ?_⟩
  · obtain ⟨ts, hts, t, ht, rfl⟩ := h.isRow n hn
    obtain ⟨ts', hts', t', ht', rfl⟩ := h'.isRow m hm
    exact hbetween ts hts ts' hts' t ht t' ht'
  · rcases List.mem_append.1 hn with hn | hn
    · obtain ⟨ts, hts, ht⟩ := h.isRow n hn
      exact ⟨ts, List.mem_append_left _ hts, ht⟩
    · obtain ⟨ts, hts, ht⟩ := h'.isRow n hn
      exact ⟨ts, List.mem_append_right _ hts, ht⟩

end Rising

/-- What lines say: their slots are on rising rows, and so is a `pass` that is a statement. -/
structure Item.AreFrom (lines : List (List Tok)) (items : List Item) : Prop where
  slots : Rising lines (items.flatMap Item.slots)
  passes : ∀ ss, Item.simple ss ∈ items → ∀ n, Stmt.pass n ∈ ss → IsRowOf lines n

section Items

variable {lines lines' : List (List Tok)} {items items' : List Item}

theorem IsRowOf.append_left {n : Nat} (h : IsRowOf lines n) (lines' : List (List Tok)) :
    IsRowOf (lines ++ lines') n :=
  h.imp fun _ hts => ⟨List.mem_append_left _ hts.1, hts.2⟩

theorem IsRowOf.append_right {n : Nat} (h : IsRowOf lines' n) (lines : List (List Tok)) :
    IsRowOf (lines ++ lines') n :=
  h.imp fun _ hts => ⟨List.mem_append_right _ hts.1, hts.2⟩

theorem Item.AreFrom.nil : Item.AreFrom lines [] :=
  ⟨.nil, fun _ h => absurd h List.not_mem_nil⟩

theorem Item.AreFrom.append (h : Item.AreFrom lines items) (h' : Item.AreFrom lines' items')
    (habove : (lines ++ lines').Pairwise StandsAbove) :
    Item.AreFrom (lines ++ lines') (items ++ items') := by
  constructor
  · rw [List.flatMap_append]
    exact h.slots.append h'.slots habove
  · intro ss hss n hn
    rcases List.mem_append.1 hss with hss | hss
    · exact (h.passes ss hss n hn).append_left _
    · exact (h'.passes ss hss n hn).append_right _

/-- A compound statement is no `pass`. -/
theorem ne_pass_of_compound? {ds : List Expr} {head : Head} {body : List Stmt} {s : Stmt}
    (h : compound? ds head body items = some s) (n : Nat) : s ≠ .pass n := by
  rintro rfl
  unfold Code.compound? at h
  split at h
  case h_4 =>
    unfold Code.tryBlock? at h
    extract_lets isGroup at h
    split at h <;> cases h
  case h_8 => cases h
  case h_1 | h_2 | h_3 =>
    obtain ⟨orelse, -, heq⟩ := Option.map_eq_some_iff.1 h
    cases heq
  all_goals split at h <;> cases h

/-- A `pass` among the statements that some lines form is that of a line. -/
theorem pass_of_statements? {ds : List Expr} {groups : List (Item × List Item)} {ss : List Stmt}
    {n : Nat} (h : statements? ds groups = some ss) (hn : Stmt.pass n ∈ ss) :
    ∃ ss', Item.simple ss' ∈ groups.flatMap (fun p => p.1 :: p.2) ∧ Stmt.pass n ∈ ss' := by
  have hrest : ∀ {p : Item × List Item} {rest : List (Item × List Item)},
      (∃ ss', Item.simple ss' ∈ rest.flatMap (fun p => p.1 :: p.2) ∧ Stmt.pass n ∈ ss') →
      ∃ ss', Item.simple ss' ∈ (p :: rest).flatMap (fun p => p.1 :: p.2) ∧ Stmt.pass n ∈ ss' := by
    rintro p rest ⟨ss', hss', hn⟩
    refine ⟨ss', ?_, hn⟩
    rw [List.flatMap_cons]
    exact List.mem_append_right _ hss'
  fun_induction Code.statements? ds groups generalizing ss with
  | case1 ds hempty =>
    obtain rfl := Option.some.inj h
    exact absurd hn List.not_mem_nil
  | case2 ds hempty => cases h
  | case3 ds e clauses rest hempty ih => exact hrest (ih h hn)
  | case4 ds e clauses rest hempty => cases h
  | case5 ds ss' clauses rest hempty ih =>
    obtain ⟨more, hmore, rfl⟩ := Option.map_eq_some_iff.1 h
    rcases List.mem_append.1 hn with hn | hn
    · exact ⟨ss', List.mem_cons_self, hn⟩
    · exact hrest (ih hmore hn)
  | case6 ds ss' clauses rest hempty => cases h
  | case7 ds head body clauses rest ih =>
    obtain ⟨s, hs, h⟩ := Option.bind_eq_some_iff.1 h
    obtain ⟨more, hmore, h⟩ := Option.bind_eq_some_iff.1 h
    obtain rfl := Option.some.inj h
    rcases List.mem_cons.1 hn with hpass | hn
    · exact absurd hpass.symm (ne_pass_of_compound? hs n)
    · exact hrest (ih hmore hn)

/-- **A body that lines form has its slots on rising rows.** -/
theorem rising_of_assemble? {ss : List Stmt} (h : Item.AreFrom lines items)
    (hss : assemble? items = some ss) : Rising lines (bodySlots ss) := by
  rcases bodySlots_cases ss with ⟨n, rfl, hslots⟩ | hslots
  · rw [hslots]
    obtain ⟨ss', hss', hn⟩ := pass_of_statements? hss List.mem_cons_self
    rw [flatMap_gather] at hss'
    exact .single (h.passes ss' hss' n hn)
  · rw [hslots, restSlots_of_assemble? hss]
    exact h.slots

end Items

/-! ## §4. What is read from lines. -/

/-- Are the statements simple ones, each `pass` on a row of the line? -/
def AreSimple (ts : List Tok) (ss : List Stmt) : Prop :=
  ∀ s ∈ ss, s.slots = [] ∧ ∀ n, s = .pass n → IsRowOf [ts] n

section Simple

variable {ts : List Tok} {ss : List Stmt}

theorem AreSimple.restSlots_eq_nil (h : AreSimple ts ss) : restSlots ss = [] := by
  induction ss with
  | nil => rfl
  | cons s ss ih =>
    obtain ⟨hs, hss⟩ := List.forall_mem_cons.1 h
    rw [restSlots, hs.1, ih hss, List.nil_append]

theorem AreSimple.rising (h : AreSimple ts ss) : Rising [ts] (bodySlots ss) := by
  rcases bodySlots_cases ss with ⟨n, rfl, hslots⟩ | hslots
  · rw [hslots]
    exact .single ((h _ List.mem_cons_self).2 n rfl)
  · rw [hslots, h.restSlots_eq_nil]
    exact .nil

/-- What is simple on the rest of a line is simple on the line. -/
theorem AreSimple.of_drop {m : Nat} (h : AreSimple (ts.drop m) ss) : AreSimple ts ss := by
  intro s hs
  refine ⟨(h s hs).1, fun n hn => ?_⟩
  obtain ⟨us, hus, t, ht, hrow⟩ := (h s hs).2 n hn
  obtain rfl := List.mem_singleton.1 hus
  exact ⟨ts, List.mem_singleton_self ts, t, List.mem_of_mem_drop ht, hrow⟩

variable {depth : Nat} {rest : List Tok}

/-- A simple statement takes lexemes from the front of the line. -/
theorem areSimple_of_simpleStatement {s : Stmt}
    (h : simpleStatement (grammar depth) ts = some (s, rest)) (hw : weightOf ts + 2 ≤ depth) :
    AreSimple ts [s] ∧ ∃ m, rest = ts.drop m := by
  rcases simpleStatement_cases h hw with ⟨u, rfl, -, rfl⟩ | ⟨hplain, hdrop⟩
  · refine ⟨fun s hs => ?_, 1, rfl⟩
    obtain rfl := List.mem_singleton.1 hs
    refine ⟨rfl, fun n hn => ?_⟩
    obtain rfl := Stmt.pass.inj hn
    exact ⟨u :: rest, List.mem_singleton_self _, u, List.mem_cons_self, rfl⟩
  · refine ⟨fun s' hs => ?_, hdrop⟩
    obtain rfl := List.mem_singleton.1 hs
    exact ⟨hplain.slots_eq_nil, fun n hn => absurd hn (hplain n).1⟩

theorem areSimple_of_manyAlong (us : List Tok)
    (h : manyAlong (furtherStatement? (grammar depth)) us ts = some (ss, rest))
    (hw : weightOf ts + 2 ≤ depth) : AreSimple ts ss := by
  induction us generalizing ts ss with
  | nil =>
    obtain ⟨found, ts', hfound, h⟩ := of_bind h
    cases found with
    | none =>
      obtain ⟨rfl, -⟩ := Prod.mk.inj (Option.some.inj h)
      exact fun s hs => absurd hs List.not_mem_nil
    | some s => cases h
  | cons u us ih =>
    obtain ⟨found, ts', hfound, h⟩ := of_bind h
    cases found with
    | none =>
      obtain ⟨rfl, -⟩ := Prod.mk.inj (Option.some.inj h)
      exact fun s hs => absurd hs List.not_mem_nil
    | some s =>
      obtain ⟨more, ts'', hmore, h⟩ := of_bind h
      obtain ⟨rfl, rfl⟩ := Prod.mk.inj (Option.some.inj h)
      obtain ⟨t, ts₁, rfl, -, hs⟩ := furtherStatement?_eq_some hfound
      have hle := weightOf_drop_le 1 (t :: ts₁)
      rw [List.drop_one, List.tail_cons] at hle
      obtain ⟨hsimple, m, rfl⟩ := areSimple_of_simpleStatement hs (by omega)
      have hle' := weightOf_drop_le m ts₁
      have hmany : AreSimple ts₁ more := .of_drop (ih hmore (by omega))
      refine .of_drop (m := 1) (List.forall_mem_cons.2 ⟨?_, hmany⟩)
      exact hsimple s (List.mem_singleton_self s)

/-- Simple statements are on the rows of their line. -/
theorem areSimple_of_simpleStatements
    (h : simpleStatements (grammar depth) ts = some (ss, rest)) (hw : weightOf ts + 2 ≤ depth) :
    AreSimple ts ss := by
  unfold simpleStatements at h
  obtain ⟨first, ts₁, hfirst, h⟩ := of_bind h
  obtain ⟨more, ts₂, hmore, h⟩ := of_bind h
  obtain ⟨b, ts₃, -, h⟩ := of_bind h
  obtain ⟨_, ts₄, -, h⟩ := of_bind h
  obtain ⟨rfl, -⟩ := Prod.mk.inj (Option.some.inj h)
  obtain ⟨hsimple, m, rfl⟩ := areSimple_of_simpleStatement hfirst hw
  have hle := weightOf_drop_le m ts
  refine List.forall_mem_cons.2 ⟨hsimple first (List.mem_singleton_self first), ?_⟩
  exact (areSimple_of_manyAlong _ hmore (by omega)).of_drop

/-- Are the statements on a line simple ones? -/
def LineText.IsFrom (ts : List Tok) : LineText → Prop
  | .simple ss => AreSimple ts ss
  | .inline _ body => AreSimple ts body
  | .opening _ => True
  | .decorator _ => True

theorem isFrom_of_lineText {inMatch hasSuite : Bool} {text : LineText}
    (h : lineText (grammar depth) inMatch hasSuite ts = some (text, rest))
    (hw : weightOf ts + 2 ≤ depth) : text.IsFrom ts := by
  unfold lineText at h
  obtain ⟨head, ts₁, hhead, h⟩ := of_bind h
  obtain ⟨m, rfl⟩ := head?_drop hhead hw
  have hle := weightOf_drop_le m ts
  cases head with
  | some head =>
    obtain ⟨_, ts₂, hsign, h⟩ := of_bind h
    obtain ⟨t, ht, -⟩ := sign_eq_some hsign
    obtain ⟨b, ts₃, hend, h⟩ := of_bind h
    obtain ⟨rfl, rfl⟩ := Prod.mk.inj (Option.some.inj hend)
    split at h
    · obtain rfl := (Prod.mk.inj (Option.some.inj h)).1
      trivial
    · obtain ⟨ss, ts₄, hss, h⟩ := of_bind h
      obtain rfl := (Prod.mk.inj (Option.some.inj h)).1
      have hrest : ts₂ = ts.drop (m + 1) := by
        rw [← List.drop_drop, ht]
        rfl
      have hle' := weightOf_drop_le (m + 1) ts
      rw [hrest] at hss
      exact (areSimple_of_simpleStatements hss (by omega)).of_drop
  | none =>
    dsimp only at h
    rcases acceptSign_cases "@" (ts.drop m) with ⟨t, us, -, -, haccept⟩ | haccept
    · rw [bind_apply _ haccept, if_pos rfl] at h
      obtain ⟨e, us', -, h⟩ := of_bind h
      obtain ⟨b, us', -, h⟩ := of_bind h
      obtain ⟨_, us', -, h⟩ := of_bind h
      obtain rfl := (Prod.mk.inj (Option.some.inj h)).1
      trivial
    · rw [bind_apply _ haccept, if_neg Bool.false_ne_true] at h
      obtain ⟨ss, us', hss, h⟩ := of_bind h
      obtain rfl := (Prod.mk.inj (Option.some.inj h)).1
      exact (areSimple_of_simpleStatements hss (by omega)).of_drop

end Simple

/-! ## §5. Forests. -/

section Forests

variable {depth : Nat}

theorem areFrom_of_item? {text : LineText} {toks : List Tok} {lines : List (List Tok)}
    {suite : List Item} {i : Item} (htext : text.IsFrom toks) (hsuite : Item.AreFrom lines suite)
    (h : item? text suite = some i) : Item.AreFrom (toks :: lines) [i] := by
  have hhere : ∀ n, IsRowOf [toks] n → IsRowOf (toks :: lines) n := fun n hn => hn.append_left lines
  have hbelow : ∀ n, IsRowOf lines n → IsRowOf (toks :: lines) n :=
    fun n hn => hn.append_right [toks]
  have hheaded : ∀ {head : Head} {body : List Stmt}, Rising (toks :: lines) (bodySlots body) →
      Item.AreFrom (toks :: lines) [.headed head body] := by
    intro head body hbody
    refine ⟨by rwa [List.flatMap_singleton], fun ss hss => ?_⟩
    cases List.mem_singleton.1 hss
  unfold item? at h
  split at h
  · rename_i ss
    split at h
    · obtain rfl := Option.some.inj h
      refine ⟨?_, fun ss' hss' n hn => ?_⟩
      · rw [List.flatMap_singleton, Item.slots, AreSimple.restSlots_eq_nil htext]
        exact .nil
      · obtain rfl := Item.simple.inj (List.mem_singleton.1 hss')
        exact hhere n ((htext _ hn).2 n rfl)
    · cases h
  · split at h
    · obtain rfl := Option.some.inj h
      exact ⟨.nil, fun ss hss => by cases List.mem_singleton.1 hss⟩
    · cases h
  · split at h
    · obtain rfl := Option.some.inj h
      exact hheaded ((AreSimple.rising htext).mono hhere)
    · cases h
  · split at h
    · cases h
    · obtain ⟨cs, hcs, rfl⟩ := Option.map_eq_some_iff.1 h
      refine ⟨?_, fun ss hss n hn => ?_⟩
      · rw [List.flatMap_singleton]
        show Rising _ (caseSlots cs ++ [])
        rw [List.append_nil, caseSlots_of_cases? hcs]
        exact hsuite.slots.mono hbelow
      · obtain rfl := Item.simple.inj (List.mem_singleton.1 hss)
        cases List.mem_singleton.1 hn
  · split at h
    · cases h
    · obtain ⟨body, hbody, rfl⟩ := Option.map_eq_some_iff.1 h
      exact hheaded ((rising_of_assemble? hsuite hbody).mono hbelow)

mutual

/-- What a line and its suite say is on the rows of their lexemes, in this order. -/
theorem areFrom_of_readItem? : ∀ (l : Line) {inMatch : Bool} {i : Item},
    (∀ ts ∈ l.written, weightOf ts + 2 ≤ depth) → l.written.Pairwise StandsAbove →
    readItem? (grammar depth) inMatch l = some i → Item.AreFrom l.written [i]
  | .mk toks suite, inMatch, i, hw, habove, h => by
    rw [readItem?] at h
    rw [Line.written] at hw habove ⊢
    obtain ⟨htoks, hsuite⟩ := List.forall_mem_cons.1 hw
    obtain ⟨⟨text, rest⟩, htext, h⟩ := Option.bind_eq_some_iff.1 h
    obtain ⟨items, hitems, h⟩ := Option.bind_eq_some_iff.1 h
    exact areFrom_of_item? (isFrom_of_lineText htext htoks)
      (areFrom_of_readItems? suite hsuite (List.pairwise_cons.1 habove).2 hitems) h

/-- The same of several lines. -/
theorem areFrom_of_readItems? : ∀ (ls : List Line) {inMatch : Bool} {items : List Item},
    (∀ ts ∈ writtenIn ls, weightOf ts + 2 ≤ depth) → (writtenIn ls).Pairwise StandsAbove →
    readItems? (grammar depth) inMatch ls = some items → Item.AreFrom (writtenIn ls) items
  | [], inMatch, items, _, _, h => by
    rw [readItems?] at h
    obtain rfl := Option.some.inj h
    exact .nil
  | l :: ls, inMatch, items, hw, habove, h => by
    rw [readItems?] at h
    rw [writtenIn] at hw habove ⊢
    obtain ⟨hl, hls⟩ := List.forall_mem_append.1 hw
    obtain ⟨i, hi, h⟩ := Option.bind_eq_some_iff.1 h
    obtain ⟨more, hmore, h⟩ := Option.bind_eq_some_iff.1 h
    obtain rfl := Option.some.inj h
    have hparts := List.pairwise_append.1 habove
    exact (areFrom_of_readItem? l hl hparts.1 hi).append
      (areFrom_of_readItems? ls hls hparts.2.1 hmore) habove

end

end Forests

/-- A logical line that is over ends above the next one. -/
theorem ReadsLine.line_lt {closers : List String} {here q : Spot} {s rest : List Char}
    {toks : List Tok} (h : ReadsLine closers here s toks q rest) (hrest : rest ≠ []) :
    here.line < q.line ∧ ∀ t ∈ toks, t.line < q.line := by
  induction h with
  | ended here => exact absurd rfl hrest
  | finished here r => exact ⟨Nat.lt_succ_self _, fun t ht => absurd ht List.not_mem_nil⟩
  | @goesOn closers here r toks q rest hopen h ih =>
    exact ⟨Nat.lt_of_le_of_lt (here.line_le_after '\n') (ih hrest).1, (ih hrest).2⟩
  | comment h ih => exact ih hrest
  | @joined closers here r toks q rest hmore h ih =>
    exact ⟨Nat.lt_of_le_of_lt (here.line_le_after '\n') (ih hrest).1, (ih hrest).2⟩
  | @blank closers here c r toks q rest hc h ih =>
    exact ⟨Nat.lt_of_le_of_lt (here.line_le_after c) (ih hrest).1, (ih hrest).2⟩
  | @lexeme closers closers' here c r t x toks q rest hstart hread hclosers h ih =>
    have hlt : here.line < q.line := by
      have hle : here.line ≤ (here.behind (x.lengthIn (c :: r) t) (c :: r)).line := by
        rw [Spot.line_passed]
        exact Nat.le_add_right _ _
      exact Nat.lt_of_le_of_lt hle (ih hrest).1
    refine ⟨hlt, fun u hu => ?_⟩
    rcases List.mem_cons.1 hu with rfl | hu
    · exact hlt
    · exact (ih hrest).2 u hu

/-- **Every logical line stands above the next ones.** -/
theorem ReadsLines.pairwise {here : Spot} {s : List Char} {ls : List LogicalLine}
    (h : ReadsLines here s ls) : (ls.map LogicalLine.toks).Pairwise StandsAbove := by
  induction h with
  | done here => exact .nil
  | nothing hs hmargin hrest => exact .nil
  | blank hs hmargin hrest h ih => exact ih
  | lastComment hs hmargin hrest hend => exact .nil
  | comment hs hmargin hrest hend h ih => exact ih
  | @line here s fuel m toks q rest ls hs hmargin hstart hmore hline h ih =>
    rw [List.map_cons, List.pairwise_cons]
    refine ⟨fun ts' hts' t ht t' ht' => ?_, ih⟩
    obtain ⟨l, hl, rfl⟩ := List.mem_map.1 hts'
    have hrest : rest ≠ [] := by
      rintro rfl
      cases h with
      | done => exact absurd hl List.not_mem_nil
      | nothing hs _ _ | blank hs _ _ _ | lastComment hs _ _ _ | comment hs _ _ _ _
      | line hs _ _ _ _ _ => exact hs rfl
    exact Nat.lt_of_lt_of_le ((hline.line_lt hrest).2 t ht) (h.line_le l hl t' ht')

/-- **The slots of some code are on rising rows.** -/
theorem rising_of_parse {code : String} {ss : List Stmt} (h : parseStatements? code = some ss) :
    (bodySlots ss).Pairwise (· < ·) := by
  obtain ⟨forest, hforest, h⟩ := Option.bind_eq_some_iff.1 h
  obtain ⟨items, hitems, hassemble⟩ := Option.bind_eq_some_iff.1 h
  obtain ⟨ls, hls, hsuite⟩ := readSuite?_of_layout? hforest
  have hwritten := written_of_readSuite? hsuite
  rw [List.map_nil, List.append_nil] at hwritten
  have hweight : ∀ ts ∈ writtenIn forest, weightOf ts + 2 ≤ code.length + 2 := by
    intro ts hts
    rw [← hwritten] at hts
    obtain ⟨l, hl, rfl⟩ := List.mem_map.1 hts
    have := weightOf_le_of_logicalLines? hls l hl
    omega
  have habove : (writtenIn forest).Pairwise StandsAbove := by
    rw [← hwritten]
    unfold logicalLines? at hls
    exact (readsLines_of_readLines? hls).pairwise
  exact (rising_of_assemble? (areFrom_of_readItems? forest hweight habove hitems) hassemble).rising

end Inlay.Code
