/-
  Inlay.Proofs.Writing
  ────────────────────────────────
  **WALKS THAT WRITE A TEXT.**

  Some walks come to their end from wherever a module is at work, and write
  the same text from there:

      a text        — writes itself
      nodes         — write what each of them writes, one after the other
      a block       — writes what its body writes, in each of its rounds
      a pipe block  — writes the same, put in its place

  A loop makes a list and an iterator, and goes on as long as these two are
  left alone.  So a walk that writes leaves all objects alone which it did not
  make, apart from the context and the names of the module.
-/
import Inlay.Proofs.HeaderCode
import Inlay.Proofs.Including

namespace Inlay

open Inlay.Code Inlay.Program

/-! ## §1. What is left alone. -/

theorem getElem?_modified (s : State) (r q : Ref) (f : Object → Object) :
    (s.modified r f).world.heap[q]? =
      if r = q then s.world.heap[q]?.map f else s.world.heap[q]? := by
  show (s.world.heap.modify r f)[q]? = _
  rw [Array.getElem?_modify]

/-- The state with one more object. -/
def State.pushed (s : State) (o : Object) : State := { s with world := s.world.push o }

theorem getElem?_pushed (s : State) (o : Object) (q : Ref) :
    (s.pushed o).world.heap[q]? = if q = s.world.heap.size then some o else s.world.heap[q]? := by
  show (s.world.heap.push o)[q]? = _
  rw [Array.getElem?_push]

/-- Does a state come after another one, with a module at work, and with all objects left alone but
its context and its names? -/
structure State.Goes (context globals : Ref) (s s' : State) : Prop where
  hosts : s'.Hosts context globals
  spares : ∀ r o, r ≠ context → r ≠ globals → s.world.heap[r]? = some o →
    s'.world.heap[r]? = some o

section Goes

variable {s₀ s s' : State} {context globals r : Ref}

theorem State.Hosts.goes (h : s.Hosts context globals) : s.Goes context globals s :=
  ⟨h, fun _ _ _ _ ho => ho⟩

theorem State.Goes.trans (h : s₀.Goes context globals s) (h' : s.Goes context globals s') :
    s₀.Goes context globals s' :=
  ⟨h'.hosts, fun r o hcontext hglobals ho =>
    h'.spares r o hcontext hglobals (h.spares r o hcontext hglobals ho)⟩

/-- A module and its context are objects. -/
theorem State.Hosts.lt (h : s.Hosts context globals) :
    context < s.world.heap.size ∧ globals < s.world.heap.size := by
  obtain ⟨⟨c, hc⟩, ⟨d, hd, -⟩, -⟩ := h
  rw [World.contextAt?_eq] at hc
  obtain ⟨o, ho, -⟩ := Option.bind_eq_some_iff.1 hc
  exact ⟨(Array.getElem?_eq_some_iff.1 ho).1, (Array.getElem?_eq_some_iff.1 hd).1⟩

/-- A module and its context are other objects. -/
theorem State.Hosts.ne (h : s.Hosts context globals) : context ≠ globals := by
  obtain ⟨⟨c, hc⟩, ⟨d, hd, -⟩, -⟩ := h
  rintro rfl
  rw [World.contextAt?_eq, hd] at hc
  cases hc

theorem State.Hosts.of_heap (h : s.Hosts context globals)
    (hcontext : s'.world.heap[context]? = s.world.heap[context]?)
    (hglobals : s'.world.heap[globals]? = s.world.heap[globals]?) (hown : s'.own = s.own) :
    s'.Hosts context globals := by
  obtain ⟨⟨c, hc⟩, ⟨d, hd, hnames⟩, htools⟩ := h
  refine ⟨⟨c, ?_⟩, ⟨d, hglobals.trans hd, hnames⟩, ?_⟩
  · rw [World.contextAt?_eq, hcontext, ← World.contextAt?_eq]
    exact hc
  · unfold State.ownOf
    rw [hown]
    exact htools

theorem goes_atLine (h : s.Hosts context globals) (line : Int) :
    s.Goes context globals (s.modified context (Object.atLine line)) := by
  refine ⟨h.atLine line, fun r o hcontext _ ho => ?_⟩
  rw [getElem?_modified, if_neg (Ne.symm hcontext)]
  exact ho

/-- A name is bound. -/
theorem goes_named (h : s.Hosts context globals) (name : String) (v : Value) :
    s.Goes context globals (s.modified globals (Object.mapEntries (·.putName name v))) := by
  have hne := h.ne
  obtain ⟨⟨c, hc⟩, ⟨d, hd, hnames⟩, htools⟩ := h
  refine ⟨⟨⟨c, ?_⟩, ⟨d.putName name v, ?_, hnames.putName name v⟩, htools⟩,
    fun r o _ hglobals ho => ?_⟩
  · rw [World.contextAt?_eq] at hc ⊢
    rw [getElem?_modified, if_neg hne.symm]
    exact hc
  · rw [getElem?_modified, if_pos rfl, hd]
    rfl
  · rw [getElem?_modified, if_neg (Ne.symm hglobals)]
    exact ho

/-- An object is made. -/
theorem goes_pushed (h : s.Hosts context globals) (o : Object) :
    s.Goes context globals (s.pushed o) := by
  have hold : ∀ r, r < s.world.heap.size → (s.pushed o).world.heap[r]? = s.world.heap[r]? := by
    intro r hr
    rw [getElem?_pushed, if_neg (Nat.ne_of_lt hr)]
  refine ⟨h.of_heap (hold _ h.lt.1) (hold _ h.lt.2) rfl, fun r o' _ _ ho => ?_⟩
  rw [hold r (Array.getElem?_eq_some_iff.1 ho).1]
  exact ho

/-- A new object is changed. -/
theorem State.Goes.modified (h : s₀.Goes context globals s) (h₀ : s₀.Hosts context globals)
    (hnew : s₀.world.heap.size ≤ r) (f : Object → Object) :
    s₀.Goes context globals (s.modified r f) := by
  have hold : ∀ q, q < s₀.world.heap.size → (s.modified r f).world.heap[q]? = s.world.heap[q]? := by
    intro q hq
    rw [getElem?_modified, if_neg (Nat.ne_of_gt (Nat.lt_of_lt_of_le hq hnew))]
  refine ⟨h.hosts.of_heap (hold _ h₀.lt.1) (hold _ h₀.lt.2) rfl, fun q o hcontext hglobals ho => ?_⟩
  rw [hold q (Array.getElem?_eq_some_iff.1 ho).1]
  exact h.spares q o hcontext hglobals ho

end Goes

/-! ## §2. Walks that write. -/

/-- Does a walk come to its end wherever the module is at work, and write a text? -/
def Writes (context globals : Ref) (x : Walk Flow) (text : String) : Prop :=
  ∀ (s : State) (page : Page), s.Hosts context globals →
    ∃ s', x (s, page) = .done .normal (s', page.with text) ∧ s.Goes context globals s'

/-- A text, so many times. -/
def copies (text : String) : Nat → String
  | 0 => ""
  | n + 1 => text ++ copies text n

theorem copies_one (text : String) : copies text 1 = text := String.append_empty

theorem Page.with_empty (page : Page) : page.with "" = page := by
  unfold Page.with
  rw [String.append_empty]

theorem Page.with_append (page : Page) (a b : String) :
    (page.with a).with b = page.with (a ++ b) := by
  unfold Page.with
  rw [String.append_assoc]

namespace Writes

variable {context globals : Ref} {p : Power} {fr : Frame} {x : Walk Flow} {a b text : String}

theorem nil : Writes context globals (walkBody p fr context []) "" := by
  intro s page h
  refine ⟨s, ?_, h.goes⟩
  rw [Page.with_empty]
  rfl

theorem ofText (q : Position) (v : String) :
    Writes context globals (walkNode p fr context (.text q v)) v :=
  fun s page h => ⟨s, walkNode_text fr q v (s, page), h.goes⟩

theorem cons {node : Node Placement} {rest : List (Node Placement)}
    (h : Writes context globals (walkNode p fr context node) a)
    (h' : Writes context globals (walkBody p fr context rest) b) :
    Writes context globals (walkBody p fr context (node :: rest)) (a ++ b) := by
  intro s page hs
  obtain ⟨s₁, hfirst, hgoes₁⟩ := h s page hs
  obtain ⟨s₂, hrest, hgoes₂⟩ := h' s₁ (page.with a) hgoes₁.hosts
  refine ⟨s₂, ?_, hgoes₁.trans hgoes₂⟩
  rw [walkBody_cons_done hfirst, hrest, Page.with_append]

/-- What is written on a page of its own is put in its place. -/
theorem apart (h : Writes context globals x text) (place : String → String) :
    Writes context globals (apart place x) (place text) := by
  intro s page hs
  obtain ⟨s', hx, hgoes⟩ := h s { written := "", dropped := page.dropped } hs
  refine ⟨s', ?_, hgoes⟩
  unfold Inlay.apart
  rw [hx]
  show Outcome.done Flow.normal (s', { page with written := page.written ++ place ("" ++ text) }) = _
  rw [String.empty_append]
  rfl

end Writes

/-! ## §3. Loops over lists. -/

/-- Is an iterator at an index of a list? -/
structure State.IsAt (s : State) (list it : Ref) (items : List Value) (index : Nat) : Prop where
  hasItems : s.world.heap[list]? = some (.list items.toArray)
  hasIndex : s.world.heap[it]? = some (.iter (.list list index))

section Loops

variable {context globals : Ref} {p : Power} {s₀ s : State} {list it : Ref} {items : List Value}
  {index : Nat}

theorem State.IsAt.itemsAt (h : s.IsAt list it items index) :
    s.world.withoutStore.itemsAt list = items.toArray := by
  unfold World.itemsAt
  rw [show s.world.withoutStore.heap[list]? = _ from h.hasItems]

/-- An iterator of a list, behind what it gave at an index. -/
def listBehind (list : Ref) (index : Nat) : Option Value → Iter
  | some _ => .list list (index + 1)
  | none => .exhausted (Iter.list list index).kind

/-- An iterator gives what the list has at its index. -/
theorem State.IsAt.next_work (h : s.IsAt list it items index) :
    ((Iter.list list index).next p).work s =
      .done (items[index]?, listBehind list index items[index]?) s := by
  have hask : (Run.ask (fun w => (w.itemsAt list)[index]?)).work s = .done items[index]? s := by
    show Outcome.done (s.world.withoutStore.itemsAt list)[index]? s = _
    rw [h.itemsAt, List.getElem?_toArray]
  unfold Iter.next
  rw [Run.work_done _ hask]
  cases items[index]? <;> rfl

theorem State.IsAt.advance_work (h : s.IsAt list it items index) :
    (Value.advance p (.ref it)).work s = .done items[index]?
      (s.modified it (·.replacedBy (.iter (listBehind list index items[index]?)))) := by
  have hobject : (Run.object it).work s = .done (.iter (.list list index)) s := by
    show Outcome.done (s.world.withoutStore.heap[it]?.getD default) s = _
    rw [show s.world.withoutStore.heap[it]? = _ from h.hasIndex]
    rfl
  have hattempt : (Run.attempt ((Iter.list list index).next p)).work s =
      .done (.ok (items[index]?, listBehind list index items[index]?)) s := by
    show Work.attempt _ s = _
    unfold Work.attempt
    rw [h.next_work]
  unfold Value.advance
  dsimp only
  rw [Run.work_done _ hobject]
  show ((Pure.pure () : Run Unit) >>= _).work s = _
  rw [pure_bind, Run.work_done _ hattempt]
  rfl

/-- The iterator is one item further. -/
theorem State.IsAt.advanced (h : s.IsAt list it items index) (hne : list ≠ it) :
    (s.modified it (·.replacedBy (.iter (.list list (index + 1))))).IsAt list it items
      (index + 1) := by
  refine ⟨?_, ?_⟩
  · rw [getElem?_modified, if_neg (Ne.symm hne)]
    exact h.hasItems
  · rw [getElem?_modified, if_pos rfl, h.hasIndex]
    rfl

/-- An iterator that is new stays where it is. -/
theorem State.IsAt.stays {s' : State} (h : s.IsAt list it items index)
    (hgoes : s.Goes context globals s') (hlist : list ≠ context ∧ list ≠ globals)
    (hit : it ≠ context ∧ it ≠ globals) : s'.IsAt list it items index :=
  ⟨hgoes.spares _ _ hlist.1 hlist.2 h.hasItems, hgoes.spares _ _ hit.1 hit.2 h.hasIndex⟩

/-- **A loop over a list writes what its body writes, for each item that is left.** -/
theorem forEach_writes (h₀ : s₀.Hosts context globals) (hlist : s₀.world.heap.size ≤ list)
    (hit : s₀.world.heap.size ≤ it) (hne : list ≠ it) {body : Value → Walk Flow} {text : String}
    (hbody : ∀ v, Writes context globals (body v) text) {left n : Nat}
    (hleft : left + index = items.length) (hn : left < n) (hgoes : s₀.Goes context globals s)
    (hat : s.IsAt list it items index) (page : Page) :
    ∃ s', forEach p (.ref it) body n (s, page) = .done .normal (s', page.with (copies text left))
      ∧ s₀.Goes context globals s' := by
  have hnew : ∀ {r}, s₀.world.heap.size ≤ r → r ≠ context ∧ r ≠ globals := fun hr =>
    ⟨Nat.ne_of_gt (Nat.lt_of_lt_of_le h₀.lt.1 hr), Nat.ne_of_gt (Nat.lt_of_lt_of_le h₀.lt.2 hr)⟩
  induction left generalizing index n s page with
  | zero =>
    obtain ⟨n, rfl⟩ := Nat.exists_eq_succ_of_ne_zero (Nat.ne_of_gt hn)
    have hover : items[index]? = none := List.getElem?_eq_none (by omega)
    refine ⟨_, ?_, hgoes.modified h₀ hit
      (·.replacedBy (.iter (listBehind list index items[index]?)))⟩
    rw [forEach, liftM_eq_walked, Work.bind_done _ (Run.walked_done hat.advance_work), hover]
    show Outcome.done Flow.normal (_, page) = .done .normal (_, page.with "")
    rw [Page.with_empty]
  | succ left ih =>
    obtain ⟨n, rfl⟩ := Nat.exists_eq_succ_of_ne_zero (Nat.ne_of_gt (Nat.zero_lt_of_lt hn))
    obtain ⟨v, hv⟩ : ∃ v, items[index]? = some v :=
      ⟨_, List.getElem?_eq_getElem (show index < items.length by omega)⟩
    have hgoes₁ := hgoes.modified h₀ hit (·.replacedBy (.iter (.list list (index + 1))))
    obtain ⟨s₂, hwrites, hgoes₂⟩ := hbody v _ page hgoes₁.hosts
    -- the body has left the list and the iterator alone
    have hat₂ := (hat.advanced hne).stays hgoes₂ (hnew hlist) (hnew hit)
    obtain ⟨s₃, hrest, hgoes₃⟩ := ih (n := n) (show left + (index + 1) = items.length by omega)
      (show left < n by omega) (hgoes₁.trans hgoes₂) hat₂ (page.with text)
    refine ⟨s₃, ?_, hgoes₃⟩
    rw [forEach, liftM_eq_walked, Work.bind_done _ (Run.walked_done hat.advance_work), hv]
    refine (Work.bind_done _ hwrites).trans (hrest.trans ?_)
    rw [Page.with_append]
    rfl

end Loops

/-! ## §4. Blocks that count. -/

theorem power_rounds (rounds n : Nat) : (power rounds n).rounds = rounds := by
  cases n <;> rfl

theorem evalElements_items (p : Power) (fr : Frame) (n : Nat) :
    evalElements p fr (List.replicate n oneItem) = Pure.pure (List.replicate n (.int 1)) := by
  induction n with
  | zero => rfl
  | succ n ih =>
    have hone : oneItem.eval p fr = Pure.pure (.int 1) := by
      rw [oneItem, Expr.eval_constant]
      rfl
    rw [List.replicate_succ, evalElements, ih, hone, List.replicate_succ]
    · simp only [pure_bind]
    · rintro e ⟨⟩

/-- The state in which a loop over a list begins, with the list and its iterator. -/
def State.looping (s : State) (items : List Value) : State :=
  (s.pushed (.list items.toArray)).pushed (.iter (.list s.world.heap.size 0))

theorem size_pushed (s : State) (o : Object) :
    (s.pushed o).world.heap.size = s.world.heap.size + 1 := Array.size_push _

theorem isAt_looping (s : State) (items : List Value) :
    (s.looping items).IsAt s.world.heap.size (s.world.heap.size + 1) items 0 := by
  refine ⟨?_, ?_⟩
  · rw [State.looping, getElem?_pushed, size_pushed, if_neg (Nat.ne_of_lt (Nat.lt_succ_self _)),
      getElem?_pushed, if_pos rfl]
  · rw [State.looping, getElem?_pushed, size_pushed, if_pos rfl]

/-- The iterator that a loop over a list of equal items begins with. -/
theorem iterator_items (p : Power) (fr : Frame) (n : Nat) (s : State) :
    ((do (← (Expr.list (List.replicate n oneItem)).eval p fr).iterator : Run Value)).work s =
      .done (.ref (s.world.heap.size + 1)) (s.looping (List.replicate n (.int 1))) := by
  have hlist : ((Expr.list (List.replicate n oneItem)).eval p fr).work s =
      .done (.ref s.world.heap.size) (s.pushed (.list (List.replicate n (.int 1)).toArray)) := by
    rw [Expr.eval, evalElements_items, pure_bind]
    rfl
  have hobject : (Run.object s.world.heap.size).work
      (s.pushed (.list (List.replicate n (.int 1)).toArray)) =
        .done (.list (List.replicate n (.int 1)).toArray)
          (s.pushed (.list (List.replicate n (.int 1)).toArray)) := by
    show Outcome.done ((s.pushed _).world.heap[s.world.heap.size]?.getD default) _ = _
    rw [getElem?_pushed, if_pos rfl]
    rfl
  rw [Run.work_done _ hlist]
  unfold Value.iterator
  dsimp only
  rw [Run.work_done _ hobject]
  show Outcome.done (Value.ref (s.world.heap.push _).size) _ = _
  rw [Array.size_push]
  rfl

/-- A name that is no reserved one is bound in the dictionary of the module. -/
theorem writeName_plain {name : String} (hname : isReserved name = false) (globals : Ref)
    (behind : Option Ref) (v : Value) (s : State) : (writeName { globals, behind } name v).work s =
      .done () (s.modified globals (Object.mapEntries (·.putName name v))) := by
  unfold writeName
  rw [Run.work_done _ (home_work rfl name)]
  show (writeInModule globals name v).work s = _
  unfold writeInModule
  rw [hname, if_neg Bool.false_ne_true]
  rfl

section Counting

variable {context globals : Ref} {p : Power} {x : Walk Flow} {text : String}

/-- A walk writes what it would write if a name had not been bound before. -/
theorem Writes.named (h : Writes context globals x text) {name : String}
    (hname : isReserved name = false) (behind : Option Ref) (v : Value) :
    Writes context globals (do
      (writeName { globals, behind } name v : Run Unit)
      x) text := by
  intro s page hs
  have hbound := goes_named hs name v
  obtain ⟨s', hx, hgoes⟩ := h _ page hbound.hosts
  refine ⟨s', ?_, hbound.trans hgoes⟩
  rw [liftM_eq_walked,
    Work.bind_done _ (Run.walked_done (writeName_plain hname globals behind v s))]
  exact hx

theorem isReserved_underscore : isReserved "_" = false := by
  rw [← Bool.not_eq_true, isReserved_iff]
  decide

/-- **The statement of a block writes what its body writes, in each of its rounds.** -/
theorem Rounds.writes (r : Rounds) (h : Writes context globals x text) {rounds n : Nat}
    (hrounds : r.count < rounds) : Writes context globals
      ((r.statement [.pass 2]).runWith (power rounds n) { globals, behind := none } [(2, x)])
      (copies text r.count) := by
  intro s page hs
  cases r with
  | once =>
    obtain ⟨s', hx, hgoes⟩ := h s page hs
    refine ⟨s', ?_, hgoes⟩
    have htest : ((do (← (Expr.constant .true).eval (power rounds n)
        { globals, behind := none }).truth : Run Bool)).work s = .done true s := by
      rw [Expr.eval_constant]
      rfl
    unfold statement
    rw [Stmt.runWith, branch, liftM_eq_walked, Work.bind_done _ (Run.walked_done htest)]
    show x (s, page) = _
    rw [hx]
    show _ = Outcome.done Flow.normal (s', page.with (copies text 1))
    rw [copies_one]
  | each m =>
    have hfirst := goes_pushed hs (.list (List.replicate m (.int 1)).toArray)
    have hgoes := hfirst.trans (goes_pushed hfirst.hosts (.iter (.list s.world.heap.size 0)))
    have hleft : m + 0 = (List.replicate m (Value.int 1)).length := List.length_replicate.symm
    obtain ⟨s', hloop, hgoes'⟩ := forEach_writes (p := power rounds n) hs (Nat.le_refl _)
      (Nat.le_succ _) (Nat.ne_of_lt (Nat.lt_succ_self _))
      (fun v => h.named isReserved_underscore none v) hleft hrounds hgoes (isAt_looping s _) page
    refine ⟨s', ?_, hgoes'⟩
    unfold statement
    rw [Stmt.runWith, if_neg Bool.false_ne_true]
    show ((liftM _ : Walk Value) >>= _) _ = _
    rw [liftM_eq_walked, Work.bind_done _ (Run.walked_done (iterator_items _ _ m s))]
    unfold repeatFor
    rw [power_rounds]
    exact (Work.bind_done _ hloop).trans rfl

/-- **A block writes what its body writes, in each of its rounds**; what a pipe block writes is put
in its place. -/
theorem Writes.block {m : Marker Placement} {q : Position} {r : Rounds}
    {inside : List (Node Placement)} {rounds n : Nat}
    (h : Writes context globals
      (walkBody (power rounds n) { globals, behind := none } context inside) text)
    (hrounds : r.count < rounds) : Writes context globals
      (walkNode (power rounds n) { globals, behind := none } context
        (.block m [.mk q r.header inside]))
      (if m.kind = .pipe then placed m.note (copies text r.count) else copies text r.count) := by
  intro s page hs
  obtain ⟨c, hc⟩ := hs.hasContext
  have hline := goes_atLine hs m.position.line
  have hinside := r.writes h hrounds (n := n)
  have hwork : Writes context globals (if m.kind = .pipe then
      Inlay.apart (placed m.note) ((r.statement [.pass 2]).runWith (power rounds n)
        { globals, behind := none } [(2, walkBody (power rounds n) { globals, behind := none }
          context inside)]) else
      (r.statement [.pass 2]).runWith (power rounds n) { globals, behind := none }
        [(2, walkBody (power rounds n) { globals, behind := none } context inside)])
      (if m.kind = .pipe then placed m.note (copies text r.count) else copies text r.count) := by
    split
    · exact hinside.apart _
    · exact hinside
  obtain ⟨s', hx, hgoes⟩ := hwork _ page hline.hosts
  refine ⟨s', ?_, hline.trans hgoes⟩
  rw [walkNode]
  unfold walkBlock
  rw [show List.map Clause.code [.mk q r.header inside] = [r.header] from rfl, r.skeleton_rounds]
  dsimp only
  rw [liftM_eq_walked, Work.bind_done _ (Run.walked_done (noteLineIn_work hc m.position)),
    r.wrapIncludesIn_statement]
  exact hx

end Counting

/-! ## §5. Renders. -/

section Renders

variable {s : State} {t : CompiledTemplate} {tree : Template Unit} {rounds n : Nat} {text : String}
  {bindings : List (String × Value)}

theorem renderWith_of_writes (hopen : s.IsOpen) (hbuild : build tree = .ok t.program)
    (hannotates : bodyAnnotates t.program = false) {context : Ref} {c : RenderContext}
    (hc : s.world.contextAt? context = some c)
    (hwrites : Writes context s.world.heap.size (walkBody (power rounds n)
      { globals := s.world.heap.size, behind := none } context (Indent.resolve tree).body) text)
    (hvisible : ∀ b ∈ bindings, isVisibleName b.1 = true) :
    ∃ s', (renderWith (power rounds (n + 1)) t bindings context).work s = .done text s' := by
  have hhosts : (s.entered bindings context).Hosts context s.world.heap.size := hosts_entered hc
  obtain ⟨s₁, hwalk, -⟩ := hwrites _ {} hhosts
  obtain ⟨s₂, hrender⟩ := renderWith_done hbuild hannotates hvisible (hopen _ (Nat.le_refl _)) hwalk
  refine ⟨s₂, ?_⟩
  rw [hrender]
  show Outcome.done ("" ++ text) s₂ = _
  rw [String.empty_append]

/-- **A template renders as what the walk of its tree writes.** -/
theorem render_of_writes (hopen : s.IsOpen) (hbuild : build tree = .ok t.program)
    (hannotates : bodyAnnotates t.program = false)
    (hwrites : ∀ context globals, Writes context globals (walkBody (power rounds n)
      { globals, behind := none } context (Indent.resolve tree).body) text)
    (hvisible : ∀ b ∈ bindings, isVisibleName b.1 = true) :
    ∃ s', (render (power rounds (n + 1)) t bindings).work s = .done text s' := by
  have hask : (Run.ask (·.environment.maxIncludeDepth)).work s
      = .done s.world.environment.maxIncludeDepth s := rfl
  obtain ⟨hnew, hopen'⟩ := newContext_open hopen
    (.outermost t.name t.filename s.world.environment.maxIncludeDepth) (some t.source)
  -- the context of the render is the current one as long as it goes on
  obtain ⟨s', hrender⟩ := renderWith_of_writes (s := { s.withContext _ (some t.source) with
    current := some s.world.heap.size }) hopen' hbuild hannotates
      (s.contextAt?_withContext _ (some t.source)) (hwrites _ _) hvisible
  refine ⟨{ s' with current := s.current }, ?_⟩
  unfold render
  rw [Run.work_done _ hask, Run.work_done _ hnew]
  show Outcome.mapState _ ((renderWith _ t bindings _).work _) = _
  rw [hrender]
  rfl

end Renders

end Inlay
