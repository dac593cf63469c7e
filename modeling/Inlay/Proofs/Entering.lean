/-
  Inlay.Proofs.Entering
  ────────────────────────────────
  **ENTERING A MODULE OF VISIBLE NAMES.**

  A render makes a module of its bindings.  If these are visible ones, the
  module says nothing about what stands behind its names, all keys of its
  dictionary are texts, and the render gives what walking its tree writes.
-/
import Inlay.Proofs.Namespace

namespace Inlay

open Inlay.Code Inlay.Program

/-! ## §1. Dictionaries of names. -/

/-- Are all keys texts? -/
def Dictionary.HasNamesOnly (d : Dictionary) : Prop :=
  ∀ (k : Key) (e : Entry), d.table[k]? = some e → isText e.key = true

namespace Dictionary

variable {d : Dictionary}

theorem hasNamesOnly_empty : empty.HasNamesOnly := by
  intro k e h
  have hnone : empty.table[k]? = none := Std.HashMap.getElem?_empty
  rw [hnone] at h
  exact absurd h.symm (Option.some_ne_none e)

theorem HasNamesOnly.putName (h : d.HasNamesOnly) (name : String) (v : Value) :
    (d.putName name v).HasNamesOnly := by
  intro k e he
  unfold Dictionary.putName put at he
  dsimp only at he
  split at he
  · rename_i old hold
    rw [Std.HashMap.getElem?_insert] at he
    split at he
    · obtain rfl := Option.some.inj he
      exact h _ old hold
    · exact h k e he
  · rw [Std.HashMap.getElem?_insert] at he
    split at he
    · obtain rfl := Option.some.inj he
      rfl
    · exact h k e he

theorem HasNamesOnly.isText_key (h : d.HasNamesOnly) {e : Value × Value} (he : e ∈ d.toList) :
    isText e.1 = true := by
  unfold toList at he
  obtain ⟨o, -, ho⟩ := List.mem_filterMap.1 he
  obtain ⟨k, -, hk⟩ := Option.bind_eq_some_iff.1 ho
  obtain ⟨entry, hentry, rfl⟩ := Option.map_eq_some_iff.1 hk
  exact h k entry hentry

end Dictionary

/-- The visible bindings of a dictionary, as a list. -/
def Dictionary.visible (d : Dictionary) : List (String × Value) :=
  d.bindings.filter (fun b => isVisibleName b.1)

theorem Dictionary.isVisibleName_of_mem {d : Dictionary} {b : String × Value}
    (hb : b ∈ d.visible) : isVisibleName b.1 = true :=
  (List.mem_filter.1 hb).2

/-- Where all keys are texts, taking the visible bindings succeeds. -/
theorem visibleBindings_done {d : Dictionary} (h : d.HasNamesOnly) (s : State) :
    (visibleBindings d).work s = .done d.visible s := by
  have hfind : (d.toList.map Prod.fst).find? (fun key => !isText key) = none := by
    rw [List.find?_eq_none]
    intro key hkey
    obtain ⟨e, he, rfl⟩ := List.mem_map.1 hkey
    rw [h.isText_key he]
    exact Bool.false_ne_true
  unfold visibleBindings
  rw [hfind]
  rfl

theorem visible_iff (name : String) :
    isVisibleName name = true ↔ name ≠ builtinsName ∧ isReserved name = false := by
  simp [isVisibleName]

/-! ## §2. The dictionary of a module. -/

theorem hasNamesOnly_addName {names : Dictionary × List Kept} (h : names.1.HasNamesOnly)
    (b : String × Value) : (addName names b).1.HasNamesOnly := by
  unfold addName
  split
  · exact h
  · exact h.putName b.1 b.2

theorem hasNamesOnly_foldl (bindings : List (String × Value)) {names : Dictionary × List Kept}
    (h : names.1.HasNamesOnly) : (bindings.foldl addName names).1.HasNamesOnly := by
  induction bindings generalizing names with
  | nil => exact h
  | cons b bs ih => exact ih (hasNamesOnly_addName h b)

theorem hasNamesOnly_namesOf (bindings : List (String × Value)) :
    (namesOf bindings).1.HasNamesOnly :=
  hasNamesOnly_foldl bindings Dictionary.hasNamesOnly_empty

theorem named?_putName (d : Dictionary) (name other : String) (v : Value) :
    (d.putName name v).named? other = if name = other then some v else d.named? other := by
  have hkey : (Value.text name).key = (Value.text other).key ↔ name = other :=
    ⟨fun h => Key.text.inj h, fun h => h ▸ rfl⟩
  unfold Dictionary.putName Dictionary.named?
  rw [Dictionary.get?_put]
  by_cases h : name = other
  · rw [if_pos h, if_pos (hkey.2 h)]
  · rw [if_neg h, if_neg (fun heq => h (hkey.1 heq))]

/-- The entries of a module are the bindings of names that are not reserved. -/
theorem named?_namesOf (bindings : List (String × Value)) (name : String) :
    (namesOf bindings).1.named? name =
      if isReserved name then none else lastValue? bindings name := by
  have hfold : ∀ names : Dictionary × List Kept,
      (bindings.foldl addName names).1.named? name =
        (if isReserved name then none else lastValue? bindings name).or (names.1.named? name) := by
    induction bindings with
    | nil => intro names; split <;> rfl
    | cons b bs ih =>
      intro names
      have hadd : (addName names b).1.named? name =
          (if isReserved name then none else if b.1 = name then some b.2 else none).or
            (names.1.named? name) := by
        unfold addName
        by_cases hb : b.1 = name
        · subst hb
          by_cases hr : isReserved b.1 = true
          · rw [if_pos hr, if_pos hr]
            rfl
          · rw [if_neg hr, if_neg hr, named?_putName, if_pos rfl, if_pos rfl]
            rfl
        · rw [if_neg hb, ite_self]
          split
          · rfl
          · rw [named?_putName, if_neg hb]
            rfl
      rw [List.foldl_cons, ih, hadd, lastValue?_cons, ← Option.or_assoc]
      split <;> rfl
  rw [namesOf, hfold, show Dictionary.empty.named? name = none from Dictionary.get?_empty _]
  exact Option.or_none

/-- A module of visible bindings keeps what every program finds behind its names. -/
theorem builtins_namesOf {bindings : List (String × Value)}
    (h : ∀ b ∈ bindings, isVisibleName b.1 = true) (context globals : Ref) :
    (namesOf (staticBindings ++ bindings ++ includeBindings context globals)).1.named?
      builtinsName = some (.module "builtins") := by
  have hown : lastValue? (includeBindings context globals) builtinsName = none := by
    have hall : ∀ n ∈ [includeName, includeWord, contextName], n ≠ builtinsName := by decide
    exact lastValue?_eq_none fun b hb => hall b.1 (List.mem_map_of_mem (f := Prod.fst) hb)
  have hgiven : lastValue? bindings builtinsName = none :=
    lastValue?_eq_none fun b hb => ((visible_iff b.1).1 (h b hb)).1
  have hnot : isReserved builtinsName = false := by
    rw [← Bool.not_eq_true, isReserved_iff]
    decide
  rw [named?_namesOf, hnot, if_neg Bool.false_ne_true, lastValue?_append, lastValue?_append, hown,
    hgiven]
  rfl

/-! ## §3. Walks in a new module. -/

/-- The state in which the walk of a render begins: its module has been made, and its reserved names
are locked away. -/
def State.entered (s : State) (bindings : List (String × Value)) (context : Ref) : State :=
  (s.started bindings context).setOwn s.world.heap.size
    (.locked (toolBindings context s.world.heap.size))

/-- Is a module at work in a state: are its tools locked away, and its names texts? -/
structure State.Hosts (s : State) (context globals : Ref) : Prop where
  hasContext : ∃ c, s.world.contextAt? context = some c
  hasNames : ∃ d, s.world.heap[globals]? = some (.dict d) ∧ d.HasNamesOnly
  hasTools : s.ownOf globals = .locked (toolBindings context globals)

/-- Is nothing locked away where the next objects will be? -/
def State.IsOpen (s : State) : Prop := ∀ r, s.world.heap.size ≤ r → (s.ownOf r).isLocked = false

theorem State.isOpen_of_own_empty {s : State} (h : s.own = ∅) : s.IsOpen := by
  intro r _
  have hown : s.ownOf r = default := by
    unfold State.ownOf
    rw [h, Std.HashMap.getElem?_empty]
    rfl
  rw [hown]
  rfl

/-! ## §4. Noting lines. -/

section Lines

variable {s : State} {context : Ref} {c : RenderContext}

theorem noteLineIn_work (hc : s.world.contextAt? context = some c) (p : Position) :
    (noteLineIn context p).work s = .done () (s.modified context (Object.atLine p.line)) := by
  rw [World.contextAt?_eq] at hc
  obtain ⟨o, ho, hoc⟩ := Option.bind_eq_some_iff.1 hc
  cases o with
  | context c' =>
    have hask : (Run.ask (·.heap[context]?)).work s = .done (some (.context c')) s := by
      rw [← ho]
      rfl
    unfold noteLineIn Value.setAttribute
    dsimp only
    rw [Run.work_done _ hask]
    rfl
  | _ => exact absurd hoc (by simp [Object.context?])

theorem contextAt?_atLine (hc : s.world.contextAt? context = some c) (line : Int) :
    (s.modified context (Object.atLine line)).world.contextAt? context = some (c.atLine line) := by
  rw [World.contextAt?_eq] at hc ⊢
  obtain ⟨o, ho, hoc⟩ := Option.bind_eq_some_iff.1 hc
  show (s.world.heap.modify context _)[context]?.bind _ = _
  rw [Array.getElem?_modify, if_pos rfl, ho]
  cases o with
  | context c' =>
    obtain rfl := Option.some.inj hoc
    rfl
  | _ => exact absurd hoc (by simp [Object.context?])

/-- Whatever is no context stays when a line is noted. -/
theorem getElem?_atLine {r : Ref} {o : Object} (ho : s.world.heap[r]? = some o)
    (hplain : ∀ line, o.atLine line = o) (line : Int) :
    (s.modified context (Object.atLine line)).world.heap[r]? = some o := by
  show (s.world.heap.modify context _)[r]? = _
  rw [Array.getElem?_modify, ho]
  split
  · exact congrArg some (hplain line)
  · rfl

theorem State.Hosts.atLine {globals : Ref} (h : s.Hosts context globals) (line : Int) :
    (s.modified context (Object.atLine line)).Hosts context globals := by
  obtain ⟨⟨c, hc⟩, ⟨d, hd, hnames⟩, htools⟩ := h
  exact ⟨⟨_, contextAt?_atLine hc line⟩, ⟨d, getElem?_atLine hd (fun _ => rfl) line, hnames⟩, htools⟩

theorem State.IsOpen.modified (h : s.IsOpen) (r : Ref) (f : Object → Object) :
    (s.modified r f).IsOpen := by
  intro q hq
  have hsize : (s.modified r f).world.heap.size = s.world.heap.size := Array.size_modify
  rw [hsize] at hq
  exact h q hq

end Lines

/-! ## §5. Renders as walks. -/

section Entered

variable {s : State} {bindings : List (String × Value)} {context : Ref}

theorem heap_entered : (s.entered bindings context).world.heap = s.world.heap.push (.dict
    (namesOf (staticBindings ++ bindings ++ includeBindings context s.world.heap.size)).1) := rfl

theorem contextAt?_entered {c : RenderContext} (hc : s.world.contextAt? context = some c) :
    (s.entered bindings context).world.contextAt? context = some c := by
  have hne : context ≠ s.world.heap.size := by
    rintro rfl
    rw [World.contextAt?_eq, Array.getElem?_eq_none (Nat.le_refl _)] at hc
    exact absurd hc.symm (Option.some_ne_none c)
  have hpush := World.contextAt?_push s.world (.dict
    (namesOf (staticBindings ++ bindings ++ includeBindings context s.world.heap.size)).1) context
  rw [if_neg hne, hc] at hpush
  exact hpush

theorem hosts_entered {c : RenderContext} (hc : s.world.contextAt? context = some c) :
    (s.entered bindings context).Hosts context s.world.heap.size where
  hasContext := ⟨c, contextAt?_entered hc⟩
  hasNames := by
    refine ⟨_, ?_, hasNamesOnly_namesOf (staticBindings ++ bindings ++
      includeBindings context s.world.heap.size)⟩
    rw [heap_entered, Array.getElem?_push_size]
  hasTools := State.ownOf_setOwn_self _ _ _

theorem ownOf_entered {r : Ref} (h : r ≠ s.world.heap.size) :
    (s.entered bindings context).ownOf r = s.ownOf r := by
  unfold State.entered State.started
  rw [State.ownOf_setOwn, if_neg (Ne.symm h), State.ownOf_setOwn, if_neg (Ne.symm h)]
  rfl

theorem isOpen_entered (h : s.IsOpen) : (s.entered bindings context).IsOpen := by
  intro r hr
  rw [heap_entered, Array.size_push] at hr
  rw [ownOf_entered (Nat.ne_of_gt hr)]
  exact h r (Nat.le_of_succ_le hr)

/-- Nothing is done to enter a module of visible names. -/
theorem enterModule_entered (h : ∀ b ∈ bindings, isVisibleName b.1 = true) :
    (enterModule s.world.heap.size false).work (s.entered bindings context) =
      .done none (s.entered bindings context) := by
  have hdict : (s.entered bindings context).world.dictionaryAt s.world.heap.size =
      (namesOf (staticBindings ++ bindings ++ includeBindings context s.world.heap.size)).1 := by
    unfold World.dictionaryAt
    rw [heap_entered, Array.getElem?_push_size]
  have hask : (Run.ask (fun w => (w.dictionaryAt s.world.heap.size).named? builtinsName)).work
      (s.entered bindings context) =
        .done (some (.module "builtins")) (s.entered bindings context) := by
    show Outcome.done (((s.entered bindings context).world.dictionaryAt _).named? builtinsName) _ = _
    rw [hdict, builtins_namesOf h]
  have hbehind : (behindOf s.world.heap.size none).work (s.entered bindings context) =
      .done none (s.entered bindings context) := by
    unfold behindOf
    rw [Run.work_done _ hask]
    rfl
  unfold enterModule
  rw [Run.work_done _ hbehind]
  rfl

/-- **A render gives what walking its tree writes**, if the walk ends normally. -/
theorem renderWith_done {rounds n : Nat} {tree : Template Unit} {t : CompiledTemplate}
    (hbuild : build tree = .ok t.program) (hplain : bodyAnnotates t.program = false)
    (hvisible : ∀ b ∈ bindings, isVisibleName b.1 = true)
    (hopen : (s.ownOf s.world.heap.size).isLocked = false) {w : State × Page}
    (hwalk : walkBody (power rounds n) { globals := s.world.heap.size, behind := none } context
      (Indent.resolve tree).body (s.entered bindings context, {}) = .done .normal w) :
    ∃ s', (renderWith (power rounds (n + 1)) t bindings context).work s =
      .done w.2.written s' := by
  have hreserved : ∀ b ∈ bindings, isReserved b.1 = false :=
    fun b hb => ((visible_iff b.1).1 (hvisible b hb)).2
  have hmatches := renderWith_matches_walk rounds n hbuild hreserved context s
  have hstart := startModule_work bindings context s
  rw [if_neg (by rw [hopen]; exact Bool.false_ne_true)] at hstart
  have hwalking : renderWalking (power rounds n) true (bodyAnnotates t.program) t
      (Indent.resolve tree) bindings context (s, {}) = .done w.2.written w := by
    unfold renderWalking
    rw [liftM_eq_walked, Work.bind_done _ (Run.walked_done hstart), hplain, if_pos rfl]
    show Work.bind (lockNames context s.world.heap.size) _ (s.started bindings context, {}) = _
    unfold Work.bind lockNames
    dsimp only
    have hinside : (do
        let behind ← (enterModule s.world.heap.size false : Run (Option Ref))
        walkBody (power rounds n) { globals := s.world.heap.size, behind } context
          (Indent.resolve tree).body : Walk Flow) (s.entered bindings context, {}) =
            .done .normal w := by
      rw [liftM_eq_walked, Work.bind_done _ (Run.walked_done (enterModule_entered hvisible))]
      exact hwalk
    rw [Work.bind_apply]
    unfold Work.attempt
    rw [show (s.started bindings context).setOwn s.world.heap.size (.locked (toolBindings context
      s.world.heap.size)) = s.entered bindings context from rfl, hinside]
    rfl
  rw [hwalking] at hmatches
  cases hrun : (renderWith (power rounds (n + 1)) t bindings context).work s <;>
    rw [hrun] at hmatches <;> first | exact hmatches.elim | skip
  obtain ⟨rfl, -⟩ := hmatches
  exact ⟨_, rfl⟩

end Entered

end Inlay
