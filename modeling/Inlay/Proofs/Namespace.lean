/-
  Inlay.Proofs.Namespace
  ────────────────────────────────
  **TAKING THE NAMES OF A MODULE AS A WHOLE.**

  Whoever asks for the dictionary of a module finds all in it that is held
  under reserved names, one entry for each: what the program was given, and
  the lists of output that it has started by then.  So the number of names
  tells a program from a walk.
-/
import Inlay.Proofs.Ending

namespace Inlay

open Inlay.Code Inlay.Program

/-! ## §1. Names that every program knows. -/

/-- A name as a number, which is quick to compare. -/
def nameNumber (name : String) : Nat :=
  name.toByteArray.data.toList.foldl (fun n b => n * 256 + b.toNat) 0

theorem knownName?_of_mem {name : String} {v : Value} (h : (name, v) ∈ knownBindings) :
    knownName? name = some v := by
  have hnumbers : (knownBindings.map (fun b => nameNumber b.1)).Nodup := by
    decide +kernel
  have hdiff : knownBindings.Pairwise (fun a b => (a.1 == b.1) = false) := by
    refine (List.pairwise_map.1 hnumbers).imp (fun {a b} hne => ?_)
    rw [beq_eq_false_iff_ne]
    exact fun heq => hne (congrArg nameNumber heq)
  unfold knownName? knownNames
  exact Std.HashMap.getElem?_ofList_of_mem (beq_self_eq_true name) hdiff h

theorem mem_knownBindings {b : Builtin} (h : b ∈ Builtin.functions) :
    (b.label, Value.builtin b) ∈ knownBindings := by
  unfold knownBindings
  have hmem : (b.label, Value.builtin b) ∈
      (Builtin.classes ++ Builtin.functions).map (fun b => (b.label, Value.builtin b)) :=
    List.mem_map_of_mem (f := fun b => (b.label, Value.builtin b)) (List.mem_append_right _ h)
  exact List.mem_append_left _ (List.mem_append_left _ (List.mem_append_right _ hmem))

/-! ## §2. Held values become entries. -/

/-- The state with the object at a place changed. -/
def State.modified (s : State) (r : Ref) (f : Object → Object) : State :=
  { s with world := { s.world with heap := s.world.heap.modify r f } }

section Opening

variable {s : State} {globals : Ref} {ks : List Kept}

/-- Taking the names of a module as a whole: what is held becomes values first. -/
theorem openNames_work (hks : s.ownOf globals = .kept ks) (hne : ks ≠ [])
    {made : List (Kept × Value)} {t : State}
    (hmade : (ks.mapM (fun (k : Kept) => do return (k, ← k.held.toValue)) : Run _).work
      (s.setOwn globals (.opened [])) = .done made t)
    (ht : t.ownOf globals = .opened []) :
    (openNames globals).work s = .done () ((t.modified globals (Object.mapEntries
      (·.putAt (made.map (fun m => (m.1.place, m.1.name, m.2)))))).setOwn globals
        (.opened (listsAmong made))) := by
  have hnil : ks.isEmpty = false := by
    cases ks with
    | nil => exact absurd rfl hne
    | cons k ks => rfl
  have hmodify : ∀ f, (Run.changeEntries globals f).work t =
      .done () (t.modified globals (Object.mapEntries f)) := fun f => rfl
  unfold openNames
  rw [Run.work_done _ (Run.changeOwn_done _ hks (State.isFixed_of_kept hks))]
  simp only [hnil, Bool.false_eq_true, if_false]
  rw [Run.work_done _ hmade, Run.work_done _ (hmodify _)]
  exact Run.changeOwn_done _ rfl (State.isFixed_of_opened (s := t.modified globals _) ht)

/-- Values that are held are what they are. -/
theorem mapM_toValue {names : List (String × Nat × Value)} :
    ((names.map (fun n => (⟨n.1, n.2.1, .value n.2.2⟩ : Kept))).mapM
      (fun (k : Kept) => do return (k, ← k.held.toValue)) : Run _) =
      Pure.pure (names.map (fun n => ((⟨n.1, n.2.1, .value n.2.2⟩ : Kept), n.2.2))) := by
  induction names with
  | nil => rfl
  | cons n ns ih =>
    rw [List.map_cons, List.mapM_cons, ih, bind_assoc]
    show (Pure.pure n.2.2 : Run Value) >>= _ = _
    simp only [pure_bind]
    rfl

end Opening

/-! ## §3. Counting names. -/

section Counting

variable {fr : Frame} {s t : State}

/-- A name that the module does not bind means what it means to every program. -/
theorem readName_known (hfr : fr.scopes = []) (hbehind : fr.behind = none) {name : String}
    (hname : isReserved name = false) (hdict : (s.world.dictionaryAt fr.globals).named? name = none)
    {v : Value} (hv : (name, v) ∈ knownBindings) : (readName fr name).work s = .done v s := by
  have hread : (readInModule fr.globals name).work s = .done none s := by
    unfold readInModule
    rw [hname, if_neg Bool.false_ne_true, ← hdict]
    rfl
  unfold readName
  rw [Run.work_done _ (home_work hfr name)]
  dsimp only
  rw [Run.work_done _ hread]
  dsimp only
  unfold readBehind
  rw [hbehind]
  dsimp only
  rw [knownName?_of_mem hv]
  rfl

/-- A call of what a name means. -/
theorem call_eval (p : Power) {name : String} {f : Value}
    (hf : (readName fr name).work s = .done f s) {args : List Expr}
    (hlist : listCall? fr (.name name) args [] = Pure.pure none) :
    ((Expr.call (.name name) args []).eval p fr).work s =
      (do
        let values ← evalArguments p fr f (args.length == 1) args
        f.callFrom p (some fr) values []).work s := by
  rw [Expr.eval, hlist]
  simp only [pure_bind]
  rw [Expr.eval_name, Run.work_done _ hf]
  simp [evalKeywords, textKeywords_empty]

/-- The code that counts the names of a module. -/
def countNames : Expr := .call (.name "len") [.call (.name "locals") [] []] []

theorem locals_work (p : Power) (hfr : fr.scopes = [])
    (hopen : (openNames fr.globals).work s = .done () t) :
    ((Value.builtin .locals).callFrom p (some fr) [] []).work s = .done (.ref fr.globals) t := by
  have hnames : callNames (some fr) "locals" [] [] = do
      openNames fr.globals
      return .ref fr.globals := by
    have hnone : noArguments "locals" [] [] = Pure.pure () := by
      simp [noArguments, noKeywords]
    unfold callNames
    simp only [hfr, List.isEmpty_nil, Bool.or_true, if_true, hnone, pure_bind]
  unfold Value.callFrom
  dsimp only
  unfold Builtin.call
  dsimp only
  rw [hnames, Run.work_done _ hopen]
  rfl

theorem sizeOf_work {r : Ref} {d : Dictionary} {n : Nat}
    (hd : t.world.heap[r]? = some (.dict d)) (hn : d.size = n) :
    (Run.ask (·.sizeOf? (.ref r))).work t = .done (some n) t := by
  show Outcome.done (World.sizeOf? t.world (.ref r)) t = _
  unfold World.sizeOf?
  dsimp only
  rw [hd, ← hn]

/-- Counting the names of a module takes them as a whole. -/
theorem countNames_work (p : Power) (hfr : fr.scopes = []) (hbehind : fr.behind = none)
    (hlen : (s.world.dictionaryAt fr.globals).named? "len" = none)
    (hlocals : (s.world.dictionaryAt fr.globals).named? "locals" = none)
    (hopen : (openNames fr.globals).work s = .done () t) :
    (countNames.eval p fr).work s = (Value.size (.ref fr.globals)).work t := by
  have hlenKnown : ("len", Value.builtin .len) ∈ knownBindings :=
    mem_knownBindings (b := .len) (by decide)
  have hlocalsKnown : ("locals", Value.builtin .locals) ∈ knownBindings :=
    mem_knownBindings (b := .locals) (by decide)
  have hnotReserved : isReserved "len" = false ∧ isReserved "locals" = false := by
    constructor <;> rw [← Bool.not_eq_true, isReserved_iff] <;> decide
  have hlocalsCall : ((Expr.call (.name "locals") [] []).eval p fr).work s =
      .done (.ref fr.globals) t := by
    rw [call_eval p (readName_known hfr hbehind hnotReserved.2 hlocals hlocalsKnown) (by rfl)]
    exact locals_work p hfr hopen
  have hone : oneArgument "len" [.ref fr.globals] [] = Pure.pure (.ref fr.globals) := by
    simp [oneArgument, noKeywords]
  unfold countNames
  rw [call_eval p (readName_known hfr hbehind hnotReserved.1 hlen hlenKnown) (by rfl),
    evalArguments_one p _ _ (by simp), bind_assoc, Run.work_done _ hlocalsCall, pure_bind]
  unfold Value.callFrom
  dsimp only
  unfold Builtin.call
  dsimp only
  rw [hone, pure_bind]

end Counting

/-! ## §4. A module without bindings. -/

/-- The names of a module without bindings, apart from the reserved ones. -/
def bareNames : Dictionary :=
  (Dictionary.empty.putName builtinsName (.module "builtins")).putName includeWord (.includer 0 1)

/-- Its reserved names with their places. -/
def bareTools : List (String × Nat × Value) :=
  [(textName, 1, .builtin .outputText), (realignName, 1, .builtin .realign),
   (reindentName, 1, .builtin .reindent), (includeName, 1, .includer 0 1),
   (contextName, 2, .ref 0)]

/-- What it holds at the start. -/
def bareKept : List Kept := bareTools.map (fun n => ⟨n.1, n.2.1, .value n.2.2⟩)

theorem builtins_new : Dictionary.empty.contains (.text builtinsName) = false := by
  rw [Dictionary.contains_eq_isSome, Dictionary.get?_empty]
  rfl

theorem include_new : (Dictionary.empty.putName builtinsName (.module "builtins")).contains
    (.text includeWord) = false := by
  unfold Dictionary.putName
  rw [Dictionary.contains_put, Dictionary.contains_eq_isSome, Dictionary.get?_empty]
  decide

theorem namesOf_bare :
    namesOf (staticBindings ++ [] ++ includeBindings 0 1) = (bareNames, bareKept) := by
  have hone : (Dictionary.empty.putName builtinsName (.module "builtins")).span = 1 :=
    Dictionary.span_put_new builtins_new _
  have htwo : bareNames.span = 2 := by
    unfold bareNames
    have := Dictionary.span_put_new include_new (.includer 0 1)
    rw [hone] at this
    exact this
  have hres : ∀ n ∈ [textName, realignName, reindentName, includeName, contextName],
      isReserved n = true := by
    intro n hn
    have hall : ∀ n ∈ [textName, realignName, reindentName, includeName, contextName],
        reservedStart.toList <+: n.toList := by decide
    exact (isReserved_iff n).mpr (hall n hn)
  have hnot : isReserved builtinsName = false ∧ isReserved includeWord = false := by
    constructor <;> rw [← Bool.not_eq_true, isReserved_iff] <;> decide
  unfold namesOf staticBindings includeBindings
  simp only [List.append_nil, List.cons_append, List.nil_append, List.foldl_cons, List.foldl_nil,
    addName, hnot.1, hnot.2, hres textName (by decide), hres realignName (by decide),
    hres reindentName (by decide), hres includeName (by decide), hres contextName (by decide),
    if_true, if_false, hone, Bool.false_eq_true]
  rw [show (Dictionary.empty.putName builtinsName (.module "builtins")).putName includeWord
    (.includer 0 1) = bareNames from rfl, htwo]
  rfl

theorem bareNames_eq : bareNames =
    ⟨((∅ : Std.HashMap Key Entry).insert (.text builtinsName)
        ⟨0, .text builtinsName, .module "builtins"⟩).insert (.text includeWord)
          ⟨1, .text includeWord, .includer 0 1⟩,
      #[some (.text builtinsName), some (.text includeWord)]⟩ := by
  have hone : Dictionary.empty.putName builtinsName (.module "builtins") =
      ⟨(∅ : Std.HashMap Key Entry).insert (.text builtinsName)
        ⟨0, .text builtinsName, .module "builtins"⟩, #[some (.text builtinsName)]⟩ :=
    Dictionary.put_new builtins_new _
  have htwo := Dictionary.put_new include_new (.includer 0 1)
  rw [hone] at htwo
  unfold bareNames
  rw [hone]
  exact htwo

theorem bareNames_at : bareNames.at? 0 = some (.text builtinsName, .module "builtins") ∧
    bareNames.at? 1 = some (.text includeWord, .includer 0 1) ∧ bareNames.at? 2 = none := by
  have hne : (Key.text includeWord == Key.text builtinsName) = false := by decide
  rw [bareNames_eq]
  refine ⟨?_, ?_, rfl⟩
  · show Option.map _ (Std.HashMap.insert _ _ _)[Key.text builtinsName]? = _
    rw [Std.HashMap.getElem?_insert, hne, if_neg Bool.false_ne_true,
      Std.HashMap.getElem?_insert_self]
    rfl
  · show Option.map _ (Std.HashMap.insert _ _ _)[Key.text includeWord]? = _
    rw [Std.HashMap.getElem?_insert_self]
    rfl

/-- What a module without bindings holds when its names have been taken as a whole. -/
theorem putAt_bare (names : List (Nat × String × Value)) :
    bareNames.putAt names = .ofList
      ((names.filter (·.1 = 0)).map (fun n => (.text n.2.1, n.2.2)) ++
        (.text builtinsName, .module "builtins") ::
          ((names.filter (·.1 = 1)).map (fun n => (.text n.2.1, n.2.2)) ++
            (.text includeWord, .includer 0 1) ::
              (names.filter (·.1 = 2)).map (fun n => (.text n.2.1, n.2.2)))) := by
  have hspan : bareNames.span = 2 := by
    rw [bareNames_eq]
    rfl
  unfold Dictionary.putAt
  rw [hspan]
  show Dictionary.ofList (([0, 1, 2] : List Nat).flatMap _) = _
  simp only [List.flatMap_cons, List.flatMap_nil, bareNames_at.1, bareNames_at.2.1,
    bareNames_at.2.2, Option.toList_some, Option.toList_none, List.append_assoc, List.append_nil,
    List.cons_append, List.nil_append]


/-- A state in which a module without bindings is at work. -/
structure State.IsBare (s : State) (ks : List Kept) : Prop where
  heap : ∃ c, s.world.heap = #[.context c, .dict bareNames]
  kept : s.ownOf 1 = .kept ks

/-- The frame of the module. -/
def bareFrame : Frame := { globals := 1, behind := none }

theorem named_bare {s : State} {ks : List Kept} (h : s.IsBare ks) {name : String}
    (hne : name ≠ builtinsName ∧ name ≠ includeWord) :
    (s.world.dictionaryAt 1).named? name = none := by
  obtain ⟨c, hheap⟩ := h.heap
  unfold World.dictionaryAt
  rw [hheap]
  show bareNames.get? (.text name) = none
  unfold bareNames Dictionary.putName
  have hkey : ∀ other, name ≠ other → (Value.text other).key ≠ (Value.text name).key :=
    fun other hne heq => hne (Key.text.inj heq).symm
  rw [Dictionary.get?_put, Dictionary.get?_put, Dictionary.get?_empty, if_neg (hkey _ hne.2),
    if_neg (hkey _ hne.1)]

theorem countNames_bare (p : Power) {s t : State} {ks : List Kept} (h : s.IsBare ks)
    (hne : ks ≠ []) {made : List (Kept × Value)}
    (hmade : (ks.mapM (fun (k : Kept) => do return (k, ← k.held.toValue)) : Run _).work
      (s.setOwn 1 (.opened [])) = .done made t)
    (ht : t.ownOf 1 = .opened []) (hd : t.world.heap[1]? = some (.dict bareNames)) {n : Nat}
    (hn : (bareNames.putAt (made.map (fun m => (m.1.place, m.1.name, m.2)))).size = n) :
    ∃ u : State, (Run.ask (·.sizeOf? (.ref 1))).work u = .done (some n) u ∧
      (countNames.eval p bareFrame).work s = (Value.size (.ref 1)).work u := by
  refine ⟨_, ?_, countNames_work p rfl rfl (named_bare h (by decide)) (named_bare h (by decide))
    (@openNames_work s 1 ks h.kept hne made t hmade ht)⟩
  refine sizeOf_work ?_ hn
  show (t.world.heap.modify 1 _)[1]? = _
  rw [Array.getElem?_modify, if_pos rfl]
  rw [hd]
  rfl

/-- A walk counts the names that the module starts with. -/
theorem countNames_walk (p : Power) {s : State} (h : s.IsBare bareKept) :
    ∃ u, (countNames.eval p bareFrame).work s = .done (.int 7) u := by
  have hmade : (bareKept.mapM (fun (k : Kept) => do return (k, ← k.held.toValue)) : Run _).work
      (s.setOwn 1 (.opened [])) = .done
        (bareTools.map (fun n => ((⟨n.1, n.2.1, .value n.2.2⟩ : Kept), n.2.2)))
        (s.setOwn 1 (.opened [])) := by
    unfold bareKept
    rw [mapM_toValue]
    rfl
  have hheap : s.world.heap[1]? = some (.dict bareNames) := by
    obtain ⟨c, hc⟩ := h.heap
    rw [hc]
    rfl
  obtain ⟨u, hu, heval⟩ := countNames_bare p h (List.cons_ne_nil _ _) hmade
    (State.ownOf_setOwn_self _ _ _) hheap (n := 7) (by
      rw [putAt_bare]
      exact Dictionary.size_ofList (by decide))
  refine ⟨u, ?_⟩
  rw [heval]
  unfold Value.size
  rw [Run.work_done _ hu]
  rfl

/-- A program counts its list of output, too. -/
theorem countNames_program (p : Power) {s : State}
    (h : s.IsBare (bareKept ++ [⟨outputName, 2, .pieces []⟩])) :
    ∃ u, (countNames.eval p bareFrame).work s = .done (.int 8) u := by
  obtain ⟨c, hc⟩ := h.heap
  have hlist : (Held.pieces []).toValue.work (s.setOwn 1 (.opened [])) = .done (.ref 2)
      (State.setOwn { s with world := { s.world with heap := s.world.heap.push (.list #[]) } } 1
        (.opened [])) := by
    have hsize : s.world.heap.size = 2 := by
      rw [hc]
      rfl
    rw [← hsize]
    rfl
  have hmade : ((bareKept ++ [(⟨outputName, 2, .pieces []⟩ : Kept)]).mapM
      (fun (k : Kept) => do return (k, ← k.held.toValue)) : Run _).work
      (s.setOwn 1 (.opened [])) = .done
        (bareTools.map (fun n => ((⟨n.1, n.2.1, .value n.2.2⟩ : Kept), n.2.2)) ++
          [(⟨outputName, 2, .pieces []⟩, .ref 2)])
        (State.setOwn { s with world := { s.world with heap := s.world.heap.push (.list #[]) } } 1
          (.opened [])) := by
    rw [List.mapM_append, bareKept, mapM_toValue, pure_bind, List.mapM_cons, List.mapM_nil,
      bind_assoc, bind_assoc, Run.work_done _ hlist]
    rfl
  have hheap : (s.world.heap.push (.list #[]))[1]? = some (.dict bareNames) := by
    rw [hc]
    rfl
  obtain ⟨u, hu, heval⟩ := countNames_bare p h (List.cons_ne_nil _ _) hmade
    (State.ownOf_setOwn_self _ _ _) hheap (n := 8) (by
      rw [putAt_bare]
      exact Dictionary.size_ofList (by decide))
  refine ⟨u, ?_⟩
  rw [heval]
  unfold Value.size
  rw [Run.work_done _ hu]
  rfl

/-- A state with a context, and nothing else. -/
def bareStart : State := { world := { heap := #[.context {}] } }

theorem bareStart_started :
    (startModule [] 0).work bareStart = .done 1 (bareStart.started [] 0) ∧
      (bareStart.started [] 0).IsBare bareKept := by
  have hown : bareStart.ownOf 1 = default := by
    unfold State.ownOf bareStart
    rw [Std.HashMap.getElem?_empty]
    rfl
  refine ⟨?_, ⟨{}, ?_⟩, ?_⟩
  · rw [startModule_work]
    show (if (bareStart.ownOf 1).isLocked then _ else _) = _
    rw [hown, if_neg (by decide)]
    rfl
  · show #[_, Object.dict (namesOf (staticBindings ++ [] ++ includeBindings 0 1)).1] = _
    rw [namesOf_bare]
  · show (State.setOwn _ 1 (.kept (namesOf (staticBindings ++ [] ++ includeBindings 0 1)).2)).ownOf 1 = _
    rw [State.ownOf_setOwn_self, namesOf_bare]

theorem enterModule_bare {s : State} {ks : List Kept} (h : s.IsBare ks) :
    (enterModule 1 false).work s = .done none s := by
  obtain ⟨c, hheap⟩ := h.heap
  have hbuiltins : (s.world.dictionaryAt 1).named? builtinsName = some (.module "builtins") := by
    unfold World.dictionaryAt
    rw [hheap]
    show bareNames.get? (.text builtinsName) = _
    unfold bareNames Dictionary.putName
    rw [Dictionary.get?_put, Dictionary.get?_put, if_neg (by decide), if_pos rfl]
  have hask : (Run.ask (fun w => (w.dictionaryAt 1).named? builtinsName)).work s =
      .done (some (.module "builtins")) s := by
    rw [← hbuiltins]
    rfl
  have hbehind : (behindOf 1 none).work s = .done none s := by
    unfold behindOf
    rw [Run.work_done _ hask]
    rfl
  unfold enterModule
  rw [Run.work_done _ hbehind]
  rfl

theorem noteLineIn_bare {s : State} {ks : List Kept} (h : s.IsBare ks) (pos : Position) :
    ∃ t, (noteLineIn 0 pos).work s = .done () t ∧ t.IsBare ks := by
  obtain ⟨c, hheap⟩ := h.heap
  have hask : (Run.ask (·.heap[0]?)).work s = .done (some (.context c)) s := by
    show Outcome.done s.world.heap[0]? s = _
    rw [hheap]
    rfl
  refine ⟨s.modified 0 (Object.atLine pos.line), ?_, ⟨{ c with line := pos.line }, ?_⟩, h.kept⟩
  · unfold noteLineIn Value.setAttribute
    dsimp only
    rw [Run.work_done _ hask]
    rfl
  · show s.world.heap.modify 0 _ = _
    rw [hheap]
    rfl

end Inlay
