/-
  Inlay.Proofs.Recency
  ────────────────────────────────
  **THE STORE KEEPS WHAT WAS GOT LAST.**

  Templates are got by host programs, by renders and by includes, with a
  loader that may have changed since, or fail.  Whatever happens:

      StoreStep.staysRecent     — one step leaves a recent store recent
      staysRecent_of_storeSteps — so do any number of them
      store_keeps_latest        — a store that was cleared keeps the last names that
                                  templates were got by, and answers from what it keeps
-/
import Inlay.Proofs.Including
import Inlay.Session
import Mathlib.Logic.Relation

namespace Inlay

open Inlay.Program

/-! ## §1. Work that keeps stores recent. -/

/-- Do two worlds have one store, and one record of it? -/
structure World.SharesStore (w w' : World) : Prop where
  cache : w'.environment.cache = w.environment.cache
  size : w'.environment.cacheSize = w.environment.cacheSize
  history : w'.history = w.history

/-- Is a store recent afterwards if it was so before, and as large? -/
structure World.StaysRecent (w w' : World) : Prop where
  size : w'.environment.cacheSize = w.environment.cacheSize
  recent : w.IsRecent → w'.IsRecent

namespace World

variable {w w' w'' : World}

theorem StaysRecent.refl (w : World) : w.StaysRecent w := ⟨rfl, id⟩

theorem StaysRecent.trans (h : w.StaysRecent w') (h' : w'.StaysRecent w'') : w.StaysRecent w'' :=
  ⟨h'.size.trans h.size, fun hw => h'.recent (h.recent hw)⟩

theorem Uses.staysRecent (h : w.Uses w') : w.StaysRecent w' := ⟨h.size, h.recent⟩

theorem SharesStore.staysRecent (h : w.SharesStore w') : w.StaysRecent w' := by
  refine ⟨h.size, fun hw => ?_⟩
  unfold IsRecent Environment.keptNames
  rw [h.cache, h.size, h.history]
  exact hw

/-- A store that was cleared is recent. -/
theorem isRecent_cleared (w : World) : w.cleared.IsRecent := by
  show [] = (List.take _ []).reverse
  rw [List.take_nil]
  rfl

end World

/-- Does work leave a recent store recent, however it ends? -/
def Work.KeepsRecent {α : Type} (x : Work State α) : Prop :=
  ∀ s t, (x s).state? = some t → s.world.StaysRecent t.world

namespace Work.KeepsRecent

variable {α β : Type}

theorem run (x : Run α) : KeepsRecent x.work := fun s t ht =>
  (x.law.safe s _ (x.law.ends s t ht)).uses.staysRecent

theorem pure (a : α) : KeepsRecent (Pure.pure a : Work State α) := fun s _ ht =>
  Option.some.inj ht ▸ .refl s.world

theorem bind {x : Work State α} {f : α → Work State β} (hx : KeepsRecent x)
    (hf : ∀ a, KeepsRecent (f a)) : KeepsRecent (x >>= f) := by
  intro s t ht
  change (Work.bind x f s).state? = some t at ht
  unfold Work.bind at ht
  have hxs := hx s
  cases ho : x s with
  | done a u =>
    rw [ho] at ht hxs
    exact (hxs u rfl).trans (hf a u t ht)
  | raised e u =>
    rw [ho] at ht hxs
    exact hxs t ht
  | outOfFuel => simp [ho, Outcome.state?] at ht
  | uncovered what => simp [ho, Outcome.state?] at ht

theorem fetch (name : String) : KeepsRecent (fetchTemplate name) := by
  intro s t ht
  rcases Work.of_ofWorld_state ht with rfl | ⟨_, _, hfetch, rfl⟩
  · exact .refl t.world
  · exact (World.uses_fetch hfetch).1.staysRecent

end Work.KeepsRecent

/-- Compiling a template shares the store. -/
theorem compileTemplate_sharesStore {source : String} {name filename : Option String}
    {s t : State} (h : (compileTemplate source name filename s).state? = some t) :
    s.world.SharesStore t.world := by
  rcases Work.of_ofWorld_state h with rfl | ⟨template, w, hcompile, rfl⟩
  · exact ⟨rfl, rfl, rfl⟩
  · unfold World.compile at hcompile
    cases hnew : s.world.environment.compile source name filename with
    | error e =>
      rw [hnew] at hcompile
      cases hcompile
    | ok t =>
      rw [hnew] at hcompile
      obtain ⟨-, rfl⟩ := Prod.mk.inj (Except.ok.inj hcompile)
      exact ⟨rfl, rfl, rfl⟩

/-- Every operation of a host program keeps a recent store recent. -/
theorem keepsRecent_operation (p : Power) (held : List CompiledTemplate) (op : Operation) :
    (op.work p held).KeepsRecent := by
  cases op with
  | get name => exact .bind (.fetch name) (fun _ => .pure _)
  | compile source name =>
    exact .bind (fun _ _ h => (compileTemplate_sharesStore h).staysRecent) (fun _ => .pure _)
  | render name arguments =>
    exact .bind (.run arguments) (fun a => .bind (.run (renderNamed p name a.1 a.2))
      (fun _ => .pure _))
  | renderHeld index arguments =>
    unfold Operation.work
    dsimp only
    cases held[index]? with
    | none => exact .pure _
    | some t =>
      exact .bind (.run arguments) (fun a => .bind (.run (renderCall p .atOnce t a.1 a.2))
        (fun _ => .pure _))
  | addGlobal name value =>
    refine .bind (.run value) (fun v => .bind (fun s t h => ?_) (fun _ => .pure _))
    exact Option.some.inj h ▸ World.SharesStore.staysRecent ⟨rfl, rfl, rfl⟩
  | clearCache =>
    refine .bind (fun s t h => ?_) (fun _ => .pure _)
    exact Option.some.inj h ▸ ⟨rfl, fun _ => World.isRecent_cleared s.world⟩

/-! ## §2. Steps. -/

/-- What can happen to a state whose environment has a store of a fixed size. -/
inductive StoreStep (s : State) : State → Prop where
  /-- A host program asks for something, whatever comes of it. -/
  | operation {t : State} (p : Power) (held : List CompiledTemplate) (op : Operation)
      (h : (op.work p held s).state? = some t) : StoreStep s t
  /-- A render, or any other work of a program, goes on to one of its moments: an include may be in
  progress then, and the rest of the render is another step. -/
  | moment {α : Type} (x : Run α) {m : Moment} (h : x.seen s m) : StoreStep s m.state
  /-- Everything else changes: the loader, other settings, or anything that programs look at. -/
  | elsewhere {t : State} (h : s.world.SharesStore t.world) : StoreStep s t

/-- **One step leaves a recent store recent.** -/
theorem StoreStep.staysRecent {s t : State} (h : StoreStep s t) :
    s.world.StaysRecent t.world := by
  cases h with
  | operation p held op h => exact keepsRecent_operation p held op s t h
  | moment x h => exact (x.law.safe s _ h).uses.staysRecent
  | elsewhere h => exact h.staysRecent

/-- **A recent store stays recent, whatever happens.** -/
theorem staysRecent_of_storeSteps {s t : State} (h : Relation.ReflTransGen StoreStep s t) :
    s.world.StaysRecent t.world := by
  induction h with
  | refl => exact .refl s.world
  | tail _ hstep ih => exact ih.trans hstep.staysRecent

/-! ## §3. The store. -/

/-- The state with an environment whose store has a given size, and was just cleared. -/
def State.withClearedStore (s : State) (size : Int) : State :=
  { s with world := (s.world.mapEnvironment (fun env => { env with cacheSize := size })).cleared }

/-- The state with another loader. -/
def State.withLoader (s : State) (loader : Option Loader) : State :=
  { s with world := s.world.mapEnvironment (fun env => { env with loader }) }

/-- Does the store of a state keep the names used last, at most so many, and answer from what it
keeps? -/
structure State.KeepsLatest (size : Int) (s : State) : Prop where
  /-- The names that are kept are the last ones that templates were got by since the store was
  cleared, each once, the one used longest ago first. -/
  names : s.world.environment.keptNames = recent size.toNat s.world.history
  /-- Whatever the loader, a name that is kept is answered with the template that is kept for it. -/
  kept : ∀ name ∈ s.world.environment.keptNames, ∃ t, (name, t) ∈ s.world.environment.cache
    ∧ ∀ loader, ∃ u, fetchTemplate name (s.withLoader loader) = .done t u
  /-- A template that was got is written down, and kept if any are. -/
  got : ∀ name t u, fetchTemplate name s = .done t u →
    u.world.history = name :: s.world.history
      ∧ (0 < size → u.world.environment.cache.lookup name = some t)
  /-- So is one that a program gets. -/
  included : ∀ name t u, (getTemplate name).work s = .done t u →
    u.world.history = name :: s.world.history
      ∧ (0 < size → (u.world.environment.cache.lookup name).map (·.unnumbered) = some t)
  /-- Nothing changes where no template was got. -/
  failed : ∀ name e u,
    fetchTemplate name s = .raised e u ∨ (getTemplate name).work s = .raised e u → u = s
  /-- Templates that are compiled without a loader are not kept. -/
  compiled : ∀ source name filename u,
    (compileTemplate source name filename s).state? = some u → s.world.SharesStore u.world
  /-- Nothing is kept, and nothing written down, when the store was cleared. -/
  cleared : ∀ u, clearStore s = .done () u →
    u.world.environment.cache = [] ∧ u.world.history = []

section Entries

variable {α : Type} {key : String} {v : α} {entries : List (String × α)}

/-- The newest entry is found behind entries of other keys. -/
theorem lookup_newest (h : ∀ e ∈ entries, e.1 ≠ key) (v : α) :
    (entries ++ [(key, v)]).lookup key = some v :=
  List.lookup_eq_some_iff.2 ⟨entries, [], rfl, fun e he => bne_iff_ne.2 (h e he).symm⟩

theorem ne_of_mem_filter {e : String × α} (h : e ∈ entries.filter (·.1 ≠ key)) : e.1 ≠ key := by
  simpa using (List.mem_filter.1 h).2

theorem lookup_refresh (h : entries.lookup key = some v) :
    (refresh key entries).lookup key = some v := by
  unfold refresh
  rw [h]
  exact lookup_newest (fun _ => ne_of_mem_filter) v

/-- A new entry is never one of those that are dropped. -/
theorem lookup_keepRecent {size : Nat} (h : 0 < size) (key : String) (v : α)
    (entries : List (String × α)) : (keepRecent size key v entries).lookup key = some v := by
  unfold keepRecent
  dsimp only
  rw [List.drop_append_of_le_length]
  · exact lookup_newest (fun e he => ne_of_mem_filter (List.mem_of_mem_drop he)) v
  · rw [List.length_append, List.length_singleton]
    omega

end Entries

section Answering

variable {s u : State} {name : String} {t : CompiledTemplate}

/-- What was got is written down, and kept if anything is. -/
theorem fetched {w : World} (h : s.world.fetch name = .ok (t, w)) :
    w.history = name :: s.world.history ∧ (0 < s.world.environment.cacheSize →
      w.environment.cache.lookup name = some t) := by
  refine ⟨(World.uses_fetch h).2, fun hsize => ?_⟩
  rcases World.fetch_cases h with ⟨hkept, rfl⟩ | ⟨t', -, rfl, rfl⟩
  · exact lookup_refresh hkept
  · show (s.world.environment.keeping name _).cache.lookup name = some _
    unfold Environment.keeping
    rw [if_pos hsize]
    exact lookup_keepRecent (by omega) name _ _

/-- A program gets the template that a host program would get, without its number. -/
theorem getTemplate_done_fetch (h : (getTemplate name).work s = .done t u) :
    ∃ t', s.world.fetch name = .ok (t', u.world) ∧ t = t'.unnumbered :=
  World.answer_cases (Work.of_ofWorld_done (f := (·.answer name)) h)

/-- A name that is kept has a template, which answers it whatever the loader. -/
theorem fetchTemplate_kept (h : name ∈ s.world.environment.keptNames) :
    ∃ t, (name, t) ∈ s.world.environment.cache
      ∧ ∀ loader, ∃ u, fetchTemplate name (s.withLoader loader) = .done t u := by
  obtain ⟨e, he, rfl⟩ := List.mem_map.1 h
  obtain ⟨t, ht⟩ : ∃ t, s.world.environment.cache.lookup e.1 = some t := by
    rw [← Option.isSome_iff_exists, List.lookup_isSome_iff]
    exact ⟨e, he, beq_self_eq_true e.1⟩
  refine ⟨t, mem_of_lookup ht, fun loader => ?_⟩
  have hkept : (s.withLoader loader).world.environment.cache.lookup e.1 = some t := ht
  exact ⟨_, Work.ofWorld_ok (f := (·.fetch e.1)) (World.fetch_kept hkept)⟩

end Answering

/-- **The store keeps what was got last.**  From the moment when the store of an environment is
cleared, with a size that stays as it is, its names are the last ones that templates were got by;
what is kept is answered from the store alone; and only a template that was got changes it.

The steps in between are those of host programs, of renders and of includes, in any order, and
between any two of them the loader may become another one. -/
theorem store_keeps_latest {s t : State} (size : Int)
    (h : Relation.ReflTransGen StoreStep (s.withClearedStore size) t) : t.KeepsLatest size := by
  have hstays := staysRecent_of_storeSteps h
  have hsize : t.world.environment.cacheSize = size := hstays.size
  refine ⟨?_, fun name hname => fetchTemplate_kept hname, fun name template u hu => ?_,
    fun name template u hu => ?_, fun name e u hu => ?_,
    fun source name filename u hu => compileTemplate_sharesStore hu, fun u hu => ?_⟩
  · have hrecent := hstays.recent (World.isRecent_cleared _)
    rw [← hsize]
    exact hrecent
  · rw [← hsize]
    exact fetched (Work.of_ofWorld_done (f := (·.fetch name)) hu)
  · obtain ⟨t', ht', rfl⟩ := getTemplate_done_fetch hu
    rw [← hsize]
    refine ⟨(fetched ht').1, fun hpos => ?_⟩
    rw [(fetched ht').2 hpos]
    rfl
  · exact hu.elim Work.of_ofWorld_raised (Work.of_ofWorld_raised (f := (·.answer name)))
  · obtain ⟨-, rfl⟩ := Outcome.done.inj hu
    exact ⟨rfl, rfl⟩

/-- A name that is served can be got in a step. -/
theorem get_storeStep {s : State} {name source : String}
    (h : s.world.environment.Serves name source)
    (hcompiles : ∀ o, ∃ program, programOfSource o source = .ok program) :
    ∃ t, StoreStep s t ∧ t.world.history = name :: s.world.history ∧ s.AnswersLike t := by
  obtain ⟨template, t, hget, -, hlike⟩ := getTemplate_done h hcompiles
  obtain ⟨template', hfetch, -⟩ := getTemplate_done_fetch hget
  refine ⟨{ s with world := t.world }, .operation fullPower [] (.get name) ?_, (fetched hfetch).1,
    hlike.heap, rfl, hlike.limit, hlike.serves⟩
  show (Work.bind (fetchTemplate name) _ s).state? = _
  unfold Work.bind fetchTemplate
  rw [Work.ofWorld_ok hfetch]
  rfl

/-- A state with three templates of one character. -/
def threeTexts : State :=
  { world := { environment := { loader := some (.table [("a", "x"), ("b", "y"), ("c", "z")]) } } }

theorem store_keeps_latest_threeTexts :
    ∃ t, Relation.ReflTransGen StoreStep (threeTexts.withClearedStore 2) t
      ∧ t.world.history = ["c", "a", "b", "a"] ∧ t.world.environment.keptNames = ["a", "c"] := by
  have hserves : ∀ b ∈ [("a", "x"), ("b", "y"), ("c", "z")],
      (threeTexts.withClearedStore 2).world.environment.Serves b.1 b.2 := by
    have hlookup : ∀ b ∈ [("a", "x"), ("b", "y"), ("c", "z")],
        [("a", "x"), ("b", "y"), ("c", "z")].lookup b.1 = some b.2 := by decide
    exact fun b hb => ⟨(serves_table (hlookup b hb)).loads, fun _ ht => absurd ht List.not_mem_nil⟩
  have hcompiles : ∀ b ∈ [("a", "x"), ("b", "y"), ("c", "z")],
      ∀ o, ∃ program, programOfSource o b.2 = .ok program := by
    have hplain : ∀ b ∈ [("a", "x"), ("b", "y"), ("c", "z")],
        IsPlain b.2.toList ∧ 1 + (b.2.length : Int) < Code.lineLimit := by decide
    intro b hb o
    obtain ⟨-, program, -, -, -, -, hprogram⟩ :=
      programOfSource_text (hplain b hb).1 (hplain b hb).2 o
    exact ⟨program, hprogram⟩
  obtain ⟨ha, hb, hc⟩ : ("a", "x") ∈ [("a", "x"), ("b", "y"), ("c", "z")]
    ∧ ("b", "y") ∈ [("a", "x"), ("b", "y"), ("c", "z")]
    ∧ ("c", "z") ∈ [("a", "x"), ("b", "y"), ("c", "z")] := by decide
  obtain ⟨s₁, h₁, hist₁, like₁⟩ := get_storeStep (hserves _ ha) (hcompiles _ ha)
  obtain ⟨s₂, h₂, hist₂, like₂⟩ := get_storeStep (like₁.serves _ _ (hserves _ hb)) (hcompiles _ hb)
  obtain ⟨s₃, h₃, hist₃, like₃⟩ :=
    get_storeStep (like₂.serves _ _ (like₁.serves _ _ (hserves _ ha))) (hcompiles _ ha)
  obtain ⟨s₄, h₄, hist₄, -⟩ :=
    get_storeStep (like₃.serves _ _ (like₂.serves _ _ (like₁.serves _ _ (hserves _ hc))))
      (hcompiles _ hc)
  have hsteps : Relation.ReflTransGen StoreStep (threeTexts.withClearedStore 2) s₄ :=
    .tail (.tail (.tail (.tail .refl h₁) h₂) h₃) h₄
  have hhistory : s₄.world.history = ["c", "a", "b", "a"] := by
    rw [hist₄, hist₃, hist₂, hist₁]
    rfl
  refine ⟨s₄, hsteps, hhistory, ?_⟩
  rw [(store_keeps_latest 2 hsteps).names, hhistory]
  decide

end Inlay
