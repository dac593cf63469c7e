/-
  Inlay.Run
  ────────────────────────────────
  **PIECES OF WORK.**

  A `Work` in some kind of state ends with a value, with an exception,
  without fuel, or at something this model leaves out.

  A `Run` is work of a program, in a `State`, with the moments that it goes
  through.  It keeps these laws:

      starts — its start is one of its moments
      ends   — and so is its end, where no include of its own is in progress
      safe   — its moments can be reached, as far as contexts are concerned
      blind  — where the work does not ask for what is locked away, nothing
               that stands in its place makes a difference, or is changed
      hidden — and no faithful store of templates makes one, or becomes faithless

  The laws hold by construction: whatever is put together from runs is a run.
-/
import Inlay.Moment
import Inlay.Store

namespace Inlay

/-! ## §1. Work. -/

/-- How a piece of work ends. -/
inductive Outcome (σ α : Type) where
  | done (a : α) (s : σ)
  | raised (e : Exc) (s : σ)
  | outOfFuel
  /-- The code uses something that is not part of this model. -/
  | uncovered (what : String)

/-- The state in which work has ended. -/
def Outcome.state? {σ α : Type} : Outcome σ α → Option σ
  | done _ s => some s
  | raised _ s => some s
  | _ => none

/-- The outcome with its state changed. -/
def Outcome.mapState {σ τ α : Type} (f : σ → τ) : Outcome σ α → Outcome τ α
  | done a s => .done a (f s)
  | raised e s => .raised e (f s)
  | outOfFuel => .outOfFuel
  | uncovered what => .uncovered what

/-- A piece of work. -/
def Work (σ α : Type) : Type := σ → Outcome σ α

namespace Work

variable {σ α β : Type}

/-- Work that is finished. -/
def pure (a : α) : Work σ α := fun s => .done a s

/-- Work, and then more work with its value. -/
def bind (x : Work σ α) (f : α → Work σ β) : Work σ β := fun s =>
  match x s with
  | .done a t => f a t
  | .raised e t => .raised e t
  | .outOfFuel => .outOfFuel
  | .uncovered what => .uncovered what

instance : Monad (Work σ) where
  pure := pure
  bind := bind

/-- End with an exception. -/
def throw (e : Exc) : Work σ α := fun s => .raised e s

/-- End without fuel. -/
def starve : Work σ α := fun _ => .outOfFuel

/-- End at something that is not part of this model. -/
def leave (what : String) : Work σ α := fun _ => .uncovered what

/-- Work, with its exception as a value. -/
def attempt (x : Work σ α) : Work σ (Except Exc α) := fun s =>
  match x s with
  | .done a t => .done (.ok a) t
  | .raised e t => .done (.error e) t
  | .outOfFuel => .outOfFuel
  | .uncovered what => .uncovered what

end Work

/-! ## §2. States that differ behind locks. -/

/-- Is the second what stands apart, if the first is all that is seen of it? -/
def Own.Covers (seen there : Own) : Prop :=
  seen = there ∨ ∃ ns, seen = .locked ns ∧ ∀ name v, ns.lookup name = some v →
    there.value? name = some v

namespace State

/-- A state that has locks in places where another one may have anything. -/
structure Covers (seen there : State) : Prop where
  world : seen.world = there.world
  current : seen.current = there.current
  own : ∀ r, (seen.ownOf r).Covers (there.ownOf r)

/-- What work does to two states at once: it leaves alone what is locked in the first one, and
does the same to the rest. -/
structure Moves (s s' t t' : State) : Prop where
  world : t.world = t'.world
  current : t.current = t'.current
  own : ∀ r, if (s.ownOf r).isLocked then t.ownOf r = s.ownOf r ∧ t'.ownOf r = s'.ownOf r
    else t.ownOf r = t'.ownOf r

end State

/-- Do two outcomes agree?  Nothing is said if the first one asks for what is locked. -/
def Outcome.Agrees {α : Type} (s s' : State) : Outcome State α → Outcome State α → Prop
  | uncovered _, _ => True
  | done a t, done a' t' => a = a' ∧ s.Moves s' t t'
  | raised e t, raised e' t' => e = e' ∧ s.Moves s' t t'
  | outOfFuel, outOfFuel => True
  | _, _ => False

/-- Do two states differ in their stores of templates alone, which are faithful? -/
structure State.LooksLike (s s' : State) : Prop where
  world : s.world.LooksLike s'.world
  current : s.current = s'.current
  own : s.own = s'.own

/-- Do two outcomes differ in the stores of templates alone? -/
def Outcome.LooksLike {α : Type} : Outcome State α → Outcome State α → Prop
  | done a t, done a' t' => a = a' ∧ t.LooksLike t'
  | raised e t, raised e' t' => e = e' ∧ t.LooksLike t'
  | outOfFuel, outOfFuel => True
  | uncovered what, uncovered what' => what = what'
  | _, _ => False

/-- The laws of the work of programs, and of the moments that it goes through. -/
structure Work.Law {α : Type} (x : Work State α) (seen : State → Moment → Prop) : Prop where
  starts : ∀ s, seen s (.here s)
  ends : ∀ s t, (x s).state? = some t → seen s (.here t)
  safe : ∀ s m, seen s m → m.IsReachedFrom s
  blind : ∀ s s', s.Covers s' → (x s).Agrees s s' (x s')
  hidden : ∀ s s', s.LooksLike s' → (x s).LooksLike (x s')

/-- The context is the same before the work and afterwards. -/
theorem Work.Law.steady {α : Type} {x : Work State α} {seen : State → Moment → Prop}
    (h : x.Law seen) {s t : State} (ht : (x s).state? = some t) : t.current = s.current :=
  (h.safe s _ (h.ends s t ht)).nested

/-- A piece of work of a program. -/
structure Run (α : Type) where
  work : Work State α
  /-- The moments that the work goes through from a state on. -/
  seen : State → Moment → Prop
  law : work.Law seen

namespace State

theorem Covers.own_eq {s s' : State} (h : s.Covers s') {r : Ref}
    (hr : (s.ownOf r).isLocked = false) : s.ownOf r = s'.ownOf r := by
  rcases h.own r with heq | ⟨ns, hns, -⟩
  · exact heq
  · rw [hns] at hr
    simp [Own.isLocked] at hr

theorem Covers.moves {s s' : State} (h : s.Covers s') : s.Moves s' s s' := by
  refine ⟨h.world, h.current, fun r => ?_⟩
  split
  · exact ⟨rfl, rfl⟩
  · rename_i hr
    exact h.own_eq (by simpa using hr)

theorem Covers.of_moves {s s' t t' : State} (h : s.Covers s') (hm : s.Moves s' t t') :
    t.Covers t' := by
  refine ⟨hm.world, hm.current, fun r => ?_⟩
  have hr := hm.own r
  split at hr
  · rw [hr.1, hr.2]
    exact h.own r
  · exact Or.inl hr

theorem Moves.trans {s s' t t' u u' : State} (h₁ : s.Moves s' t t') (h₂ : t.Moves t' u u') :
    s.Moves s' u u' := by
  refine ⟨h₂.world, h₂.current, fun r => ?_⟩
  have hr₁ := h₁.own r
  have hr₂ := h₂.own r
  by_cases hs : (s.ownOf r).isLocked
  · rw [if_pos hs] at hr₁ ⊢
    rw [hr₁.1, if_pos hs, hr₁.2] at hr₂
    exact hr₂
  · rw [if_neg hs] at hr₁ ⊢
    split at hr₂
    · rw [hr₂.1, hr₂.2, hr₁]
    · exact hr₂

/-- A change of the worlds, the same on both sides. -/
theorem Covers.moves_world {s s' : State} (h : s.Covers s') {w w' : World} (hw : w = w') :
    s.Moves s' { s with world := w } { s' with world := w' } :=
  ⟨hw, h.current, h.moves.own⟩

/-- A change of what stands apart, the same on both sides, where no lock is. -/
theorem Covers.moves_own {s s' : State} (h : s.Covers s') {r : Ref}
    (hr : (s.ownOf r).isLocked = false) (o : Own) : s.Moves s' (s.setOwn r o) (s'.setOwn r o) := by
  refine ⟨h.world, h.current, fun t => ?_⟩
  have ht := h.moves.own t
  rw [State.ownOf_setOwn, State.ownOf_setOwn]
  by_cases hrt : r = t
  · subst hrt
    simp [hr]
  · simpa [hrt] using ht

theorem LooksLike.ownOf_eq {s s' : State} (h : s.LooksLike s') (r : Ref) :
    s.ownOf r = s'.ownOf r := by
  unfold ownOf
  rw [h.own]

theorem LooksLike.contextAt?_eq {s s' : State} (h : s.LooksLike s') (r : Ref) :
    s.world.contextAt? r = s'.world.contextAt? r := by
  unfold World.contextAt?
  rw [h.world.heap_eq]

/-- States that look alike, with another context as the current one. -/
theorem LooksLike.withCurrent {s s' : State} (h : s.LooksLike s') (context : Option Ref) :
    LooksLike { s with current := context } { s' with current := context } :=
  ⟨h.world, rfl, h.own⟩

end State

/-- What agrees after more work agrees before it. -/
theorem Outcome.Agrees.trans {α : Type} {s s' t t' : State} {o o' : Outcome State α}
    (hm : s.Moves s' t t') (h : o.Agrees t t' o') : o.Agrees s s' o' := by
  cases o <;> cases o' <;> first | exact h | exact ⟨h.1, hm.trans h.2⟩

/-! ## §3. Runs. -/

/-- The laws of work that goes through its start and its end only. -/
theorem Work.Law.of_step {α : Type} {x : Work State α}
    (hsafe : ∀ s t, (x s).state? = some t → (Moment.here t).IsReachedFrom s)
    (hblind : ∀ s s', s.Covers s' → (x s).Agrees s s' (x s'))
    (hhidden : ∀ s s', s.LooksLike s' → (x s).LooksLike (x s')) :
    x.Law (fun s m => m = .here s ∨ ∃ t, (x s).state? = some t ∧ m = .here t) := by
  refine ⟨fun s => Or.inl rfl, fun s t ht => Or.inr ⟨t, ht, rfl⟩, fun s m hm => ?_, hblind, hhidden⟩
  rcases hm with rfl | ⟨t, ht, rfl⟩
  · exact Moment.here_isReached s
  · exact hsafe s t ht

namespace Run

variable {α β : Type}

theorem ext {x y : Run α} (h : x.work = y.work) (hseen : ∀ s m, x.seen s m ↔ y.seen s m) :
    x = y := by
  obtain ⟨x, seen, hx⟩ := x
  obtain ⟨y, seen', hy⟩ := y
  obtain rfl : x = y := h
  obtain rfl : seen = seen' := funext fun s => funext fun m => propext (hseen s m)
  rfl

/-- Work that goes through its start and its end only. -/
def step (x : Work State α)
    (hsafe : ∀ s t, (x s).state? = some t → (Moment.here t).IsReachedFrom s)
    (hblind : ∀ s s', s.Covers s' → (x s).Agrees s s' (x s'))
    (hhidden : ∀ s s', s.LooksLike s' → (x s).LooksLike (x s')) : Run α where
  work := x
  seen := fun s m => m = .here s ∨ ∃ t, (x s).state? = some t ∧ m = .here t
  law := .of_step hsafe hblind hhidden

/-- Work that changes nothing, if it ends at all. -/
def still (x : Work State α) (h : ∀ s t, (x s).state? = some t → t = s)
    (hblind : ∀ s s', s.Covers s' → (x s).Agrees s s' (x s'))
    (hhidden : ∀ s s', s.LooksLike s' → (x s).LooksLike (x s')) : Run α :=
  step x (fun s t ht => by rw [h s t ht]; exact Moment.here_isReached s) hblind hhidden

/-- Work that is finished. -/
def pure (a : α) : Run α :=
  still (.pure a) (fun _ _ h => (Option.some.inj h).symm) (fun _ _ h => ⟨rfl, h.moves⟩)
    (fun _ _ h => ⟨rfl, h⟩)

/-- Work, and then more work with its value. -/
def bind (x : Run α) (f : α → Run β) : Run β where
  work := .bind x.work (fun a => (f a).work)
  seen := fun s m => x.seen s m ∨ ∃ a t, x.work s = .done a t ∧ (f a).seen t m
  law := by
    refine ⟨fun s => Or.inl (x.law.starts s), fun s t h => ?_, fun s m hm => ?_, fun s s' h => ?_,
      fun s s' h => ?_⟩
    · have hx := x.law.ends s
      unfold Work.bind at h
      cases ho : x.work s with
      | done a u =>
        rw [ho] at h
        exact Or.inr ⟨a, u, rfl, (f a).law.ends u t h⟩
      | raised e u =>
        rw [ho] at h hx
        exact Or.inl (hx t h)
      | outOfFuel => rw [ho] at h; simp [Outcome.state?] at h
      | uncovered what => rw [ho] at h; simp [Outcome.state?] at h
    · rcases hm with hm | ⟨a, t, ht, hm⟩
      · exact x.law.safe s m hm
      · have hend : x.seen s (.here t) := x.law.ends s t (by rw [ht]; rfl)
        exact (x.law.safe s _ hend).trans ((f a).law.safe t m hm)
    · have hx := x.law.blind s s' h
      unfold Work.bind
      cases ho : x.work s <;> cases ho' : x.work s' <;> rw [ho, ho'] at hx <;>
        first | exact hx.elim | trivial | skip
      · obtain ⟨rfl, hm⟩ := hx
        exact ((f _).law.blind _ _ (h.of_moves hm)).trans hm
    · have hx := x.law.hidden s s' h
      unfold Work.bind
      cases ho : x.work s <;> cases ho' : x.work s' <;> rw [ho, ho'] at hx <;>
        first | exact hx.elim | exact hx | skip
      · obtain ⟨rfl, hlike⟩ := hx
        exact (f _).law.hidden _ _ hlike

instance : Monad Run where
  pure := pure
  bind := bind

/-- What the world tells of all but its store of templates. -/
def ask (f : World → α) : Run α :=
  still (fun s => .done (f s.world.withoutStore) s) (fun _ _ h => (Option.some.inj h).symm)
    (fun _ _ h => ⟨congrArg (fun w : World => f w.withoutStore) h.world, h.moves⟩)
    (fun _ _ h => ⟨congrArg f h.world.apart, h⟩)

/-- Change the world in a way that keeps the contexts, and the environment with its store. -/
def changeWith (f : World → World) (h : ∀ w : World, w.Keeps (f w))
    (hstore : World.IsApart f := by exact ⟨fun _ => rfl, fun _ => rfl, fun _ => rfl⟩) : Run Unit :=
  step (fun s => .done () { s with world := f s.world })
    (fun s t ht => by
      obtain rfl := Option.some.inj ht
      exact ⟨h s.world, .refl s, World.uses_of_eq (hstore.environment _) (hstore.history _), rfl⟩)
    (fun _ _ hc => ⟨rfl, hc.moves_world (congrArg f hc.world)⟩)
    (fun _ _ hl => ⟨rfl, hl.world.changed hstore, hl.current, hl.own⟩)

/-- Change the world apart from its heap, and from the environment with its store. -/
def change (f : World → World) (h : ∀ w, (f w).heap = w.heap := by exact fun _ => rfl)
    (hstore : World.IsApart f := by exact ⟨fun _ => rfl, fun _ => rfl, fun _ => rfl⟩) : Run Unit :=
  changeWith f (fun w => World.keeps_of_heap (h w)) hstore

/-- End with an exception. -/
def throw (e : Exc) : Run α :=
  still (.throw e) (fun _ _ h => (Option.some.inj h).symm) (fun _ _ h => ⟨rfl, h.moves⟩)
    (fun _ _ h => ⟨rfl, h⟩)

/-- End with an exception that says something. -/
def fail (cls : ErrorClass) (message : String) : Run α := throw (.saying cls message)

/-- End with an exception that carries a report. -/
def report (r : Diagnostic.Report) : Run α := throw (.ofReport r)

/-- End without fuel. -/
def starve : Run α :=
  still .starve (fun s t h => by simp [Work.starve, Outcome.state?] at h) (fun _ _ _ => trivial)
    (fun _ _ _ => trivial)

/-- End at something that is not part of this model. -/
def leave (what : String) : Run α :=
  still (.leave what) (fun s t h => by simp [Work.leave, Outcome.state?] at h)
    (fun _ _ _ => trivial) (fun _ _ _ => rfl)

instance : Inhabited (Run α) := ⟨starve⟩

/-- Work, with its exception as a value. -/
def attempt (x : Run α) : Run (Except Exc α) where
  work := .attempt x.work
  seen := x.seen
  law := by
    refine ⟨x.law.starts, fun s t h => ?_, x.law.safe, fun s s' h => ?_, fun s s' h => ?_⟩
    · have hx := x.law.ends s
      unfold Work.attempt at h
      cases ho : x.work s <;> rw [ho] at h hx <;> exact hx t h
    · have hx := x.law.blind s s' h
      unfold Work.attempt
      cases ho : x.work s <;> cases ho' : x.work s' <;> rw [ho, ho'] at hx <;>
        first | exact hx.elim | trivial | exact ⟨congrArg _ hx.1, hx.2⟩
    · have hx := x.law.hidden s s' h
      unfold Work.attempt
      cases ho : x.work s <;> cases ho' : x.work s' <;> rw [ho, ho'] at hx <;>
        first | exact hx.elim | exact hx | exact ⟨congrArg _ hx.1, hx.2⟩

/-- Work, and what to do about an exception. -/
def catching (x : Run α) (handle : Exc → Run α) : Run α := do
  match ← attempt x with
  | .ok a => return a
  | .error e => handle e

/-! ## §4. What stands apart. -/

/-- What is said of code that asks for what is locked away. -/
def lockedAway : String := "names that a program keeps for itself"

/-- The current context. -/
def current : Run (Option Ref) :=
  still (fun s => .done s.current s) (fun _ _ h => (Option.some.inj h).symm)
    (fun _ _ h => ⟨h.current, h.moves⟩) (fun _ _ h => ⟨h.current, h⟩)

/-- What is held under a reserved name of the program with the dictionary at a place. -/
def heldAt (r : Ref) (name : String) : Run (Option Held) :=
  still
    (fun s =>
      match s.ownOf r with
      | .locked ns =>
        match ns.lookup name with
        | some v => .done (some (.value v)) s
        | none => .uncovered lockedAway
      | .kept ks => .done (Own.find? name ks) s
      | _ => .done none s)
    (fun s t h => by
      split at h
      · split at h
        · exact (Option.some.inj h).symm
        · simp [Outcome.state?] at h
      all_goals exact (Option.some.inj h).symm)
    (fun s s' h => by
      rcases h.own r with heq | ⟨ns, hns, hval⟩
      · rw [← heq]
        split
        · split
          · exact ⟨rfl, h.moves⟩
          · trivial
        · exact ⟨rfl, h.moves⟩
        · exact ⟨rfl, h.moves⟩
      · rw [hns]
        dsimp only
        cases hv : ns.lookup name with
        | none => trivial
        | some v =>
          have hthere := hval name v hv
          unfold Own.value? at hthere
          split at hthere
          · rename_i ks hks
            split at hthere
            · rename_i u hu
              obtain rfl := Option.some.inj hthere
              rw [hks]
              dsimp only
              rw [hu]
              exact ⟨rfl, h.moves⟩
            · simp at hthere
          · rename_i ns' hns'
            rw [hns']
            dsimp only
            rw [hthere]
            exact ⟨rfl, h.moves⟩
          · simp at hthere)
    (fun s s' h => by
      rw [← h.ownOf_eq r]
      split
      · split
        · exact ⟨rfl, h⟩
        · exact rfl
      · exact ⟨rfl, h⟩
      · exact ⟨rfl, h⟩)

/-- Change what stands apart from the object at a place, unless it is locked away or the source of
a context. -/
def changeOwn (r : Ref) (f : Own → α × Own) : Run α :=
  step
    (fun s =>
      if s.isFixed r then .uncovered lockedAway
      else .done (f (s.ownOf r)).1 (s.setOwn r (f (s.ownOf r)).2))
    (fun s t h => by
      split at h
      · simp [Outcome.state?] at h
      · rename_i hr
        obtain rfl := Option.some.inj h
        exact ⟨.refl _, .setOwn (by simpa using hr) _, .refl _, rfl⟩)
    (fun s s' h => by
      cases hlocked : (s.ownOf r).isLocked with
      | true =>
        rw [State.isFixed_of_locked hlocked]
        trivial
      | false =>
        have hfixed : s.isFixed r = s'.isFixed r := by
          unfold State.isFixed
          rw [← h.own_eq hlocked, h.world]
        rw [← hfixed, ← h.own_eq hlocked]
        split
        · trivial
        · exact ⟨rfl, h.moves_own hlocked _⟩)
    (fun s s' h => by
      have hfixed : s.isFixed r = s'.isFixed r := by
        unfold State.isFixed
        rw [h.ownOf_eq, h.contextAt?_eq]
      rw [← hfixed, ← h.ownOf_eq]
      split
      · exact rfl
      · exact ⟨rfl, h.world, h.current, congrArg (·.insert r (f (s.ownOf r)).2) h.own⟩)

theorem changeOwn_work (r : Ref) (f : Own → α × Own) (s : State) : (changeOwn r f).work s
    = if s.isFixed r then .uncovered lockedAway
      else .done (f (s.ownOf r)).1 (s.setOwn r (f (s.ownOf r)).2) := rfl

theorem changeOwn_done {r : Ref} (f : Own → α × Own) {s : State} {o : Own}
    (ho : s.ownOf r = o) (h : s.isFixed r = false) :
    (changeOwn r f).work s = .done (f o).1 (s.setOwn r (f o).2) := by
  rw [changeOwn_work, ho, h]
  rfl

theorem heldAt_kept {r : Ref} {s : State} {ks : List Kept} (hks : s.ownOf r = .kept ks)
    (name : String) : (heldAt r name).work s = .done (Own.find? name ks) s := by
  show (match s.ownOf r with
    | .locked ns =>
      match ns.lookup name with
      | some v => Outcome.done (some (Held.value v)) s
      | none => .uncovered lockedAway
    | .kept ks => .done (Own.find? name ks) s
    | _ => .done none s) = _
  rw [hks]

theorem heldAt_locked {r : Ref} {s : State} {names : List (String × Value)}
    (hnames : s.ownOf r = .locked names) {name : String} {v : Value}
    (hv : names.lookup name = some v) :
    (heldAt r name).work s = .done (some (.value v)) s := by
  show (match s.ownOf r with
    | .locked ns =>
      match ns.lookup name with
      | some v => Outcome.done (some (Held.value v)) s
      | none => .uncovered lockedAway
    | .kept ks => .done (Own.find? name ks) s
    | _ => .done none s) = _
  rw [hnames]
  dsimp only
  rw [hv]

/-! ## §5. The heap. -/

/-- Put a new object into the heap. -/
def alloc (o : Object) : Run Ref := do
  let r ← ask (fun w => w.heap.size)
  changeWith (·.push o) (·.keeps_push o)
  return r

/-- The object at a place. -/
def object (r : Ref) : Run Object := ask (fun w => w.heap[r]?.getD default)

/-- Change the object at a place, and leave it alone if it is a context. -/
def modify (r : Ref) (f : Object → Object)
    (h : ∀ c, f (.context c) = .context c := by exact fun _ => rfl) : Run Unit :=
  changeWith (·.modify r f) (fun w => w.keeps_modify r f (fun c => ⟨c.line, h c⟩))

/-- Change the items of the list at a place. -/
def changeItems (r : Ref) (f : Array Value → Array Value) : Run Unit := modify r (Object.mapItems f)

/-- Change the entries of the dictionary at a place. -/
def changeEntries (r : Ref) (f : Dictionary → Dictionary) : Run Unit :=
  modify r (Object.mapEntries f)

/-- Change the members of the set at a place. -/
def changeMembers (r : Ref) (f : Dictionary → Dictionary) : Run Unit :=
  modify r (Object.mapMembers f)

/-- Put an object in the place of another one, unless that is a context. -/
def setObject (r : Ref) (o : Object) : Run Unit := modify r (·.replacedBy o)

/-- Change the line of the context at a place. -/
def setLine (r : Ref) (line : Int) : Run Unit :=
  changeWith (·.modify r (Object.atLine line))
    (fun w => w.keeps_modify r (Object.atLine line) (fun _ => ⟨line, rfl⟩))

/-- A new list. -/
def newList (items : List Value) : Run Value := return .ref (← alloc (.list items.toArray))

/-- A new dictionary. -/
def newDict (d : Dictionary) : Run Value := return .ref (← alloc (.dict d))

/-- A new iterator. -/
def newIter (i : Iter) : Run Value := return .ref (← alloc (.iter i))

/-- The context of the innermost render in progress, without its source. -/
def currentContext : Run (Option RenderContext) := do
  match ← current with
  | some r => ask (·.contextAt? r)
  | none => return none

/-- The source of the template in the context at a place. -/
def sourceAt (context : Ref) : Run (Option String) :=
  still
    (fun s =>
      match s.ownOf context with
      | .source text => .done text s
      | .locked _ => .uncovered lockedAway
      | _ => .done none s)
    (fun s t h => by
      split at h
      · exact (Option.some.inj h).symm
      · simp [Outcome.state?] at h
      · exact (Option.some.inj h).symm)
    (fun s s' h => by
      cases hlocked : (s.ownOf context).isLocked with
      | true =>
        split
        · rename_i heq
          rw [heq] at hlocked
          simp [Own.isLocked] at hlocked
        · trivial
        · rename_i hne
          cases hown : s.ownOf context <;> rw [hown] at hlocked <;>
            simp only [Own.isLocked, Bool.false_eq_true] at hlocked
          exact absurd hown (hne _)
      | false =>
        rw [← h.own_eq hlocked]
        split
        · exact ⟨rfl, h.moves⟩
        · trivial
        · exact ⟨rfl, h.moves⟩)
    (fun s s' h => by
      rw [← h.ownOf_eq]
      split
      · exact ⟨rfl, h⟩
      · exact rfl
      · exact ⟨rfl, h⟩)

theorem sourceAt_done {r : Ref} {s : State} {text : Option String}
    (h : s.ownOf r = .source text) : (sourceAt r).work s = .done text s := by
  show (match s.ownOf r with
    | .source text => Outcome.done text s
    | .locked _ => .uncovered lockedAway
    | _ => .done none s) = _
  rw [h]

/-- A new context of a template with a source, which comes to stand apart before it is there. -/
def newContext (c : RenderContext) (source : Option String) : Run Ref := do
  changeOwn (← ask (fun w => w.heap.size)) (fun _ => ((), .source source))
  alloc (.context c)

theorem newContext_work (c : RenderContext) (source : Option String) (s : State) :
    (newContext c source).work s
      = if s.isFixed s.world.heap.size then .uncovered lockedAway
        else .done s.world.heap.size (s.withContext c source) := by
  show Work.bind (changeOwn s.world.heap.size (fun _ => ((), .source source))).work
    (fun _ => (alloc (.context c)).work) s = _
  unfold Work.bind
  rw [changeOwn_work]
  cases s.isFixed s.world.heap.size <;> rfl

theorem newContext_done {c : RenderContext} {source : Option String} {s u : State} {r : Ref}
    (h : (newContext c source).work s = .done r u) :
    r = s.world.heap.size ∧ u = s.withContext c source := by
  rw [newContext_work] at h
  split at h
  · cases h
  · obtain ⟨rfl, rfl⟩ := Outcome.done.inj h
    exact ⟨rfl, rfl⟩

/-! ## §6. Contexts that are current. -/

/-- Work with the context at a place as the current one. -/
def withCurrent (context : Ref) (x : Run α) : Run α where
  work := fun s =>
    (x.work { s with current := some context }).mapState ({ · with current := s.current })
  seen := fun s m => m = .here s
    ∨ (∃ m', x.seen { s with current := some context } m' ∧ m = m'.rootedIn context)
    ∨ ∃ t, (x.work { s with current := some context }).state? = some t
      ∧ m = .here { t with current := s.current }
  law := by
    refine ⟨fun s => Or.inl rfl, fun s t h => Or.inr (Or.inr ?_), fun s m hm => ?_,
      fun s s' h => ?_, fun s s' h => ?_⟩
    · cases ho : x.work { s with current := some context } <;> rw [ho] at h <;>
        simp only [Outcome.mapState, Outcome.state?, Option.some.injEq, reduceCtorEq] at h
      all_goals exact ⟨_, rfl, by rw [h]⟩
    · rcases hm with rfl | ⟨m', hm', rfl⟩ | ⟨t, ht, rfl⟩
      · exact Moment.here_isReached s
      · exact (x.law.safe _ m' hm').rooted
      · exact (x.law.safe _ _ (x.law.ends _ t ht)).left
    · have hx := x.law.blind { s with current := some context } { s' with current := some context }
        ⟨h.world, rfl, h.own⟩
      cases ho : x.work { s with current := some context } <;>
        cases ho' : x.work { s' with current := some context } <;> rw [ho, ho'] at hx <;>
        first | exact hx.elim | trivial | exact ⟨hx.1, hx.2.world, h.current, hx.2.own⟩
    · have hx := x.law.hidden _ _ (h.withCurrent (some context))
      cases ho : x.work { s with current := some context } <;>
        cases ho' : x.work { s' with current := some context } <;> rw [ho, ho'] at hx <;>
        first | exact hx.elim | exact hx | exact ⟨hx.1, hx.2.world, h.current, hx.2.own⟩

/-- The context of a template that is included from the render with the context at a place. -/
def childAt (helper : Ref) (t : CompiledTemplate) (w : World) : RenderContext :=
  ((w.contextAt? helper).getD {}).child t.name t.filename none

/-- Work in the context of an included template. -/
def inChild (helper : Ref) (t : CompiledTemplate) (x : Ref → Run α) : Run α := do
  let inner ← newContext (← ask (childAt helper t)) (some t.source)
  withCurrent inner (x inner)

/-- The moments of work in the context of an included template, and of its end. -/
def seenInChild (helper : Ref) (t : CompiledTemplate) (x : Ref → Run α) (s : State)
    (m : Moment) : Prop :=
  (∃ inner u m', (newContext (childAt helper t s.world) (some t.source)).work s = .done inner u
    ∧ (x inner).seen { u with current := some inner } m' ∧ m = m'.within ⟨helper, s, inner⟩)
  ∨ ∃ t', ((inChild helper t x).work s).state? = some t' ∧ m = .here t'

theorem seenInChild_isReached {helper : Ref} {t : CompiledTemplate} {x : Ref → Run α} {s : State}
    {m : Moment} (hm : seenInChild helper t x s m) {outer : RenderContext}
    (houter : s.world.contextAt? helper = some outer)
    (hallowed : outer.includeDepth < outer.maxIncludeDepth) : m.IsReachedFrom s := by
  have hbelow : (childAt helper t s.world).IsBelow outer := by
    unfold childAt
    rw [houter]
    exact ⟨rfl, rfl, rfl, hallowed⟩
  rcases hm with ⟨inner, u, m', hnew, hm', rfl⟩ | ⟨t', ht', rfl⟩
  · obtain ⟨rfl, rfl⟩ := newContext_done hnew
    exact ((x _).law.safe _ m' hm').included (s.keeps_withContext _ _)
      (s.keepsSources_withContext _ _) (World.uses_of_eq rfl rfl) (s.contextAt?_withContext _ _) houter hbelow
  · exact (inChild helper t x).law.safe s _ ((inChild helper t x).law.ends s t' ht')

/-- What is said of an include without the context that it belongs to. -/
def lostContext : String := "an include without its context"

/-- Include a template into the render with the context at a place: find it, and work in a
context one level below, unless that is too deep. -/
def including (helper : Ref) (refuse : RenderContext → Run α)
    (find : Run (CompiledTemplate × β)) (x : CompiledTemplate → β → Ref → Run α) : Run α where
  work := fun s =>
    match s.world.contextAt? helper with
    | none => .uncovered lostContext
    | some c =>
      if c.maxIncludeDepth ≤ c.includeDepth then (refuse c).work s
      else (find >>= fun p => inChild helper p.1 (x p.1 p.2)).work s
  seen := fun s m => m = .here s ∨ ∃ c, s.world.contextAt? helper = some c
    ∧ if c.maxIncludeDepth ≤ c.includeDepth then (refuse c).seen s m
      else find.seen s m
        ∨ ∃ p t, find.work s = .done p t ∧ seenInChild helper p.1 (x p.1 p.2) t m
  law := by
    refine ⟨fun s => Or.inl rfl, fun s t ht => Or.inr ?_, fun s m hm => ?_, fun s s' h => ?_,
      fun s s' h => ?_⟩
    · cases hc : s.world.contextAt? helper with
      | none => rw [hc] at ht; simp [Outcome.state?] at ht
      | some c =>
        rw [hc] at ht
        refine ⟨c, rfl, ?_⟩
        dsimp only at ht
        split
        · rename_i hdeep
          rw [if_pos hdeep] at ht
          exact (refuse c).law.ends s t ht
        · rename_i hdeep
          rw [if_neg hdeep] at ht
          have hfind := find.law.ends s
          change (Work.bind find.work _ s).state? = some t at ht
          unfold Work.bind at ht
          cases ho : find.work s with
          | done p u =>
            rw [ho] at ht
            exact Or.inr ⟨p, u, rfl, Or.inr ⟨t, ht, rfl⟩⟩
          | raised e u =>
            rw [ho] at ht hfind
            exact Or.inl (hfind t ht)
          | outOfFuel => rw [ho] at ht; simp [Outcome.state?] at ht
          | uncovered what => rw [ho] at ht; simp [Outcome.state?] at ht
    · rcases hm with rfl | ⟨c, hc, hm⟩
      · exact Moment.here_isReached s
      split at hm
      · exact (refuse c).law.safe s m hm
      · rename_i hdeep
        rcases hm with hm | ⟨p, t, ht, hm⟩
        · exact find.law.safe s m hm
        · -- the context is still as deep as it was when it was asked
          have hfound := find.law.safe s _ (find.law.ends s t (by rw [ht]; rfl))
          obtain ⟨line, hline⟩ := hfound.keeps helper c hc
          exact hfound.trans (seenInChild_isReached hm hline (Int.not_le.1 hdeep))
    · rw [← h.world]
      cases s.world.contextAt? helper with
      | none => trivial
      | some c =>
        dsimp only
        split
        · exact (refuse c).law.blind s s' h
        · exact (find >>= fun p => inChild helper p.1 (x p.1 p.2)).law.blind s s' h
    · rw [← h.contextAt?_eq]
      cases s.world.contextAt? helper with
      | none => exact rfl
      | some c =>
        dsimp only
        split
        · exact (refuse c).law.hidden s s' h
        · exact (find >>= fun p => inChild helper p.1 (x p.1 p.2)).law.hidden s s' h

/-! ## §7. Objects that look the same. -/

/-- A number that tells an object apart. -/
def fresh : Run Nat := do
  let n ← ask World.unused
  change (fun w => { w with unused := w.unused + 1 })
  return n

/-- A float as a value. -/
def float (x : Float) : Run Value := do
  if x.isNaN then return .nan (← fresh) else return .float x

/-- An exception as an object of its own. -/
def stamped (e : Exc) : Run Exc := do
  if e.id = 0 then return e.stamp (← fresh) else return e

end Run

/-! ## §8. Work around runs. -/

/-- Work that can go on after an exception. -/
class Attempts (m : Type → Type) where
  attempt {α : Type} : m α → m (Except Exc α)

instance : Attempts Run := ⟨Run.attempt⟩

instance {σ : Type} : Attempts (Work σ) := ⟨Work.attempt⟩

end Inlay
