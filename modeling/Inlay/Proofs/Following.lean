/-
  Inlay.Proofs.Following
  ────────────────────────────────
  **RUNS THAT DO WHAT A WALK DOES.**

  A run follows a walk if from related states it ends as the walk ends, in
  related states again.  Nothing is asked of the run where the walk ends at
  something that is locked away.

  Following is kept by everything that statements are put together from.  So
  a statement whose slots are filled with code follows the same statement
  with walks in its slots, as soon as each code follows its walk.
-/
import Inlay.Proofs.Filling
import Inlay.Proofs.Walk
import Mathlib.Data.List.Forall2

namespace Inlay

open Inlay.Code

/-! ## §1. Laws of work. -/

namespace Work

variable {σ α β : Type}

theorem pure_apply (a : α) (s : σ) : (Pure.pure a : Work σ α) s = .done a s := rfl

theorem bind_apply (x : Work σ α) (f : α → Work σ β) (s : σ) :
    (x >>= f) s = match x s with
      | .done a t => f a t
      | .raised e t => .raised e t
      | .outOfFuel => .outOfFuel
      | .uncovered what => .uncovered what := rfl

theorem bind_done {x : Work σ α} {s t : σ} {a : α} (f : α → Work σ β) (h : x s = .done a t) :
    (x >>= f) s = f a t := by
  rw [bind_apply, h]

theorem bind_uncovered {x : Work σ α} {s : σ} {what : String} (f : α → Work σ β)
    (h : x s = .uncovered what) : (x >>= f) s = .uncovered what := by
  rw [bind_apply, h]

instance : LawfulMonad (Work σ) := LawfulMonad.mk' (Work σ)
  (by intro α x; funext s; show bind x _ s = x s; unfold bind; cases x s <;> rfl)
  (by intro α β a f; rfl)
  (by
    intro α β γ x f g
    funext s
    show bind (bind x f) g s = bind x (fun a => bind (f a) g) s
    unfold bind
    cases x s <;> rfl)

end Work

namespace Run

variable {α β : Type}

theorem work_bind (x : Run α) (f : α → Run β) : (x >>= f).work = x.work >>= fun a => (f a).work :=
  rfl

theorem work_pure (a : α) : (Pure.pure a : Run α).work = Pure.pure a := rfl

theorem work_done {x : Run α} {s t : State} {a : α} (f : α → Run β) (h : x.work s = .done a t) :
    (x >>= f).work s = (f a).work t := Work.bind_done _ h

/-- Work that ends with a value does so in all of its parts. -/
theorem of_bind_done {x : Run α} {f : α → Run β} {s u : State} {b : β}
    (h : (x >>= f).work s = .done b u) :
    ∃ a t, x.work s = .done a t ∧ (f a).work t = .done b u := by
  rw [work_bind, Work.bind_apply] at h
  cases hx : x.work s with
  | done a t =>
    rw [hx] at h
    exact ⟨a, t, rfl, h⟩
  | raised e t =>
    rw [hx] at h
    cases h
  | outOfFuel =>
    rw [hx] at h
    cases h
  | uncovered what =>
    rw [hx] at h
    cases h

theorem work_congr {x x' : Run α} {s : State} (f : α → Run β) (h : x.work s = x'.work s) :
    (x >>= f).work s = (x' >>= f).work s := by
  rw [work_bind, work_bind, Work.bind_apply, Work.bind_apply, h]

theorem seen_pure {a : α} {s : State} {m : Moment} :
    (Pure.pure a : Run α).seen s m ↔ m = .here s := by
  refine ⟨fun h => ?_, Or.inl⟩
  rcases h with rfl | ⟨t, ht, rfl⟩
  · rfl
  · obtain rfl := Option.some.inj ht
    rfl

theorem seen_bind {x : Run α} {f : α → Run β} {s : State} {m : Moment} :
    (x >>= f).seen s m ↔ x.seen s m ∨ ∃ a t, x.work s = .done a t ∧ (f a).seen t m :=
  Iff.rfl

instance : LawfulMonad Run := LawfulMonad.mk' Run
  (by
    intro α x
    refine ext (id_map (f := Work State) x.work) (fun s m => ?_)
    refine ⟨fun h => ?_, Or.inl⟩
    rcases h with h | ⟨a, t, ht, hm⟩
    · exact h
    · obtain rfl := seen_pure.1 hm
      exact x.law.ends s t (by rw [ht]; rfl))
  (by
    intro α β a f
    refine ext rfl (fun s m => ?_)
    rw [seen_bind, seen_pure]
    refine ⟨fun h => ?_, fun h => Or.inr ⟨a, s, rfl, h⟩⟩
    rcases h with rfl | ⟨b, t, ht, hm⟩
    · exact (f a).law.starts s
    · obtain ⟨rfl, rfl⟩ := Outcome.done.inj ht
      exact hm)
  (by
    intro α β γ x f g
    refine ext (bind_assoc (m := Work State) _ _ _) (fun s m => ?_)
    simp only [seen_bind, work_bind]
    constructor
    · rintro ((h | ⟨a, t, ht, h⟩) | ⟨b, u, hu, h⟩)
      · exact Or.inl h
      · exact Or.inr ⟨a, t, ht, Or.inl h⟩
      · rw [Work.bind_apply] at hu
        cases hx : x.work s <;> rw [hx] at hu <;>
          simp only [reduceCtorEq] at hu
        exact Or.inr ⟨_, _, rfl, Or.inr ⟨b, u, hu, h⟩⟩
    · rintro (h | ⟨a, t, ht, h | ⟨b, u, hu, h⟩⟩)
      · exact Or.inl (Or.inl h)
      · exact Or.inl (Or.inr ⟨a, t, ht, h⟩)
      · exact Or.inr ⟨b, u, (Work.bind_done _ ht).trans hu, h⟩)

end Run

theorem liftM_eq_walked {α : Type} (x : Run α) : (liftM x : Walk α) = x.walked := rfl

theorem Run.walked_done {α : Type} {x : Run α} {w : State × Page} {a : α} {t : State}
    (h : x.work w.1 = .done a t) : x.walked w = .done a (t, w.2) := by
  unfold Run.walked
  rw [h]
  rfl

theorem Run.walked_uncovered {α : Type} {x : Run α} {w : State × Page} {what : String}
    (h : x.work w.1 = .uncovered what) : x.walked w = .uncovered what := by
  unfold Run.walked
  rw [h]
  rfl

instance : LawfulMonadLift Run (Work (State × Page)) where
  monadLift_pure := fun a => rfl
  monadLift_bind := by
    intro α β x f
    funext w
    show ((x >>= f).work w.1).mapState _ = Work.bind x.walked (fun a => (f a).walked) w
    rw [Run.work_bind, Work.bind_apply]
    unfold Work.bind Run.walked
    cases x.work w.1 <;> rfl

/-! ## §2. Following. -/

/-- Does an outcome match the one of a walk?  Related states are left behind. -/
def Outcome.Matches {α : Type} (I : State → State × Page → Prop) :
    Outcome (State × Page) α → Outcome State α → Prop
  | uncovered _, _ => True
  | done a w, done b s => a = b ∧ I s w
  | raised e w, raised e' s => e = e' ∧ I s w
  | outOfFuel, outOfFuel => True
  | _, _ => False

/-- Does a run end as a walk does, from related states? -/
structure Follows {α : Type} (I : State → State × Page → Prop) (x : Run α) (y : Walk α) :
    Prop where
  matches_of : ∀ s w, I s w → (y w).Matches I (x.work s)

/-- A relation that every run keeps, done on both sides. -/
structure Stable (I : State → State × Page → Prop) : Prop where
  covers : ∀ s w, I s w → w.1.Covers s
  moves : ∀ s w t t', I s w → w.1.Moves s t t' → I t' (t, w.2)

theorem stable_covers : Stable (fun s w => w.1.Covers s) where
  covers := fun _ _ h => h
  moves := fun _ _ _ _ h hm => h.of_moves hm

namespace Follows

variable {α β : Type} {I : State → State × Page → Prop}

theorem pure (a : α) : Follows I (Pure.pure a) (Pure.pure a) := ⟨fun _ _ h => ⟨rfl, h⟩⟩

theorem bind {x : Run α} {y : Walk α} {f : α → Run β} {k : α → Walk β} (h : Follows I x y)
    (hf : ∀ a, Follows I (f a) (k a)) : Follows I (x >>= f) (y >>= k) := by
  refine ⟨fun s w hi => ?_⟩
  have hxy := h.matches_of s w hi
  rw [Run.work_bind, Work.bind_apply, Work.bind_apply]
  cases hy : y w <;> cases hx : x.work s <;> rw [hy, hx] at hxy <;>
    first | exact hxy.elim | trivial | exact hxy | skip
  obtain ⟨rfl, hi'⟩ := hxy
  exact (hf _).matches_of _ _ hi'

theorem attempt {x : Run α} {y : Walk α} (h : Follows I x y) :
    Follows I (Run.attempt x) y.attempt := by
  refine ⟨fun s w hi => ?_⟩
  have hxy := h.matches_of s w hi
  show (Work.attempt y w).Matches I (Work.attempt x.work s)
  unfold Work.attempt
  cases hy : y w <;> cases hx : x.work s <;> rw [hy, hx] at hxy <;>
    first | exact hxy.elim | trivial | exact ⟨congrArg _ hxy.1, hxy.2⟩

/-- A walk that leaves is followed by anything. -/
theorem leave (what : String) (x : Run α) : Follows I x (Work.leave what) :=
  ⟨fun _ _ _ => trivial⟩

theorem leave_bind (what : String) (x : Run β) (k : α → Walk β) :
    Follows I x (Work.leave what >>= k) :=
  ⟨fun _ _ _ => trivial⟩

theorem run (hI : Stable I) (x : Run α) : Follows I x x.walked := by
  refine ⟨fun s w hi => ?_⟩
  have hx := x.law.blind w.1 s (hI.covers s w hi)
  show ((x.work w.1).mapState _).Matches I (x.work s)
  cases ho : x.work w.1 <;> cases ho' : x.work s <;> rw [ho, ho'] at hx <;>
    first | exact hx.elim | trivial | exact ⟨hx.1, hI.moves _ _ _ _ hi hx.2⟩

theorem ite {c : Bool} {x x' : Run α} {y y' : Walk α} (h : Follows I x y)
    (h' : Follows I x' y') : Follows I (if c then x else x') (if c then y else y') := by
  cases c
  · exact h'
  · exact h

/-- What is done on a page of its own.  `hend` is about a page that is left behind, `hnormal` about
one whose text is put in place by `x'`. -/
theorem apart {I' : State → State × Page → Prop} {x x' : Run Flow} {y : Walk Flow}
    {place : String → String} {s : State} {w : State} {page : Page}
    (h : (y (w, ⟨"", page.dropped⟩)).Matches I' (x.work s))
    (hend : ∀ s' w' page', I' s' (w', page') → I s' (w', page.behind page'))
    (hnormal : ∀ s' w' page', I' s' (w', page') → ∃ t, x'.work s' = .done .normal t ∧
      I t (w', ⟨page.written ++ place page'.written, page'.dropped⟩)) :
    (apart place y (w, page)).Matches I
      ((do
        match ← x with
        | .normal => x'
        | flow => return flow : Run Flow).work s) := by
  rw [Run.work_bind, Work.bind_apply]
  unfold Inlay.apart
  dsimp only
  cases hy : y (w, ⟨"", page.dropped⟩) <;> cases hx : x.work s <;> rw [hy, hx] at h <;>
    first | exact h.elim | trivial | skip
  · rename_i flow w' flow' s'
    obtain ⟨rfl, hi⟩ := h
    cases flow with
    | normal =>
      obtain ⟨t, ht, hit⟩ := hnormal s' w'.1 w'.2 hi
      dsimp only
      rw [ht]
      exact ⟨rfl, hit⟩
    | breakLoop => exact ⟨rfl, hend _ _ _ hi⟩
    | continueLoop => exact ⟨rfl, hend _ _ _ hi⟩
    | giveBack v => exact ⟨rfl, hend _ _ _ hi⟩
  · exact ⟨h.1, hend _ _ _ h.2⟩

/-! ## §3. Compound statements. -/

theorem branch (hI : Stable I) (test : Run Bool) {x x' : Run Flow} {y y' : Walk Flow}
    (h : Follows I x y) (h' : Follows I x' y') :
    Follows I (branch test x x') (Inlay.branch test y y') := by
  unfold Inlay.branch
  exact (run hI test).bind (fun c => h.ite h')

theorem repeatWhile (hI : Stable I) (test : Run Bool) {x x' : Run Flow} {y y' : Walk Flow}
    (h : Follows I x y) (h' : Follows I x' y') (rounds : Nat) :
    Follows I (repeatWhile test x x' rounds) (Inlay.repeatWhile test y y' rounds) := by
  induction rounds with
  | zero => exact run hI Run.starve
  | succ n ih =>
    unfold Inlay.repeatWhile
    refine (run hI test).bind (fun c => Follows.ite (h.bind (fun flow => ?_)) h')
    cases flow with
    | normal => exact ih
    | continueLoop => exact ih
    | breakLoop => exact pure _
    | giveBack v => exact pure _

theorem forEach (hI : Stable I) (p : Power) (it : Value) {x : Value → Run Flow}
    {y : Value → Walk Flow} (h : ∀ v, Follows I (x v) (y v)) (rounds : Nat) :
    Follows I (forEach p it x rounds) (Inlay.forEach p it y rounds) := by
  induction rounds with
  | zero => exact run hI Run.starve
  | succ n ih =>
    unfold Inlay.forEach
    refine (run hI (it.advance p)).bind (fun v => ?_)
    cases v with
    | none => exact pure _
    | some v =>
      refine (h v).bind (fun flow => ?_)
      cases flow with
      | normal => exact ih
      | continueLoop => exact ih
      | breakLoop => exact pure _
      | giveBack v => exact pure _

theorem repeatFor (hI : Stable I) (p : Power) (it : Value) {x : Value → Run Flow}
    {y : Value → Walk Flow} {x' : Run Flow} {y' : Walk Flow} (h : ∀ v, Follows I (x v) (y v))
    (h' : Follows I x' y') :
    Follows I (repeatFor p it x x') (Inlay.repeatFor p it y y') := by
  unfold Inlay.repeatFor
  refine (forEach hI p it h p.rounds).bind (fun flow => ?_)
  cases flow with
  | normal => exact h'
  | breakLoop => exact pure _
  | continueLoop => exact pure _
  | giveBack v => exact pure _

theorem whileHandling (hI : Stable I) (e : Exc) {x : Run α} {y : Walk α} (h : Follows I x y) :
    Follows I (whileHandling e x) (Inlay.whileHandling e y) := by
  unfold Inlay.whileHandling
  refine (run hI _).bind (fun before => (run hI _).bind (fun _ => ?_))
  refine h.attempt.bind (fun outcome => (run hI _).bind (fun _ => ?_))
  cases outcome with
  | ok a => exact pure a
  | error e' => exact run hI (Run.throw e')

theorem guarded (hI : Stable I) {x x' : Run Flow} {y y' : Walk Flow} {f : Exc → Run Flow}
    {k : Exc → Walk Flow} (h : Follows I x y) (hf : ∀ e, Follows I (f e) (k e))
    (h' : Follows I x' y') : Follows I (guarded x f x') (Inlay.guarded y k y') := by
  unfold Inlay.guarded
  refine h.attempt.bind (fun outcome => ?_)
  match outcome with
  | .ok .normal => exact h'
  | .ok .breakLoop => exact pure _
  | .ok .continueLoop => exact pure _
  | .ok (.giveBack v) => exact pure _
  | .error e => exact (run hI (Run.stamped e)).bind (fun e => whileHandling hI e (hf e))

theorem withFinal (hI : Stable I) {x x' : Run Flow} {y y' : Walk Flow} (h : Follows I x y)
    (h' : Follows I x' y') : Follows I (withFinal x x') (Inlay.withFinal y y') := by
  unfold Inlay.withFinal
  refine h.attempt.bind (fun outcome => ?_)
  cases outcome with
  | ok flow =>
    refine h'.bind (fun flow' => ?_)
    cases flow' <;> exact pure _
  | error e =>
    refine (run hI (Run.stamped e)).bind (fun e => (whileHandling hI e h').bind (fun flow' => ?_))
    cases flow' with
    | normal => exact run hI (Run.throw e)
    | breakLoop => exact pure _
    | continueLoop => exact pure _
    | giveBack v => exact pure _

theorem managed (hI : Stable I) (manager : Value) {x : Value → Run Flow} {y : Value → Walk Flow}
    (h : ∀ v, Follows I (x v) (y v)) :
    Follows I (managed manager x) (Inlay.managed manager y) := by
  unfold Inlay.managed
  split
  · refine (h _).attempt.bind (fun outcome => ?_)
    cases outcome with
    | ok flow => exact pure flow
    | error e => exact Follows.ite (pure _) (run hI (Run.throw e))
  · exact (run hI _).bind (fun kind => run hI _)

theorem withCaught (hI : Stable I) (fr : Frame) (name : Option String) (e : Exc) {x : Run Flow}
    {y : Walk Flow} (h : Follows I x y) :
    Follows I (withCaught fr name e x) (Inlay.withCaught fr name e y) := by
  unfold Inlay.withCaught
  cases name with
  | none => exact h
  | some n =>
    refine (run hI _).bind (fun _ => h.attempt.bind (fun outcome => ?_))
    refine (run hI _).bind (fun _ => (run hI _).bind (fun _ => ?_))
    cases outcome with
    | ok flow => exact pure flow
    | error e' => exact run hI (Run.throw e')

theorem enterItem (hI : Stable I) (p : Power) (fr : Frame) (item : WithItem) {x : Run Flow}
    {y : Walk Flow} (h : Follows I x y) :
    Follows I (enterItem p fr item x) (Inlay.enterItem p fr item y) := by
  unfold Inlay.enterItem
  refine (run hI _).bind (fun manager => managed hI manager (fun entered => ?_))
  cases item.target with
  | none => exact h
  | some target => exact (run hI (target.bindTo p fr entered)).bind (fun _ => h)

theorem enterItems (hI : Stable I) (p : Power) (fr : Frame) (items : List WithItem) {x : Run Flow}
    {y : Walk Flow} (h : Follows I x y) :
    Follows I (items.foldr (Inlay.enterItem p fr) x) (items.foldr (Inlay.enterItem p fr) y) := by
  induction items with
  | nil => exact h
  | cons item items ih => exact enterItem hI p fr item ih

end Follows

/-! ## §4. Statements with walks in their slots. -/

section Slots

variable {I : State → State × Page → Prop} (p : Power) (fr : Frame)

/-- A body without slots is run like statements that are no body. -/
theorem runBodyWith_nil {m : Type → Type} [Monad m] [MonadLiftT Run m] [Attempts m]
    (ss : List Stmt) : runBodyWith (m := m) p fr [] ss = runRestWith p fr [] ss := by
  cases ss with
  | nil => rfl
  | cons s ss =>
    rw [runBodyWith, runRestWith]
    have hnone : workFor? (m := m) [] (s :: ss) = none := by
      unfold workFor?
      split <;> rfl
    rw [hnone]

theorem runBody_cons (s : Stmt) (ss : List Stmt) :
    runBody p fr (s :: ss) = do
      match ← s.run p fr with
      | .normal => runBody p fr ss
      | flow => return flow := by
  unfold runBody Stmt.run
  exact runRestWith.eq_2 p fr [] s ss

theorem runBody_singleton (s : Stmt) : runBody p fr [s] = s.run p fr := by
  rw [runBody_cons]
  have hend : ∀ flow : Flow, (match flow with
      | .normal => runBody p fr []
      | flow => Pure.pure flow) = (Pure.pure flow : Run Flow) := by
    intro flow
    cases flow <;> rfl
  calc (s.run p fr >>= fun flow => match flow with
      | .normal => runBody p fr []
      | flow => Pure.pure flow) = s.run p fr >>= Pure.pure := bind_congr hend
    _ = s.run p fr := bind_pure _

theorem Follows.runBody_cons {s : Stmt} {ss : List Stmt} {y k : Walk Flow}
    (h : Follows I (s.run p fr) y) (h' : Follows I (runBody p fr ss) k) :
    Follows I (runBody p fr (s :: ss))
      (do
        match ← y with
        | .normal => k
        | flow => return flow) := by
  rw [Inlay.runBody_cons]
  refine h.bind (fun flow => ?_)
  cases flow with
  | normal => exact h'
  | breakLoop => exact Follows.pure _
  | continueLoop => exact Follows.pure _
  | giveBack v => exact Follows.pure _

theorem runBody_append (ss ss' : List Stmt) : runBody p fr (ss ++ ss') = do
    match ← runBody p fr ss with
    | .normal => runBody p fr ss'
    | flow => return flow := by
  induction ss with
  | nil =>
    show runBody p fr ss' = (Pure.pure Flow.normal : Run Flow) >>= _
    rw [pure_bind]
  | cons s ss ih =>
    rw [List.cons_append, runBody_cons, runBody_cons, ih, bind_assoc]
    refine bind_congr (fun flow => ?_)
    cases flow <;> simp only [pure_bind]

theorem Follows.runBody_append {ss ss' : List Stmt} {y k : Walk Flow}
    (h : Follows I (runBody p fr ss) y) (h' : Follows I (runBody p fr ss') k) :
    Follows I (runBody p fr (ss ++ ss'))
      (do
        match ← y with
        | .normal => k
        | flow => return flow) := by
  rw [Inlay.runBody_append]
  refine h.bind (fun flow => ?_)
  cases flow with
  | normal => exact h'
  | breakLoop => exact Follows.pure _
  | continueLoop => exact Follows.pure _
  | giveBack v => exact Follows.pure _

/-- Does each of some bodies of code follow the walk for the same slot? -/
def Fills (I : State → State × Page → Prop) (p : Power) (fr : Frame)
    (bodies : List (Nat × List Stmt)) (slots : List (Nat × Walk Flow)) : Prop :=
  List.Forall₂ (fun b w => b.1 = w.1 ∧ Follows I (runBody p fr b.2) w.2) bodies slots

namespace Fills

variable {p} {fr} {bodies : List (Nat × List Stmt)} {slots : List (Nat × Walk Flow)}

theorem lookup (h : Fills I p fr bodies slots) (line : Nat) :
    (bodies.lookup line = none ∧ slots.lookup line = none) ∨
      ∃ b w, bodies.lookup line = some b ∧ slots.lookup line = some w ∧
        Follows I (runBody p fr b) w := by
  induction h with
  | nil => exact Or.inl ⟨rfl, rfl⟩
  | @cons b w bs ws hbw _ ih =>
    obtain ⟨l, body⟩ := b
    obtain ⟨l', walk⟩ := w
    obtain ⟨rfl, hf⟩ := hbw
    rw [List.lookup_cons, List.lookup_cons]
    cases line == l with
    | true => exact Or.inr ⟨body, walk, rfl, rfl, hf⟩
    | false => exact ih

/-- Where a statement puts off nothing that has a walk, there is nothing to fill in. -/
theorem misses (h : Fills I p fr bodies slots) {path : Nat → Option (List Step)}
    (hany : slots.any (fun l => (path l.1).isSome) = false) :
    Filling.Misses (bodies.lookup ·) path := by
  intro line hline
  rcases h.lookup line with ⟨hnone, -⟩ | ⟨b, w, -, hw, -⟩
  · simp [hnone] at hline
  · rw [List.any_eq_false] at hany
    obtain ⟨l₁, l₂, rfl, -⟩ := List.lookup_eq_some_iff.mp hw
    simpa using hany (line, w) (by simp)

/-- A body is replaced on both sides, and then one follows the other, or on none. -/
theorem body_cases (h : Fills I p fr bodies slots) (ss : List Stmt) :
    (Filling.of? (bodies.lookup ·) ss = none ∧ workFor? slots ss = none) ∨
      ∃ b w, Filling.of? (bodies.lookup ·) ss = some b ∧ workFor? slots ss = some w ∧
        Follows I (runBody p fr b) w := by
  by_cases hslot : ∃ line, ss = [.pass line]
  · obtain ⟨line, rfl⟩ := hslot
    exact h.lookup line
  · refine Or.inl ⟨?_, ?_⟩
    · unfold Filling.of?
      split
      · exact absurd ⟨_, rfl⟩ hslot
      · rfl
    · unfold workFor?
      split
      · exact absurd ⟨_, rfl⟩ hslot
      · rfl

/-- A statement that is no compound one is filled only where it puts a body off. -/
theorem simple (hI : Stable I) {s : Stmt}
    (hs : putsOff slots s = false → s.fill (bodies.lookup ·) = s)
    (hrun : ∀ {m : Type → Type} [Monad m] [MonadLiftT Run m] [Attempts m]
      (slots : List (Nat × m Flow)), s.runWith p fr slots = do
        if putsOff slots s then (Run.leave "a body in a function" : Run Unit)
        (s.runSimple p fr : Run Flow)) :
    Follows I ((s.fill (bodies.lookup ·)).runWith p fr []) (s.runWith p fr slots) := by
  rw [hrun slots]
  cases hoff : putsOff slots s with
  | true => exact Follows.leave_bind _ _ _
  | false =>
    have hnot : putsOff ([] : List (Nat × Run Flow)) s = false := by
      unfold putsOff
      split <;> rfl
    rw [hs hoff, hrun, hnot]
    exact Follows.run hI _

mutual

/-- **A filled statement follows the statement with walks in its slots.** -/
theorem stmt (hI : Stable I) (h : Fills I p fr bodies slots) :
    ∀ s : Stmt, Follows I ((s.fill (bodies.lookup ·)).runWith p fr []) (s.runWith p fr slots)
  | .conditional test body orelse => by
    rw [Stmt.fill, Stmt.runWith, Stmt.runWith]
    exact Follows.branch hI _ (h.body hI body) (h.body hI orelse)
  | .whileLoop test body orelse => by
    rw [Stmt.fill, Stmt.runWith, Stmt.runWith]
    exact Follows.repeatWhile hI _ (h.body hI body) (h.body hI orelse) p.rounds
  | .forLoop isAsync target iter body orelse => by
    rw [Stmt.fill, Stmt.runWith, Stmt.runWith]
    cases isAsync with
    | true => exact Follows.leave_bind _ _ _
    | false =>
      refine (Follows.run hI _).bind (fun it => ?_)
      exact Follows.repeatFor hI p it
        (fun v => (Follows.run hI _).bind (fun _ => h.body hI body)) (h.body hI orelse)
  | .withBlock isAsync items body => by
    rw [Stmt.fill, Stmt.runWith, Stmt.runWith]
    cases isAsync with
    | true => exact Follows.leave_bind _ _ _
    | false => exact Follows.enterItems hI p fr items (h.body hI body)
  | .tryBlock isGroup body handlers orelse finalbody => by
    rw [Stmt.fill, Stmt.runWith, Stmt.runWith]
    cases isGroup with
    | true => exact Follows.leave_bind _ _ _
    | false =>
      exact Follows.withFinal hI
        (Follows.guarded hI (h.body hI body) (fun e => h.handlers hI e handlers)
          (h.body hI orelse))
        (h.body hI finalbody)
  | .matchBlock subject cases => by
    rw [Stmt.fill, Stmt.runWith, Stmt.runWith]
    exact (Follows.run hI _).bind (fun v => h.cases hI v cases)
  | .function _ _ _ body _ _ => by
    refine simple hI (fun hoff => ?_) (fun _ => by rw [Stmt.runWith] <;> simp)
    refine fill_of_misses _ _ (h.misses ?_)
    simpa [putsOff, Stmt.slotPath?, stepTo] using hoff
  | .classBlock name bases keywords body decorators => by
    have hrun : (Stmt.classBlock name bases keywords body decorators).runWith p fr slots =
        Work.leave "classes" := by
      rw [Stmt.runWith] <;> simp
      rfl
    rw [hrun]
    exact Follows.leave _ _
  | .expression _ => simple hI (fun _ => rfl) (fun _ => by rw [Stmt.runWith] <;> simp)
  | .assign _ _ => simple hI (fun _ => rfl) (fun _ => by rw [Stmt.runWith] <;> simp)
  | .augment _ _ _ => simple hI (fun _ => rfl) (fun _ => by rw [Stmt.runWith] <;> simp)
  | .annotate _ _ _ _ => simple hI (fun _ => rfl) (fun _ => by rw [Stmt.runWith] <;> simp)
  | .delete _ => simple hI (fun _ => rfl) (fun _ => by rw [Stmt.runWith] <;> simp)
  | .pass _ => simple hI (fun _ => rfl) (fun _ => by rw [Stmt.runWith] <;> simp)
  | .breakLoop => simple hI (fun _ => rfl) (fun _ => by rw [Stmt.runWith] <;> simp)
  | .continueLoop => simple hI (fun _ => rfl) (fun _ => by rw [Stmt.runWith] <;> simp)
  | .giveBack _ => simple hI (fun _ => rfl) (fun _ => by rw [Stmt.runWith] <;> simp)
  | .throw _ _ => simple hI (fun _ => rfl) (fun _ => by rw [Stmt.runWith] <;> simp)
  | .assertion _ _ => simple hI (fun _ => rfl) (fun _ => by rw [Stmt.runWith] <;> simp)
  | .importModules _ => simple hI (fun _ => rfl) (fun _ => by rw [Stmt.runWith] <;> simp)
  | .importMembers _ _ _ => simple hI (fun _ => rfl) (fun _ => by rw [Stmt.runWith] <;> simp)
  | .globals _ => simple hI (fun _ => rfl) (fun _ => by rw [Stmt.runWith] <;> simp)
  | .nonlocals _ => simple hI (fun _ => rfl) (fun _ => by rw [Stmt.runWith] <;> simp)

theorem body (hI : Stable I) (h : Fills I p fr bodies slots) :
    ∀ ss : List Stmt,
      Follows I (runBodyWith p fr [] (fillBody (bodies.lookup ·) ss)) (runBodyWith p fr slots ss)
  | [] => Follows.pure _
  | s :: ss => by
    rw [runBodyWith_nil, fillBody, runBodyWith]
    rcases h.body_cases (s :: ss) with ⟨hof, hwork⟩ | ⟨b, w, hof, hwork, hf⟩
    · rw [hof, hwork]
      show Follows I (runRestWith p fr [] (_ :: _)) _
      rw [runRestWith]
      refine (h.stmt hI s).bind (fun flow => ?_)
      cases flow with
      | normal => exact h.rest hI ss
      | breakLoop => exact Follows.pure _
      | continueLoop => exact Follows.pure _
      | giveBack v => exact Follows.pure _
    · rw [hof, hwork]
      exact hf

theorem rest (hI : Stable I) (h : Fills I p fr bodies slots) :
    ∀ ss : List Stmt,
      Follows I (runRestWith p fr [] (fillRest (bodies.lookup ·) ss)) (runRestWith p fr slots ss)
  | [] => Follows.pure _
  | s :: ss => by
    rw [fillRest, runRestWith, runRestWith]
    refine (h.stmt hI s).bind (fun flow => ?_)
    cases flow with
    | normal => exact h.rest hI ss
    | breakLoop => exact Follows.pure _
    | continueLoop => exact Follows.pure _
    | giveBack v => exact Follows.pure _

theorem handlers (hI : Stable I) (h : Fills I p fr bodies slots) (e : Exc) :
    ∀ hs : List Handler,
      Follows I (runHandlersWith p fr [] e (fillHandlers (bodies.lookup ·) hs))
        (runHandlersWith p fr slots e hs)
  | [] => Follows.run hI _
  | .mk none name body :: rest => by
    rw [fillHandlers, runHandlersWith, runHandlersWith]
    exact Follows.withCaught hI fr name e (h.body hI body)
  | .mk (some type) name body :: rest => by
    rw [fillHandlers, runHandlersWith, runHandlersWith]
    exact (Follows.run hI _).bind (fun c =>
      Follows.ite (Follows.withCaught hI fr name e (h.body hI body)) (h.handlers hI e rest))

theorem cases (hI : Stable I) (h : Fills I p fr bodies slots) (v : Value) :
    ∀ cs : List Case,
      Follows I (runCasesWith p fr [] v (fillCases (bodies.lookup ·) cs))
        (runCasesWith p fr slots v cs)
  | [] => Follows.pure _
  | .mk pattern guard body :: rest => by
    rw [fillCases]
    unfold runCasesWith
    refine (Follows.run hI _).bind (fun bound => ?_)
    cases bound with
    | none => exact h.cases hI v rest
    | some bound =>
      refine (Follows.run hI _).bind (fun _ => ?_)
      cases guard with
      | none => exact h.body hI body
      | some e =>
        exact (Follows.run hI _).bind (fun c =>
          Follows.ite (h.body hI body) (h.cases hI v rest))

end

end Fills

end Slots

end Inlay
