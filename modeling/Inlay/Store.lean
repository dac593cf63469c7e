/-
  Inlay.Store
  ────────────────────────────────
  **THE STORE OF TEMPLATES.**

  An environment compiles templates, finds them through its loader, and keeps
  the ones used last: a hit makes a template the newest one, and what exceeds
  the size of the store is dropped from the old end.

  A store is faithful if it keeps for each name what its environment would
  load.  Worlds look the same if they differ in their stores alone, and these
  are faithful:

      fetch_unnumbered — a name is answered as if nothing was kept
      fetch_apart      — a world differs in its store alone when that is done
      fetch_faithful   — and its store is as faithful as before

  A world writes down the names that templates were got by.  Its store is
  recent if it keeps the last ones of these, each once, and no others:

      keepRecent_names — one more name, and the oldest ones dropped
      uses_fetch       — a store stays recent when a name is answered
-/
import Inlay.Program.Compile
import Inlay.World

namespace Inlay

open Inlay.Code Inlay.Program

/-! ## §1. Keeping what was used last. -/

section Recent

variable {α : Type}

/-- The entries with that of a key as the newest one, if there is one. -/
def refresh (key : String) (entries : List (String × α)) : List (String × α) :=
  match entries.lookup key with
  | none => entries
  | some v => entries.filter (·.1 ≠ key) ++ [(key, v)]

/-- The entries with a new one, the oldest ones dropped as long as there are too many. -/
def keepRecent (size : Nat) (key : String) (v : α) (entries : List (String × α)) :
    List (String × α) :=
  let es := entries.filter (·.1 ≠ key) ++ [(key, v)]
  es.drop (es.length - size)

theorem mem_of_lookup {key : String} {v : α} {entries : List (String × α)}
    (h : entries.lookup key = some v) : (key, v) ∈ entries := by
  obtain ⟨l₁, l₂, rfl, -⟩ := List.lookup_eq_some_iff.1 h
  exact List.mem_append_right _ List.mem_cons_self

/-- What is kept was kept before, or is the newest entry. -/
theorem mem_keepRecent {size : Nat} {key : String} {v : α} {entries : List (String × α)}
    {e : String × α} (h : e ∈ keepRecent size key v entries) : e ∈ entries ∨ e = (key, v) := by
  unfold keepRecent at h
  rcases List.mem_append.1 (List.mem_of_mem_drop h) with h | h
  · exact Or.inl (List.mem_filter.1 h).1
  · exact Or.inr (List.mem_singleton.1 h)

theorem mem_refresh {key : String} {entries : List (String × α)} {e : String × α}
    (h : e ∈ refresh key entries) : e ∈ entries := by
  unfold refresh at h
  split at h
  · exact h
  · rename_i v hv
    rcases List.mem_append.1 h with h | h
    · exact (List.mem_filter.1 h).1
    · rw [List.mem_singleton.1 h]
      exact mem_of_lookup hv

/-- The last names of a history, each once and the one used longest ago first, at most so many; the
history has its last name first. -/
def recent (size : Nat) (history : List String) : List String :=
  (history.eraseDups.take size).reverse

/-- So many names at most, with one more as the newest, the oldest ones dropped. -/
def keepNames (size : Nat) (name : String) (names : List String) : List String :=
  let ns := names.filter (· ≠ name) ++ [name]
  ns.drop (ns.length - size)

theorem length_recent_le (size : Nat) (history : List String) :
    (recent size history).length ≤ size := by
  unfold recent
  rw [List.length_reverse]
  exact List.length_take_le _ _

/-- Repetitions can be dropped before or after other entries. -/
theorem eraseDups_filter (p : String → Bool) (l : List String) :
    (l.filter p).eraseDups = l.eraseDups.filter p := by
  match l with
  | [] => rfl
  | a :: l =>
    have ih := eraseDups_filter p (l.filter (fun b => !b == a))
    have hcomm :
        (l.filter (fun b => !b == a)).filter p = (l.filter p).filter (fun b => !b == a) := by
      rw [List.filter_filter, List.filter_filter]
      exact List.filter_congr (fun b _ => Bool.and_comm _ _)
    rw [List.eraseDups_cons]
    by_cases ha : p a = true
    · rw [List.filter_cons_of_pos ha, List.filter_cons_of_pos ha, List.eraseDups_cons, ← ih, hcomm]
    · rw [List.filter_cons_of_neg ha, List.filter_cons_of_neg ha, ← ih, hcomm]
      refine congrArg _ (List.filter_eq_self.2 (fun b hb => ?_)).symm
      rw [Bool.not_eq_true', beq_eq_false_iff_ne]
      rintro rfl
      exact ha (List.mem_filter.1 hb).2
termination_by l.length
decreasing_by exact Nat.lt_succ_of_le (List.length_filter_le _ _)

theorem nodup_eraseDups (l : List String) : l.eraseDups.Nodup := by
  match l with
  | [] => exact List.nodup_nil
  | a :: l =>
    rw [List.eraseDups_cons]
    refine List.nodup_cons.2 ⟨fun h => ?_, nodup_eraseDups _⟩
    have ha := (List.mem_filter.1 (List.mem_eraseDups.1 h)).2
    simp at ha
termination_by l.length
decreasing_by exact Nat.lt_succ_of_le (List.length_filter_le _ _)

/-- To drop an entry from a list without repetitions, one looks at no more than one further. -/
theorem take_filter_ne {l : List String} (h : l.Nodup) (a : String) (n : Nat) :
    (l.filter (· ≠ a)).take n = ((l.take (n + 1)).filter (· ≠ a)).take n := by
  induction l generalizing n with
  | nil => rfl
  | cons b l ih =>
    obtain ⟨hb, hl⟩ := List.nodup_cons.1 h
    rw [List.take_succ_cons]
    by_cases hba : b = a
    · subst hba
      have hself : ∀ m : List String, (∀ c ∈ m, c ∈ l) → m.filter (· ≠ b) = m := fun m hm =>
        List.filter_eq_self.2 (fun c hc => decide_eq_true (fun heq : c = b => hb (heq ▸ hm c hc)))
      rw [List.filter_cons_of_neg (by simp), List.filter_cons_of_neg (by simp),
        hself l (fun _ hc => hc), hself _ (fun _ hc => List.mem_of_mem_take hc), List.take_take,
        Nat.min_self]
    · rw [List.filter_cons_of_pos (by simpa using hba),
        List.filter_cons_of_pos (by simpa using hba)]
      cases n with
      | zero => rfl
      | succ n => rw [List.take_succ_cons, List.take_succ_cons, ih hl]

/-- **One more name is the newest one**, and the oldest ones are dropped. -/
theorem recent_cons (size : Nat) (name : String) (history : List String) :
    recent (size + 1) (name :: history) =
      keepNames (size + 1) name (recent (size + 1) history) := by
  have hfilter : (fun b => !b == name) = (fun b : String => decide (b ≠ name)) := by
    funext b
    by_cases h : b = name <;> simp [h]
  unfold recent keepNames
  dsimp only
  rw [List.eraseDups_cons, eraseDups_filter, hfilter, List.take_succ_cons, List.reverse_cons,
    take_filter_ne (nodup_eraseDups history), List.reverse_take, List.filter_reverse,
    List.length_append, List.length_singleton, List.length_reverse, Nat.add_sub_add_right,
    List.drop_append_of_le_length]
  rw [List.length_reverse]
  exact Nat.sub_le _ _

end Recent

/-! ## §2. Compiling. -/

/-- The source that an environment compiles for a given one. -/
def Environment.prepared (env : Environment) (source : String) : String :=
  if env.keepsTrailingNewline then source else Indent.dropLastLineString source

/-- What is said of a name that cannot be one. -/
def nameFaultMessage : NameFault → String
  | .constant n => "identifier field can't represent '" ++ n ++ "' constant"
  | .underscore => "can't capture name '_' in patterns"

/-- What is said of code of several lines that starts in front of the first line. -/
def misplacedMessage (r : Region) : String :=
  "AST node column range (" ++ toString r.column ++ ", " ++ toString r.stopColumn
    ++ ") for line range (" ++ toString r.firstLine ++ ", " ++ toString r.lastLine
    ++ ") is not valid"

/-- The exception for code that nests too deep. -/
def depthExc (whenRead : Bool) : Exc :=
  .saying .recursion (if whenRead then "maximum recursion depth exceeded during ast construction"
    else "maximum recursion depth exceeded")

/-- The exception for a refused program. -/
def refusalExc : Refusal → Exc
  | .nul => .saying .value "source code string cannot contain null bytes"
  | .buried line => .of .key [.int line]
  | .tooDeep whenRead => depthExc whenRead
  | .unfitLine => .saying .overflow "Python int too large to convert to C int"
  | .misplaced r => .saying .value (misplacedMessage r)
  | .misnamed f => .saying .value (nameFaultMessage f)
  | .faulty _ _ | .illegal => .saying .malformed CodeFault.unreadable.message

/-- The exception for a source without a program. -/
def compileExc : CompileFault → Exc
  | .reported r => .ofReport (.malformed r)
  | .refused r => refusalExc r

/-- The template that a source is compiled to. -/
def Environment.compile (env : Environment) (source : String) (name filename : Option String) :
    Except Exc CompiledTemplate :=
  let s := env.prepared source
  match programOfSource ⟨name, filename, some s⟩ s with
  | .error f => .error (compileExc f)
  | .ok program => .ok ⟨0, name, filename, s, program⟩

/-! ## §3. Loading. -/

/-- The exception for a source that is not loaded. -/
def LoadFault.toExc : LoadFault → Exc
  | .notFound m => .ofReport (.notFound m)
  | .undecodable f =>
    match f with
    | .bytes _ _ _ _ _ => .saying .unicodeDecode f.message
    | .unmarked _ => .saying .unicode f.message
  | .unknownEncoding name => .saying .lookup ("unknown encoding: " ++ name)
  | .binaryEncoding name =>
    .saying .lookup ("'" ++ name
      ++ "' is not a text encoding; use codecs.open() to handle arbitrary codecs")
  | .failed cls message _ => .saying cls message

/-- What is said without a loader. -/
def noLoaderMessage (name : String) : String :=
  "Template '" ++ name ++ "' not found (no loader configured)"

/-- The exception for asking for a source without a loader. -/
def noLoaderExc : Exc :=
  .of .attributeMissing [.text "'NoneType' object has no attribute 'get_source'"]
    (some "get_source")

/-- The template that is loaded and compiled for a name. -/
def Environment.load (env : Environment) (name : String) : Except Exc CompiledTemplate :=
  match env.loader with
  | none => .error (.ofReport (.notFound (noLoaderMessage name)))
  | some l =>
    match l.source name with
    | .error f => .error f.toExc
    | .ok answer => env.compile answer.text (some name) answer.filename

/-! ## §4. Worlds with a store. -/

/-- The environment with another store. -/
def Environment.withCache (env : Environment) (cache : List (String × CompiledTemplate)) :
    Environment := { env with cache }

/-- The environment with a template kept under a name, if it keeps any. -/
def Environment.keeping (env : Environment) (name : String) (t : CompiledTemplate) : Environment :=
  if 0 < env.cacheSize then env.withCache (keepRecent env.cacheSize.toNat name t env.cache) else env

namespace World

/-- The template with the number of the next one that is compiled, and the world after that. -/
def numbered (w : World) (t : CompiledTemplate) : CompiledTemplate × World :=
  ({ t with id := w.compiled }, { w with compiled := w.compiled + 1 })

/-- The world after a template was got by a name. -/
def noted (w : World) (name : String) : World := { w with history := name :: w.history }

/-- The world with the environment changed. -/
def mapEnvironment (f : Environment → Environment) (w : World) : World :=
  { w with environment := f w.environment }

/-- Compile a template. -/
def compile (w : World) (source : String) (name filename : Option String) :
    Except Exc (CompiledTemplate × World) :=
  (w.environment.compile source name filename).map w.numbered

/-- The template of a name: the one that is kept, or a new one. -/
def fetch (w : World) (name : String) : Except Exc (CompiledTemplate × World) :=
  match w.environment.cache.lookup name with
  | some t =>
    .ok (t, (w.mapEnvironment (fun env => env.withCache (refresh name env.cache))).noted name)
  | none =>
    (w.environment.load name).map (fun t => ((w.numbered t).1,
      ((w.numbered t).2.mapEnvironment (·.keeping name (w.numbered t).1)).noted name))

/-- The world with its store cleared. -/
def cleared (w : World) : World := { w.mapEnvironment (·.withCache []) with history := [] }

end World

/-! ## §5. Stores that cannot be seen. -/

/-- The template without the number that tells it apart. -/
def CompiledTemplate.unnumbered (t : CompiledTemplate) : CompiledTemplate := { t with id := 0 }

/-- Does the store keep for each name what would be loaded for it? -/
def Environment.IsFaithful (env : Environment) : Prop :=
  ∀ name t, (name, t) ∈ env.cache → env.load name = .ok t.unnumbered

/-- The environment without its store. -/
def Environment.withoutStore (env : Environment) : Environment :=
  { env with cacheSize := 0, cache := [] }

/-- The world without what it has stored, and without the record of templates compiled and got. -/
def World.withoutStore (w : World) : World :=
  { w with environment := w.environment.withoutStore, compiled := 0, history := [] }

/-- Do two worlds differ in their stores alone, which are faithful? -/
structure World.LooksLike (w w' : World) : Prop where
  apart : w.withoutStore = w'.withoutStore
  faithful : w.environment.IsFaithful
  faithful' : w'.environment.IsFaithful

/-- A compiled template has no number before it is given one. -/
theorem Environment.compile_unnumbered {env : Environment} {source : String}
    {name filename : Option String} {t : CompiledTemplate}
    (h : env.compile source name filename = .ok t) : t.unnumbered = t := by
  unfold Environment.compile at h
  dsimp only at h
  split at h
  · cases h
  · cases h
    rfl

theorem Environment.load_unnumbered {env : Environment} {name : String} {t : CompiledTemplate}
    (h : env.load name = .ok t) : t.unnumbered = t := by
  unfold Environment.load at h
  split at h
  · cases h
  · split at h
    · cases h
    · exact Environment.compile_unnumbered h

/-- A store stays faithful when it keeps what was loaded. -/
theorem Environment.IsFaithful.keeping {env : Environment} (h : env.IsFaithful) {name : String}
    {t : CompiledTemplate} (ht : env.load name = .ok t.unnumbered) :
    (env.keeping name t).IsFaithful := by
  unfold Environment.keeping
  split
  · intro name' t' hmem
    rcases mem_keepRecent hmem with hmem | heq
    · exact h name' t' hmem
    · obtain ⟨rfl, rfl⟩ := Prod.mk.inj heq
      exact ht
  · exact h

theorem Environment.withoutStore_keeping (env : Environment) (name : String)
    (t : CompiledTemplate) : (env.keeping name t).withoutStore = env.withoutStore := by
  unfold Environment.keeping
  split <;> rfl

/-- The answer to a name in a world, without the number of the template. -/
def World.answer (w : World) (name : String) : Except Exc (CompiledTemplate × World) :=
  (w.fetch name).map (fun p => (p.1.unnumbered, p.2))

namespace World

variable {w w' : World}

/-- What is loaded for a name does not depend on the store. -/
theorem LooksLike.load_eq (h : w.LooksLike w') (name : String) :
    w.environment.load name = w'.environment.load name :=
  congrArg (·.environment.load name) h.apart

theorem LooksLike.compile_eq (h : w.LooksLike w') (source : String)
    (name filename : Option String) :
    w.environment.compile source name filename = w'.environment.compile source name filename :=
  congrArg (·.environment.compile source name filename) h.apart

theorem LooksLike.heap_eq (h : w.LooksLike w') : w.heap = w'.heap :=
  congrArg (·.heap) h.apart

/-- Does a change of worlds leave the environment alone, whatever is stored? -/
structure IsApart (f : World → World) : Prop where
  environment : ∀ w, (f w).environment = w.environment
  history : ∀ w, (f w).history = w.history
  withoutStore : ∀ w, (f w).withoutStore = f w.withoutStore

theorem LooksLike.changed (h : w.LooksLike w') {f : World → World} (hf : IsApart f) :
    (f w).LooksLike (f w') where
  apart := by rw [hf.withoutStore, hf.withoutStore, h.apart]
  faithful := by
    rw [hf.environment]
    exact h.faithful
  faithful' := by
    rw [hf.environment]
    exact h.faithful'

/-- The environments may change apart from their stores, if what they load stays the same. -/
theorem LooksLike.mapEnvironment (h : w.LooksLike w') {f : Environment → Environment}
    (hapart : ∀ env env' : Environment, env.withoutStore = env'.withoutStore →
      (f env).withoutStore = (f env').withoutStore)
    (hfaithful : ∀ env : Environment, env.IsFaithful → (f env).IsFaithful) :
    (w.mapEnvironment f).LooksLike (w'.mapEnvironment f) where
  apart := by
    have henv := hapart _ _ (congrArg World.environment h.apart)
    show { w.withoutStore with environment := (f w.environment).withoutStore }
      = { w'.withoutStore with environment := (f w'.environment).withoutStore }
    rw [h.apart, henv]
  faithful := hfaithful _ h.faithful
  faithful' := hfaithful _ h.faithful'

/-- A source is compiled in one way, whatever is stored and however much was compiled. -/
theorem LooksLike.compile (h : w.LooksLike w') (source : String) (name filename : Option String) :
    (∃ e, w.compile source name filename = .error e ∧ w'.compile source name filename = .error e)
      ∨ ∃ p p', w.compile source name filename = .ok p
        ∧ w'.compile source name filename = .ok p'
        ∧ p.1.unnumbered = p'.1.unnumbered ∧ p.2.LooksLike p'.2 := by
  unfold World.compile
  rw [← h.compile_eq]
  cases w.environment.compile source name filename with
  | error e => exact Or.inl ⟨e, rfl, rfl⟩
  | ok t => exact Or.inr ⟨_, _, rfl, rfl, rfl, h.apart, h.faithful, h.faithful'⟩

/-- **A name is answered as if nothing was kept.** -/
theorem fetch_unnumbered (h : w.environment.IsFaithful) (name : String) :
    (w.fetch name).map (·.1.unnumbered) = w.environment.load name := by
  unfold fetch
  cases hlookup : w.environment.cache.lookup name with
  | some t => exact (h name t (mem_of_lookup hlookup)).symm
  | none =>
    dsimp only
    cases hload : w.environment.load name with
    | error e => rfl
    | ok t => exact congrArg Except.ok (Environment.load_unnumbered hload)

theorem fetch_kept {name : String} {t : CompiledTemplate}
    (h : w.environment.cache.lookup name = some t) :
    w.fetch name = .ok
      (t, (w.mapEnvironment (fun env => env.withCache (refresh name env.cache))).noted name) := by
  unfold fetch
  rw [h]

theorem fetch_loaded {name : String} {t : CompiledTemplate}
    (h : w.environment.cache.lookup name = none) (ht : w.environment.load name = .ok t) :
    w.fetch name = .ok ((w.numbered t).1,
      ((w.numbered t).2.mapEnvironment (·.keeping name (w.numbered t).1)).noted name) := by
  unfold fetch
  rw [h, ht]
  rfl

/-- How a name is answered: from the store, or with a template that is loaded. -/
theorem fetch_cases {name : String} {t : CompiledTemplate} {u : World}
    (h : w.fetch name = .ok (t, u)) :
    (w.environment.cache.lookup name = some t
        ∧ u = (w.mapEnvironment (fun env => env.withCache (refresh name env.cache))).noted name)
      ∨ ∃ t', w.environment.load name = .ok t' ∧ t = (w.numbered t').1
        ∧ u = ((w.numbered t').2.mapEnvironment (·.keeping name t)).noted name := by
  cases hlookup : w.environment.cache.lookup name with
  | some t' =>
    rw [fetch_kept hlookup] at h
    obtain ⟨rfl, rfl⟩ := Prod.mk.inj (Except.ok.inj h)
    exact Or.inl ⟨rfl, rfl⟩
  | none =>
    cases hload : w.environment.load name with
    | error e =>
      unfold fetch at h
      rw [hlookup, hload] at h
      cases h
    | ok t' =>
      rw [fetch_loaded hlookup hload] at h
      obtain ⟨rfl, rfl⟩ := Prod.mk.inj (Except.ok.inj h)
      exact Or.inr ⟨t', rfl, rfl, rfl⟩

/-- An answer changes nothing but the store. -/
theorem fetch_apart {name : String} {t : CompiledTemplate} {u : World}
    (h : w.fetch name = .ok (t, u)) : u.withoutStore = w.withoutStore := by
  rcases fetch_cases h with ⟨-, rfl⟩ | ⟨t', -, rfl, rfl⟩
  · rfl
  · exact congrArg
      (fun env : Environment => { w with environment := env, compiled := 0, history := [] })
      (w.environment.withoutStore_keeping name (w.numbered t').1)

/-- The store stays faithful when a name was answered. -/
theorem fetch_faithful (h : w.environment.IsFaithful) {name : String} {t : CompiledTemplate}
    {u : World} (ht : w.fetch name = .ok (t, u)) : u.environment.IsFaithful := by
  rcases fetch_cases ht with ⟨-, rfl⟩ | ⟨t', hload, rfl, rfl⟩
  · exact fun name' t hmem => h name' t (mem_refresh hmem)
  · exact h.keeping (hload.trans (congrArg _ (Environment.load_unnumbered hload).symm))

theorem answer_cases {name : String} {p : CompiledTemplate × World} (h : w.answer name = .ok p) :
    ∃ t, w.fetch name = .ok (t, p.2) ∧ p.1 = t.unnumbered := by
  unfold answer at h
  cases hfetch : w.fetch name with
  | error e =>
    rw [hfetch] at h
    cases h
  | ok q =>
    rw [hfetch] at h
    obtain rfl := Except.ok.inj h
    exact ⟨q.1, rfl, rfl⟩

theorem answer_apart {name : String} {p : CompiledTemplate × World} (h : w.answer name = .ok p) :
    p.2.withoutStore = w.withoutStore := by
  obtain ⟨t, ht, -⟩ := answer_cases h
  exact fetch_apart ht

/-- **A name is answered in one way, whatever is stored.** -/
theorem LooksLike.answer (h : w.LooksLike w') (name : String) :
    (∃ e, w.answer name = .error e ∧ w'.answer name = .error e)
      ∨ ∃ t u u', w.answer name = .ok (t, u) ∧ w'.answer name = .ok (t, u') ∧ u.LooksLike u' := by
  have hload := fetch_unnumbered h.faithful name
  have hload' := fetch_unnumbered h.faithful' name
  rw [← h.load_eq] at hload'
  unfold World.answer
  cases hfetch : w.fetch name with
  | error e =>
    rw [hfetch] at hload
    cases hfetch' : w'.fetch name with
    | error e' =>
      rw [hfetch', ← hload] at hload'
      exact Or.inl ⟨e, rfl, congrArg _ (Except.error.inj hload')⟩
    | ok p =>
      rw [hfetch', ← hload] at hload'
      cases hload'
  | ok p =>
    rw [hfetch] at hload
    cases hfetch' : w'.fetch name with
    | error e' =>
      rw [hfetch', ← hload] at hload'
      cases hload'
    | ok p' =>
      rw [hfetch', ← hload] at hload'
      refine Or.inr ⟨_, p.2, p'.2, rfl, ?_, ?_, fetch_faithful h.faithful hfetch,
        fetch_faithful h.faithful' hfetch'⟩
      · exact congrArg (fun t => Except.ok (t, p'.2)) (Except.ok.inj hload')
      · rw [fetch_apart hfetch, fetch_apart hfetch', h.apart]

end World

/-! ## §6. What is kept. -/

/-- The names of the templates that are kept, the one used longest ago first. -/
def Environment.keptNames (env : Environment) : List String := env.cache.map Prod.fst

theorem refresh_names {α : Type} {name : String} {entries : List (String × α)} {v : α}
    (h : entries.lookup name = some v) :
    (refresh name entries).map Prod.fst
      = (entries.map Prod.fst).filter (· ≠ name) ++ [name] := by
  unfold refresh
  rw [h, List.map_append, List.filter_map]
  rfl

theorem keepRecent_names {α : Type} (size : Nat) (name : String) (v : α)
    (entries : List (String × α)) :
    (keepRecent size name v entries).map Prod.fst
      = keepNames size name (entries.map Prod.fst) := by
  unfold keepRecent keepNames
  dsimp only
  rw [List.map_drop, List.map_append, List.filter_map, List.length_append, List.length_append,
    List.length_map]
  rfl

namespace World

/-- Does the store keep the names used last, and no others? -/
def IsRecent (w : World) : Prop :=
  w.environment.keptNames = recent w.environment.cacheSize.toNat w.history

/-- Does a world come from another one by templates being got, as far as the store is concerned? -/
structure Uses (w w' : World) : Prop where
  size : w'.environment.cacheSize = w.environment.cacheSize
  history : w.history <:+ w'.history
  recent : w.IsRecent → w'.IsRecent

theorem Uses.refl (w : World) : w.Uses w := ⟨rfl, List.suffix_rfl, id⟩

theorem Uses.trans {w w' w'' : World} (h : w.Uses w') (h' : w'.Uses w'') : w.Uses w'' :=
  ⟨h'.size.trans h.size, h.history.trans h'.history, fun hw => h'.recent (h.recent hw)⟩

/-- Nothing is got where the store and the record stay as they are. -/
theorem uses_of_eq {w w' : World} (henvironment : w'.environment = w.environment)
    (hhistory : w'.history = w.history) : w.Uses w' := by
  refine ⟨by rw [henvironment], hhistory ▸ List.suffix_rfl, fun h => ?_⟩
  unfold IsRecent
  rw [henvironment, hhistory]
  exact h

/-- A name that is kept is the newest one afterwards, and nothing is dropped. -/
theorem isRecent_refreshed {w : World} (h : w.IsRecent) {name : String} {t : CompiledTemplate}
    (ht : w.environment.cache.lookup name = some t) :
    ((w.mapEnvironment (fun env => env.withCache (refresh name env.cache))).noted
      name).IsRecent := by
  have hnames : w.environment.cache.map Prod.fst
      = recent w.environment.cacheSize.toNat w.history := h
  have hmem : name ∈ recent w.environment.cacheSize.toNat w.history := by
    rw [← hnames]
    exact List.mem_map_of_mem (f := Prod.fst) (mem_of_lookup ht)
  show (refresh name w.environment.cache).map Prod.fst
    = recent w.environment.cacheSize.toNat (name :: w.history)
  rw [refresh_names ht, hnames]
  have hlength := length_recent_le w.environment.cacheSize.toNat w.history
  cases hsize : w.environment.cacheSize.toNat with
  | zero =>
    rw [hsize] at hmem
    exact absurd hmem List.not_mem_nil
  | succ n =>
    rw [hsize] at hmem hlength
    have hshorter : ((recent (n + 1) w.history).filter (· ≠ name)).length
        < (recent (n + 1) w.history).length :=
      List.length_filter_lt_length_iff_exists.2 ⟨name, hmem, by simp⟩
    rw [recent_cons]
    unfold keepNames
    dsimp only
    rw [List.length_append, List.length_singleton, Nat.sub_eq_zero_of_le (by omega)]
    rfl

/-- A name that was loaded is the newest one afterwards, if any are kept. -/
theorem isRecent_keeping {w : World} (h : w.IsRecent) (name : String) (t : CompiledTemplate) :
    ((w.mapEnvironment (·.keeping name t)).noted name).IsRecent := by
  have hnames : w.environment.cache.map Prod.fst
      = recent w.environment.cacheSize.toNat w.history := h
  show (w.environment.keeping name t).keptNames
    = recent (w.environment.keeping name t).cacheSize.toNat (name :: w.history)
  unfold Environment.keeping
  split
  · rename_i hsize
    show (keepRecent w.environment.cacheSize.toNat name t w.environment.cache).map Prod.fst
      = recent w.environment.cacheSize.toNat (name :: w.history)
    obtain ⟨n, hn⟩ := Nat.exists_eq_succ_of_ne_zero
      (show w.environment.cacheSize.toNat ≠ 0 by omega)
    rw [keepRecent_names, hnames, hn, recent_cons]
  · rename_i hsize
    have hzero : w.environment.cacheSize.toNat = 0 := by omega
    rw [hzero]
    rw [hzero] at hnames
    exact hnames

/-- **A store stays recent when a name is answered.** -/
theorem uses_fetch {w : World} {name : String} {t : CompiledTemplate} {u : World}
    (h : w.fetch name = .ok (t, u)) : w.Uses u ∧ u.history = name :: w.history := by
  rcases fetch_cases h with ⟨hkept, rfl⟩ | ⟨t', -, rfl, rfl⟩
  · exact ⟨⟨rfl, List.suffix_cons _ _, fun hw => isRecent_refreshed hw hkept⟩, rfl⟩
  · refine ⟨⟨?_, List.suffix_cons _ _, fun hw => ?_⟩, rfl⟩
    · show (w.environment.keeping name (w.numbered t').1).cacheSize = w.environment.cacheSize
      unfold Environment.keeping
      split <;> rfl
    · exact isRecent_keeping (w := (w.numbered t').2) hw name (w.numbered t').1

theorem uses_answer {w : World} {name : String} {p : CompiledTemplate × World}
    (h : w.answer name = .ok p) : w.Uses p.2 := by
  obtain ⟨t, ht, -⟩ := answer_cases h
  exact (uses_fetch ht).1

end World

end Inlay
