/-
  Inlay.Proofs.Listing
  ────────────────────────────────
  **LISTING AND LOADING AGREE.**

  A loader is a tree of choices.  What it lists and what it answers with can
  be said of its leaves, the loaders that are no choices, from left to right:

      mem_names_iff      — it lists what its leaves list
      firstSource_leaves — it answers as the first leaf that knows the name

  A leaf knows every name that it lists: a table has a source for it, and a
  directory a file.  So choices can be nested in any way, or not at all.
-/
import Inlay.Proofs.Paths
import Inlay.Store

namespace Inlay.Loader

/-! ## §1. Lists of names. -/

section Names

variable {names : List String} {a b : List String} {name : String}

theorem mem_sortedNames : name ∈ sortedNames names ↔ name ∈ names :=
  List.mem_eraseDups.trans (List.mergeSort_perm _ _).mem_iff

/-- What is left without repetitions is in the same order. -/
theorem eraseDups_sublist (l : List String) : l.eraseDups.Sublist l := by
  match l with
  | [] => exact List.Sublist.refl []
  | x :: l =>
    rw [List.eraseDups_cons]
    exact ((eraseDups_sublist _).trans List.filter_sublist).cons_cons x
termination_by l.length
decreasing_by exact Nat.lt_succ_of_le (List.length_filter_le _ _)

/-- Names are listed in strictly ascending order. -/
theorem pairwise_sortedNames (names : List String) : (sortedNames names).Pairwise (· < ·) := by
  have htrans : ∀ a b c : String, decide (a ≤ b) = true → decide (b ≤ c) = true →
      decide (a ≤ c) = true := fun a b c hab hbc =>
    decide_eq_true (String.le_trans (of_decide_eq_true hab) (of_decide_eq_true hbc))
  have htotal : ∀ a b : String, (decide (a ≤ b) || decide (b ≤ a)) = true := by
    intro a b
    rw [Bool.or_eq_true, decide_eq_true_eq, decide_eq_true_eq]
    exact String.le_total a b
  have hsorted : (names.mergeSort (fun a b => a ≤ b)).Pairwise (fun a b => decide (a ≤ b)) :=
    List.pairwise_mergeSort htrans htotal names
  have hle := hsorted.sublist (eraseDups_sublist _)
  exact hle.imp₂ (fun a b hab hne => Std.lt_of_le_of_ne (of_decide_eq_true hab) hne)
    (nodup_eraseDups _)

/-- Lists in strictly ascending order are the same if they have the same names. -/
theorem eq_of_pairwise (ha : a.Pairwise (· < ·)) (hb : b.Pairwise (· < ·))
    (h : ∀ name, name ∈ a ↔ name ∈ b) : a = b := by
  have hnodup {l : List String} (hl : l.Pairwise (· < ·)) : l.Nodup :=
    hl.imp fun {x y} (hlt : x < y) (heq : x = y) => String.lt_irrefl y (heq ▸ hlt)
  refine List.Perm.eq_of_pairwise (fun x y _ _ (hxy : x < y) (hyx : y < x) => ?_) ha hb
    ((List.perm_ext_iff_of_nodup (hnodup ha) (hnodup hb)).2 h)
  exact absurd (String.lt_trans hxy hyx) (String.lt_irrefl x)

end Names

/-! ## §2. Leaves. -/

mutual

/-- The loaders of a tree that are no choices, from left to right. -/
def leaves : Loader → List Loader
  | choice loaders => leavesOfAll loaders
  | table sources => [table sources]
  | lookup answer => [lookup answer]
  | directory paths encoding tree => [directory paths encoding tree]

/-- The leaves of some loaders. -/
def leavesOfAll : List Loader → List Loader
  | [] => []
  | l :: ls => l.leaves ++ leavesOfAll ls

end

theorem leaves_choice (ls : List Loader) : (choice ls).leaves = ls.flatMap leaves := by
  rw [leaves]
  induction ls with
  | nil => rfl
  | cons l ls ih => rw [leavesOfAll, ih, List.flatMap_cons]

theorem names_choice (ls : List Loader) : (choice ls).names = sortedNames (ls.flatMap names) := by
  rw [names]
  congr 1
  induction ls with
  | nil => rfl
  | cons l ls ih => rw [namesOfAll, ih, List.flatMap_cons]

/-- Is the loader no choice? -/
def isLeaf : Loader → Bool
  | choice _ => false
  | _ => true

theorem leaves_of_isLeaf {l : Loader} (h : l.isLeaf = true) : l.leaves = [l] := by
  cases l with
  | choice ls => cases h
  | table sources => rfl
  | lookup answer => rfl
  | directory paths encoding tree => rfl

/-- What holds of leaves, and of a choice if it holds of its loaders, holds of every loader. -/
theorem induction {P : Loader → Prop} (leaf : ∀ l, l.isLeaf = true → P l)
    (node : ∀ ls, (∀ l ∈ ls, P l) → P (choice ls)) : ∀ l, P l
  | choice ls => node ls fun l _ => induction leaf node l
  | table _ => leaf _ rfl
  | lookup _ => leaf _ rfl
  | directory _ _ _ => leaf _ rfl

/-- A loader lists what its leaves list. -/
theorem mem_names_iff {name : String} (l : Loader) :
    name ∈ l.names ↔ ∃ leaf ∈ l.leaves, name ∈ leaf.names := by
  induction l using Loader.induction with
  | leaf l h =>
    rw [leaves_of_isLeaf h]
    exact ⟨fun hname => ⟨l, List.mem_singleton_self l, hname⟩,
      fun ⟨_, hl, hname⟩ => List.mem_singleton.1 hl ▸ hname⟩
  | node ls ih =>
    rw [names_choice, mem_sortedNames, leaves_choice, List.mem_flatMap]
    constructor
    · rintro ⟨l, hl, hname⟩
      obtain ⟨leaf, hleaf, hname⟩ := (ih l hl).1 hname
      exact ⟨leaf, List.mem_flatMap.2 ⟨l, hl, hleaf⟩, hname⟩
    · rintro ⟨leaf, hleaf, hname⟩
      obtain ⟨l, hl, hleaf⟩ := List.mem_flatMap.1 hleaf
      exact ⟨l, hl, (ih l hl).2 ⟨leaf, hleaf, hname⟩⟩

theorem pairwise_names (l : Loader) : l.names.Pairwise (· < ·) := by
  cases l with
  | table sources => exact pairwise_sortedNames _
  | choice ls => exact pairwise_sortedNames _
  | lookup answer => exact .nil
  | directory paths encoding tree => exact pairwise_sortedNames _

theorem isLeaf_of_mem_leaves (l : Loader) : ∀ leaf ∈ l.leaves, leaf.isLeaf = true := by
  induction l using Loader.induction with
  | leaf l h =>
    intro leaf hleaf
    rw [leaves_of_isLeaf h] at hleaf
    obtain rfl := List.mem_singleton.1 hleaf
    exact h
  | node ls ih =>
    intro leaf hleaf
    rw [leaves_choice] at hleaf
    obtain ⟨l, hl, hleaf⟩ := List.mem_flatMap.1 hleaf
    exact ih l hl leaf hleaf

/-- The choice of all leaves has no choice below it, and the same leaves. -/
theorem leaves_choice_leaves (l : Loader) : (choice l.leaves).leaves = l.leaves := by
  have hself : ∀ leaf ∈ l.leaves, leaf.leaves = [leaf] := fun leaf hleaf =>
    leaves_of_isLeaf (isLeaf_of_mem_leaves l leaf hleaf)
  rw [leaves_choice, List.flatMap_def, List.map_congr_left hself, ← List.flatMap_def,
    List.flatMap_singleton']

/-! ## §3. Answers. -/

/-- Does the answer say that the name is not known? -/
def IsUnknown : Except LoadFault Source → Prop
  | .error (.notFound _) => True
  | _ => False

/-- Is the answer the one of the first of some loaders that knows the name, or that the name is not
known, if none of them knows it? -/
def IsFirstAnswer (ls : List Loader) (name : String) (answer : Except LoadFault Source) : Prop :=
  (∃ before l after, ls = before ++ l :: after ∧ (∀ b ∈ before, IsUnknown (b.source name))
      ∧ ¬ IsUnknown (l.source name) ∧ answer = l.source name)
    ∨ (∀ l ∈ ls, IsUnknown (l.source name)) ∧ IsUnknown answer

section Answers

variable {name : String} {l : Loader} {ls : List Loader} {answer : Except LoadFault Source}

theorem firstSource_unknown (h : IsUnknown (l.source name)) :
    firstSource (l :: ls) name = firstSource ls name := by
  rw [firstSource]
  split
  · rfl
  · rename_i hother
    unfold IsUnknown at h
    split at h
    · rename_i heq
      exact absurd heq (hother _)
    · exact h.elim

theorem firstSource_known (h : ¬ IsUnknown (l.source name)) :
    firstSource (l :: ls) name = some (l.source name) := by
  rw [firstSource]
  split
  · rename_i heq
    rw [heq] at h
    exact absurd trivial h
  · rfl

theorem firstSource_append (ls ms : List Loader) (name : String) :
    firstSource (ls ++ ms) name = (firstSource ls name).or (firstSource ms name) := by
  induction ls with
  | nil => rfl
  | cons l ls ih =>
    rw [List.cons_append]
    by_cases h : IsUnknown (l.source name)
    · rw [firstSource_unknown h, firstSource_unknown h, ih]
    · rw [firstSource_known h, firstSource_known h, Option.some_or]

theorem firstSource_eq_none_iff :
    firstSource ls name = none ↔ ∀ l ∈ ls, IsUnknown (l.source name) := by
  induction ls with
  | nil => exact ⟨fun _ _ h => absurd h List.not_mem_nil, fun _ => rfl⟩
  | cons l ls ih =>
    rw [List.forall_mem_cons, ← ih]
    by_cases h : IsUnknown (l.source name)
    · rw [firstSource_unknown h, and_iff_right h]
    · rw [firstSource_known h, iff_false_left (Option.some_ne_none _)]
      exact fun h' => h h'.1

theorem firstSource_eq_some (h : firstSource ls name = some answer) :
    ∃ before l after, ls = before ++ l :: after ∧ (∀ b ∈ before, IsUnknown (b.source name))
      ∧ ¬ IsUnknown (l.source name) ∧ answer = l.source name := by
  induction ls with
  | nil => cases h
  | cons l ls ih =>
    by_cases hl : IsUnknown (l.source name)
    · rw [firstSource_unknown hl] at h
      obtain ⟨before, m, after, rfl, hbefore, hm⟩ := ih h
      exact ⟨l :: before, m, after, rfl, List.forall_mem_cons.2 ⟨hl, hbefore⟩, hm⟩
    · rw [firstSource_known hl] at h
      exact ⟨[], l, ls, rfl, fun _ h => absurd h List.not_mem_nil, hl, (Option.some.inj h).symm⟩

/-- A choice does what asking its loaders one after the other does. -/
theorem firstSource_choice (ls : List Loader) (name : String) :
    firstSource [choice ls] name = firstSource ls name := by
  cases h : firstSource ls name with
  | none =>
    have hunknown : IsUnknown ((choice ls).source name) := by
      rw [source, h]
      exact trivial
    rw [firstSource_unknown hunknown]
    rfl
  | some answer =>
    have hsource : (choice ls).source name = answer := by rw [source, h]
    obtain ⟨-, l, -, -, -, hl, rfl⟩ := firstSource_eq_some h
    rw [firstSource_known (hsource ▸ hl), hsource]

/-- A loader does what asking its leaves one after the other does. -/
theorem firstSource_leaves (l : Loader) (name : String) :
    firstSource l.leaves name = firstSource [l] name := by
  induction l using Loader.induction with
  | leaf l h => rw [leaves_of_isLeaf h]
  | node ls ih =>
    rw [firstSource_choice, leaves_choice]
    induction ls with
    | nil => rfl
    | cons l ls ihls =>
      rw [List.flatMap_cons, firstSource_append, ih l List.mem_cons_self,
        ihls fun m hm => ih m (List.mem_cons_of_mem l hm), ← firstSource_append,
        List.singleton_append]

/-- **A loader answers as its first leaf that knows the name.** -/
theorem isFirstAnswer_source (l : Loader) (name : String) :
    IsFirstAnswer l.leaves name (l.source name) := by
  by_cases h : IsUnknown (l.source name)
  · refine Or.inr ⟨firstSource_eq_none_iff.1 ?_, h⟩
    rw [firstSource_leaves, firstSource_unknown h]
    rfl
  · refine Or.inl (firstSource_eq_some ?_)
    rw [firstSource_leaves, firstSource_known h]

/-- A loader knows the names that one of its leaves knows. -/
theorem isUnknown_iff (l : Loader) (name : String) :
    IsUnknown (l.source name) ↔ ∀ leaf ∈ l.leaves, IsUnknown (leaf.source name) := by
  rw [← firstSource_eq_none_iff, firstSource_leaves, firstSource_eq_none_iff,
    List.forall_mem_singleton]

/-- Loaders with the same leaves answer alike, but for how they say that they do not know a name. -/
theorem source_eq_of_leaves {l l' : Loader} (h : l'.leaves = l.leaves)
    (hknown : ¬ IsUnknown (l.source name)) : l'.source name = l.source name := by
  have hknown' : ¬ IsUnknown (l'.source name) := by rwa [isUnknown_iff, h, ← isUnknown_iff]
  have hfirst : firstSource [l'] name = firstSource [l] name := by
    rw [← firstSource_leaves, ← firstSource_leaves, h]
  rw [firstSource_known hknown', firstSource_known hknown] at hfirst
  exact Option.some.inj hfirst

end Answers

/-! ## §4. Leaves know what they list. -/

section Leaves

variable {name : String}

theorem tableSource_ok_iff {sources : List (String × String)} :
    (∃ s, (table sources).source name = .ok s) ↔ name ∈ (table sources).names := by
  have hnames : name ∈ (table sources).names ↔ (sources.lookup name).isSome = true := by
    rw [names, mem_sortedNames, List.mem_map, List.lookup_isSome_iff]
    exact exists_congr fun p => and_congr_right fun _ => by rw [beq_iff_eq, eq_comm]
  rw [hnames, source, tableSource]
  cases sources.lookup name with
  | none => exact iff_of_false (by rintro ⟨_, h⟩; cases h) Bool.false_ne_true
  | some text => exact iff_of_true ⟨_, rfl⟩ rfl

/-- A table has a source, or does not know the name. -/
theorem tableSource_ok_or {sources : List (String × String)} :
    ¬ IsUnknown ((table sources).source name) ↔ ∃ s, (table sources).source name = .ok s := by
  rw [source, tableSource]
  cases sources.lookup name with
  | none => exact iff_of_false (fun h => h trivial) (by rintro ⟨_, h⟩; cases h)
  | some text => exact iff_of_true not_false ⟨_, rfl⟩

theorem fileText_isKnown (encoding : String) (f : File) (g : String → Source) :
    ¬ IsUnknown ((fileText encoding f).map g) := by
  unfold fileText
  split
  · exact not_false
  · exact not_false
  · split
    · exact not_false
    · exact not_false

/-- The name that a file is listed with leads to it, or to one of an earlier directory. -/
theorem isSome_firstFile? {paths : List Path} {encoding : String} {tree : FileTree}
    (h : name ∈ (directory paths encoding tree).names) :
    (firstFile? paths tree name).isSome = true := by
  rw [names, mem_sortedNames] at h
  obtain ⟨base, hbase, hname⟩ := List.mem_flatMap.1 h
  obtain ⟨rel, hrel, rfl⟩ := List.mem_map.1 hname
  obtain ⟨hne, hnamed, hfile⟩ := FileTree.isSome_file?_of_below hrel
  unfold firstFile?
  rw [List.findSome?_isSome_iff]
  refine ⟨base, hbase, ?_⟩
  rw [ofString_intercalate hne hnamed, Option.isSome_map]
  exact hfile

/-- A leaf knows the names that it lists. -/
theorem isKnown_of_leaf {l : Loader} (hleaf : l.isLeaf = true) (h : name ∈ l.names) :
    ¬ IsUnknown (l.source name) := by
  cases l with
  | table sources => exact tableSource_ok_or.2 (tableSource_ok_iff.2 h)
  | lookup answer => exact absurd h List.not_mem_nil
  | directory paths encoding tree =>
    obtain ⟨⟨p, f⟩, hfirst⟩ := Option.isSome_iff_exists.1 (isSome_firstFile? h)
    rw [source, directorySource, hfirst]
    exact fileText_isKnown encoding f _
  | choice ls => cases hleaf

/-- A loader knows the names that it lists. -/
theorem isKnown_of_mem_names {l : Loader} (h : name ∈ l.names) : ¬ IsUnknown (l.source name) := by
  obtain ⟨leaf, hleaf, hname⟩ := (mem_names_iff l).1 h
  exact fun hunknown => isKnown_of_leaf (isLeaf_of_mem_leaves l leaf hleaf) hname
    ((isUnknown_iff l name).1 hunknown leaf hleaf)

/-- Tables, however choices nest above them, have sources for the names that they list. -/
theorem source_ok_iff_of_tables {l : Loader}
    (htables : ∀ leaf ∈ l.leaves, ∃ sources, leaf = .table sources) :
    (∃ s, l.source name = .ok s) ↔ name ∈ l.names := by
  constructor
  · rintro ⟨s, hs⟩
    have hknown : ¬ IsUnknown (l.source name) := by
      rw [hs]
      exact not_false
    rcases isFirstAnswer_source l name with ⟨before, leaf, after, hleaves, -, -, hanswer⟩ | ⟨-, h⟩
    · have hleaf : leaf ∈ l.leaves := hleaves ▸ List.mem_append_right _ List.mem_cons_self
      obtain ⟨sources, rfl⟩ := htables leaf hleaf
      exact (mem_names_iff l).2 ⟨_, hleaf, tableSource_ok_iff.1 ⟨s, hanswer.symm.trans hs⟩⟩
    · exact absurd h hknown
  · intro hname
    rcases isFirstAnswer_source l name with ⟨before, leaf, after, hleaves, -, hleaf, hanswer⟩ | ⟨-, h⟩
    · obtain ⟨sources, rfl⟩ :=
        htables leaf (hleaves ▸ List.mem_append_right _ List.mem_cons_self)
      rw [hanswer]
      exact tableSource_ok_or.1 hleaf
    · exact absurd h (isKnown_of_mem_names hname)

end Leaves

/-- **Listing and loading agree.**  Names are listed in strictly ascending order, and every listed
name is known.  A loader answers as its first leaf that knows the name; so loaders with the same
leaves list the same names, and have the same sources.  Where all leaves are tables, there are
sources for the listed names and for no others. -/
theorem names_agree_sources (l : Loader) :
    l.names.Pairwise (· < ·)
      ∧ (∀ name ∈ l.names, ¬ IsUnknown (l.source name))
      ∧ (∀ name, IsFirstAnswer l.leaves name (l.source name))
      ∧ (choice l.leaves).leaves = l.leaves
      ∧ (∀ l' : Loader, l'.leaves = l.leaves → l'.names = l.names
        ∧ ∀ name, (IsUnknown (l'.source name) ↔ IsUnknown (l.source name))
          ∧ (¬ IsUnknown (l.source name) → l'.source name = l.source name))
      ∧ ((∀ leaf ∈ l.leaves, ∃ sources, leaf = .table sources) →
        ∀ name, (∃ s, l.source name = .ok s) ↔ name ∈ l.names) := by
  refine ⟨pairwise_names l, fun name h => isKnown_of_mem_names h, isFirstAnswer_source l,
    leaves_choice_leaves l, fun l' hleaves => ⟨?_, fun name => ⟨?_, ?_⟩⟩,
    fun htables name => source_ok_iff_of_tables htables⟩
  · refine eq_of_pairwise (pairwise_names l') (pairwise_names l) fun name => ?_
    rw [mem_names_iff l', hleaves, ← mem_names_iff]
  · rw [isUnknown_iff l', hleaves, ← isUnknown_iff]
  · exact source_eq_of_leaves hleaves

/-- Tables in a choice of choices. -/
def nestedTables : Loader := choice [choice [table [("b", "x")], choice []], table [("a", "y")]]

/-- A function in front of those tables, and a directory behind them. -/
def mixedLoader : Loader :=
  choice [lookup (fun name => .ok (if name = "a" then some (.bare "z") else none)), nestedTables,
    directory [⟨"", ["t"]⟩] "utf8" neighbours]

theorem names_agree_sources_nested :
    ("sub/b" ∈ mixedLoader.names ∧ ¬ IsUnknown (mixedLoader.source "sub/b"))
      ∧ ((choice mixedLoader.leaves).leaves = mixedLoader.leaves
        ∧ (choice mixedLoader.leaves).names = mixedLoader.names
        ∧ mixedLoader.source "a" = .ok ⟨"z", some "<function>"⟩
        ∧ (choice mixedLoader.leaves).source "a" = mixedLoader.source "a")
      ∧ ((∀ leaf ∈ nestedTables.leaves, ∃ sources, leaf = .table sources)
        ∧ ((∃ s, nestedTables.source "b" = .ok s) ↔ "b" ∈ nestedTables.names)) := by
  have hmem : "sub/b" ∈ mixedLoader.names := by
    rw [mem_names_iff]
    refine ⟨directory [⟨"", ["t"]⟩] "utf8" neighbours, ?_, ?_⟩
    · simp [mixedLoader, leaves_choice, leaves]
    · have hbelow : ["sub", "b"] ∈ neighbours.below ⟨"", ["t"]⟩ := by decide
      rw [names, mem_sortedNames]
      exact List.mem_flatMap.2 ⟨_, List.mem_singleton_self _, List.mem_map_of_mem hbelow⟩
  have htables : ∀ leaf ∈ nestedTables.leaves, ∃ sources, leaf = .table sources := by
    have hleaves : nestedTables.leaves = [table [("b", "x")], table [("a", "y")]] := rfl
    rw [hleaves, List.forall_mem_cons, List.forall_mem_singleton]
    exact ⟨⟨_, rfl⟩, ⟨_, rfl⟩⟩
  have hsource : mixedLoader.source "a" = .ok ⟨"z", some "<function>"⟩ := by
    simp [mixedLoader, source, firstSource, lookupSource]
  have hknown : ¬ IsUnknown (mixedLoader.source "a") := by
    rw [hsource]
    exact not_false
  obtain ⟨-, hfound, -, hflat, hsame, -⟩ := names_agree_sources mixedLoader
  obtain ⟨hnames, hsources⟩ := hsame _ hflat
  obtain ⟨-, -, -, -, -, hexact⟩ := names_agree_sources nestedTables
  exact ⟨⟨hmem, hfound _ hmem⟩, ⟨hflat, hnames, hsource, (hsources "a").2 hknown⟩,
    htables, hexact htables "b"⟩

end Inlay.Loader
