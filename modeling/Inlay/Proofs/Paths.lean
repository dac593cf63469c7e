/-
  Inlay.Proofs.Paths
  ────────────────────────────────
  **WHERE A NAME LEADS.**

  A name is read as a path and followed from each search directory in turn.
  The names of entries, joined by slashes, are read as these entries again,
  and followed from a directory they lead to the file that lies there.

  A name may also say `..`, or start at the root.  As long as it does
  neither in a way that leads out of the directory where it starts, the file
  that is read lies below a search directory:

      StaysInside     — no front of a relative path climbs more than it descends
      source_isInside — what such a name reads lies below a search directory
-/
import Inlay.Loader
import Mathlib

namespace Inlay

/-! ## §1. Splitting what was joined. -/

namespace Text

section Pieces

variable {d : Char} {w t : List Char}

theorem piecesBetween_piece (hw : d ∉ w) (limit : Nat) (piece : List Char) :
    piecesBetween [d] limit piece 0 w = [piece.reverse ++ w] := by
  induction w generalizing piece with
  | nil => rw [piecesBetween, List.append_nil]
  | cons c w ih =>
    have hc : d ≠ c := fun heq => hw (heq ▸ List.mem_cons_self)
    have htail : d ∉ w := fun hmem => hw (List.mem_cons_of_mem c hmem)
    cases limit with
    | zero => rw [piecesBetween, List.reverseAux_eq]
    | succ n =>
      have hprefix : [d].isPrefixOf (c :: w) = false := by
        rw [List.isPrefixOf, beq_false_of_ne hc, Bool.false_and]
      rw [piecesBetween, hprefix, ih htail, List.reverse_cons, List.append_assoc]
      rfl

theorem piecesBetween_separator (hw : d ∉ w) (n : Nat) (piece : List Char) :
    piecesBetween [d] (n + 1) piece 0 (w ++ d :: t)
      = (piece.reverse ++ w) :: piecesBetween [d] n [] 0 t := by
  induction w generalizing piece with
  | nil =>
    have hprefix : [d].isPrefixOf (d :: t) = true := by simp
    rw [List.nil_append, piecesBetween, hprefix, List.append_nil]
    rfl
  | cons c w ih =>
    have hc : d ≠ c := fun heq => hw (heq ▸ List.mem_cons_self)
    have htail : d ∉ w := fun hmem => hw (List.mem_cons_of_mem c hmem)
    have hprefix : [d].isPrefixOf (c :: (w ++ d :: t)) = false := by
      rw [List.isPrefixOf, beq_false_of_ne hc, Bool.false_and]
    rw [List.cons_append, piecesBetween, hprefix, if_neg Bool.false_ne_true, ih htail,
      List.reverse_cons, List.append_assoc]
    rfl

end Pieces

/-- **Splitting a joined text gives the pieces.** -/
theorem splitOn_intercalate {d : Char} {ls : List (List Char)} {limit : Nat} (hne : ls ≠ [])
    (h : ∀ l ∈ ls, d ∉ l) (hlimit : ls.length ≤ limit + 1) :
    splitOn [d] limit (List.intercalate [d] ls) = ls := by
  unfold splitOn
  induction ls generalizing limit with
  | nil => exact absurd rfl hne
  | cons l ls ih =>
    have hl : d ∉ l := h l List.mem_cons_self
    cases ls with
    | nil => rw [List.intercalate_singleton, piecesBetween_piece hl]; rfl
    | cons m ms =>
      rw [List.length_cons] at hlimit
      obtain ⟨n, rfl⟩ : ∃ n, limit = n + 1 := ⟨limit - 1, by rw [List.length_cons] at hlimit; omega⟩
      rw [List.intercalate_cons_cons, List.append_assoc, List.singleton_append,
        piecesBetween_separator hl, ih (List.cons_ne_nil m ms)
          (fun l' hl' => h l' (List.mem_cons_of_mem l hl')) (Nat.le_of_succ_le_succ hlimit)]
      rfl

theorem length_le_length_intercalate (d : Char) (ls : List (List Char)) :
    ls.length ≤ (List.intercalate [d] ls).length + 1 := by
  induction ls with
  | nil => exact Nat.zero_le _
  | cons l ls ih =>
    cases ls with
    | nil => exact Nat.le_add_left 1 _
    | cons m ms =>
      rw [List.intercalate_cons_cons, List.length_append, List.length_append, List.length_singleton]
      simp only [List.length_cons] at ih ⊢
      omega

end Text

namespace Loader

/-! ## §2. Names of entries as paths. -/

section Entries

variable {s : String} {rel : List String}

theorem isEntryName_ne (h : isEntryName s = true) : s ≠ "" ∧ s ≠ "." ∧ s ≠ ".." := by
  simp only [isEntryName, Bool.and_eq_true, decide_eq_true_eq] at h
  exact ⟨h.1.1.1, h.1.1.2, h.1.2⟩

theorem slash_notMem_of_isEntryName (h : isEntryName s = true) : '/' ∉ s.toList := by
  simp only [isEntryName, Bool.and_eq_true] at h
  intro hmem
  have hslash := List.all_eq_true.1 h.2 _ hmem
  exact absurd hslash (by decide)

theorem partsOf_intercalate (hne : rel ≠ []) (h : ∀ p ∈ rel, isEntryName p = true) :
    Path.partsOf ("/".intercalate rel) = rel := by
  have hsplit : Text.splitOn ['/'] ("/".intercalate rel).length ("/".intercalate rel).toList
      = rel.map String.toList := by
    rw [String.toList_intercalate, ← String.length_toList, String.toList_intercalate]
    refine Text.splitOn_intercalate (mt List.map_eq_nil_iff.1 hne) (fun l hl => ?_)
      (Text.length_le_length_intercalate _ _)
    obtain ⟨p, hp, rfl⟩ := List.mem_map.1 hl
    exact slash_notMem_of_isEntryName (h p hp)
  have hpieces : (rel.map String.toList).map String.ofList = rel := by
    rw [List.map_map]
    exact (List.map_congr_left fun p _ => String.ofList_toList).trans (List.map_id rel)
  unfold Path.partsOf
  rw [hsplit, hpieces]
  refine List.filter_eq_self.2 fun p hp => ?_
  obtain ⟨hempty, hpoint, -⟩ := isEntryName_ne (h p hp)
  simp [hempty, hpoint]

theorem rootOf_intercalate (hne : rel ≠ []) (h : ∀ p ∈ rel, isEntryName p = true) :
    Path.rootOf ("/".intercalate rel) = "" := by
  obtain ⟨p, rest, rfl⟩ := List.exists_cons_of_ne_nil hne
  have hp := h p List.mem_cons_self
  obtain ⟨c, cs, hcs⟩ : ∃ c cs, p.toList = c :: cs := by
    refine List.exists_cons_of_ne_nil fun hnil => (isEntryName_ne hp).1 ?_
    exact String.toList_eq_nil_iff.1 hnil
  have hc : c ≠ '/' := fun heq =>
    slash_notMem_of_isEntryName hp (hcs ▸ heq ▸ List.mem_cons_self)
  have hstart : ∃ t, ("/".intercalate (p :: rest)).toList = c :: t := by
    rw [String.toList_intercalate, List.map_cons, hcs]
    cases rest with
    | nil => exact ⟨cs, List.intercalate_singleton⟩
    | cons q rest =>
      rw [List.map_cons, List.intercalate_cons_cons]
      exact ⟨_, rfl⟩
  obtain ⟨t, ht⟩ := hstart
  unfold Path.rootOf
  rw [ht, List.takeWhile_cons_of_neg (by simpa using hc)]
  rfl

/-- The names of some entries, joined by slashes, are read as these entries again. -/
theorem ofString_intercalate (hne : rel ≠ []) (h : ∀ p ∈ rel, isEntryName p = true) :
    Path.ofString ("/".intercalate rel) = ⟨"", rel⟩ := by
  unfold Path.ofString
  rw [rootOf_intercalate hne h, partsOf_intercalate hne h]

end Entries

/-! ## §3. Directories and files. -/

namespace FileTree

variable {t : FileTree} {f : File} {dir here rel : List String}

/-- What a file lies in is a directory. -/
theorem hasDirectory_of_prefix (hf : f ∈ t.files) (hbelow : dir <+: f.parts)
    (hne : dir ≠ f.parts) : t.hasDirectory dir = true := by
  unfold hasDirectory leadsToDirectory
  rw [Bool.or_eq_true]
  refine Or.inr (List.any_eq_true.2 ⟨f.parts, List.mem_map_of_mem hf, ?_⟩)
  rw [Bool.and_eq_true, decide_eq_true_eq]
  exact ⟨List.isPrefixOf_iff_prefix.2 hbelow, hne⟩

/-- No file is a directory. -/
theorem not_hasDirectory_of_mem (hf : f ∈ t.files) : t.hasDirectory f.parts = false := by
  have h := List.all_eq_true.1 t.apart f hf
  rwa [Bool.not_eq_true'] at h

theorem walk?_append (xs ys : List String) :
    t.walk? here (xs ++ ys) = (t.walk? here xs).bind (t.walk? · ys) := by
  induction xs generalizing here with
  | nil => rfl
  | cons c xs ih =>
    rw [List.cons_append, walk?, walk?]
    split
    · exact ih
    · rfl

theorem resolve?_join (base : Path) (rel : List String) :
    t.resolve? (base.join ⟨"", rel⟩) = (t.resolve? base).bind (t.walk? · rel) :=
  walk?_append base.parts rel

/-- The names of the entries on the way lead to a file. -/
theorem walk?_toFile (hf : f ∈ t.files) (hparts : f.parts = dir ++ rel) :
    t.walk? dir rel = some f.parts := by
  induction rel generalizing dir with
  | nil => rw [hparts, List.append_nil]; rfl
  | cons c rel ih =>
    have hdir : t.hasDirectory dir = true := by
      refine hasDirectory_of_prefix hf (hparts ▸ List.prefix_append _ _) fun heq => ?_
      have hlength := congrArg List.length (heq.trans hparts)
      rw [List.length_append, List.length_cons] at hlength
      omega
    have hc : c ≠ ".." := by
      refine (isEntryName_ne (List.all_eq_true.1 f.named c ?_)).2.2
      rw [hparts]
      exact List.mem_append_right _ List.mem_cons_self
    rw [walk?, if_pos hdir, if_neg hc]
    exact ih (by rw [hparts, List.append_assoc]; rfl)

theorem file?_eq_some {p : Path} (h : t.file? p = some f) :
    f ∈ t.files ∧ t.resolve? p = some f.parts := by
  obtain ⟨parts, hparts, hfind⟩ := Option.bind_eq_some_iff.1 h
  have hsame := List.find?_some hfind
  rw [decide_eq_true_eq] at hsame
  exact ⟨List.mem_of_find?_eq_some hfind, hsame ▸ hparts⟩

theorem isSome_file? {p : Path} (hf : f ∈ t.files) (h : t.resolve? p = some f.parts) :
    (t.file? p).isSome = true := by
  unfold file?
  rw [h, Option.bind_eq_bind, Option.bind_some, List.find?_isSome]
  exact ⟨f, hf, decide_eq_true rfl⟩

/-- A file below a directory is found there by the parts that it is listed with. -/
theorem isSome_file?_of_below {base : Path} (h : rel ∈ t.below base) :
    rel ≠ [] ∧ (∀ p ∈ rel, isEntryName p = true) ∧ (t.file? (base.join ⟨"", rel⟩)).isSome = true := by
  unfold below at h
  split at h
  · exact absurd h List.not_mem_nil
  · rename_i dir hbase
    split at h
    · obtain ⟨f, hf, rfl⟩ := List.mem_map.1 h
      obtain ⟨hf, hlies⟩ := List.mem_filter.1 hf
      rw [Bool.and_eq_true, decide_eq_true_eq, List.isPrefixOf_iff_prefix] at hlies
      obtain ⟨⟨rel, hrel⟩, hne⟩ := hlies
      have hdrop : f.parts.drop dir.length = rel := by rw [← hrel, List.drop_left]
      rw [hdrop]
      refine ⟨?_, fun p hp => List.all_eq_true.1 f.named p ?_, isSome_file? hf ?_⟩
      · rintro rfl
        exact hne ((List.append_nil dir).symm.trans hrel)
      · exact hrel ▸ List.mem_append_right _ hp
      · rw [resolve?_join, hbase, Option.bind_some, walk?_toFile hf hrel.symm]
    · exact absurd h List.not_mem_nil

end FileTree

/-! ## §4. Names that stay inside. -/

/-- Is the path a relative one of which no front climbs more often than it descends? -/
def Path.StaysInside (p : Path) : Prop :=
  p.root = "" ∧ ∀ front, front <+: p.parts → 2 * front.count ".." ≤ front.length

theorem Path.staysInside_iff {p : Path} : p.StaysInside ↔
    p.root = "" ∧ ∀ n, n < p.parts.length + 1 → 2 * (p.parts.take n).count ".." ≤ n := by
  unfold StaysInside
  refine and_congr_right fun _ => ⟨fun h n hn => ?_, fun h front hfront => ?_⟩
  · have hle := h _ (List.take_prefix n p.parts)
    rwa [List.length_take, Nat.min_eq_left (Nat.le_of_lt_succ hn)] at hle
  · have hle := h front.length (Nat.lt_succ_of_le hfront.length_le)
    rwa [← List.prefix_iff_eq_take.1 hfront] at hle

instance (p : Path) : Decidable p.StaysInside := decidable_of_iff _ Path.staysInside_iff.symm

/-- Does the file lie below one of some search directories? -/
def FileTree.IsInside (t : FileTree) (paths : List Path) (f : File) : Prop :=
  ∃ base ∈ paths, ∃ dir, t.resolve? base = some dir ∧ t.hasDirectory dir = true
    ∧ dir <+: f.parts ∧ dir ≠ f.parts

namespace FileTree

variable {t : FileTree} {f : File} {dir rel there : List String}

/-- Followed from some directories below a place, the parts lead to something below that place. -/
theorem prefix_of_walk? (extra : List String)
    (hrel : ∀ front, front <+: rel → 2 * front.count ".." ≤ front.length + extra.length)
    (h : t.walk? (dir ++ extra) rel = some there) : dir <+: there := by
  induction rel generalizing extra with
  | nil =>
    obtain rfl := Option.some.inj h
    exact List.prefix_append _ _
  | cons c rel ih =>
    rw [walk?] at h
    split at h
    · by_cases hc : c = ".."
      · subst hc
        -- climbing stays below the place because there is a directory to leave
        have hextra : extra ≠ [] := by
          rintro rfl
          have hfirst := hrel [".."] (List.prefix_append [".."] rel)
          simp at hfirst
        rw [if_pos rfl, List.dropLast_append_of_ne_nil hextra] at h
        refine ih _ (fun front hfront => ?_) h
        have hlonger := hrel (".." :: front) (List.prefix_cons_inj _ |>.2 hfront)
        have hlength := List.length_pos_iff.2 hextra
        rw [List.count_cons_self, List.length_cons] at hlonger
        rw [List.length_dropLast]
        omega
      · rw [if_neg hc, List.append_assoc] at h
        refine ih _ (fun front hfront => ?_) h
        have hlonger := hrel (c :: front) (List.prefix_cons_inj _ |>.2 hfront)
        rw [List.count_cons_of_ne hc, List.length_cons] at hlonger
        rw [List.length_append, List.length_singleton]
        omega
    · cases h

/-- Parts that stay inside lead from a search path to a file below it, if there are any. -/
theorem lies_of_walk? (hrel : ∀ front, front <+: rel → 2 * front.count ".." ≤ front.length)
    (hf : f ∈ t.files) (h : t.walk? dir rel = some f.parts) :
    (rel = [] ∧ dir = f.parts) ∨ (t.hasDirectory dir = true ∧ dir <+: f.parts ∧ dir ≠ f.parts) := by
  cases rel with
  | nil => exact Or.inl ⟨rfl, Option.some.inj h⟩
  | cons c rel =>
    have hdir : t.hasDirectory dir = true := by
      rw [walk?] at h
      split at h
      · assumption
      · cases h
    refine Or.inr ⟨hdir, prefix_of_walk? [] hrel (by rwa [List.append_nil]), ?_⟩
    rintro rfl
    rw [not_hasDirectory_of_mem hf] at hdir
    cases hdir

end FileTree

section Search

variable {paths : List Path} {encoding name : String} {tree : FileTree}

theorem firstFile?_eq_some {p : Path} {f : File} (h : firstFile? paths tree name = some (p, f)) :
    ∃ base ∈ paths, p = base.join (.ofString name) ∧ tree.file? p = some f := by
  obtain ⟨before, base, after, rfl, hbase, -⟩ := List.findSome?_eq_some_iff.1 h
  obtain ⟨f', hf', heq⟩ := Option.map_eq_some_iff.1 hbase
  obtain ⟨rfl, rfl⟩ := Prod.mk.inj heq
  exact ⟨base, List.mem_append_right _ List.mem_cons_self, rfl, hf'⟩

/-- A source from a directory is the text of the first file of its name. -/
theorem source_directory {s : Source} (h : (directory paths encoding tree).source name = .ok s) :
    ∃ p f, firstFile? paths tree name = some (p, f) ∧ fileText encoding f = .ok s.text
      ∧ s.filename = some p.toString := by
  rw [source, directorySource] at h
  split at h
  · rename_i p f hfirst
    refine ⟨p, f, hfirst, ?_⟩
    cases htext : fileText encoding f with
    | error e => rw [htext] at h; cases h
    | ok text =>
      rw [htext] at h
      obtain rfl := Except.ok.inj h
      exact ⟨rfl, rfl⟩
  · cases h

end Search

/-- **A name that stays inside reads a file below a search directory.**  A name without parts is the
one that can also read a search path which is a file itself. -/
theorem source_isInside {paths : List Path} {encoding name : String} {tree : FileTree} {s : Source}
    (hname : (Path.ofString name).StaysInside)
    (h : (directory paths encoding tree).source name = .ok s) :
    ∃ p f, firstFile? paths tree name = some (p, f) ∧ fileText encoding f = .ok s.text
      ∧ s.filename = some p.toString
      ∧ (tree.IsInside paths f
        ∨ (Path.ofString name).parts = [] ∧ ∃ base ∈ paths, tree.resolve? base = some f.parts) := by
  obtain ⟨p, f, hfirst, htext, hfilename⟩ := source_directory h
  refine ⟨p, f, hfirst, htext, hfilename, ?_⟩
  obtain ⟨base, hbase, rfl, hfile⟩ := firstFile?_eq_some hfirst
  obtain ⟨hf, hresolve⟩ := FileTree.file?_eq_some hfile
  obtain ⟨hroot, hparts⟩ := hname
  generalize Path.ofString name = q at hroot hparts hresolve ⊢
  obtain ⟨root, rel⟩ := q
  obtain rfl : root = "" := hroot
  rw [FileTree.resolve?_join] at hresolve
  obtain ⟨dir, hdir, hwalk⟩ := Option.bind_eq_some_iff.1 hresolve
  rcases FileTree.lies_of_walk? hparts hf hwalk with ⟨hnil, rfl⟩ | ⟨hdirectory, hprefix, hne⟩
  · exact Or.inr ⟨hnil, base, hbase, hdir⟩
  · exact Or.inl ⟨base, hbase, dir, hdir, hdirectory, hprefix, hne⟩

/-! ## §5. Names that lead out. -/

/-- A working directory with a search directory and a file beside it, and a file at the root. -/
def neighbours : FileTree where
  home := ["site"]
  folders := []
  files :=
    [⟨["site", "t", "a"], [120], by decide⟩, ⟨["site", "t", "sub", "b"], [], by decide⟩,
     ⟨["site", "secret"], [115], by decide⟩, ⟨["key"], [107], by decide⟩]
  named := by decide
  apart := by decide

theorem ofName_utf8 : Text.Encoding.ofName "utf8" = .known .utf8 := by
  have hform : Text.Encoding.nameForm "utf8" = "utf8" := by cbv
  have hlabel : Text.encodingAliases.lookup "utf8" = some "utf_8" := by cbv
  unfold Text.Encoding.ofName
  simp only [hform, hlabel, Option.some_or]
  decide

/-- A file that is found is read; its bytes may be given as a text in UTF-8. -/
theorem source_of_firstFile? {paths : List Path} {tree : FileTree} {name : String} {p : Path}
    {f : File} {cs : List Char} (hfirst : firstFile? paths tree name = some (p, f))
    (hbytes : Text.Encoding.utf8.decode f.bytes = .ok cs) :
    (directory paths "utf8" tree).source name
      = .ok ⟨String.ofList (Text.foldNewlines cs), some p.toString⟩ := by
  rw [source, directorySource, hfirst]
  simp only [fileText, ofName_utf8, hbytes]
  rfl

theorem decode_x : Text.Encoding.utf8.decode [120] = .ok ['x'] := by cbv

theorem source_isInside_climbing :
    (Path.ofString "sub/../a").StaysInside
      ∧ (directory [⟨"", ["t"]⟩] "utf8" neighbours).source "sub/../a"
          = .ok ⟨"x", some "t/sub/../a"⟩
      ∧ ∃ p f, firstFile? [⟨"", ["t"]⟩] neighbours "sub/../a" = some (p, f)
        ∧ fileText "utf8" f = .ok "x" ∧ some "t/sub/../a" = some p.toString
        ∧ (neighbours.IsInside [⟨"", ["t"]⟩] f
          ∨ (Path.ofString "sub/../a").parts = []
            ∧ ∃ base ∈ [⟨"", ["t"]⟩], neighbours.resolve? base = some f.parts) := by
  have hpath : Path.ofString "sub/../a" = ⟨"", ["sub", "..", "a"]⟩ := by cbv
  have hstays : (Path.ofString "sub/../a").StaysInside := by
    rw [hpath]
    decide
  have hfirst : firstFile? [⟨"", ["t"]⟩] neighbours "sub/../a"
      = some (⟨"", ["t", "sub", "..", "a"]⟩, ⟨["site", "t", "a"], [120], by decide⟩) := by cbv
  have hsource : (directory [⟨"", ["t"]⟩] "utf8" neighbours).source "sub/../a"
      = .ok ⟨"x", some "t/sub/../a"⟩ :=
    source_of_firstFile? hfirst decode_x
  exact ⟨hstays, hsource, source_isInside hstays hsource⟩

/-- Does a name, looked for in one search path, read a file that does not lie below it? -/
def FileTree.LeadsOut (t : FileTree) (base : Path) (name : String) : Prop :=
  ∃ s p f, (directory [base] "utf8" t).source name = .ok s ∧ firstFile? [base] t name = some (p, f)
    ∧ ¬ t.IsInside [base] f

theorem leadsOut_of_firstFile? {t : FileTree} {base p : Path} {name : String} {f : File}
    {cs : List Char} {dir : List String} (hfirst : firstFile? [base] t name = some (p, f))
    (hbytes : Text.Encoding.utf8.decode f.bytes = .ok cs) (hdir : t.resolve? base = some dir)
    (hf : dir <+: f.parts → dir = f.parts) : t.LeadsOut base name := by
  refine ⟨_, p, f, source_of_firstFile? hfirst hbytes, hfirst, ?_⟩
  rintro ⟨base', hbase, dir', hresolve, -, hbelow, hne⟩
  obtain rfl := List.mem_singleton.1 hbase
  obtain rfl := Option.some.inj (hdir.symm.trans hresolve)
  exact hne (hf hbelow)

/-- **A name may lead out of the search directories**: by climbing, from the root, or by naming
nothing where the search path is a file. -/
theorem source_leadsOut :
    neighbours.LeadsOut ⟨"", ["t"]⟩ "../secret" ∧ neighbours.LeadsOut ⟨"", ["t"]⟩ "/key"
      ∧ neighbours.LeadsOut ⟨"", ["t", "a"]⟩ "" := by
  have hdir : neighbours.resolve? ⟨"", ["t"]⟩ = some ["site", "t"] := by cbv
  have hsecret : firstFile? [⟨"", ["t"]⟩] neighbours "../secret"
      = some (⟨"", ["t", "..", "secret"]⟩, ⟨["site", "secret"], [115], by decide⟩) := by cbv
  have hkey : firstFile? [⟨"", ["t"]⟩] neighbours "/key"
      = some (⟨"/", ["key"]⟩, ⟨["key"], [107], by decide⟩) := by cbv
  have hfile : firstFile? [⟨"", ["t", "a"]⟩] neighbours ""
      = some (⟨"", ["t", "a"]⟩, ⟨["site", "t", "a"], [120], by decide⟩) := by cbv
  have hdirFile : neighbours.resolve? ⟨"", ["t", "a"]⟩ = some ["site", "t", "a"] := by cbv
  have hdecode : Text.Encoding.utf8.decode [115] = .ok ['s'] := by cbv
  have hdecodeKey : Text.Encoding.utf8.decode [107] = .ok ['k'] := by cbv
  exact ⟨leadsOut_of_firstFile? hsecret hdecode hdir (by decide),
    leadsOut_of_firstFile? hkey hdecodeKey hdir (by decide),
    leadsOut_of_firstFile? hfile decode_x hdirFile (fun _ => rfl)⟩

end Loader

end Inlay
