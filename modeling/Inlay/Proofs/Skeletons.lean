/-
  Inlay.Proofs.Skeletons
  ────────────────────────────────
  **WHAT A SKELETON SAYS ABOUT ITS HEADERS.**

  Headers that stand on one line each are the rows of the code that their
  skeleton is read from.  So the skeleton is one of three shapes: clauses
  with a `pass` each, a `match` with its cases, or a line that only starts
  with the word `match`.  In each the slot of a header is where the words of
  the headers say, and the bodies in the slots are what stands below the
  headers in the code:

      rows_of_headers — the rows that the headers are assembled to
      places          — the slots of a skeleton and what fills them
-/
import Inlay.Proofs.Bodies

namespace Inlay.Code

open Inlay.Header Inlay.Text

/-! ## §1. Headers on one line. -/

/-- Does the code open or continue a block, and holds it no line boundary? -/
structure IsSingleLine (header : String) : Prop where
  block : opensBlock header = true ∨ (clauseWord? header).isSome = true
  line : ∀ c ∈ header.toList, isLineBoundary c = false

/-- A header without the blanks around it. -/
def codeOf (header : String) : List Char := strip header.toList

theorem getLast?_stripRight (s : List Char) :
    (stripRight s).getLast? = s.reverse.find? (fun c => !isBlank c) := by
  unfold stripRight
  rw [List.getLast?_reverse, List.find?_eq_head?_dropWhile_not]
  congr 2
  funext c
  exact (Bool.not_not _).symm

/-- Blanks at the start play no part for the end. -/
theorem getLast?_strip (s : List Char) : (strip s).getLast? = (stripRight s).getLast? := by
  have hblank : (s.takeWhile isBlank).reverse.find? (fun c => !isBlank c) = none := by
    refine List.find?_eq_none.2 fun c hc => ?_
    rw [List.mem_takeWhile_imp (List.mem_reverse.1 hc)]
    exact Bool.false_ne_true
  have hsplit : s.reverse = (s.dropWhile isBlank).reverse ++ (s.takeWhile isBlank).reverse := by
    rw [← List.reverse_append, List.takeWhile_append_dropWhile]
  unfold strip stripLeft
  rw [getLast?_stripRight, getLast?_stripRight, hsplit, List.find?_append, hblank, Option.or_none]

namespace IsSingleLine

variable {header : String}

theorem isHeader (h : IsSingleLine header) : isHeader header = true := by
  rcases h.block with hopens | hclause
  · exact (Bool.and_eq_true_iff.1 hopens).1
  · unfold clauseWord? at hclause
    split at hclause
    · assumption
    · cases hclause

theorem word (h : IsSingleLine header) :
    ∃ w ∈ blockWords ++ clauseWords, leadingWord? header = some w := by
  rcases h.block with hopens | hclause
  · have hany := (Bool.and_eq_true_iff.1 hopens).2
    obtain ⟨w, hw, hcontains⟩ := (Option.any_eq_true _ _).1 hany
    exact ⟨w, List.mem_append_left _ (List.contains_iff_mem.1 hcontains), hw⟩
  · unfold clauseWord? at hclause
    rw [if_pos h.isHeader] at hclause
    obtain ⟨w, hw⟩ := Option.isSome_iff_exists.1 hclause
    obtain ⟨hw, hcontains⟩ := Option.filter_eq_some_iff.1 hw
    exact ⟨w, List.mem_append_right _ (List.contains_iff_mem.1 hcontains), hw⟩

/-- The first word of a header is the word that it is known by. -/
theorem leadingWord? (h : IsSingleLine header) :
    leadingWord? header = some (firstWord (codeOf header)) := by
  obtain ⟨w, -, hw⟩ := h.word
  unfold Header.leadingWord? at hw ⊢
  split at hw
  · cases hw
  · rfl

/-- A header has the form of one without the blanks around it. -/
theorem isHeading (h : IsSingleLine header) : IsHeading (codeOf header) := by
  refine ⟨?_, ?_, ?_⟩
  · obtain ⟨w, hw, hlead⟩ := h.word
    rw [h.leadingWord?] at hlead
    obtain rfl := Option.some.inj hlead
    exact ⟨_, hw, by rw [firstWord, String.toList_ofList]⟩
  · have hends := h.isHeader
    unfold codeOf
    rw [getLast?_strip]
    exact eq_of_beq hends
  · intro c hc
    have hline := h.line c (mem_strip hc)
    constructor
    · rintro rfl
      exact absurd hline (by decide)
    · rintro rfl
      exact absurd hline (by decide)

theorem isBlank_of_isIndent {c : Char} (h : isIndent c = true) : isBlank c = true := by
  unfold isIndent at h
  rw [Bool.or_eq_true, beq_iff_eq, beq_iff_eq] at h
  rcases h with rfl | rfl <;> decide

/-- A line without its indentation, and then without the blanks around it. -/
theorem strip_dedent {s : List Char} (hs : '\n' ∉ s) : strip (dedent s) = strip s := by
  have hdrop : stripLeft (s.dropWhile isIndent) = stripLeft s := by
    unfold stripLeft
    induction s with
    | nil => rfl
    | cons c s ih =>
      cases hc : isIndent c with
      | false => rw [List.dropWhile_cons_of_neg (by rw [hc]; exact Bool.false_ne_true)]
      | true =>
        rw [List.dropWhile_cons_of_pos hc, ih (fun hmem => hs (List.mem_cons_of_mem _ hmem)),
          List.dropWhile_cons_of_pos (isBlank_of_isIndent hc)]
  have hdedent : dedent s = s.dropWhile isIndent := by
    unfold dedent
    rw [splitNewlines_line hs]
    cases hall : s.all isIndent with
    | true =>
      have hnil : s.dropWhile isIndent = [] := List.dropWhile_eq_nil_iff.2 (List.all_eq_true.1 hall)
      simp only [List.map_cons, List.map_nil, hall, if_true, joinNewlines, hnil]
    | false =>
      have hmargin : sharedIndent [s] = s.takeWhile isIndent := by
        simp only [sharedIndent, List.filter_cons, hall, Bool.not_false, if_true, List.filter_nil,
          List.map_cons, List.map_nil, List.foldl_nil]
      have hdrop : (s.takeWhile isIndent ++ s.dropWhile isIndent).drop
          (s.takeWhile isIndent).length = s.dropWhile isIndent := List.drop_left
      rw [List.takeWhile_append_dropWhile] at hdrop
      simp only [List.map_cons, List.map_nil, hall, Bool.false_eq_true, if_false, joinNewlines,
        hmargin, hdrop]
  unfold strip
  rw [hdedent, hdrop]

theorem normalize (h : IsSingleLine header) :
    normalize header = String.ofList (codeOf header) := by
  have hnewline : '\n' ∉ header.toList := fun hmem => absurd (h.line _ hmem) (by decide)
  unfold Header.normalize codeOf
  rw [strip_dedent hnewline]

/-- A header is one line. -/
theorem headerLines (h : IsSingleLine header) :
    headerLines header = [String.ofList (codeOf header)] := by
  have hline : ∀ c ∈ codeOf header, isLineBoundary c = false := fun c hc => h.line c (mem_strip hc)
  have hne : codeOf header ≠ [] := by
    obtain ⟨c, s, hcode, -⟩ := h.isHeading.eq_cons
    rw [hcode]
    exact List.cons_ne_nil _ _
  unfold Code.headerLines linesOf
  rw [h.normalize, String.toList_ofList, breakLines_line hline hne]
  rfl

end IsSingleLine

/-! ## §2. The rows of headers. -/

/-- The line of a row. -/
def Row.line (r : Row) : String := String.ofList r.chars

theorem line_case (code : List Char) :
    (Row.heading 4 code).line = "    " ++ String.ofList code := by
  apply String.toList_injective
  rw [Row.line, String.toList_ofList, String.toList_append, String.toList_ofList,
    String.toList_ofList]
  rfl

theorem slotsFrom_cons (k : Nat) (code : List Char) (codes : List (List Char)) :
    slotsFrom k (code :: codes)
      = slotsFrom k [code] ++ slotsFrom (k + (rowsOfCode code).length) codes := by
  by_cases h : firstWord code = "match"
  · rw [slotsFrom, if_pos h, slotsFrom, if_pos h, rowsOfCode_match h]
    rfl
  · rw [slotsFrom, if_neg h, slotsFrom, if_neg h, rowsOfCode_of_ne h]
    rfl

/-- One more header is its rows, and its slot. -/
theorem add_eq {header : String} (h : IsSingleLine header) (a : Assembly) :
    a.add header = ⟨a.lines ++ (rowsOfCode (codeOf header)).map Row.line,
      a.slots ++ slotsFrom (a.lines.length + 1) [codeOf header]⟩ := by
  have hclause : clauseWord? header = some "case" ↔ firstWord (codeOf header) = "case" := by
    unfold clauseWord?
    rw [if_pos h.isHeader, h.leadingWord?]
    constructor
    · intro heq
      exact Option.some.inj (Option.filter_eq_some_iff.1 heq).1
    · intro heq
      rw [heq]
      rfl
  have hbody : hasBody header = true ↔ firstWord (codeOf header) ≠ "match" := by
    unfold hasBody
    rw [h.leadingWord?, bne_iff_ne, ne_eq, Option.some.injEq]
  unfold Assembly.add
  rw [h.headerLines]
  dsimp only
  split
  · rename_i hcase
    rw [hclause] at hcase
    have hmatch : firstWord (codeOf header) ≠ "match" := by
      rw [hcase]
      decide
    rw [slotsFrom, if_neg hmatch, rowsOfCode, if_pos hcase, List.map_cons, line_case,
      List.length_append]
    rfl
  · rename_i hcase
    rw [hclause] at hcase
    split
    · rename_i hmatch
      rw [hbody] at hmatch
      rw [slotsFrom, if_neg hmatch, rowsOfCode, if_neg hcase, if_neg hmatch, List.length_append]
      rfl
    · rename_i hmatch
      rw [hbody, not_not] at hmatch
      rw [slotsFrom, if_pos hmatch, rowsOfCode, if_neg hcase, if_pos hmatch]
      rfl

theorem foldl_add {headers : List String} (h : ∀ header ∈ headers, IsSingleLine header)
    (a : Assembly) : headers.foldl Assembly.add a
      = ⟨a.lines ++ (rowsOf (headers.map codeOf)).map Row.line,
        a.slots ++ slotsFrom (a.lines.length + 1) (headers.map codeOf)⟩ := by
  induction headers generalizing a with
  | nil =>
    rw [List.foldl_nil, List.map_nil, slotsFrom, List.append_nil]
    show a = ⟨a.lines ++ [], a.slots⟩
    rw [List.append_nil]
  | cons header headers ih =>
    obtain ⟨hheader, hheaders⟩ := List.forall_mem_cons.1 h
    rw [List.foldl_cons, add_eq hheader, ih hheaders, List.map_cons, rowsOf_cons,
      slotsFrom_cons (a.lines.length + 1) (codeOf header) (headers.map codeOf), List.map_append]
    dsimp only
    rw [List.length_append, List.length_map, Nat.add_right_comm, List.append_assoc,
      List.append_assoc]

/-- **The rows of the headers are what is assembled.** -/
theorem rows_of_headers {headers : List String} (h : ∀ header ∈ headers, IsSingleLine header) :
    assembleHeaders headers = ⟨(rowsOf (headers.map codeOf)).map Row.line,
      slotsFrom 1 (headers.map codeOf)⟩ := by
  rw [assembleHeaders, foldl_add h]
  rfl

/-! ## §3. The code of a block. -/

/-- The code that the skeleton of some headers is read from. -/
def blockCode (headers : List String) : String := "\n".intercalate (assembleHeaders headers).lines

/-- Rows with newlines between them, and one at the end. -/
theorem toList_intercalate_line {rows : List Row} (hrows : rows ≠ []) :
    ("\n".intercalate (rows.map Row.line)).toList ++ ['\n'] = textOf rows := by
  rw [String.toList_intercalate, List.map_map]
  induction rows with
  | nil => exact absurd rfl hrows
  | cons r rows ih =>
    have hline : r.line.toList = r.chars := by rw [Row.line, String.toList_ofList]
    cases rows with
    | nil =>
      rw [textOf_cons, ← hline]
      show r.line.toList ++ [] ++ ['\n'] = r.line.toList ++ '\n' :: []
      rw [List.append_nil]
    | cons r' rows =>
      rw [textOf_cons, ← ih (List.cons_ne_nil _ _), ← hline, List.map_cons, List.map_cons,
        List.intercalate_cons_cons, List.append_assoc, List.append_assoc]
      rfl

/-- The rows of headers in the form of such are proper. -/
theorem isProper_of_rowsOf {codes : List (List Char)} (h : ∀ code ∈ codes, IsHeading code) :
    ∀ r ∈ rowsOf codes, r.IsProper := by
  intro r hr
  obtain ⟨code, hcode, hr⟩ := List.mem_flatMap.1 hr
  by_cases hmatch : firstWord code = "match"
  · rw [rowsOfCode_match hmatch] at hr
    obtain rfl := List.mem_singleton.1 hr
    exact h code hcode
  · rw [rowsOfCode_of_ne hmatch] at hr
    rcases List.mem_cons.1 hr with rfl | hr
    · exact h code hcode
    · obtain rfl := List.mem_singleton.1 hr
      trivial

/-- No row is empty. -/
theorem getLast?_of_textOf {rows : List Row} (h : ∀ r ∈ rows, r.IsProper) (hrows : rows ≠ [])
    {s : List Char} (hs : s ++ ['\n'] = textOf rows) : s.getLast? ≠ some '\n' := by
  rcases List.eq_nil_or_concat rows with rfl | ⟨init, r, heq⟩
  · exact absurd rfl hrows
  rw [List.concat_eq_append] at heq
  subst heq
  have hr : r.IsProper := h r (List.mem_append_right _ List.mem_cons_self)
  have hsingle : textOf [r] = r.chars ++ ['\n'] := textOf_cons r []
  rw [textOf_append, hsingle, ← List.append_assoc] at hs
  rw [List.append_cancel_right hs, List.getLast?_append]
  intro hlast
  cases hchars : r.chars.getLast? with
  | some c =>
    rw [hchars] at hlast
    obtain rfl := Option.some.inj hlast
    exact hr.not_newline (List.mem_of_getLast? hchars)
  | none =>
    obtain ⟨c, t, hcode, -⟩ := hr.code_eq_cons
    have hempty := (List.append_eq_nil_iff.1 (List.getLast?_eq_none_iff.1 hchars)).2
    rw [hcode] at hempty
    cases hempty

theorem return_notMem_textOf {rows : List Row} (h : ∀ r ∈ rows, r.IsProper) :
    '\r' ∉ textOf rows := by
  intro hmem
  obtain ⟨r, hr, hmem⟩ := List.mem_flatMap.1 hmem
  rcases List.mem_append.1 hmem with hmem | hmem
  · rcases List.mem_append.1 hmem with hmem | hmem
    · exact absurd (List.eq_of_mem_replicate hmem) (by decide)
    · have hproper := h r hr
      cases r with
      | heading m code => exact (hproper.line _ hmem).2 rfl
      | pass m => exact absurd (show '\r' ∈ "pass".toList from hmem) (by decide)
  · exact absurd (List.mem_singleton.1 hmem) (by decide)

/-- The `pass` rows of headers are their slots. -/
theorem passLines_rowsOf (k : Nat) (codes : List (List Char)) :
    passLines k (rowsOf codes) = (slotsFrom k codes).filterMap id := by
  induction codes generalizing k with
  | nil => rfl
  | cons code codes ih =>
    by_cases hmatch : firstWord code = "match"
    · rw [rowsOf_cons, rowsOfCode_match hmatch, slotsFrom, if_pos hmatch]
      exact ih (k + 1)
    · rw [rowsOf_cons, rowsOfCode_of_ne hmatch, slotsFrom, if_neg hmatch]
      exact congrArg (fun ns => (k + 1) :: ns) (ih (k + 2))

section Block

variable {headers : List String} {sk : Skeleton}

theorem rowsOf_ne_nil (hne : headers ≠ []) : rowsOf (headers.map codeOf) ≠ [] := by
  obtain ⟨header, headers, rfl⟩ := List.exists_cons_of_ne_nil hne
  obtain ⟨rows, hrows⟩ := rowsOfCode_eq_cons (codeOf header)
  rw [List.map_cons, rowsOf_cons, hrows]
  exact List.cons_ne_nil _ _

/-- The code of a block is its rows, without the newline at the end. -/
theorem blockCode_eq (h : ∀ header ∈ headers, IsSingleLine header) (hne : headers ≠ []) :
    (blockCode headers).toList ++ ['\n'] = textOf (rowsOf (headers.map codeOf)) := by
  rw [blockCode, rows_of_headers h]
  exact toList_intercalate_line (rowsOf_ne_nil hne)

theorem isProper_of_headers (h : ∀ header ∈ headers, IsSingleLine header) :
    ∀ r ∈ rowsOf (headers.map codeOf), r.IsProper := by
  refine isProper_of_rowsOf fun code hcode => ?_
  obtain ⟨header, hheader, rfl⟩ := List.mem_map.1 hcode
  exact (h header hheader).isHeading

/-- The logical lines of a block are read from its rows. -/
theorem readsLines_of_block (h : ∀ header ∈ headers, IsSingleLine header) (hne : headers ≠ [])
    {ls : List LogicalLine} (hls : logicalLines? (blockCode headers) = some ls) :
    ReadsLines ⟨1, 0⟩ (textOf (rowsOf (headers.map codeOf))) ls := by
  have htext := blockCode_eq h hne
  have hproper := isProper_of_headers h
  have hreturn : '\r' ∉ (blockCode headers).toList := by
    intro hmem
    refine return_notMem_textOf hproper ?_
    rw [← htext]
    exact List.mem_append_left _ hmem
  have hend := getLast?_of_textOf hproper (rowsOf_ne_nil hne) htext
  rw [logicalLines?_eq hreturn hend, htext] at hls
  exact readsLines_of_readLines? hls

/-- What a skeleton is read from. -/
theorem of_skeleton (h : skeleton headers = .ok sk) :
    parseStatements? (blockCode headers) = some [sk.statement]
      ∧ sk.slots = (assembleHeaders headers).slots ∧ missingSlot? sk.statement sk.slots = none := by
  unfold skeleton at h
  dsimp only at h
  split at h
  · cases h
  · split at h
    · cases h
    · rename_i s hparse
      split at h
      · cases h
      · rename_i hmissing
        obtain rfl := Except.ok.inj h
        exact ⟨hparse, rfl, hmissing⟩
    · cases h

/-- Every slot of a skeleton is in its statement. -/
theorem isSome_slotPath? (h : missingSlot? sk.statement sk.slots = none) {n : Nat}
    (hn : some n ∈ sk.slots) : (sk.statement.slotPath? n).isSome = true := by
  have hfound := List.find?_eq_none.1 h n (List.mem_filterMap.2 ⟨some n, hn, rfl⟩)
  rwa [Option.isNone_iff_eq_none, ← ne_eq, Option.ne_none_iff_isSome] at hfound

/-- No statement is read from no headers. -/
theorem ne_nil_of_skeleton (h : skeleton headers = .ok sk) : headers ≠ [] := by
  rintro rfl
  have hnone : parseStatements? (blockCode []) = some [] := rfl
  cases hnone.symm.trans (of_skeleton h).1

/-- The slots of a skeleton are the rows of the `pass` of its headers. -/
theorem slots_of_skeleton (hheaders : ∀ header ∈ headers, IsSingleLine header)
    (h : skeleton headers = .ok sk) : sk.slots = slotsFrom 1 (headers.map codeOf) := by
  rw [(of_skeleton h).2.1, rows_of_headers hheaders]

/-- **The skeleton of headers on one line each has one of three shapes.** -/
theorem shape_of_skeleton (hheaders : ∀ header ∈ headers, IsSingleLine header)
    (h : skeleton headers = .ok sk) : ∃ forest, layout? (blockCode headers) = some forest
      ∧ Shape (grammarFor (blockCode headers)) (headers.map codeOf) forest sk.statement := by
  obtain ⟨hparse, -, hmissing⟩ := of_skeleton h
  obtain ⟨forest, hforest, hread⟩ := Option.bind_eq_some_iff.1 hparse
  obtain ⟨items, hitems, hassemble⟩ := Option.bind_eq_some_iff.1 hread
  obtain ⟨ls, hls, hsuite⟩ := readSuite?_of_layout? hforest
  have hrows : Ruled (Spot.line ⟨1, 0⟩) (rowsOf (headers.map codeOf)) ls := by
    refine ruled_of_found (isProper_of_headers hheaders)
      (readsLines_of_block hheaders (ne_nil_of_skeleton h) hls) fun n hn => ?_
    rw [passLines_rowsOf] at hn
    obtain ⟨o, ho, hn⟩ := List.mem_filterMap.1 hn
    obtain rfl : o = some n := hn
    refine hasPass_of_slotPath? hls hparse List.mem_cons_self (isSome_slotPath? hmissing ?_)
    rw [slots_of_skeleton hheaders h]
    exact ho
  exact ⟨forest, hforest, shape_of_assemble? hrows ⟨_, _, hsuite⟩ hitems hassemble⟩

end Block

/-! ## §4. The slots of a skeleton. -/

/-- The words that headers start with. -/
def headerWords (headers : List String) : List String :=
  headers.map fun header => (leadingWord? header).getD ""

/-- What a skeleton says about its headers. -/
structure Skeleton.IsFaithful (sk : Skeleton) (headers : List String) : Prop where
  /-- Every header has an entry. -/
  length : sk.slots.length = headers.length
  /-- Only the headers of a `match` have no body. -/
  bodiless : ∀ i : Nat, sk.slots[i]? = some none ↔ headers[i]?.bind leadingWord? = some "match"
  /-- The body of a header is at the place that the words say, and there is the `pass` alone. -/
  place : ∀ (i n : Nat), sk.slots[i]? = some (some n) →
    sk.statement.slotPath? n = some (placeOf (headerWords headers) i)
      ∧ sk.statement.listAt? (placeOf (headerWords headers) i) = some [.pass n]
  /-- Two headers have their bodies at two places. -/
  apart : ∀ (i j n m : Nat), sk.slots[i]? = some (some n) → sk.slots[j]? = some (some m) → i ≠ j →
    placeOf (headerWords headers) i ≠ placeOf (headerWords headers) j
  /-- Code that has bodies below the headers, in place of each `pass`, is the statement that has
  them in its slots. -/
  filled : ∃ forest, layout? (blockCode headers) = some forest
    ∧ ∀ (code : String) (forest' : List Line) (bodies : Bodies) (slots : Filling),
      layout? code = some forest' → Bodied (grammarFor code) bodies forest forest' →
      HasBodies slots bodies sk.slots → parseStatements? code = some [sk.statement.fill slots]

section Slots

variable {codes : List (List Char)} {k i j n : Nat}

theorem length_slotsFrom (k : Nat) (codes : List (List Char)) :
    (slotsFrom k codes).length = codes.length := by
  induction codes generalizing k with
  | nil => rfl
  | cons code codes ih =>
    rw [slotsFrom]
    split
    · rw [List.length_cons, List.length_cons, ih]
    · rw [List.length_cons, List.length_cons, ih]

theorem slotsFrom_eq_none_iff :
    (slotsFrom k codes)[i]? = some none ↔ codes[i]?.map firstWord = some "match" := by
  induction codes generalizing k i with
  | nil =>
    constructor
    · intro h
      cases h
    · intro h
      cases h
  | cons code codes ih =>
    rw [slotsFrom]
    split
    · rename_i hmatch
      cases i with
      | zero => exact ⟨fun _ => congrArg some hmatch, fun _ => rfl⟩
      | succ i => exact ih
    · rename_i hmatch
      cases i with
      | zero => exact ⟨fun h => (by cases h), fun h => absurd (Option.some.inj h) hmatch⟩
      | succ i => exact ih

theorem lt_of_slotsFrom (h : (slotsFrom k codes)[i]? = some (some n)) : k < n := by
  induction codes generalizing k i with
  | nil => cases h
  | cons code codes ih =>
    rw [slotsFrom] at h
    split at h
    · cases i with
      | zero => cases h
      | succ i =>
        have hlt := ih h
        omega
    · cases i with
      | zero =>
        obtain rfl := Option.some.inj (Option.some.inj h)
        exact Nat.lt_succ_self k
      | succ i =>
        have hlt := ih h
        omega

/-- No row is the slot of two headers. -/
theorem slotsFrom_inj (hi : (slotsFrom k codes)[i]? = some (some n))
    (hj : (slotsFrom k codes)[j]? = some (some n)) : i = j := by
  induction codes generalizing k i j with
  | nil => cases hi
  | cons code codes ih =>
    rw [slotsFrom] at hi hj
    split at hi
    · rename_i hmatch
      rw [if_pos hmatch] at hj
      cases i with
      | zero => cases hi
      | succ i =>
        cases j with
        | zero => cases hj
        | succ j => exact congrArg (· + 1) (ih hi hj)
    · rename_i hmatch
      rw [if_neg hmatch] at hj
      cases i with
      | zero =>
        cases j with
        | zero => rfl
        | succ j =>
          obtain rfl := Option.some.inj (Option.some.inj hi)
          have hlt := lt_of_slotsFrom hj
          omega
      | succ i =>
        cases j with
        | zero =>
          obtain rfl := Option.some.inj (Option.some.inj hj)
          have hlt := lt_of_slotsFrom hi
          omega
        | succ j => exact congrArg (· + 1) (ih hi hj)

/-- **The slot of a header in a statement of one of the shapes.** -/
theorem Shape.place {g : Grammar} {forest : List Line} {s : Stmt} (h : Shape g codes forest s)
    (hi : (slotsFrom 1 codes)[i]? = some (some n)) :
    s.slotPath? n = some (placeOf (codes.map firstWord) i) := by
  cases h with
  | @block codes forest head row clauses s hclauses hcontinues hs =>
    obtain ⟨F, hF, rfl⟩ := blockOf_of_compound? hs
    rw [hclauses.slots, List.getElem?_map] at hi
    obtain ⟨c, hc, hrow⟩ := Option.map_eq_some_iff.1 hi
    obtain rfl := Option.some.inj hrow
    rw [hclauses.words]
    exact hF.place hclauses.nodup_rows hc
  | @cases ms codes toks suite subject clauses cs hms hmatch hcodes htext hclauses hcs =>
    obtain ⟨branches, rfl, rfl⟩ := of_cases? hcs
    rw [slotsFrom_append hmatch] at hi
    have hge : ms.length ≤ i := by
      by_contra hlt
      rw [List.getElem?_append_left (by rw [List.length_replicate]; omega),
        List.getElem?_replicate_of_lt (by omega)] at hi
      cases hi
    obtain ⟨j, rfl⟩ := Nat.exists_eq_add_of_le hge
    rw [List.getElem?_append_right (by rw [List.length_replicate]; exact hge),
      List.length_replicate, Nat.add_sub_cancel_left, hclauses.slots, List.getElem?_map,
      List.getElem?_map] at hi
    obtain ⟨c, hc, hrow⟩ := Option.map_eq_some_iff.1 hi
    obtain ⟨b, hb, rfl⟩ := Option.map_eq_some_iff.1 hc
    obtain rfl : b.row = n := Option.some.inj hrow
    have hrows := hclauses.nodup_rows
    rw [List.map_map] at hrows
    rw [List.map_append, hclauses.words, ← List.length_map (f := firstWord)]
    refine match_place (fun w hw => ?_) hrows hb
    obtain ⟨c, hc, rfl⟩ := List.mem_map.1 hw
    exact hmatch c hc
  | @alone ms toks s rest hmatch hled htext =>
    have hnone := slotsFrom_append hmatch 1 []
    rw [List.append_nil, slotsFrom, List.append_nil] at hnone
    rw [hnone] at hi
    cases (List.eq_of_mem_replicate (List.mem_of_getElem? hi))

end Slots

theorem headerWords_eq {headers : List String} (h : ∀ header ∈ headers, IsSingleLine header) :
    headerWords headers = (headers.map codeOf).map firstWord := by
  unfold headerWords
  rw [List.map_map]
  refine List.map_congr_left fun header hheader => ?_
  rw [(h header hheader).leadingWord?]
  rfl

/-- The lines of code that is read weigh no more than its grammar holds. -/
theorem weight_of_layout? {code : String} {forest : List Line} (h : layout? code = some forest) :
    ∀ ts ∈ writtenIn forest, weightOf ts + 2 ≤ code.length + 2 := by
  obtain ⟨ls, hls, hsuite⟩ := readSuite?_of_layout? h
  have hwritten := written_of_readSuite? hsuite
  rw [List.map_nil, List.append_nil] at hwritten
  intro ts hts
  rw [← hwritten] at hts
  obtain ⟨l, hl, rfl⟩ := List.mem_map.1 hts
  exact Nat.add_le_add_right (weightOf_le_of_logicalLines? hls l hl) 2

/-- **The slots of a skeleton are the bodies of its headers.**  There is one entry for every header
on a single line; the `pass` of a header is alone at the place that the words of the headers give
it; and filling the slots gives what the headers are with the bodies below them. -/
theorem skeleton_isFaithful {headers : List String} {sk : Skeleton}
    (hheaders : ∀ header ∈ headers, IsSingleLine header) (h : skeleton headers = .ok sk) :
    sk.IsFaithful headers := by
  have hslots := slots_of_skeleton hheaders h
  obtain ⟨forest, hforest, hshape⟩ := shape_of_skeleton hheaders h
  have hplace : ∀ (i n : Nat), sk.slots[i]? = some (some n) →
      sk.statement.slotPath? n = some (placeOf (headerWords headers) i)
        ∧ sk.statement.listAt? (placeOf (headerWords headers) i) = some [.pass n] := by
    intro i n hi
    rw [hslots] at hi
    have hpath := hshape.place hi
    rw [← headerWords_eq hheaders] at hpath
    exact ⟨hpath, slotPath?_leadsTo n sk.statement _ hpath⟩
  refine ⟨?_, fun i => ?_, hplace, ?_, forest, hforest, ?_⟩
  · rw [hslots, length_slotsFrom, List.length_map]
  · rw [hslots, slotsFrom_eq_none_iff, List.getElem?_map]
    cases hi : headers[i]? with
    | none => exact Iff.rfl
    | some header =>
      have hheader := hheaders header (List.mem_of_getElem? hi)
      rw [Option.map_some, Option.map_some, Option.bind_some, hheader.leadingWord?]
  · intro i j n m hi hj hne heq
    -- the lists at one place are one list, and its row is the slot of one header
    have hlist := (hplace i n hi).2
    rw [heq, (hplace j m hj).2] at hlist
    obtain rfl : m = n := Stmt.pass.inj (List.cons.inj (Option.some.inj hlist)).1
    rw [hslots] at hi hj
    exact hne (slotsFrom_inj hi hj)
  · intro code forest' bodies slots hforest' hbodied hbodies
    rw [hslots] at hbodies
    obtain ⟨items, hitems, hassemble⟩ := hshape.bodied hbodied (weight_of_layout? hforest)
      (weight_of_layout? hforest') hbodies
    unfold parseStatements?
    rw [hforest', Option.bind_eq_bind, Option.bind_some]
    show (readItems? (grammarFor code) false forest').bind assemble? = _
    rw [show grammarFor code = grammar (code.length + 2) from rfl, hitems]
    exact hassemble

/-- An `if` with an `elif` and an `else`. -/
theorem skeleton_isFaithful_chain : ∃ sk, skeleton ["if a:", "elif b:", "else:"] = .ok sk
    ∧ sk.IsFaithful ["if a:", "elif b:", "else:"] := by
  have hheaders : ∀ header ∈ ["if a:", "elif b:", "else:"], IsSingleLine header := by
    intro header hheader
    have hblock : ∀ header ∈ ["if a:", "elif b:", "else:"],
        opensBlock header = true ∨ (clauseWord? header).isSome = true := by decide
    have hline : ∀ header ∈ ["if a:", "elif b:", "else:"],
        header.toList.any isLineBoundary = false := by decide
    exact ⟨hblock header hheader, fun c hc =>
      Bool.eq_false_iff.2 (List.any_eq_false.1 (hline header hheader) c hc)⟩
  have hok : (skeleton ["if a:", "elif b:", "else:"]).isOk = true := by decide +kernel
  cases hskeleton : skeleton ["if a:", "elif b:", "else:"] with
  | error fault =>
    rw [hskeleton] at hok
    exact absurd hok Bool.false_ne_true
  | ok sk => exact ⟨sk, rfl, skeleton_isFaithful hheaders hskeleton⟩

end Inlay.Code
