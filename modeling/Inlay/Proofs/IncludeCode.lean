/-
  Inlay.Proofs.IncludeCode
  ────────────────────────────────
  **TEMPLATES THAT INCLUDE ANOTHER ONE.**

  A template may be a text, a marker that includes another template by a
  simple name, and one more text.  Its code is read as a call, and building
  its tree succeeds:

      text  <%= include('name') %>  text
-/
import Inlay.Proofs.Allowed
import Inlay.Proofs.Reading

namespace Inlay

open Inlay.Code Inlay.Program Inlay.Text

/-! ## §1. Names that can stand in code. -/

/-- Is the name made of letters and digits of ASCII, at least one? -/
structure IsSimple (name : String) : Prop where
  nonempty : name.toList ≠ []
  chars : ∀ c ∈ name.toList, c.isAlphanum = true

theorem ne_of_isAlphanum {c d : Char} (hc : c.isAlphanum = true) (hd : d.isAlphanum = false) :
    c ≠ d := by
  rintro rfl
  rw [hc] at hd
  exact Bool.false_ne_true hd.symm

theorem isLineBoundary_alphanum {c : Char} (hc : c.isAlphanum = true) :
    isLineBoundary c = false := by
  replace hc : ((decide (65 ≤ c.val ∧ c.val ≤ 90) || (97 ≤ c.val && c.val ≤ 122))
      || (48 ≤ c.val && c.val ≤ 57)) = true := hc
  simp only [Bool.or_eq_true, Bool.and_eq_true, decide_eq_true_eq] at hc
  simp only [isLineBoundary, inRanges, List.any_cons, List.any_nil, Bool.or_false,
    Bool.or_eq_false_iff, Bool.and_eq_false_iff, decide_eq_false_iff_not, Nat.not_le]
  simp only [UInt32.le_iff_toNat_le, Char.toNat] at *
  simp at *
  omega

theorem IsSimple.isClean {name : String} (h : IsSimple name) : IsClean name.toList := by
  intro c hc
  have halpha := h.chars c hc
  exact ⟨ne_of_isAlphanum halpha (by decide), ne_of_isAlphanum halpha (by decide),
    ne_of_isAlphanum halpha (by decide)⟩

/-! ## §2. The code of an include. -/

/-- The code that includes a template. -/
def includeCode (name : String) : String := "include('" ++ name ++ "')"

/-- The call that it is. -/
def includeCall (name : String) : Expr := callOf (.name includeWord) [textConstant name]

theorem toList_includeCode (name : String) :
    (includeCode name).toList = 'i' :: ("nclude('".toList ++ (name.toList ++ "')".toList)) := by
  unfold includeCode
  rw [String.toList_append, String.toList_append, List.append_assoc]
  rfl

section Code

variable {name : String}

theorem lexes_includeCode (h : IsSimple name) :
    Lexes [] [] ('i' :: (("nclude('".toList ++ (name.toList ++ "')".toList)) ++ ['\n']))
      [.word includeWord, .sign "(", .text {} name.toList, .sign ")"] := by
  have hline : '\n' ∉ name.toList ++ ['\''] := by
    intro hmem
    rcases List.mem_append.1 hmem with hmem | hmem
    · exact (h.isClean _ hmem).2.2 rfl
    · exact absurd hmem (by decide)
  have hsource : "nclude('".toList ++ (name.toList ++ "')".toList) ++ ['\n'] =
      "nclude".toList ++ ('(' :: ([] ++ '\'' :: (name.toList ++ ['\''] ++ [')', '\n']))) := by
    simp [List.append_assoc]
  rw [hsource]
  refine .lexeme (.word includeWord) 'i' "nclude".toList (by rfl) (by rfl) (by decide) (by decide)
    rfl ?_
  refine .lexeme (.sign "(") '(' [] (by rfl) (by rfl) (by decide) (by decide) rfl ?_
  refine .lexeme (.text {} name.toList) '\'' (name.toList ++ ['\'']) ?_ ?_ (by decide) hline rfl ?_
  · rw [List.append_assoc]
    exact readLexeme?_text h.isClean h.nonempty _
  · obtain ⟨c, more, hname⟩ := List.exists_cons_of_ne_nil h.nonempty
    have hquote : c ≠ '\'' := (h.isClean c (by rw [hname]; exact List.mem_cons_self)).1
    rw [hname]
    show 0 + (c :: more).length + (if ('\'' == c && _) = true then 6 else 2) = _
    rw [beq_false_of_ne (Ne.symm hquote), Bool.false_and, if_neg Bool.false_ne_true,
      List.length_append]
    simp only [List.length_cons, List.length_nil]
    omega
  exact .lexeme (.sign ")") ')' [] (by rfl) (by rfl) (by decide) (by decide) rfl .finish

/-- Apart from the name, the code is made of letters and these signs. -/
def includeSigns : List Char := ['(', '\'', ')']

theorem mem_includeCode (h : IsSimple name) {c : Char} (hc : c ∈ (includeCode name).toList) :
    c.isAlphanum = true ∨ c ∈ includeSigns := by
  have hfixed : ("nclude('".toList ++ "')".toList).all
      (fun c => c.isAlphanum || includeSigns.contains c) = true := by decide
  have hsplit : c = 'i' ∨ c ∈ name.toList ∨ c ∈ "nclude('".toList ++ "')".toList := by
    rw [toList_includeCode] at hc
    simp only [List.mem_cons, List.mem_append] at hc ⊢
    tauto
  rcases hsplit with rfl | hc | hc
  · exact Or.inl rfl
  · exact Or.inl (h.chars c hc)
  · have hone := List.all_eq_true.1 hfixed c hc
    rwa [Bool.or_eq_true, List.contains_iff_mem] at hone

theorem not_mem_includeCode (h : IsSimple name) {c : Char} (hc : c.isAlphanum = false)
    (hsign : c ∉ includeSigns) : c ∉ (includeCode name).toList := by
  intro hmem
  rcases mem_includeCode h hmem with halpha | hmem
  · exact ne_of_isAlphanum halpha hc rfl
  · exact hsign hmem

theorem getLast?_includeCode (name : String) : (includeCode name).toList.getLast? = some ')' := by
  rw [toList_includeCode, ← List.cons_append, ← List.append_assoc, List.getLast?_append]
  rfl

theorem isTight_includeCode (h : IsSimple name) : IsTight (includeCode name).toList := by
  refine ⟨fun c hc => ?_, fun c hc => ?_, fun c hc => ?_⟩
  · rcases mem_includeCode h hc with halpha | hsign
    · exact isLineBoundary_alphanum halpha
    · have hsigns : includeSigns.all (!isLineBoundary ·) = true := by decide
      simpa using List.all_eq_true.1 hsigns c hsign
  · rw [toList_includeCode] at hc
    obtain rfl := Option.some.inj hc
    decide
  · rw [getLast?_includeCode] at hc
    obtain rfl := Option.some.inj hc
    decide

/-- The lexemes of an include are those of a call. -/
theorem plainExpressions_includeCode (h : IsSimple name) {toks : List Tok}
    (htoks : toks.map Tok.lexeme =
      [.word includeWord, .sign "(", .text {} name.toList, .sign ")"]) (n : Nat) :
    plainExpressions (grammar (n + 4)) toks = some (includeCall name, []) := by
  obtain ⟨callee, rest, rfl, hcallee, hrest⟩ := List.map_eq_cons_iff.1 htoks
  obtain ⟨opening, rest, rfl, hopening, hrest⟩ := List.map_eq_cons_iff.1 hrest
  obtain ⟨argument, rest, rfl, hargument, hrest⟩ := List.map_eq_cons_iff.1 hrest
  obtain ⟨closing, rest, rfl, hclosing, hrest⟩ := List.map_eq_cons_iff.1 hrest
  obtain rfl := List.map_eq_nil_iff.1 hrest
  obtain ⟨tok, start, stop⟩ := callee
  obtain rfl : tok = .word includeWord := hcallee
  have hclose : AtStop [closing] := .cons hclosing (by decide) []
  have htext : textOf? false name.toList = some name := by
    rw [textOf?_clean h.isClean, String.ofList_toList]
  have hcall : primary (grammar (n + 2)) (⟨.word includeWord, start, stop⟩ ::
      opening :: [argument, closing]) = some (includeCall name, []) := by
    refine primary_of_call (show Lexeme.word includeWord ≠ _ by decide) (fun _ => rfl) hopening
      (fun inner => ?_) .nil
    refine argumentsTail_one inner hclosing
      (fun s _ => .cons (by rw [hargument]; exact Lexeme.noConfusion) _)
      (fun s hs => .cons ?_ []) (expression_text n hargument htext hclose)
    rw [hclosing]
    revert s
    decide
  refine (Reader.bind_apply _ (Reader.commas_one (expression_of_primary ?_ ?_ hcall .nil)
    (.nil _))).trans rfl
  · exact fun w hw => .cons (fun heq => absurd (Lexeme.word.inj heq ▸ hw) (by decide)) _
  · exact fun s _ => .cons Lexeme.noConfusion _

/-- The code of an include is read as a call. -/
theorem parseExpression?_includeCode (h : IsSimple name) :
    parseExpression? (includeCode name) = some (includeCall name) := by
  have htight := isTight_includeCode h
  rw [toList_includeCode] at htight
  obtain ⟨toks, hlayout, htoks⟩ := layout?_line (toList_includeCode name)
    (htight.not_mem (by decide)) (htight.not_mem (by decide)) (by decide) (lexes_includeCode h)
  -- the code is longer than the rules of the grammar nest
  obtain ⟨n, hn⟩ : ∃ n, (includeCode name).length + 2 = n + 4 := by
    have hlong : 2 ≤ (includeCode name).length := by
      rw [← String.length_toList, toList_includeCode, List.length_cons, List.length_append]
      exact Nat.succ_le_succ (Nat.le_add_right_of_le (by decide))
    exact ⟨(includeCode name).length - 2, by omega⟩
  unfold parseExpression?
  rw [hlayout]
  dsimp only [Option.bind_eq_bind, Option.bind_some]
  rw [grammarFor, hn, plainExpressions_includeCode h htoks n]

theorem normalize_includeCode (h : IsSimple name) :
    Header.normalize (includeCode name) = includeCode name ∧
      (includeCode name).toList.contains '\x00' = false := by
  refine ⟨normalize_tight (isTight_includeCode h), ?_⟩
  rw [Bool.eq_false_iff]
  intro hmem
  exact not_mem_includeCode h (by decide) (by decide) (List.contains_iff_mem.1 hmem)

theorem standsAlone_includeCode (h : IsSimple name) : standsAlone (includeCode name) = true := by
  have hheader : Header.isHeader (includeCode name) = false := by
    rw [isHeader_tight (isTight_includeCode h), getLast?_includeCode]
    rfl
  have hend : Header.closesBlock (includeCode name) = false := by
    unfold Header.closesBlock
    rw [(isTight_includeCode h).strip, toList_includeCode]
    rfl
  unfold standsAlone Header.clauseWord? Header.opensBlock
  rw [hend, hheader]
  rfl

theorem lacksEnd_includeCode (h : IsSimple name) : lacksEnd (includeCode name) = true := by
  unfold lacksEnd
  rw [Bool.not_eq_true', decide_eq_false_iff_not]
  exact fun hwithin => not_mem_includeCode h (by decide) (by decide)
    (hwithin.subset List.mem_cons_self)

end Code

/-! ## §3. Texts and includes as trees. -/

/-- A text as nodes: none if it is empty. -/
def textNodes (text : String) : List (Node Unit) :=
  if text = "" then [] else [.text nowhere text]

/-- A text, a marker that includes a template, and one more text. -/
def includeNodes (before name after : String) : List (Node Unit) :=
  .text nowhere before :: .expr ⟨nowhere, .output, includeCode name, ()⟩ :: textNodes after

/-- Their source. -/
def includeSource (before name after : String) : String :=
  before ++ "<%= " ++ includeCode name ++ " %>" ++ after

section Trees

variable {before name after : String} {body : List (Node Unit)}

theorem spellAll_textNodes (h : IsPlain after.toList) :
    spellAll (flatBody (textNodes after)) = after.toList := by
  unfold textNodes
  split
  · rename_i hempty
    rw [hempty]
    rfl
  · show escaped after.toList ++ [] = _
    rw [escaped_plain h, List.append_nil]

theorem print_textNodes (h : IsPlain after.toList) :
    (⟨none, textNodes after⟩ : Template Unit).print = after := by
  unfold Template.print
  rw [spellAll_textNodes h, String.ofList_toList]

theorem wellFormed_textNodes (text : String) : bodyWellFormed (textNodes text) = true := by
  unfold textNodes
  split
  · rfl
  · rename_i hne
    simp [bodyWellFormed, Node.wellFormed, hne]

/-- The source of a text, an include and one more text. -/
theorem print_includeNodes (hbefore : IsPlain before.toList) (hafter : IsPlain after.toList) :
    (⟨none, includeNodes before name after⟩ : Template Unit).print =
      includeSource before name after := by
  apply String.toList_injective
  unfold Template.print includeSource
  have hspell : spellAll (flatBody (includeNodes before name after)) =
      escaped before.toList ++ ((Lexed.marker .output (includeCode name)).spelling ++
        spellAll (flatBody (textNodes after))) := rfl
  rw [String.toList_ofList, hspell, spellAll_textNodes hafter, escaped_plain hbefore]
  have hmarker : (Lexed.marker .output (includeCode name)).spelling =
      "<%= ".toList ++ ((includeCode name).toList ++ " %>".toList) := rfl
  rw [hmarker]
  simp only [String.toList_append, List.append_assoc]

theorem wellFormed_includeNodes (hbefore : before ≠ "") (h : IsSimple name) :
    bodyWellFormed (includeNodes before name after) = true := by
  have htexts := wellFormed_textNodes after
  unfold includeNodes
  simp [bodyWellFormed, Node.wellFormed, Node.isText, hbefore, lacksEnd_includeCode h,
    standsAlone_includeCode h, htexts]

theorem of_unplaced_textNodes (h : unplacedBody body = textNodes after) :
    (body = [] ∧ after = "") ∨ ∃ p, body = [.text p after] := by
  unfold textNodes at h
  split at h
  · rename_i hempty
    exact Or.inl ⟨of_unplacedBody_nil h, hempty⟩
  · obtain ⟨n, ns, rfl, hn, hns⟩ := of_unplacedBody_cons h
    obtain rfl := of_unplacedBody_nil hns
    obtain ⟨p, rfl⟩ := of_unplaced_text hn
    exact Or.inr ⟨p, rfl⟩

theorem of_unplaced_includeNodes (h : unplacedBody body = includeNodes before name after) :
    ∃ p q rest, body = .text p before :: .expr ⟨q, .output, includeCode name, ()⟩ :: rest
      ∧ unplacedBody rest = textNodes after := by
  obtain ⟨n, ns, rfl, hn, hns⟩ := of_unplacedBody_cons h
  obtain ⟨m, rest, rfl, hm, hrest⟩ := of_unplacedBody_cons hns
  obtain ⟨p, rfl⟩ := of_unplaced_text hn
  obtain ⟨q, rfl⟩ := of_unplaced_expr hm
  exact ⟨p, q, rest, rfl, hrest⟩

end Trees

/-! ## §4. Their programs. -/

section Programs

open Inlay.Indent

variable {before name after : String} {body : List (Node Unit)} {limit : Int}

theorem resolveBody_textNodes (h : unplacedBody body = textNodes after)
    (hroom : bodyHasRoom limit body) (previous : Option (Node Unit)) :
    (resolveBody previous body = [] ∧ after = "") ∨
      ∃ p, resolveBody previous body = [.text p after] ∧ p.HasRoom limit 0 := by
  rcases of_unplaced_textNodes h with ⟨rfl, hempty⟩ | ⟨p, rfl⟩
  · exact Or.inl ⟨rfl, hempty⟩
  · have hresolve : resolveBody previous [.text p after] = textUnlessEmpty p after := by
      rw [resolveBody, resolveBody, List.append_nil]
      rfl
    rw [hresolve]
    unfold textUnlessEmpty
    by_cases hempty : after.isEmpty = true
    · rw [if_pos hempty]
      exact Or.inl ⟨rfl, String.isEmpty_iff.1 hempty⟩
    · rw [if_neg hempty]
      exact Or.inr ⟨p, rfl, hroom.1⟩

/-- The marker of an include, resolved. -/
def includeMarker (q : Position) (before name : String) : Marker Placement :=
  ⟨q, .output, includeCode name, { indentation := trailingString before }⟩

theorem resolveBody_includeNodes (h : unplacedBody body = includeNodes before name after)
    (hroom : bodyHasRoom limit body) (hbefore : before ≠ "") :
    ∃ p q rest, resolveBody none body = .text p before :: .expr (includeMarker q before name) :: rest
      ∧ p.HasRoom limit 0 ∧ q.HasRoom limit (includeCode name).length
      ∧ ((rest = [] ∧ after = "") ∨ ∃ p', rest = [.text p' after] ∧ p'.HasRoom limit 0) := by
  obtain ⟨p, q, tail, rfl, htail⟩ := of_unplaced_includeNodes h
  obtain ⟨hp, hq, htailRoom⟩ := hroom
  refine ⟨p, q, _, ?_, hp, hq, resolveBody_textNodes htail htailRoom
    (some (.expr ⟨q, .output, includeCode name, ()⟩))⟩
  have htext : textUnlessEmpty p before = [.text p before] := by
    unfold textUnlessEmpty
    rw [if_neg (by simpa using hbefore)]
  rw [resolveBody, resolveBody]
  show textUnlessEmpty p before ++ _ = _
  rw [htext]
  rfl

theorem builds_tail {loops : Nat} {rest : List (Node Placement)}
    (h : (rest = [] ∧ after = "") ∨ ∃ p, rest = [.text p after] ∧ p.HasRoom limit 0)
    (hlimit : limit < lineLimit) : Builds loops (bodyStmts outputName rest) := by
  rcases h with ⟨rfl, -⟩ | ⟨p, rfl, hp⟩
  · exact .nil
  · exact .cons (.text (Or.inl rfl) hp hlimit) .nil

theorem fitsNesting_of_texts {ns : List (Node Unit)}
    (h : ∀ n ∈ ns, ∀ m cs, n ≠ .block m cs) : fitsNesting ns = true := by
  unfold fitsNesting
  induction ns with
  | nil => rfl
  | cons n ns ih =>
    obtain ⟨hn, hns⟩ := List.forall_mem_cons.1 h
    rw [bodyNests, ih hns, Bool.and_true]
    cases n with
    | text p v => rfl
    | expr m => rfl
    | block m cs => exact absurd rfl (hn m cs)

theorem build_textNodes {tree : Template Unit} (h : unplacedBody tree.body = textNodes after)
    (hroom : bodyHasRoom limit tree.body) (hlimit : limit < lineLimit) :
    ∃ program, build tree = .ok program ∧ bodyAnnotates program = false := by
  refine build_of_builds (fitsNesting_of_texts ?_)
    (builds_tail (resolveBody_textNodes h hroom none) hlimit)
  rcases of_unplaced_textNodes h with ⟨hbody, -⟩ | ⟨p, hbody⟩ <;> rw [hbody] <;> simp

theorem build_includeNodes {tree : Template Unit}
    (h : unplacedBody tree.body = includeNodes before name after) (hname : IsSimple name)
    (hbefore : before ≠ "") (hroom : bodyHasRoom limit tree.body) (hlimit : limit < lineLimit) :
    ∃ program, build tree = .ok program ∧ bodyAnnotates program = false := by
  obtain ⟨p, q, rest, hresolve, hp, hq, hrest⟩ := resolveBody_includeNodes h hroom hbefore
  refine build_of_builds (fitsNesting_of_texts ?_) ?_
  · obtain ⟨p, q, tail, hbody, htail⟩ := of_unplaced_includeNodes h
    rw [hbody]
    rcases of_unplaced_textNodes htail with ⟨rfl, -⟩ | ⟨p', rfl⟩ <;> simp
  · show Builds _ (bodyStmts outputName (resolveBody none tree.body))
    rw [hresolve]
    obtain ⟨hnormal, hnul⟩ := normalize_includeCode hname
    refine .cons (.text (Or.inl rfl) hp hlimit) (.cons ?_ (builds_tail hrest hlimit))
    refine .output (Or.inl rfl) rfl rfl hq hlimit (e := includeCall name) ?_ ?_ ⟨rfl, rfl⟩ ?_
    · exact (congrArg (·.toList.contains '\x00') hnormal).trans hnul
    · exact (congrArg parseExpression? hnormal).trans (parseExpression?_includeCode hname)
    · refine .callOf (.name (by decide)) (List.forall_mem_cons.2 ⟨?_, ?_⟩)
      · exact .callOf (.name (by decide)) (List.forall_mem_singleton.2 (.constant _))
      · exact List.forall_mem_singleton.2 (.constant _)

end Programs

end Inlay
