/-
  Inlay.Proofs.Traffic
  ────────────────────────────────
  **WHAT A PROGRAM DOES WITH ITS LISTS.**

  A list of output is made empty, appended to, and at the end joined and
  appended to another one.  The traffic of some statements is what they do to
  lists, in the order in which it is written; the traffic of a tree is what
  its nodes ask for, with the lists numbered in the order of the pipe blocks.

      traffic_wrapIncludes — code of authors has no traffic
      openers_of_parse     — pipe blocks are numbered as their openers stand
                             in the source
-/
import Inlay.Proofs.Balance
import Inlay.Proofs.Holding
import Inlay.Proofs.Unnesting
import Inlay.Proofs.Wrapping

namespace Inlay.Program

open Inlay.Code

/-! ## §1. Lists. -/

/-- Is the name one that lists of output may have? -/
def isListName (name : String) : Bool := name == outputName || name.startsWith "_snug_buf"

theorem isListName_iff (name : String) :
    isListName name = true ↔ name = outputName ∨ "_snug_buf".toList <+: name.toList := by
  unfold isListName
  rw [Bool.or_eq_true, beq_iff_eq, String.startsWith_string_iff]

theorem isListName_of_isBuffer {name : String} (h : IsBuffer name) : isListName name = true := by
  rw [isListName_iff]
  refine h.imp_right ?_
  rintro ⟨i, rfl⟩
  unfold bufferName
  rw [String.toList_append]
  exact List.prefix_append _ _

theorem isReserved_of_isListName {name : String} (h : isListName name = true) :
    isReserved name = true := by
  rw [isReserved_iff]
  rcases (isListName_iff name).1 h with rfl | hname
  · decide
  · exact List.IsPrefix.trans (by decide) hname

/-- The other names that a program uses. -/
def otherNames : List String :=
  [textName, realignName, reindentName, includeName, contextName, resultName]

theorem isListName_other {name : String} (h : name ∈ otherNames) : isListName name = false := by
  have hall : ∀ n ∈ otherNames, n ≠ outputName ∧ ¬"_snug_buf".toList <+: n.toList := by decide
  rw [← Bool.not_eq_true, isListName_iff]
  exact not_or.2 (hall name h)

/-- What a statement does to lists of output. -/
inductive ListOp where
  /-- The list becomes empty. -/
  | start (list : String)
  /-- A piece goes to the end of the list. -/
  | append (list : String)
  /-- All of the first list, realigned, goes to the end of the second one. -/
  | flush (list target : String)
  deriving Repr, DecidableEq

namespace ListOp

/-- The list that becomes empty. -/
def started? : ListOp → Option String
  | start list => some list
  | _ => none

/-- The lists that take part. -/
def lists : ListOp → List String
  | start list => [list]
  | append list => [list]
  | flush list target => [list, target]

end ListOp

/-- The list whose joined pieces are realigned. -/
def flushed? : Expr → Option String
  | .call (.name f) (.call (.attribute _ member) [.name list] [] :: _) [] =>
    if f = realignName ∧ member = "join" ∧ isListName list = true then some list else none
  | _ => none

/-- What a statement itself does to a list. -/
def listOp? : Stmt → Option ListOp
  | .assign [.name list] (.list []) => if isListName list then some (.start list) else none
  | .expression (.call (.attribute (.name list) member) [piece] []) =>
    if isListName list ∧ member = "append" then
      some (match flushed? piece with
        | some inner => .flush inner list
        | none => .append list)
    else none
  | _ => none

/-- What statements do to lists, those in their bodies included. -/
def traffic (ss : List Stmt) : List ListOp := (unnestedIn ss).filterMap listOp?

theorem traffic_append (ss ss' : List Stmt) : traffic (ss ++ ss') = traffic ss ++ traffic ss' := by
  unfold traffic
  rw [unnestedIn_append, List.filterMap_append]

theorem traffic_cons (s : Stmt) (ss : List Stmt) :
    traffic (s :: ss) = s.unnested.filterMap listOp? ++ traffic ss := by
  unfold traffic
  rw [unnestedIn, List.filterMap_append]

section Statements

variable {list target : String}

theorem listOp?_startBuffer (h : isListName list = true) :
    listOp? (startBuffer list) = some (.start list) := if_pos h

theorem listOp?_appendTo (h : isListName list = true) {v : Expr} (hv : flushed? v = none) :
    listOp? (appendTo list v) = some (.append list) := by
  show (if isListName list ∧ "append" = "append" then some _ else none) = _
  rw [if_pos ⟨h, rfl⟩, hv]

theorem listOp?_flush (h : isListName list = true) (htarget : isListName target = true)
    (baseline indentation : String) (trims : Bool) :
    listOp? (appendTo list (realigned (joined target) baseline indentation trims))
      = some (.flush target list) := by
  have hflushed : flushed? (realigned (joined target) baseline indentation trims) = some target :=
    if_pos ⟨rfl, rfl, htarget⟩
  show (if isListName list ∧ "append" = "append" then some _ else none) = _
  rw [if_pos ⟨h, rfl⟩, hflushed]

end Statements

/-! ## §2. Code that keeps clear. -/

/-- Does an expression mention no reserved name? -/
def KeepsClear (e : Expr) : Prop := ∀ id, e.Mentions id → isReserved id = false

/-- Does a statement mention no reserved name, and none that stands in it? -/
def StmtKeepsClear (s : Stmt) : Prop := ∀ u ∈ s.unnested, ∀ id, u.Mentions id → isReserved id = false

mutual

/-- Does the code of a node mention no reserved name? -/
def nodeKeepsClear {α : Type} : Node α → Prop
  | .text _ _ => True
  | .expr m =>
    if m.kind = .silent then
      ∀ ss, parseStatements? (Header.normalize m.code) = some ss → ∀ s ∈ ss, StmtKeepsClear s
    else ∀ e, parseExpression? (Header.normalize m.code) = some e → KeepsClear e
  | .block _ clauses =>
    (∀ s, skeleton (clauses.map Clause.code) = .ok s → StmtKeepsClear s.statement)
      ∧ clausesKeepClear clauses

/-- Does the code of some nodes mention no reserved name? -/
def bodyKeepsClear {α : Type} : List (Node α) → Prop
  | [] => True
  | node :: rest => nodeKeepsClear node ∧ bodyKeepsClear rest

/-- Does the code in the bodies of some clauses mention no reserved name? -/
def clausesKeepClear {α : Type} : List (Clause α) → Prop
  | [] => True
  | .mk _ _ body :: rest => bodyKeepsClear body ∧ clausesKeepClear rest

end

section Wrapped

variable {i id : String} {e : Expr}

theorem ownNames_mapParts (f : Expr → Expr) (e : Expr) : (e.mapParts f).ownNames = e.ownNames := by
  cases e
  case lambda params body => exact names_mapExprs f params
  all_goals rfl

theorem mentions_name {name : String} (h : (Expr.name name).Mentions id) : id = name := by
  obtain ⟨x, hx, hid⟩ := h
  rw [eq_of_within_name hx] at hid
  exact List.mem_singleton.1 hid

theorem not_mentions_constant {c : Constant} : ¬(Expr.constant c).Mentions id := by
  rintro ⟨x, hx, hid⟩
  rw [eq_of_within_constant hx] at hid
  cases hid

/-- An expression mentions what it mentions itself, and what its parts mention. -/
theorem mentions_cases (h : e.Mentions id) : id ∈ e.ownNames ∨ ∃ x ∈ e.children, x.Mentions id := by
  obtain ⟨x, hx, hid⟩ := h
  cases hx with
  | self => exact Or.inl hid
  | part hy hx => exact Or.inr ⟨_, hy, x, hx, hid⟩

theorem mentions_part {x : Expr} (hx : x ∈ e.children) (h : x.Mentions id) : e.Mentions id :=
  h.imp fun _ hy => ⟨.part hx hy.1, hy.2⟩

/-- Wrapping brings in the names of two helpers, and nothing else. -/
theorem mentions_wrapIncludes (h : (wrapIncludes i e).Mentions id) :
    id = reindentName ∨ id = includeName ∨ e.Mentions id := by
  induction e using children_induction with
  | h e ih =>
    have hpart : ∀ x ∈ e.children.map (wrapIncludes i), x.Mentions id →
        id = reindentName ∨ id = includeName ∨ e.Mentions id := by
      intro x hx hmentions
      obtain ⟨y, hy, rfl⟩ := List.mem_map.1 hx
      exact (ih y hy hmentions).imp_right fun hrest => hrest.imp_right (mentions_part hy)
    cases hcall : isIncludeCall e with
    | false =>
      rw [wrapIncludes_other hcall] at h
      rcases mentions_cases h with hown | ⟨x, hx, hmentions⟩
      · rw [ownNames_mapParts] at hown
        exact Or.inr (Or.inr ⟨e, .self, hown⟩)
      · rw [children_mapParts] at hx
        exact hpart x hx hmentions
    | true =>
      obtain ⟨args, keywords, rfl⟩ := exists_of_isIncludeCall hcall
      rw [wrapIncludes_include] at h
      rcases mentions_cases h with hown | ⟨x, hx, hmentions⟩
      · cases hown
      rw [children_call] at hx
      -- the helper that indents, the inner call, or the indentation
      rcases List.mem_cons.1 hx with rfl | hx
      · exact Or.inl (mentions_name hmentions)
      rcases List.mem_cons.1 hx with rfl | hx
      · rcases mentions_cases hmentions with hown | ⟨y, hy, hmentions⟩
        · cases hown
        rw [children_call, keywordExprs_mapExprs, ← List.map_append] at hy
        rcases List.mem_cons.1 hy with rfl | hy
        · exact Or.inr (Or.inl (mentions_name hmentions))
        · refine hpart y ?_ hmentions
          rw [children_call, List.map_cons]
          exact List.mem_cons_of_mem _ hy
      · obtain rfl := List.mem_singleton.1 hx
        exact absurd hmentions not_mentions_constant

theorem mentions_wrapIncludesIn {s : Stmt} (h : (wrapIncludesIn i s).Mentions id) :
    id = reindentName ∨ id = includeName ∨ s.Mentions id := by
  rcases h with hid | ⟨e, he, hid⟩
  · rw [show (wrapIncludesIn i s).binders = s.binders from binders_mapExprs _ s] at hid
    exact Or.inr (Or.inr (Or.inl hid))
  · rw [show (wrapIncludesIn i s).expressions = s.expressions.map (wrapIncludes i) from
      Stmt.expressions_mapExprs _ s] at he
    obtain ⟨e', he', rfl⟩ := List.mem_map.1 he
    exact (mentions_wrapIncludes hid).imp_right fun hrest =>
      hrest.imp_right fun hid => Or.inr ⟨e', he', hid⟩

/-- Where wrapped code mentions a list, the code itself mentions a reserved name. -/
theorem mentions_of_isListName {p : Prop} (hid : isListName id = true)
    (h : id = reindentName ∨ id = includeName ∨ p) : isReserved id = true ∧ p := by
  refine ⟨isReserved_of_isListName hid, ?_⟩
  rcases h with hname | hname | hp
  · rw [hname, isListName_other (by decide)] at hid
    cases hid
  · rw [hname, isListName_other (by decide)] at hid
    cases hid
  · exact hp

/-- Code that keeps clear of reserved names keeps clear of lists, also when it is wrapped. -/
theorem KeepsClear.not_mentions (h : KeepsClear e) (hid : isListName id = true) :
    ¬(wrapIncludes i e).Mentions id := by
  intro hmentions
  obtain ⟨hreserved, hmentions⟩ := mentions_of_isListName hid (mentions_wrapIncludes hmentions)
  rw [h id hmentions] at hreserved
  cases hreserved

theorem StmtKeepsClear.not_mentions {s u : Stmt} (h : StmtKeepsClear s)
    (hu : u ∈ (wrapIncludesIn i s).unnested) (hid : isListName id = true) : ¬u.Mentions id := by
  rw [show (wrapIncludesIn i s).unnested = s.unnested.map (wrapIncludesIn i) from
    unnested_mapExprs _ s] at hu
  obtain ⟨v, hv, rfl⟩ := List.mem_map.1 hu
  intro hmentions
  obtain ⟨hreserved, hmentions⟩ := mentions_of_isListName hid (mentions_wrapIncludesIn hmentions)
  rw [h v hv id hmentions] at hreserved
  cases hreserved

/-- What a statement does to a list it does by its name. -/
theorem exists_mentions_of_listOp? {u : Stmt} {op : ListOp} (h : listOp? u = some op) :
    ∃ list, isListName list = true ∧ u.Mentions list := by
  unfold listOp? at h
  split at h
  · rename_i list
    split at h
    · rename_i hlist
      exact ⟨list, hlist, Or.inr ⟨.name list, List.mem_cons_self, _, .self, List.mem_cons_self⟩⟩
    · cases h
  · rename_i list member piece
    split at h
    · rename_i hlist
      refine ⟨list, hlist.1, Or.inr ⟨_, List.mem_cons_self, .name list, ?_, List.mem_cons_self⟩⟩
      refine .part (y := .attribute (.name list) member) ?_ (.part (y := .name list) ?_ .self)
      · rw [children_call]
        exact List.mem_cons_self
      · exact List.mem_cons_self
    · cases h
  · cases h

/-- **Code of authors has no traffic**, if it keeps clear of reserved names. -/
theorem StmtKeepsClear.misses {s : Stmt} (h : StmtKeepsClear s) (i : String) :
    Misses listOp? (wrapIncludesIn i s).unnested := by
  intro u hu
  cases hop : listOp? u with
  | none => rfl
  | some op =>
    obtain ⟨list, hlist, hmentions⟩ := exists_mentions_of_listOp? hop
    exact absurd hmentions (h.not_mentions hu hlist)

end Wrapped

/-! ## §3. Trees. -/

mutual

/-- The openers of the pipe blocks of a node, in the order in which they stand. -/
def nodeOpeners {α : Type} : Node α → List Position
  | .text _ _ => []
  | .expr _ => []
  | .block m clauses =>
    (if m.kind = .pipe then [m.position] else []) ++ clausesOpeners clauses

/-- The openers of the pipe blocks of some nodes. -/
def bodyOpeners {α : Type} : List (Node α) → List Position
  | [] => []
  | node :: rest => nodeOpeners node ++ bodyOpeners rest

/-- The openers of the pipe blocks in the bodies of some clauses. -/
def clausesOpeners {α : Type} : List (Clause α) → List Position
  | [] => []
  | .mk _ _ body :: rest => bodyOpeners body ++ clausesOpeners rest

end

mutual

/-- What a node asks for that writes to the list, if so many pipe blocks are in front of it. -/
def nodeTraffic (list : String) (used : Nat) : Node Placement → List ListOp
  | .text _ v => if v.isEmpty then [] else [.append list]
  | .expr m => if m.kind = .silent then [] else [.append list]
  | .block m clauses =>
    if m.kind = .pipe then
      .start (bufferName (used + 1)) :: (clausesTraffic (bufferName (used + 1)) (used + 1) clauses
        ++ [.flush (bufferName (used + 1)) list])
    else clausesTraffic list used clauses

/-- What some nodes ask for. -/
def bodyTraffic (list : String) (used : Nat) : List (Node Placement) → List ListOp
  | [] => []
  | node :: rest =>
    nodeTraffic list used node ++ bodyTraffic list (used + (nodeOpeners node).length) rest

/-- What the bodies of some clauses ask for; in front of the first `case` nothing is written. -/
def clausesTraffic (list : String) (used : Nat) : List (Clause Placement) → List ListOp
  | [] => []
  | .mk _ code body :: rest =>
    (if Header.hasBody code then bodyTraffic list used body else [])
      ++ clausesTraffic list (used + (bodyOpeners body).length) rest

end

section Trees

variable {α : Type}

theorem bodyOpeners_append (ns ns' : List (Node α)) :
    bodyOpeners (ns ++ ns') = bodyOpeners ns ++ bodyOpeners ns' := by
  induction ns with
  | nil => rfl
  | cons n ns ih => rw [List.cons_append, bodyOpeners, ih, bodyOpeners, List.append_assoc]

theorem clausesOpeners_append (cs cs' : List (Clause α)) :
    clausesOpeners (cs ++ cs') = clausesOpeners cs ++ clausesOpeners cs' := by
  induction cs with
  | nil => rfl
  | cons c cs ih =>
    obtain ⟨p, code, body⟩ := c
    rw [List.cons_append, clausesOpeners, clausesOpeners, ih, List.append_assoc]

theorem bodyKeepsClear_append {ns ns' : List (Node α)} :
    bodyKeepsClear (ns ++ ns') ↔ bodyKeepsClear ns ∧ bodyKeepsClear ns' := by
  induction ns with
  | nil => exact ⟨fun h => ⟨trivial, h⟩, fun h => h.2⟩
  | cons n ns ih => rw [List.cons_append, bodyKeepsClear, ih, bodyKeepsClear, and_assoc]

end Trees

/-! ## §4. Resolving indentation. -/

section Resolving

open Indent

theorem openers_textUnlessEmpty (p : Position) (v : String) :
    bodyOpeners (textUnlessEmpty p v) = [] := by
  unfold textUnlessEmpty
  split <;> rfl

theorem bodyKeepsClear_textUnlessEmpty (p : Position) (v : String) :
    bodyKeepsClear (textUnlessEmpty p v) := by
  unfold textUnlessEmpty
  split
  · trivial
  · exact ⟨trivial, trivial⟩

theorem openers_trimLast (ns : List (Node Placement)) :
    bodyOpeners (trimLast ns) = bodyOpeners ns := by
  unfold trimLast
  split
  · rename_i p v hlast
    obtain ⟨ms, rfl⟩ := List.getLast?_eq_some_iff.1 hlast
    rw [List.dropLast_concat, bodyOpeners_append, bodyOpeners_append, openers_textUnlessEmpty]
    rfl
  · rfl

theorem bodyKeepsClear.trimLast {ns : List (Node Placement)} (h : bodyKeepsClear ns) :
    bodyKeepsClear (trimLast ns) := by
  unfold Indent.trimLast
  split
  · rename_i p v hlast
    obtain ⟨ms, rfl⟩ := List.getLast?_eq_some_iff.1 hlast
    rw [List.dropLast_concat, bodyKeepsClear_append]
    exact ⟨(bodyKeepsClear_append.1 h).1, bodyKeepsClear_textUnlessEmpty p _⟩
  · exact h

theorem map_code_resolveClauses (isPipe : Bool) (cs : List (Clause Unit)) :
    (resolveClauses isPipe cs).map Clause.code = cs.map Clause.code := by
  induction cs with
  | nil => rfl
  | cons c cs ih =>
    obtain ⟨p, code, body⟩ := c
    rw [resolveClauses, List.map_cons, List.map_cons, ih]
    rfl

mutual

theorem openers_resolveNode (previous : Option (Node Unit)) (beforePipe : Bool) :
    ∀ node : Node Unit, bodyOpeners (resolveNode previous beforePipe node) = nodeOpeners node
  | .text p v => by
    rw [resolveNode]
    exact openers_textUnlessEmpty p _
  | .expr m => rfl
  | .block m clauses => by
    rw [resolveNode, nodeOpeners]
    split
    · rename_i hm
      rw [bodyOpeners, bodyOpeners, nodeOpeners, if_pos hm, List.append_nil,
        openers_resolveClauses true clauses]
    · rename_i hm
      rw [bodyOpeners, bodyOpeners, nodeOpeners, if_neg hm, List.append_nil,
        openers_resolveClauses false clauses]

/-- Resolving indentation keeps the pipe blocks. -/
theorem openers_resolveBody (previous : Option (Node Unit)) :
    ∀ ns : List (Node Unit), bodyOpeners (resolveBody previous ns) = bodyOpeners ns
  | [] => rfl
  | node :: rest => by
    rw [resolveBody, bodyOpeners_append, openers_resolveNode, openers_resolveBody, bodyOpeners]

theorem openers_resolveClauses (isPipe : Bool) :
    ∀ cs : List (Clause Unit), clausesOpeners (resolveClauses isPipe cs) = clausesOpeners cs
  | [] => rfl
  | .mk p code body :: rest => by
    rw [resolveClauses, clausesOpeners, clausesOpeners, openers_resolveClauses isPipe rest,
      ← openers_resolveBody none body]
    cases isPipe
    · rfl
    · exact congrArg (· ++ _) (openers_trimLast _)

end

mutual

theorem keepsClear_resolveNode (previous : Option (Node Unit)) (beforePipe : Bool) :
    ∀ node : Node Unit, nodeKeepsClear node →
      bodyKeepsClear (resolveNode previous beforePipe node)
  | .text p v, _ => by
    rw [resolveNode]
    exact bodyKeepsClear_textUnlessEmpty p _
  | .expr m, h => ⟨h, trivial⟩
  | .block m clauses, h => by
    obtain ⟨hskeleton, hclauses⟩ := h
    rw [resolveNode]
    split
    · refine ⟨⟨?_, keepsClear_resolveClauses true clauses hclauses⟩, trivial⟩
      rwa [map_code_resolveClauses]
    · refine ⟨⟨?_, keepsClear_resolveClauses false clauses hclauses⟩, trivial⟩
      rwa [map_code_resolveClauses]

/-- Resolving indentation keeps the code. -/
theorem keepsClear_resolveBody (previous : Option (Node Unit)) :
    ∀ ns : List (Node Unit), bodyKeepsClear ns → bodyKeepsClear (resolveBody previous ns)
  | [], _ => trivial
  | node :: rest, h => by
    rw [resolveBody, bodyKeepsClear_append]
    exact ⟨keepsClear_resolveNode previous _ node h.1, keepsClear_resolveBody _ rest h.2⟩

theorem keepsClear_resolveClauses (isPipe : Bool) :
    ∀ cs : List (Clause Unit), clausesKeepClear cs → clausesKeepClear (resolveClauses isPipe cs)
  | [], _ => trivial
  | .mk p code body :: rest, h => by
    have hbody := keepsClear_resolveBody none body h.1
    refine ⟨?_, keepsClear_resolveClauses isPipe rest h.2⟩
    cases isPipe
    · exact hbody
    · exact hbody.trimLast

end

end Resolving

end Inlay.Program

namespace Inlay

open Program

/-! ## §5. The order of the source. -/

/-- Does the token open a pipe block? -/
def Token.opensPipe (t : Token) : Bool := t.kind = .marker .pipe && Header.opensBlock t.value

/-- The places of the tokens that open pipe blocks. -/
def openersOf (ts : List Token) : List Position := (ts.filter Token.opensPipe).map Token.position

theorem openersOf_cons (t : Token) (ts : List Token) :
    openersOf (t :: ts) = openersOf [t] ++ openersOf ts := by
  unfold openersOf
  rw [← List.map_append, ← List.filter_append, List.singleton_append]

theorem openersOf_nil {t : Token} (h : t.opensPipe = false) : openersOf [t] = [] := by
  unfold openersOf
  rw [List.filter_cons_of_neg (by rw [h]; exact Bool.false_ne_true)]
  rfl

/-- The pipe blocks of a block that is still open, its own opener first. -/
def OpenBlock.openers (o : OpenBlock) : List Position :=
  (if o.opener.kind = .pipe then [o.opener.position] else [])
    ++ (clausesOpeners o.finished ++ bodyOpeners o.body)

namespace Builder

/-- The openers of pipe blocks that have been taken in. -/
def openers (b : Builder) : List Position :=
  bodyOpeners b.root ++ b.stack.reverse.flatMap OpenBlock.openers

theorem openers_close (o : OpenBlock) : nodeOpeners o.close = o.openers := by
  rw [OpenBlock.close, nodeOpeners, OpenBlock.clauses, clausesOpeners_append, clausesOpeners,
    clausesOpeners, List.append_nil]
  rfl

theorem openers_continueWith (o : OpenBlock) (t : Token) :
    (o.continueWith t).openers = o.openers := by
  have hclauses : clausesOpeners o.clauses ++ bodyOpeners ([] : List (Node Unit))
      = clausesOpeners o.finished ++ bodyOpeners o.body := by
    rw [OpenBlock.clauses, clausesOpeners_append, clausesOpeners, clausesOpeners, List.append_nil,
      bodyOpeners, List.append_nil]
  exact congrArg (_ ++ ·) hclauses

theorem openers_push (root : List (Node Unit)) (top : OpenBlock) (rest : List OpenBlock) :
    openers ⟨root, top :: rest⟩ = openers ⟨root, rest⟩ ++ top.openers := by
  unfold openers
  rw [List.reverse_cons, List.flatMap_append, List.flatMap_singleton, List.append_assoc]

/-- The innermost body stands at the end. -/
theorem openers_mapBody (b : Builder) {f : List (Node Unit) → List (Node Unit)}
    {more : List Position} (hf : ∀ ns, bodyOpeners (f ns) = bodyOpeners ns ++ more) :
    (b.mapBody f).openers = b.openers ++ more := by
  obtain ⟨root, stack⟩ := b
  cases stack with
  | nil =>
    show bodyOpeners (f root) ++ [] = bodyOpeners root ++ [] ++ more
    rw [hf, List.append_nil, List.append_nil]
  | cons top rest =>
    show openers ⟨root, { top with body := f top.body } :: rest⟩ = _
    rw [openers_push, openers_push, OpenBlock.openers, OpenBlock.openers, hf, List.append_assoc,
      List.append_assoc, List.append_assoc]

theorem openers_append (b : Builder) (n : Node Unit) :
    (b.mapBody (· ++ [n])).openers = b.openers ++ nodeOpeners n := by
  refine b.openers_mapBody fun ns => ?_
  rw [bodyOpeners_append, bodyOpeners, bodyOpeners, List.append_nil]

theorem openers_appendText (b : Builder) (p : Position) (v : String) :
    (b.mapBody (appendText p v)).openers = b.openers := by
  have hkeeps : ∀ ns : List (Node Unit),
      bodyOpeners (appendText p v ns) = bodyOpeners ns ++ [] := by
    intro ns
    unfold appendText
    split
    · rename_i q w hlast
      obtain ⟨ms, rfl⟩ := List.getLast?_eq_some_iff.1 hlast
      rw [List.dropLast_concat, bodyOpeners_append, bodyOpeners_append, List.append_nil]
      rfl
    · rw [bodyOpeners_append]
      rfl
  rw [b.openers_mapBody hkeeps, List.append_nil]

theorem openers_takes {b b' : Builder} {kind : MarkerKind} {t : Token}
    (hkind : t.kind = .marker kind) (h : Takes kind t b (.ok b')) :
    b'.openers = b.openers ++ openersOf [t] := by
  have hnone : Header.opensBlock t.value = false → openersOf [t] = [] := by
    intro hopens
    refine openersOf_nil ?_
    rw [Token.opensPipe, hopens, Bool.and_false]
  cases h with
  | closed hend =>
    have hopens : Header.opensBlock t.value = false := by
      by_contra hopens
      rw [closesBlock_of_opensBlock (by simpa using hopens)] at hend
      cases hend
    rw [hnone hopens, List.append_nil, openers_append, openers_close, openers_push]
  | continued hend hword =>
    have hopens : Header.opensBlock t.value = false := by
      by_contra hopens
      rw [clauseWord?_of_opensBlock (by simpa using hopens)] at hword
      cases hword
    rw [hnone hopens, List.append_nil, openers_push, openers_push, openers_continueWith]
  | @opened root stack hend hword hopens =>
    rw [openers_push]
    refine congrArg (openers ⟨root, stack⟩ ++ ·) ?_
    unfold openersOf OpenBlock.openers
    rw [List.filter_cons, List.filter_nil, Token.opensPipe, hkind, hopens, Bool.and_true]
    cases kind <;> rfl
  | placed hend hword hopens =>
    rw [hnone hopens, openers_append]
    rfl

theorem openers_takeAll {ts : List Token} {b b' : Builder} (h : b.takeAll ts = .ok b') :
    b'.openers = b.openers ++ openersOf (significant ts) := by
  induction ts generalizing b with
  | nil =>
    obtain rfl := Except.ok.inj h
    exact (List.append_nil _).symm
  | cons t ts ih =>
    unfold takeAll at h
    rw [significant_cons]
    split at h
    · rename_i hkind
      obtain rfl := Except.ok.inj h
      rw [if_pos hkind]
      exact (List.append_nil _).symm
    · rename_i hkind
      have hnone : openersOf [t] = [] := by
        refine openersOf_nil ?_
        rw [Token.opensPipe, hkind]
        rfl
      rw [if_neg (by rw [hkind]; simp), if_neg (by rw [hkind]; simp), openersOf_cons, hnone, ih h,
        openers_appendText]
      rfl
    · rename_i hkind
      rw [if_neg (by rw [hkind]; simp), if_pos hkind]
      exact ih h
    · rename_i kind hkind
      rw [if_neg (by rw [hkind]; simp), if_neg (by rw [hkind]; simp), openersOf_cons]
      split at h
      · cases h
      · rename_i b₁ hb₁
        rw [ih h, openers_takes hkind (takes_of_takeMarker hb₁), List.append_assoc]

end Builder

/-- **The pipe blocks of a tree stand in the order of their openers in the source.** -/
theorem openers_of_parse {name : Option String} {tokens : List Token} {t : Template Unit}
    (h : parse name tokens = .ok t) :
    bodyOpeners t.body = openersOf (significant tokens) := by
  have hopeners := Builder.openers_takeAll (takeAll_of_parse h)
  unfold Builder.openers at hopeners
  rw [List.reverse_nil, List.flatMap_nil, List.append_nil] at hopeners
  exact hopeners

end Inlay
