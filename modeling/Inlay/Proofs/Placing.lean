/-
  Inlay.Proofs.Placing
  ────────────────────────────────
  **THE PLACE OF A BODY.**

  What compound statement some clauses form does not depend on their bodies:
  it is a template that the bodies are put into.  So the place of a body
  depends on the words that the clauses start with, and filling the slots of
  a template puts the other bodies into it:

      placeOf       — the place of a body, by the words of the clauses
      BlockOf       — the template of a header and its clauses
      slotPath_spec — the list at the place of a slot is the `pass` alone
-/
import Inlay.Proofs.Filling
import Inlay.Proofs.Shaping

namespace Inlay.Code

/-! ## §1. Places. -/

/-- The path into an `if` that stands so many times in the `else` of another. -/
def nested : Nat → List Step → List Step
  | 0, path => path
  | n + 1, path => .orelse :: .statement 0 :: nested n path

/-- The place of the body of a clause, by the words that the clauses of the statement start with. -/
def placeOf (words : List String) (i : Nat) : List Step :=
  match words[i]? with
  | some "elif" => nested i [.body]
  | some "else" => nested (words.count "elif") [.orelse]
  | some "except" => [.handler ((words.take i).count "except"), .body]
  | some "finally" => [.finalbody]
  | some "case" => [.case ((words.take i).count "case"), .body]
  | _ => [.body]

/-- The body of a handler. -/
def Handler.body : Handler → List Stmt
  | .mk _ _ body => body

/-- The body of a case. -/
def Case.body : Case → List Stmt
  | .mk _ _ body => body

/-- The bodies of a statement, by the step that leads to each. -/
def Stmt.bodyAt? : Step → Stmt → Option (List Stmt)
  | .body, .conditional _ body _ => some body
  | .body, .whileLoop _ body _ => some body
  | .body, .forLoop _ _ _ body _ => some body
  | .body, .withBlock _ _ body => some body
  | .body, .tryBlock _ body _ _ _ => some body
  | .body, .function _ _ _ body _ _ => some body
  | .body, .classBlock _ _ _ body _ => some body
  | .orelse, .conditional _ _ orelse => some orelse
  | .orelse, .whileLoop _ _ orelse => some orelse
  | .orelse, .forLoop _ _ _ _ orelse => some orelse
  | .orelse, .tryBlock _ _ _ orelse _ => some orelse
  | .finalbody, .tryBlock _ _ _ _ finalbody => some finalbody
  | _, _ => none

/-- The body of a clause of a statement, by the step that leads to the clause. -/
def Stmt.clauseAt? : Step → Stmt → Option (List Stmt)
  | .handler i, .tryBlock _ _ handlers _ _ => handlers[i]?.map Handler.body
  | .case i, .matchBlock _ cases => cases[i]?.map Case.body
  | _, _ => none

mutual

/-- The list of statements at a place in a statement. -/
def Stmt.listAt? : List Step → Stmt → Option (List Stmt)
  | .handler i :: .body :: path, s => (s.clauseAt? (.handler i)).bind (listIn? path)
  | .case i :: .body :: path, s => (s.clauseAt? (.case i)).bind (listIn? path)
  | step :: path, s => (s.bodyAt? step).bind (listIn? path)
  | [], _ => none

/-- The list of statements at a place in a list of statements. -/
def listIn? : List Step → List Stmt → Option (List Stmt)
  | [], ss => some ss
  | .statement i :: path, ss => ss[i]?.bind (Stmt.listAt? path)
  | _ :: _, _ => none

end

/-! ## §2. The list at the place of a slot. -/

/-- Does a path that is found lead to the `pass` of the row, alone in its list? -/
def LeadsTo (n : Nat) (found : Option (List Step)) (at? : List Step → Option (List Stmt)) : Prop :=
  ∀ path, found = some path → at? path = some [.pass n]

namespace LeadsTo

variable {n : Nat} {found found' : Option (List Step)} {at? : List Step → Option (List Stmt)}

theorem none : LeadsTo n none at? := fun _ h => by cases h

theorem or (h : LeadsTo n found at?) (h' : LeadsTo n found' at?) :
    LeadsTo n (found.or found') at? := by
  intro path hpath
  rcases Option.or_eq_some_iff.1 hpath with hfound | ⟨-, hfound⟩
  · exact h path hfound
  · exact h' path hfound

theorem step {s : Step} (h : LeadsTo n found fun path => at? (s :: path)) :
    LeadsTo n (stepTo s found) at? := by
  intro path hpath
  obtain ⟨path', hpath', rfl⟩ := Option.map_eq_some_iff.1 hpath
  exact h path' hpath'

end LeadsTo

theorem eq_of_isSlot {n : Nat} {ss : List Stmt} (h : isSlot n ss = true) : ss = [.pass n] := by
  unfold isSlot at h
  split at h
  · rw [eq_of_beq h]
  · cases h

section Slots

variable (n : Nat)

mutual

/-- **The list at the place of a slot is the `pass` alone.** -/
theorem slotPath?_leadsTo : ∀ s : Stmt, LeadsTo n (s.slotPath? n) (Stmt.listAt? · s)
  | .conditional _ body orelse => .or (.step (bodyPath?_leadsTo body)) (.step (bodyPath?_leadsTo orelse))
  | .whileLoop _ body orelse => .or (.step (bodyPath?_leadsTo body)) (.step (bodyPath?_leadsTo orelse))
  | .forLoop _ _ _ body orelse =>
    .or (.step (bodyPath?_leadsTo body)) (.step (bodyPath?_leadsTo orelse))
  | .withBlock _ _ body => .step (bodyPath?_leadsTo body)
  | .tryBlock isGroup body handlers orelse finalbody => by
    refine .or (.step (bodyPath?_leadsTo body)) (.or ?_ (.or (.step (bodyPath?_leadsTo orelse))
      (.step (bodyPath?_leadsTo finalbody))))
    exact handlerPath?_leadsTo handlers 0 fun i path => by rw [Nat.zero_add]; rfl
  | .matchBlock subject cases => casePath?_leadsTo cases 0 fun i path => by rw [Nat.zero_add]; rfl
  | .function _ _ _ body _ _ => .step (bodyPath?_leadsTo body)
  | .classBlock _ _ _ body _ => .step (bodyPath?_leadsTo body)
  | .expression _ => .none
  | .assign _ _ => .none
  | .augment _ _ _ => .none
  | .annotate _ _ _ _ => .none
  | .delete _ => .none
  | .pass _ => .none
  | .breakLoop => .none
  | .continueLoop => .none
  | .giveBack _ => .none
  | .throw _ _ => .none
  | .assertion _ _ => .none
  | .importModules _ => .none
  | .importMembers _ _ _ => .none
  | .globals _ => .none
  | .nonlocals _ => .none

theorem bodyPath?_leadsTo : ∀ ss : List Stmt, LeadsTo n (bodyPath? n ss) (listIn? · ss)
  | [] => .none
  | s :: ss => by
    rw [bodyPath?]
    split
    · rename_i hslot
      intro path hpath
      obtain rfl := Option.some.inj hpath
      rw [eq_of_isSlot hslot]
      rfl
    · refine .or (.step (slotPath?_leadsTo s)) ?_
      exact restPath?_leadsTo ss 1 fun i path => by rw [Nat.add_comm 1 i]; rfl

/-- Statements behind others. -/
theorem restPath?_leadsTo : ∀ (ss : List Stmt) (index : Nat) {at? : List Step → Option (List Stmt)},
    (∀ i path, at? (.statement (index + i) :: path) = ss[i]?.bind (Stmt.listAt? path)) →
    LeadsTo n (restPath? n index ss) at?
  | [], _, _, _ => .none
  | s :: ss, index, at?, hat => by
    refine .or (.step ?_) (restPath?_leadsTo ss (index + 1) fun i path => ?_)
    · intro path hpath
      refine (hat 0 path).trans ?_
      exact slotPath?_leadsTo s path hpath
    · rw [Nat.add_assoc, Nat.add_comm 1 i]
      exact hat (i + 1) path

theorem handlerPath?_leadsTo : ∀ (hs : List Handler) (index : Nat)
    {at? : List Step → Option (List Stmt)},
    (∀ i path, at? (.handler (index + i) :: .body :: path)
      = (hs[i]?.map Handler.body).bind (listIn? path)) →
    LeadsTo n (handlerPath? n index hs) at?
  | [], _, _, _ => .none
  | .mk _ _ body :: hs, index, at?, hat => by
    refine .or (.step (.step ?_)) (handlerPath?_leadsTo hs (index + 1) fun i path => ?_)
    · intro path hpath
      refine (hat 0 path).trans ?_
      exact bodyPath?_leadsTo body path hpath
    · rw [Nat.add_assoc, Nat.add_comm 1 i]
      exact hat (i + 1) path

theorem casePath?_leadsTo : ∀ (cs : List Case) (index : Nat)
    {at? : List Step → Option (List Stmt)},
    (∀ i path, at? (.case (index + i) :: .body :: path)
      = (cs[i]?.map Case.body).bind (listIn? path)) →
    LeadsTo n (casePath? n index cs) at?
  | [], _, _, _ => .none
  | .mk _ _ body :: cs, index, at?, hat => by
    refine .or (.step (.step ?_)) (casePath?_leadsTo cs (index + 1) fun i path => ?_)
    · intro path hpath
      refine (hat 0 path).trans ?_
      exact bodyPath?_leadsTo body path hpath
    · rw [Nat.add_assoc, Nat.add_comm 1 i]
      exact hat (i + 1) path

end

end Slots

/-! ## §3. Templates. -/

/-- The bodies of clauses, by their rows. -/
abbrev Bodies := Nat → List Stmt

/-- The clause with the header on a row, if there is one. -/
def optionalClause (head : Head) : Option Nat → List Clause
  | none => []
  | some row => [⟨head, row⟩]

/-- The body of a clause, if there is one. -/
def optionalBody (bodies : Bodies) : Option Nat → List Stmt
  | none => []
  | some row => bodies row

/-- What a clause handles, and its row. -/
structure Handling where
  type : Option Expr
  name : Option String
  row : Nat

/-- The clause of a handling. -/
def Handling.clause (isGroup : Bool) (h : Handling) : Clause :=
  ⟨.exceptHead isGroup h.type h.name, h.row⟩

/-- The handler of a handling. -/
def Handling.handler (bodies : Bodies) (h : Handling) : Handler := .mk h.type h.name (bodies h.row)

/-- What a case looks for, and its row. -/
structure Branch where
  pattern : Pattern
  guard : Option Expr
  row : Nat

/-- The clause of a branch. -/
def Branch.clause (b : Branch) : Clause := ⟨.caseHead b.pattern b.guard, b.row⟩

/-- The case of a branch. -/
def Branch.case (bodies : Bodies) (b : Branch) : Case := .mk b.pattern b.guard (bodies b.row)

/-- What clauses behind an `if` are, for any bodies. -/
inductive IfTail : List Clause → (Bodies → List Stmt) → Prop
  | done (orelse : Option Nat) :
      IfTail (optionalClause .elseHead orelse) (optionalBody · orelse)
  | elif {clauses f} (test : Expr) (row : Nat) (h : IfTail clauses f) :
      IfTail (⟨.elifHead test, row⟩ :: clauses) fun bodies =>
        [.conditional test (bodies row) (f bodies)]

/-- What statement a header and its clauses are, for any bodies. -/
inductive BlockOf : List Clause → (Bodies → Stmt) → Prop
  | conditional {clauses f} (test : Expr) (row : Nat) (h : IfTail clauses f) :
      BlockOf (⟨.ifHead test, row⟩ :: clauses) fun bodies =>
        .conditional test (bodies row) (f bodies)
  | whileLoop (test : Expr) (row : Nat) (orelse : Option Nat) :
      BlockOf (⟨.whileHead test, row⟩ :: optionalClause .elseHead orelse) fun bodies =>
        .whileLoop test (bodies row) (optionalBody bodies orelse)
  | forLoop (isAsync : Bool) (target iter : Expr) (row : Nat) (orelse : Option Nat) :
      BlockOf (⟨.forHead isAsync target iter, row⟩ :: optionalClause .elseHead orelse) fun bodies =>
        .forLoop isAsync target iter (bodies row) (optionalBody bodies orelse)
  | withBlock (isAsync : Bool) (items : List WithItem) (row : Nat) :
      BlockOf [⟨.withHead isAsync items, row⟩] fun bodies => .withBlock isAsync items (bodies row)
  | function (isAsync : Bool) (name : String) (params : List Param) (returns : Option Expr)
      (row : Nat) :
      BlockOf [⟨.functionHead isAsync name params returns, row⟩] fun bodies =>
        .function isAsync name params (bodies row) [] returns
  | classBlock (name : String) (bases : List Expr) (keywords : List Keyword) (row : Nat) :
      BlockOf [⟨.classHead name bases keywords, row⟩] fun bodies =>
        .classBlock name bases keywords (bodies row) []
  | tryBlock (isGroup : Bool) (row : Nat) (handlings : List Handling) (orelse last : Option Nat)
      (h : handlings ≠ [] ∨ isGroup = false ∧ orelse = none ∧ last ≠ none) :
      BlockOf (⟨.tryHead, row⟩ :: (handlings.map (·.clause isGroup)
          ++ (optionalClause .elseHead orelse ++ optionalClause .finallyHead last))) fun bodies =>
        .tryBlock isGroup (bodies row) (handlings.map (·.handler bodies))
          (optionalBody bodies orelse) (optionalBody bodies last)

section Templates

variable {clauses : List Clause} {bodies : Bodies}

theorem ifTail_of_ifTail? {orelse : List Stmt}
    (h : ifTail? (clauses.map (·.withBody bodies)) = some orelse) :
    ∃ f, IfTail clauses f ∧ orelse = f bodies := by
  induction clauses generalizing orelse with
  | nil =>
    obtain rfl := Option.some.inj h
    exact ⟨_, .done none, rfl⟩
  | cons c clauses ih =>
    obtain ⟨head, row⟩ := c
    rw [List.map_cons, Clause.withBody] at h
    unfold ifTail? at h
    split at h
    · cases ‹_ :: _ = []›
    · rename_i heq
      obtain ⟨hhead, hclauses⟩ := List.cons.inj heq
      obtain ⟨rfl, rfl⟩ := Item.headed.inj hhead
      obtain rfl := List.map_eq_nil_iff.1 hclauses
      obtain rfl := Option.some.inj h
      exact ⟨_, .done (some row), rfl⟩
    · rename_i heq
      obtain ⟨hhead, rfl⟩ := List.cons.inj heq
      obtain ⟨rfl, rfl⟩ := Item.headed.inj hhead
      obtain ⟨inner, hinner, rfl⟩ := Option.map_eq_some_iff.1 h
      obtain ⟨f, hf, rfl⟩ := ih hinner
      exact ⟨_, .elif _ row hf, rfl⟩
    · cases h

theorem IfTail.ifTail? {f : Bodies → List Stmt} (h : IfTail clauses f) (bodies : Bodies) :
    ifTail? (clauses.map (·.withBody bodies)) = some (f bodies) := by
  induction h with
  | done orelse =>
    cases orelse with
    | none => rfl
    | some row => rfl
  | elif test row h ih =>
    rw [List.map_cons, Clause.withBody, Code.ifTail?, ih]
    rfl

theorem of_loopTail? {orelse : List Stmt}
    (h : loopTail? (clauses.map (·.withBody bodies)) = some orelse) :
    ∃ row, clauses = optionalClause .elseHead row ∧ orelse = optionalBody bodies row := by
  unfold loopTail? at h
  split at h
  · rename_i heq
    obtain rfl := List.map_eq_nil_iff.1 heq
    obtain rfl := Option.some.inj h
    exact ⟨none, rfl, rfl⟩
  · rename_i heq
    obtain ⟨c, clauses', rfl, hc, hclauses⟩ := List.map_eq_cons_iff.1 heq
    obtain rfl := List.map_eq_nil_iff.1 hclauses
    obtain ⟨head, row⟩ := c
    obtain ⟨rfl, rfl⟩ := Item.headed.inj hc
    obtain rfl := Option.some.inj h
    exact ⟨some row, rfl, rfl⟩
  · cases h

theorem loopTail?_optionalClause (orelse : Option Nat) (bodies : Bodies) :
    loopTail? ((optionalClause .elseHead orelse).map (·.withBody bodies))
      = some (optionalBody bodies orelse) := by
  cases orelse with
  | none => rfl
  | some row => rfl

/-- The handlers at the start of some clauses, and the clauses behind them. -/
theorem of_handlers (isGroup : Bool) (clauses : List Clause) (bodies : Bodies) :
    ∃ (handlings : List Handling) (others : List Clause),
      clauses = handlings.map (·.clause isGroup) ++ others
        ∧ handlers isGroup (clauses.map (·.withBody bodies)) = (handlings.map (·.handler bodies), others.map (·.withBody bodies)) := by
  induction clauses with
  | nil => exact ⟨[], [], rfl, rfl⟩
  | cons c clauses ih =>
    obtain ⟨head, row⟩ := c
    rw [List.map_cons, Clause.withBody]
    unfold handlers
    split
    · rename_i k type name body rest heq
      obtain ⟨hhead, rfl⟩ := List.cons.inj heq
      obtain ⟨rfl, rfl⟩ := Item.headed.inj hhead
      split
      · rename_i hk
        subst hk
        obtain ⟨handlings, others, rfl, hothers⟩ := ih
        refine ⟨⟨type, name, row⟩ :: handlings, others, rfl, ?_⟩
        rw [hothers]
        rfl
      · exact ⟨[], _, rfl, rfl⟩
    · exact ⟨[], _, rfl, rfl⟩

/-- The clauses of a `try` are all handlers if they start with one of another kind. -/
theorem handlers_append (isGroup : Bool) (handlings : List Handling) {others : List Clause}
    (hothers : ∀ c ∈ others.head?, ∀ k type name, c.head ≠ .exceptHead k type name)
    (bodies : Bodies) :
    handlers isGroup ((handlings.map (·.clause isGroup) ++ others).map (·.withBody bodies))
      = (handlings.map (·.handler bodies), others.map (·.withBody bodies)) := by
  induction handlings with
  | nil =>
    rw [List.map_nil, List.nil_append, List.map_nil]
    unfold handlers
    split
    · rename_i k type name body rest heq
      obtain ⟨c, others', rfl, hc, -⟩ := List.map_eq_cons_iff.1 heq
      exact absurd (Item.headed.inj hc).1 (hothers c rfl k type name)
    · rfl
  | cons h handlings ih =>
    rw [List.map_cons, List.cons_append, List.map_cons, Handling.clause, Clause.withBody, handlers,
      if_pos rfl, ih]
    rfl

/-- The only clause of a kind, from its item. -/
theorem of_singleton {head : Head} {last : List Stmt}
    (h : clauses.map (·.withBody bodies) = [.headed head last]) :
    ∃ row, clauses = optionalClause head (some row) ∧ last = optionalBody bodies (some row) := by
  obtain ⟨c, clauses', rfl, hc, hclauses⟩ := List.map_eq_cons_iff.1 h
  obtain rfl := List.map_eq_nil_iff.1 hclauses
  obtain ⟨head', row⟩ := c
  obtain ⟨rfl, rfl⟩ := Item.headed.inj hc
  exact ⟨row, rfl, rfl⟩

/-- **A `try` and its clauses.** -/
theorem of_tryBlock? {row : Nat} {s : Stmt}
    (h : tryBlock? (bodies row) (clauses.map (·.withBody bodies)) = some s) :
    ∃ F, BlockOf (⟨.tryHead, row⟩ :: clauses) F ∧ s = F bodies := by
  unfold tryBlock? at h
  extract_lets isGroup at h
  clear_value isGroup
  obtain ⟨handlings, others, rfl, hhandlers⟩ := of_handlers isGroup clauses bodies
  rw [hhandlers] at h
  have hblock : ∀ {hs : List Handler} (orelse last : Option Nat),
      handlings.map (·.handler bodies) = hs → (hs = [] → False) →
      others = optionalClause .elseHead orelse ++ optionalClause .finallyHead last →
      some (Stmt.tryBlock isGroup (bodies row) hs (optionalBody bodies orelse)
        (optionalBody bodies last)) = some s →
      ∃ F, BlockOf (⟨.tryHead, row⟩ :: (handlings.map (·.clause isGroup) ++ others)) F
        ∧ s = F bodies := by
    rintro hs orelse last rfl hne rfl hs
    have hhandlings : handlings ≠ [] := by
      rintro rfl
      exact hne rfl
    exact ⟨_, .tryBlock isGroup row handlings orelse last (Or.inl hhandlings),
      (Option.some.inj hs).symm⟩
  split at h
  · rename_i last heq
    obtain ⟨hhandlings, hothers⟩ := Prod.mk.inj heq
    obtain rfl := List.map_eq_nil_iff.1 hhandlings
    obtain ⟨lastRow, rfl, rfl⟩ := of_singleton hothers
    obtain rfl := Option.some.inj h
    exact ⟨_, .tryBlock false row [] none (some lastRow)
      (Or.inr ⟨rfl, rfl, Option.some_ne_none _⟩), rfl⟩
  · cases h
  · rename_i hs hne heq
    obtain ⟨hhandlings, hothers⟩ := Prod.mk.inj heq
    obtain rfl := List.map_eq_nil_iff.1 hothers
    exact hblock none none hhandlings hne rfl h
  · rename_i hs orelse hne heq
    obtain ⟨hhandlings, hothers⟩ := Prod.mk.inj heq
    obtain ⟨elseRow, rfl, rfl⟩ := of_singleton hothers
    exact hblock (some elseRow) none hhandlings hne rfl h
  · rename_i hs last hne heq
    obtain ⟨hhandlings, hothers⟩ := Prod.mk.inj heq
    obtain ⟨lastRow, rfl, rfl⟩ := of_singleton hothers
    exact hblock none (some lastRow) hhandlings hne rfl h
  · rename_i hs orelse last hne heq
    obtain ⟨hhandlings, hothers⟩ := Prod.mk.inj heq
    obtain ⟨c, others', rfl, hc, hlast⟩ := List.map_eq_cons_iff.1 hothers
    have hfirst : [c].map (·.withBody bodies) = [.headed .elseHead orelse] := congrArg ([·]) hc
    obtain ⟨elseRow, helse, rfl⟩ := of_singleton hfirst
    obtain ⟨lastRow, rfl, rfl⟩ := of_singleton hlast
    exact hblock (some elseRow) (some lastRow) hhandlings hne
      (by rw [← helse, List.singleton_append]) h
  · cases h

/-- **What a header and its clauses form does not depend on their bodies.** -/
theorem blockOf_of_compound? {head : Head} {row : Nat} {s : Stmt}
    (h : compound? [] head (bodies row) (clauses.map (·.withBody bodies)) = some s) :
    ∃ F, BlockOf (⟨head, row⟩ :: clauses) F ∧ s = F bodies := by
  have hempty : ∀ {r : Stmt}, (if (clauses.map (·.withBody bodies)).isEmpty then some r else none)
      = some s → clauses = [] ∧ s = r := by
    intro r hr
    split at hr
    · rename_i hclauses
      exact ⟨List.map_eq_nil_iff.1 (List.isEmpty_iff.1 hclauses), (Option.some.inj hr).symm⟩
    · cases hr
  unfold compound? at h
  split at h
  · obtain ⟨orelse, htail, rfl⟩ := Option.map_eq_some_iff.1 h
    obtain ⟨f, hf, rfl⟩ := ifTail_of_ifTail? htail
    exact ⟨_, .conditional _ row hf, rfl⟩
  · obtain ⟨orelse, htail, rfl⟩ := Option.map_eq_some_iff.1 h
    obtain ⟨elseRow, rfl, rfl⟩ := of_loopTail? htail
    exact ⟨_, .whileLoop _ row elseRow, rfl⟩
  · obtain ⟨orelse, htail, rfl⟩ := Option.map_eq_some_iff.1 h
    obtain ⟨elseRow, rfl, rfl⟩ := of_loopTail? htail
    exact ⟨_, .forLoop _ _ _ row elseRow, rfl⟩
  · exact of_tryBlock? h
  · obtain ⟨rfl, rfl⟩ := hempty h
    exact ⟨_, .withBlock _ _ row, rfl⟩
  · obtain ⟨rfl, rfl⟩ := hempty h
    exact ⟨_, .function _ _ _ _ row, rfl⟩
  · obtain ⟨rfl, rfl⟩ := hempty h
    exact ⟨_, .classBlock _ _ _ row, rfl⟩
  · cases h

/-- A template is formed with any bodies. -/
theorem BlockOf.compound? {head : Head} {row : Nat} {F : Bodies → Stmt}
    (h : BlockOf (⟨head, row⟩ :: clauses) F) (bodies : Bodies) :
    compound? [] head (bodies row) (clauses.map (·.withBody bodies)) = some (F bodies) := by
  cases h with
  | conditional test row h =>
    rw [Code.compound?, h.ifTail? bodies]
    rfl
  | whileLoop test row orelse =>
    rw [Code.compound?, loopTail?_optionalClause]
    rfl
  | forLoop isAsync target iter row orelse =>
    rw [Code.compound?, loopTail?_optionalClause]
    rfl
  | withBlock isAsync items row => rfl
  | function isAsync name params returns row => rfl
  | classBlock name bases keywords row => rfl
  | tryBlock isGroup row handlings orelse last h =>
    have hothers : ∀ c ∈ (optionalClause .elseHead orelse ++ optionalClause .finallyHead last).head?,
        ∀ k type name, c.head ≠ .exceptHead k type name := by
      intro c hc k type name
      cases orelse with
      | some r =>
        obtain rfl := Option.some.inj hc
        exact Head.noConfusion
      | none =>
        cases last with
        | some r =>
          obtain rfl := Option.some.inj hc
          exact Head.noConfusion
        | none => cases hc
    cases handlings with
    | nil =>
      obtain ⟨rfl, rfl, hlast⟩ := h.resolve_left (absurd rfl)
      cases last with
      | none => exact absurd rfl hlast
      | some r => rfl
    | cons first handlings =>
      rw [Code.compound?]
      unfold tryBlock?
      extract_lets k
      have hk : k = isGroup := rfl
      rw [hk, handlers_append isGroup (first :: handlings) hothers]
      cases orelse with
      | none =>
        cases last with
        | none => rfl
        | some r => rfl
      | some r =>
        cases last with
        | none => rfl
        | some r' => rfl

theorem of_cases? {cs : List Case} (h : cases? (clauses.map (·.withBody bodies)) = some cs) :
    ∃ branches : List Branch, clauses = branches.map Branch.clause
      ∧ cs = branches.map (·.case bodies) := by
  induction clauses generalizing cs with
  | nil =>
    obtain rfl := Option.some.inj h
    exact ⟨[], rfl, rfl⟩
  | cons c clauses ih =>
    obtain ⟨head, row⟩ := c
    rw [List.map_cons, Clause.withBody] at h
    unfold cases? at h
    split at h
    · cases ‹_ :: _ = []›
    · rename_i p guard body rest heq
      obtain ⟨hhead, rfl⟩ := List.cons.inj heq
      obtain ⟨rfl, rfl⟩ := Item.headed.inj hhead
      obtain ⟨more, hmore, rfl⟩ := Option.map_eq_some_iff.1 h
      obtain ⟨branches, rfl, rfl⟩ := ih hmore
      exact ⟨⟨p, guard, row⟩ :: branches, rfl, rfl⟩
    · cases h

theorem cases?_branches (branches : List Branch) (bodies : Bodies) :
    cases? ((branches.map Branch.clause).map (·.withBody bodies))
      = some (branches.map (·.case bodies)) := by
  induction branches with
  | nil => rfl
  | cons b branches ih =>
    rw [List.map_cons, List.map_cons, Branch.clause, Clause.withBody, cases?, ih]
    rfl

end Templates

/-! ## §4. Filling a template. -/

/-- Has a filling the body of every clause? -/
def Fills (slots : Filling) (bodies : Bodies) (clauses : List Clause) : Prop :=
  ∀ c ∈ clauses, slots c.row = some (bodies c.row)

section Filling

variable {slots : Filling} {bodies : Bodies} {clauses : List Clause}

theorem Fills.tail {c : Clause} (h : Fills slots bodies (c :: clauses)) :
    Fills slots bodies clauses := fun c' hc' => h c' (List.mem_cons_of_mem _ hc')

theorem fillBody_passes {row : Nat} (h : slots row = some (bodies row)) :
    fillBody slots (passes row) = bodies row := by
  rw [passes, fillBody, Filling.of?, h]
  rfl

theorem Fills.head {c : Clause} (h : Fills slots bodies (c :: clauses)) :
    fillBody slots (passes c.row) = bodies c.row := fillBody_passes (h c List.mem_cons_self)

theorem Fills.optionalBody {head : Head} {row : Option Nat}
    (h : Fills slots bodies (optionalClause head row)) :
    fillBody slots (optionalBody passes row) = optionalBody bodies row := by
  cases row with
  | none => rfl
  | some r => exact h.head

theorem IfTail.fill {f : Bodies → List Stmt} (h : IfTail clauses f)
    (hfills : Fills slots bodies clauses) : fillBody slots (f passes) = f bodies := by
  induction h with
  | done orelse => exact hfills.optionalBody
  | @elif clauses f test row h ih =>
    have hno : slots.of? [.conditional test (passes row) (f passes)] = none := rfl
    rw [fillBody, hno, Option.getD_none, Stmt.fill, hfills.head, ih hfills.tail]
    rfl

theorem fillHandlers_handlings {isGroup : Bool} {handlings : List Handling}
    (h : Fills slots bodies (handlings.map (·.clause isGroup))) :
    fillHandlers slots (handlings.map (·.handler passes)) = handlings.map (·.handler bodies) := by
  induction handlings with
  | nil => rfl
  | cons first handlings ih =>
    rw [List.map_cons, Handling.handler, fillHandlers, ih h.tail]
    exact congrArg (fun body => Handler.mk first.type first.name body :: _) h.head

theorem fillCases_branches {branches : List Branch}
    (h : Fills slots bodies (branches.map Branch.clause)) :
    fillCases slots (branches.map (·.case passes)) = branches.map (·.case bodies) := by
  induction branches with
  | nil => rfl
  | cons first branches ih =>
    rw [List.map_cons, Branch.case, fillCases, ih h.tail]
    exact congrArg (fun body => Case.mk first.pattern first.guard body :: _) h.head

/-- **Filling the slots of a template puts the bodies into it.** -/
theorem BlockOf.fill {F : Bodies → Stmt} (h : BlockOf clauses F)
    (hfills : Fills slots bodies clauses) : (F passes).fill slots = F bodies := by
  cases h with
  | conditional test row h => rw [Stmt.fill, hfills.head, h.fill hfills.tail]
  | whileLoop test row orelse => rw [Stmt.fill, hfills.head, hfills.tail.optionalBody]
  | forLoop isAsync target iter row orelse =>
    rw [Stmt.fill, hfills.head, hfills.tail.optionalBody]
  | withBlock isAsync items row => rw [Stmt.fill, hfills.head]
  | function isAsync name params returns row => rw [Stmt.fill, hfills.head]
  | classBlock name bases keywords row => rw [Stmt.fill, hfills.head]
  | tryBlock isGroup row handlings orelse last h =>
    obtain ⟨hhandlings, hothers⟩ := List.forall_mem_append.1 hfills.tail
    obtain ⟨horelse, hlast⟩ := List.forall_mem_append.1 hothers
    rw [Stmt.fill, hfills.head, fillHandlers_handlings hhandlings,
      Fills.optionalBody horelse, Fills.optionalBody hlast]

end Filling

/-! ## §5. The places in a template. -/

/-- The words that clauses start with. -/
def wordsOf (clauses : List Clause) : List String := clauses.map (·.head.word)

theorem bodyPath?_passes (n : Nat) : bodyPath? n (passes n) = some [] := by
  rw [passes, bodyPath?, isSlot, if_pos (beq_self_eq_true n)]

theorem bodyPath?_passes_of_ne {n row : Nat} (h : row ≠ n) : bodyPath? n (passes row) = none := by
  rw [passes, bodyPath?, isSlot, if_neg (by rw [beq_eq_false_iff_ne.2 h]; exact Bool.false_ne_true)]
  rfl

theorem bodyPath?_conditional (n : Nat) (test : Expr) (body orelse : List Stmt) :
    bodyPath? n [.conditional test body orelse]
      = stepTo (.statement 0) ((Stmt.conditional test body orelse).slotPath? n) := by
  have hslot : isSlot n [.conditional test body orelse] = false := rfl
  rw [bodyPath?, hslot, if_neg Bool.false_ne_true, restPath?, Option.or_none]

/-- The first clause has the body of the statement. -/
theorem placeOf_first {w : String} (hw : w ∉ Header.clauseWords) (ws : List String) :
    placeOf (w :: ws) 0 = [.body] := by
  unfold placeOf
  rw [List.getElem?_cons_zero]
  split
  case h_6 => rfl
  all_goals
    rename_i heq
    obtain rfl := Option.some.inj heq
    exact absurd hw (by decide)

/-- Behind one more `elif`, everything stands one `else` deeper. -/
theorem placeOf_elif {ws : List String} {j : Nat} {w : String} (hj : ws[j]? = some w)
    (hw : w = "elif" ∨ w = "else") :
    placeOf ("if" :: "elif" :: ws) (j + 2)
      = .orelse :: .statement 0 :: placeOf ("if" :: ws) (j + 1) := by
  unfold placeOf
  rw [List.getElem?_cons_succ, List.getElem?_cons_succ, List.getElem?_cons_succ, hj]
  rcases hw with rfl | rfl
  · rfl
  · have hif : ("if" : String) ≠ "elif" := by decide
    show nested _ _ = .orelse :: .statement 0 :: nested _ _
    rw [List.count_cons_of_ne hif, List.count_cons_of_ne hif, List.count_cons_self]
    rfl

section Places

variable {clauses : List Clause} {c : Clause} {j : Nat}

theorem IfTail.word {f : Bodies → List Stmt} (h : IfTail clauses f) :
    ∀ c ∈ clauses, c.head.word = "elif" ∨ c.head.word = "else" := by
  induction h with
  | done orelse =>
    cases orelse with
    | none => exact fun c hc => absurd hc List.not_mem_nil
    | some row =>
      intro c hc
      obtain rfl := List.mem_singleton.1 hc
      exact Or.inr rfl
  | elif test row h ih => exact List.forall_mem_cons.2 ⟨Or.inl rfl, ih⟩

/-- A clause of the list on another row than the first one. -/
theorem row_ne {first : Clause} (hrows : ((first :: clauses).map Clause.row).Nodup)
    (hj : clauses[j]? = some c) : first.row ≠ c.row := by
  rw [List.map_cons, List.nodup_cons] at hrows
  intro heq
  exact hrows.1 (heq ▸ List.mem_map_of_mem (List.mem_of_getElem? hj))

theorem IfTail.place {f : Bodies → List Stmt} (h : IfTail clauses f)
    (hrows : (clauses.map Clause.row).Nodup) (hj : clauses[j]? = some c) :
    stepTo .orelse (bodyPath? c.row (f passes))
      = some (placeOf ("if" :: wordsOf clauses) (j + 1)) := by
  induction h generalizing j with
  | done orelse =>
    cases orelse with
    | none => cases hj
    | some row =>
      cases j with
      | zero =>
        obtain rfl := Option.some.inj hj
        show stepTo .orelse (bodyPath? row (passes row)) = _
        rw [bodyPath?_passes]
        rfl
      | succ j => cases hj
  | @elif clauses f test row h ih =>
    rw [bodyPath?_conditional, Stmt.slotPath?]
    cases j with
    | zero =>
      obtain rfl := Option.some.inj hj
      rw [bodyPath?_passes]
      rfl
    | succ j =>
      rw [List.getElem?_cons_succ] at hj
      have hne := row_ne hrows hj
      rw [List.map_cons, List.nodup_cons] at hrows
      rw [bodyPath?_passes_of_ne hne, ih hrows.2 hj]
      have hword : (wordsOf clauses)[j]? = some c.head.word := by
        rw [wordsOf, List.getElem?_map, hj]
        rfl
      refine congrArg some ?_
      exact (placeOf_elif hword (h.word c (List.mem_of_getElem? hj))).symm

theorem wordsOf_optionalClause (head : Head) (row : Option Nat) :
    ∀ w ∈ wordsOf (optionalClause head row), w = head.word := by
  cases row with
  | none => exact fun w hw => absurd hw List.not_mem_nil
  | some r => exact fun w hw => List.mem_singleton.1 hw

/-- The `else` of a loop. -/
theorem loop_place {head : Head} {row : Nat} {orelse : Option Nat}
    (hrows : ((⟨head, row⟩ :: optionalClause .elseHead orelse).map Clause.row).Nodup)
    (hword : head.word ≠ "elif") (hj : (optionalClause .elseHead orelse)[j]? = some c) :
    (stepTo .body (bodyPath? c.row (passes row))).or
        (stepTo .orelse (bodyPath? c.row (optionalBody passes orelse)))
      = some (placeOf (wordsOf (⟨head, row⟩ :: optionalClause .elseHead orelse)) (j + 1)) := by
  rw [bodyPath?_passes_of_ne (row_ne hrows hj)]
  cases orelse with
  | none => cases hj
  | some r =>
    cases j with
    | succ j => cases hj
    | zero =>
      obtain rfl := Option.some.inj hj
      have hcount : (wordsOf (⟨head, row⟩ :: optionalClause .elseHead (some r))).count "elif" = 0 := by
        refine List.count_eq_zero.2 fun hmem => ?_
        rcases List.mem_cons.1 hmem with heq | hmem
        · exact hword heq.symm
        · exact absurd (wordsOf_optionalClause _ (some r) _ hmem) (by decide)
      show (none : Option (List Step)).or (stepTo .orelse (bodyPath? r (passes r)))
        = some (nested _ [.orelse])
      rw [bodyPath?_passes, hcount]
      rfl

theorem handlerPath?_of_notMem {handlings : List Handling} {n : Nat} (index : Nat)
    (h : n ∉ handlings.map Handling.row) :
    handlerPath? n index (handlings.map (·.handler passes)) = none := by
  induction handlings generalizing index with
  | nil => rfl
  | cons first handlings ih =>
    rw [List.map_cons, List.mem_cons, not_or] at h
    rw [List.map_cons, Handling.handler, handlerPath?, bodyPath?_passes_of_ne (Ne.symm h.1),
      ih _ h.2]
    rfl

theorem handlerPath?_handlings {handlings : List Handling} {h : Handling} (index : Nat)
    (hrows : (handlings.map Handling.row).Nodup) (hj : handlings[j]? = some h) :
    handlerPath? h.row index (handlings.map (·.handler passes))
      = some [.handler (index + j), .body] := by
  induction handlings generalizing index j with
  | nil => cases hj
  | cons first handlings ih =>
    rw [List.map_cons, List.nodup_cons] at hrows
    rw [List.map_cons, Handling.handler, handlerPath?]
    cases j with
    | zero =>
      obtain rfl := Option.some.inj hj
      rw [bodyPath?_passes]
      rfl
    | succ j =>
      rw [List.getElem?_cons_succ] at hj
      have hne : first.row ≠ h.row := fun heq =>
        hrows.1 (heq ▸ List.mem_map_of_mem (List.mem_of_getElem? hj))
      rw [bodyPath?_passes_of_ne hne, ih (index + 1) hrows.2 hj, Nat.add_assoc, Nat.add_comm 1 j]
      rfl

theorem casePath?_branches {branches : List Branch} {b : Branch} (index : Nat)
    (hrows : (branches.map Branch.row).Nodup) (hj : branches[j]? = some b) :
    casePath? b.row index (branches.map (·.case passes)) = some [.case (index + j), .body] := by
  induction branches generalizing index j with
  | nil => cases hj
  | cons first branches ih =>
    rw [List.map_cons, List.nodup_cons] at hrows
    rw [List.map_cons, Branch.case, casePath?]
    cases j with
    | zero =>
      obtain rfl := Option.some.inj hj
      rw [bodyPath?_passes]
      rfl
    | succ j =>
      rw [List.getElem?_cons_succ] at hj
      have hne : first.row ≠ b.row := fun heq =>
        hrows.1 (heq ▸ List.mem_map_of_mem (List.mem_of_getElem? hj))
      rw [bodyPath?_passes_of_ne hne, ih (index + 1) hrows.2 hj, Nat.add_assoc, Nat.add_comm 1 j]
      rfl

/-- The clauses at the start of some words that are all the same. -/
theorem count_take_append {w : String} {ws ws' : List String} (hws : ∀ v ∈ ws, v = w)
    (hj : j ≤ ws.length) : ((ws ++ ws').take j).count w = j := by
  rw [List.take_append_of_le_length hj, List.count_eq_length.2, List.length_take]
  · exact Nat.min_eq_left hj
  · intro v hv
    exact (hws v (List.mem_of_mem_take hv)).symm

/-- The words of the clauses of a `try`. -/
theorem wordsOf_handlings (isGroup : Bool) (handlings : List Handling) :
    ∀ w ∈ wordsOf (handlings.map (·.clause isGroup)), w = "except" := by
  intro w hw
  rw [wordsOf, List.map_map] at hw
  obtain ⟨h, -, rfl⟩ := List.mem_map.1 hw
  rfl

/-- The clauses of a `try`. -/
theorem try_place {isGroup : Bool} {row : Nat} {handlings : List Handling}
    {orelse last : Option Nat} (hclauses : clauses = handlings.map (·.clause isGroup)
      ++ (optionalClause .elseHead orelse ++ optionalClause .finallyHead last))
    (hrows : ((⟨.tryHead, row⟩ :: clauses).map Clause.row).Nodup) (hj : clauses[j]? = some c) :
    (Stmt.tryBlock isGroup (passes row) (handlings.map (·.handler passes))
        (optionalBody passes orelse) (optionalBody passes last)).slotPath? c.row
      = some (placeOf (wordsOf (⟨.tryHead, row⟩ :: clauses)) (j + 1)) := by
  have hword : (wordsOf (⟨.tryHead, row⟩ :: clauses))[j + 1]? = some c.head.word := by
    rw [wordsOf, List.map_cons, List.getElem?_cons_succ, List.getElem?_map, hj]
    rfl
  rw [Stmt.slotPath?, bodyPath?_passes_of_ne (row_ne hrows hj)]
  unfold placeOf
  rw [hword]
  rw [List.map_cons, List.nodup_cons, hclauses, List.map_append, List.nodup_append] at hrows
  obtain ⟨-, hhandlings, hothers, hdisjoint⟩ := hrows
  have hrowsOf : (handlings.map (·.clause isGroup)).map Clause.row = handlings.map Handling.row := by
    rw [List.map_map]
    rfl
  rw [hrowsOf] at hhandlings hdisjoint
  rcases Nat.lt_or_ge j handlings.length with hlt | hge
  · obtain ⟨h, hh⟩ : ∃ h, handlings[j]? = some h := ⟨_, List.getElem?_eq_getElem hlt⟩
    obtain rfl : h.clause isGroup = c := by
      rw [hclauses, List.getElem?_append_left (by rw [List.length_map]; exact hlt),
        List.getElem?_map, hh] at hj
      exact Option.some.inj hj
    have hcount : ((wordsOf (⟨.tryHead, row⟩ :: clauses)).take (j + 1)).count "except" = j := by
      have htry : Head.tryHead.word ≠ "except" := by decide
      rw [wordsOf, List.map_cons, List.take_succ_cons, List.count_cons_of_ne htry, hclauses,
        List.map_append]
      refine count_take_append (wordsOf_handlings isGroup handlings) ?_
      rw [List.length_map, List.length_map]
      exact Nat.le_of_lt hlt
    show (none : Option (List Step)).or ((handlerPath? h.row 0 _).or _)
      = some [.handler (List.count _ _), .body]
    rw [handlerPath?_handlings 0 hhandlings hh, hcount, Nat.zero_add]
    rfl
  · have hnone : c.row ∉ handlings.map Handling.row := by
      rw [hclauses, List.getElem?_append_right (by rw [List.length_map]; exact hge)] at hj
      intro hmem
      exact hdisjoint _ hmem _ (List.mem_map_of_mem (List.mem_of_getElem? hj)) rfl
    have helif : (wordsOf (⟨.tryHead, row⟩ :: clauses)).count "elif" = 0 := by
      refine List.count_eq_zero.2 fun hmem => ?_
      rw [wordsOf, List.map_cons, hclauses, List.map_append, List.map_append] at hmem
      rcases List.mem_cons.1 hmem with heq | hmem
      · exact absurd heq (show "elif" ≠ "try" by decide)
      rcases List.mem_append.1 hmem with hmem | hmem
      · exact absurd (wordsOf_handlings isGroup handlings _ hmem) (by decide)
      rcases List.mem_append.1 hmem with hmem | hmem
      · exact absurd (wordsOf_optionalClause _ orelse _ hmem) (by decide)
      · exact absurd (wordsOf_optionalClause _ last _ hmem) (by decide)
    rw [hclauses, List.getElem?_append_right (by rw [List.length_map]; exact hge)] at hj
    rw [handlerPath?_of_notMem 0 hnone, helif]
    generalize j - (handlings.map (·.clause isGroup)).length = i at hj
    cases orelse with
    | some r =>
      cases i with
      | zero =>
        obtain rfl := Option.some.inj hj
        show (none : Option (List Step)).or (none.or ((stepTo .orelse (bodyPath? r (passes r))).or _))
          = some [.orelse]
        rw [bodyPath?_passes]
        rfl
      | succ i =>
        cases last with
        | none => cases hj
        | some r' =>
          cases i with
          | succ i => cases hj
          | zero =>
            obtain rfl := Option.some.inj hj
            have hne : r ≠ r' := by
              rintro rfl
              exact absurd hothers (by simp [optionalClause])
            show (none : Option (List Step)).or (none.or ((stepTo .orelse (bodyPath? r' (passes r))).or
              (stepTo .finalbody (bodyPath? r' (passes r'))))) = some [.finalbody]
            rw [bodyPath?_passes_of_ne hne, bodyPath?_passes]
            rfl
    | none =>
      cases last with
      | none => cases hj
      | some r =>
        cases i with
        | succ i => cases hj
        | zero =>
          obtain rfl := Option.some.inj hj
          show (none : Option (List Step)).or (none.or (none.or
            (stepTo .finalbody (bodyPath? r (passes r))))) = some [.finalbody]
          rw [bodyPath?_passes]
          rfl

/-- The first clause of a statement starts with no word of another clause, and has its body. -/
theorem BlockOf.first {F : Bodies → Stmt} (h : BlockOf (c :: clauses) F) :
    c.head.word ∉ Header.clauseWords ∧ (F passes).slotPath? c.row = some [.body] := by
  have hasync : ∀ (b : Bool) {w : String}, w ∉ Header.clauseWords →
      (if b then "async" else w) ∉ Header.clauseWords := by
    intro b w hw
    cases b with
    | true =>
      rw [if_pos rfl]
      decide
    | false => exact hw
  cases h with
  | conditional test row h =>
    refine ⟨show "if" ∉ _ by decide, ?_⟩
    rw [Stmt.slotPath?, bodyPath?_passes]
    rfl
  | whileLoop test row orelse =>
    refine ⟨show "while" ∉ _ by decide, ?_⟩
    rw [Stmt.slotPath?, bodyPath?_passes]
    rfl
  | forLoop isAsync target iter row orelse =>
    refine ⟨hasync isAsync (by decide), ?_⟩
    rw [Stmt.slotPath?, bodyPath?_passes]
    rfl
  | withBlock isAsync items row =>
    refine ⟨hasync isAsync (by decide), ?_⟩
    rw [Stmt.slotPath?, bodyPath?_passes]
    rfl
  | function isAsync name params returns row =>
    refine ⟨hasync isAsync (by decide), ?_⟩
    rw [Stmt.slotPath?, bodyPath?_passes]
    rfl
  | classBlock name bases keywords row =>
    refine ⟨show "class" ∉ _ by decide, ?_⟩
    rw [Stmt.slotPath?, bodyPath?_passes]
    rfl
  | tryBlock isGroup row handlings orelse last h =>
    refine ⟨show "try" ∉ _ by decide, ?_⟩
    rw [Stmt.slotPath?, bodyPath?_passes]
    rfl

/-- **The body of a clause is where its word says.** -/
theorem BlockOf.place {F : Bodies → Stmt} (h : BlockOf clauses F)
    (hrows : (clauses.map Clause.row).Nodup) (hj : clauses[j]? = some c) :
    (F passes).slotPath? c.row = some (placeOf (wordsOf clauses) j) := by
  cases clauses with
  | nil => cases hj
  | cons first clauses =>
    cases j with
    | zero =>
      obtain rfl := Option.some.inj hj
      obtain ⟨hword, hpath⟩ := h.first
      rw [hpath]
      exact congrArg some (placeOf_first hword _).symm
    | succ j =>
      rw [List.getElem?_cons_succ] at hj
      have hne := row_ne hrows hj
      have hword := h.first.1
      cases h with
      | conditional test row h =>
        rw [List.map_cons, List.nodup_cons] at hrows
        rw [Stmt.slotPath?, bodyPath?_passes_of_ne hne, h.place hrows.2 hj]
        rfl
      | whileLoop test row orelse =>
        rw [Stmt.slotPath?]
        exact loop_place hrows (show "while" ≠ "elif" by decide) hj
      | forLoop isAsync target iter row orelse =>
        rw [Stmt.slotPath?]
        exact loop_place hrows (fun heq => hword (heq ▸ by decide)) hj
      | withBlock isAsync items row => cases hj
      | function isAsync name params returns row => cases hj
      | classBlock name bases keywords row => cases hj
      | tryBlock isGroup row handlings orelse last h => exact try_place rfl hrows hj

/-- The body of a case is found behind the `match`, on whatever lines it stands. -/
theorem match_place {subject : Expr} {branches : List Branch} {ms : List String} {b : Branch}
    (hms : ∀ w ∈ ms, w = "match") (hrows : (branches.map Branch.row).Nodup)
    (hj : branches[j]? = some b) :
    (Stmt.matchBlock subject (branches.map (·.case passes))).slotPath? b.row
      = some (placeOf (ms ++ wordsOf (branches.map Branch.clause)) (ms.length + j)) := by
  have hword : (ms ++ wordsOf (branches.map Branch.clause))[ms.length + j]? = some "case" := by
    rw [List.getElem?_append_right (Nat.le_add_right _ _), Nat.add_sub_cancel_left, wordsOf,
      List.getElem?_map, List.getElem?_map, hj]
    rfl
  have hcases : ∀ w ∈ wordsOf (branches.map Branch.clause), w = "case" := by
    intro w hw
    rw [wordsOf, List.map_map] at hw
    obtain ⟨b, -, rfl⟩ := List.mem_map.1 hw
    rfl
  have hlt : j < branches.length := (List.getElem?_eq_some_iff.1 hj).1
  have hcount : ((ms ++ wordsOf (branches.map Branch.clause)).take (ms.length + j)).count "case"
      = j := by
    have hnone : ms.count "case" = 0 :=
      List.count_eq_zero.2 fun hmem => absurd (hms _ hmem) (by decide)
    have hle : j ≤ (wordsOf (branches.map Branch.clause)).length := by
      rw [wordsOf, List.length_map, List.length_map]
      exact Nat.le_of_lt hlt
    have htake : ((wordsOf (branches.map Branch.clause) ++ []).take j).count "case" = j :=
      count_take_append hcases hle
    rw [List.append_nil] at htake
    rw [List.take_length_add_append, List.count_append, hnone, htake, Nat.zero_add]
  rw [Stmt.slotPath?, casePath?_branches 0 hrows hj, Nat.zero_add]
  unfold placeOf
  rw [hword]
  show _ = some [Step.case (List.count _ _), Step.body]
  rw [hcount]

end Places

end Inlay.Code
