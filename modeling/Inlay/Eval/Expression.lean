/-
  Inlay.Eval.Expression
  ────────────────────────────────
  **EXPRESSIONS.**

  The value of an expression, by recursion on its tree.  Operands are
  evaluated from left to right; a comprehension has a scope of its own, its
  first iterable apart.
-/
import Inlay.Eval.Call
import Inlay.Eval.Unpack

namespace Inlay

open Inlay.Code

/-! ## §1. Constants. -/

/-- The value of a constant. -/
def Code.Constant.value : Constant → Run Value
  | .none => return .none
  | .true => return .bool Bool.true
  | .false => return .bool Bool.false
  | .ellipsis => return .ellipsis
  | .int n => return .int n
  | .float x => return .float x
  | .text s _ => return .text s
  | .imaginary _ => .leave "complex numbers"
  | .bytes _ => .leave "bytes"

/-! ## §2. Calls. -/

/-- What a callee is called in messages about its arguments. -/
def World.calleeText (w : World) : Value → Except ShowFault String
  | .builtin .outputText => .ok "snug.template.helpers.to_str()"
  | .builtin .realign => .ok "snug.compiler.indentation.realign_block()"
  | .builtin .reindent => .ok "snug.compiler.indentation.reindent_lines()"
  | .builtin b => .ok (b.label ++ "()")
  | .errorClass c => .ok (c.path ++ "()")
  | .function (.mk _ name _ _ _ _) => .ok (name ++ "()")
  | .method _ (.builtin b) m => .ok (b.label ++ "." ++ m.label ++ "()")
  | .method _ owner m => .ok (w.kindOf owner ++ "." ++ m.label ++ "()")
  | .includer _ _ => .ok "snug.template.core.Template._render_with.<locals>.include()"
  | .probe _ => .error (.address "function")
  | .raiser _ _ => .error (.address "function")
  | v => w.plain v

/-- What a callee is called in messages about its arguments. -/
def Value.calleeText (v : Value) : Run String := .shown (·.calleeText v)

/-- The values of a starred item. -/
def spreadItems (p : Power) (v : Value) : Run (List Value) := do
  match ← Run.attempt v.iterator with
  | .ok it => collectAll p it
  | .error _ =>
    .fail .type ("Value after * must be an iterable, not " ++ (← v.kind))

/-- The values of the only argument of a call, which is starred. -/
def spreadOnly (p : Power) (callee v : Value) : Run (List Value) := do
  match ← Run.attempt v.iterator with
  | .ok it => collectAll p it
  | .error _ =>
    .fail .type ((← callee.calleeText) ++ " argument after * must be an iterable, not "
      ++ (← v.kind))

/-- Arguments by name, as a dictionary with one added. -/
def addKeyword (callee : Value) (keywords : Dictionary) (key value : Value) :
    Run Dictionary := do
  if keywords.contains key then
    match key with
    | .text s =>
      .fail .type ((← callee.calleeText) ++ " got multiple values for keyword argument '" ++ s
        ++ "'")
    | _ => .fail .type "keywords must be strings"
  else return keywords.put key value

/-- Arguments by name with those of a dictionary added. -/
def addKeywords (callee : Value) : Dictionary → List (Value × Value) → Run Dictionary
  | keywords, [] => return keywords
  | keywords, (k, v) :: rest => do
    addKeywords callee (← addKeyword callee keywords k v) rest

/-- The entries of a mapping of arguments. -/
def keywordEntries (callee v : Value) : Run (List (Value × Value)) := do
  match ← Run.ask (·.dictionaryOf? v) with
  | some d => return d.toList
  | none =>
    .fail .type ((← callee.calleeText) ++ " argument after ** must be a mapping, not "
      ++ (← v.kind))

/-- Arguments by name, all of whose names are texts. -/
def textKeywords (keywords : Dictionary) : Run (List (String × Value)) :=
  let named := keywords.bindings
  if named.length = keywords.size then return named
  else .fail .type "keywords must be strings"

/-! ## §3. Comprehensions. -/

/-- What a comprehension is called in messages. -/
def comprehensionTitle : Collection → String
  | .list => "<listcomp>"
  | .set => "<setcomp>"
  | .generator => "<genexpr>"

/-- Put an entry into the dictionary at a place. -/
def pushEntry (r : Ref) (key value : Value) : Run Unit := do
  key.ensureKey
  Run.changeEntries r (·.put key value)

/-- Put entries into the dictionary at a place. -/
def pushEntries (r : Ref) (entries : List (Value × Value)) : Run Unit :=
  entries.forM (fun e => pushEntry r e.1 e.2)

/-- Put a member into the set at a place. -/
def pushMember (r : Ref) (v : Value) : Run Unit := do
  v.ensureKey
  Run.changeMembers r (·.put v .none)

/-- Do the clauses wait for what they iterate over? -/
def anyAsync (clauses : List CompClause) : Bool :=
  clauses.any (fun
    | .mk isAsync _ _ _ => isAsync)

/-! ## §4. Targets. -/

/-- If one of the targets is starred: how many stand before it, and how many behind. -/
def starredPlace? (targets : List Expr) : Option (Nat × Nat) :=
  let before := targets.takeWhile (fun e => !e.isStarred)
  if before.length < targets.length then
    some (before.length, targets.length - before.length - 1)
  else none

/-- The values for some targets. -/
def dealOut (p : Power) (targets : List Expr) (v : Value) : Run (List Value) :=
  match starredPlace? targets with
  | some (before, after) => v.unpackAround p before after
  | none => v.unpack p targets.length

/-- The items of a value that replaces a slice. -/
def assignedItems (p : Power) (v : Value) : Run (List Value) := do
  match ← Run.attempt v.iterator with
  | .ok it => collectAll p it
  | .error _ => .fail .type "can only assign an iterable"

/-! ## §5. Displays. -/

/-- So many entries of a dictionary display are put in one by one, as a batch. -/
def entryBatch : Nat := 17

/-- Is the item an entry? -/
def isEntryItem : DictItem → Bool
  | .entry _ _ => true
  | .spread _ => false

/-- How many of the next entries of a dictionary display are put in as soon as they are evaluated:
full batches, and the rest if only one is missing there. -/
def immediateEntries (items : List DictItem) : Nat :=
  let n := (items.takeWhile isEntryItem).length
  if n % entryBatch = entryBatch - 1 then n else n - n % entryBatch

/-- The members of a set display with more elements than this are put in one by one. -/
def memberBatch : Nat := 30

/-! ## §6. Lists of a program's own. -/

/-- What a program does with a list of its own. -/
inductive ListCall where
  | append (list : String)
  | join (items : List Value)

/-- The items of a list that the module holds under a reserved name, the last one first. -/
def Frame.piecesOf (fr : Frame) (name : String) : Run (Option (List Value)) := do
  if Program.isReserved name then
    match ← Run.ask (·.home name fr.scopes) with
    | .module => Inlay.piecesOf fr.globals name
    | _ => return none
  else return none

/-- A call as one that appends to a list of the program's own, or that joins it. -/
def listCall? (fr : Frame) (func : Expr) (args : List Expr) (keywords : List Keyword) :
    Run (Option ListCall) := do
  match func, args, keywords with
  | .attribute (.name _) "append", [.starred _], [] => return none
  | .attribute (.name list) "append", [_], [] =>
    return (← fr.piecesOf list).map (fun _ => .append list)
  | .attribute (.constant (.text "" _)) "join", [.name list], [] =>
    return (← fr.piecesOf list).map (fun items => .join items.reverse)
  | _, _, _ => return none

/-! ## §7. Expressions. -/

mutual

/-- The value of an expression. -/
def Code.Expr.eval (p : Power) (fr : Frame) : Expr → Run Value
  | .constant c => c.value
  | .name id => readName fr id
  | .boolean op operands => evalBoolean p fr op operands
  | .walrus target value => do
    let v ← value.eval p fr
    writeName fr target v
    return v
  | .binary op left right => do
    let a ← left.eval p fr
    let b ← right.eval p fr
    a.binary false op b
  | .unary op operand => do (← operand.eval p fr).unary op
  | .lambda params body => do
    let defaults ← evalDefaults p fr params
    return .function (.mk (← Run.fresh) (fr.path ++ "<lambda>") params defaults (.expression body)
      (← fr.renewed))
  | .conditional test body orelse => do
    if ← (← test.eval p fr).truth then body.eval p fr else orelse.eval p fr
  | .dict items => do
    let r ← Run.alloc (.dict .empty)
    evalItems p fr r (immediateEntries items) [] items
    return .ref r
  | .set elements => do
    let r ← Run.alloc (.set .empty)
    evalMembers p fr r (memberBatch < elements.length) [] elements
    return .ref r
  | .list elements => do Run.newList (← evalElements p fr elements)
  | .tuple elements => return .tuple (← evalElements p fr elements)
  | .comprehension kind element clauses => do
    if anyAsync clauses then .leave "asynchronous comprehensions"
    let around ← fr.renewed
    let it ← evalFirst p fr clauses
    let inner ← around.enter (fr.path ++ comprehensionTitle kind ++ ".")
      ⟨clauseTargets clauses, [], []⟩
    match kind with
    | .generator => Run.newIter (.generator ⟨element, clauses, inner, [it]⟩)
    | .set =>
      let r ← Run.alloc (.set .empty)
      evalClauses p inner (do pushMember r (← element.eval p inner)) (some it) clauses
      return .ref r
    | .list =>
      let r ← Run.alloc (.list #[])
      evalClauses p inner (do pushItem r (← element.eval p inner)) (some it) clauses
      return .ref r
  | .dictComprehension key value clauses => do
    if anyAsync clauses then .leave "asynchronous comprehensions"
    let around ← fr.renewed
    let it ← evalFirst p fr clauses
    let inner ← around.enter (fr.path ++ "<dictcomp>.") ⟨clauseTargets clauses, [], []⟩
    let r ← Run.alloc (.dict .empty)
    evalClauses p inner
      (do
        let k ← key.eval p inner
        let v ← value.eval p inner
        pushEntry r k v)
      (some it) clauses
    return .ref r
  | .await _ => .leave "waiting"
  | .yield _ => .leave "functions that give values one by one"
  | .yieldFrom _ => .leave "functions that give values one by one"
  | .compare first links => do evalLinks p fr (← first.eval p fr) links
  | .call func args keywords => do
    match ← listCall? fr func args keywords with
    | some (.append list) => do
      let values ← evalArguments p fr .none false args
      values.forM (pushPiece fr.globals list)
      return .none
    | some (.join items) => return .text (String.intercalate "" (← textItems 0 items))
    | none => do
      let f ← func.eval p fr
      let values ← evalArguments p fr f (args.length == 1) args
      let named ← evalKeywords p fr f .empty keywords
      f.callFrom p (some fr) values (← textKeywords named)
  | .formatted parts => return .text (← evalParts p fr parts)
  | .placeholder value conversion spec => do
    let v ← value.eval p fr
    let spec ← evalSpec p fr spec
    return .text (← (← v.converted conversion).formatted spec)
  | .attribute value name => do (← value.eval p fr).attribute name
  | .subscript value index => do
    let v ← value.eval p fr
    v.item (← index.eval p fr)
  | .starred _ => .leave "a starred expression"
  | .slice lower upper step => do
    let a ← evalOption p fr lower
    let b ← evalOption p fr upper
    return .slice a b (← evalOption p fr step)

/-- The value of an expression, or the absent value. -/
def evalOption (p : Power) (fr : Frame) : Option Expr → Run Value
  | none => return .none
  | some e => e.eval p fr

/-- The text of the format of a placeholder. -/
def evalSpec (p : Power) (fr : Frame) : Option Expr → Run String
  | none => return ""
  | some e => do
    match ← e.eval p fr with
    | .text s => return s
    | _ => return ""

/-- The first operand that decides, or the last one. -/
def evalBoolean (p : Power) (fr : Frame) (op : BoolOp) : List Expr → Run Value
  | [] => return .none
  | [e] => e.eval p fr
  | e :: es => do
    let v ← e.eval p fr
    if (← v.truth) == (op == .or) then return v else evalBoolean p fr op es

/-- Do all conditions hold? -/
def evalConditions (p : Power) (fr : Frame) : List Expr → Run Bool
  | [] => return true
  | e :: es => do
    if ← (← e.eval p fr).truth then evalConditions p fr es else return false

/-- The values of the elements of a list or tuple. -/
def evalElements (p : Power) (fr : Frame) : List Expr → Run (List Value)
  | [] => return []
  | .starred e :: es => do
    let vs ← spreadItems p (← e.eval p fr)
    return vs ++ (← evalElements p fr es)
  | e :: es => do
    let v ← e.eval p fr
    return v :: (← evalElements p fr es)

/-- Put the items of a dictionary display into the dictionary at a place: the next ones, `now` of
them, as soon as they are evaluated, others when all of them up to the next starred item are.
`waiting` are evaluated, in reverse. -/
def evalItems (p : Power) (fr : Frame) (r : Ref) (now : Nat) (waiting : List (Value × Value)) :
    List DictItem → Run Unit
  | [] => pushEntries r waiting.reverse
  | .entry key value :: rest => do
    let k ← key.eval p fr
    let v ← value.eval p fr
    match now with
    | 0 => evalItems p fr r 0 ((k, v) :: waiting) rest
    | n + 1 => do
      pushEntry r k v
      evalItems p fr r n waiting rest
  | .spread e :: rest => do
    pushEntries r waiting.reverse
    let v ← e.eval p fr
    match ← Run.ask (·.dictionaryOf? v) with
    | some d =>
      pushEntries r d.toList
      evalItems p fr r (immediateEntries rest) [] rest
    | none => .fail .type ("'" ++ (← v.kind) ++ "' object is not a mapping")

/-- Put the elements of a set display into the set at a place, as soon as they are evaluated if
`now` says so, and otherwise when all of them up to the first starred one are.  `waiting` are
evaluated, in reverse. -/
def evalMembers (p : Power) (fr : Frame) (r : Ref) (now : Bool) (waiting : List Value) :
    List Expr → Run Unit
  | [] => waiting.reverse.forM (pushMember r)
  | .starred e :: es => do
    waiting.reverse.forM (pushMember r)
    extendSet p r [← e.eval p fr]
    evalMembers p fr r true [] es
  | e :: es => do
    let v ← e.eval p fr
    if now then
      pushMember r v
      evalMembers p fr r now [] es
    else evalMembers p fr r now (v :: waiting) es

/-- The values of arguments by position. -/
def evalArguments (p : Power) (fr : Frame) (callee : Value) (only : Bool) :
    List Expr → Run (List Value)
  | [] => return []
  | .starred e :: es => do
    let v ← e.eval p fr
    let vs ← if only then spreadOnly p callee v else spreadItems p v
    return vs ++ (← evalArguments p fr callee only es)
  | e :: es => do
    let v ← e.eval p fr
    return v :: (← evalArguments p fr callee only es)

/-- The values of arguments by name. -/
def evalKeywords (p : Power) (fr : Frame) (callee : Value) (keywords : Dictionary) :
    List Keyword → Run Dictionary
  | [] => return keywords
  | .mk (some name) e :: rest => do
    let v ← e.eval p fr
    evalKeywords p fr callee (← addKeyword callee keywords (.text name) v) rest
  | .mk none e :: rest => do
    let entries ← keywordEntries callee (← e.eval p fr)
    evalKeywords p fr callee (← addKeywords callee keywords entries) rest

/-- The values of the defaults of parameters. -/
def evalDefaults (p : Power) (fr : Frame) : List Param → Run (List (String × Value))
  | [] => return []
  | .mk _ _ _ none :: rest => evalDefaults p fr rest
  | .mk _ name _ (some e) :: rest => do
    let v ← e.eval p fr
    return (name, v) :: (← evalDefaults p fr rest)

/-- The result of a chain of comparisons that starts at a value. -/
def evalLinks (p : Power) (fr : Frame) (left : Value) : List CompareLink → Run Value
  | [] => return left
  | [.mk op e] => do
    let right ← e.eval p fr
    return .bool (← left.compare p op right)
  | .mk op e :: rest => do
    let right ← e.eval p fr
    if ← left.compare p op right then evalLinks p fr right rest
    else return .bool false

/-- The text of the parts of a formatted text. -/
def evalParts (p : Power) (fr : Frame) : List Expr → Run String
  | [] => return ""
  | e :: es => do
    match ← e.eval p fr with
    | .text s => return s ++ (← evalParts p fr es)
    | _ => evalParts p fr es

/-- An iterator over the iterable of the first clause. -/
def evalFirst (p : Power) (fr : Frame) : List CompClause → Run Value
  | [] => return .none
  | .mk _ _ iter _ :: _ => do (← iter.eval p fr).iterator

/-- Run something for all values of some clauses.  `first` is the iterator of the first one, if it
is known. -/
def evalClauses (p : Power) (fr : Frame) (emit : Run Unit) (first : Option Value) :
    List CompClause → Run Unit
  | [] => emit
  | .mk _ target iter conditions :: rest => do
    let it ←
      match first with
      | some it => Pure.pure it
      | none => (← iter.eval p fr).iterator
    let _ ← forEach p it
      (fun v => do
        target.bindTo p fr v
        if ← evalConditions p fr conditions then evalClauses p fr emit none rest
        return .normal)
      p.rounds

/-- Bind a target to a value. -/
def Code.Expr.bindTo (p : Power) (fr : Frame) : Expr → Value → Run Unit
  | .name id, v => writeName fr id v
  | .attribute e name, v => do (← e.eval p fr).setAttribute name v
  | .subscript e index, v => do
    let owner ← e.eval p fr
    let i ← index.eval p fr
    owner.setItem i v (assignedItems p v)
  | .tuple targets, v => do bindTargets p fr targets (← dealOut p targets v)
  | .list targets, v => do bindTargets p fr targets (← dealOut p targets v)
  | .starred e, v => e.bindTo p fr v
  | _, _ => .leave "a target"

/-- Bind targets to values, one by one. -/
def bindTargets (p : Power) (fr : Frame) : List Expr → List Value → Run Unit
  | e :: es, v :: vs => do
    e.bindTo p fr v
    bindTargets p fr es vs
  | _, _ => return ()

end

@[simp]
theorem Code.Expr.eval_constant (p : Power) (fr : Frame) (c : Constant) :
    (Expr.constant c).eval p fr = c.value := by
  rw [Expr.eval]

@[simp]
theorem Code.Expr.eval_name (p : Power) (fr : Frame) (id : String) :
    (Expr.name id).eval p fr = readName fr id := by
  rw [Expr.eval]

@[simp]
theorem evalArguments_nil (p : Power) (fr : Frame) (callee : Value) (only : Bool) :
    evalArguments p fr callee only [] = Pure.pure [] := by
  rw [evalArguments]

end Inlay
