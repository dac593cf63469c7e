/-
  Inlay.Eval.Builtins
  ────────────────────────────────
  **THE FUNCTIONS OF THE LANGUAGE.**

  What the functions do that every program can name, and the three functions
  that only compiled templates name: output text, realignment and
  reindentation.
-/
import Inlay.Eval.Braces
import Inlay.Eval.Classes
import Inlay.Eval.Mathematics
import Inlay.Eval.Membership
import Inlay.Eval.Names
import Inlay.Eval.Rounding
import Inlay.Eval.Sort
import Inlay.Indent.Lines

namespace Inlay

open Inlay.Code

/-! ## §1. Sizes and sums. -/

/-- The function `len`. -/
def Value.size (v : Value) : Run Value := do
  match ← Run.ask (·.sizeOf? v) with
  | some n =>
    if fitsSize n then return .int n
    else .fail .overflow "Python int too large to convert to C ssize_t"
  | Option.none => .fail .type ("object of type '" ++ (← v.kind) ++ "' has no len()")

/-- The function `sum`. -/
def callSum (p : Power) (args : List Value) (keywords : List (String × Value)) : Run Value := do
  match args with
  | [] =>
    if keywords.length > 2 then
      .fail .type ("sum() takes at most 2 keyword arguments (" ++ toString keywords.length
        ++ " given)")
    else .fail .type "sum() takes at least 1 positional argument (0 given)"
  | v :: more =>
    argumentLimit "sum" 2 args keywords
    onlyKeywords "sum" ["start"] keywords
    let start := ((more ++ keywords.map Prod.snd).head?).getD (.int 0)
    let it ← v.iterator
    match start with
    | .text _ => .fail .type "sum() can't sum strings [use ''.join(seq) instead]"
    | _ => foldValues p it (fun total u => total.binary false .add u) p.rounds start

/-- Does some value count as true, or do all of them, as `wanted` says?  The rest is not
looked at once that is known. -/
def decideAll (p : Power) (it : Value) (wanted : Bool) : Nat → Run Value
  | 0 => .starve
  | n + 1 => do
    match ← it.advance p with
    | none => return .bool !wanted
    | some v => if (← v.truth) == wanted then return .bool wanted else decideAll p it wanted n

/-! ## §2. Extremes. -/

/-- The better one of the best value so far and a new one, each with its key. -/
def betterOf (p : Power) (op : CompareOp) (key : Value) (best : Option Keyed) (v : Value) :
    Run (Option Keyed) := do
  let k ←
    match key with
    | .none => Pure.pure v
    | f => p.call f [v] []
  match best with
  | none => return some (k, v)
  | some b => if ← Value.ordered op k b.1 then return some (k, v) else return best

/-- The functions `max` and `min`. -/
def callExtreme (p : Power) (name : String) (op : CompareOp) (args : List Value)
    (keywords : List (String × Value)) : Run Value := do
  if args.isEmpty then
    .fail .type (name ++ " expected at least 1 argument, got 0")
  else
    argumentLimit name 2 [] keywords
    onlyKeywords name ["key", "default"] keywords
    let fallback := keywords.lookup "default"
    if args.length > 1 && fallback.isSome then
      .fail .type ("Cannot specify a default for " ++ name
        ++ "() with multiple positional arguments")
    else
      let it ←
        match args with
        | [v] => v.iterator
        | vs => (Value.tuple vs).iterator
      let key := (keywords.lookup "key").getD .none
      match ← foldValues p it (betterOf p op key) p.rounds none, fallback with
      | some best, _ => return best.2
      | none, some v => return v
      | none, none => .fail .value (name ++ "() arg is an empty sequence")

/-- The function `sorted`. -/
def callSorted (p : Power) (args : List Value) (keywords : List (String × Value)) :
    Run Value := do
  argumentRange "sorted" 1 1 args
  let items ← (args.head?.getD .none).collect p
  Run.newList (← (← SortOrder.ofKeywords keywords).sort p items)

/-! ## §3. Iterators. -/

/-- The function `next`. -/
def callNext (p : Power) (args : List Value) (keywords : List (String × Value)) : Run Value := do
  noKeywords "next" keywords
  argumentRange "next" 1 2 args
  match args with
  | [it] =>
    match ← it.advance p with
    | some v => return v
    | none => .throw (.of .stopIteration [])
  | it :: fallback :: _ => return (← untilStop (it.advance p)).getD fallback
  | [] => return .none

/-- The function `iter`. -/
def callIter (args : List Value) (keywords : List (String × Value)) : Run Value := do
  noKeywords "iter" keywords
  argumentRange "iter" 1 2 args
  match args with
  | [v] => v.iterator
  | f :: sentinel :: _ =>
    if isCallable f then Run.newIter (.calls f sentinel)
    else .fail .type "iter(v, w): v must be callable"
  | [] => return .none

/-- The keyword arguments of `enumerate` beside so many arguments by position, if there are so many
by name. -/
def enumerateKeywords (positional named : Nat) : List String :=
  if 0 < positional then ["start"] else if named < 2 then ["iterable"] else ["iterable", "start"]

/-- The function `enumerate`. -/
def callEnumerate (args : List Value) (keywords : List (String × Value)) : Run Value := do
  argumentLimit "enumerate" 2 args keywords
  onlyKeywords "enumerate" (enumerateKeywords args.length keywords.length) keywords
  match args.head?.or (keywords.lookup "iterable") with
  | none => .fail .type "enumerate() missing required argument 'iterable'"
  | some v =>
    let start ← ((args[1]?.or (keywords.lookup "start")).getD (.int 0)).toIndex
    Run.newIter (.enumerate (← v.iterator) start)

/-- The function `map`. -/
def callMap (args : List Value) (keywords : List (String × Value)) : Run Value := do
  noKeywords "map" keywords
  match args with
  | f :: v :: more => Run.newIter (.map f (← (v :: more).mapM Value.iterator))
  | _ => .fail .type "map() must have at least two arguments."

/-- The function `filter`. -/
def callFilter (args : List Value) (keywords : List (String × Value)) : Run Value := do
  noKeywords "filter" keywords
  argumentRange "filter" 2 2 args
  Run.newIter (.filter (args[0]?.getD .none) (← (args[1]?.getD Value.none).iterator))

/-- The function `zip`. -/
def callZip (args : List Value) (keywords : List (String × Value)) : Run Value := do
  argumentLimit "zip" 1 [] keywords
  onlyKeywords "zip" ["strict"] keywords
  let strict ← ((keywords.lookup "strict").getD (.bool false)).truth
  Run.newIter (.zip (← args.mapM Value.iterator) strict)

/-- What an iterator over a dictionary from its end is called. -/
def reverseKind : ViewKind → String
  | .keys => "dict_reversekeyiterator"
  | .values => "dict_reversevalueiterator"
  | .items => "dict_reverseitemiterator"

/-- The function `reversed`. -/
def callReversed (args : List Value) (keywords : List (String × Value)) : Run Value := do
  noKeywords "reversed" keywords
  argumentRange "reversed" 1 1 args
  let v := args.head?.getD .none
  match v with
  | .text s =>
    Run.newIter (.values (s.toList.reverse.map (fun c => .text (String.singleton c))) "reversed")
  | .tuple items => Run.newIter (.values items.reverse "reversed")
  | .range a b c =>
    let n := rangeLength a b c
    Run.newIter (.range (a + c * (n - 1)) n (-c))
  | .view _ r kind => do
    let entries ← Run.ask (fun w => (w.dictionaryAt r).toList)
    Run.newIter (.values (entries.reverse.map (viewOf kind))
      (reverseKind kind))
  | .ref r =>
    match ← Run.object r with
    | .list items => Run.newIter (.listBack r items.size)
    | .dict d =>
      Run.newIter (.values (d.toList.reverse.map Prod.fst) (reverseKind .keys))
    | o => .fail .type ("'" ++ o.kind ++ "' object is not reversible")
  | _ => .fail .type ("'" ++ (← v.kind) ++ "' object is not reversible")

/-! ## §4. Other values. -/

/-- The function `slice`. -/
def callSlice (args : List Value) (keywords : List (String × Value)) : Run Value := do
  noKeywords "slice" keywords
  argumentRange "slice" 1 3 args
  match args with
  | [b] => return .slice .none b .none
  | a :: b :: more => return .slice a b (more.head?.getD .none)
  | [] => return .none

/-- Do the hash of a value and what is made from it look the same in every run? -/
def hasSteadyHash : Key → Bool
  | .whole _ => true
  | .fraction _ => true
  | .empty => true
  | .item first rest => hasSteadyHash first && hasSteadyHash rest
  | _ => false

/-- The function `hash`. -/
def Value.hashNumber (v : Value) : Run Value := do
  v.ensureKey
  if hasSteadyHash v.key then return .int v.key.hashCode.toInt64.toInt
  else .leave "hashes that differ from run to run"

/-- The function `object`. -/
def callObject (args : List Value) (keywords : List (String × Value)) : Run Value := do
  if args.isEmpty && keywords.isEmpty then .leave "bare objects"
  else .fail .type "object() takes no arguments"

/-- The names at hand: those of the module that asks.  Functions have names of their own. -/
def callNames (here : Option Frame) (name : String) (args : List Value)
    (keywords : List (String × Value)) : Run Value := do
  noArguments name args keywords
  match here with
  | some fr =>
    if name = "globals" || fr.scopes.isEmpty then
      openNames fr.globals
      return .ref fr.globals
    else .leave "the names of a function"
  | none => .leave "the names of a module"

/-! ## §5. Functions of compiled templates. -/

/-- The characters of a value that must be text. -/
def Value.characters (v : Value) : Run (List Char) := do
  match v with
  | .text s => return s.toList
  | _ => .leave ("text expected, found " ++ (← v.kind))

/-- The text of a pipe block in its place. -/
def callRealign (args : List Value) : Run Value := do
  match args with
  | [text, baseline, current, trim] =>
    let s ← text.characters
    let b ← baseline.characters
    let c ← current.characters
    return .text (String.ofList (Indent.realignBlock b c (← trim.truth) s))
  | _ => .leave "realignment"

/-- Text with its later lines indented. -/
def callReindent (args : List Value) : Run Value := do
  match args with
  | [text, indentation] =>
    let s ← text.characters
    let i ← indentation.characters
    return .text (String.ofList (Indent.reindent i s))
  | _ => .leave "reindentation"

/-! ## §6. All of them. -/

/-- Call a function of the language.  `here` is where it is called. -/
def Builtin.call (p : Power) (here : Option Frame) (b : Builtin) (args : List Value)
    (keywords : List (String × Value)) : Run Value := do
  match b with
  | .len => (← oneArgument "len" args keywords).size
  | .text => callText args keywords
  | .int => callInt args keywords
  | .float => callFloat args keywords
  | .bool => callBool args keywords
  | .list => callList p args keywords
  | .tuple => callTuple p args keywords
  | .dict => callDict p args keywords
  | .set => callSet p args keywords
  | .frozenset => callFrozen p args keywords
  | .range => callRange args keywords
  | .slice => callSlice args keywords
  | .object => callObject args keywords
  | .type => callType args keywords
  | .enumerate => callEnumerate args keywords
  | .map => callMap args keywords
  | .filter => callFilter args keywords
  | .zip => callZip args keywords
  | .reversed => callReversed args keywords
  | .sorted => callSorted p args keywords
  | .sum => callSum p args keywords
  | .max => callExtreme p "max" .greater args keywords
  | .min => callExtreme p "min" .less args keywords
  | .iter => callIter args keywords
  | .next => callNext p args keywords
  | .globals => callNames here "globals" args keywords
  | .locals => callNames here "locals" args keywords
  | .abs => (← oneArgument "abs" args keywords).magnitude
  | .any => do
    decideAll p (← (← oneArgument "any" args keywords).iterator) true p.rounds
  | .all => do
    decideAll p (← (← oneArgument "all" args keywords).iterator) false p.rounds
  | .repr => return .text (← (← oneArgument "repr" args keywords).display)
  | .ascii => return .text (← (← oneArgument "ascii" args keywords).displayAscii)
  | .format => callFormat args keywords
  | .chr => (← oneArgument "chr" args keywords).toCharacter
  | .ord => (← oneArgument "ord" args keywords).codePoint
  | .hex => inBase 'x' 16 (← oneArgument "hex" args keywords)
  | .oct => inBase 'o' 8 (← oneArgument "oct" args keywords)
  | .bin => inBase 'b' 2 (← oneArgument "bin" args keywords)
  | .hash => (← oneArgument "hash" args keywords).hashNumber
  | .callable => return .bool (isCallable (← oneArgument "callable" args keywords))
  | .isinstance => callIsInstance args keywords
  | .issubclass => callIsSubclass args keywords
  | .getattr => callGetAttribute args keywords
  | .hasattr => callHasAttribute args keywords
  | .setattr => callSetAttribute args keywords
  | .delattr => callRemoveAttribute args keywords
  | .round => callRound args keywords
  | .divmod => callDivMod args keywords
  | .pow => callPow args keywords
  | .outputText => return .text (← (← oneArgument "to_str" args keywords).outputText)
  | .realign => callRealign args
  | .reindent => callReindent args
  | .ofNumbers f => f.call args keywords
  | .otherFunction s => .leave ("the function " ++ s)
  | .otherClass s => .leave ("the class " ++ s)

end Inlay
