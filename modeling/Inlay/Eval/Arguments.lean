/-
  Inlay.Eval.Arguments
  ────────────────────────────────
  **ARGUMENTS.**

  How many arguments functions take, and what they say when there are too
  many or too few; and how the arguments of a function that is written in the
  embedded language find their parameters.
-/
import Inlay.Code.Scope
import Inlay.Run

namespace Inlay

open Inlay.Code

/-! ## §1. Functions of the language itself. -/

/-- Fail because of a keyword argument, if there is one. -/
def noKeywords (name : String) (keywords : List (String × Value)) : Run Unit :=
  if keywords.isEmpty then return ()
  else .fail .type (name ++ "() takes no keyword arguments")

/-- Fail because of a keyword argument that is not among the allowed ones. -/
def onlyKeywords (name : String) (allowed : List String) (keywords : List (String × Value)) :
    Run Unit :=
  match keywords.find? (fun k => !allowed.contains k.1) with
  | none => return ()
  | some k =>
    .fail .type ("'" ++ k.1 ++ "' is an invalid keyword argument for " ++ name ++ "()")

/-- A number of arguments in words. -/
def argumentsText (n : Nat) : String :=
  toString n ++ (if n = 1 then " argument" else " arguments")

/-- The only argument. -/
def oneArgument (name : String) (args : List Value) (keywords : List (String × Value)) :
    Run Value := do
  noKeywords name keywords
  match args with
  | [v] => return v
  | _ =>
    .fail .type (name ++ "() takes exactly one argument (" ++ toString args.length ++ " given)")

/-- Fail unless there are no arguments. -/
def noArguments (name : String) (args : List Value) (keywords : List (String × Value)) :
    Run Unit := do
  noKeywords name keywords
  if args.isEmpty then return ()
  else .fail .type (name ++ "() takes no arguments (" ++ toString args.length ++ " given)")

/-- Fail unless there are at least and at most so many arguments. -/
def argumentRange (name : String) (least most : Nat) (args : List Value) : Run Unit :=
  let n := args.length
  if n < least then
    .fail .type (name ++ " expected " ++ (if least = most then "" else "at least ")
      ++ argumentsText least ++ ", got " ++ toString n)
  else if most < n then
    .fail .type (name ++ " expected " ++ (if least = most then "" else "at most ")
      ++ argumentsText most ++ ", got " ++ toString n)
  else return ()

/-- Fail if there are more arguments than so many. -/
def argumentLimit (name : String) (most : Nat) (args : List Value)
    (keywords : List (String × Value)) : Run Unit :=
  let n := args.length + keywords.length
  if most < n then
    .fail .type (name ++ "() takes at most " ++ toString most
      ++ (if args.isEmpty then " keyword argument" else " argument")
      ++ (if most = 1 then "" else "s") ++ " (" ++ toString n ++ " given)")
  else return ()

/-- The first parameter from one on that gets no argument, with its place. -/
def missingParameter? (values : List (Option Value)) (names : List String) (least : Nat) :
    Option (String × Nat) :=
  ((values.zip names).zipIdx.take least).findSome? (fun ((v, n), i) =>
    if v.isNone then some (n, i + 1) else none)

/-- The arguments of parameters that take them by position or by name, the first `least` of which
must get one.  A parameter without a name takes its argument by position only. -/
def argumentsOf (name : String) (names : List String) (least : Nat) (args : List Value)
    (keywords : List (String × Value)) : Run (List (Option Value)) := do
  argumentLimit name names.length args keywords
  let values := names.zipIdx.map (fun (n, i) => args[i]?.or (keywords.lookup n))
  match missingParameter? values names least with
  | some (n, place) =>
    .fail .type (name ++ "() missing required argument '" ++ n ++ "' (pos " ++ toString place
      ++ ")")
  | none =>
    match names.zipIdx.find? (fun (n, i) => i < args.length && (keywords.lookup n).isSome) with
    | some (n, i) =>
      .fail .type ("argument for " ++ name ++ "() given by name ('" ++ n ++ "') and position ("
        ++ toString (i + 1) ++ ")")
    | none =>
      onlyKeywords name names keywords
      return values

/-- The two arguments of a function that takes two. -/
def twoArguments (name : String) (args : List Value) (keywords : List (String × Value)) :
    Run (Value × Value) := do
  noKeywords name keywords
  argumentRange name 2 2 args
  return (args[0]?.getD .none, args[1]?.getD .none)

/-! ## §2. Functions of the embedded language. -/

/-- Names in a message: each in quotes, the last one behind an "and". -/
def nameList : List String → String
  | [] => ""
  | [a] => "'" ++ a ++ "'"
  | [a, b] => "'" ++ a ++ "' and '" ++ b ++ "'"
  | names =>
    String.intercalate ", " (names.dropLast.map (fun a => "'" ++ a ++ "'")) ++ ", and '"
      ++ names.getLast?.getD "" ++ "'"

/-- Parameters of some kinds. -/
def paramsOf (kinds : List ParamKind) (ps : List Param) : List String :=
  ps.filterMap (fun p =>
    match p with
    | .mk kind name _ _ => if kinds.any (fun k => k = kind) then some name else none)

/-- A function as far as its arguments are concerned. -/
structure Signature where
  name : String
  params : List Param
  defaults : List (String × Value)

namespace Signature

/-- The parameters that take arguments by position. -/
def positional (s : Signature) : List String := paramsOf [.positional, .regular] s.params

/-- The parameters that take arguments by name. -/
def named (s : Signature) : List String := paramsOf [.regular, .keyword] s.params

/-- The parameters that take arguments by name only. -/
def keywordOnly (s : Signature) : List String := paramsOf [.keyword] s.params

/-- The parameter that takes further arguments by position. -/
def rest? (s : Signature) : Option String := (paramsOf [.rest] s.params).head?

/-- The parameter that takes further arguments by name. -/
def keywords? (s : Signature) : Option String := (paramsOf [.keywords] s.params).head?

/-- What is said about too many arguments by position; `byName` are bound keyword-only
parameters. -/
def tooMany (s : Signature) (given byName : Nat) : String :=
  let most := s.positional.length
  let optional := (s.positional.filter (fun p => (s.defaults.lookup p).isSome)).length
  let plural := if most = 1 && optional = 0 then "" else "s"
  let count :=
    if optional = 0 then toString most
    else "from " ++ toString (most - optional) ++ " to " ++ toString most
  let more :=
    if byName = 0 then (if given = 1 then "was" else "were")
    else "positional argument" ++ (if given = 1 then "" else "s") ++ " (and "
      ++ toString byName ++ " keyword-only argument" ++ (if byName = 1 then "" else "s")
      ++ ") were"
  s.name ++ "() takes " ++ count ++ " positional argument" ++ plural ++ " but "
    ++ toString given ++ " " ++ more ++ " given"

/-- What is said about missing arguments. -/
def missing (s : Signature) (kind : String) (names : List String) : String :=
  s.name ++ "() missing " ++ toString names.length ++ " required " ++ kind ++ " argument"
    ++ (if names.length = 1 then "" else "s") ++ ": " ++ nameList names

/-- Bind arguments by name; those that no parameter takes are returned. -/
def bindNamed (s : Signature) : List (String × Value) → List (String × Value) →
    Except String (List (String × Value) × List (String × Value))
  | bound, [] => .ok (bound, [])
  | bound, (k, v) :: rest =>
    if s.named.contains k then
      if (bound.lookup k).isSome then
        .error (s.name ++ "() got multiple values for argument '" ++ k ++ "'")
      else bindNamed s (bound ++ [(k, v)]) rest
    else if s.keywords?.isSome then
      (bindNamed s bound rest).map (fun p => (p.1, (k, v) :: p.2))
    else
      let names := k :: rest.map Prod.fst
      let wrong := (paramsOf [.positional] s.params).filter names.contains
      if wrong.isEmpty then
        .error (s.name ++ "() got an unexpected keyword argument '" ++ k ++ "'")
      else
        .error (s.name
          ++ "() got some positional-only arguments passed as keyword arguments: '"
          ++ String.intercalate ", " wrong ++ "'")

/-- Parameters that are neither bound nor have a default. -/
def unbound (s : Signature) (bound : List (String × Value)) (names : List String) :
    List String :=
  names.filter (fun p => (bound.lookup p).isNone && (s.defaults.lookup p).isNone)

/-- The parameters with their arguments, and the arguments that have no parameter of their own:
by position, and by name. -/
def bind (s : Signature) (args : List Value) (keywords : List (String × Value)) :
    Except String (List (String × Value) × List Value × List (String × Value)) := do
  let byPosition := s.positional.zip args
  let (bound, others) ← s.bindNamed byPosition keywords
  if s.positional.length < args.length && s.rest?.isNone then
    throw (s.tooMany args.length (s.keywordOnly.filter (fun p => (bound.lookup p).isSome)).length)
  let missingOnes := s.unbound bound s.positional
  if !missingOnes.isEmpty then throw (s.missing "positional" missingOnes)
  let missingNamed := s.unbound bound s.keywordOnly
  if !missingNamed.isEmpty then throw (s.missing "keyword-only" missingNamed)
  let filled := (s.positional ++ s.keywordOnly).filterMap (fun p =>
    ((bound.lookup p).or (s.defaults.lookup p)).map (fun v => (p, v)))
  return (filled, args.drop s.positional.length, others)

end Signature

end Inlay
