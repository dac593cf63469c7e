/-
  Inlay.Eval.TextMethods
  ────────────────────────────────
  **THE METHODS OF TEXTS.**

  What the methods of texts do: letters, edges, pieces, places, and widths.
-/
import Inlay.Eval.Braces
import Inlay.Text.Identifier
import Inlay.Text.Lines
import Inlay.Text.Lower

namespace Inlay

/-! ## §1. Arguments. -/

/-- The texts among some values, which all must be texts; `index` counts them. -/
def textItems (index : Nat) : List Value → Run (List String)
  | [] => return []
  | .text s :: rest => do return s :: (← textItems (index + 1) rest)
  | v :: _ => do
    .fail .type ("sequence item " ++ toString index ++ ": expected str instance, "
      ++ (← v.kind) ++ " found")

/-- A text that a method asks for. -/
def Value.asText (v : Value) : Run String := do
  match v with
  | .text s => return s
  | _ => .fail .type ("must be str, not " ++ (← v.kind))

/-- The values that a text joins. -/
def joinedItems (p : Power) (v : Value) : Run (List Value) := do
  match ← Run.attempt v.iterator with
  | .ok it => collectAll p it
  | .error _ => .fail .type "can only join an iterable"

/-- A bound of a part of a text. -/
def partBound (v : Value) : Run (Option Int) :=
  match sliceBound v with
  | .ok n => return n
  | .error f => .fail f.errorClass f.message

/-- The part of a text between two bounds, and the place where it starts; nothing if it starts
behind its end. -/
def partOf (s : List Char) (low high : Option Int) : Option (List Char × Nat) :=
  let n : Int := s.length
  let start := (low.map (fun i => if i < 0 then max 0 (i + n) else i)).getD 0
  let stop := (high.map (fun i => if i < 0 then max 0 (i + n) else min i n)).getD n
  if stop < start then none
  else some ((s.take stop.toNat).drop start.toNat, start.toNat)

/-- The text that is looked for, and the part that it is looked for in. -/
def soughtIn (name : String) (s : String) (args : List Value)
    (keywords : List (String × Value)) : Run (List Char × Option (List Char × Nat)) := do
  noKeywords ("str." ++ name) keywords
  if args.isEmpty then
    .fail .type (name ++ "() takes at least 1 argument (0 given)")
  else if 3 < args.length then
    .fail .type (name ++ "() takes at most 3 arguments (" ++ toString args.length ++ " given)")
  else
    let low ← partBound (args[1]?.getD .none)
    let high ← partBound (args[2]?.getD .none)
    let t ← (args.head?.getD .none).asText
    return (t.toList, partOf s.toList low high)

/-! ## §2. Searching. -/

/-- The last place of a text in another one. -/
def lastPlaceOf? (t s : List Char) : Option Nat :=
  (Text.placeOf? t.reverse s.reverse).map (fun k => s.length - t.length - k)

/-- How often a text occurs in another one, without overlaps. -/
def countIn (t s : List Char) : Nat :=
  if t.isEmpty then s.length + 1 else (Text.splitOn t s.length s).length - 1

/-- The place of a text in a part of another one. -/
def findIn (back : Bool) (sought : List Char × Option (List Char × Nat)) : Option Nat :=
  sought.2.bind (fun (part, start) =>
    ((if back then lastPlaceOf? else Text.placeOf?) sought.1 part).map (· + start))

/-- The methods that tell a place, or fail if there is none. -/
def callIndex (back : Bool) (name s : String) (args : List Value)
    (keywords : List (String × Value)) : Run Value := do
  match findIn back (← soughtIn name s args keywords) with
  | some k => return .int k
  | none => .fail .value "substring not found"

/-- The methods that tell a place, or minus one. -/
def callFind (back : Bool) (name s : String) (args : List Value)
    (keywords : List (String × Value)) : Run Value := do
  return .int (((findIn back (← soughtIn name s args keywords)).map Int.ofNat).getD (-1))

/-- Does a part of a text start or end with a text? -/
def partHas (holds : List Char → List Char → Bool) (part : Option (List Char × Nat))
    (t : String) : Bool :=
  part.any (fun q => holds t.toList q.1)

/-- Does one of some values, which must be texts, stand at the edge? -/
def anyEdge (name : String) (holds : String → Bool) : List Value → Run Bool
  | [] => return false
  | .text t :: rest => if holds t then return true else anyEdge name holds rest
  | v :: _ => do
    .fail .type ("tuple for " ++ name ++ " must only contain str, not " ++ (← v.kind))

/-- Does a text start or end with another one, or with one of some? -/
def callEdge (name : String) (holds : List Char → List Char → Bool) (s : String)
    (args : List Value) (keywords : List (String × Value)) : Run Value := do
  noKeywords ("str." ++ name) keywords
  if args.isEmpty then
    .fail .type (name ++ "() takes at least 1 argument (0 given)")
  else if 3 < args.length then
    .fail .type (name ++ "() takes at most 3 arguments (" ++ toString args.length ++ " given)")
  else
    let low ← partBound (args[1]?.getD .none)
    let high ← partBound (args[2]?.getD .none)
    let part := partOf s.toList low high
    match args.head?.getD .none with
    | .text t => return .bool (partHas holds part t)
    | .tuple items => return .bool (← anyEdge name (partHas holds part) items)
    | v => .fail .type (name ++ " first arg must be str or a tuple of str, not " ++ (← v.kind))

/-! ## §3. Pieces. -/

/-- The words of a text: what stands between blanks.  At most `limit` words are cut off, in so
many steps; what stands behind them is one piece, with the blanks at its end. -/
def wordsOf (limit : Nat) (s : List Char) : Nat → List (List Char)
  | 0 => []
  | n + 1 =>
    match Text.stripLeft s with
    | [] => []
    | s =>
      match limit with
      | 0 => [s]
      | k + 1 =>
        let word := s.takeWhile (fun c => !Text.isBlank c)
        word :: wordsOf k (s.drop word.length) n

/-- The words of a text, cut off from the front or from the back. -/
def wordPieces (back : Bool) (limit : Nat) (s : List Char) : List (List Char) :=
  if back then ((wordsOf limit s.reverse (s.length + 1)).map List.reverse).reverse
  else wordsOf limit s (s.length + 1)

/-- Texts as a list. -/
def newTexts (pieces : List (List Char)) : Run Value :=
  Run.newList (pieces.map (fun t => .text (String.ofList t)))

/-- A limit on the number of pieces; a negative one is none. -/
def pieceLimit (s : String) (v : Option Value) : Run Nat := do
  match v with
  | none => return s.length + 1
  | some v =>
    let n ← v.toIndex
    return if n < 0 then s.length + 1 else n.toNat

/-- The methods that cut a text into pieces. -/
def callSplit (back : Bool) (name s : String) (args : List Value)
    (keywords : List (String × Value)) : Run Value := do
  let values ← argumentsOf name ["sep", "maxsplit"] 0 args keywords
  let limit ← pieceLimit s values[1]?.join
  match values.head?.join.getD .none with
  | .none => newTexts (wordPieces back limit s.toList)
  | .text "" => .fail .value "empty separator"
  | .text t =>
    newTexts ((if back then Text.splitOnBack else Text.splitOn) t.toList limit s.toList)
  | v => .fail .type ("must be str or None, not " ++ (← v.kind))

/-- The lines of a text with what ends them. -/
def keptLines : List Char → List (List Char)
  | [] => []
  | '\r' :: '\n' :: s => ['\r', '\n'] :: keptLines s
  | c :: s =>
    if Text.isLineBoundary c then [c] :: keptLines s else Text.consFirst c (keptLines s)

/-- The method that cuts a text into lines. -/
def callLines (s : String) (args : List Value) (keywords : List (String × Value)) :
    Run Value := do
  let values ← argumentsOf "splitlines" ["keepends"] 0 args keywords
  let kept ← (values.head?.join.getD (.bool false)).toIndex
  newTexts ((if kept ≠ 0 then keptLines else Text.breakLines) s.toList)

/-- The methods that cut a text at a separator. -/
def callPartition (back : Bool) (name s : String) (args : List Value)
    (keywords : List (String × Value)) : Run Value := do
  let t ← (← oneArgument ("str." ++ name) args keywords).asText
  let cs := s.toList
  let ts := t.toList
  let three (a b c : List Char) : Value :=
    .tuple ([a, b, c].map (fun x => .text (String.ofList x)))
  if ts.isEmpty then .fail .value "empty separator"
  else
    match (if back then lastPlaceOf? else Text.placeOf?) ts cs with
    | some k => return three (cs.take k) ts (cs.drop (k + ts.length))
    | none => return if back then three [] [] cs else three cs [] []

/-! ## §4. Edges and widths. -/

/-- A text without certain characters at its edges. -/
def trimmed (left right : Bool) (drop : Char → Bool) (s : List Char) : List Char :=
  let s := if left then s.dropWhile drop else s
  if right then (s.reverse.dropWhile drop).reverse else s

/-- The methods that take characters off the edges. -/
def callStrip (left right : Bool) (name s : String) (args : List Value)
    (keywords : List (String × Value)) : Run Value := do
  noKeywords ("str." ++ name) keywords
  argumentRange name 0 1 args
  match args.head?.getD .none with
  | .none => return .text (String.ofList (trimmed left right Text.isBlank s.toList))
  | .text t => return .text (String.ofList (trimmed left right t.toList.contains s.toList))
  | _ => .fail .type (name ++ " arg must be None or str")

/-- The character that fills a width. -/
def fillCharacter (v : Option Value) : Run Char := do
  match v with
  | none => return ' '
  | some (.text t) =>
    match t.toList with
    | [c] => return c
    | _ => .fail .type "The fill character must be exactly one character long"
  | some v =>
    .fail .type ("The fill character must be a unicode character, not " ++ (← v.kind))

/-- The methods that bring a text to a width; `left` says how much of what is missing stands in
front. -/
def callPad (name : String) (left : Nat → Nat → Nat) (s : String) (args : List Value)
    (keywords : List (String × Value)) : Run Value := do
  noKeywords ("str." ++ name) keywords
  argumentRange name 1 2 args
  let width ← (args.head?.getD .none).toIndex
  let c ← fillCharacter args[1]?
  if maxWidth < width then .leave "a text that wide"
  let n := width.toNat - s.length
  let k := left n width.toNat
  return .text (String.ofList
    (List.replicate k c ++ s.toList ++ List.replicate (n - k) c))

/-- How much of what is missing stands in front of a text in the middle: the odd one does if the
width is odd. -/
def middleLeft (missing width : Nat) : Nat :=
  missing / 2 + (if missing % 2 = 1 && width % 2 = 1 then 1 else 0)

/-- The method that fills a number with zeros behind its sign. -/
def callZeroFill (s : String) (args : List Value) (keywords : List (String × Value)) :
    Run Value := do
  let width ← (← oneArgument "str.zfill" args keywords).toIndex
  if maxWidth < width then .leave "a text that wide"
  let (sign, rest) :=
    match s.toList with
    | '-' :: r => (['-'], r)
    | '+' :: r => (['+'], r)
    | r => ([], r)
  return .text (String.ofList (sign ++ List.replicate (width.toNat - s.length) '0' ++ rest))

/-- The method that replaces parts. -/
def callReplace (s : String) (args : List Value) (keywords : List (String × Value)) :
    Run Value := do
  noKeywords "str.replace" keywords
  argumentRange "replace" 2 3 args
  let wanted (i : Nat) : Run (List Char) := do
    match args[i]?.getD .none with
    | .text t => return t.toList
    | v =>
      .fail .type ("replace() argument " ++ toString (i + 1) ++ " must be str, not "
        ++ (← v.argumentKind))
  let old ← wanted 0
  let new ← wanted 1
  let limit ← pieceLimit s args[2]?
  return .text (String.ofList (Text.replaceIn old new limit s.toList))

/-- The methods that take a certain text off an edge. -/
def callRemoveEdge (name : String) (cut : List Char → List Char → List Char) (s : String)
    (args : List Value) (keywords : List (String × Value)) : Run Value := do
  match ← oneArgument ("str." ++ name) args keywords with
  | .text t => return .text (String.ofList (cut t.toList s.toList))
  | v => .fail .type (name ++ "() argument must be str, not " ++ (← v.argumentKind))

/-- A text without another one at its start. -/
def withoutStart (t s : List Char) : List Char := if t.isPrefixOf s then s.drop t.length else s

/-- A text without another one at its end. -/
def withoutEnd (t s : List Char) : List Char :=
  if t.isSuffixOf s then s.take (s.length - t.length) else s

/-! ## §5. Questions. -/

/-- A question about all characters of a text. -/
def callQuestion (name s : String) (holds : Char → Bool) (ofEmpty : Bool) (args : List Value)
    (keywords : List (String × Value)) : Run Value := do
  noArguments ("str." ++ name) args keywords
  let cs := s.toList
  return .bool (if cs.isEmpty then ofEmpty else cs.all holds)

/-- Is the text an identifier? -/
def isIdentifierText (s : String) : Bool :=
  match s.toList with
  | [] => false
  | c :: cs => Text.isIdentifierStart c && cs.all Text.isIdentifierPart

/-! ## §6. All methods. -/

/-- Call a method of a text. -/
def callTextMethod (p : Power) (s : String) (m : Method) (args : List Value)
    (keywords : List (String × Value)) : Run Value := do
  match m with
  | .upper => do
    noArguments "str.upper" args keywords
    return .text (Text.upper s)
  | .lower => do
    noArguments "str.lower" args keywords
    return .text (Text.lower s)
  | .join => do
    let v ← oneArgument "str.join" args keywords
    return .text (String.intercalate s (← textItems 0 (← joinedItems p v)))
  | .startsWith => callEdge "startswith" List.isPrefixOf s args keywords
  | .endsWith => callEdge "endswith" List.isSuffixOf s args keywords
  | .strip => callStrip true true "strip" s args keywords
  | .lstrip => callStrip true false "lstrip" s args keywords
  | .rstrip => callStrip false true "rstrip" s args keywords
  | .split => callSplit false "split" s args keywords
  | .rsplit => callSplit true "rsplit" s args keywords
  | .splitlines => callLines s args keywords
  | .partition => callPartition false "partition" s args keywords
  | .rpartition => callPartition true "rpartition" s args keywords
  | .find => callFind false "find" s args keywords
  | .rfind => callFind true "rfind" s args keywords
  | .index => callIndex false "index" s args keywords
  | .rindex => callIndex true "rindex" s args keywords
  | .count => do
    let (t, part) ← soughtIn "count" s args keywords
    return .int ((part.map (fun q => countIn t q.1)).getD 0)
  | .replace => callReplace s args keywords
  | .removePrefix => callRemoveEdge "removeprefix" withoutStart s args keywords
  | .removeSuffix => callRemoveEdge "removesuffix" withoutEnd s args keywords
  | .zfill => callZeroFill s args keywords
  | .ljust => callPad "ljust" (fun _ _ => 0) s args keywords
  | .rjust => callPad "rjust" (fun n _ => n) s args keywords
  | .center => callPad "center" middleLeft s args keywords
  | .isdecimal =>
    callQuestion "isdecimal" s (fun c => (Text.decimalValue? c).isSome) false args keywords
  | .isdigit =>
    if s.toList.all (fun c => c.toNat < 128 || (Text.decimalValue? c).isSome) then
      callQuestion "isdigit" s (fun c => (Text.decimalValue? c).isSome) false args keywords
    else .leave "digits that are not decimal"
  | .isspace => callQuestion "isspace" s Text.isBlank false args keywords
  | .isascii => callQuestion "isascii" s (·.toNat < 128) true args keywords
  | .isprintable => callQuestion "isprintable" s Text.isPrintable true args keywords
  | .isidentifier => do
    noArguments "str.isidentifier" args keywords
    return .bool (isIdentifierText s)
  | .format => return .text (← fillBraces s args keywords)
  | m => .leave ("the method " ++ m.label)

end Inlay
