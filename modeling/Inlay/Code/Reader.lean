/-
  Inlay.Code.Reader
  ────────────────────────────────
  **READING LEXEMES.**

  A reader takes lexemes from the front of a line and either gives a result
  or refuses.  The steps here look at one lexeme at a time; `many`, `commas`
  and `chain` repeat a reader as long as it finds something.
-/
import Inlay.Code.Lexeme
import Inlay.Text.Form

namespace Inlay.Code

/-- A reader of lexemes. -/
abbrev Reader := StateT (List Tok) Option

namespace Reader

variable {α : Type}

/-! ## §1. One lexeme. -/

/-- Refuse the line. -/
def refuse : Reader α := fun _ => none

/-- Go on only if the condition holds. -/
def ensure (b : Bool) : Reader Unit := if b then pure () else refuse

/-- The next lexeme, which stays. -/
def peek? : Reader (Option Lexeme) := fun ts => some (ts.head?.map Tok.lexeme, ts)

/-- The lexeme behind the next one; both stay. -/
def peekSecond? : Reader (Option Lexeme) := fun ts => some (ts.tail.head?.map Tok.lexeme, ts)

/-- Take the next lexeme, whatever it is. -/
def skip : Reader Unit := fun ts => some ((), ts.tail)

/-- Is the line at its end? -/
def atEnd : Reader Bool := fun ts => some (ts.isEmpty, ts)

/-- Does the given sign come next? -/
def atSign (s : String) : Reader Bool := do return (← peek?) == some (.sign s)

/-- Does the given word come next? -/
def atWord (w : String) : Reader Bool := do return (← peek?) == some (.word w)

/-- Take the given sign if it comes next. -/
def acceptSign (s : String) : Reader Bool := do
  if ← atSign s then skip; return true else return false

/-- Take the given word if it comes next. -/
def acceptWord (w : String) : Reader Bool := do
  if ← atWord w then skip; return true else return false

/-- Take the given sign. -/
def sign (s : String) : Reader Unit := do ensure (← acceptSign s)

/-- Take the given word. -/
def word (w : String) : Reader Unit := do ensure (← acceptWord w)

/-- Take an identifier; all its spellings are one name. -/
def identifier : Reader String := do
  match ← peek? with
  | some (.word w) => ensure (!reservedWords.contains w); skip; return Text.identifierForm w
  | _ => refuse

/-! ## §2. Repetition. -/

/-- What a reader finds, or nothing, and then the lexemes stay. -/
def attempt (r : Reader α) : Reader (Option α) := fun ts =>
  match r ts with
  | some (a, rest) => some (some a, rest)
  | none => some (none, ts)

/-- Read as long as a reader finds something, at most once for each of some lexemes. -/
def manyAlong (r : Reader (Option α)) : List Tok → Reader (List α)
  | [] => do
    match ← r with
    | none => return []
    | some _ => refuse
  | _ :: ts => do
    match ← r with
    | none => return []
    | some a => return a :: (← manyAlong r ts)

/-- Read as long as a reader finds something; whatever it finds takes up a lexeme. -/
def many (r : Reader (Option α)) : Reader (List α) := do manyAlong r (← get)

/-- Items between commas, one at least, and whether a comma stands behind the last. -/
def commas (item : Reader α) : Reader (List α × Bool) := do
  let first ← item
  let rest ← many do
    if ← atSign "," then
      attempt (do skip; item)
    else return none
  return (first :: rest, ← acceptSign ",")

/-- Items between separators of one kind, combined from the left. -/
def chain (item : Reader α) (operator? : Reader (Option (α → α → α))) : Reader α := do
  let first ← item
  let rest ← many do
    match ← operator? with
    | none => return none
    | some f => return some (f, ← item)
  return rest.foldl (fun a p => p.1 a p.2) first

end Reader

end Inlay.Code
