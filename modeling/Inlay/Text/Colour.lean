/-
  Inlay.Text.Colour
  ────────────────────────────────
  **COLOURS FOR A TERMINAL.**

  `paint` puts control sequences around a text, `stripColours` removes every
  control sequence from one.  Whether colours are wanted is a value that the
  caller passes on; `wanted` decides it from the two customary variables.
-/

namespace Inlay.Text

/-! ## §1. Styles. -/

/-- The styles that diagnostics use. -/
inductive Style where
  | reset | bold | dim | cyan | green | yellow | brightRed | brightGreen
  deriving Repr, DecidableEq

namespace Style

/-- The number of a style in its control sequence. -/
def number : Style → String
  | reset => "0"
  | bold => "1"
  | dim => "2"
  | cyan => "36"
  | green => "32"
  | yellow => "33"
  | brightRed => "91"
  | brightGreen => "92"

/-- The control sequence that switches a style on. -/
def sequence (s : Style) : String := "\x1b[" ++ s.number ++ "m"

/-- The style of a given name. -/
def ofName? : String → Option Style
  | "reset" => some reset
  | "bold" => some bold
  | "dim" => some dim
  | "cyan" => some cyan
  | "green" => some green
  | "yellow" => some yellow
  | "bright_red" => some brightRed
  | "bright_green" => some brightGreen
  | _ => none

end Style

/-! ## §2. Painting. -/

/-- The text between the control sequences of the styles and a reset; without styles, or with
colours switched off, the text alone. -/
def paint (colours : Bool) (styles : List Style) (text : String) : String :=
  if colours && !styles.isEmpty then
    String.join (styles.map Style.sequence) ++ text ++ Style.reset.sequence
  else text

/-- Are colours wanted?  A non-empty wish to force them wins over one to avoid them; without a
wish they are used on a terminal. -/
def coloursWanted (force avoid : Option String) (terminal : Bool) : Bool :=
  if force.any (· ≠ "") then true
  else if avoid.any (· ≠ "") then false
  else terminal

/-! ## §3. Stripping. -/

/-- Is the code of the character between the two bounds? -/
def inCodes (lo hi : Nat) (c : Char) : Bool := lo ≤ c.toNat && c.toNat ≤ hi

/-- What follows the control sequence whose text after the escape character is given: a single
letter, or a bracket, parameters, intermediates and a final character. -/
def afterSequence? : List Char → Option (List Char)
  | [] => none
  | c :: s =>
    if c = '[' then
      match (s.dropWhile (inCodes 0x30 0x3F)).dropWhile (inCodes 0x20 0x2F) with
      | [] => none
      | d :: rest => if inCodes 0x40 0x7E d then some rest else none
    else if inCodes 0x40 0x5A c || inCodes 0x5C 0x5F c then some s
    else none

theorem length_dropWhile_le {α : Type} (p : α → Bool) (s : List α) :
    (s.dropWhile p).length ≤ s.length := by
  induction s with
  | nil => simp
  | cons a s ih =>
    simp only [List.dropWhile_cons]
    split
    · simp only [List.length_cons]; omega
    · simp

theorem afterSequence?_shorter {s rest : List Char} (h : afterSequence? s = some rest) :
    rest.length < s.length := by
  cases s with
  | nil => simp [afterSequence?] at h
  | cons c s =>
    simp only [afterSequence?] at h
    split at h
    · have h1 := length_dropWhile_le (inCodes 0x20 0x2F) (s.dropWhile (inCodes 0x30 0x3F))
      have h2 := length_dropWhile_le (inCodes 0x30 0x3F) s
      split at h
      · simp at h
      · rename_i d r heq
        split at h
        · simp only [Option.some.injEq] at h
          subst h
          rw [heq] at h1
          simp only [List.length_cons] at h1 ⊢
          omega
        · simp at h
    · split at h
      · simp only [Option.some.injEq] at h
        subst h
        simp
      · simp at h

/-- The text without its control sequences. -/
def withoutSequences : List Char → List Char
  | [] => []
  | c :: s =>
    if c = '\x1b' then
      match _h : afterSequence? s with
      | some rest => withoutSequences rest
      | none => c :: withoutSequences s
    else c :: withoutSequences s
termination_by s => s.length
decreasing_by
  · have := afterSequence?_shorter _h; simp only [List.length_cons]; omega
  · simp
  · simp

/-- `withoutSequences` on strings. -/
def stripColours (text : String) : String := String.ofList (withoutSequences text.toList)

end Inlay.Text
