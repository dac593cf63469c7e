/-
  Inlay.Text.Blank
  ────────────────────────────────
  **BLANK CHARACTERS AND STRIPPING.**

  A blank is a character of the Unicode property White_Space or one of the
  four information separators U+001C to U+001F.  `strip` removes blanks at
  both ends of a text, `stripRight` at its end only.
-/

namespace Inlay.Text

/-! ## §1. Ranges of code points. -/

/-- Does one of the closed ranges contain the code point? -/
def inRanges (ranges : List (Nat × Nat)) (code : Nat) : Bool :=
  ranges.any (fun r => r.1 ≤ code && code ≤ r.2)

/-! ## §2. Blanks. -/

/-- The blank characters as closed ranges of code points, ascending and apart. -/
def blankRanges : List (Nat × Nat) :=
  [(0x09, 0x0D), (0x1C, 0x20), (0x85, 0x85), (0xA0, 0xA0), (0x1680, 0x1680), (0x2000, 0x200A),
   (0x2028, 0x2029), (0x202F, 0x202F), (0x205F, 0x205F), (0x3000, 0x3000)]

/-- Is the character blank? -/
def isBlank (c : Char) : Bool := inRanges blankRanges c.toNat

/-- Every character that core calls whitespace is blank. -/
theorem isBlank_of_isWhitespace (c : Char) (h : c.isWhitespace = true) : isBlank c = true := by
  simp [Char.isWhitespace] at h
  rcases h with ((h | h) | h) | h <;> subst h <;> decide

/-! ## §3. Stripping. -/

/-- The text without its leading blanks. -/
def stripLeft (s : List Char) : List Char := s.dropWhile isBlank

/-- The text without its trailing blanks. -/
def stripRight (s : List Char) : List Char := (s.reverse.dropWhile isBlank).reverse

/-- The text without blanks at either end. -/
def strip (s : List Char) : List Char := stripRight (stripLeft s)

theorem mem_strip {c : Char} {s : List Char} (h : c ∈ strip s) : c ∈ s := by
  unfold strip stripRight stripLeft at h
  have hright := List.dropWhile_subset _ (List.mem_reverse.1 h)
  exact List.dropWhile_subset _ (List.mem_reverse.1 hright)

/-- `strip` on strings. -/
def stripString (s : String) : String := String.ofList (strip s.toList)

end Inlay.Text
