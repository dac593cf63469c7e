/-
  Inlay.Text.Similarity
  ────────────────────────────────
  **THE CLOSEST NAME.**

  Two texts are compared by their matching blocks: the longest common block
  (the first in the candidate, then the first in the word, among equals),
  and again to the left and to the right of it.  The score of a candidate is
  twice the matched length over the sum of the two lengths, and a candidate
  counts from a score of three fifths on.

  In a word of 200 characters or more, a character that makes up more than
  one hundredth of it starts no block; it only extends one.
-/

namespace Inlay.Text

/-! ## §1. The longest common block. -/

/-- A block common to two texts: where it starts in each, and its length. -/
structure Block where
  left : Nat
  right : Nat
  size : Nat
  deriving Repr, DecidableEq

/-- One row of common suffix lengths: for each position of the second text, the length of the
common block that ends with `c` there. -/
def suffixRow (starts : Char → Bool) (c : Char) : List Char → Nat → List Nat → List Nat
  | [], _, _ => []
  | d :: t, diagonal, above =>
    (if c = d && starts d then diagonal + 1 else 0)
      :: suffixRow starts c t (above.headD 0) above.tail

/-- The better of a block and those that end in the given row; the earlier wins among equals. -/
def bestInRow (i : Nat) : Nat → List Nat → Block → Block
  | _, [], best => best
  | j, k :: row, best =>
    bestInRow i (j + 1) row (if best.size < k then ⟨i + 1 - k, j + 1 - k, k⟩ else best)

/-- The best block whose characters may all start one. -/
def seedBlock (starts : Char → Bool) (t : List Char) : Nat → List Char → List Nat → Block → Block
  | _, [], _, best => best
  | i, c :: s, above, best =>
    let row := suffixRow starts c t 0 above
    seedBlock starts t (i + 1) s row (bestInRow i 0 row best)

/-- The number of characters that two texts share at their start. -/
def sharedStart : List Char → List Char → Nat
  | a :: s, b :: t => if a = b then sharedStart s t + 1 else 0
  | _, _ => 0

/-- The longest common block of two texts, extended on both sides as far as they agree. -/
def longestBlock (starts : Char → Bool) (s t : List Char) : Block :=
  let b := seedBlock starts t 0 s [] ⟨0, 0, 0⟩
  let before := sharedStart (s.take b.left).reverse (t.take b.right).reverse
  let after := sharedStart (s.drop (b.left + b.size)) (t.drop (b.right + b.size))
  ⟨b.left - before, b.right - before, before + b.size + after⟩

/-! ## §2. The score. -/

/-- The total length of the matching blocks of two texts. -/
def matched (starts : Char → Bool) (s t : List Char) : Nat :=
  match longestBlock starts s t with
  | ⟨i, j, k⟩ =>
    if _h : k = 0 ∨ s.length < i + k then 0
    else
      k + matched starts (s.take i) (t.take j)
        + matched starts (s.drop (i + k)) (t.drop (j + k))
termination_by s.length
decreasing_by
  · simp only [List.length_take]; omega
  · simp only [List.length_drop]; omega

/-- The characters of a word that may start a block. -/
def mayStart (word : List Char) (c : Char) : Bool :=
  word.length < 200 || word.count c ≤ word.length / 100 + 1

/-- A score as a fraction. -/
structure Score where
  numerator : Nat
  denominator : Nat
  deriving Repr, DecidableEq

/-- The score of a candidate for a word; two empty texts score one. -/
def score (word candidate : List Char) : Score :=
  if word.length + candidate.length = 0 then ⟨1, 1⟩
  else ⟨2 * matched (mayStart word) candidate word, candidate.length + word.length⟩

/-- Is the first score the lower one? -/
def Score.lt (a b : Score) : Bool := a.numerator * b.denominator < b.numerator * a.denominator

/-- Does the score reach three fifths? -/
def Score.counts (a : Score) : Bool := 3 * a.denominator ≤ 5 * a.numerator

/-! ## §3. The closest candidate. -/

/-- The candidate with the highest score that counts; the greater text wins among equals. -/
def closest? (word : String) (candidates : List String) : Option String :=
  (candidates.foldl step none).map (·.2)
where
  /-- Keep the better of the best candidate so far and the next one. -/
  step (best : Option (Score × String)) (candidate : String) : Option (Score × String) :=
    let new := score word.toList candidate.toList
    if !new.counts then best
    else match best with
      | none => some (new, candidate)
      | some (old, name) =>
        if old.lt new || (!new.lt old && name < candidate) then some (new, candidate) else best

end Inlay.Text
