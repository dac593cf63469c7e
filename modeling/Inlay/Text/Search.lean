/-
  Inlay.Text.Search
  ────────────────────────────────
  **TEXT INSIDE TEXT.**
-/

namespace Inlay.Text

/-- Does the first text occur in the second? -/
def occursIn (t : List Char) : List Char → Bool
  | [] => t.isEmpty
  | c :: s => t.isPrefixOf (c :: s) || occursIn t s

/-- The place of the first text in the second one, if it occurs there. -/
def placeOf? (t : List Char) : List Char → Option Nat
  | [] => if t.isEmpty then some 0 else none
  | c :: s =>
    if t.isPrefixOf (c :: s) then some 0 else (placeOf? t s).map (· + 1)

/-- The pieces of a text between separators, which are not empty; at most `limit` separators
count.  `piece` is what has been read of the first piece, in reverse, and `skip` characters belong
to a separator that has been seen. -/
def piecesBetween (separator : List Char) (limit : Nat) (piece : List Char) (skip : Nat) :
    List Char → List (List Char)
  | [] => [piece.reverse]
  | c :: s =>
    match skip with
    | k + 1 => piecesBetween separator limit piece k s
    | 0 =>
      match limit with
      | 0 => [piece.reverseAux (c :: s)]
      | n + 1 =>
        if separator.isPrefixOf (c :: s) then
          piece.reverse :: piecesBetween separator n [] (separator.length - 1) s
        else piecesBetween separator (n + 1) (c :: piece) 0 s

/-- The pieces of a text between separators, at most `limit` of which count. -/
def splitOn (separator : List Char) (limit : Nat) (s : List Char) : List (List Char) :=
  piecesBetween separator limit [] 0 s

/-- The same, but the last separators count. -/
def splitOnBack (separator : List Char) (limit : Nat) (s : List Char) : List (List Char) :=
  ((splitOn separator.reverse limit s.reverse).map List.reverse).reverse

/-- A text in front of each of the first characters of another one, at most so many times, and
behind the last one if there is a time left. -/
def interspersed (t : List Char) : Nat → List Char → List Char
  | 0, s => s
  | _ + 1, [] => t
  | n + 1, c :: s => t ++ c :: interspersed t n s

/-- A text with a part replaced, at most `limit` times. -/
def replaceIn (old new : List Char) (limit : Nat) (s : List Char) : List Char :=
  if old.isEmpty then interspersed new limit s
  else new.intercalate (splitOn old limit s)

/-- A number, with blanks in front up to the given width. -/
def padLeft (width : Nat) (s : String) : String :=
  String.ofList (List.replicate (width - s.length) ' ') ++ s

/-- So many blanks; none if the number is negative. -/
def blanks (n : Int) : String := String.ofList (List.replicate n.toNat ' ')

/-- A text that is there and is not empty. -/
def nonempty? (s : Option String) : Option String := s.filter (· ≠ "")

end Inlay.Text
