/-
  Inlay.Text.Form
  ────────────────────────────────
  **ONE FORM FOR EACH IDENTIFIER.**

  Two spellings of an identifier are the same name if they agree in the
  compatibility form (Unicode normalisation form KC): every character is
  taken apart, marks are put in the order of their classes, and what makes
  one character is put together again.  Syllables of Hangul are taken apart
  and put together by arithmetic, all else by tables.
-/
import Inlay.Text.FormTable
import Inlay.Text.Search
import Std.Data.HashMap

namespace Inlay.Text

/-! ## §1. Reading the tables. -/

/-- The number that hexadecimal digits spell. -/
def hexNumber (s : List Char) : Nat :=
  s.foldl (fun n c => n * 16 + (if c.isDigit then c.toNat - 48 else c.toNat - 55)) 0

/-- The pieces of a text between separators of one character. -/
def separatedBy (separator : Char) (s : List Char) : List (List Char) :=
  splitOn [separator] s.length s

/-- The entries of a table: the numbers in front of the equals sign and those behind it. -/
def tableEntries (table : String) : List (List Nat × List Nat) :=
  (separatedBy ';' table.toList).filterMap (fun entry =>
    match separatedBy '=' entry with
    | [left, right] =>
      let numbers (separator : Char) (s : List Char) := (separatedBy separator s).map hexNumber
      some ((if left.contains '+' then numbers '+' left else numbers ' ' left), numbers ' ' right)
    | _ => none)

/-- What a character takes apart to, for those that are in the table. -/
def partMap : Std.HashMap Nat (List Nat) :=
  (tableEntries partTable).foldl (fun m e =>
    match e with
    | ([c, more], [x]) =>
      (List.range (more + 1)).foldl (fun m (i : Nat) => m.insert (c + i) [x + i]) m
    | ([c], parts) => m.insert c parts
    | _ => m) ∅

/-- The classes of marks. -/
def markMap : Std.HashMap Nat Nat :=
  (tableEntries markTable).foldl (fun m e =>
    match e with
    | ([c, more], [k]) =>
      (List.range (more + 1)).foldl (fun m (i : Nat) => m.insert (c + i) k) m
    | ([c], [k]) => m.insert c k
    | _ => m) ∅

/-- What pairs of characters make. -/
def pairMap : Std.HashMap (Nat × Nat) Nat :=
  (tableEntries pairTable).foldl (fun m e =>
    match e with
    | ([a, b], [c]) => m.insert (a, b) c
    | _ => m) ∅

/-! ## §2. Hangul. -/

/-- The first syllable, and the characters in front of the first leading, vowel and trailing
parts, of which the trailing part may be missing. -/
def hangulSyllable : Nat := 0xAC00
/-- The first leading part. -/
def hangulLead : Nat := 0x1100
/-- The first vowel. -/
def hangulVowel : Nat := 0x1161
/-- The character in front of the first trailing part. -/
def hangulTrail : Nat := 0x11A7
/-- The number of leading parts. -/
def hangulLeads : Nat := 19
/-- The number of vowels. -/
def hangulVowels : Nat := 21
/-- The number of trailing parts, a missing one included. -/
def hangulTrails : Nat := 28

/-- The parts of a syllable. -/
def hangulParts? (c : Nat) : Option (List Nat) :=
  let i := c - hangulSyllable
  if hangulSyllable ≤ c && i < hangulLeads * hangulVowels * hangulTrails then
    let ends := if i % hangulTrails = 0 then [] else [hangulTrail + i % hangulTrails]
    some ((hangulLead + i / (hangulVowels * hangulTrails))
      :: (hangulVowel + i / hangulTrails % hangulVowels) :: ends)
  else none

/-- The syllable that two parts make. -/
def hangulPair? (a b : Nat) : Option Nat :=
  if hangulLead ≤ a && a < hangulLead + hangulLeads && hangulVowel ≤ b
      && b < hangulVowel + hangulVowels then
    some (hangulSyllable
      + ((a - hangulLead) * hangulVowels + (b - hangulVowel)) * hangulTrails)
  else if hangulSyllable ≤ a && a < hangulSyllable + hangulLeads * hangulVowels * hangulTrails
      && (a - hangulSyllable) % hangulTrails = 0 && hangulTrail < b
      && b < hangulTrail + hangulTrails then
    some (a + (b - hangulTrail))
  else none

/-! ## §3. Taking apart and putting together. -/

/-- What a character takes apart to. -/
def partsOf (c : Nat) : List Nat := (hangulParts? c).getD (partMap.getD c [c])

/-- The class of a mark; zero for a character that is none. -/
def markClass (c : Nat) : Nat := markMap.getD c 0

/-- Put a character behind others, which come in reverse: a mark goes in front of those marks whose
class is greater. -/
def settleMark (c : Nat) : List Nat → List Nat
  | [] => [c]
  | d :: before =>
    if markClass c ≠ 0 && markClass c < markClass d then d :: settleMark c before
    else c :: d :: before

/-- Characters with their marks in the order of their classes. -/
def orderMarks (cs : List Nat) : List Nat :=
  (cs.foldl (fun settled c => settleMark c settled) []).reverse

/-- What two characters make. -/
def pairOf? (a b : Nat) : Option Nat := (hangulPair? a b).or (pairMap[(a, b)]?)

/-- Put characters together.  `base` is the last character that is no mark, if there is one;
`marks` are those behind it, in reverse.  A mark reaches its base past marks of smaller classes
only. -/
def joinPairs (base : Option Nat) (marks : List Nat) : List Nat → List Nat
  | [] => base.toList ++ marks.reverse
  | c :: rest =>
    let isNear := marks.head?.all (fun m => markClass m < markClass c)
    match (if isNear then base.bind (pairOf? · c) else none) with
    | some d => joinPairs (some d) marks rest
    | none =>
      if markClass c = 0 then base.toList ++ marks.reverse ++ joinPairs (some c) [] rest
      else joinPairs base (c :: marks) rest

/-- The form of an identifier in which all of its spellings agree. -/
def identifierForm (s : String) : String :=
  if s.toList.all (·.toNat < 128) then s
  else
    String.ofList ((joinPairs none []
      (orderMarks ((s.toList.map Char.toNat).flatMap partsOf))).map Char.ofNat)

end Inlay.Text
