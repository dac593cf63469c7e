/-
  Inlay.Text.CharacterName
  ────────────────────────────────
  **CHARACTERS BY NAME.**

  Which character has a name (Unicode 14).  The names of syllables of Hangul
  are put together from those of their parts, and the names of ideographs end
  with the code point; all other names stand in tables.

  A table is a text that holds names in the order of their code points.
  Behind an equals sign stands the code point of the next name; without one
  it is the next code point.  The small letters in front of a name tell how
  many characters it shares with the name before, as the sum of their places
  in the alphabet, which begin at zero.
-/
import Inlay.Text.NameTable.Aliases
import Inlay.Text.NameTable.Letters
import Inlay.Text.NameTable.OldScripts
import Inlay.Text.NameTable.Pictures
import Inlay.Text.NameTable.Scripts
import Inlay.Text.NameTable.Signs
import Inlay.Text.NameTable.Syllables
import Inlay.Text.NameTable.Symbols

namespace Inlay.Text

/-! ## §1. Tables. -/

/-- What a reader of a table is reading. -/
inductive NamePart where
  | number
  | shared
  | own
  deriving DecidableEq

/-- A table read up to some place: the names before, and what is known of the one at that place. -/
structure NameReader where
  entries : Array (Nat × String) := #[]
  code : Nat := 0
  name : Array Char := #[]
  shared : Nat := 0
  part : NamePart := .number

namespace NameReader

/-- Note the name that has been read, if there is one. -/
def close (r : NameReader) : NameReader :=
  match r.part with
  | .own =>
    { r with
      entries := r.entries.push (r.code, String.ofList r.name.toList)
      code := r.code + 1
      shared := 0 }
  | _ => r

/-- The value of a hexadecimal digit. -/
def digit (c : Char) : Nat := if c.isDigit then c.toNat - '0'.toNat else c.toNat - 'A'.toNat + 10

/-- Read a character of a table. -/
def step (r : NameReader) (c : Char) : NameReader :=
  if c = '=' then { r.close with code := 0, part := .number }
  else if c.isLower then
    let r := r.close
    { r with shared := r.shared + (c.toNat - 'a'.toNat), part := .shared }
  else
    match r.part with
    | .number => { r with code := r.code * 16 + digit c }
    | .shared => { r with name := (r.name.shrink r.shared).push c, part := .own }
    | .own => { r with name := r.name.push c }

end NameReader

/-- The code points and names of a table. -/
def namesOf (table : String) : Array (Nat × String) :=
  (table.foldl NameReader.step {}).close.entries

/-- The tables of names. -/
def nameTables : List String :=
  [lettersNames, symbolsNames, aliasNames, picturesNames, syllablesNames, scriptsNames,
   oldScriptsNames, signsNames]

/-- The code point that has a name in one of some tables. -/
def tabled? (name : String) : List String → Option Nat
  | [] => none
  | t :: ts => (((namesOf t).find? (·.2 == name)).map Prod.fst).or (tabled? name ts)

/-! ## §2. Names by rule. -/

/-- The sounds that a syllable of Hangul may start with. -/
def leadingSounds : List String :=
  ["G", "GG", "N", "D", "DD", "R", "M", "B", "BB", "S", "SS", "", "J", "JJ", "C", "K", "T", "P",
   "H"]

/-- The sounds in the middle of a syllable of Hangul. -/
def middleSounds : List String :=
  ["A", "AE", "YA", "YAE", "EO", "E", "YEO", "YE", "O", "WA", "WAE", "OE", "YO", "U", "WEO", "WE",
   "WI", "YU", "EU", "YI", "I"]

/-- The sounds that a syllable of Hangul may end with. -/
def finalSounds : List String :=
  ["", "G", "GG", "GS", "N", "NJ", "NH", "D", "L", "LG", "LM", "LB", "LS", "LT", "LP", "LH", "M",
   "B", "BS", "S", "SS", "NG", "J", "C", "K", "T", "P", "H"]

/-- The names of the syllables of Hangul, in order, behind what they have in common. -/
def syllables : List String :=
  leadingSounds.flatMap (fun a =>
    middleSounds.flatMap (fun b => finalSounds.map (fun c => a ++ b ++ c)))

/-- What stands in front of the names of syllables. -/
def syllableTitle : String := "HANGUL SYLLABLE "

/-- The first syllable of Hangul. -/
def firstSyllable : Nat := 0xAC00

/-- The rest of a text behind another one that it starts with. -/
def behind? (lead s : String) : Option (List Char) :=
  if lead.toList.isPrefixOf s.toList then some (s.toList.drop lead.length) else none

/-- The syllable that has a name. -/
def syllable? (name : String) : Option Nat :=
  (behind? syllableTitle name).bind (fun rest =>
    (syllables.findIdx? (· == String.ofList rest)).map (firstSyllable + ·))

/-- The runs of unified ideographs. -/
def ideographs : List (Nat × Nat) :=
  [(0x3400, 0x4DBF), (0x4E00, 0x9FFF), (0x20000, 0x2A6DF), (0x2A700, 0x2B738),
   (0x2B740, 0x2B81D), (0x2B820, 0x2CEA1), (0x2CEB0, 0x2EBE0), (0x30000, 0x3134A)]

/-- The digits of a code point in a name. -/
def codeDigits : List Char := "0123456789ABCDEF".toList

/-- The unified ideograph that has a name, which ends with four or five digits. -/
def ideograph? (name : String) : Option Nat := do
  let digits ← behind? "CJK UNIFIED IDEOGRAPH-" name
  if (digits.length = 4 || digits.length = 5) && digits.all codeDigits.contains then
    let n := digits.foldl (fun n c => n * 16 + NameReader.digit c) 0
    if ideographs.any (fun r => r.1 ≤ n && n ≤ r.2) then some n else none
  else none

/-- Runs of characters whose names end with their code points. -/
def numberedRuns : List (String × Nat × Nat) :=
  [("CJK COMPATIBILITY IDEOGRAPH-", 0xF900, 0xFA6D),
   ("CJK COMPATIBILITY IDEOGRAPH-", 0xFA70, 0xFAD9),
   ("CJK COMPATIBILITY IDEOGRAPH-", 0x2F800, 0x2FA1D),
   ("KHITAN SMALL SCRIPT CHARACTER-", 0x18B00, 0x18CD5), ("NUSHU CHARACTER-", 0x1B170, 0x1B2FB)]

/-- A code point in hexadecimal digits. -/
def codeText (n : Nat) : String :=
  String.ofList ((Nat.toDigits 16 n).map (fun c => if c.isLower then c.toUpper else c))

/-- The character of a run of numbered ones that has a name. -/
def numbered? (name : String) : Option Nat :=
  numberedRuns.findSome? (fun (title, first, last) =>
    ((List.range (last - first + 1)).find? (fun i => title ++ codeText (first + i) == name)).map
      (first + ·))

/-- The number of variation selectors in the first run of them. -/
def firstSelectors : Nat := 16

/-- The code point of a variation selector; they are counted from zero. -/
def selectorCode (i : Nat) : Nat :=
  if i < firstSelectors then 0xFE00 + i else 0xE0100 + (i - firstSelectors)

/-- The variation selector that has a name. -/
def selector? (name : String) : Option Nat :=
  ((List.range 256).find? (fun i =>
    "VARIATION SELECTOR-" ++ toString (i + 1) == name || "VS" ++ toString (i + 1) == name)).map
    selectorCode

/-! ## §3. All names. -/

/-- The code point that has a name.  Small and capital letters count as the same, apart from the
names of syllables and unified ideographs. -/
def codeNamed? (name : String) : Option Nat :=
  let upper := name.map Char.toUpper
  (syllable? name).or <| (ideograph? name).or <| (selector? upper).or <| (numbered? upper).or <|
    tabled? upper nameTables

/-- The character that has a name. -/
def characterNamed? (name : String) : Option Char := (codeNamed? name).map Char.ofNat

end Inlay.Text
