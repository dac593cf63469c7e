/-
  Inlay.Header
  ────────────────────────────────
  **WHAT THE CODE OF A MARKER IS.**

  Code that ends in a colon is a header.  Its first word decides whether it
  opens a block or continues one; the bare word `end` closes one; any other
  code stands for itself.  Blanks around the code play no part.
-/
import Inlay.Text.Dedent

namespace Inlay.Header

open Inlay.Text

/-! ## §1. The first word. -/

/-- Is the character one of a word: a letter of ASCII or an underscore? -/
def isWordChar (c : Char) : Bool := c.isAlpha || c == '_'

/-- The word that the code starts with, if it starts with one. -/
def leadingWord? (code : String) : Option String :=
  match (strip code.toList).takeWhile isWordChar with
  | [] => none
  | w => some (String.ofList w)

/-! ## §2. Headers. -/

/-- The words that open a block. -/
def blockWords : List String := ["if", "for", "while", "match", "with", "try"]

/-- The words that continue the innermost open block. -/
def clauseWords : List String := ["elif", "else", "case", "except", "finally"]

/-- Does the code end in a colon? -/
def isHeader (code : String) : Bool := (stripRight code.toList).getLast? == some ':'

/-- Does the code open a block? -/
def opensBlock (code : String) : Bool :=
  isHeader code && (leadingWord? code).any blockWords.contains

/-- The first word of code that continues a block. -/
def clauseWord? (code : String) : Option String :=
  if isHeader code then (leadingWord? code).filter clauseWords.contains else none

/-- Does the code close a block? -/
def closesBlock (code : String) : Bool := strip code.toList == ['e', 'n', 'd']

/-- Does the header have a body of its own?  After a `match` header only clauses follow. -/
def hasBody (code : String) : Bool := leadingWord? code != some "match"

/-! ## §3. Normal form. -/

/-- The code without its shared indentation and without blanks around it. -/
def normalize (code : String) : String := String.ofList (strip (dedent code.toList))

end Inlay.Header
