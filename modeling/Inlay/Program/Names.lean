/-
  Inlay.Program.Names
  ────────────────────────────────
  **RESERVED NAMES.**

  A program keeps its own variables under names that start with `_snug_`,
  next to those of the template's author.  Templates cannot see them: they
  are not handed to included templates and not offered as corrections.
-/
import Inlay.Code.Syntax

namespace Inlay.Program

/-- What every reserved name starts with. -/
def reservedStart : String := "_snug_"

/-- Is the name reserved? -/
def isReserved (name : String) : Bool := name.startsWith reservedStart

/-- The list that the pieces of the output are appended to. -/
def outputName : String := "_snug_out"

/-- The whole output, once the program has run. -/
def resultName : String := "_snug_result"

/-- The list that collects the output of a pipe block. -/
def bufferName (n : Nat) : String := "_snug_buf" ++ toString n

/-- The render context, which holds the current line. -/
def contextName : String := "_snug_rc"

/-- The function that turns a value into text. -/
def textName : String := "_snug_str"

/-- The function that puts the text of a pipe block in its place. -/
def realignName : String := "_snug_realign"

/-- The function that indents included text. -/
def reindentName : String := "_snug_reindent"

/-- The function that renders an included template, as programs call it. -/
def includeName : String := "_snug_include"

/-- The same function, as authors call it. -/
def includeWord : String := "include"

end Inlay.Program
