/-
  Inlay.RenderContext
  ────────────────────────────────
  **THE CONTEXT OF A RENDER.**

  While a template renders, its context holds what error reports and
  includes need: the template, the current line, how many includes are in
  progress, and from where each of them was called.
-/
import Inlay.Diagnostic.Report

namespace Inlay

open Inlay.Diagnostic

/-- How many includes may nest unless the environment says otherwise. -/
def defaultMaxIncludeDepth : Int := 50

/-- The context of a render. -/
structure RenderContext where
  templateName : Option String := none
  filename : Option String := none
  source : Option String := none
  line : Int := 0
  includeDepth : Int := 0
  maxIncludeDepth : Int := defaultMaxIncludeDepth
  /-- The template and line of every include in progress, outermost first. -/
  stack : List (String × Int) := []
  deriving Repr, DecidableEq

namespace RenderContext

/-- The current line, once there is one. -/
def line? (c : RenderContext) : Option Int := if c.line = 0 then none else some c.line

/-- What is reported when one more include would be too deep. -/
def depthFailure (c : RenderContext) (name : String) : Failure :=
  { text := "Maximum include depth exceeded (" ++ toString c.maxIncludeDepth
      ++ ") when including '" ++ name ++ "'"
    template := c.templateName
    line := c.line?
    stack := c.stack
    suggestion := some "Check for circular includes: A → B → A"
    code := .includeDepth }

/-- The failure of one more include, if it would be too deep. -/
def includeFault? (c : RenderContext) (name : String) : Option Failure :=
  if c.maxIncludeDepth ≤ c.includeDepth then some (c.depthFailure name) else none

/-- The context of a render that no include has started. -/
def outermost (name filename : Option String) (limit : Int) : RenderContext :=
  { templateName := name, filename := filename, maxIncludeDepth := limit }

/-- The template and the line of an include that is called from here. -/
def site (c : RenderContext) : String × Int :=
  ((Text.nonempty? c.templateName).getD "<template>", c.line)

/-- The context of a template that is included from here. -/
def child (c : RenderContext) (name filename source : Option String) : RenderContext :=
  { templateName := name
    filename := filename
    source := source
    includeDepth := c.includeDepth + 1
    maxIncludeDepth := c.maxIncludeDepth
    stack := c.stack ++ [c.site] }

/-- The lines around a line of the template, if source and line are known. -/
def snippetAt (source : Option String) (line : Option Int) : Option Snippet :=
  match Text.nonempty? source, line with
  | some s, some n => if n = 0 then none else some (.ofSource s n 2 none)
  | _, _ => none

end RenderContext

end Inlay
