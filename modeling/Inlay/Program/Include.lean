/-
  Inlay.Program.Include
  ────────────────────────────────
  **INCLUDE CALLS.**

  A call of the bare name `include` gives the text of another template.  The
  text is indented as the marker that holds the call, so every such call is
  wrapped:

      include(...)   becomes   _snug_reindent(_snug_include(...), 'indentation')

  Other uses of the name are left alone.
-/
import Inlay.Code.Calls
import Inlay.Program.Names

namespace Inlay.Program

open Inlay.Code

/-- A text constant. -/
def textConstant (s : String) : Expr := .constant (.text s false)

/-- Is the expression the bare name by which authors include? -/
def isIncludeName : Expr → Bool
  | .name id => id == includeWord
  | _ => false

/-- A call, wrapped if it is one of `include`. -/
def wrapInclude (indentation : String) : CallRewriter := fun func args keywords =>
  if isIncludeName func then
    .call (.name reindentName) [.call (.name includeName) args keywords, textConstant indentation]
      []
  else .call func args keywords

/-- An expression with its include calls wrapped. -/
def wrapIncludes (indentation : String) (e : Expr) : Expr :=
  e.rewriteCalls (wrapInclude indentation)

/-- A statement with its include calls wrapped. -/
def wrapIncludesIn (indentation : String) (s : Stmt) : Stmt :=
  s.rewriteCalls (wrapInclude indentation)

end Inlay.Program
