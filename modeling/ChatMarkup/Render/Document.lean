import ChatMarkup.Options.Format
import ChatMarkup.Render.Writing
import ChatMarkup.Tree.Validate

/-!
# Rendering documents

A document is checked before it is rendered, unless that is not wanted: what stands in the wrong
place would come out as something else. Either step may fail, and the failure names the step.
-/
namespace ChatMarkup.Render

def malformed (problems : List Node.Misplacement) : Failure :=
  .plain (.rendering (some "validation"))
    ("Malformed document tree: " ++ "; ".intercalate (problems.map (·.message)))

def notWritten (n : Node) (e : WriteError) : Failure :=
  .plain (.rendering (some "telegram_rendering")) s!"Failed to render {n.kindName}: {e.message}"

def documentMarkup (o : RenderOptions) (n : Node) : Except Failure String :=
  let problems := if o.validateTree then n.misplacements else []
  if problems.isEmpty then
    ((writeNode o.context n).map String.ofList).mapError (notWritten n)
  else .error (malformed problems)

end ChatMarkup.Render
