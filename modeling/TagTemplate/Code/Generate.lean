/-
  TagTemplate.Code.Generate
  ────────────────────────────────
  **FROM NODES TO CODE.**

  The stages in their order: lower the nodes, write the body, look bare names
  up in the context if that is asked for, and run the plugins on the code.
-/
import TagTemplate.Code.Ambient
import TagTemplate.Code.Body

namespace TagTemplate

/-- The body of the render function of some nodes; `source` is the text they were parsed from. -/
def generate (settings : CodeSettings) (nodes : List Node) (source : String) : Traced String := do
  let program ← (lower settings nodes : Except Fault _)
  let code ← writeBody settings source program
  let code ← if settings.useWith then bindAmbient settings.contextName code else pure code
  debugRecord .compiler
    ("Generated " ++ toString (Text.newlineCount code) ++ " lines from " ++ toString program.length
      ++ " instructions")
  runCodePlugins settings.plugins code

end TagTemplate
