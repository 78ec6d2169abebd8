/-
  TagTemplate.Context
  ────────────────────────────────
  **HOW DEEPLY TEMPLATES NEST.**

  A render runs in a context, which knows the template, how deeply it is
  nested, and the templates around it.  A template that another one asks for
  runs in a child of its context.  The limit of the outermost render holds
  for all below it: a child exists only while the depth is below the limit
  (`RenderContext.enter`).
-/
import TagTemplate.Error

namespace TagTemplate

/-- The surroundings of a render. -/
structure RenderContext where
  /-- The name of the template. -/
  templateName : Option String := none
  /-- The path of its file. -/
  filename : Option String := none
  /-- How many templates are around it. -/
  depth : Int := 0
  /-- The depth at which nothing more may be asked for. -/
  limit : Int := 50
  /-- The names of the templates around it, outermost first. -/
  stack : List String := []
  deriving Repr, DecidableEq

namespace RenderContext

/-- A template that was made from a text has no name of its own. -/
def unnamed : String := "<string>"

/-- The name, or what stands for it. -/
def nameOr (name : Option String) : String := (Report.given name).getD unnamed

/-- The failure of asking for one more template. -/
def depthReport (c : RenderContext) (name : Option String) : Report where
  kind := .includeDepth
    ("Maximum include depth exceeded (" ++ toString c.limit ++ ") when including '" ++ nameOr name
      ++ "'")
  templateName := c.templateName
  suggestion := some "Check for circular includes or layouts: A → B → A"
  stack := c.stack

/-- Refuse one more template at the limit. -/
def checkDepth (c : RenderContext) (name : Option String) : Except Fault Unit :=
  if c.depth ≥ c.limit then .error (.template (.failure (c.depthReport name))) else .ok ()

/-- The context of a template that this one asks for. -/
def child (c : RenderContext) (name filename : Option String) : RenderContext where
  templateName := name
  filename := filename
  depth := c.depth + 1
  limit := c.limit
  stack := c.stack ++ [nameOr c.templateName]

/-- The context of a render below another, or of an outermost one. -/
def enter (around : Option RenderContext) (name filename : Option String) (limit : Int) :
    Except Fault RenderContext :=
  match around with
  | none => .ok { templateName := name, filename, limit }
  | some c => do
    c.checkDepth name
    return c.child name filename

end RenderContext

end TagTemplate
