/-
  TagTemplate.Code.Body
  ────────────────────────────────
  **THE BODY OF A RENDER FUNCTION.**

  The emitted lines stand between a preamble, which defines what template
  code may call, and a final `return`.  With debugging on they are wrapped in
  a `try`, so that a failure is reported with the line of the last tag that
  started.  `wrapFunction` puts the body into the function itself.
-/
import TagTemplate.Code.Emitter
import TagTemplate.Text.Quoted

namespace TagTemplate

open Text

/-! ## §1. The lines around the program. -/

/-- The lines before the program: the configured header, the functions a template may call, and the
state of the render. -/
def preamble (settings : CodeSettings) (source : String) : List String :=
  lines settings.header ++
    ["def include(__kiln_name, __kiln_data=None):",
      "    return __kiln_env.render(__kiln_name, __kiln_data, options)",
      "def include_async(__kiln_name, __kiln_data=None):",
      "    return __kiln_env.render_async(__kiln_name, __kiln_data, options)",
      if settings.debug then "__kiln = __kiln_env.new_state(" ++ quoted source ++ ")"
      else "__kiln = __kiln_env.new_state()",
      "__kiln_append = __kiln.res.append",
      "def layout(__kiln_path, __kiln_data=None):",
      "    __kiln.layout = __kiln_path",
      "    __kiln.layout_data = __kiln_data or \x7b\x7d"]

/-- The lines that turn a failure into a report. -/
def reportLines : List String :=
  ["except __kiln_env.TemplateError:",
    "    raise",
    "except Exception as __kiln_exc:",
    "    raise __kiln_env.runtime_error(__kiln_exc, __kiln.source, __kiln.line, options.filepath) "
      ++ "from __kiln_exc"]

/-- The last line. -/
def returnLine : String := "return ''.join(__kiln.res)"

/-! ## §2. The body. -/

/-- The emitter after a whole program, from the preamble on. -/
def emitProgram (settings : CodeSettings) (source : String) (program : List Instruction) :
    Emitter :=
  let b := ({} : Builder).addAll (preamble settings source)
  let b := if settings.debug then (b.add "try:").indent else b
  (Emitter.emitAll settings.contextName { builder := b } program).closeAll

/-- The text of the body. -/
def bodyText (settings : CodeSettings) (e : Emitter) : String :=
  let b := e.builder
  let b := if settings.debug then { b with level := 0 }.addAll reportLines else b
  (b.add returnLine).text

/-- Write the body and leave records of what was wrong with its blocks. -/
def writeBody (settings : CodeSettings) (source : String) (program : List Instruction) :
    Traced String := do
  let e := emitProgram settings source program
  for _ in List.range e.unmatched do
    warn .emitter "Unmatched 'end' tag in template"
  for n in e.unclosed.reverse do
    debugRecord .emitter ("Closing " ++ toString n ++ " unterminated block(s)")
  return bodyText settings e

/-! ## §3. The function. -/

/-- The name of a render function. -/
def renderName : String := "__kiln_render"

/-- A body as a render function: every line that is not empty goes four spaces to the right. -/
def wrapFunction (body : String) (asyncMode : Bool) (contextName : String) : String :=
  let header :=
    (if asyncMode then "async def " else "def ") ++ renderName ++ "(" ++ contextName ++ ", options):\n"
  let moved := (splitOn '\n' body.toList).map fun l => if l.isEmpty then l else "    ".toList ++ l
  header ++ String.ofList (joinWith ['\n'] moved)

end TagTemplate
