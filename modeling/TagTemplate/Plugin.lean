/-
  TagTemplate.Plugin
  ────────────────────────────────
  **PLUGINS.**

  A plugin may transform the nodes after parsing, the code after generating,
  or both.  Hooks run in the order of registration, each on the result of the
  one before; what a hook throws propagates.
-/
import TagTemplate.Journal
import TagTemplate.Node
import TagTemplate.Text.Upper

namespace TagTemplate

open Text

/-- A plugin: how it is written in an error message, and its hooks. -/
structure Plugin where
  /-- The written form. -/
  written : String
  /-- The hook on nodes. -/
  onNodes : Option (List Node → Traced (List Node)) := none
  /-- The hook on code. -/
  onCode : Option (String → Traced String) := none

/-! ## §1. The pipelines. -/

/-- Apply every hook on nodes in order. -/
def runNodePlugins (plugins : List Plugin) (nodes : List Node) : Traced (List Node) :=
  plugins.foldlM (fun nodes p =>
    match p.onNodes with
    | some hook => hook nodes
    | none => pure nodes) nodes

/-- Apply every hook on code in order. -/
def runCodePlugins (plugins : List Plugin) (code : String) : Traced String :=
  plugins.foldlM (fun code p =>
    match p.onCode with
    | some hook => hook code
    | none => pure code) code

/-! ## §2. A stock of plugins. -/

namespace Plugin

/-- Writes every literal in capitals. -/
def upper : Plugin where
  written := "<plugin upper>"
  onNodes := some fun nodes => pure (nodes.map fun
    | .literal value => .literal (Text.upper value)
    | node => node)

/-- Puts other nodes in place of the template's. -/
def replace (nodes : List Node) : Plugin where
  written := "<plugin replace>"
  onNodes := some fun _ => pure nodes

/-- Puts nodes before the template's. -/
def inject (nodes : List Node) : Plugin where
  written := "<plugin inject>"
  onNodes := some fun rest => pure (nodes ++ rest)

/-- Turns the nodes around. -/
def reverse : Plugin where
  written := "<plugin reverse>"
  onNodes := some fun nodes => pure nodes.reverse

/-- Fails on nodes. -/
def broken (message : String) : Plugin where
  written := "<plugin broken>"
  onNodes := some fun _ => throw (.script "RuntimeError" message)

/-- Appends text to the code. -/
def appendCode (text : String) : Plugin where
  written := "<plugin append_code>"
  onCode := some fun code => pure (code ++ text)

/-- Replaces text in the code. -/
def replaceCode (old new : String) : Plugin where
  written := "<plugin replace_code>"
  onCode := some fun code => pure (replaced code old new)

/-- Fails on code. -/
def brokenCode (message : String) : Plugin where
  written := "<plugin broken_code>"
  onCode := some fun _ => throw (.script "RuntimeError" message)

/-- Notes the number of nodes and the number of lines. -/
def recorder (label : String) : Plugin where
  written := "<plugin recorder>"
  onNodes := some fun nodes => do
    leaveNote ⟨"ast", label, nodes.length⟩
    pure nodes
  onCode := some fun code => do
    leaveNote ⟨"code", label, newlineCount code⟩
    pure code

/-- Does nothing. -/
def idle : Plugin where
  written := "<plugin none>"

end Plugin

end TagTemplate
