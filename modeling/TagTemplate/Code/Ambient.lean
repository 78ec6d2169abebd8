/-
  TagTemplate.Code.Ambient
  ────────────────────────────────
  **BARE NAMES THAT THE CONTEXT SUPPLIES.**

  A name is free when the code reads it somewhere, binds it nowhere, and
  neither the script language nor the render function provides it.  Every
  reading of a free name becomes a choice: its entry of the context, if there
  is one, else the name itself.

  The changed code is printed from its tree.  Code that has no tree, or no
  free names, stays as it is, character for character.
-/
import TagTemplate.Journal
import TagTemplate.Script.Builtins
import TagTemplate.Script.Listing
import TagTemplate.Script.Names
import TagTemplate.Script.Parse.Stmt
import TagTemplate.Script.Substitution

namespace TagTemplate

open Script

/-! ## §1. Free names. -/

/-- Whether a name may be looked up in the context. -/
def mayBeAmbient (contextName name : String) : Bool :=
  name != contextName && !isBuiltin name && !providedNames.contains name
    && !name.startsWith reservedStart

/-- The names of a program that the context may supply, in ascending order. -/
def freeNames (t : Tree) (contextName : String) : List String :=
  let bound := boundNames t
  let free := (readNames t).filter fun n => !bound.contains n && mayBeAmbient contextName n
  (free.mergeSort (fun a b => a ≤ b)).eraseReps

/-! ## §2. The substitution. -/

/-- The entry of the context if it has one, else the name. -/
def ambientLookup (contextName name : String) : Expr :=
  let key := Expr.constant (.str name false)
  let context := Expr.name contextName .load
  .ifElse (.compare key [.mk .member context]) (.subscript context key) (.name name .load)

/-- A program whose free names are looked up in the context. -/
def bindFree (contextName : String) (free : List String) (t : Tree) : Tree :=
  Substitution.block
    (fun n => if free.contains n then ambientLookup contextName n else .name n .load) t

/-- What is logged about the names that are bound. -/
def bindingText (contextName : String) (free : List String) : String :=
  "Binding " ++ toString free.length ++ " names to " ++ Text.quoted contextName ++ ": "
    ++ ", ".intercalate free

/-- Code whose free names are looked up in the context. -/
def bindAmbient (contextName code : String) : Traced String := do
  match parseTree code with
  | .error _ =>
    warn .ambient "Ambient scope skipped"
    return code
  | .ok t =>
    let free := freeNames t contextName
    if free.isEmpty then return code
    else
      debugRecord .ambient (bindingText contextName free)
      let d := Listing.program (bindFree contextName free t)
      if d.sound then return d.text ++ "\n"
      else throw (.script "ValueError" "Unable to avoid backslash in f-string expression part")

end TagTemplate
