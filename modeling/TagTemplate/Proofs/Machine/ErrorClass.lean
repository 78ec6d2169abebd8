/-
  TagTemplate.Proofs.Machine.ErrorClass
  ────────────────────────────────
  **WHICH CLASSES OF ERRORS ARE BELOW OTHERS.**

  Classes are names, and any name may be asked for.  What is below a class is
  found from the table: a list of names that holds, with the class directly
  above a class, that class too, holds all that is below one of its names
  (`mem_of_isBelow`).
-/
import TagTemplate.Machine.ErrorClass
import TagTemplate.Proofs.Lookup

namespace TagTemplate.Machine.ErrorClass

/-! ## §1. Lists of classes. -/

/-- Whether a list of classes holds all classes directly below one of them. -/
def isClosed (classes : List String) : Bool :=
  table.all fun e => !classes.contains e.2 || classes.contains e.1

/-- **What is below a class of such a list is in it.** -/
theorem mem_of_isBelow (classes : List String) (hclosed : isClosed classes = true)
    {name other : String} (hother : other ∈ classes) (h : isBelow name other = true) :
    name ∈ classes := by
  have hpath : ∀ (fuel : Nat) (name : String), other ∈ pathUp fuel name → name ∈ classes := by
    intro fuel
    induction fuel with
    | zero =>
        intro name hname
        rw [List.mem_singleton.mp hname] at hother
        exact hother
    | succ fuel ih =>
        intro name hname
        rw [pathUp] at hname
        cases hparent : table.lookup name with
        | none =>
            rw [hparent] at hname
            rw [List.mem_singleton.mp hname] at hother
            exact hother
        | some parent =>
            rw [hparent] at hname
            rcases List.mem_cons.mp hname with rfl | hname
            · exact hother
            · have hin := ih parent hname
              have hentry := List.all_eq_true.mp hclosed _ (mem_of_lookup hparent)
              simpa [hin] using hentry
  exact hpath _ name (List.contains_iff_mem.mp h)

/-! ## §2. The classes of the library. -/

/-- The classes of failures of a template. -/
def failures : List String := ["TemplateRuntimeError", "UndefinedError", "IncludeDepthError"]

/-- The classes of the library. -/
def libraryClasses : List String :=
  ["TemplateError", "ConfigurationError", "TemplateNotFoundError", "TemplateSyntaxError"] ++ failures

theorem isBelow_failure {name : String} (h : isBelow name "TemplateRuntimeError" = true) :
    isBelow name "TemplateError" = true := by
  have hname := mem_of_isBelow failures (by decide +kernel) (by decide) h
  simp only [failures, List.mem_cons, List.not_mem_nil, or_false] at hname
  rcases hname with rfl | rfl | rfl <;> decide +kernel

/-- No error of the library ends a walk. -/
theorem isBelow_stop {name : String} (h : isBelow name "TemplateError" = true) :
    isBelow name "StopIteration" = false := by
  have hname := mem_of_isBelow libraryClasses (by decide +kernel) (by decide) h
  simp only [libraryClasses, failures, List.mem_append, List.mem_cons, List.not_mem_nil, or_false]
    at hname
  rcases hname with (rfl | rfl | rfl | rfl) | rfl | rfl | rfl <;> decide +kernel

end TagTemplate.Machine.ErrorClass
